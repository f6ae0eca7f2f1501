import SketchBuild.Proofs.Flags.Prefixed

/-! Whether a scan for prefixes replaces a reference depends only on the arguments before it. So the
references that are replaced can be counted argument by argument, and those of the arguments that
took the place of a reference can be counted apart from the arguments behind it. -/

namespace SketchBuild.Flags

inductive Phase where
  | off
  | on
  | value
  deriving DecidableEq

def Phase.of (active : Option Text) : Phase := if active.isSome then .on else .off

def Move.phase : Move → Phase
  | .setPrefix _ withNext => if withNext then .value else .on
  | .replace _ withNext => if withNext then .value else .on
  | .keep => .off

def Phase.next (argument : Text) : Phase → Phase
  | .off => (move none argument (some [])).phase
  | .on => (move (some []) argument (some [])).phase
  | .value => .on

def Opens (d : Disk) (base argument : Text) : Prop :=
  (expand d base [argument]).value ≠ [argument]

/-- A scan in a phase goes over some arguments and the ones that take their place; it ends in the
last phase and replaces `n` references. -/
inductive Runs (d : Disk) (base : Text) : Phase → List Text → Phase → Nat → Prop
  | nil {phase : Phase} : Runs d base phase [] phase 0
  | step {phase last : Phase} {argument : Text} {rest : List Text} {n : Nat} :
      ¬(phase = .on ∧ Opens d base argument) → Runs d base (phase.next argument) rest last n →
      Runs d base phase (argument :: rest) last n
  | splice {mid last : Phase} {argument : Text} {rest : List Text} {n m : Nat} :
      Opens d base argument → Runs d base .on (expand d base [argument]).value mid n →
      Runs d base mid rest last m → Runs d base .on (argument :: rest) last (n + m + 1)

variable {d : Disk} {base : Text}

lemma Runs.append {phase mid last : Phase} {arguments rest : List Text} {n m : Nat}
    (h : Runs d base phase arguments mid n) (hr : Runs d base mid rest last m) :
    Runs d base phase (arguments ++ rest) last (n + m) := by
  induction h with
  | nil =>
    rw [Nat.zero_add]
    exact hr
  | step hnot _ ih => exact .step hnot (ih hr)
  | @splice _ _ _ _ n k hopens hnested _ _ ih =>
    have h := Runs.splice hopens hnested (ih hr)
    rwa [← Nat.add_assoc, Nat.add_right_comm] at h

lemma Runs.exists_of_append {phase last : Phase} {arguments rest : List Text} {n : Nat}
    (h : Runs d base phase (arguments ++ rest) last n) :
    ∃ mid k m, Runs d base phase arguments mid k ∧ Runs d base mid rest last m ∧ n = k + m := by
  induction arguments generalizing phase n with
  | nil => exact ⟨phase, 0, n, .nil, h, (Nat.zero_add n).symm⟩
  | cons argument arguments ih =>
    rw [List.cons_append] at h
    cases h with
    | step hnot h =>
      obtain ⟨mid, k, m, hk, hm, rfl⟩ := ih h
      exact ⟨mid, k, m, .step hnot hk, hm, rfl⟩
    | splice hopens hnested h =>
      obtain ⟨mid, k, m, hk, hm, rfl⟩ := ih h
      exact ⟨mid, _, m, .splice hopens hnested hk, hm, by omega⟩

lemma Runs.unique {phase last last' : Phase} {arguments : List Text} {n n' : Nat}
    (h : Runs d base phase arguments last n) (h' : Runs d base phase arguments last' n') :
    last' = last ∧ n' = n := by
  induction h generalizing last' n' with
  | nil =>
    cases h'
    exact ⟨rfl, rfl⟩
  | step hnot _ ih =>
    cases h' with
    | step _ h' => exact ih h'
    | splice hopens => exact (hnot ⟨rfl, hopens⟩).elim
  | splice hopens _ _ ihNested ih =>
    cases h' with
    | step hnot => exact (hnot ⟨rfl, hopens⟩).elim
    | splice _ hnested h' =>
      obtain ⟨rfl, rfl⟩ := ihNested hnested
      obtain ⟨rfl, rfl⟩ := ih h'
      exact ⟨rfl, rfl⟩

lemma runs_nil {phase last : Phase} {n : Nat} :
    Runs d base phase [] last n ↔ last = phase ∧ n = 0 := by
  constructor
  · intro h
    cases h
    exact ⟨rfl, rfl⟩
  · rintro ⟨rfl, rfl⟩
    exact .nil

def Takes (d : Disk) (base : Text) (active : Option Text) (arguments : List Text) (n : Nat) : Prop :=
  ∃ last, Runs d base (Phase.of active) arguments last n

lemma takes_nil (active : Option Text) : Takes d base active [] 0 := ⟨_, .nil⟩

lemma takes_splice {argument : Text} (h : Opens d base argument) (dir : Text) (rest : List Text)
    (n : Nat) :
    Takes d base (some dir) (argument :: rest) n ↔
      ∃ m, Takes d base (some dir) ((expand d base [argument]).value ++ rest) m ∧ n = m + 1 := by
  constructor
  · rintro ⟨last, hr⟩
    cases hr with
    | step hnot => exact (hnot ⟨rfl, h⟩).elim
    | splice _ hnested hr => exact ⟨_, ⟨last, hnested.append hr⟩, rfl⟩
  · rintro ⟨m, ⟨last, hr⟩, rfl⟩
    obtain ⟨mid, k, m, hk, hm, rfl⟩ := hr.exists_of_append
    exact ⟨last, .splice h hk hm⟩

def GoesOn (active : Option Text) (argument : Text) (rest : List Text) (next : Option Text)
    (left : List Text) : Prop :=
  (left = rest ∧ Phase.of next = (Phase.of active).next argument) ∨
    (∃ value, rest = value :: left ∧ Phase.of next = .on ∧
      (Phase.of active).next argument = .value) ∨
    (rest = [] ∧ left = [])

lemma GoesOn.takes {active next : Option Text} {argument : Text} {rest left : List Text}
    (h : GoesOn active argument rest next left)
    (hnot : ¬(active.isSome = true ∧ Opens d base argument)) (n : Nat) :
    Takes d base active (argument :: rest) n ↔ Takes d base next left n := by
  have hphase : ¬(Phase.of active = .on ∧ Opens d base argument) := by
    rintro ⟨hon, hopens⟩
    refine hnot ⟨?_, hopens⟩
    cases active with
    | none => simp [Phase.of] at hon
    | some dir => rfl
  have hstep : Takes d base active (argument :: rest) n ↔
      ∃ last, Runs d base ((Phase.of active).next argument) rest last n := by
    constructor
    · rintro ⟨last, hr⟩
      generalize hp : Phase.of active = phase at hr hphase
      cases hr with
      | step _ hr => exact ⟨last, hr⟩
      | splice hopens => exact (hphase ⟨rfl, hopens⟩).elim
    · rintro ⟨last, hr⟩
      exact ⟨last, .step hphase hr⟩
  rw [hstep, Takes]
  rcases h with ⟨rfl, hp⟩ | ⟨value, rfl, hp, hv⟩ | ⟨rfl, rfl⟩
  · rw [hp]
  · rw [hp, hv]
    constructor
    · rintro ⟨last, hr⟩
      cases hr with
      | step _ hr => exact ⟨last, hr⟩
    · rintro ⟨last, hr⟩
      exact ⟨last, .step (by simp) hr⟩
  · simp only [runs_nil, exists_eq_left]

lemma cases_of_map_snd {p q : Option (Text × Bool)} (h : p.map Prod.snd = q.map Prod.snd) :
    (p = none ∧ q = none) ∨ ∃ v v' withNext, p = some (v, withNext) ∧ q = some (v', withNext) := by
  cases p with
  | none => exact Or.inl ⟨rfl, (Option.map_eq_none_iff.mp h.symm)⟩
  | some p =>
    obtain ⟨q, rfl, hq⟩ := Option.map_eq_some_iff.mp h.symm
    exact Or.inr ⟨p.1, q.1, p.2, rfl, by rw [← hq]⟩

lemma phase_move (active : Option Text) (argument value : Text) :
    (move active argument (some value)).phase = (Phase.of active).next argument := by
  have hvalue : ∀ flag : Text, (value? flag argument (some value)).map Prod.snd =
      (value? flag argument (some [])).map Prod.snd := by
    intro flag
    rw [value?, value?]
    split <;> rfl
  have hmove : (Phase.of active).next argument =
      (move (active.map fun _ => []) argument (some [])).phase := by
    cases active <;> rfl
  rw [hmove]
  unfold move
  rcases cases_of_map_snd (hvalue prefixFlag) with ⟨hp, hp'⟩ | ⟨v, v', withNext, hp, hp'⟩
  · rw [hp, hp']
    cases active with
    | none => rfl
    | some dir =>
      rcases cases_of_map_snd (hvalue beforeFlag) with ⟨hb, hb'⟩ | ⟨v, v', withNext, hb, hb'⟩
      · rw [hb, hb']
        rcases cases_of_map_snd (hvalue afterFlag) with ⟨ha, ha'⟩ | ⟨v, v', withNext, ha, ha'⟩
        · rw [ha, ha']
          rfl
        · rw [ha, ha']
          rfl
      · rw [hb, hb']
        rfl
  · rw [hp, hp']
    cases active <;> rfl

lemma exists_of_move_replace {active next : Option Text} {argument joined : Text} {withNext : Bool}
    (h : move active argument next = .replace joined withNext) : ∃ dir, active = some dir := by
  cases active with
  | none =>
    unfold move at h
    cases hp : value? prefixFlag argument next <;> simp [hp] at h
  | some dir => exact ⟨dir, rfl⟩

lemma GoesOn.of_move {active next : Option Text} {argument : Text} {rest : List Text} {m : Move}
    {withNext : Bool} (hm : move active argument rest.head? = m)
    (hphase : m.phase = if withNext then .value else .on) (hnext : Phase.of next = .on) :
    GoesOn active argument rest next (if withNext then rest.tail else rest) := by
  cases rest with
  | nil => exact Or.inr (Or.inr ⟨rfl, ite_self []⟩)
  | cons value left =>
    have hvalue := phase_move active argument value
    rw [List.head?_cons] at hm
    rw [hm, hphase] at hvalue
    cases withNext with
    | true => exact Or.inr (Or.inl ⟨value, rfl, hnext, hvalue.symm⟩)
    | false => exact Or.inl ⟨rfl, hnext.trans hvalue⟩

lemma scanPrefixes_step (cwd base : Text) (active : Option Text) (argument : Text)
    (rest : List Text) :
    (∃ dir name, active = some dir ∧ reference? argument = some name) ∨
      ∃ (next : Option Text) (left : List Text) (f : List Text → List Text), left <:+ rest ∧
        GoesOn active argument rest next left ∧
        ∀ (d : Disk) (splice : Text → List Text → Noted (Option (List Text))), d.cwd = cwd →
          (scanPrefixes d base splice active (argument :: rest)).value =
            (scanPrefixes d base splice next left).value.map f := by
  by_cases href : active = none ∨ reference? argument = none
  · refine Or.inr ?_
    cases hm : move active argument rest.head? with
    | setPrefix value withNext =>
      refine ⟨some (prefixDir cwd base value), _, id, left_suffix rest withNext,
        .of_move hm rfl rfl, ?_⟩
      rintro d splice rfl
      rw [scanPrefixes_setPrefix href hm, Option.map_id]
      rfl
    | replace joined withNext =>
      obtain ⟨dir, rfl⟩ := exists_of_move_replace hm
      refine ⟨some dir, _, (joined :: ·), left_suffix rest withNext, .of_move hm rfl rfl, ?_⟩
      rintro d splice rfl
      rw [scanPrefixes_replace href hm, value_emit]
    | keep =>
      refine ⟨none, rest, (argument :: ·), List.suffix_rfl, ?_, ?_⟩
      · cases rest with
        | nil => exact Or.inr (Or.inr ⟨rfl, rfl⟩)
        | cons value left =>
          have hphase := phase_move active argument value
          rw [List.head?_cons] at hm
          rw [hm] at hphase
          exact Or.inl ⟨rfl, hphase⟩
      · rintro d splice rfl
        rw [scanPrefixes_keep href hm, value_emit]
  · rw [not_or] at href
    obtain ⟨dir, hdir⟩ := Option.ne_none_iff_exists'.mp href.1
    obtain ⟨name, hname⟩ := Option.ne_none_iff_exists'.mp href.2
    exact Or.inl ⟨dir, name, hdir, hname⟩

lemma phase_next_reference {argument name : Text} (h : reference? argument = some name) :
    Phase.next argument .on = .off := by
  rw [Phase.next, move_of_reference? h, Move.phase]

lemma not_opens_of_reference? {argument : Text} (h : reference? argument = none) :
    ¬Opens d base argument := by
  have hs : IsSettled d base argument := by
    intro name hname
    simp [h] at hname
  intro hopens
  exact hopens (value_expand_settled fun a ha => by rwa [List.mem_singleton.mp ha])

lemma scanPrefixes_takes (d : Disk) (base : Text) (active : Option Text) (argument : Text)
    (rest : List Text) :
    (∃ dir, active = some dir ∧ Opens d base argument ∧
        ∀ splice : Text → List Text → Noted (Option (List Text)),
          (scanPrefixes d base splice active (argument :: rest)).value =
            (splice dir ((expand d base [argument]).value ++ rest)).value) ∨
      ∃ (next : Option Text) (left : List Text) (f : List Text → List Text), left <:+ rest ∧
        (∀ n, Takes d base active (argument :: rest) n ↔ Takes d base next left n) ∧
        ∀ splice : Text → List Text → Noted (Option (List Text)),
          (scanPrefixes d base splice active (argument :: rest)).value =
            (scanPrefixes d base splice next left).value.map f := by
  by_cases hsplice : active.isSome = true ∧ Opens d base argument
  · obtain ⟨hactive, hopens⟩ := hsplice
    obtain ⟨dir, rfl⟩ := Option.isSome_iff_exists.mp hactive
    refine Or.inl ⟨dir, rfl, hopens, ?_⟩
    intro splice
    cases hr : reference? argument with
    | none => exact (not_opens_of_reference? hr hopens).elim
    | some name => rw [value_scanPrefixes_reference hr, if_neg hopens]
  · refine Or.inr ?_
    rcases scanPrefixes_step d.cwd base active argument rest with
      ⟨dir, name, rfl, hr⟩ | ⟨next, left, f, hl, hgoes, hstep⟩
    · have hkept : (expand d base [argument]).value = [argument] := by
        by_contra hopens
        exact hsplice ⟨rfl, hopens⟩
      have hgoes : GoesOn (some dir) argument rest none rest :=
        Or.inl ⟨rfl, (phase_next_reference hr).symm⟩
      refine ⟨none, rest, (argument :: ·), List.suffix_rfl, hgoes.takes hsplice, ?_⟩
      intro splice
      rw [value_scanPrefixes_reference hr, if_pos hkept]
    · exact ⟨next, left, f, hl, hgoes.takes hsplice, fun splice => hstep d splice rfl⟩

lemma exists_takes_of_scan {splice : Text → List Text → Noted (Option (List Text))}
    (hsplice : ∀ dir arguments out, (splice dir arguments).value = some out →
      ∃ n, Takes d base (some dir) arguments n)
    (k : Nat) (active : Option Text) {arguments out : List Text} (hk : arguments.length ≤ k)
    (h : (scanPrefixes d base splice active arguments).value = some out) :
    ∃ n, Takes d base active arguments n := by
  induction k generalizing active arguments out with
  | zero =>
    obtain rfl : arguments = [] := List.eq_nil_of_length_eq_zero (by omega)
    exact ⟨0, takes_nil active⟩
  | succ k ih =>
    cases arguments with
    | nil => exact ⟨0, takes_nil active⟩
    | cons argument rest =>
      simp only [List.length_cons] at hk
      rcases scanPrefixes_takes d base active argument rest with
        ⟨dir, rfl, hopens, hscan⟩ | ⟨next, left, f, hl, htakes, hscan⟩
      · rw [hscan] at h
        obtain ⟨n, hn⟩ := hsplice dir _ out h
        exact ⟨n + 1, (takes_splice hopens dir rest _).mpr ⟨n, hn, rfl⟩⟩
      · rw [hscan] at h
        obtain ⟨tail, ht, _⟩ := Option.map_eq_some_iff.mp h
        have hlen := hl.length_le
        obtain ⟨n, hn⟩ := ih next (by omega) ht
        exact ⟨n, (htakes n).mpr hn⟩

lemma exists_takes (n : Nat) (active : Option Text) {arguments out : List Text}
    (h : (resolveWithin d base n active arguments).value = some out) :
    ∃ m, Takes d base active arguments m := by
  induction n generalizing active arguments out with
  | zero => exact exists_takes_of_scan (by simp) _ active (Nat.le_refl _) h
  | succ n ih =>
    exact exists_takes_of_scan (fun dir _ _ hout => ih (some dir) hout) _ active (Nat.le_refl _) h

lemma isSome_scan_of_takes {splice : Text → List Text → Noted (Option (List Text))} {n : Nat}
    (hsplice : ∀ dir arguments m, Takes d base (some dir) arguments m → m < n →
      (splice dir arguments).value.isSome = true)
    (k : Nat) (active : Option Text) {arguments : List Text} {m : Nat}
    (hk : arguments.length ≤ k) (h : Takes d base active arguments m) (hm : m ≤ n) :
    (scanPrefixes d base splice active arguments).value.isSome = true := by
  induction k generalizing active arguments m with
  | zero =>
    obtain rfl : arguments = [] := List.eq_nil_of_length_eq_zero (by omega)
    simp [scanPrefixes]
  | succ k ih =>
    cases arguments with
    | nil => simp [scanPrefixes]
    | cons argument rest =>
      simp only [List.length_cons] at hk
      rcases scanPrefixes_takes d base active argument rest with
        ⟨dir, rfl, hopens, hscan⟩ | ⟨next, left, f, hl, htakes, hscan⟩
      · obtain ⟨m, hm', rfl⟩ := (takes_splice hopens dir rest m).mp h
        rw [hscan]
        exact hsplice dir _ m hm' (by omega)
      · have hlen := hl.length_le
        rw [hscan, Option.isSome_map]
        exact ih next (by omega) ((htakes m).mp h) hm

lemma isSome_resolveWithin {n m : Nat} {active : Option Text} {arguments : List Text}
    (h : Takes d base active arguments m) (hm : m ≤ n) :
    (resolveWithin d base n active arguments).value.isSome = true := by
  induction n generalizing m active arguments with
  | zero => exact isSome_scan_of_takes (by simp) _ active (Nat.le_refl _) h hm
  | succ n ih =>
    refine isSome_scan_of_takes ?_ _ active (Nat.le_refl _) h hm
    intro dir arguments m h hm
    exact ih h (by omega)

end SketchBuild.Flags

import SketchBuild.Flags.Prefixed
import SketchBuild.Proofs.Flags.Response
import SketchBuild.Proofs.Text.Strip

namespace SketchBuild.Flags

variable {d : Disk} {base : Text}

/-- Whether no argument sets a prefix: one that could is the last and has no value. -/
def HasNoPrefix : List Text → Prop
  | [] => True
  | argument :: rest => value? prefixFlag argument rest.head? = none ∧ HasNoPrefix rest

lemma attached?_eq_none_iff {flag argument : Text} (h : argument ≠ flag) :
    attached? flag argument = none ↔ ¬flag <+: argument := by
  refine ⟨?_, fun hprefix => by rw [attached?, Text.dropPrefix?_of_not_prefix hprefix]⟩
  rintro hnone ⟨value, rfl⟩
  rw [attached?, Text.dropPrefix?_append] at hnone
  cases value with
  | nil => exact h (List.append_nil flag)
  | cons c value =>
    split at hnone
    · simp at hnone
    · simp at hnone
    · rename_i hnot
      exact hnot c value rfl

lemma value?_eq_none_iff {flag argument : Text} {next : Option Text} :
    value? flag argument next = none ↔
      (flag <+: argument → argument = flag ∧ next = none) := by
  by_cases h : argument = flag
  · subst h
    simp [value?]
  · rw [value?, if_neg h, Option.map_eq_none_iff, attached?_eq_none_iff h]
    exact ⟨fun hnot hprefix => (hnot hprefix).elim, fun hbare hprefix => h (hbare hprefix).1⟩

lemma value?_prefixFlag_congr {argument : Text} {next next' : Option Text}
    (h : value? prefixFlag argument next = none) (hn : next = none → next' = none) :
    value? prefixFlag argument next' = none := by
  rw [value?_eq_none_iff] at h ⊢
  exact fun hprefix => (h hprefix).imp_right hn

lemma value?_of_dropPrefix {flag argument : Text} {next : Option Text}
    (h : Text.dropPrefix? flag argument = none) : value? flag argument next = none := by
  rw [value?_eq_none_iff]
  rintro ⟨value, rfl⟩
  simp [Text.dropPrefix?_append] at h

lemma dropPrefix_of_head {p s : Text} (hp : p ≠ []) (h : s.head? ≠ p.head?) :
    Text.dropPrefix? p s = none := by
  cases p with
  | nil => exact (hp rfl).elim
  | cons a p =>
    cases s with
    | nil => rfl
    | cons b s =>
      have hab : a ≠ b := fun hab => h (by simp [hab])
      simp [Text.dropPrefix?, hab]

lemma value?_of_head {flag argument : Text} {next : Option Text} (hf : flag.head? = some '-')
    (h : argument.head? ≠ some '-') : value? flag argument next = none := by
  have hnil : flag ≠ [] := by
    rintro rfl
    simp at hf
  exact value?_of_dropPrefix (dropPrefix_of_head hnil (by rwa [hf]))

lemma value?_prefixFlag_of_head {argument : Text} {next : Option Text}
    (h : argument.head? ≠ some '-') : value? prefixFlag argument next = none :=
  value?_of_head rfl h

lemma dropPrefix_before (name : Text) : Text.dropPrefix? prefixFlag ("-I" ++ name) = none := rfl

lemma dropPrefix_after (name : Text) :
    Text.dropPrefix? prefixFlag ("-idirafter" ++ name) = none := rfl

def IsJoined (argument : Text) : Prop :=
  ∃ name, argument = "-I" ++ name ∨ argument = "-idirafter" ++ name

lemma IsJoined.value?_eq_none {argument : Text} (h : IsJoined argument) (next : Option Text) :
    value? prefixFlag argument next = none := by
  obtain ⟨name, rfl | rfl⟩ := h
  · exact value?_of_dropPrefix (dropPrefix_before name)
  · exact value?_of_dropPrefix (dropPrefix_after name)

lemma IsJoined.head {argument : Text} (h : IsJoined argument) : argument.head? = some '-' := by
  obtain ⟨name, rfl | rfl⟩ := h <;> rfl

@[simp] lemma value_emit (argument : Text) (rest : Noted (Option (List Text))) :
    (emit argument rest).value = rest.value.map (argument :: ·) := rfl

lemma move_cases (active : Option Text) (argument : Text) (next : Option Text) :
    (∃ value withNext, move active argument next = .setPrefix value withNext) ∨
      (∃ joined withNext, IsJoined joined ∧ move active argument next = .replace joined withNext) ∨
      (value? prefixFlag argument next = none ∧ move active argument next = .keep) := by
  cases hp : value? prefixFlag argument next with
  | some v => exact Or.inl ⟨v.1, v.2, by simp [move, hp]⟩
  | none =>
    cases active with
    | none => exact Or.inr (Or.inr ⟨rfl, by simp [move, hp]⟩)
    | some dir =>
      cases hb : value? beforeFlag argument next with
      | some v =>
        exact Or.inr (Or.inl ⟨_, v.2, ⟨joinPrefix dir v.1, Or.inl rfl⟩, by simp [move, hp, hb]⟩)
      | none =>
        cases ha : value? afterFlag argument next with
        | some v =>
          exact Or.inr (Or.inl ⟨_, v.2, ⟨joinPrefix dir v.1, Or.inr rfl⟩,
            by simp [move, hp, hb, ha]⟩)
        | none => exact Or.inr (Or.inr ⟨rfl, by simp [move, hp, hb, ha]⟩)

lemma head_of_reference? {argument name : Text} (h : reference? argument = some name) :
    argument.head? = some '@' := by
  by_contra hne
  rw [reference?_eq_none hne] at h
  simp at h

lemma move_of_reference? {argument name : Text} (h : reference? argument = some name)
    (active next : Option Text) : move active argument next = .keep := by
  have hhead : argument.head? ≠ some '-' := by
    rw [head_of_reference? h]
    decide
  unfold move
  rw [value?_of_head rfl hhead, value?_of_head rfl hhead, value?_of_head rfl hhead]
  cases active <;> rfl

lemma left_suffix (rest : List Text) (withNext : Bool) :
    (if withNext then rest.tail else rest) <:+ rest := by
  cases withNext
  · exact List.suffix_rfl
  · exact List.tail_suffix rest

section Scan

variable {splice : Text → List Text → Noted (Option (List Text))} {active : Option Text}
  {argument : Text} {rest : List Text}

lemma scanPrefixes_setPrefix (hnot : active = none ∨ reference? argument = none) {value : Text}
    {withNext : Bool} (hm : move active argument rest.head? = .setPrefix value withNext) :
    scanPrefixes d base splice active (argument :: rest) =
      scanPrefixes d base splice (some (prefixDir d.cwd base value))
        (if withNext then rest.tail else rest) := by
  rw [scanPrefixes.eq_def]
  dsimp only
  split
  · rename_i hr
    rcases hnot with hnot | hnot
    · simp at hnot
    · simp [hnot] at hr
  · rw [hm]
    cases withNext <;> cases rest <;> rfl

lemma scanPrefixes_replace (hnot : active = none ∨ reference? argument = none) {joined : Text}
    {withNext : Bool} (hm : move active argument rest.head? = .replace joined withNext) :
    scanPrefixes d base splice active (argument :: rest) =
      emit joined (scanPrefixes d base splice active (if withNext then rest.tail else rest)) := by
  rw [scanPrefixes.eq_def]
  dsimp only
  split
  · rename_i hr
    rcases hnot with hnot | hnot
    · simp at hnot
    · simp [hnot] at hr
  · rw [hm]
    cases withNext <;> cases rest <;> rfl

lemma scanPrefixes_keep (hnot : active = none ∨ reference? argument = none)
    (hm : move active argument rest.head? = .keep) :
    scanPrefixes d base splice active (argument :: rest) =
      emit argument (scanPrefixes d base splice none rest) := by
  rw [scanPrefixes.eq_def]
  dsimp only
  split
  · rename_i hr
    rcases hnot with hnot | hnot
    · simp at hnot
    · simp [hnot] at hr
  · rw [hm]

end Scan

lemma value_scanPrefixes_reference {dir name argument : Text}
    (hr : reference? argument = some name)
    (splice : Text → List Text → Noted (Option (List Text))) (rest : List Text) :
    (scanPrefixes d base splice (some dir) (argument :: rest)).value =
      if (expand d base [argument]).value = [argument] then
        (scanPrefixes d base splice none rest).value.map (argument :: ·)
      else (splice dir ((expand d base [argument]).value ++ rest)).value := by
  rw [scanPrefixes.eq_def]
  dsimp only
  split
  · rename_i hdir _
    obtain rfl := Option.some.inj hdir
    rw [Noted.value_bind]
    split <;> rfl
  · rename_i hnot
    exact (hnot dir name rfl hr).elim

lemma value_scanPrefixes_cons (d : Disk) (base : Text)
    (splice : Text → List Text → Noted (Option (List Text))) (active : Option Text)
    (argument : Text) (rest : List Text) :
    (∃ dir, active = some dir ∧ (expand d base [argument]).value ≠ [argument] ∧
        (scanPrefixes d base splice active (argument :: rest)).value =
          (splice dir ((expand d base [argument]).value ++ rest)).value) ∨
      (value? prefixFlag argument rest.head? = none ∧
        (scanPrefixes d base splice active (argument :: rest)).value =
          (scanPrefixes d base splice none rest).value.map (argument :: ·)) ∨
      (∃ dir left, left <:+ rest ∧
        (scanPrefixes d base splice active (argument :: rest)).value =
          (scanPrefixes d base splice (some dir) left).value) ∨
      (∃ joined left, IsJoined joined ∧ left <:+ rest ∧
        (scanPrefixes d base splice active (argument :: rest)).value =
          (scanPrefixes d base splice active left).value.map (joined :: ·)) := by
  by_cases hnot : active = none ∨ reference? argument = none
  · rcases move_cases active argument rest.head? with ⟨value, withNext, hm⟩ |
      ⟨joined, withNext, hj, hm⟩ | ⟨hnone, hm⟩
    · refine Or.inr (Or.inr (Or.inl
        ⟨prefixDir d.cwd base value, _, left_suffix rest withNext, ?_⟩))
      rw [scanPrefixes_setPrefix hnot hm]
    · refine Or.inr (Or.inr (Or.inr ⟨joined, _, hj, left_suffix rest withNext, ?_⟩))
      rw [scanPrefixes_replace hnot hm, value_emit]
    · refine Or.inr (Or.inl ⟨hnone, ?_⟩)
      rw [scanPrefixes_keep hnot hm, value_emit]
  · rw [not_or] at hnot
    obtain ⟨dir, rfl⟩ := Option.ne_none_iff_exists'.mp hnot.1
    obtain ⟨name, hr⟩ := Option.ne_none_iff_exists'.mp hnot.2
    have hhead : argument.head? ≠ some '-' := by
      rw [head_of_reference? hr]
      decide
    have hv : (scanPrefixes d base splice (some dir) (argument :: rest)).value = _ :=
      value_scanPrefixes_reference hr splice rest
    by_cases he : (expand d base [argument]).value = [argument]
    · rw [if_pos he] at hv
      exact Or.inr (Or.inl ⟨value?_prefixFlag_of_head hhead, hv⟩)
    · rw [if_neg he] at hv
      exact Or.inl ⟨dir, rfl, he, hv⟩

lemma HasNoPrefix.cons {argument : Text} {rest out : List Text}
    (h : value? prefixFlag argument rest.head? = none) (hout : HasNoPrefix out)
    (hrest : rest = [] → out = []) : HasNoPrefix (argument :: out) := by
  refine ⟨value?_prefixFlag_congr h ?_, hout⟩
  intro hr
  rw [hrest (List.head?_eq_none_iff.mp hr)]
  rfl

lemma scanPrefixes_hasNoPrefix {splice : Text → List Text → Noted (Option (List Text))}
    (hsplice : ∀ dir arguments out, (splice dir arguments).value = some out → HasNoPrefix out)
    (n : Nat) (active : Option Text) (arguments out : List Text) (hn : arguments.length ≤ n)
    (h : (scanPrefixes d base splice active arguments).value = some out) : HasNoPrefix out := by
  induction n generalizing active arguments out with
  | zero =>
    obtain rfl : arguments = [] := List.eq_nil_of_length_eq_zero (by omega)
    obtain rfl : [] = out := by simpa [scanPrefixes] using h
    trivial
  | succ n ih =>
    cases arguments with
    | nil =>
      obtain rfl : [] = out := by simpa [scanPrefixes] using h
      trivial
    | cons argument rest =>
      simp only [List.length_cons] at hn
      rcases value_scanPrefixes_cons d base splice active argument rest with
        ⟨dir, _, _, hv⟩ | ⟨hnone, hv⟩ | ⟨dir, left, hl, hv⟩ | ⟨joined, left, hj, hl, hv⟩
      · exact hsplice dir _ out (hv ▸ h)
      · rw [hv, Option.map_eq_some_iff] at h
        obtain ⟨tail, ht, rfl⟩ := h
        refine HasNoPrefix.cons hnone (ih _ _ _ (by omega) ht) ?_
        rintro rfl
        simpa [scanPrefixes] using ht.symm
      · have hlen := hl.length_le
        exact ih _ _ _ (by omega) (hv ▸ h)
      · have hlen := hl.length_le
        rw [hv, Option.map_eq_some_iff] at h
        obtain ⟨tail, ht, rfl⟩ := h
        exact ⟨hj.value?_eq_none _, ih _ _ _ (by omega) ht⟩

lemma resolveWithin_hasNoPrefix (n : Nat) (active : Option Text) (arguments out : List Text)
    (h : (resolveWithin d base n active arguments).value = some out) : HasNoPrefix out := by
  induction n generalizing active arguments out with
  | zero => exact scanPrefixes_hasNoPrefix (by simp) _ active arguments out le_rfl h
  | succ n ih =>
    exact scanPrefixes_hasNoPrefix (fun dir => ih (some dir)) _ active arguments out le_rfl h

lemma exists_scanPrefixes {splice : Text → List Text → Noted (Option (List Text))} (n : Nat)
    (active : Option Text) (arguments : List Text) (hn : arguments.length ≤ n)
    (hs : ∀ a ∈ arguments, IsSettled d base a) :
    ∃ out, (scanPrefixes d base splice active arguments).value = some out ∧
      ∀ a ∈ out, a ∈ arguments ∨ IsJoined a := by
  induction n generalizing active arguments with
  | zero =>
    obtain rfl : arguments = [] := List.eq_nil_of_length_eq_zero (by omega)
    exact ⟨[], by simp [scanPrefixes], by simp⟩
  | succ n ih =>
    cases arguments with
    | nil => exact ⟨[], by simp [scanPrefixes], by simp⟩
    | cons argument rest =>
      simp only [List.length_cons] at hn
      have hrest : ∀ a ∈ rest, IsSettled d base a := fun a ha => hs a (by simp [ha])
      rcases value_scanPrefixes_cons d base splice active argument rest with
        ⟨dir, _, he, _⟩ | ⟨_, hv⟩ | ⟨dir, left, hl, hv⟩ | ⟨joined, left, hj, hl, hv⟩
      · exact (he (value_expand_settled (by simpa using hs argument (by simp)))).elim
      · obtain ⟨out, hout, hmem⟩ := ih none rest (by omega) hrest
        refine ⟨argument :: out, by rw [hv, hout]; rfl, ?_⟩
        intro a ha
        rcases List.mem_cons.mp ha with rfl | ha
        · exact Or.inl (by simp)
        · exact (hmem a ha).imp_left fun h => by simp [h]
      · have hlen := hl.length_le
        obtain ⟨out, hout, hmem⟩ := ih (some dir) left (by omega) fun a ha =>
          hrest a (hl.subset ha)
        exact ⟨out, by rw [hv, hout], fun a ha => (hmem a ha).imp_left fun h => by simp [hl.subset h]⟩
      · have hlen := hl.length_le
        obtain ⟨out, hout, hmem⟩ := ih active left (by omega) fun a ha => hrest a (hl.subset ha)
        refine ⟨joined :: out, by rw [hv, hout]; rfl, ?_⟩
        intro a ha
        rcases List.mem_cons.mp ha with rfl | ha
        · exact Or.inr hj
        · exact (hmem a ha).imp_left fun h => by simp [hl.subset h]

lemma value_scanPrefixes_keep {splice : Text → List Text → Noted (Option (List Text))}
    {argument : Text} {rest : List Text} (h : value? prefixFlag argument rest.head? = none) :
    (scanPrefixes d base splice none (argument :: rest)).value =
      (scanPrefixes d base splice none rest).value.map (argument :: ·) := by
  have hm : move none argument rest.head? = .keep := by simp [move, h]
  rw [scanPrefixes_keep (Or.inl rfl) hm, value_emit]

lemma value_scanPrefixes_self {splice : Text → List Text → Noted (Option (List Text))}
    {arguments : List Text} (h : HasNoPrefix arguments) :
    (scanPrefixes d base splice none arguments).value = some arguments := by
  induction arguments with
  | nil => simp [scanPrefixes]
  | cons argument rest ih => rw [value_scanPrefixes_keep h.1, ih h.2, Option.map_some]

end SketchBuild.Flags

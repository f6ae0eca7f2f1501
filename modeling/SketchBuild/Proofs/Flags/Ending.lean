import Mathlib.Data.Set.Finite.List
import Mathlib.Order.WellFoundedSet
import SketchBuild.Proofs.Flags.Followed
import SketchBuild.Proofs.Flags.SpliceBound

/-! Following references ends, whatever the files hold. Replacing them behind a prefix ends where no file
leads back to itself: what takes the place of a reference is closer to the end of every chain of files
than the reference was, also where the arguments in it were cut off by the depth. -/

namespace SketchBuild.Flags

/-- The arguments that take the place of some arguments while some files are being read. Nothing bounds
the recursion but the rules themselves. -/
inductive Expands (d : Disk) (base : Text) : List Text → List Text → List Text → Prop
  | nil {reading : List Text} : Expands d base reading [] []
  | stay {reading rest out : List Text} {argument : Text} :
      Stays d base reading argument → Expands d base reading rest out →
      Expands d base reading (argument :: rest) (argument :: out)
  | follow {reading rest inner out : List Text} {argument name text : Text} :
      ¬Stays d base reading argument → reference? argument = some name →
      Storage.fileText? d (Path.resolve d.cwd base name) = some text →
      Expands d base (reading ++ [Path.normalize (Path.resolve d.cwd base name)])
        (Command.words text) inner →
      Expands d base reading rest out → Expands d base reading (argument :: rest) (inner ++ out)

structure Pass where
  done : List Text
  active : Option Text
  pending : List Text
  deriving DecidableEq

/-- One turn of the loop. A reference behind a prefix gives way to its arguments, and the loop looks at
these next. -/
def turn (d : Disk) (base : Text) : Pass → Pass
  | ⟨done, active, []⟩ => ⟨done, active, []⟩
  | ⟨done, active, argument :: rest⟩ =>
    if active.isSome ∧ (expand d base [argument]).value ≠ [argument] then
      ⟨done, active, (expand d base [argument]).value ++ rest⟩
    else match move active argument rest.head? with
      | .setPrefix value withNext =>
        ⟨done, some (prefixDir d.cwd base value), if withNext then rest.tail else rest⟩
      | .replace joined withNext => ⟨done ++ [joined], active, if withNext then rest.tail else rest⟩
      | .keep => ⟨done ++ [argument], none, rest⟩

def Ends (d : Disk) (base : Text) (start : Pass) (out : List Text) : Prop :=
  ∃ turns active, (turn d base)^[turns] start = ⟨out, active, []⟩

def IsAcyclic (d : Disk) (base : Text) : Prop := ∀ p, ¬Relation.TransGen (RefersTo d base) p p

variable {d : Disk} {base : Text}

section Expands

lemma Expands.unique {reading arguments out out' : List Text}
    (h : Expands d base reading arguments out) (h' : Expands d base reading arguments out') :
    out' = out := by
  induction h generalizing out' with
  | nil =>
    cases h'
    rfl
  | stay hstays _ ih =>
    cases h' with
    | stay _ h' => rw [ih h']
    | follow hnot => exact (hnot hstays).elim
  | follow hnot hr ht _ _ ihInner ih =>
    cases h' with
    | stay hstays => exact (hnot hstays).elim
    | follow _ hr' ht' hinner h' =>
      obtain rfl := Option.some.inj (hr.symm.trans hr')
      obtain rfl := Option.some.inj (ht.symm.trans ht')
      rw [ihInner hinner, ih h']

lemma not_stays {reading : List Text} {argument name text : Text}
    (hr : reference? argument = some name)
    (ht : Storage.fileText? d (Path.resolve d.cwd base name) = some text)
    (hkey : Path.normalize (Path.resolve d.cwd base name) ∉ reading)
    (hlt : reading.length < maxDepth) : ¬Stays d base reading argument := by
  intro hs
  rcases hs name hr (by simp [IsReadable, ht]) with hmem | hdeep
  · exact hkey hmem
  · omega

lemma expands_expandWithin (n : Nat) (reading arguments : List Text)
    (hdepth : reading.length + n = maxDepth) :
    Expands d base reading arguments (expandWithin d base n reading arguments).value := by
  induction n using Nat.strongRecOn generalizing reading arguments with
  | ind n ih =>
    rw [value_expandWithin]
    induction arguments with
    | nil => exact .nil
    | cons argument rest ihRest =>
      rw [List.flatMap_cons]
      rcases value_expandArgument_deeper d base hdepth argument with
        ⟨hstays, hv⟩ | ⟨name, text, m, rfl, hr, ht, hkey, hv⟩
      · rw [hv]
        exact .stay hstays ihRest
      · rw [hv]
        exact .follow (not_stays hr ht hkey (by omega)) hr ht
          (ih m (Nat.lt_succ_self m) _ _ (by simp; omega)) ihRest

end Expands

section Acyclic

def PointsTo (d : Disk) (base argument path : Text) : Prop :=
  ∃ name, reference? argument = some name ∧ Path.resolve d.cwd base name = path ∧ IsReadable d path

lemma exists_pointsTo {argument : Text} (h : Opens d base argument) :
    ∃ p, PointsTo d base argument p := by
  have hs : ¬IsSettled d base argument := by
    intro hs
    exact h (value_expand_settled fun a ha => by rwa [List.mem_singleton.mp ha])
  obtain ⟨name, text, hr, ht⟩ := exists_of_not_isSettled hs
  exact ⟨_, name, hr, rfl, by simp [IsReadable, ht]⟩

lemma Leads.transGen {a b p q : Text} {words ps : List Text} (hl : Leads d base [a] ps words)
    (ha : PointsTo d base a p) (hb : b ∈ words) (hq : PointsTo d base b q) :
    (ps = [] ∧ b = a) ∨ Relation.TransGen (RefersTo d base) p q := by
  induction hl generalizing b q with
  | start => exact Or.inl ⟨rfl, List.mem_singleton.mp hb⟩
  | @next ps words argument name text hl hmem hr ht ih =>
    refine Or.inr ?_
    obtain ⟨name', hr', rfl, hread⟩ := hq
    have hstep : RefersTo d base (Path.resolve d.cwd base name) (Path.resolve d.cwd base name') :=
      ⟨text, ht, hread, b, hb, name', hr', rfl⟩
    rcases ih hmem ⟨name, hr, rfl, by simp [IsReadable, ht]⟩ with ⟨_, rfl⟩ | htrans
    · obtain ⟨name'', hr'', rfl, _⟩ := ha
      obtain rfl := Option.some.inj (hr.symm.trans hr'')
      exact .single hstep
    · exact htrans.tail hstep

lemma transGen_of_mem_expand {a b p q : Text} (hb : b ∈ (expand d base [a]).value)
    (hp : PointsTo d base a p) (hq : PointsTo d base b q) :
    Relation.TransGen (RefersTo d base) p q := by
  obtain ⟨ps, words, hl, hmem, _, hs⟩ := mem_expand_iff.mp hb
  rcases hl.transGen hp hmem hq with ⟨rfl, rfl⟩ | htrans
  · -- A reference that can be read does not stay while no file is being read.
    obtain ⟨name, hr, rfl, hread⟩ := hp
    rcases hs name hr hread with hkey | hdeep
    · simp at hkey
    · simp [maxDepth] at hdeep
  · exact htrans

lemma finite_targets (d : Disk) (base : Text) : {q | ∃ p, RefersTo d base p q}.Finite := by
  have hfinite : {q | q ∈ (d.root.words.filterMap reference?).map (Path.resolve d.cwd base)}.Finite :=
    List.finite_toSet _
  refine hfinite.subset ?_
  rintro q ⟨p, text, ht, _, word, hw, name, hr, rfl⟩
  exact List.mem_map_of_mem
    (List.mem_filterMap.mpr ⟨word, (Storage.words_sublist ht).subset hw, hr⟩)

lemma IsAcyclic.wellFounded (h : IsAcyclic d base) :
    WellFounded fun q p => Relation.TransGen (RefersTo d base) p q := by
  have horder : IsStrictOrder Text fun q p => Relation.TransGen (RefersTo d base) p q :=
    { irrefl := h, trans := fun _ _ _ hqp hpo => hpo.trans hqp }
  have htargets := (finite_targets d base).wellFoundedOn
    (r := fun q p => Relation.TransGen (RefersTo d base) p q)
  have htarget : ∀ {p q}, Relation.TransGen (RefersTo d base) p q → ∃ o, RefersTo d base o q := by
    intro p q hpq
    obtain ⟨o, _, ho⟩ := Relation.TransGen.tail'_iff.mp hpq
    exact ⟨o, ho⟩
  have hacc : ∀ q, (∃ p, RefersTo d base p q) →
      Acc (fun q p => Relation.TransGen (RefersTo d base) p q) q := by
    intro q hq
    apply htargets.induction hq
    intro p _ ih
    exact ⟨p, fun q hpq => ih q (htarget hpq) hpq⟩
  exact ⟨fun p => ⟨p, fun q hpq => hacc q (htarget hpq)⟩⟩

lemma exists_runs_of_opens {arguments : List Text}
    (h : ∀ a ∈ arguments, Opens d base a → ∃ last n, Runs d base .on (expand d base [a]).value last n)
    (phase : Phase) : ∃ last n, Runs d base phase arguments last n := by
  induction arguments generalizing phase with
  | nil => exact ⟨phase, 0, .nil⟩
  | cons argument rest ih =>
    have hrest := ih fun a ha => h a (by simp [ha])
    by_cases hsplice : phase = .on ∧ Opens d base argument
    · obtain ⟨rfl, hopens⟩ := hsplice
      obtain ⟨mid, n, hn⟩ := h argument (by simp) hopens
      obtain ⟨last, m, hm⟩ := hrest mid
      exact ⟨last, n + m + 1, .splice hopens hn hm⟩
    · obtain ⟨last, n, hn⟩ := hrest (phase.next argument)
      exact ⟨last, n, .step hsplice hn⟩

lemma exists_runs_of_pointsTo (h : IsAcyclic d base) {argument p : Text}
    (hp : PointsTo d base argument p) :
    ∃ last n, Runs d base .on (expand d base [argument]).value last n := by
  induction p using h.wellFounded.induction generalizing argument with
  | _ p ih =>
    refine exists_runs_of_opens ?_ .on
    intro b hb hopens
    obtain ⟨q, hq⟩ := exists_pointsTo hopens
    exact ih q (transGen_of_mem_expand hb hp hq) hq

lemma IsAcyclic.exists_takes (h : IsAcyclic d base) (arguments : List Text) :
    ∃ n, Takes d base none arguments n := by
  have hopened : ∀ a ∈ arguments, Opens d base a →
      ∃ last n, Runs d base .on (expand d base [a]).value last n :=
    fun a _ hopens => exists_runs_of_pointsTo h (exists_pointsTo hopens).choose_spec
  obtain ⟨last, n, hn⟩ := exists_runs_of_opens hopened (Phase.of none)
  exact ⟨n, last, hn⟩

end Acyclic

section Loop

lemma Ends.of_turn {start next : Pass} {out : List Text} (h : turn d base start = next)
    (hnext : Ends d base next out) : Ends d base start out := by
  obtain ⟨turns, active, hturns⟩ := hnext
  exact ⟨turns + 1, active, by rw [Function.iterate_succ_apply, h, hturns]⟩

lemma Ends.unique {start : Pass} {out out' : List Text} (h : Ends d base start out)
    (h' : Ends d base start out') : out' = out := by
  obtain ⟨n, active, hn⟩ := h
  obtain ⟨m, active', hm⟩ := h'
  have hend : ∀ k done active, (turn d base)^[k] ⟨done, active, []⟩ = ⟨done, active, []⟩ :=
    fun k _ _ => Function.iterate_fixed rfl k
  have hboth : (⟨out', active', []⟩ : Pass) = ⟨out, active, []⟩ := by
    rw [← hend n out' active', ← hm, ← Function.iterate_add_apply, Nat.add_comm,
      Function.iterate_add_apply, hn, hend]
  exact congrArg Pass.done hboth

lemma scanPrefixes_turn (d : Disk) (base : Text) (done : List Text) (active : Option Text)
    (argument : Text) (rest : List Text) :
    (∃ dir, active = some dir ∧
        turn d base ⟨done, active, argument :: rest⟩ =
          ⟨done, some dir, (expand d base [argument]).value ++ rest⟩ ∧
        ∀ splice : Text → List Text → Noted (Option (List Text)),
          (scanPrefixes d base splice active (argument :: rest)).value =
            (splice dir ((expand d base [argument]).value ++ rest)).value) ∨
      ∃ (more : List Text) (next : Option Text) (left : List Text), left <:+ rest ∧
        turn d base ⟨done, active, argument :: rest⟩ = ⟨done ++ more, next, left⟩ ∧
        ∀ splice : Text → List Text → Noted (Option (List Text)),
          (scanPrefixes d base splice active (argument :: rest)).value =
            (scanPrefixes d base splice next left).value.map (more ++ ·) := by
  by_cases hsplice : active.isSome ∧ (expand d base [argument]).value ≠ [argument]
  · refine Or.inl ?_
    obtain ⟨dir, rfl⟩ := Option.isSome_iff_exists.mp hsplice.1
    refine ⟨dir, rfl, by rw [turn, if_pos hsplice], ?_⟩
    intro splice
    cases hr : reference? argument with
    | none => exact (not_opens_of_reference? hr hsplice.2).elim
    | some name => rw [value_scanPrefixes_reference hr, if_neg hsplice.2]
  refine Or.inr ?_
  rw [turn, if_neg hsplice]
  by_cases hnot : active = none ∨ reference? argument = none
  · cases hm : move active argument rest.head? with
    | setPrefix value withNext =>
      refine ⟨[], some (prefixDir d.cwd base value), _, left_suffix rest withNext,
        by rw [List.append_nil], ?_⟩
      intro splice
      rw [scanPrefixes_setPrefix hnot hm]
      simp only [List.nil_append, Option.map_id']
    | replace joined withNext =>
      refine ⟨[joined], active, _, left_suffix rest withNext, rfl, ?_⟩
      intro splice
      rw [scanPrefixes_replace hnot hm]
      rfl
    | keep =>
      refine ⟨[argument], none, rest, List.suffix_rfl, rfl, ?_⟩
      intro splice
      rw [scanPrefixes_keep hnot hm]
      rfl
  · rw [not_or] at hnot
    obtain ⟨dir, rfl⟩ := Option.ne_none_iff_exists'.mp hnot.1
    obtain ⟨name, hr⟩ := Option.ne_none_iff_exists'.mp hnot.2
    have hkept : (expand d base [argument]).value = [argument] := by
      by_contra hopens
      exact hsplice ⟨rfl, hopens⟩
    refine ⟨[argument], none, rest, List.suffix_rfl, by rw [move_of_reference? hr], ?_⟩
    intro splice
    rw [value_scanPrefixes_reference hr, if_pos hkept]
    rfl

lemma ends_of_scan {splice : Text → List Text → Noted (Option (List Text))}
    (hsplice : ∀ done dir arguments out, (splice dir arguments).value = some out →
      Ends d base ⟨done, some dir, arguments⟩ (done ++ out))
    (k : Nat) (done : List Text) (active : Option Text) {arguments out : List Text}
    (hk : arguments.length ≤ k)
    (h : (scanPrefixes d base splice active arguments).value = some out) :
    Ends d base ⟨done, active, arguments⟩ (done ++ out) := by
  induction k generalizing done active arguments out with
  | zero =>
    obtain rfl : arguments = [] := List.eq_nil_of_length_eq_zero (by omega)
    obtain rfl : [] = out := by simpa [scanPrefixes] using h
    exact ⟨0, active, by simp⟩
  | succ k ih =>
    cases arguments with
    | nil =>
      obtain rfl : [] = out := by simpa [scanPrefixes] using h
      exact ⟨0, active, by simp⟩
    | cons argument rest =>
      simp only [List.length_cons] at hk
      rcases scanPrefixes_turn d base done active argument rest with
        ⟨dir, rfl, hturn, hscan⟩ | ⟨more, next, left, hl, hturn, hscan⟩
      · rw [hscan] at h
        exact .of_turn hturn (hsplice done dir _ out h)
      · rw [hscan] at h
        obtain ⟨out, hout, rfl⟩ := Option.map_eq_some_iff.mp h
        have hlen := hl.length_le
        have hends := ih (done ++ more) next (by omega) hout
        rw [List.append_assoc] at hends
        exact .of_turn hturn hends

lemma ends_of_resolveWithin (n : Nat) (done : List Text) (active : Option Text)
    {arguments out : List Text} (h : (resolveWithin d base n active arguments).value = some out) :
    Ends d base ⟨done, active, arguments⟩ (done ++ out) := by
  induction n generalizing done active arguments out with
  | zero => exact ends_of_scan (by simp) _ done active (Nat.le_refl _) h
  | succ n ih =>
    exact ends_of_scan (fun done dir _ _ hout => ih done (some dir) hout) _ done active
      (Nat.le_refl _) h

end Loop

/-- Following references ends for all arguments and files, also where files lead back to themselves; and
where none does, the loop that resolves prefixes ends, however deep the references are nested. -/
theorem following_ends (d : Disk) (base : Text) (arguments : List Text) :
    (∀ out, Expands d base [] arguments out ↔ out = (expand d base arguments).value) ∧
      (IsAcyclic d base →
        Ends d base ⟨[], none, arguments⟩ (resolvePrefixes d base arguments).value) := by
  refine ⟨?_, ?_⟩
  · have hexpands : Expands d base [] arguments (expand d base arguments).value :=
      expands_expandWithin maxDepth [] arguments (Nat.zero_add _)
    intro out
    refine ⟨hexpands.unique, ?_⟩
    rintro rfl
    exact hexpands
  · intro hacyclic
    obtain ⟨n, hn⟩ := hacyclic.exists_takes arguments
    obtain ⟨out, hout⟩ := Option.isSome_iff_exists.mp (isSome_resolveWithin hn hn.le_spliceBound)
    have hvalue : (resolvePrefixes d base arguments).value = out := by
      rw [resolvePrefixes, Noted.value_map, hout, Option.getD_some]
    rw [hvalue]
    exact ends_of_resolveWithin _ [] none hout

def references (d : Disk) (base path : Text) : List Text :=
  match Storage.fileText? d path with
  | some text => (Command.words text).filterMap fun word =>
    (reference? word).map (Path.resolve d.cwd base)
  | none => []

lemma isAcyclic_of_rank (rank : Text → Nat)
    (h : ∀ p ∈ (d.root.words.filterMap reference?).map (Path.resolve d.cwd base),
      ∀ q ∈ references d base p, rank q < rank p) : IsAcyclic d base := by
  have hstep : ∀ {o p q}, RefersTo d base o p → RefersTo d base p q → rank q < rank p := by
    rintro o p q ⟨text, ht, _, word, hw, name, hr, rfl⟩ ⟨text', ht', _, word', hw', name', hr', rfl⟩
    apply h
    · exact List.mem_map_of_mem
        (List.mem_filterMap.mpr ⟨word, (Storage.words_sublist ht).subset hw, hr⟩)
    · rw [references, ht']
      exact List.mem_filterMap.mpr ⟨word', hw', by rw [hr', Option.map_some]⟩
  have hrank : ∀ {o p q}, RefersTo d base o p → Relation.TransGen (RefersTo d base) p q →
      rank q < rank p := by
    intro o p q ho hpq
    induction hpq with
    | single hq => exact hstep ho hq
    | tail hpm hmq ih =>
      obtain ⟨m, _, hm⟩ := Relation.TransGen.tail'_iff.mp hpm
      exact (hstep hm hmq).trans ih
  intro p hp
  obtain ⟨o, _, ho⟩ := Relation.TransGen.tail'_iff.mp hp
  exact Nat.lt_irrefl _ (hrank ho hp)

def nestedFiles : Disk where
  root := .dir ([("A", "@B"), ("B", "@C"), ("C", "@D"), ("D", "@E"), ("E", "@F"), ("F", "@G"),
    ("G", "@H"), ("H", "@I"), ("I", "@J"), ("J", "-iwithprefix q")].map fun (name, text) =>
      ((name : String).toList, .file (Text.Utf8.encode (text : String).toList)))
  here := []

/-- The last files lie too deep to be read at once, and are read when what is left is replaced. -/
theorem following_ends_nested :
    IsAcyclic nestedFiles "/" ∧ (expand nestedFiles "/" ["@A"]).value = ["@I"] ∧
      (resolvePrefixes nestedFiles "/" ["-iprefix", "/p", "@A"]).value = ["-idirafter/p/q"] := by
  have hacyclic : IsAcyclic nestedFiles "/" :=
    isAcyclic_of_rank (fun path => 128 - (path.getLast?.map Char.toNat).getD 0) (by decide)
  refine ⟨hacyclic, by decide, ?_⟩
  have hends : Ends nestedFiles "/" ⟨[], none, ["-iprefix", "/p", "@A"]⟩ ["-idirafter/p/q"] :=
    ⟨4, some "/p", by decide⟩
  exact hends.unique ((following_ends nestedFiles "/" ["-iprefix", "/p", "@A"]).2 hacyclic)

end SketchBuild.Flags

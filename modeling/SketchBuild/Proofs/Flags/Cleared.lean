import SketchBuild.Proofs.Flags.Ending

namespace SketchBuild.Flags

variable {d : Disk} {base : Text} {arguments out : List Text}

lemma hasNoPrefix_iff :
    HasNoPrefix arguments ↔
      ∀ before argument after, arguments = before ++ argument :: after →
        prefixFlag <+: argument → argument = prefixFlag ∧ after = [] := by
  induction arguments with
  | nil => simp [HasNoPrefix]
  | cons first rest ih =>
    rw [HasNoPrefix, ih, value?_eq_none_iff, List.head?_eq_none_iff]
    constructor
    · rintro ⟨hfirst, hrest⟩ before argument after hsplit hprefix
      cases before with
      | nil =>
        obtain ⟨rfl, rfl⟩ := List.cons.inj hsplit
        exact hfirst hprefix
      | cons _ before => exact hrest before argument after (List.cons.inj hsplit).2 hprefix
    · intro h
      refine ⟨h [] first rest rfl, ?_⟩
      intro before argument after hsplit
      exact h (first :: before) argument after (by rw [hsplit, List.cons_append])

lemma exists_splice (d : Disk) (base : Text) (n : Nat) :
    ∃ splice, resolveWithin d base n = scanPrefixes d base splice := by
  cases n with
  | zero => exact ⟨_, rfl⟩
  | succ n => exact ⟨_, rfl⟩

lemma exists_resolveWithin (turns : Nat) {done : List Text} {active last : Option Text}
    (h : (turn d base)^[turns] ⟨done, active, arguments⟩ = ⟨out, last, []⟩) :
    ∃ n left, out = done ++ left ∧ (resolveWithin d base n active arguments).value = some left := by
  -- Each reference that is replaced takes a turn, so the turns that are left bound their number.
  induction turns generalizing done active arguments with
  | zero =>
    obtain ⟨rfl, rfl, rfl⟩ := Pass.mk.inj h
    exact ⟨0, [], (List.append_nil _).symm, by simp [resolveWithin, scanPrefixes]⟩
  | succ turns ih =>
    rw [Function.iterate_succ_apply] at h
    cases arguments with
    | nil => exact ih h
    | cons argument rest =>
      rcases scanPrefixes_turn d base done active argument rest with
        ⟨dir, rfl, hturn, hscan⟩ | ⟨more, next, left, _, hturn, hscan⟩
      · rw [hturn] at h
        obtain ⟨n, left, hout, hleft⟩ := ih h
        exact ⟨n + 1, left, hout, by rw [resolveWithin, hscan, hleft]⟩
      · rw [hturn] at h
        obtain ⟨n, tail, hout, htail⟩ := ih h
        obtain ⟨splice, hsplice⟩ := exists_splice d base n
        rw [List.append_assoc] at hout
        refine ⟨n, more ++ tail, hout, ?_⟩
        rw [hsplice] at htail ⊢
        rw [hscan, htail, Option.map_some]

lemma ends_iff :
    Ends d base ⟨[], none, arguments⟩ out ↔
      ∃ n, (resolveWithin d base n none arguments).value = some out := by
  constructor
  · rintro ⟨turns, last, h⟩
    obtain ⟨n, left, rfl, hn⟩ := exists_resolveWithin turns h
    exact ⟨n, hn⟩
  · rintro ⟨n, hn⟩
    exact ends_of_resolveWithin n [] none hn

lemma Ends.value_resolvePrefixes (h : Ends d base ⟨[], none, arguments⟩ out) :
    (resolvePrefixes d base arguments).value = out := by
  obtain ⟨n, hn⟩ := ends_iff.mp h
  obtain ⟨bounded, hbounded⟩ := Option.isSome_iff_exists.mp
    (isSome_resolveWithin_spliceBound (n := n) (by rw [hn, Option.isSome_some]))
  rw [resolvePrefixes, Noted.value_map, hbounded, Option.getD_some]
  exact h.unique (ends_iff.mpr ⟨_, hbounded⟩)

lemma Ends.hasNoPrefix (h : Ends d base ⟨[], none, arguments⟩ out) : HasNoPrefix out := by
  obtain ⟨n, hn⟩ := ends_iff.mp h
  exact resolveWithin_hasNoPrefix n none arguments out hn

lemma HasNoPrefix.ends (h : HasNoPrefix arguments) (d : Disk) (base : Text) :
    Ends d base ⟨[], none, arguments⟩ arguments :=
  ends_iff.mpr ⟨0, value_scanPrefixes_self h⟩

/-- Where the loop ends, an argument that it leaves starts with the prefix flag only if it is the bare
flag and the last of them. Another run keeps them all, from any directory and with any files. -/
theorem resolvePrefixes_clears (d : Disk) (base : Text) (arguments out : List Text)
    (h : Ends d base ⟨[], none, arguments⟩ out) :
    (resolvePrefixes d base arguments).value = out ∧
      (∀ before argument after, out = before ++ argument :: after → prefixFlag <+: argument →
        argument = prefixFlag ∧ after = []) ∧
      ∀ (d' : Disk) (base' : Text), Ends d' base' ⟨[], none, out⟩ out ∧
        (resolvePrefixes d' base' out).value = out := by
  refine ⟨h.value_resolvePrefixes, hasNoPrefix_iff.mp h.hasNoPrefix, ?_⟩
  intro d' base'
  have hagain : Ends d' base' ⟨[], none, out⟩ out := h.hasNoPrefix.ends d' base'
  exact ⟨hagain, hagain.value_resolvePrefixes⟩

theorem resolvePrefixes_clears_sample :
    let d : Disk := {
      root := .dir [("a", .file (Text.Utf8.encode "-iwithprefixbefore x -iprefix"))]
      here := [] }
    let arguments : List Text := ["-iprefix=/p", "@a", "-iprefixq", "-iwithprefix", "-iprefix",
      "-iwithprefix=", "-iprefix"]
    let out : List Text := ["-I/p/x", "-idirafter/-iprefixq/-iprefix", "-idirafter/-iprefixq/",
      "-iprefix"]
    Ends d "/" ⟨[], none, arguments⟩ out ∧ (resolvePrefixes d "/" arguments).value = out ∧
      (resolvePrefixes nestedFiles "/w" out).value = out := by
  intro d arguments out
  have hends : Ends d "/" ⟨[], none, arguments⟩ out := ⟨7, none, by decide⟩
  obtain ⟨hvalue, _, hagain⟩ := resolvePrefixes_clears d "/" arguments out hends
  exact ⟨hends, hvalue, (hagain nestedFiles "/w").2⟩

end SketchBuild.Flags

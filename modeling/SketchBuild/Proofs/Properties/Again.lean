import SketchBuild.Proofs.Properties.Target

namespace SketchBuild.Properties

open Json (Members)

section Filled

variable {name other : Text} {value : Option Text} {members : Members}

lemma get?_putFilled_other (h : name ≠ other) (value : Option Text) (members : Members) :
    Members.get? other (putFilled name value members) = Members.get? other members := by
  cases value with
  | none => rfl
  | some text =>
    cases text with
    | nil => rfl
    | cons c text => exact (get?_set _ _ _ _).trans (if_neg h)

lemma putFilled_self (members : Members) {members' : Members}
    (h : Members.get? name members' = Members.get? name (putFilled name value members)) :
    putFilled name value members' = members' := by
  cases value with
  | none => rfl
  | some text =>
    cases text with
    | nil => rfl
    | cons c text =>
      apply set_self
      exact h.trans ((get?_set _ _ _ _).trans (if_pos rfl))

end Filled

section Compiler

variable {u : Update} {members members' : Members}

lemma exists_defines (u : Update) (members : Members) :
    ∃ items, Members.get? "defines" (setCompiler u members) = some (.arr items) := by
  rw [setCompiler]
  split
  · rename_i items h
    exact ⟨items, h⟩
  · exact ⟨[], by rw [get?_set, if_pos rfl]⟩

lemma get?_setCompiler_of_ne {other : Text} (h : other ≠ "defines") :
    Members.get? other (setCompiler u members) =
      Members.get? other (putFilled "compileCommands" u.compileCommands
        (putFilled "compilerPath" u.compilerPath members)) := by
  rw [setCompiler]
  split
  · rfl
  · rw [get?_set, if_neg h.symm]

lemma get?_setCompiler_other {other : Text}
    (h : other ∉ (["compilerPath", "compileCommands", "defines"] : List Text)) :
    Members.get? other (setCompiler u members) = Members.get? other members := by
  simp only [List.mem_cons, List.not_mem_nil, or_false, not_or] at h
  rw [get?_setCompiler_of_ne h.2.2, get?_putFilled_other (Ne.symm h.2.1),
    get?_putFilled_other (Ne.symm h.1)]

lemma setCompiler_self
    (h : ∀ name ∈ (["compilerPath", "compileCommands", "defines"] : List Text),
      Members.get? name members' = Members.get? name (setCompiler u members)) :
    setCompiler u members' = members' := by
  have hpath : putFilled "compilerPath" u.compilerPath members' = members' := by
    apply putFilled_self members
    rw [h "compilerPath" (by simp), get?_setCompiler_of_ne (by decide),
      get?_putFilled_other (by decide)]
  have hcommands : putFilled "compileCommands" u.compileCommands members' = members' := by
    apply putFilled_self (putFilled "compilerPath" u.compilerPath members)
    rw [h "compileCommands" (by simp), get?_setCompiler_of_ne (by decide)]
  obtain ⟨items, hitems⟩ := exists_defines u members
  rw [← h "defines" (by simp)] at hitems
  rw [setCompiler]
  simp only [hpath, hcommands, hitems]

end Compiler

section Dialect

variable {esp esp' : Bool} {members members' : Members}

lemma get?_setDialect_other {other : Text}
    (h : other ∉ (["cStandard", "cppStandard", "intelliSenseMode"] : List Text)) :
    Members.get? other (setDialect esp members) = Members.get? other members := by
  simp only [List.mem_cons, List.not_mem_nil, or_false, not_or] at h
  rw [setDialect, get?_setNew, if_neg (Ne.symm h.2.2)]
  split
  · rw [get?_set, if_neg (Ne.symm h.2.1), get?_set, if_neg (Ne.symm h.1)]
  · rw [get?_setNew, if_neg (Ne.symm h.2.1), get?_setNew, if_neg (Ne.symm h.1)]

lemma setDialect_self (hesp : esp' = true → esp = true)
    (h : ∀ name ∈ (["cStandard", "cppStandard", "intelliSenseMode"] : List Text),
      Members.get? name members' = Members.get? name (setDialect esp members)) :
    setDialect esp' members' = members' := by
  have hmode : ∃ w, Members.get? "intelliSenseMode" members' = some w := by
    rw [h "intelliSenseMode" (by simp), setDialect]
    exact ⟨_, by rw [get?_setNew, if_pos rfl]⟩
  obtain ⟨mode, hmode⟩ := hmode
  have hstandards : (esp = true → Members.get? "cStandard" members' = some (.str "c17") ∧
        Members.get? "cppStandard" members' = some (.str "c++23")) ∧
      (∃ w, Members.get? "cStandard" members' = some w) ∧
      ∃ w, Members.get? "cppStandard" members' = some w := by
    rw [h "cStandard" (by simp), h "cppStandard" (by simp), setDialect]
    cases esp <;> simp [get?_set, get?_setNew]
  obtain ⟨hfixed, ⟨c, hc⟩, ⟨cpp, hcpp⟩⟩ := hstandards
  rw [setDialect]
  cases esp' with
  | true =>
    obtain ⟨hc17, hcpp23⟩ := hfixed (hesp rfl)
    simp only [if_true, set_self hc17, set_self hcpp23, setNew_self hmode]
  | false =>
    simp only [Bool.false_eq_true, if_false, setNew_self hc, setNew_self hcpp, setNew_self hmode]

end Dialect

section Target

variable {d d' d'' : Disk} {u : Update} {members : Members}

def Update.given (u : Update) : List Text := (u.includePaths.filterMap id).filter (· ≠ [])

lemma listedPaths_set (paths : List Text) (members : Members) :
    listedPaths (Members.set "includePath" (.arr (paths.map .str)) members) = paths := by
  rw [listedPaths, get?_set, if_pos rfl]
  simp [Function.comp_def, Json.plain]

lemma listedPaths_updateTarget :
    listedPaths (updateTarget d u members) = newPaths (existingPaths d u.reset members) u :=
  listedPaths_set _ _

lemma mem_newPaths {existing : List Text} {p : Text} (h : p ∈ newPaths existing u) :
    p ∈ existing ∨ p ∈ u.includePaths.filterMap id := by
  rw [newPaths, mem_addNew] at h
  rcases h with h | h
  · split at h
    · simp at h
    · exact Or.inl h
  · exact Or.inr (List.mem_filter.mp h).1

lemma get?_updateTarget_of_ne {name : Text} (h : name ≠ "includePath") :
    Members.get? name (updateTarget d u members) =
      Members.get? name (setDialect (isEsp (existingPaths d u.reset members) u
        (setCompiler u members)) (setCompiler u members)) :=
  (get?_set _ _ _ _).trans (if_neg h.symm)

lemma get?_updateTarget_compiler {name : Text}
    (h : name ∈ (["compilerPath", "compileCommands", "defines"] : List Text)) :
    Members.get? name (updateTarget d u members) = Members.get? name (setCompiler u members) := by
  simp only [List.mem_cons, List.not_mem_nil, or_false] at h
  rw [get?_updateTarget_of_ne (by rcases h with rfl | rfl | rfl <;> decide),
    get?_setDialect_other (by rcases h with rfl | rfl | rfl <;> decide)]

lemma get?_updateTarget_dialect {name : Text}
    (h : name ∈ (["cStandard", "cppStandard", "intelliSenseMode"] : List Text)) :
    Members.get? name (updateTarget d u members) =
      Members.get? name (setDialect (isEsp (existingPaths d u.reset members) u
        (setCompiler u members)) (setCompiler u members)) := by
  simp only [List.mem_cons, List.not_mem_nil, or_false] at h
  exact get?_updateTarget_of_ne (by rcases h with rfl | rfl | rfl <;> decide)

lemma isNamed_updateTarget (h : IsNamed members) : IsNamed (updateTarget d u members) := by
  have hname : Members.get? "name" (updateTarget d u members) = Members.get? "name" members := by
    rw [get?_updateTarget_of_ne (by decide), get?_setDialect_other (by decide),
      get?_setCompiler_other (by decide)]
  exact hname.trans h

lemma isEsp_of_isEsp_updateTarget
    (h : isEsp (existingPaths d' u.reset (updateTarget d u members)) u
      (updateTarget d u members) = true) :
    isEsp (existingPaths d u.reset members) u (setCompiler u members) = true := by
  rw [isEsp] at h ⊢
  rw [get?_updateTarget_compiler (by simp), Bool.or_eq_true, List.any_eq_true] at h
  rw [Bool.or_eq_true, List.any_eq_true]
  refine h.imp_right ?_
  rintro ⟨p, hp, hesp⟩
  refine ⟨p, ?_, hesp⟩
  rw [List.mem_append] at hp ⊢
  rcases hp with hp | hp
  · rw [existingPaths, listedPaths_updateTarget] at hp
    split at hp
    · simp at hp
    · exact mem_newPaths (List.mem_filter.mp hp).1
  · exact Or.inr hp

lemma updateTarget_updateTarget (d d' : Disk) (u : Update) (members : Members) :
    updateTarget d' u (updateTarget d u members) =
      Members.set "includePath"
        (.arr ((newPaths (existingPaths d' u.reset (updateTarget d u members)) u).map .str))
        (updateTarget d u members) := by
  have hcompiler : setCompiler u (updateTarget d u members) = updateTarget d u members :=
    setCompiler_self fun _ => get?_updateTarget_compiler
  have hdialect : setDialect (isEsp (existingPaths d' u.reset (updateTarget d u members)) u
      (updateTarget d u members)) (updateTarget d u members) = updateTarget d u members :=
    setDialect_self isEsp_of_isEsp_updateTarget fun _ => get?_updateTarget_dialect
  conv_lhs => rw [updateTarget]
  rw [hcompiler, hdialect]

lemma updateTarget_again_iff :
    updateTarget d' u (updateTarget d u members) = updateTarget d u members ↔
      newPaths (existingPaths d' u.reset (updateTarget d u members)) u =
        listedPaths (updateTarget d u members) := by
  constructor
  · intro h
    rw [← listedPaths_updateTarget, h]
  · intro h
    rw [updateTarget_updateTarget, h, listedPaths_updateTarget]
    exact set_self ((get?_set _ _ _ _).trans (if_pos rfl))

/-- Whether the paths that exist come first, and behind them the given ones that do not, each
once. -/
def IsInOrder (d : Disk) (given listed : List Text) : Prop :=
  listed = listed.filter (pathExists d) ++ (given.filter (!pathExists d ·)).eraseDups

lemma isInOrder_append {d : Disk} {old : List Text} (given : List Text)
    (h : ∀ p ∈ old, pathExists d p = true) :
    IsInOrder d given (old ++ (given.filter (!pathExists d ·)).eraseDups) := by
  have hmissing : ((given.filter (!pathExists d ·)).eraseDups).filter (pathExists d) = [] := by
    rw [List.filter_eq_nil_iff]
    intro p hp
    have hp' := (List.mem_filter.mp (List.mem_eraseDups.mp hp)).2
    simpa using hp'
  rw [IsInOrder, List.filter_append, List.filter_eq_self.mpr h, hmissing, List.append_nil]

lemma newPaths_of_fixed (h : u.finalize = true ∨ u.reset = true) (existing : List Text) :
    newPaths (if u.reset then [] else existing) u = addNew [] u.given := by
  rw [newPaths, Update.given]
  rcases h with h | h
  · rw [if_pos h]
  · rw [if_pos h, ite_self]

lemma given_subset_listedPaths :
    ∀ p ∈ u.given, p ∈ listedPaths (updateTarget d u members) := by
  intro p hp
  rw [listedPaths_updateTarget, newPaths, mem_addNew]
  exact Or.inr hp

lemma newPaths_again (hf : u.finalize = false) (hr : u.reset = false) :
    newPaths (existingPaths d' u.reset (updateTarget d u members)) u =
      (listedPaths (updateTarget d u members)).filter (pathExists d') ++
        (u.given.filter (!pathExists d' ·)).eraseDups := by
  rw [newPaths, existingPaths, hf, hr]
  exact addNew_filter _ given_subset_listedPaths

lemma updateTarget_again_iff_isInOrder :
    updateTarget d' u (updateTarget d u members) = updateTarget d u members ↔
      u.finalize = true ∨ u.reset = true ∨
        IsInOrder d' u.given (listedPaths (updateTarget d u members)) := by
  rw [updateTarget_again_iff]
  by_cases hfixed : u.finalize = true ∨ u.reset = true
  · have hpaths : listedPaths (updateTarget d u members) = addNew [] u.given := by
      rw [listedPaths_updateTarget, existingPaths, newPaths_of_fixed hfixed]
    rw [hpaths, existingPaths, newPaths_of_fixed hfixed]
    exact iff_of_true rfl (hfixed.imp_right Or.inl)
  · rw [not_or, Bool.not_eq_true, Bool.not_eq_true] at hfixed
    rw [newPaths_again hfixed.1 hfixed.2, hfixed.1, hfixed.2]
    simp [IsInOrder, eq_comm]

lemma updateTarget_third (h : ∀ p, pathExists d'' p = pathExists d' p) :
    updateTarget d'' u (updateTarget d' u (updateTarget d u members)) =
      updateTarget d' u (updateTarget d u members) := by
  rw [updateTarget_again_iff_isInOrder]
  by_cases hfixed : u.finalize = true ∨ u.reset = true
  · exact hfixed.imp_right Or.inl
  · rw [not_or, Bool.not_eq_true, Bool.not_eq_true] at hfixed
    refine Or.inr (Or.inr ?_)
    have hexists : pathExists d'' = pathExists d' := funext h
    rw [listedPaths_updateTarget, newPaths_again hfixed.1 hfixed.2, IsInOrder, hexists]
    exact isInOrder_append u.given fun p hp => (List.mem_filter.mp hp).2

end Target

section Document

variable {d d' d'' : Disk} {u : Update} {v : Json}

def listed (v : Json) : List Text := listedPaths (config v)

lemma isNamed_config (v : Json) : IsNamed (config v) := (isTarget_target _).2

lemma config_updated (d : Disk) (u : Update) (v : Json) :
    config (updated d u v) = updateTarget d u (config v) := by
  rw [updated_eq, config_withConfig v (isNamed_updateTarget (isNamed_config v))]

lemma updated_updated (d d' : Disk) (u : Update) (v : Json) :
    updated d' u (updated d u v) =
      withConfig v (updateTarget d' u (updateTarget d u (config v))) := by
  rw [updated_eq, config_updated, updated_eq,
    withConfig_withConfig v (isNamed_updateTarget (isNamed_config v))]

lemma updated_again_iff :
    updated d' u (updated d u v) = updated d u v ↔
      u.finalize = true ∨ u.reset = true ∨ IsInOrder d' u.given (listed (updated d u v)) := by
  rw [updated_updated, listed, config_updated, ← updateTarget_again_iff_isInOrder, updated_eq]
  exact ⟨withConfig_inj, congrArg (withConfig v)⟩

lemma updated_third (h : ∀ p, pathExists d'' p = pathExists d' p) :
    updated d'' u (updated d' u (updated d u v)) = updated d' u (updated d u v) := by
  rw [updated_updated d' d'', config_updated, updateTarget_third h, updated_eq d' u]
  rw [config_updated]

end Document

end SketchBuild.Properties

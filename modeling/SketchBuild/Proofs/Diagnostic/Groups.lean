import SketchBuild.Diagnostic.Scan
import SketchBuild.Proofs.Table

namespace SketchBuild.Diagnostic

def group (t : Table Text (List Diagnostic)) (r : Diagnostic) : Table Text (List Diagnostic) :=
  Table.alter r.file (fun rs => rs.getD [] ++ [r]) t

def grouped (rs : List Diagnostic) : Table Text (List Diagnostic) := rs.foldl group []

def members (t : Table Text (List Diagnostic)) : List Diagnostic := t.flatMap Prod.snd

structure IsGrouped (t : Table Text (List Diagnostic)) : Prop where
  nodup : (Table.keys t).Nodup
  ne_nil : ∀ row ∈ t, row.2 ≠ []
  file : ∀ row ∈ t, ∀ r ∈ row.2, r.file = row.1

lemma grouped_concat (rs : List Diagnostic) (r : Diagnostic) :
    grouped (rs ++ [r]) = group (grouped rs) r := by
  rw [grouped, List.foldl_append]
  rfl

lemma isGrouped_group {t : Table Text (List Diagnostic)} (h : IsGrouped t) (r : Diagnostic) :
    IsGrouped (group t r) where
  nodup := Table.nodup_keys_alter h.nodup r.file _
  ne_nil := by
    intro row hrow
    rcases Table.mem_alter hrow with ht | ⟨o, rfl, _⟩
    · exact h.ne_nil row ht
    · simp
  file := by
    intro row hrow a ha
    rcases Table.mem_alter hrow with ht | ⟨o, rfl, ho⟩
    · exact h.file row ht a ha
    · rcases List.mem_append.mp ha with ha | ha
      · cases o with
        | none => simp at ha
        | some rs => exact h.file _ (ho rs rfl) a ha
      · rw [List.mem_singleton.mp ha]

lemma isGrouped_grouped (rs : List Diagnostic) : IsGrouped (grouped rs) := by
  induction rs using List.reverseRecOn with
  | nil => exact ⟨by simp [grouped, Table.keys], by simp [grouped], by simp [grouped]⟩
  | append_singleton rs r ih =>
    rw [grouped_concat]
    exact isGrouped_group ih r

lemma members_group (t : Table Text (List Diagnostic)) (r : Diagnostic) :
    (members (group t r)).Perm (members t ++ [r]) := by
  induction t with
  | nil => exact List.Perm.refl _
  | cons row t ih =>
    obtain ⟨file, rs⟩ := row
    simp only [members, group, Table.alter, List.flatMap_cons] at ih ⊢
    split
    · rw [List.flatMap_cons, Option.getD_some, List.append_assoc, List.append_assoc]
      exact List.perm_append_comm.append_left rs
    · rw [List.flatMap_cons, List.append_assoc]
      exact ih.append_left rs

lemma members_grouped (rs : List Diagnostic) : (members (grouped rs)).Perm rs := by
  induction rs using List.reverseRecOn with
  | nil => exact List.Perm.refl _
  | append_singleton rs r ih =>
    rw [grouped_concat]
    exact (members_group _ r).trans (ih.append_right [r])

lemma foldl_group {t : Table Text (List Diagnostic)} {file : Text} (hf : file ∉ Table.keys t)
    {rs : List Diagnostic} (hrs : ∀ r ∈ rs, r.file = file) (before : List Diagnostic) :
    rs.foldl group (t ++ [(file, before)]) = t ++ [(file, before ++ rs)] := by
  induction rs generalizing before with
  | nil => simp
  | cons r rs ih =>
    have hr : r.file = file := hrs r (by simp)
    have hstep : group (t ++ [(file, before)]) r = t ++ [(file, before ++ [r])] := by
      rw [group, hr, Table.alter_append hf]
      simp [Table.alter]
    rw [List.foldl_cons, hstep, ih fun a ha => hrs a (by simp [ha])]
    simp

lemma IsGrouped.grouped_members {t : Table Text (List Diagnostic)} (h : IsGrouped t) :
    grouped (members t) = t := by
  -- from the end, where a new group is put
  induction t using List.reverseRecOn with
  | nil => rfl
  | append_singleton t row ih =>
    obtain ⟨file, rs⟩ := row
    have hnodup := h.nodup
    rw [Table.keys, List.map_append, List.nodup_append] at hnodup
    obtain ⟨ht, _, hnew⟩ := hnodup
    have hfile : file ∉ Table.keys t := fun hf => hnew file hf file (by simp) rfl
    have hbefore : grouped (members t) = t :=
      ih ⟨ht, fun row hrow => h.ne_nil row (by simp [hrow]),
        fun row hrow => h.file row (by simp [hrow])⟩
    have hrs : ∀ r ∈ rs, r.file = file := h.file (file, rs) (by simp)
    have hmembers : members (t ++ [(file, rs)]) = members t ++ rs := by simp [members]
    rw [hmembers, grouped, List.foldl_append, ← grouped, hbefore]
    cases rs with
    | nil => exact (h.ne_nil (file, []) (by simp) rfl).elim
    | cons r rs =>
      have hfirst : group t r = t ++ [(file, [r])] := by
        rw [group, hrs r (by simp), Table.alter_of_not_mem hfile]
        rfl
      rw [List.foldl_cons, hfirst, foldl_group hfile fun a ha => hrs a (by simp [ha])]
      rfl

section Scan

variable (boundary : Path.Boundary) (policy : Policy)

lemma ofList_eq (rs : List Diagnostic) :
    Scan.ofList boundary policy rs = {
      byFile := grouped (rs.filter (policy.shows boundary))
      errors := (rs.filter (policy.shows boundary)).countP (·.severity = .error)
      warnings := (rs.filter (policy.shows boundary)).countP (·.severity = .warning)
      dropped := rs.countP (!policy.shows boundary ·) } := by
  induction rs using List.reverseRecOn with
  | nil => rfl
  | append_singleton rs r ih =>
    have hstep : Scan.ofList boundary policy (rs ++ [r]) =
        Scan.step boundary policy (Scan.ofList boundary policy rs) r := by
      rw [Scan.ofList, List.foldl_append]
      rfl
    rw [hstep, ih, Scan.step]
    by_cases hr : policy.shows boundary r = true
    · rw [if_pos hr, List.filter_append, List.filter_cons_of_pos hr, List.filter_nil, grouped_concat]
      simp [Scan.add, group, hr, List.countP_append, List.countP_singleton]
    · rw [if_neg hr, List.filter_append, List.filter_cons_of_neg hr, List.filter_nil, List.append_nil]
      simp [hr, List.countP_append]

lemma ofList_members (rs : List Diagnostic) :
    Scan.ofList boundary policy (members (Scan.ofList boundary policy rs).byFile) =
      { Scan.ofList boundary policy rs with dropped := 0 } := by
  have hperm := members_grouped (rs.filter (policy.shows boundary))
  have hshown : ∀ r ∈ members (grouped (rs.filter (policy.shows boundary))),
      policy.shows boundary r = true := fun r hr => (List.mem_filter.mp (hperm.mem_iff.mp hr)).2
  have hdropped : (members (grouped (rs.filter (policy.shows boundary)))).countP
      (!policy.shows boundary ·) = 0 := by
    apply List.countP_eq_zero.mpr
    intro r hr
    simp [hshown r hr]
  rw [ofList_eq boundary policy rs, ofList_eq, List.filter_eq_self.mpr hshown,
    (isGrouped_grouped _).grouped_members, hperm.countP_eq, hperm.countP_eq, hdropped]

end Scan

end SketchBuild.Diagnostic

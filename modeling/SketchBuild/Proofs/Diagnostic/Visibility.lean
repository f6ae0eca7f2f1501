import Mathlib.Data.List.Basic
import SketchBuild.Proofs.Diagnostic.Sections

namespace SketchBuild.Diagnostic

def Scan.about (s : Scan) (file : Text) : List Diagnostic := (Table.find? file s.byFile).getD []

lemma find?_grouped (rs : List Diagnostic) (file : Text) :
    (Table.find? file (grouped rs)).getD [] = rs.filter (·.file = file) := by
  induction rs using List.reverseRecOn with
  | nil => rfl
  | append_singleton rs r ih =>
    rw [grouped_concat, group, Table.find?_alter, filter_concat]
    by_cases hfile : r.file = file
    · rw [if_pos hfile, if_pos hfile.symm, Option.getD_some, hfile, ih]
    · rw [if_neg hfile, if_neg (Ne.symm hfile), ih]

section Shown

variable {boundary boundary' : Path.Boundary} {policy policy' : Policy}

lemma about_ofList (rs : List Diagnostic) (file : Text) :
    (Scan.ofList boundary policy rs).about file =
      (rs.filter (policy.shows boundary)).filter (·.file = file) := by
  rw [Scan.about, ofList_eq]
  exact find?_grouped _ file

lemma about_sublist_about (h : ∀ r, policy.shows boundary r = true → policy'.shows boundary' r = true)
    (rs : List Diagnostic) (file : Text) :
    ((Scan.ofList boundary policy rs).about file).Sublist
      ((Scan.ofList boundary' policy' rs).about file) := by
  rw [about_ofList, about_ofList]
  exact (List.monotone_filter_right rs h).filter _

lemma about_of_contains {file : Text} (h : boundary.contains file = true) (rs : List Diagnostic) :
    (Scan.ofList boundary policy rs).about file = rs.filter (·.file = file) := by
  rw [about_ofList, List.filter_filter]
  apply List.filter_congr
  intro r _
  by_cases hfile : r.file = file
  · simp [Policy.shows, hfile, h]
  · simp [hfile]

lemma filter_severity_about {severity : Severity}
    (h : ∀ r, r.severity = severity → policy.shows boundary r = policy'.shows boundary r)
    (rs : List Diagnostic) (file : Text) :
    ((Scan.ofList boundary policy rs).about file).filter (·.severity = severity) =
      ((Scan.ofList boundary policy' rs).about file).filter (·.severity = severity) := by
  rw [about_ofList, about_ofList]
  simp only [List.filter_filter]
  apply List.filter_congr
  intro r _
  by_cases hseverity : r.severity = severity
  · rw [h r hseverity]
  · simp [hseverity]

lemma contains_of_subset (h : boundary.roots ⊆ boundary'.roots) {path : Text}
    (hp : boundary.contains path = true) : boundary'.contains path = true := by
  obtain ⟨root, hroot, hunder⟩ := List.any_eq_true.mp hp
  exact List.any_eq_true.mpr ⟨root, h hroot, hunder⟩

lemma shows_of_subset (h : boundary.roots ⊆ boundary'.roots) {r : Diagnostic}
    (hr : policy.shows boundary r = true) : policy.shows boundary' r = true := by
  rw [Policy.shows, Bool.or_eq_true] at hr ⊢
  exact hr.imp_left (contains_of_subset h)

end Shown

section Scan

variable (cwd workingDir text : Text)

/-- Three scans of the same diagnostics: one that shows nothing outside the boundary, one that shows only the
errors there, and one that shows all. -/
structure IsLoosened (boundary : Path.Boundary) (rs : List Diagnostic) (inner muted full : Scan) :
    Prop where
  inner_sublist : ∀ file, (inner.about file).Sublist (muted.about file)
  muted_sublist : ∀ file, (muted.about file).Sublist (full.about file)
  inside : ∀ file, boundary.contains file = true → inner.about file = rs.filter (·.file = file) ∧
    muted.about file = rs.filter (·.file = file) ∧ full.about file = rs.filter (·.file = file)
  errors : ∀ file, (muted.about file).filter (·.severity = .error) =
    (full.about file).filter (·.severity = .error)

lemma isLoosened_ofList (boundary : Path.Boundary) (hides : Bool) (rs : List Diagnostic) :
    IsLoosened boundary rs
      (Scan.ofList boundary { hidesOutsideWarnings := hides, showsOutside := false } rs)
      (Scan.ofList boundary { hidesOutsideWarnings := true, showsOutside := true } rs)
      (Scan.ofList boundary { hidesOutsideWarnings := false, showsOutside := true } rs) where
  inner_sublist := by
    apply about_sublist_about
    intro r hr
    simp_all [Policy.shows]
  muted_sublist := by
    apply about_sublist_about
    intro r _
    simp [Policy.shows]
  inside := by
    intro file hfile
    exact ⟨about_of_contains hfile rs, about_of_contains hfile rs, about_of_contains hfile rs⟩
  errors := by
    apply filter_severity_about
    intro r hr
    simp [Policy.shows, hr]

/-- A policy that shows more and a boundary with more roots only add diagnostics, the project is always shown,
and what is shown and what is hidden are all the diagnostics of the text. -/
theorem scan_visibility :
    (∀ boundary hides, IsLoosened boundary (ofText cwd workingDir text)
      (scan cwd workingDir boundary { hidesOutsideWarnings := hides, showsOutside := false } text).value
      (scan cwd workingDir boundary { hidesOutsideWarnings := true, showsOutside := true } text).value
      (scan cwd workingDir boundary { hidesOutsideWarnings := false, showsOutside := true } text).value) ∧
    (∀ boundary boundary' policy, boundary.roots ⊆ boundary'.roots → ∀ file,
      ((scan cwd workingDir boundary policy text).value.about file).Sublist
        ((scan cwd workingDir boundary' policy text).value.about file)) ∧
    ∀ boundary policy, (scan cwd workingDir boundary policy text).value.count +
      (scan cwd workingDir boundary policy text).value.dropped = (ofText cwd workingDir text).length := by
  have hvalue : ∀ boundary policy, (scan cwd workingDir boundary policy text).value =
      Scan.ofList boundary policy (ofText cwd workingDir text) :=
    fun boundary policy => scanText_eq cwd workingDir boundary policy text
  have hposition : ∀ r ∈ ofText cwd workingDir text, 1 ≤ r.line ∧ 1 ≤ r.column := by
    intro r hr
    obtain ⟨line, _, hread⟩ := exists_isRead hr
    exact ⟨hread.line_pos, hread.column_pos⟩
  simp only [hvalue]
  refine ⟨fun boundary hides => isLoosened_ofList boundary hides _, ?_, ?_⟩
  · intro boundary boundary' policy hroots
    exact about_sublist_about (fun r => shows_of_subset hroots) _
  · intro boundary policy
    exact (isPartition_ofList boundary policy hposition).count

theorem scan_visibility_sample :
    let text : Text := "/b.c:1: warning: x\n/b.c:2: error: y\na.c:3: warning: z"
    let s := fun boundary policy => (scan "/" "/w" boundary policy text).value
    let boundary : Path.Boundary := ⟨["/w"]⟩
    let wider : Path.Boundary := ⟨["/", "/w"]⟩
    boundary.contains "/w/a.c" = true ∧ boundary.roots ⊆ wider.roots ∧
      (s boundary { showsOutside := false }).about "/w/a.c" =
        (s boundary { hidesOutsideWarnings := false, showsOutside := true }).about "/w/a.c" ∧
      ((s boundary {}).about "/b.c").Sublist ((s wider {}).about "/b.c") ∧
      (s boundary {}).about "/b.c" = [] ∧ ((s wider {}).about "/b.c").length = 2 ∧
      ((s boundary { showsOutside := true }).about "/b.c").length = 1 := by
  intro text s boundary wider
  obtain ⟨hpolicies, hroots, _⟩ := scan_visibility "/" "/w" text
  have hcontains : boundary.contains "/w/a.c" = true := by decide
  have hsubset : boundary.roots ⊆ wider.roots := by decide
  obtain ⟨hinner, _, hfull⟩ := (hpolicies boundary true).inside "/w/a.c" hcontains
  exact ⟨hcontains, hsubset, hinner.trans hfull.symm, hroots boundary wider {} hsubset "/b.c", by decide,
    by decide, by decide⟩

end Scan

end SketchBuild.Diagnostic

import SketchBuild.Proofs.Diagnostic.Lines

namespace SketchBuild.Diagnostic

section Sections

def sections (rs : List Diagnostic) : Table Text (List Diagnostic) :=
  (rs.map Diagnostic.file).eraseDups.map fun file => (file, rs.filter (·.file = file))

lemma filter_concat (rs : List Diagnostic) (r : Diagnostic) (file : Text) :
    (rs ++ [r]).filter (·.file = file) =
      if file = r.file then rs.filter (·.file = file) ++ [r] else rs.filter (·.file = file) := by
  rw [List.filter_append]
  split
  · rename_i h
    simp [h]
  · rename_i h
    simp [Ne.symm h]

lemma filter_eq_nil {rs : List Diagnostic} {file : Text}
    (h : file ∉ (rs.map Diagnostic.file).eraseDups) : rs.filter (·.file = file) = [] := by
  apply List.filter_eq_nil_iff.mpr
  intro r hr hfile
  rw [decide_eq_true_eq] at hfile
  exact h (List.mem_eraseDups.mpr (hfile ▸ List.mem_map_of_mem hr))

lemma keys_sections (rs : List Diagnostic) :
    Table.keys (sections rs) = (rs.map Diagnostic.file).eraseDups := by
  rw [Table.keys, sections, List.map_map]
  exact List.map_id _

lemma sections_concat (rs : List Diagnostic) (r : Diagnostic) :
    sections (rs ++ [r]) = group (sections rs) r := by
  have hnodup := Table.nodup_eraseDups (rs.map Diagnostic.file)
  rw [sections, List.map_append, List.map_singleton, Table.eraseDups_concat, group]
  split
  · rename_i hmem
    rw [sections, Table.alter_map hnodup hmem]
    apply List.map_congr_left
    intro file _
    rw [filter_concat]
    split <;> rfl
  · rename_i hnew
    have hkeys : r.file ∉ Table.keys (sections rs) := by
      rwa [keys_sections]
    rw [Table.alter_of_not_mem hkeys, List.map_append, List.map_singleton, filter_concat, if_pos rfl,
      filter_eq_nil hnew, sections]
    congr 1
    apply List.map_congr_left
    intro file hfile
    rw [filter_concat, if_neg]
    rintro rfl
    exact hnew hfile

lemma filter_eq_of_sections {rs rs' : List Diagnostic} (h : sections rs = sections rs') (file : Text) :
    rs.filter (·.file = file) = rs'.filter (·.file = file) := by
  have hkeys := congrArg Table.keys h
  rw [keys_sections, keys_sections] at hkeys
  by_cases hfile : file ∈ (rs.map Diagnostic.file).eraseDups
  · rw [sections, sections, ← hkeys, List.map_inj_left] at h
    exact (Prod.mk.inj (h file hfile)).2
  · rw [filter_eq_nil hfile, filter_eq_nil (hkeys ▸ hfile)]

lemma sections_append {rs rs' : List Diagnostic} (h : sections rs = sections rs')
    (before : List Diagnostic) : sections (before ++ rs) = sections (before ++ rs') := by
  have hkeys := congrArg Table.keys h
  rw [keys_sections, keys_sections] at hkeys
  have hfiles : ((before ++ rs).map Diagnostic.file).eraseDups =
      ((before ++ rs').map Diagnostic.file).eraseDups := by
    rw [List.map_append, List.map_append, ← Table.eraseDups_append_eraseDups, hkeys,
      Table.eraseDups_append_eraseDups]
  rw [sections, sections, hfiles]
  apply List.map_congr_left
  intro file _
  rw [List.filter_append, List.filter_append, filter_eq_of_sections h]

lemma grouped_eq_sections (rs : List Diagnostic) : grouped rs = sections rs := by
  induction rs using List.reverseRecOn with
  | nil => rfl
  | append_singleton rs r ih => rw [grouped_concat, ih, sections_concat]

lemma grouped_append_members (before rs : List Diagnostic) :
    grouped (before ++ members (grouped rs)) = grouped (before ++ rs) := by
  have hmembers : sections (members (grouped rs)) = sections rs := by
    rw [← grouped_eq_sections, (isGrouped_grouped rs).grouped_members, grouped_eq_sections]
  rw [grouped_eq_sections (before ++ _), sections_append hmembers, ← grouped_eq_sections]

end Sections

section Seam

lemma outputLines_of_unifyNewlines {text s t : Text}
    (h : Text.unifyNewlines text = Text.unifyNewlines s ++ '\n' :: Text.unifyNewlines t) :
    outputLines text = outputLines s ++ outputLines t := by
  rw [outputLines, h, dropColors_append (by decide), Text.lines, Path.pieces_separated, outputLines,
    outputLines, Text.lines, Text.lines]

lemma ofText_append (cwd workingDir s t : Text) :
    ofText cwd workingDir (s ++ '\n' :: t) = ofText cwd workingDir s ++ ofText cwd workingDir t := by
  by_cases hs : s.getLast? = some '\r'
  · -- Read alone, such a text has one more line, and this line is empty.
    obtain ⟨s, rfl⟩ := List.getLast?_eq_some_iff.mp hs
    have hpair : Text.unifyNewlines (s ++ ['\r'] ++ '\n' :: t) =
        Text.unifyNewlines s ++ '\n' :: Text.unifyNewlines t := by
      rw [List.append_assoc, Text.unifyNewlines_append (by simp)]
      rfl
    have hreturn : Text.unifyNewlines (s ++ ['\r']) =
        Text.unifyNewlines s ++ '\n' :: Text.unifyNewlines [] := by
      rw [Text.unifyNewlines_append (by simp)]
      rfl
    have hempty : ofText cwd workingDir [] = [] := rfl
    simp only [ofText] at hempty ⊢
    rw [outputLines_of_unifyNewlines hpair, outputLines_of_unifyNewlines hreturn, List.filterMap_append,
      List.filterMap_append, hempty, List.append_nil]
  · have hseam : Text.unifyNewlines (s ++ '\n' :: t) =
        Text.unifyNewlines s ++ '\n' :: Text.unifyNewlines t := by
      rw [Text.unifyNewlines_append fun h => (hs h).elim]
      rfl
    rw [ofText, outputLines_of_unifyNewlines hseam, List.filterMap_append, ofText, ofText]

end Seam

section Scan

variable (cwd workingDir : Text) (boundary : Path.Boundary) (policy : Policy)

/-- The shown ones of some diagnostics by file, each once and in order, and the counts of all. -/
structure IsPartition (rs : List Diagnostic) (s : Scan) : Prop extends IsGrouped s.byFile where
  byFile : s.byFile = sections (rs.filter (policy.shows boundary))
  lossless : (members s.byFile).Perm (rs.filter (policy.shows boundary))
  position : ∀ r ∈ members s.byFile, 1 ≤ r.line ∧ 1 ≤ r.column
  errors : s.errors = (members s.byFile).countP (·.severity = .error)
  warnings : s.warnings = (members s.byFile).countP (·.severity = .warning)
  count : s.count + s.dropped = rs.length

/-- A scan whose diagnostics are put one by one behind those of another one, with all counts added. -/
structure IsContinued (first second whole : Scan) : Prop where
  byFile : whole.byFile = ((members second.byFile).foldl Scan.add first).byFile
  errors : whole.errors = first.errors + second.errors
  warnings : whole.warnings = first.warnings + second.warnings
  dropped : whole.dropped = first.dropped + second.dropped

lemma countP_severity (rs : List Diagnostic) :
    rs.countP (·.severity = .error) + rs.countP (·.severity = .warning) = rs.length := by
  rw [List.length_eq_countP_add_countP (·.severity = .error)]
  congr 1
  apply List.countP_congr
  intro r _
  cases r.severity <;> simp

lemma isPartition_ofList {rs : List Diagnostic} (hrs : ∀ r ∈ rs, 1 ≤ r.line ∧ 1 ≤ r.column) :
    IsPartition boundary policy rs (Scan.ofList boundary policy rs) := by
  have hperm := members_grouped (rs.filter (policy.shows boundary))
  rw [ofList_eq]
  refine { isGrouped_grouped _ with
    byFile := grouped_eq_sections _
    lossless := hperm
    position := ?_
    errors := (hperm.countP_eq _).symm
    warnings := (hperm.countP_eq _).symm
    count := ?_ }
  · intro r hr
    exact hrs r (List.mem_filter.mp (hperm.mem_iff.mp hr)).1
  · rw [Scan.count, countP_severity, ← List.countP_eq_length_filter,
      List.length_eq_countP_add_countP (policy.shows boundary)]
    simp

lemma byFile_foldl_add (rs : List Diagnostic) (s : Scan) :
    (rs.foldl Scan.add s).byFile = rs.foldl group s.byFile := by
  induction rs generalizing s with
  | nil => rfl
  | cons r rs ih => exact ih (s.add r)

lemma isContinued_ofList (rs rs' : List Diagnostic) :
    IsContinued (Scan.ofList boundary policy rs) (Scan.ofList boundary policy rs')
      (Scan.ofList boundary policy (rs ++ rs')) := by
  rw [ofList_eq, ofList_eq, ofList_eq, List.filter_append]
  refine ⟨?_, List.countP_append, List.countP_append, List.countP_append⟩
  rw [byFile_foldl_add, ← grouped_append_members, grouped, List.foldl_append]
  rfl

/-- A scan is a stable and lossless partition of the diagnostics of its lines, and goes on with the next
lines where it ended. -/
theorem scan_partition (text : Text) :
    (∃ lines, IsLines text lines ∧
        IsPartition boundary policy (lines.filterMap (ofLine? cwd workingDir))
          (scan cwd workingDir boundary policy text).value) ∧
      ∀ more, IsContinued (scan cwd workingDir boundary policy text).value
        (scan cwd workingDir boundary policy more).value
        (scan cwd workingDir boundary policy (text ++ '\n' :: more)).value := by
  have hvalue : ∀ t, (scan cwd workingDir boundary policy t).value =
      Scan.ofList boundary policy (ofText cwd workingDir t) := scanText_eq cwd workingDir boundary policy
  refine ⟨⟨outputLines text, isLines_iff.mpr rfl, ?_⟩, ?_⟩
  · rw [hvalue, ofText]
    apply isPartition_ofList
    intro r hr
    obtain ⟨line, _, hread⟩ := exists_isRead hr
    exact ⟨hread.line_pos, hread.column_pos⟩
  · intro more
    rw [hvalue, hvalue, hvalue, ofText_append]
    exact isContinued_ofList boundary policy _ _

theorem scan_partition_sample :
    let text : Text := "a.c:3:5: er\x1b[01;31mror: x\r/b.c:1: warning: y\ra.c:4: note: n\nd/e.c:7: error: z\r"
    let more : Text := "a.c:42:6: warning: v [-Wa]\r\n"
    let whole := text ++ '\n' :: more
    let x : Diagnostic := { severity := .error, message := "x", file := "/w/a.c", line := 3, column := 5 }
    let y : Diagnostic := { severity := .warning, message := "y", file := "/b.c", line := 1, column := 1 }
    let z : Diagnostic := { severity := .error, message := "z", file := "/w/d/e.c", line := 7, column := 1 }
    let v : Diagnostic := {
      severity := .warning
      message := "v [-Wa]"
      file := "/w/a.c"
      line := 42
      column := 6
      code := some "a" }
    let s := fun t => (scan "/" "/w" ⟨["/w"]⟩ {} t).value
    (∃ lines, IsLines whole lines ∧ lines.filterMap (ofLine? "/" "/w") = [x, y, z, v] ∧
        IsPartition ⟨["/w"]⟩ {} [x, y, z, v] (s whole)) ∧
      s text = { byFile := [("/w/a.c", [x]), ("/w/d/e.c", [z])], errors := 2, dropped := 1 } ∧
      s more = { byFile := [("/w/a.c", [v])], warnings := 1 } ∧
      s whole = {
        byFile := [("/w/a.c", [x, v]), ("/w/d/e.c", [z])], errors := 2, warnings := 1, dropped := 1 } ∧
      IsContinued (s text) (s more) (s whole) := by
  intro text more whole x y z v s
  obtain ⟨⟨lines, hlines, hpartition⟩, _⟩ := scan_partition "/" "/w" ⟨["/w"]⟩ {} whole
  have hread : lines.filterMap (ofLine? "/" "/w") = [x, y, z, v] := by
    rw [isLines_iff.mp hlines]
    decide
  rw [hread] at hpartition
  exact ⟨⟨lines, hlines, hread, hpartition⟩, by decide, by decide, by decide,
    (scan_partition "/" "/w" ⟨["/w"]⟩ {} text).2 more⟩

end Scan

end SketchBuild.Diagnostic

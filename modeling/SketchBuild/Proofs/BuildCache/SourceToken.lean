import SketchBuild.Proofs.BuildCache.Reconstruction
import SketchBuild.Proofs.Database.Restore

namespace SketchBuild.BuildCache

open Database (IsSourceArgument replaceSource)

section Pieces

variable {arguments : List Text} {object : Option Text} {token : Text}

lemma mem_pieces (h : token ∈ arguments) (hne : token ≠ outputFlag) :
    .single token ∈ pieces arguments ∨ .output token ∈ pieces arguments := by
  induction arguments using pieces.induct with
  | case1 => simp at h
  | case2 argument =>
    rw [List.mem_singleton.mp h, pieces]
    exact Or.inl (List.mem_singleton_self _)
  | case3 next rest ih =>
    rw [pieces, if_pos rfl]
    rcases List.mem_cons.mp h with rfl | h
    · exact (hne rfl).elim
    · rcases List.mem_cons.mp h with rfl | h
      · exact Or.inr List.mem_cons_self
      · exact (ih h).imp (List.mem_cons_of_mem _) (List.mem_cons_of_mem _)
  | case4 argument next rest hargument ih =>
    rw [pieces, if_neg hargument]
    rcases List.mem_cons.mp h with rfl | h
    · exact Or.inl List.mem_cons_self
    · exact (ih h).imp (List.mem_cons_of_mem _) (List.mem_cons_of_mem _)

/-- Whether a token stands among some arguments, the target of an output flag read as the object file if
that is known. -/
def Stays (object : Option Text) (arguments : List Text) (token : Text) : Prop :=
  .single token ∈ pieces arguments ∨ ∃ target, .output target ∈ pieces arguments ∧ object.getD target = token

lemma not_isSource_of_mem (h : token ∈ outputFlag :: taskFlags ++ nullTargets) :
    Path.isSource token = false := by
  revert token
  decide

variable (hsource : Path.isSource token = true)

include hsource

lemma not_mem_of_isSource : token ≠ outputFlag ∧ token ∉ taskFlags ∧ token ∉ nullTargets := by
  have hkept : token ∉ outputFlag :: taskFlags ++ nullTargets := by
    intro h
    simp [not_isSource_of_mem h] at hsource
  simpa only [List.cons_append, List.mem_cons, List.mem_append, not_or] using hkept

lemma Piece.mem_rewritten_iff {discards : Bool} {i : ℕ} (piece : Piece) :
    token ∈ piece.rewritten object discards i ↔
      piece = .single token ∨ ∃ target, piece = .output target ∧ object.getD target = token := by
  obtain ⟨houtput, hflag, hnull⟩ := not_mem_of_isSource hsource
  cases piece with
  | single argument =>
    rw [rewritten]
    by_cases hargument : argument = token
    · subst hargument
      simp [hflag]
    · have hnot : token ∉ if 0 < i ∧ argument ∈ taskFlags then [] else [argument] := by
        split
        · exact List.not_mem_nil
        · simpa using Ne.symm hargument
      simp [hnot, hargument]
  | output target =>
    cases object with
    | some path => simp [rewritten, houtput, eq_comm]
    | none =>
      rw [rewritten]
      by_cases htarget : target = token
      · subst htarget
        simp [hnull]
      · have hnot : token ∉ if discards = true ∧ target ∈ nullTargets then [] else [outputFlag, target] := by
          split
          · exact List.not_mem_nil
          · simpa using ⟨houtput, Ne.symm htarget⟩
        simp [hnot, htarget]

lemma mem_rewritten_iff : token ∈ rewritten object arguments ↔ Stays object arguments token := by
  rw [rewritten, List.mem_flatMap, Stays]
  constructor
  · rintro ⟨⟨piece, i⟩, hpiece, htoken⟩
    have hmem : piece ∈ pieces arguments := List.fst_mem_of_mem_zipIdx hpiece
    rcases (piece.mem_rewritten_iff hsource).mp htoken with rfl | ⟨target, rfl, hobject⟩
    · exact Or.inl hmem
    · exact Or.inr ⟨target, hmem, hobject⟩
  · intro hstays
    have hrow : ∀ piece ∈ pieces arguments, ∃ i, (piece, i) ∈ (pieces arguments).zipIdx := by
      intro piece hpiece
      obtain ⟨i, hi⟩ := List.mem_iff_getElem?.mp hpiece
      exact ⟨i, List.mem_zipIdx_iff_getElem?.mpr hi⟩
    rcases hstays with hmem | ⟨target, hmem, hobject⟩
    · obtain ⟨i, hi⟩ := hrow _ hmem
      exact ⟨_, hi, (Piece.mem_rewritten_iff hsource _).mpr (Or.inl rfl)⟩
    · obtain ⟨i, hi⟩ := hrow _ hmem
      exact ⟨_, hi, (Piece.mem_rewritten_iff hsource _).mpr (Or.inr ⟨target, rfl, hobject⟩)⟩

end Pieces

section Tokens

variable {cwd base : Text} {e : Entry} {arguments : List Text} {object : Option Text}

/-- A token that a merge takes for the source of an entry. -/
structure IsToken (cwd : Text) (e : Entry) (token : Text) : Prop where
  source : IsSourceArgument token
  file : Path.resolve cwd e.directory token = e.file

structure HasSource (cwd : Text) (object : Option Text) (arguments : List Text) (e : Entry) : Prop where
  found : ∀ source, sourceArgument? arguments = some source → source.head? ≠ some '-' →
    object = none ∨ .single source ∈ pieces arguments → source ∈ e.arguments ∧ IsToken cwd e source
  exact : (∃ token ∈ e.arguments, IsToken cwd e token) ↔
    ∃ token, Stays object arguments token ∧ IsToken cwd e token
  replaced : Path.IsLocation e.file → (∃ token ∈ e.arguments, IsToken cwd e token) →
    ∀ target, ∃ before token after, e.arguments = before ++ token :: after ∧ IsSourceArgument token ∧
      replaceSource cwd e.directory (e.path cwd) target e.arguments = before ++ target :: after

lemma exists_replaceSource {directory path : Text}
    (h : ∃ token ∈ arguments, IsSourceArgument token ∧
      Path.normalize (Path.resolve cwd directory token) = Path.normalize path) (target : Text) :
    ∃ before token after, arguments = before ++ token :: after ∧ IsSourceArgument token ∧
      replaceSource cwd directory path target arguments = before ++ target :: after := by
  induction arguments with
  | nil => simp at h
  | cons argument rest ih =>
    by_cases hargument : IsSourceArgument argument ∧
        Path.normalize (Path.resolve cwd directory argument) = Path.normalize path
    · obtain ⟨⟨hdash, hsource⟩, hpath⟩ := hargument
      refine ⟨[], argument, rest, rfl, ⟨hdash, hsource⟩, ?_⟩
      rw [replaceSource, decide_eq_true hdash, hsource, decide_eq_true hpath]
      rfl
    · obtain ⟨token, hmem, htoken⟩ := h
      have hrest : token ∈ rest := by
        rcases List.mem_cons.mp hmem with rfl | hrest
        · exact (hargument htoken).elim
        · exact hrest
      obtain ⟨before, found, after, hsplit, hfound, hreplace⟩ := ih ⟨token, hrest, htoken⟩
      refine ⟨argument :: before, found, after, by rw [hsplit]; rfl, hfound, ?_⟩
      rw [replaceSource, if_neg, hreplace, List.cons_append]
      simpa [IsSourceArgument, and_assoc] using hargument

lemma hasSource_of_entryOf {element : Json} (hlists : Lists element arguments)
    (hrecorded : recorded? element "source_path" = none) (he : entryOf cwd base element = some e) :
    HasSource cwd (recorded? element "object_path") arguments e := by
  obtain ⟨hlists', hsource, _⟩ := entryOf_eq_some_iff.mp he
  obtain rfl := hlists.unique hlists'
  have hscanned := isSource_iff.mpr hsource
  rw [hrecorded, Option.none_or] at hscanned
  refine ⟨?_, ?_, ?_⟩
  · intro source hfound hdash hstays
    obtain rfl := Option.some.inj (hscanned.symm.trans hfound)
    obtain ⟨hname, before, after, rfl, _⟩ := sourceArgument?_eq_some_iff.mp hscanned
    refine ⟨(mem_rewritten_iff hname).mpr ?_, ⟨hdash, hname⟩, rfl⟩
    rcases hstays with hobject | hsingle
    · rw [hobject]
      have hmem := mem_pieces (List.mem_append_right before (List.mem_cons_self (l := after)))
        (not_mem_of_isSource hname).1
      exact hmem.imp_right fun houtput => ⟨_, houtput, rfl⟩
    · exact Or.inl hsingle
  · constructor
    · rintro ⟨token, hmem, htoken⟩
      exact ⟨token, (mem_rewritten_iff htoken.source.2).mp hmem, htoken⟩
    · rintro ⟨token, hstays, htoken⟩
      exact ⟨token, (mem_rewritten_iff htoken.source.2).mpr hstays, htoken⟩
  · rintro hlocation ⟨token, hmem, htoken⟩
    apply exists_replaceSource
    refine ⟨token, hmem, htoken.source, ?_⟩
    rw [htoken.file, Entry.path, hlocation.fixed]

/-- Of an entry whose source is not recorded, some argument leads to its file if the source that was found is
no option and no target that is rewritten, and in any case exactly if one stays among the arguments. -/
theorem entries_haveSource (d : Disk) (buildDir sketchDir : Text) (elements : List Json) (es : List Entry)
    (hcache : Storage.document d (Path.join buildDir cacheFile) = .ok (.value (.arr elements)))
    (hentries : (entries d buildDir sketchDir).run.value = .ok es) :
    ∃ base, es = elements.filterMap (entryOf d.cwd base) ∧
      ∀ element arguments e, Lists element arguments → recorded? element "source_path" = none →
        entryOf d.cwd base element = some e →
        HasSource d.cwd (recorded? element "object_path") arguments e := by
  rw [value_entries_of_list hcache] at hentries
  cases hlocation : (sketchLocation? d buildDir).run.value with
  | error e => simp [hlocation, Except.map] at hentries
  | ok location =>
    rw [hlocation] at hentries
    exact ⟨_, (Except.ok.inj hentries).symm, fun _ _ _ => hasSource_of_entryOf⟩

end Tokens

section Samples

def elementOf (arguments : List Text) : Json :=
  .obj [("compile_task", .obj [("args", .arr (arguments.map .str))])]

def cacheDisk (elements : List Json) : Disk where
  root := .dir [("b", .dir [(cacheFile, .file (Storage.documentBytes (.arr elements)))])]
  here := []

lemma isDocument_elementOf (arguments : List Text) : (elementOf arguments).IsDocument := by
  have htask : Json.IsDocument (.obj [("args", .arr (arguments.map .str))]) :=
    .obj _ (List.nodup_singleton _) (List.forall_mem_singleton.mpr (.arr_map fun s _ => .str s))
  exact .obj _ (List.nodup_singleton _) (List.forall_mem_singleton.mpr htask)

lemma document_cacheDisk {elements : List Json} (h : ∀ element ∈ elements, element.IsDocument) :
    Storage.document (cacheDisk elements) (Path.join "/b" cacheFile) = .ok (.value (.arr elements)) := by
  have hread : (cacheDisk elements).read (Path.join "/b" cacheFile) =
      .ok (Storage.documentBytes (.arr elements)) := rfl
  exact (Storage.document_of_read hread).trans (Storage.documentOfBytes_documentBytes _ (.arr _ h))

lemma value_entries_cacheDisk (arguments : List Text) :
    (entries (cacheDisk [elementOf arguments]) "/b" "/p").run.value =
      .ok ([elementOf arguments].filterMap (entryOf "/" "/p")) := by
  have hcache := document_cacheDisk (List.forall_mem_singleton.mpr (isDocument_elementOf arguments))
  have hlocation : (sketchLocation? (cacheDisk [elementOf arguments]) "/b").run.value = .ok none := rfl
  rw [value_entries_of_list hcache, hlocation]
  rfl

def plainArguments : List Text := ["g++", "-c", "main.cpp", "-o", "/dev/null"]

def plainEntry : Entry where
  directory := "/p"
  file := "/p/main.cpp"
  arguments := ["g++", "main.cpp"]

theorem entries_haveSource_sample :
    (entries (cacheDisk [elementOf plainArguments]) "/b" "/p").run.value = .ok [plainEntry] ∧
      HasSource "/" none plainArguments plainEntry := by
  have hentries : (entries (cacheDisk [elementOf plainArguments]) "/b" "/p").run.value = .ok [plainEntry] :=
    (value_entries_cacheDisk plainArguments).trans rfl
  obtain ⟨base, hes, hall⟩ := entries_haveSource _ _ _ _ _
    (document_cacheDisk (List.forall_mem_singleton.mpr (isDocument_elementOf _))) hentries
  have hlists : Lists (elementOf plainArguments) plainArguments := lists_iff.mpr ⟨_, rfl, rfl⟩
  refine ⟨hentries, hall (elementOf plainArguments) plainArguments plainEntry hlists rfl ?_⟩
  cases hentry : entryOf (cacheDisk [elementOf plainArguments]).cwd base (elementOf plainArguments) with
  | none => simp [hentry] at hes
  | some e => simpa [hentry, eq_comm] using hes

def definedArguments : List Text := ["g++", "-c", "main.cpp", "-DFILE=x.c"]

def definedEntry : Entry where
  directory := "/p"
  file := "/p/-DFILE=x.c"
  arguments := ["g++", "main.cpp", "-DFILE=x.c"]

/-- The definition is taken for the source, and no argument leads to the file of the entry. -/
theorem entries_haveSource_defined :
    (entries (cacheDisk [elementOf definedArguments]) "/b" "/p").run.value = .ok [definedEntry] ∧
      recorded? (elementOf definedArguments) "source_path" = none ∧
      ∀ token ∈ definedEntry.arguments, ¬IsToken "/" definedEntry token := by
  refine ⟨(value_entries_cacheDisk definedArguments).trans rfl, rfl, ?_⟩
  rintro token htoken ⟨⟨hdash, hsource⟩, hfile⟩
  simp only [definedEntry, List.mem_cons, List.not_mem_nil, or_false] at htoken
  rcases htoken with rfl | rfl | rfl
  · exact absurd hsource (by decide)
  · exact absurd hfile (by decide)
  · exact hdash rfl

end Samples

end SketchBuild.BuildCache

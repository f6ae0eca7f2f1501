import SketchBuild.BuildCache
import SketchBuild.Proofs.Path.Location
import SketchBuild.Proofs.Storage.Document
import SketchBuild.Proofs.Storage.Reading

namespace SketchBuild.BuildCache

/-- A piece of the arguments of a task: an output flag with its target, or one argument. -/
inductive Piece where
  | output (target : Text)
  | single (argument : Text)
  deriving DecidableEq

def pieces : List Text → List Piece
  | [] => []
  | [argument] => [.single argument]
  | argument :: next :: rest =>
    if argument = outputFlag then .output next :: pieces rest
    else .single argument :: pieces (next :: rest)

/-- Whether a null device follows the last output flag that anything follows. -/
def DiscardsObject (arguments : List Text) : Prop :=
  -- the flag itself may be the target of one before it, which the pieces would not tell
  ∃ before next after, arguments = before ++ outputFlag :: next :: after ∧
    outputFlag ∉ (next :: after).dropLast ∧ next ∈ nullTargets

section Discarded

variable {arguments : List Text} {target : Text}

lemma outputTarget?_eq_none_iff : outputTarget? arguments = none ↔ outputFlag ∉ arguments.dropLast := by
  induction arguments with
  | nil => simp [outputTarget?]
  | cons argument rest ih =>
    cases rest with
    | nil => simp [outputTarget?]
    | cons next rest =>
      rw [List.dropLast_cons_cons, List.mem_cons, not_or, ← ih, outputTarget?.eq_def]
      dsimp only
      cases outputTarget? (next :: rest) with
      | some target => simp
      | none => simp [eq_comm]

lemma outputTarget?_append_pair (before : List Text) {after : List Text}
    (h : outputFlag ∉ (target :: after).dropLast) :
    outputTarget? (before ++ outputFlag :: target :: after) = some target := by
  induction before with
  | nil =>
    rw [List.nil_append, outputTarget?, outputTarget?_eq_none_iff.mpr h]
    simp
  | cons argument before ih => rw [List.cons_append, outputTarget?, ih]

lemma outputTarget?_eq_some_iff : outputTarget? arguments = some target ↔
    ∃ before after, arguments = before ++ outputFlag :: target :: after ∧
      outputFlag ∉ (target :: after).dropLast := by
  constructor
  · intro h
    induction arguments with
    | nil => simp [outputTarget?] at h
    | cons argument rest ih =>
      rw [outputTarget?] at h
      cases hrest : outputTarget? rest with
      | some found =>
        rw [hrest] at h
        obtain ⟨before, after, rfl, hlast⟩ := ih (hrest.trans h)
        exact ⟨argument :: before, after, rfl, hlast⟩
      | none =>
        simp only [hrest, Option.ite_none_right_eq_some] at h
        obtain ⟨rfl, hhead⟩ := h
        obtain ⟨after, rfl⟩ := List.head?_eq_some_iff.mp hhead
        exact ⟨[], after, rfl, outputTarget?_eq_none_iff.mp hrest⟩
  · rintro ⟨before, after, rfl, hlast⟩
    exact outputTarget?_append_pair before hlast

lemma discardsObject_iff :
    (outputTarget? arguments).any (· ∈ nullTargets) = true ↔ DiscardsObject arguments := by
  rw [Option.any_eq_true]
  constructor
  · rintro ⟨next, htarget, hnull⟩
    obtain ⟨before, after, hsplit, hlast⟩ := outputTarget?_eq_some_iff.mp htarget
    exact ⟨before, next, after, hsplit, hlast, of_decide_eq_true hnull⟩
  · rintro ⟨before, next, after, hsplit, hlast, hnull⟩
    exact ⟨next, outputTarget?_eq_some_iff.mpr ⟨before, after, hsplit, hlast⟩, decide_eq_true hnull⟩

instance : Decidable (DiscardsObject arguments) := decidable_of_iff _ discardsObject_iff

lemma any_outputTarget? (arguments : List Text) :
    (outputTarget? arguments).any (· ∈ nullTargets) = decide (DiscardsObject arguments) :=
  Bool.eq_iff_iff.mpr (discardsObject_iff.trans decide_eq_true_iff.symm)

end Discarded

def Piece.rewritten (object : Option Text) (discards : Bool) (i : ℕ) : Piece → List Text
  | .output target =>
    match object with
    | some path => [outputFlag, path]
    | none => if discards ∧ target ∈ nullTargets then [] else [outputFlag, target]
  | .single argument => if 0 < i ∧ argument ∈ taskFlags then [] else [argument]

def rewritten (object : Option Text) (arguments : List Text) : List Text :=
  (pieces arguments).zipIdx.flatMap fun row => row.1.rewritten object (DiscardsObject arguments) row.2

/-- The target is an output flag, and the null device behind it is a single argument. -/
example : rewritten none ["g++", "-c", "-o", "-o", "/dev/null"] = ["g++", "-o", "-o", "/dev/null"] := by
  decide

/-- The arguments that an element of the cache lists, those that are no texts left out. -/
inductive Lists (element : Json) : List Text → Prop
  | intro {task : Json} {items : List Json} : element.member? "compile_task" = some task →
      task.member? "args" = some (.arr items) → Lists element (items.filterMap Json.text?)

def recorded? (element : Json) (name : Text) : Option Text :=
  ((element.member? "compile").bind (·.textAt? name)).filter (· ≠ [])

/-- The source of an element: the recorded one, or else the last argument that is called as one. -/
inductive IsSource (element : Json) (arguments : List Text) (source : Text) : Prop
  | recorded : recorded? element "source_path" = some source → IsSource element arguments source
  | argument {before after : List Text} : recorded? element "source_path" = none →
      arguments = before ++ source :: after → Path.isSource source = true →
      (∀ argument ∈ after, Path.isSource argument = false) → IsSource element arguments source

inductive StandsFor (cwd base : Text) (element : Json) : Entry → Prop
  | intro {arguments : List Text} {source : Text} : Lists element arguments →
      IsSource element arguments source →
      rewritten (recorded? element "object_path") arguments ≠ [] →
      StandsFor cwd base element
        { directory := base
          file := Path.resolve cwd base source
          arguments := rewritten (recorded? element "object_path") arguments }

/-- The directory that paths are read from: the sketch location of the options, or the sketch. -/
inductive IsBase (d : Disk) (buildDir sketchDir : Text) : Text → Prop
  | location {v : Json} {location : Text} :
      Storage.document d (Path.join buildDir optionsFile) = .ok (.value v) →
      v.textAt? "sketchLocation" = some location → Text.strip location ≠ [] →
      IsBase d buildDir sketchDir (Path.resolve d.cwd sketchDir (Text.strip location))
  | sketch : (∀ v location, Storage.document d (Path.join buildDir optionsFile) = .ok (.value v) →
        v.textAt? "sketchLocation" = some location → Text.strip location = []) →
      IsBase d buildDir sketchDir (Path.normalize sketchDir)

section Arguments

variable {task : CacheTask} {first : Bool} {i : ℕ} {argument : Text}

lemma ne_outputFlag_of_mem_taskFlags (h : argument ∈ taskFlags) : argument ≠ outputFlag := by
  rintro rfl
  revert h
  decide

lemma outputPair_eq (task : CacheTask) (i : ℕ) (target : Text) : outputPair task target =
    (Piece.output target).rewritten (task.object.filter (· ≠ [])) task.discardsObject i := by
  rw [outputPair, Piece.rewritten.eq_def]
  cases task.object.filter (· ≠ []) with
  | some path => rfl
  | none => simp

lemma single_eq (hi : first = decide (i = 0)) (object : Option Text) (discards : Bool) :
    (Piece.single argument).rewritten object discards i =
      if !first && argument ∈ taskFlags then [] else [argument] := by
  subst hi
  simp [Piece.rewritten, Nat.pos_iff_ne_zero]

lemma compileArguments_eq (arguments : List Text) (hi : first = decide (i = 0)) :
    compileArguments task first arguments = ((pieces arguments).zipIdx i).flatMap fun row =>
      row.1.rewritten (task.object.filter (· ≠ [])) task.discardsObject row.2 := by
  -- all that the loop keeps of the position is whether it is the first one
  induction first, arguments using compileArguments.induct generalizing i with
  | case1 first => rfl
  | case2 first argument hflag =>
    rw [compileArguments, if_pos hflag, pieces]
    simp [single_eq hi, hflag]
  | case3 first argument hflag =>
    rw [compileArguments, if_neg hflag, pieces]
    simp [single_eq hi, hflag]
  | case4 first argument next rest hflag ih =>
    have hne : argument ≠ outputFlag := by
      simp only [Bool.and_eq_true, decide_eq_true_eq] at hflag
      exact ne_outputFlag_of_mem_taskFlags hflag.2
    rw [compileArguments, if_pos hflag, pieces, if_neg hne, List.zipIdx_cons, List.flatMap_cons,
      ih (i := i + 1) (by simp)]
    dsimp only
    rw [single_eq hi, if_pos hflag, List.nil_append]
  | case5 first next rest hflag ih =>
    rw [compileArguments, if_neg hflag, if_pos rfl, pieces, if_pos rfl, List.zipIdx_cons,
      List.flatMap_cons, ← outputPair_eq, ih (i := i + 1) (by simp)]
  | case6 first argument next rest hflag hne ih =>
    rw [compileArguments, if_neg hflag, if_neg hne, pieces, if_neg hne, List.zipIdx_cons,
      List.flatMap_cons, ih (i := i + 1) (by simp)]
    dsimp only
    rw [single_eq hi, if_neg hflag, List.singleton_append]

end Arguments

section Entries

variable {d : Disk} {cwd base buildDir sketchDir : Text} {element : Json} {e : Entry}

def entryOf (cwd base : Text) (element : Json) : Option Entry :=
  (task? element).toOption.bind fun task => Noted.value <| entry? cwd base task

lemma value_tasks (index : ℕ) (elements : List Json) :
    (tasks index elements).value = elements.filterMap fun element => (task? element).toOption := by
  induction elements generalizing index with
  | nil => rfl
  | cons element rest ih =>
    rw [tasks, List.filterMap_cons]
    cases task? element with
    | ok task =>
      rw [Noted.value_map, ih]
      rfl
    | error reason =>
      rw [Noted.value_bind, ih]
      rfl

lemma value_entriesOf (cwd base : Text) (ts : List CacheTask) :
    (entriesOf cwd base ts).value = ts.filterMap fun task => Noted.value <| entry? cwd base task := by
  rw [entriesOf, Noted.value_flatMap, List.filterMap_eq_flatMap_toList]
  rfl

lemma value_entriesOf_tasks (cwd base : Text) (elements : List Json) :
    (entriesOf cwd base (tasks 0 elements).value).value = elements.filterMap (entryOf cwd base) := by
  rw [value_entriesOf, value_tasks, List.filterMap_filterMap]
  rfl

lemma value_entryOf_task (cwd base : Text) (task : CacheTask) : ( entry? cwd base task).value =
    (task.source.or (sourceArgument? task.arguments)).bind fun source =>
      if argumentsOf task = [] then none
      else some { directory := base, file := Path.resolve cwd base source, arguments := argumentsOf task } := by
  rw [ entry?]
  cases task.source.or (sourceArgument? task.arguments) with
  | none => rfl
  | some source =>
    dsimp only [Option.bind_some]
    cases argumentsOf task with
    | nil => rfl
    | cons argument rest => rfl

lemma filledText?_eq (element : Json) (name : Text) :
    filledText? ((element.member? "compile").getD .null) name = recorded? element name := by
  rw [filledText?, recorded?]
  cases element.member? "compile" with
  | none => rfl
  | some compile => rfl

lemma lists_iff {arguments : List Text} : Lists element arguments ↔
    ∃ items, ((element.member? "compile_task").bind (·.member? "args")).bind Json.items? = some items ∧
      items.filterMap Json.text? = arguments := by
  constructor
  · rintro ⟨htask, hargs⟩
    exact ⟨_, by rw [htask, Option.bind_some, hargs]; rfl, rfl⟩
  · rintro ⟨items, hitems, rfl⟩
    obtain ⟨v, hv, hlist⟩ := Option.bind_eq_some_iff.mp hitems
    obtain ⟨task, htask, hargs⟩ := Option.bind_eq_some_iff.mp hv
    cases v with
    | arr listed =>
      obtain rfl := Option.some.inj hlist
      exact .intro htask hargs
    | _ => simp [Json.items?] at hlist

lemma Lists.unique {arguments arguments' : List Text} (h : Lists element arguments)
    (h' : Lists element arguments') : arguments = arguments' := by
  obtain ⟨items, hitems, rfl⟩ := lists_iff.mp h
  obtain ⟨items', hitems', rfl⟩ := lists_iff.mp h'
  rw [Option.some.inj (hitems.symm.trans hitems')]

def taskOf (element : Json) (arguments : List Text) : CacheTask where
  arguments := arguments
  source := recorded? element "source_path"
  object := recorded? element "object_path"
  discardsObject := DiscardsObject arguments

lemma task?_of_items {items : List Json}
    (h : ((element.member? "compile_task").bind (·.member? "args")).bind Json.items? = some items) :
    task? element = .ok (taskOf element (items.filterMap Json.text?)) := by
  cases element with
  | obj members =>
    rw [task?, h, taskOf, ← filledText?_eq, ← filledText?_eq, ← any_outputTarget?]
  | _ => simp [Json.member?] at h

lemma toOption_task?_iff {task : CacheTask} : (task? element).toOption = some task ↔
    ∃ arguments, Lists element arguments ∧ taskOf element arguments = task := by
  cases hitems : ((element.member? "compile_task").bind (·.member? "args")).bind Json.items? with
  | some items =>
    rw [task?_of_items hitems]
    constructor
    · intro h
      exact ⟨_, lists_iff.mpr ⟨items, hitems, rfl⟩, Option.some.inj h⟩
    · rintro ⟨arguments, hlists, rfl⟩
      obtain ⟨items', hitems', rfl⟩ := lists_iff.mp hlists
      obtain rfl := Option.some.inj (hitems.symm.trans hitems')
      rfl
  | none =>
    have herror : ∃ reason, task? element = .error reason := by
      cases element with
      | obj members => exact ⟨_, by rw [task?, hitems]⟩
      | _ => exact ⟨_, rfl⟩
    obtain ⟨reason, hreason⟩ := herror
    rw [hreason]
    constructor
    · intro h
      simp [Except.toOption] at h
    · rintro ⟨arguments, hlists, _⟩
      obtain ⟨items, hsome, _⟩ := lists_iff.mp hlists
      exact (Option.some_ne_none _ (hsome.symm.trans hitems)).elim

lemma argumentsOf_taskOf (element : Json) (arguments : List Text) :
    argumentsOf (taskOf element arguments) = rewritten (recorded? element "object_path") arguments := by
  have hfilled : (recorded? element "object_path").filter (· ≠ []) = recorded? element "object_path" := by
    rw [recorded?, Option.filter_filter]
    simp only [Bool.and_self]
  have heq := @compileArguments_eq (taskOf element arguments) true 0 arguments rfl
  rw [argumentsOf, rewritten]
  refine heq.trans ?_
  rw [taskOf, hfilled]

lemma sourceArgument?_eq_some_iff {arguments : List Text} {source : Text} :
    sourceArgument? arguments = some source ↔ Path.isSource source = true ∧
      ∃ before after, arguments = before ++ source :: after ∧
        ∀ argument ∈ after, Path.isSource argument = false := by
  rw [sourceArgument?, List.find?_eq_some_iff_append]
  apply and_congr_right
  intro _
  constructor
  · rintro ⟨after, before, hsplit, hafter⟩
    refine ⟨before.reverse, after.reverse, ?_, by simpa using hafter⟩
    rw [← List.reverse_reverse arguments, hsplit]
    simp
  · rintro ⟨before, after, rfl, hafter⟩
    exact ⟨after.reverse, before.reverse, by simp, by simpa using hafter⟩

lemma isSource_iff {arguments : List Text} {source : Text} :
    (recorded? element "source_path").or (sourceArgument? arguments) = some source ↔
      IsSource element arguments source := by
  cases hrecorded : recorded? element "source_path" with
  | some recorded =>
    constructor
    · intro h
      exact .recorded (hrecorded.trans h)
    · rintro (h | ⟨h, _⟩)
      · exact hrecorded.symm.trans h
      · exact (Option.some_ne_none _ (hrecorded.symm.trans h)).elim
  | none =>
    rw [Option.none_or, sourceArgument?_eq_some_iff]
    constructor
    · rintro ⟨hsource, before, after, hsplit, hafter⟩
      exact .argument hrecorded hsplit hsource hafter
    · rintro (h | ⟨_, hsplit, hsource, hafter⟩)
      · exact (Option.some_ne_none _ (h.symm.trans hrecorded)).elim
      · exact ⟨hsource, _, _, hsplit, hafter⟩

lemma entryOf_eq_some_iff : entryOf cwd base element = some e ↔ StandsFor cwd base element e := by
  rw [entryOf, Option.bind_eq_some_iff]
  constructor
  · rintro ⟨task, htask, hentry⟩
    obtain ⟨arguments, hlists, rfl⟩ := toOption_task?_iff.mp htask
    rw [value_entryOf_task, argumentsOf_taskOf, Option.bind_eq_some_iff] at hentry
    obtain ⟨source, hsource, hite⟩ := hentry
    obtain ⟨hne, he⟩ := Option.ite_none_left_eq_some.mp hite
    obtain rfl := Option.some.inj he
    exact .intro hlists (isSource_iff.mp hsource) hne
  · rintro ⟨hlists, hsource, hne⟩
    refine ⟨_, toOption_task?_iff.mpr ⟨_, hlists, rfl⟩, ?_⟩
    rw [value_entryOf_task, argumentsOf_taskOf, Option.bind_eq_some_iff]
    exact ⟨_, isSource_iff.mpr hsource, if_neg hne⟩

lemma exists_base (hs : sketchDir.head? = some '/')
    (hoptions : ∀ e, Storage.document d (Path.join buildDir optionsFile) ≠ .error e) :
    ∃ location, (sketchLocation? d buildDir).run.value = .ok location ∧
      IsBase d buildDir sketchDir (Path.resolve d.cwd sketchDir (location.getD sketchDir)) := by
  rw [sketchLocation?, Storage.value_run_bind, Storage.value_run_load]
  cases hdocument : Storage.document d (Path.join buildDir optionsFile) with
  | error e => exact (hoptions e hdocument).elim
  | ok document =>
    cases document with
    | unusable reason =>
      refine ⟨none, rfl, ?_⟩
      rw [Option.getD_none, Path.resolve_of_rooted _ _ hs]
      refine .sketch fun v location hv => ?_
      simp [hdocument] at hv
    | value v =>
      refine ⟨_, rfl, ?_⟩
      cases hstripped : ((v.textAt? "sketchLocation").map Text.strip).filter (· ≠ []) with
      | some stripped =>
        obtain ⟨hmap, hne⟩ := Option.filter_eq_some_iff.mp hstripped
        obtain ⟨location, hlocation, rfl⟩ := Option.map_eq_some_iff.mp hmap
        exact .location hdocument hlocation (of_decide_eq_true hne)
      | none =>
        rw [Option.getD_none, Path.resolve_of_rooted _ _ hs]
        refine .sketch fun w location hw hlocation => ?_
        rw [hdocument] at hw
        obtain rfl := Storage.Document.value.inj (Except.ok.inj hw)
        rw [hlocation] at hstripped
        simpa using hstripped

lemma value_entries_of_list {elements : List Json}
    (hcache : Storage.document d (Path.join buildDir cacheFile) = .ok (.value (.arr elements)))
    (sketchDir : Text) :
    (entries d buildDir sketchDir).run.value = (sketchLocation? d buildDir).run.value.map fun location =>
      elements.filterMap (entryOf d.cwd (Path.resolve d.cwd sketchDir (location.getD sketchDir))) := by
  rw [entries]
  dsimp only
  rw [Storage.value_run_bind, Storage.value_run_load, hcache]
  dsimp only
  rw [Storage.value_run_bind]
  cases (sketchLocation? d buildDir).run.value with
  | error e => rfl
  | ok location =>
    simp only [Storage.value_run_bind, Storage.value_run_lift, Storage.value_run_pure,
      value_entriesOf_tasks, Except.map]

/-- The entries of a cache are those that its elements stand for, in order. -/
theorem value_entries (d : Disk) (buildDir sketchDir : Text) (elements : List Json)
    (hs : sketchDir.head? = some '/')
    (hcache : Storage.document d (Path.join buildDir cacheFile) = .ok (.value (.arr elements)))
    (hoptions : ∀ e, Storage.document d (Path.join buildDir optionsFile) ≠ .error e) :
    ∃ base, IsBase d buildDir sketchDir base ∧
      ∃ f : Json → Option Entry, (∀ element e, f element = some e ↔ StandsFor d.cwd base element e) ∧
        (entries d buildDir sketchDir).run.value = .ok (elements.filterMap f) := by
  obtain ⟨location, hlocation, hbase⟩ := exists_base hs hoptions
  refine ⟨_, hbase, _, fun _ _ => entryOf_eq_some_iff, ?_⟩
  rw [value_entries_of_list hcache, hlocation]
  rfl

end Entries

section Sample

def mixedElements : List Json := [
  .obj [
    ("compile", .obj [("source_path", .str "a.ino.cpp"), ("object_path", .str [])]),
    ("compile_task", .obj [
      ("args", .arr (["g++", "-E", "-I", "x", "-CC", "a.cpp", "-o", "nul"].map .str))])],
  .null,
  .obj [
    ("compile", .obj [("object_path", .str "/b/c.o")]),
    ("compile_task", .obj [
      ("args", .arr [.str "-c", .str "-o", .str "c.d", .null, .str "lib/c.c", .str "-w"])])]]

def mixedDisk : Disk where
  root := .dir [("b", .dir [
    (cacheFile, .file (Storage.documentBytes (.arr mixedElements))),
    (optionsFile, .file (Storage.documentBytes (.obj [("sketchLocation", .str " s ")])))])]
  here := []

theorem value_entries_sample :
    (∃ base, IsBase mixedDisk "/b" "/p" base ∧
      ∃ f : Json → Option Entry, (∀ element e, f element = some e ↔ StandsFor "/" base element e) ∧
        (entries mixedDisk "/b" "/p").run.value = .ok (mixedElements.filterMap f)) ∧
      (entries mixedDisk "/b" "/p").run.value.toOption = some [
        { directory := "/p/s", file := "/p/s/a.ino.cpp", arguments := ["g++", "-I", "x", "a.cpp"] },
        { directory := "/p/s", file := "/p/s/lib/c.c", arguments := ["-c", "-o", "/b/c.o", "lib/c.c"] }] := by
  have hcache : Storage.document mixedDisk (Path.join "/b" cacheFile) = .ok (.value (.arr mixedElements)) :=
    Storage.document_of_toOption (by decide +kernel)
  have hoptions : Storage.document mixedDisk (Path.join "/b" optionsFile) =
      .ok (.value (.obj [("sketchLocation", .str " s ")])) :=
    Storage.document_of_toOption (by decide +kernel)
  refine ⟨value_entries mixedDisk "/b" "/p" mixedElements rfl hcache fun e he => ?_, by decide +kernel⟩
  cases hoptions.symm.trans he

end Sample

end SketchBuild.BuildCache

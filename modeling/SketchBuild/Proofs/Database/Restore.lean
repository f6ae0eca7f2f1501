import SketchBuild.Proofs.Database.Forms
import SketchBuild.Proofs.Disk.Change
import SketchBuild.Proofs.Entry
import SketchBuild.Proofs.Path.Split

namespace SketchBuild

lemma Disk.baseName_ne_nil {d : Disk} {p : Text} (h : d.isFile p = true) :
    Path.baseName p ≠ [] := by
  intro hname
  rw [Disk.isFile, Disk.node?] at h
  cases hp : d.place p with
  | error cause => simp [hp] at h
  | ok place =>
    cases place with
    | free dir name => simp [hp] at h
    | taken l node =>
      cases node with
      | dir members => simp [hp] at h
      | file bytes =>
        obtain ⟨hne, _, hasks⟩ := Disk.walk_of_place hp
        have hlast := hasks l bytes rfl
        rcases Path.baseName_eq_nil hname with hnil | hslash
        · exact hne hnil
        · simp [Disk.asksDirectory, hslash] at hlast

namespace Database

open SketchBuild.Path (storageKey IsAnchored)

def IsSourceArgument (argument : Text) : Prop :=
  argument.head? ≠ some '-' ∧ Path.isSource argument = true

/-- Whether exactly one of the arguments of an entry names a source file, the file of the entry. -/
def IsConsistent (cwd : Text) (e : Entry) (arguments : List Text) : Prop :=
  ∃ before source after, arguments = before ++ source :: after ∧ IsSourceArgument source ∧
    Path.normalize (Path.resolve cwd e.directory source) = Path.normalize (e.path cwd) ∧
    ∀ a ∈ before ++ after, ¬IsSourceArgument a

lemma IsConsistent.ne_nil {cwd : Text} {e : Entry} {arguments : List Text}
    (h : IsConsistent cwd e arguments) : arguments ≠ [] := by
  obtain ⟨before, source, after, rfl, _⟩ := h
  simp

lemma replaceSource_of_not (cwd directory path target : Text) {arguments : List Text}
    (h : ∀ a ∈ arguments, ¬IsSourceArgument a) (rest : List Text) :
    replaceSource cwd directory path target (arguments ++ rest) =
      arguments ++ replaceSource cwd directory path target rest := by
  induction arguments with
  | nil => rfl
  | cons a arguments ih =>
    have ha : (decide (a.head? ≠ some '-') && Path.isSource a) = false := by
      have hnot := h a (by simp)
      simp only [IsSourceArgument, not_and, Bool.not_eq_true] at hnot
      by_cases hdash : a.head? = some '-'
      · simp [hdash]
      · simp [hnot hdash]
    rw [List.cons_append, replaceSource, ha, Bool.false_and, if_neg (by simp),
      ih fun x hx => h x (by simp [hx]), List.cons_append]

lemma replaceSource_of_isConsistent {cwd : Text} {e : Entry} {arguments : List Text}
    (h : IsConsistent cwd e arguments) (target : Text) :
    ∃ before after, (∀ a ∈ before ++ after, ¬IsSourceArgument a) ∧
      replaceSource cwd e.directory (e.path cwd) target arguments = before ++ target :: after := by
  obtain ⟨before, source, after, rfl, ⟨hdash, hsource⟩, hpath, hothers⟩ := h
  refine ⟨before, after, hothers, ?_⟩
  rw [replaceSource_of_not _ _ _ _ fun a ha => hothers a (by simp [ha]), replaceSource,
    decide_eq_true hdash, hsource, decide_eq_true hpath]
  rfl

lemma replaceSource_self (cwd directory path target : Text) {before after : List Text}
    (h : ∀ a ∈ before ++ after, ¬IsSourceArgument a) :
    replaceSource cwd directory path target (before ++ target :: after) =
      before ++ target :: after := by
  have hafter : replaceSource cwd directory path target after = after := by
    have hself := replaceSource_of_not cwd directory path target
      (fun a ha => h a (List.mem_append_right before ha)) []
    rwa [List.append_nil, replaceSource, List.append_nil] at hself
  rw [replaceSource_of_not _ _ _ _ fun a ha => h a (List.mem_append_left after ha), replaceSource]
  split
  · rfl
  · rw [hafter]

section Stored

variable (d : Disk) (task : MergeTask) (index : ProjectIndex)

structure IsStored (s : Entry) (target : Text) : Prop where
  complete : s.IsComplete
  canonical : s.canonical = s
  leads : target? d task index s = some target
  form : oldForm d s target = s

variable {d task index}

lemma canonical_stored (cwd : Text) (e : Entry) (arguments : List Text) (path target : Text) :
    (stored cwd e arguments path target).canonical = stored cwd e arguments path target := by
  obtain ⟨directory, file, old, command⟩ := e
  cases command <;> rfl

lemma arguments_stored (cwd : Text) (e : Entry) (arguments : List Text) (path target : Text) :
    (stored cwd e arguments path target).arguments =
      replaceSource cwd e.directory path target arguments := rfl

lemma stored_self (cwd path : Text) {s : Entry} (hc : s.canonical = s)
    {arguments : List Text}
    (ha : replaceSource cwd s.directory path (s.path cwd) arguments = s.arguments)
    (target : Text) (hd : Path.parent target = s.directory) (hf : Path.baseName target = s.file)
    (ht : s.path cwd = target) : stored cwd s arguments path target = s := by
  rw [stored, ← ht, ha, ht, hd, hf]
  exact hc

lemma retarget_accepted {target : Text} (h : IsAccepted task target) :
    (index.retarget task.buildDir target).value = target := by
  have horigin : index.origin? task.buildDir target = none := by
    rw [ProjectIndex.origin?, if_pos]
    rcases h.1 with hnil | hout
    · simp [hnil]
    · simp [hout]
  rw [value_retarget, horigin, Option.getD_none]

lemma replaceSource_ne_nil (cwd directory path target : Text) {arguments : List Text}
    (h : arguments ≠ []) : replaceSource cwd directory path target arguments ≠ [] := by
  cases arguments with
  | nil => exact (h rfl).elim
  | cons a arguments =>
    rw [replaceSource]
    split <;> simp

variable (d task index) in
structure IsHeld (s : Entry) (target : Text) : Prop where
  complete : s.IsComplete
  canonical : s.canonical = s
  leads : target? d task index s = some target
  key : s.key = storageKey target

lemma path_stored {target : Text} (ht : IsAnchored target) (hname : Path.baseName target ≠ [])
    (hb : '\\' ∉ Path.baseName target) (e : Entry) (arguments : List Text) :
    (stored d.cwd e arguments (e.path d.cwd) target).path d.cwd = target :=
  Path.resolve_parts d.cwd ht hname hb

lemma isHeld_stored {e : Entry} {target : Text} {arguments : List Text}
    (ht : IsAnchored target) (ha : IsAccepted task target) (hname : Path.baseName target ≠ [])
    (hb : '\\' ∉ Path.baseName target) (hne : arguments ≠ []) :
    IsHeld d task index (stored d.cwd e arguments (e.path d.cwd) target) target := by
  refine ⟨⟨?_, hname, ?_⟩, canonical_stored _ _ _ _ _, ?_, rfl⟩
  · intro hnil
    have hrooted := (Path.isAnchored_parent ht).rooted
    rw [show Path.parent target = [] from hnil] at hrooted
    simp at hrooted
  · rw [arguments_stored]
    exact replaceSource_ne_nil _ _ _ _ hne
  · rw [target?_eq_some, path_stored ht hname hb]
    exact ⟨retarget_accepted ha, ha⟩

lemma isStored_stored {e : Entry} {target : Text} {arguments : List Text}
    (ht : IsAnchored target) (ha : IsAccepted task target) (hname : Path.baseName target ≠ [])
    (hb : '\\' ∉ Path.baseName target) (hc : IsConsistent d.cwd e arguments) :
    IsStored d task index (stored d.cwd e arguments (e.path d.cwd) target) target := by
  obtain ⟨before, after, hothers, hreplace⟩ := replaceSource_of_isConsistent hc target
  have hheld : IsHeld d task index (stored d.cwd e arguments (e.path d.cwd) target) target :=
    isHeld_stored ht ha hname hb hc.ne_nil
  have hpath := path_stored ht hname hb e arguments (d := d)
  have harguments : (stored d.cwd e arguments (e.path d.cwd) target).arguments =
      before ++ target :: after := by rw [arguments_stored, hreplace]
  refine ⟨hheld.complete, hheld.canonical, hheld.leads, ?_⟩
  rw [oldForm]
  apply stored_self d.cwd _ hheld.canonical _ target rfl rfl hpath
  rw [harguments, hpath]
  exact replaceSource_self _ _ _ _ hothers

end Stored

end Database

end SketchBuild

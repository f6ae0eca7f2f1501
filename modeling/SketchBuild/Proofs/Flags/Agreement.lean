import SketchBuild.Proofs.Flags.Normal
import SketchBuild.Proofs.Flags.SpliceBound

namespace SketchBuild.Flags

inductive IsReferred (d : Disk) (base : Text) (arguments : List Text) : Text → Prop
  | direct {a name : Text} : a ∈ arguments → reference? a = some name →
      IsReferred d base arguments (Path.resolve d.cwd base name)
  | nested {path content a name : Text} : IsReferred d base arguments path →
      Storage.fileText? d path = some content → a ∈ Command.words content →
      reference? a = some name → IsReferred d base arguments (Path.resolve d.cwd base name)

/-- Two disks with one current directory on which the files that some arguments refer to read
alike. -/
structure ReadsAlike (d d' : Disk) (base : Text) (arguments : List Text) : Prop where
  cwd : d'.cwd = d.cwd
  text : ∀ path, IsReferred d base arguments path →
    Storage.fileText? d' path = Storage.fileText? d path

variable {d d' : Disk} {base : Text} {original : List Text}

def IsCovered (d : Disk) (base : Text) (original arguments : List Text) : Prop :=
  ∀ a ∈ arguments, ∀ name, reference? a = some name →
    IsReferred d base original (Path.resolve d.cwd base name)

lemma not_isReferred {arguments : List Text} (h : ∀ a ∈ arguments, reference? a = none)
    (path : Text) : ¬IsReferred d base arguments path := by
  intro hp
  induction hp with
  | direct ha hr =>
    rw [h _ ha] at hr
    simp at hr
  | nested _ _ _ _ ih => exact ih

lemma ReadsAlike.isReferred (h : ReadsAlike d d' base original) {path : Text}
    (hp : IsReferred d' base original path) : IsReferred d base original path := by
  induction hp with
  | direct ha hr =>
    rw [h.cwd]
    exact .direct ha hr
  | nested _ ht ha hr ih =>
    rw [h.text _ ih] at ht
    rw [h.cwd]
    exact .nested ih ht ha hr

lemma ReadsAlike.symm (h : ReadsAlike d d' base original) : ReadsAlike d' d base original :=
  ⟨h.cwd.symm, fun path hp => (h.text path (h.isReferred hp)).symm⟩

lemma ReadsAlike.isCovered (h : ReadsAlike d d' base original) {arguments : List Text}
    (hc : IsCovered d base original arguments) : IsCovered d' base original arguments := by
  intro a ha name hr
  rw [h.cwd]
  exact h.symm.isReferred (hc a ha name hr)

lemma isCovered_self : IsCovered d base original original := fun _ ha _ hr => .direct ha hr

lemma IsCovered.append {arguments rest : List Text} (h : IsCovered d base original arguments)
    (hr : IsCovered d base original rest) : IsCovered d base original (arguments ++ rest) := by
  intro a ha
  rcases List.mem_append.mp ha with ha | ha
  · exact h a ha
  · exact hr a ha

lemma IsCovered.subset {arguments rest : List Text} (h : IsCovered d base original arguments)
    (hr : ∀ a ∈ rest, a ∈ arguments) : IsCovered d base original rest :=
  fun a ha => h a (hr a ha)

def ExpandsAlike (d : Disk) (base : Text) (original : List Text)
    (expand expand' : List Text → List Text → Noted (List Text)) : Prop :=
  ∀ reading arguments, IsCovered d base original arguments →
    (expand' reading arguments).value = (expand reading arguments).value ∧
      IsCovered d base original (expand reading arguments).value

lemma expandArgument_alike (h : ReadsAlike d d' base original)
    {nested nested' : Option (List Text → List Text → Noted (List Text))}
    (hn : (nested = none ∧ nested' = none) ∨
      ∃ e e', nested = some e ∧ nested' = some e' ∧ ExpandsAlike d base original e e')
    (reading : List Text) {a : Text} (ha : IsCovered d base original [a]) :
    (expandArgument d' base reading nested' a).value = (expandArgument d base reading nested a).value ∧
      IsCovered d base original (expandArgument d base reading nested a).value := by
  cases hr : reference? a with
  | none =>
    simp only [expandArgument, hr, Noted.value_pure]
    exact ⟨trivial, ha⟩
  | some name =>
    have href := ha a (by simp) name hr
    have htext := h.text _ href
    rcases hn with ⟨rfl, rfl⟩ | ⟨e, e', rfl, rfl, he⟩
    · simp only [expandArgument, hr, expandArgument.refuse, Noted.value_bind, Noted.value_pure]
      exact ⟨trivial, ha⟩
    · simp only [expandArgument, hr, h.cwd]
      split
      · simp only [expandArgument.refuse, Noted.value_bind, Noted.value_pure]
        exact ⟨trivial, ha⟩
      · rw [Noted.value_bind, Noted.value_bind, Storage.value_readText, Storage.value_readText, htext]
        cases ht : Storage.fileText? d (Path.resolve d.cwd base name) with
        | none => exact ⟨rfl, ha⟩
        | some content => exact he _ _ fun b hb name' hr' => .nested href ht hb hr'

lemma flatMap_alike {f f' : Text → Noted (List Text)} {arguments : List Text}
    (h : ∀ a ∈ arguments, (f' a).value = (f a).value ∧ IsCovered d base original (f a).value) :
    (Noted.flatMap f' arguments).value = (Noted.flatMap f arguments).value ∧
      IsCovered d base original (Noted.flatMap f arguments).value := by
  rw [Noted.value_flatMap, Noted.value_flatMap]
  constructor
  · apply List.flatMap_congr
    intro a ha
    exact (h a ha).1
  · intro b hb
    obtain ⟨a, ha, hb⟩ := List.mem_flatMap.mp hb
    exact (h a ha).2 b hb

lemma expandWithin_alike (h : ReadsAlike d d' base original) (n : Nat) :
    ExpandsAlike d base original (expandWithin d base n) (expandWithin d' base n) := by
  have hone : ∀ {arguments : List Text}, IsCovered d base original arguments → ∀ a ∈ arguments,
      IsCovered d base original [a] := by
    intro arguments hc a ha
    apply hc.subset
    intro b hb
    rwa [List.mem_singleton.mp hb]
  induction n with
  | zero =>
    intro reading arguments hc
    apply flatMap_alike
    intro a ha
    exact expandArgument_alike h (Or.inl ⟨rfl, rfl⟩) reading (hone hc a ha)
  | succ n ih =>
    intro reading arguments hc
    apply flatMap_alike
    intro a ha
    exact expandArgument_alike h (Or.inr ⟨_, _, rfl, rfl, ih⟩) reading (hone hc a ha)

lemma value_expand_alike (h : ReadsAlike d d' base original) {arguments : List Text}
    (hc : IsCovered d base original arguments) :
    (expand d' base arguments).value = (expand d base arguments).value ∧
      IsCovered d base original (expand d base arguments).value :=
  expandWithin_alike h maxDepth [] arguments hc

lemma scanPrefixes_alike (h : ReadsAlike d d' base original)
    {splice splice' : Text → List Text → Noted (Option (List Text))}
    (hsplice : ∀ dir arguments out, IsCovered d base original arguments →
      (splice dir arguments).value = some out → (splice' dir arguments).value = some out)
    (n : Nat) (active : Option Text) {arguments out : List Text} (hn : arguments.length ≤ n)
    (hc : IsCovered d base original arguments)
    (hout : (scanPrefixes d base splice active arguments).value = some out) :
    (scanPrefixes d' base splice' active arguments).value = some out := by
  induction n generalizing active arguments out with
  | zero =>
    obtain rfl : arguments = [] := List.eq_nil_of_length_eq_zero (by omega)
    simpa [scanPrefixes] using hout
  | succ n ih =>
    cases arguments with
    | nil => simpa [scanPrefixes] using hout
    | cons argument rest =>
      simp only [List.length_cons] at hn
      have hrest : IsCovered d base original rest := hc.subset fun a ha => by simp [ha]
      rcases scanPrefixes_step d.cwd base active argument rest with
        ⟨dir, name, rfl, hr⟩ | ⟨next, left, f, hl, _, hstep⟩
      · have hone : IsCovered d base original [argument] := hc.subset fun a ha => by
          rw [List.mem_singleton.mp ha]
          simp
        obtain ⟨hexpand, hcovered⟩ := value_expand_alike h hone
        rw [value_scanPrefixes_reference hr] at hout ⊢
        rw [hexpand]
        split at hout
        · rename_i he
          rw [if_pos he]
          obtain ⟨tail, ht, rfl⟩ := Option.map_eq_some_iff.mp hout
          rw [ih none (by omega) hrest ht, Option.map_some]
        · rename_i he
          rw [if_neg he]
          exact hsplice dir _ out (hcovered.append hrest) hout
      · rw [hstep d splice rfl] at hout
        rw [hstep d' splice' h.cwd]
        obtain ⟨tail, ht, rfl⟩ := Option.map_eq_some_iff.mp hout
        have hlen := hl.length_le
        rw [ih next (by omega) (hrest.subset fun a ha => hl.subset ha) ht, Option.map_some]

lemma resolveWithin_alike (h : ReadsAlike d d' base original) {n m : Nat} (hm : n ≤ m)
    (active : Option Text) {arguments out : List Text} (hc : IsCovered d base original arguments)
    (hout : (resolveWithin d base n active arguments).value = some out) :
    (resolveWithin d' base m active arguments).value = some out := by
  induction n generalizing m active arguments out with
  | zero =>
    cases m with
    | zero => exact scanPrefixes_alike h (by simp) _ active (Nat.le_refl _) hc hout
    | succ m => exact scanPrefixes_alike h (by simp) _ active (Nat.le_refl _) hc hout
  | succ n ih =>
    cases m with
    | zero => omega
    | succ m =>
      refine scanPrefixes_alike h ?_ _ active (Nat.le_refl _) hc hout
      intro dir arguments out hc hout
      exact ih (by omega) (some dir) hc hout

lemma resolveWithin_spliceBound_alike (h : ReadsAlike d d' base original)
    {arguments out : List Text} (hc : IsCovered d base original arguments)
    (hout : (resolveWithin d base (spliceBound d arguments) none arguments).value = some out) :
    (resolveWithin d' base (spliceBound d' arguments) none arguments).value = some out := by
  have hmore := resolveWithin_alike h (Nat.le_max_left _ (spliceBound d' arguments)) none hc hout
  have hends := isSome_resolveWithin_spliceBound (Option.isSome_of_eq_some hmore)
  obtain ⟨out', hout'⟩ := Option.isSome_iff_exists.mp hends
  have hself : ReadsAlike d' d' base original := ⟨rfl, fun _ _ => rfl⟩
  have hmore' := resolveWithin_alike hself (Nat.le_max_right (spliceBound d arguments) _) none
    (h.isCovered hc) hout'
  rw [hmore] at hmore'
  rwa [hmore']

lemma ReadsAlike.value_resolvePrefixes (h : ReadsAlike d d' base original) {arguments : List Text}
    (hc : IsCovered d base original arguments) :
    (resolvePrefixes d' base arguments).value = (resolvePrefixes d base arguments).value := by
  rw [resolvePrefixes, resolvePrefixes, Noted.value_map, Noted.value_map]
  cases hout : (resolveWithin d base (spliceBound d arguments) none arguments).value with
  | some out => rw [resolveWithin_spliceBound_alike h hc hout]
  | none =>
    cases hout' : (resolveWithin d' base (spliceBound d' arguments) none arguments).value with
    | none => rfl
    | some out =>
      have hback := resolveWithin_spliceBound_alike h.symm (h.isCovered hc) hout'
      rw [hout] at hback
      simp at hback

lemma value_normalize_alike {arguments : List Text} (header : Text)
    (h : ReadsAlike d d' base arguments) :
    (normalize d' base header arguments).value = (normalize d base header arguments).value := by
  obtain ⟨hexpand, hcovered⟩ := value_expand_alike h isCovered_self
  rw [value_normalize, value_normalize, hexpand, h.value_resolvePrefixes hcovered, h.cwd]

end SketchBuild.Flags

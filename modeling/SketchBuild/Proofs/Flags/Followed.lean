import Mathlib.Data.List.Nodup
import SketchBuild.Proofs.Flags.Response

namespace SketchBuild.Flags

/-- Following references leads from some arguments through the files at `ps` to some words. -/
inductive Leads (d : Disk) (base : Text) (arguments : List Text) : List Text → List Text → Prop
  | start : Leads d base arguments [] arguments
  | next {ps words : List Text} {argument name text : Text} :
      Leads d base arguments ps words → argument ∈ words → reference? argument = some name →
      Storage.fileText? d (Path.resolve d.cwd base name) = some text →
      Leads d base arguments (ps ++ [Path.resolve d.cwd base name]) (Command.words text)

/-- Whether an argument stays while some files are being read: the file that it refers to is one of
them or lies too deep, if it can be read at all. -/
def Stays (d : Disk) (base : Text) (reading : List Text) (argument : Text) : Prop :=
  ∀ name, reference? argument = some name → IsReadable d (Path.resolve d.cwd base name) →
    Path.normalize (Path.resolve d.cwd base name) ∈ reading ∨ maxDepth ≤ reading.length

structure IsNested (ps : List Text) : Prop where
  nodup : (ps.map Path.normalize).Nodup
  length_le : ps.length ≤ maxDepth

variable {d : Disk} {base : Text}

lemma isNested_nil : IsNested [] := ⟨List.nodup_nil, Nat.zero_le _⟩

lemma nodup_normalize_concat {ps : List Text} {p : Text} :
    ((ps ++ [p]).map Path.normalize).Nodup ↔
      Path.normalize p ∉ ps.map Path.normalize ∧ (ps.map Path.normalize).Nodup := by
  rw [List.map_append, List.map_singleton, ← List.concat_eq_append, List.nodup_concat]

lemma IsNested.concat {ps : List Text} {p : Text} (h : IsNested ps)
    (hp : Path.normalize p ∉ ps.map Path.normalize) (hlt : ps.length < maxDepth) :
    IsNested (ps ++ [p]) where
  nodup := nodup_normalize_concat.mpr ⟨hp, h.nodup⟩
  length_le := by
    rw [List.length_append, List.length_singleton]
    omega

def deeper (d : Disk) (base : Text) : Nat → Option (List Text → List Text → Noted (List Text))
  | 0 => none
  | n + 1 => some (expandWithin d base n)

lemma value_expandWithin (n : Nat) (reading arguments : List Text) :
    (expandWithin d base n reading arguments).value =
      arguments.flatMap fun a => (expandArgument d base reading (deeper d base n) a).value := by
  cases n <;> rw [expandWithin, Noted.value_flatMap] <;> rfl

lemma value_expandArgument_deeper (d : Disk) (base : Text) {n : Nat} {reading : List Text}
    (hdepth : reading.length + n = maxDepth) (argument : Text) :
    (Stays d base reading argument ∧
        (expandArgument d base reading (deeper d base n) argument).value = [argument]) ∨
      ∃ name text m, n = m + 1 ∧ reference? argument = some name ∧
        Storage.fileText? d (Path.resolve d.cwd base name) = some text ∧
        Path.normalize (Path.resolve d.cwd base name) ∉ reading ∧
        (expandArgument d base reading (deeper d base n) argument).value =
          (expandWithin d base m (reading ++ [Path.normalize (Path.resolve d.cwd base name)])
            (Command.words text)).value := by
  by_cases hs : IsSettled d base argument
  · exact Or.inl ⟨fun name hr hread => (hs name hr hread).elim, value_expandArgument_settled hs _ _⟩
  obtain ⟨name, text, hr, ht⟩ := exists_of_not_isSettled hs
  by_cases hkey : Path.normalize (Path.resolve d.cwd base name) ∈ reading
  · refine Or.inl ⟨?_, ?_⟩
    · intro name' hr' _
      obtain rfl : name = name' := Option.some.inj (hr.symm.trans hr')
      exact Or.inl hkey
    · cases n <;>
        simp only [expandArgument, deeper, hr, if_pos hkey, expandArgument.refuse, Noted.value_bind,
          Noted.value_pure]
  · cases n with
    | zero =>
      refine Or.inl ⟨fun _ _ _ => Or.inr (by omega), ?_⟩
      simp only [expandArgument, deeper, hr, expandArgument.refuse, Noted.value_bind,
        Noted.value_pure]
    | succ m =>
      exact Or.inr ⟨name, text, m, rfl, hr, ht, hkey, value_expandArgument_followed hr hkey ht _⟩

def IsLeft (d : Disk) (base : Text) (arguments : List Text) (argument : Text) : Prop :=
  ∃ ps words, Leads d base arguments ps words ∧ argument ∈ words ∧ IsNested ps ∧
    Stays d base (ps.map Path.normalize) argument

lemma isLeft_of_mem_expandWithin {arguments words ps : List Text} {n : Nat}
    (hl : Leads d base arguments ps words) (hps : IsNested ps) (hdepth : ps.length + n = maxDepth)
    {b : Text} (hb : b ∈ (expandWithin d base n (ps.map Path.normalize) words).value) :
    IsLeft d base arguments b := by
  induction n using Nat.strongRecOn generalizing ps words with
  | ind n ih =>
    rw [value_expandWithin] at hb
    obtain ⟨a, ha, hb⟩ := List.mem_flatMap.mp hb
    have hlength : (ps.map Path.normalize).length + n = maxDepth := by rwa [List.length_map]
    rcases value_expandArgument_deeper d base hlength a with
      ⟨hstays, hv⟩ | ⟨name, text, m, rfl, hr, ht, hkey, hv⟩
    · rw [hv, List.mem_singleton] at hb
      exact ⟨ps, words, hl, hb ▸ ha, hps, hb ▸ hstays⟩
    · rw [hv, ← List.map_singleton, ← List.map_append] at hb
      exact ih m (Nat.lt_succ_self m) (hl.next ha hr ht) (hps.concat hkey (by omega))
        (by simp; omega) hb

lemma mem_expand_of_leads {arguments words ps : List Text} {n : Nat}
    (hl : Leads d base arguments ps words) (hps : IsNested ps) (hdepth : ps.length + n = maxDepth)
    {b : Text} (hb : b ∈ (expandWithin d base n (ps.map Path.normalize) words).value) :
    b ∈ (expand d base arguments).value := by
  induction hl generalizing n with
  | start =>
    obtain rfl : n = maxDepth := by simpa using hdepth
    exact hb
  | @next ps words argument name text hl ha hr ht ih =>
    -- What is left of the last file is left of the argument that refers to it.
    obtain ⟨hkey, hbefore⟩ := nodup_normalize_concat.mp hps.nodup
    rw [List.length_append, List.length_singleton] at hdepth
    refine ih ⟨hbefore, by omega⟩ (n := n + 1) (by omega) ?_
    rw [value_expandWithin]
    refine List.mem_flatMap.mpr ⟨argument, ha, ?_⟩
    rw [deeper, value_expandArgument_followed hr hkey ht, ← List.map_singleton, ← List.map_append]
    exact hb

lemma mem_expandWithin_of_stays {arguments reading : List Text} {n : Nat}
    (hdepth : reading.length + n = maxDepth) {b : Text} (hb : b ∈ arguments)
    (hs : Stays d base reading b) : b ∈ (expandWithin d base n reading arguments).value := by
  rw [value_expandWithin]
  refine List.mem_flatMap.mpr ⟨b, hb, ?_⟩
  rcases value_expandArgument_deeper d base hdepth b with
    ⟨_, hv⟩ | ⟨name, text, m, hn, hr, ht, hkey, _⟩
  · rw [hv]
    exact List.mem_singleton_self b
  · have hread : IsReadable d (Path.resolve d.cwd base name) := by simp [IsReadable, ht]
    rcases hs name hr hread with hmem | hdeep
    · exact (hkey hmem).elim
    · omega

lemma mem_expand_iff {arguments : List Text} {b : Text} :
    b ∈ (expand d base arguments).value ↔ IsLeft d base arguments b := by
  constructor
  · exact isLeft_of_mem_expandWithin .start isNested_nil (Nat.zero_add _)
  · rintro ⟨ps, words, hl, hb, hps, hs⟩
    have hdepth : ps.length + (maxDepth - ps.length) = maxDepth := by
      have hlen := hps.length_le
      omega
    exact mem_expand_of_leads hl hps hdepth (mem_expandWithin_of_stays (by simpa using hdepth) hb hs)

end SketchBuild.Flags

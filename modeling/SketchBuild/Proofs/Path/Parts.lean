import SketchBuild.Proofs.Path.Normal

namespace SketchBuild.Path

lemma forall_ne_slash {c : Text} (hc : '/' ∉ c) : ∀ a ∈ c.reverse, decide (a ≠ '/') = true := by
  intro a ha
  rw [decide_eq_true_eq]
  rintro rfl
  exact hc (List.mem_reverse.mp ha)

lemma baseName_append_of_not_mem (p : Text) {s : Text} (hs : '/' ∉ s) :
    baseName (p ++ s) = baseName p ++ s := by
  rw [baseName, baseName, List.reverse_append, List.takeWhile_append_of_pos (forall_ne_slash hs),
    List.reverse_append, List.reverse_reverse]

lemma hasExtension_append {path s : Text} (hslash : '/' ∉ s) (hdot : '.' ∉ s) :
    hasExtension (path ++ s) = hasExtension path := by
  have hdrop : '.' ∉ s.dropWhile (· = '.') := fun h => hdot ((List.dropWhile_suffix _).mem h)
  rw [hasExtension, hasExtension, baseName_append_of_not_mem path hslash,
    List.dropWhile_append]
  split
  · rename_i hempty
    rw [List.isEmpty_iff.mp hempty]
    simpa using hdrop
  · simp [hdot]

lemma parent_append_of_not_mem (p : Text) {s : Text} (hs : '/' ∉ s) : parent (p ++ s) = parent p := by
  rw [parent, parent, List.reverse_append, List.dropWhile_append_of_pos (forall_ne_slash hs)]

lemma baseName_append (s c : Text) (hc : '/' ∉ c) : baseName (s ++ '/' :: c) = c := by
  have hslash : baseName (s ++ ['/']) = [] := by simp [baseName]
  have happend := baseName_append_of_not_mem (s ++ ['/']) hc
  rwa [hslash, List.append_assoc, List.singleton_append, List.nil_append] at happend

lemma parent_append (s c : Text) (hc : '/' ∉ c) : parent (s ++ '/' :: c) = parent (s ++ ['/']) := by
  have happend := parent_append_of_not_mem (s ++ ['/']) hc
  rwa [List.append_assoc, List.singleton_append] at happend

lemma baseName_replicate (n : Nat) : baseName (List.replicate n '/') = [] := by
  rw [baseName, List.reverse_replicate]
  cases n with
  | zero => rfl
  | succ n => simp [List.replicate_succ]

lemma parent_replicate (n : Nat) : parent (List.replicate n '/') = List.replicate n '/' := by
  rw [parent, List.reverse_replicate]
  cases n with
  | zero => rfl
  | succ n => simp [List.replicate_succ]

lemma spell_concat (n : Nat) {cs : List Text} (hne : cs ≠ []) (c : Text) :
    spell n (cs ++ [c]) = spell n cs ++ '/' :: c := by
  have hjoin : ∀ ds : List Text, ds ≠ [] →
      ['/'].intercalate (ds ++ [c]) = ['/'].intercalate ds ++ '/' :: c := by
    intro ds
    induction ds with
    | nil => simp
    | cons d ds ih =>
      intro _
      cases ds with
      | nil => simp
      | cons e ds =>
        rw [List.cons_append, List.cons_append, List.intercalate_cons_cons, ← List.cons_append,
          ih (by simp), List.intercalate_cons_cons]
        simp
  rw [spell, spell, hjoin cs hne, List.append_assoc]

lemma spell_nil (n : Nat) : spell n [] = List.replicate n '/' := by simp [spell]

lemma getLast_spell (n : Nat) (cs : List Text) (hne : cs ≠ []) (h : ∀ c ∈ cs, IsName c) :
    (spell n cs).getLast? ≠ some '/' := by
  obtain ⟨ds, d, rfl⟩ := List.eq_nil_or_concat cs |>.resolve_left hne
  have hd := h d (by simp)
  have hlast : (spell n (ds.concat d)).getLast? = d.getLast? := by
    cases ds with
    | nil => simp [spell, List.getLast?_append_of_ne_nil _ hd.ne_nil]
    | cons e ds =>
      rw [List.concat_eq_append, spell_concat n (by simp),
        List.getLast?_append_of_ne_nil _ (by simp)]
      cases d with
      | nil => exact (hd.ne_nil rfl).elim
      | cons a d => exact List.getLast?_cons_cons
  rw [hlast]
  intro hs
  exact hd.no_slash (List.mem_of_getLast? hs)

lemma spell_eq_nil {n : Nat} {cs : List Text} (hcs : ∀ x ∈ cs, IsName x) :
    spell n cs = [] ↔ n = 0 ∧ cs = [] := by
  constructor
  · intro h
    rw [spell, List.append_eq_nil_iff, List.replicate_eq_nil_iff] at h
    refine ⟨h.1, ?_⟩
    cases cs with
    | nil => rfl
    | cons x cs =>
      have hx := (hcs x (by simp)).ne_nil
      cases cs <;> simp_all
  · rintro ⟨rfl, rfl⟩
    rfl

section Concat

variable {n : Nat} {cs : List Text} {c : Text}

lemma baseName_spell (n : Nat) (cs : List Text) (hc : IsName c) :
    baseName (spell n (cs ++ [c])) = c := by
  by_cases hcs : cs = []
  · rw [hcs, List.nil_append, spell, List.intercalate_singleton,
      baseName_append_of_not_mem _ hc.no_slash, baseName_replicate, List.nil_append]
  · rw [spell_concat n hcs, baseName_append _ _ hc.no_slash]

lemma isName_baseName_spell (n : Nat) (cs : List Text) (hc : IsName c) :
    IsName (baseName (spell n (cs ++ [c]))) := by
  rwa [baseName_spell n cs hc]

lemma parent_spell (n : Nat) (hcs : ∀ x ∈ cs, IsName x) (hc : IsName c) :
    parent (spell n (cs ++ [c])) = spell n cs := by
  by_cases hnil : cs = []
  · rw [hnil, List.nil_append, spell, List.intercalate_singleton,
      parent_append_of_not_mem _ hc.no_slash, parent_replicate, spell_nil]
  · have hlast := getLast_spell n cs hnil hcs
    have hne : spell n cs ≠ [] := fun h => hnil ((spell_eq_nil hcs).mp h).2
    obtain ⟨s, a, ha⟩ := List.eq_nil_or_concat (spell n cs) |>.resolve_left hne
    rw [List.concat_eq_append] at ha
    have hslash : a ≠ '/' := by simpa [ha] using hlast
    rw [spell_concat n hnil, parent_append _ _ hc.no_slash, ha, parent]
    simp [hslash]

end Concat

lemma baseName_root (n : Nat) : baseName (spell n []) = [] := by
  rw [spell_nil, baseName_replicate]

lemma parent_root (n : Nat) : parent (spell n []) = spell n [] := by
  rw [spell_nil, parent_replicate]

lemma normalize_name {c : Text} (hc : IsName c) : normalize c = c := by
  have hhead : c.head? ≠ some '/' := fun h => hc.no_slash (List.mem_of_mem_head? h)
  have hroot : rootSlashes c = 0 := by
    unfold rootSlashes
    split <;> simp_all
  have hcomp : components false c = [c] := by
    have hs := components_spell false 0 [c] (by simpa using hc)
    simpa [spell] using hs
  simp only [normalize, hroot]
  simp only [bne_self_eq_false, hcomp, List.replicate_zero, List.nil_append,
    List.intercalate_singleton]
  split
  · exact (hc.ne_nil rfl).elim
  · rfl

lemma IsAnchored.root_or_name {p : Text} (h : IsAnchored p) :
    (∃ n, IsRoot n ∧ p = spell n []) ∨
      ∃ n cs c, IsRoot n ∧ (∀ x ∈ cs, IsName x) ∧ IsName c ∧ p = spell n (cs ++ [c]) := by
  obtain ⟨n, cs, hn, hcs, rfl⟩ := h.exists_spell
  rcases List.eq_nil_or_concat cs with rfl | ⟨ds, c, rfl⟩
  · exact Or.inl ⟨n, hn, rfl⟩
  · refine Or.inr ⟨n, ds, c, hn, fun x hx => hcs x (by simp [hx]), hcs c (by simp), ?_⟩
    rw [List.concat_eq_append]

lemma isAnchored_parent {p : Text} (h : IsAnchored p) : IsAnchored (parent p) := by
  rcases h.root_or_name with ⟨n, hn, rfl⟩ | ⟨n, cs, c, hn, hcs, hc, rfl⟩
  · rw [parent_root]
    exact h
  · rw [parent_spell n hcs hc]
    exact isAnchored_spell hn cs hcs

/-- What entries for the same file share, told by the path of the file. -/
def storageKey (p : Text) : Text × Text := (normalize (parent p), normalize (baseName p))

lemma storageKey_name {n : Nat} (hn : IsRoot n) {cs : List Text} (hcs : ∀ x ∈ cs, IsName x)
    {c : Text} (hc : IsName c) : storageKey (spell n (cs ++ [c])) = (spell n cs, c) := by
  rw [storageKey, parent_spell n hcs hc, baseName_spell n cs hc, normalize_name hc,
    (isAnchored_spell hn cs hcs).normal]

lemma storageKey_root {n : Nat} (hn : IsRoot n) : storageKey (spell n []) = (spell n [], ['.']) := by
  rw [storageKey, parent_root, baseName_root, (isAnchored_spell hn [] (by simp)).normal]
  rfl

lemma storageKey_injective {p q : Text} (hp : IsAnchored p) (hq : IsAnchored q)
    (h : storageKey p = storageKey q) : p = q := by
  rcases hp.root_or_name with ⟨n, hn, rfl⟩ | ⟨n, cs, c, hn, hcs, hc, rfl⟩ <;>
    rcases hq.root_or_name with ⟨m, hm, rfl⟩ | ⟨m, ds, d, hm, hds, hd, rfl⟩
  · rw [storageKey_root hn, storageKey_root hm] at h
    exact (Prod.mk.injEq _ _ _ _ ▸ h).1
  · rw [storageKey_root hn, storageKey_name hm hds hd] at h
    exact (hd.ne_dot (Prod.mk.injEq _ _ _ _ ▸ h).2.symm).elim
  · rw [storageKey_name hn hcs hc, storageKey_root hm] at h
    exact (hc.ne_dot (Prod.mk.injEq _ _ _ _ ▸ h).2).elim
  · rw [storageKey_name hn hcs hc, storageKey_name hm hds hd, Prod.mk.injEq] at h
    obtain ⟨hdir, rfl⟩ := h
    obtain ⟨rfl, rfl⟩ := spell_injective hn hm hcs hds hdir
    rfl

end SketchBuild.Path

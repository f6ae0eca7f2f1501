import Mathlib.Data.List.Induction
import Mathlib.Tactic.Lemma
import SketchBuild.Table

namespace SketchBuild.Table

variable {κ ν : Type} [DecidableEq κ]

lemma find?_alter (k k' : κ) (f : Option ν → ν) (t : Table κ ν) :
    find? k' (alter k f t) = if k = k' then some (f (find? k t)) else find? k' t := by
  induction t with
  | nil => simp [alter, find?]
  | cons row t ih =>
    obtain ⟨a, v⟩ := row
    by_cases ha : a = k
    · by_cases hk : k = k' <;> simp [alter, find?, ha, hk]
    · by_cases hk : k = k'
      · subst hk
        simpa [alter, find?, ha] using ih
      · simp only [alter, ha, if_false, find?, hk] at ih ⊢
        rw [ih]

lemma find?_put (k k' : κ) (v : ν) (t : Table κ ν) :
    find? k' (put k v t) = if k = k' then some v else find? k' t :=
  find?_alter k k' (fun _ => v) t

lemma find?_erase (k k' : κ) (t : Table κ ν) :
    find? k' (erase k t) = if k = k' then none else find? k' t := by
  induction t with
  | nil => simp [erase, find?]
  | cons row t ih =>
    obtain ⟨a, v⟩ := row
    rw [erase, List.filter_cons, ← erase]
    by_cases ha : a = k
    · by_cases hk : k = k'
      · simpa [ha, hk] using ih
      · simpa [ha, hk, find?] using ih
    · by_cases hk : k = k'
      · subst hk
        simpa [ha, find?] using ih
      · simp only [hk, if_false] at ih
        simp [ha, find?, hk, ih]

lemma alter_self {k : κ} {v : ν} {f : Option ν → ν} {t : Table κ ν} (h : find? k t = some v)
    (hf : f (some v) = v) : alter k f t = t := by
  induction t with
  | nil => simp [find?] at h
  | cons row t ih =>
    obtain ⟨a, w⟩ := row
    by_cases ha : a = k
    · obtain rfl : w = v := by simpa [find?, ha] using h
      rw [alter, if_pos ha, hf]
    · rw [find?, if_neg ha] at h
      rw [alter, if_neg ha, ih h]

lemma put_self {k : κ} {v : ν} {t : Table κ ν} (h : find? k t = some v) : put k v t = t :=
  alter_self h rfl

lemma putNew_self {k : κ} {v w : ν} {t : Table κ ν} (h : find? k t = some v) : putNew k w t = t :=
  alter_self h rfl

lemma put_put (k : κ) (v w : ν) (t : Table κ ν) : put k w (put k v t) = put k w t := by
  induction t with
  | nil => simp [put, alter]
  | cons row t ih =>
    obtain ⟨a, u⟩ := row
    by_cases ha : a = k
    · simp [put, alter, ha]
    · simp only [put] at ih
      simp [put, alter, ha, ih]

lemma erase_put (k : κ) (v : ν) (t : Table κ ν) : erase k (put k v t) = erase k t := by
  induction t with
  | nil => simp [put, alter, erase]
  | cons row t ih =>
    obtain ⟨a, u⟩ := row
    simp only [put, erase] at ih
    by_cases ha : a = k
    · simp [put, alter, erase, ha]
    · simpa [put, alter, erase, ha] using ih

lemma erase_self {k : κ} {t : Table κ ν} (h : find? k t = none) : erase k t = t := by
  induction t with
  | nil => rfl
  | cons row t ih =>
    obtain ⟨a, u⟩ := row
    by_cases ha : a = k
    · simp [find?, ha] at h
    · simp only [find?, ha, if_false] at h
      have ht := ih h
      rw [erase] at ht
      rw [erase, List.filter_cons_of_pos (by simpa using ha), ht]

lemma keys_alter (k : κ) (f : Option ν → ν) (t : Table κ ν) :
    keys (alter k f t) = if k ∈ keys t then keys t else keys t ++ [k] := by
  induction t with
  | nil => simp [alter, keys]
  | cons row t ih =>
    obtain ⟨a, v⟩ := row
    by_cases ha : a = k
    · simp [alter, keys, ha]
    · simp only [keys, alter, ha, if_false, List.map_cons, List.mem_cons] at ih ⊢
      rw [ih]
      by_cases hk : k ∈ t.map Prod.fst <;> simp [hk, Ne.symm ha]

lemma keys_put (k : κ) (v : ν) (t : Table κ ν) :
    keys (put k v t) = if k ∈ keys t then keys t else keys t ++ [k] :=
  keys_alter k (fun _ => v) t

lemma keys_prefix_alter (k : κ) (f : Option ν → ν) (t : Table κ ν) : keys t <+: keys (alter k f t) := by
  rw [keys_alter]
  split
  · exact List.prefix_rfl
  · exact List.prefix_append _ _

lemma map_alter_getD (k : κ) (v : ν) (t : Table κ ν) :
    (alter k (·.getD v) t).map Prod.snd =
      if k ∈ keys t then t.map Prod.snd else t.map Prod.snd ++ [v] := by
  induction t with
  | nil => simp [alter, keys]
  | cons row t ih =>
    obtain ⟨a, w⟩ := row
    by_cases ha : a = k
    · simp [alter, keys, ha]
    · simp only [keys, alter, ha, if_false, List.map_cons, List.mem_cons] at ih ⊢
      rw [ih]
      by_cases hk : k ∈ t.map Prod.fst <;> simp [hk, Ne.symm ha]

lemma mem_keys_iff (k : κ) (t : Table κ ν) : k ∈ keys t ↔ (find? k t).isSome = true := by
  induction t with
  | nil => simp [keys, find?]
  | cons row t ih =>
    obtain ⟨a, v⟩ := row
    by_cases ha : a = k
    · simp [keys, find?, ha]
    · simpa [keys, find?, ha, Ne.symm ha] using ih

section Rows

variable {P : ν → Prop} {t : Table κ ν}

lemma mem_alter {k : κ} {f : Option ν → ν} {row : κ × ν} (h : row ∈ alter k f t) :
    row ∈ t ∨ ∃ o : Option ν, row = (k, f o) ∧ ∀ v ∈ o, (k, v) ∈ t := by
  induction t with
  | nil => exact Or.inr ⟨none, List.mem_singleton.mp h, by simp⟩
  | cons first t ih =>
    obtain ⟨a, v⟩ := first
    simp only [alter] at h
    split at h
    · rename_i ha
      rcases List.mem_cons.mp h with rfl | h
      · refine Or.inr ⟨some v, by rw [ha], ?_⟩
        intro w hw
        rw [← Option.mem_some_iff.mp hw, ha]
        exact List.mem_cons_self
      · exact Or.inl (List.mem_cons_of_mem _ h)
    · rcases List.mem_cons.mp h with rfl | h
      · exact Or.inl List.mem_cons_self
      · rcases ih h with ht | ⟨o, hrow, ho⟩
        · exact Or.inl (List.mem_cons_of_mem _ ht)
        · exact Or.inr ⟨o, hrow, fun w hw => List.mem_cons_of_mem _ (ho w hw)⟩

lemma alter_append {k : κ} (hk : k ∉ keys t) (f : Option ν → ν) (u : Table κ ν) :
    alter k f (t ++ u) = t ++ alter k f u := by
  induction t with
  | nil => rfl
  | cons row t ih =>
    simp only [keys, List.map_cons, List.mem_cons, not_or] at hk
    rw [List.cons_append, alter, if_neg (Ne.symm hk.1), ih hk.2]
    rfl

lemma alter_map {ks : List κ} (hks : ks.Nodup) {k : κ} (hk : k ∈ ks) (f : Option ν → ν) (g : κ → ν) :
    alter k f (ks.map fun a => (a, g a)) =
      ks.map fun a => (a, if a = k then f (some (g a)) else g a) := by
  induction ks with
  | nil => simp at hk
  | cons a ks ih =>
    obtain ⟨hnew, hnodup⟩ := List.nodup_cons.mp hks
    rw [List.map_cons, alter, List.map_cons]
    by_cases ha : a = k
    · subst ha
      rw [if_pos rfl, if_pos rfl]
      congr 1
      apply List.map_congr_left
      intro b hb
      rw [if_neg fun hba : b = a => hnew (hba ▸ hb)]
    · rw [if_neg ha, if_neg ha, ih hnodup ((List.mem_cons.mp hk).resolve_left (Ne.symm ha))]

lemma alter_of_not_mem {k : κ} (hk : k ∉ keys t) (f : Option ν → ν) :
    alter k f t = t ++ [(k, f none)] := by
  conv_lhs => rw [← List.append_nil t, alter_append hk]
  rfl

lemma nodup_keys_alter (h : (keys t).Nodup) (k : κ) (f : Option ν → ν) :
    (keys (alter k f t)).Nodup := by
  rw [keys_alter]
  split
  · exact h
  · rename_i hk
    apply List.nodup_append.mpr
    refine ⟨h, by simp, ?_⟩
    intro a ha b hb hab
    rw [List.mem_singleton.mp hb] at hab
    exact hk (hab ▸ ha)

lemma forall_alter (ht : ∀ row ∈ t, P row.2) (k : κ) {f : Option ν → ν}
    (hf : ∀ o : Option ν, (∀ v ∈ o, P v) → P (f o)) : ∀ row ∈ alter k f t, P row.2 := by
  intro row hrow
  rcases mem_alter hrow with h | ⟨o, rfl, ho⟩
  · exact ht row h
  · exact hf o fun v hv => ht (k, v) (ho v hv)

lemma forall_put (ht : ∀ row ∈ t, P row.2) (k : κ) {v : ν} (hv : P v) :
    ∀ row ∈ put k v t, P row.2 :=
  forall_alter ht k fun _ _ => hv

lemma ofList_concat (rows : List (κ × ν)) (row : κ × ν) :
    ofList (rows ++ [row]) = put row.1 row.2 (ofList rows) := by
  rw [ofList, List.foldl_append]
  rfl

lemma nodup_keys_ofList (rows : List (κ × ν)) : (keys (ofList rows)).Nodup := by
  induction rows using List.reverseRecOn with
  | nil => exact List.nodup_nil
  | append_singleton rows row ih =>
    rw [ofList_concat]
    exact nodup_keys_alter ih row.1 _

lemma forall_ofList {rows : List (κ × ν)} (h : ∀ row ∈ rows, P row.2) :
    ∀ row ∈ ofList rows, P row.2 := by
  induction rows using List.reverseRecOn with
  | nil => simp [ofList]
  | append_singleton rows row ih =>
    rw [ofList_concat]
    exact forall_put (ih fun r hr => h r (List.mem_append_left _ hr)) row.1 (h row (by simp))

lemma ofList_self (h : (keys t).Nodup) : ofList t = t := by
  induction t using List.reverseRecOn with
  | nil => rfl
  | append_singleton t row ih =>
    rw [keys, List.map_append, List.nodup_append] at h
    obtain ⟨ht, _, hlast⟩ := h
    have hrow : row.1 ∉ keys t := fun hm => hlast _ hm _ (by simp) rfl
    rw [ofList_concat, ih ht, put, alter_of_not_mem hrow]

lemma of_find? {k : κ} {v : ν} (ht : ∀ row ∈ t, P row.2) (h : find? k t = some v) : P v := by
  induction t with
  | nil => simp [find?] at h
  | cons row t ih =>
    rw [find?] at h
    split at h
    · obtain rfl := Option.some.inj h
      exact ht row (by simp)
    · exact ih (fun r hr => ht r (by simp [hr])) h

lemma find?_eq_some_iff (h : (keys t).Nodup) {k : κ} {v : ν} : find? k t = some v ↔ (k, v) ∈ t := by
  induction t with
  | nil => simp [find?]
  | cons row t ih =>
    obtain ⟨a, w⟩ := row
    obtain ⟨hnew, hnodup⟩ := List.nodup_cons.mp h
    rw [find?, List.mem_cons, Prod.mk.injEq]
    by_cases ha : a = k
    · subst ha
      have hmem : (a, v) ∉ t := fun hmem => hnew (List.mem_map.mpr ⟨(a, v), hmem, rfl⟩)
      simp [hmem, eq_comm]
    · rw [if_neg ha, ih hnodup]
      simp [Ne.symm ha]

end Rows

section Keyed

variable (key : ν → κ)

def IsKeyed (t : Table κ ν) : Prop := ∀ row ∈ t, key row.2 = row.1

def putAll (vs : List ν) (t : Table κ ν) : Table κ ν := vs.foldl (fun t v => put (key v) v t) t

def putNewAll (vs : List ν) (t : Table κ ν) : Table κ ν :=
  vs.foldl (fun t v => putNew (key v) v t) t

lemma isKeyed_alter {k : κ} {f : Option ν → ν} {t : Table κ ν} (ht : IsKeyed key t)
    (hf : ∀ o : Option ν, (∀ v ∈ o, key v = k) → key (f o) = k) : IsKeyed key (alter k f t) := by
  induction t with
  | nil => simpa [IsKeyed, alter] using hf none (by simp)
  | cons row t ih =>
    obtain ⟨a, v⟩ := row
    have hv : key v = a := ht (a, v) (by simp)
    have htail : IsKeyed key t := fun r hr => ht r (by simp [hr])
    simp only [alter]
    split
    · rename_i ha
      intro r hr
      rcases List.mem_cons.mp hr with rfl | hr
      · rw [ha]
        exact hf (some v) (by simp [hv, ha])
      · exact htail r hr
    · intro r hr
      rcases List.mem_cons.mp hr with rfl | hr
      · exact hv
      · exact ih htail r hr

lemma isKeyed_putAll (vs : List ν) {t : Table κ ν} (h : IsKeyed key t) :
    IsKeyed key (putAll key vs t) := by
  induction vs generalizing t with
  | nil => exact h
  | cons v vs ih => exact ih (isKeyed_alter key h fun _ _ => rfl)

lemma isKeyed_putNewAll (vs : List ν) {t : Table κ ν} (h : IsKeyed key t) :
    IsKeyed key (putNewAll key vs t) := by
  induction vs generalizing t with
  | nil => exact h
  | cons v vs ih =>
    refine ih (isKeyed_alter key h fun o ho => ?_)
    cases o with
    | none => rfl
    | some w => simpa using ho w (by simp)

lemma putAll_concat (vs : List ν) (v : ν) (t : Table κ ν) :
    putAll key (vs ++ [v]) t = put (key v) v (putAll key vs t) := by
  simp [putAll]

lemma putNewAll_concat (vs : List ν) (v : ν) (t : Table κ ν) :
    putNewAll key (vs ++ [v]) t = putNew (key v) v (putNewAll key vs t) := by
  simp [putNewAll]

lemma eraseDups_concat {κ : Type} [BEq κ] [LawfulBEq κ] [DecidableEq κ] (ks : List κ) (k : κ) :
    (ks ++ [k]).eraseDups = if k ∈ ks.eraseDups then ks.eraseDups else ks.eraseDups ++ [k] := by
  rw [List.eraseDups_append]
  by_cases hk : k ∈ ks <;> simp [List.removeAll, hk, List.mem_eraseDups, List.eraseDups_cons]

lemma keys_putAll [BEq κ] [LawfulBEq κ] (vs : List ν) :
    keys (putAll key vs []) = (vs.map key).eraseDups := by
  induction vs using List.reverseRecOn with
  | nil => rfl
  | append_singleton vs v ih =>
    rw [putAll_concat, keys_put, ih, List.map_append, List.map_singleton, eraseDups_concat]
    by_cases hk : key v ∈ (vs.map key).eraseDups <;> simp only [hk, if_true, if_false]

lemma keys_putNewAll [BEq κ] [LawfulBEq κ] (vs : List ν) :
    keys (putNewAll key vs []) = (vs.map key).eraseDups := by
  induction vs using List.reverseRecOn with
  | nil => rfl
  | append_singleton vs v ih =>
    rw [putNewAll_concat, putNew, keys_alter, ih, List.map_append, List.map_singleton,
      eraseDups_concat]
    by_cases hk : key v ∈ (vs.map key).eraseDups <;> simp only [hk, if_true, if_false]

lemma find?_putAll (vs : List ν) (k : κ) :
    find? k (putAll key vs []) = vs.reverse.find? fun v => key v = k := by
  induction vs using List.reverseRecOn with
  | nil => rfl
  | append_singleton vs v ih =>
    rw [putAll_concat, find?_put, ih, List.reverse_append, List.reverse_singleton,
      List.singleton_append, List.find?_cons]
    by_cases hk : key v = k <;> simp [hk]

lemma find?_putNewAll (vs : List ν) (k : κ) :
    find? k (putNewAll key vs []) = vs.find? fun v => key v = k := by
  induction vs using List.reverseRecOn with
  | nil => rfl
  | append_singleton vs v ih =>
    rw [putNewAll_concat, putNew, find?_alter, List.find?_append, ih]
    by_cases hk : key v = k
    · subst hk
      rw [if_pos rfl, ih]
      cases h : vs.find? fun w => decide (key w = key v) <;> simp
    · cases h : vs.find? fun w => decide (key w = k) <;> simp [hk]

lemma find?_of_isKeyed {t : Table κ ν} (h : IsKeyed key t) (k : κ) :
    find? k t = (t.map Prod.snd).find? fun v => key v = k := by
  induction t with
  | nil => rfl
  | cons row t ih =>
    obtain ⟨a, v⟩ := row
    obtain rfl : key v = a := h (a, v) (by simp)
    rw [find?, List.map_cons, List.find?_cons, ih fun r hr => h r (by simp [hr])]
    by_cases hk : key v = k <;> simp [hk]

omit [DecidableEq κ] in
lemma keys_of_isKeyed {t : Table κ ν} (h : IsKeyed key t) :
    keys t = (t.map Prod.snd).map key := by
  rw [keys, List.map_map]
  exact List.map_congr_left fun row hr => (h row hr).symm

omit [DecidableEq κ] in
lemma isKeyed_nil : IsKeyed key [] := by
  intro row h
  simp at h

def firsts (vs : List ν) : List ν := (putNewAll key vs []).map Prod.snd

lemma map_firsts [BEq κ] [LawfulBEq κ] (vs : List ν) :
    (firsts key vs).map key = (vs.map key).eraseDups := by
  rw [firsts, ← keys_of_isKeyed key (isKeyed_putNewAll key vs (isKeyed_nil key)), keys_putNewAll]

lemma find?_firsts (vs : List ν) (k : κ) :
    (firsts key vs).find? (fun v => key v = k) = vs.find? fun v => key v = k := by
  rw [firsts, ← find?_of_isKeyed key (isKeyed_putNewAll key vs (isKeyed_nil key)), find?_putNewAll]

lemma firsts_concat (vs : List ν) (v : ν) :
    firsts key (vs ++ [v]) =
      if key v ∈ (firsts key vs).map key then firsts key vs else firsts key vs ++ [v] := by
  have hkeys := keys_of_isKeyed key (isKeyed_putNewAll key vs (isKeyed_nil key))
  rw [firsts, putNewAll_concat, putNew, map_alter_getD, hkeys]
  rfl

lemma nodup_map_firsts (vs : List ν) : ((firsts key vs).map key).Nodup := by
  induction vs using List.reverseRecOn with
  | nil => simp [firsts, putNewAll]
  | append_singleton vs v ih =>
    rw [firsts_concat]
    split
    · exact ih
    · rename_i hv
      rw [List.map_append, List.nodup_append]
      refine ⟨ih, by simp, ?_⟩
      intro a ha b hb hab
      rw [List.map_singleton, List.mem_singleton] at hb
      exact hv (hb ▸ hab ▸ ha)

lemma mem_map_firsts (vs : List ν) (k : κ) : k ∈ (firsts key vs).map key ↔ k ∈ vs.map key := by
  rw [map_firsts, List.mem_eraseDups]

lemma firsts_sublist (vs : List ν) : (firsts key vs).Sublist vs := by
  induction vs using List.reverseRecOn with
  | nil => exact List.Sublist.slnil
  | append_singleton vs v ih =>
    rw [firsts_concat]
    split
    · exact ih.trans (List.sublist_append_left vs [v])
    · exact ih.append_right [v]

lemma mem_of_mem_firsts {vs : List ν} {v : ν} (h : v ∈ firsts key vs) : v ∈ vs :=
  (firsts_sublist key vs).subset h

lemma firsts_map {α : Type} (f : α → ν) (as : List α) :
    firsts key (as.map f) = (firsts (key ∘ f) as).map f := by
  induction as using List.reverseRecOn with
  | nil => rfl
  | append_singleton as a ih =>
    rw [List.map_append, List.map_singleton, firsts_concat, firsts_concat, ih, List.map_map,
      Function.comp_apply, apply_ite (List.map f), List.map_append, List.map_singleton]

lemma foldl_putNew (rows : List (κ × ν)) :
    rows.foldl (fun t row => putNew row.1 row.2 t) [] = firsts Prod.fst rows := by
  induction rows using List.reverseRecOn with
  | nil => rfl
  | append_singleton rows row ih =>
    rw [List.foldl_append, ih, List.foldl_cons, List.foldl_nil, firsts_concat, putNew]
    split
    · rename_i hkey
      obtain ⟨⟨k, v⟩, hmem, rfl⟩ := List.mem_map.mp hkey
      exact alter_self ((find?_eq_some_iff (nodup_map_firsts Prod.fst rows)).mpr hmem) rfl
    · rename_i hkey
      exact alter_of_not_mem hkey _

lemma firsts_append_of_nodup {ws : List ν} (hw : (ws.map key).Nodup) (vs : List ν) :
    firsts key (vs ++ ws) =
      firsts key vs ++ ws.filter fun w => key w ∉ (firsts key vs).map key := by
  induction ws using List.reverseRecOn with
  | nil => simp
  | append_singleton ws w ih =>
    rw [List.map_append, List.nodup_append] at hw
    obtain ⟨hws, _, hlast⟩ := hw
    have hnew : key w ∉ ws.map key := fun h => hlast _ h _ (by simp) rfl
    have hkeys : key w ∈ (firsts key vs ++ ws.filter fun w => key w ∉ (firsts key vs).map key).map key
        ↔ key w ∈ (firsts key vs).map key := by
      rw [List.map_append, List.mem_append]
      refine ⟨?_, Or.inl⟩
      rintro (h | h)
      · exact h
      · obtain ⟨x, hx, hxw⟩ := List.mem_map.mp h
        exact absurd (List.mem_map.mpr ⟨x, (List.mem_filter.mp hx).1, hxw⟩) hnew
    rw [← List.append_assoc, firsts_concat, ih hws, List.filter_append]
    by_cases hv : key w ∈ (firsts key vs).map key
    · rw [if_pos (hkeys.mpr hv), List.filter_cons_of_neg (by simpa using hv)]
      simp
    · rw [if_neg (hkeys.not.mpr hv), List.filter_cons_of_pos (by simpa using hv)]
      simp

lemma firsts_of_nodup {vs : List ν} (h : (vs.map key).Nodup) : firsts key vs = vs := by
  have hnil : firsts key [] = [] := rfl
  have happend := firsts_append_of_nodup key h []
  rw [List.nil_append, hnil, List.nil_append] at happend
  rw [happend]
  apply List.filter_eq_self.mpr
  simp

lemma nodup_eraseDups [BEq κ] [LawfulBEq κ] (ks : List κ) : ks.eraseDups.Nodup := by
  have h := nodup_map_firsts id ks
  rw [map_firsts, List.map_id] at h
  exact h

lemma eraseDups_filter [BEq κ] [LawfulBEq κ] (p : κ → Bool) (ks : List κ) :
    (ks.filter p).eraseDups = ks.eraseDups.filter p := by
  induction ks using List.reverseRecOn with
  | nil => rfl
  | append_singleton ks k ih =>
    rw [List.filter_append, eraseDups_concat]
    by_cases hp : p k = true
    · rw [List.filter_cons_of_pos hp, List.filter_nil, eraseDups_concat, ih]
      by_cases hk : k ∈ ks.eraseDups
      · rw [if_pos hk, if_pos (List.mem_filter.mpr ⟨hk, hp⟩)]
      · rw [if_neg hk, if_neg fun h => hk (List.mem_filter.mp h).1, List.filter_append,
          List.filter_cons_of_pos hp, List.filter_nil]
    · rw [List.filter_cons_of_neg hp, List.filter_nil, List.append_nil, ih]
      by_cases hk : k ∈ ks.eraseDups
      · rw [if_pos hk]
      · rw [if_neg hk, List.filter_append, List.filter_cons_of_neg hp, List.filter_nil,
          List.append_nil]

lemma eraseDups_eraseDups [BEq κ] [LawfulBEq κ] (ks : List κ) :
    ks.eraseDups.eraseDups = ks.eraseDups := by
  induction ks using List.reverseRecOn with
  | nil => rfl
  | append_singleton ks k ih =>
    rw [eraseDups_concat]
    by_cases hk : k ∈ ks.eraseDups
    · rw [if_pos hk, ih]
    · rw [if_neg hk, eraseDups_concat, ih, if_neg hk]

lemma eraseDups_eraseDups_append [BEq κ] [LawfulBEq κ] (ks ls : List κ) :
    (ks.eraseDups ++ ls).eraseDups = (ks ++ ls).eraseDups := by
  have hremove : ls.removeAll ks.eraseDups = ls.removeAll ks := by
    rw [List.removeAll, List.removeAll]
    apply List.filter_congr
    intro l _
    rw [Bool.eq_iff_iff]
    simp [List.mem_eraseDups]
  rw [List.eraseDups_append, List.eraseDups_append, eraseDups_eraseDups, hremove]

lemma eraseDups_append_eraseDups [BEq κ] [LawfulBEq κ] (ks ls : List κ) :
    (ks ++ ls.eraseDups).eraseDups = (ks ++ ls).eraseDups := by
  rw [List.eraseDups_append, List.eraseDups_append, List.removeAll, List.removeAll,
    ← eraseDups_filter, eraseDups_eraseDups]

lemma find?_of_mem {vs : List ν} (hn : (vs.map key).Nodup) {v : ν} (hv : v ∈ vs) :
    vs.find? (fun w => key w = key v) = some v := by
  induction vs with
  | nil => simp at hv
  | cons w vs ih =>
    rw [List.map_cons, List.nodup_cons] at hn
    rcases List.mem_cons.mp hv with rfl | hv
    · rw [List.find?_cons_of_pos (by simp)]
    · have hne : key w ≠ key v := fun h => hn.1 (h ▸ List.mem_map_of_mem hv)
      rw [List.find?_cons_of_neg (by simpa using hne), ih hn.2 hv]

lemma mem_firsts_iff {vs : List ν} {v : ν} :
    v ∈ firsts key vs ↔ vs.find? (fun w => key w = key v) = some v := by
  rw [← find?_firsts]
  exact ⟨find?_of_mem key (nodup_map_firsts key vs), List.mem_of_find?_eq_some⟩

lemma eq_of_map_of_find? {vs ws : List ν} (hk : vs.map key = ws.map key)
    (hn : (vs.map key).Nodup)
    (hf : ∀ k, vs.find? (fun v => key v = k) = ws.find? fun v => key v = k) : vs = ws := by
  have hlen : vs.length = ws.length := by
    have h := congrArg List.length hk
    rwa [List.length_map, List.length_map] at h
  apply List.ext_getElem hlen
  intro i hi hi'
  have hkey : key vs[i] = key ws[i] := by
    have h := List.getElem_of_eq hk (by rwa [List.length_map])
    rwa [List.getElem_map, List.getElem_map] at h
  have hv := find?_of_mem key hn (List.getElem_mem hi)
  have hw := find?_of_mem key (hk ▸ hn) (List.getElem_mem hi')
  rw [hf, hkey, hw] at hv
  exact (Option.some.inj hv).symm

end Keyed

end SketchBuild.Table

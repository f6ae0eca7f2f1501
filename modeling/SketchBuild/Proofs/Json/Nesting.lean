import SketchBuild.Proofs.Json.Reading

namespace SketchBuild.Json

/-- How many brackets are open at most from some place of a text on, where `n` are; those in quotes are
none. -/
def deepest : (quoted : Bool) → (n : Nat) → Text → Nat
  | _, n, [] => n
  | true, n, ['\\'] => n
  | true, n, '\\' :: _ :: s => deepest true n s
  | true, n, c :: s => deepest (c ≠ '"') n s
  | false, n, c :: s =>
    if c = '[' || c = '\x7b' then deepest false (n + 1) s
    else if c = ']' || c = '\x7d' then max n (deepest false (n - 1) s)
    else deepest (c = '"') n s

def nesting (s : Text) : Nat := deepest false 0 s

inductive IsWithin : Nat → Json → Prop
  | null {n : Nat} : IsWithin n .null
  | bool {n : Nat} (b : Bool) : IsWithin n (.bool b)
  | int {n : Nat} (i : Int) : IsWithin n (.int i)
  | float {n : Nat} (x : Binary64) : IsWithin n (.float x)
  | str {n : Nat} (s : Text) : IsWithin n (.str s)
  | arr {n : Nat} {items : List Json} (h : ∀ v ∈ items, IsWithin n v) : IsWithin (n + 1) (.arr items)
  | obj {n : Nat} {members : List (Text × Json)} (h : ∀ m ∈ members, IsWithin n m.2) :
      IsWithin (n + 1) (.obj members)

lemma IsWithin.mono {n m : Nat} {v : Json} (h : IsWithin n v) (hle : n ≤ m) : IsWithin m v := by
  induction h generalizing m with
  | null => exact .null
  | bool b => exact .bool b
  | int i => exact .int i
  | float x => exact .float x
  | str s => exact .str s
  | @arr n items _ ih =>
    obtain ⟨m, rfl⟩ := Nat.exists_eq_add_of_lt hle
    exact .arr fun v hv => ih v hv (Nat.le_add_right n m)
  | @obj n members _ ih =>
    obtain ⟨m, rfl⟩ := Nat.exists_eq_add_of_lt hle
    exact .obj fun row hrow => ih row hrow (Nat.le_add_right n m)

section Deepest

variable {n : Nat} {s : Text}

def isInert (c : Char) : Bool := c ≠ '"' && c ≠ '[' && c ≠ ']' && c ≠ '\x7b' && c ≠ '\x7d'

lemma deepest_inert {c : Char} (h : isInert c = true) (n : Nat) (s : Text) :
    deepest false n (c :: s) = deepest false n s := by
  simp only [isInert, Bool.and_eq_true, decide_eq_true_eq] at h
  obtain ⟨⟨⟨⟨hquote, hopen⟩, hclose⟩, hbrace⟩, hend⟩ := h
  simp [deepest, hquote, hopen, hclose, hbrace, hend]

lemma deepest_append {p : Text} (h : ∀ c ∈ p, isInert c = true) (n : Nat) (s : Text) :
    deepest false n (p ++ s) = deepest false n s := by
  induction p with
  | nil => rfl
  | cons c p ih =>
    rw [List.cons_append, deepest_inert (h c (by simp)), ih fun a ha => h a (by simp [ha])]

lemma deepest_open {c : Char} (h : c = '[' ∨ c = '\x7b') :
    deepest false n (c :: s) = deepest false (n + 1) s := by
  rcases h with rfl | rfl <;> simp [deepest]

lemma deepest_le_of_close {c : Char} (h : c = ']' ∨ c = '\x7d') {N : Nat}
    (hs : deepest false (n + 1) (c :: s) ≤ N) : deepest false n s ≤ N := by
  rcases h with rfl | rfl <;> · simp [deepest] at hs; exact hs.2

lemma le_deepest (quoted : Bool) (n : Nat) (s : Text) : n ≤ deepest quoted n s := by
  fun_induction deepest quoted n s <;> omega

lemma deepest_skipSpace (n : Nat) (s : Text) : deepest false n (skipSpace s) = deepest false n s := by
  conv_rhs => rw [← List.takeWhile_append_dropWhile (p := isSpace) (l := s)]
  rw [deepest_append, skipSpace]
  intro c hc
  have hspace := List.mem_takeWhile_imp hc
  simp only [isSpace, Bool.or_eq_true, decide_eq_true_eq] at hspace
  rcases hspace with ((rfl | rfl) | rfl) | rfl <;> rfl

end Deepest

section Strings

lemma deepest_quoted {c : Char} (hc : c ≠ '\\') (hquote : c ≠ '"') (n : Nat) (s : Text) :
    deepest true n (c :: s) = deepest true n s := by
  rw [deepest.eq_4 _ _ _ (fun h _ => hc h) (fun _ _ h _ => hc h)]
  simp [hquote]

lemma ne_of_hexValue? {c : Char} {v : Nat} (h : hexValue? c = some v) : c ≠ '\\' ∧ c ≠ '"' := by
  have hback : hexValue? '\\' = none := by decide
  have hquote : hexValue? '"' = none := by decide
  constructor
  · rintro rfl
    simp [hback] at h
  · rintro rfl
    simp [hquote] at h

lemma deepest_unit {a b c d : Char} {v : Nat} (h : unit? a b c d = some v) (n : Nat) (s : Text) :
    deepest true n (a :: b :: c :: d :: s) = deepest true n s := by
  simp only [unit?, Option.bind_eq_bind, Option.bind_eq_some_iff] at h
  obtain ⟨_, ha, _, hb, _, hc, _, hd, _⟩ := h
  have hquoted : ∀ {e : Char} {u : Nat} (t : Text), hexValue? e = some u →
      deepest true n (e :: t) = deepest true n t :=
    fun t he => deepest_quoted (ne_of_hexValue? he).1 (ne_of_hexValue? he).2 n t
  rw [hquoted _ ha, hquoted _ hb, hquoted _ hc, hquoted _ hd]

lemma deepest_of_readPoints {opening s rest : Text} {ns : List Nat} (n : Nat)
    (h : readPoints opening s = .ok (ns, rest)) : deepest true n s = deepest false n rest := by
  have hcons : ∀ {m : Nat} {r : Parsed (List Nat)} {ms : List Nat}, consPoint m r = .ok (ms, rest) →
      ∃ ks, r = .ok (ks, rest) := by
    intro m r ms hr
    cases r with
    | error e => simp [consPoint] at hr
    | ok x =>
      obtain ⟨_, rfl⟩ := Prod.mk.inj (Except.ok.inj hr)
      exact ⟨x.1, rfl⟩
  fun_induction readPoints opening s generalizing ns with
  | case1 => simp [fault] at h
  | case2 s =>
    obtain ⟨_, rfl⟩ := Prod.mk.inj (Except.ok.inj h)
    rw [deepest.eq_4 _ _ _ (by simp) (by simp)]
    simp
  | case3 => simp at h
  | case4 a b c d e s m hunit ih =>
    obtain ⟨ms, hms⟩ := hcons h
    rw [deepest, deepest_unit hunit, ih hms]
  | case5 => simp at h
  | case6 => simp [fault] at h
  | case7 c s _ _ a _ ih =>
    obtain ⟨ms, hms⟩ := hcons h
    rw [deepest, ih hms]
  | case8 => simp at h
  | case9 => simp at h
  | case10 c s hquote _ _ hlast hback _ ih =>
    obtain ⟨ms, hms⟩ := hcons h
    have hc : c ≠ '\\' := by
      intro hc
      cases s with
      | nil => exact hlast hc rfl
      | cons a s => exact hback a s hc rfl
    rw [deepest_quoted hc hquote, ih hms]

lemma deepest_of_readString {opening s rest t : Text} (n : Nat)
    (h : readString opening s = .ok (t, rest)) :
    deepest false n ('"' :: s) = deepest false n rest := by
  rw [readString] at h
  split at h
  · rename_i ns rest' hpoints
    obtain ⟨_, rfl⟩ := Prod.mk.inj (Except.ok.inj h)
    rw [← deepest_of_readPoints n hpoints]
    simp [deepest]
  · simp at h

end Strings

section Values

/-- Whether a result meets a condition, and no more than `N` brackets are open in what is left, where `n`
are. -/
def IsShallow {α : Type} (N n : Nat) (P : α → Prop) : Parsed α → Prop
  | .ok (a, rest) => P a ∧ deepest false n rest ≤ N
  | .error _ => True

lemma isShallow_readNumber {N n : Nat} {s : Text} (hs : deepest false n s ≤ N) :
    IsShallow N n (IsWithin (N - n)) (readNumber s) := by
  have hinert : ∀ c, Numeral.isMark c = true → isInert c = true := by
    intro c hc
    have hne : ∀ b : Char, Numeral.isMark b = false → c ≠ b := by
      rintro b hb rfl
      simp [hc] at hb
    simp [isInert, hne '"' rfl, hne '[' rfl, hne ']' rfl, hne '\x7b' rfl, hne '\x7d' rfl]
  rw [readNumber]
  split
  · trivial
  · rename_i m rest hscan
    obtain ⟨⟨p, rfl, hp⟩, _⟩ := Numeral.scan_whole hscan
    rw [deepest_append fun c hc => hinert c (hp c hc)] at hs
    split
    · exact ⟨.float _, hs⟩
    · split
      · trivial
      · exact ⟨.int _, hs⟩

lemma isShallow_word? {N n : Nat} {s : Text} {x : Json × Text} (hs : deepest false n s ≤ N)
    (h : word? s = some x) : IsWithin (N - n) x.1 ∧ deepest false n x.2 ≤ N := by
  have hwords : ∀ w ∈ words, (∀ c ∈ w.1, isInert c = true) ∧ ∀ m, IsWithin m w.2 := by
    -- the test by `all` goes over the list only, and not over all characters
    have hinert : (words.all fun w => w.1.all isInert) = true := by decide
    refine fun w hw => ⟨List.all_eq_true.mp (List.all_eq_true.mp hinert w hw), fun m => ?_⟩
    simp only [words, List.mem_cons, List.not_mem_nil, or_false] at hw
    rcases hw with rfl | rfl | rfl | rfl | rfl | rfl
    · exact .null
    · exact .bool _
    · exact .bool _
    · exact .float _
    · exact .float _
    · exact .float _
  obtain ⟨w, hw, hx⟩ := List.exists_of_findSome?_eq_some h
  obtain ⟨rest, hrest, rfl⟩ := Option.map_eq_some_iff.mp hx
  obtain ⟨hplain, hwithin⟩ := hwords w hw
  rw [Text.dropPrefix?_eq_some hrest, deepest_append hplain] at hs
  exact ⟨hwithin _, hs⟩

structure IsShallowWithin (N k : Nat) : Prop where
  value : ∀ n s, deepest false n s ≤ N → IsShallow N n (IsWithin (N - n)) (readValue k s)
  items : ∀ n s, deepest false (n + 1) s ≤ N →
    IsShallow N n (∀ v ∈ ·, IsWithin (N - (n + 1)) v) (readItems k s)
  members : ∀ n s, deepest false (n + 1) s ≤ N →
    IsShallow N n (∀ m ∈ ·, IsWithin (N - (n + 1)) m.2) (readMembers k s)

variable {N k : Nat} (h : IsShallowWithin N k) {n : Nat} {s : Text}

include h

lemma isShallow_readValue_step (hs : deepest false n s ≤ N) :
    IsShallow N n (IsWithin (N - n)) (readValue (k + 1) s) := by
  have hdown : n + 1 ≤ N → N - n = N - (n + 1) + 1 := by omega
  rw [readValue.eq_def]
  dsimp only
  split
  · split
    · rename_i t rest hstring
      exact ⟨.str t, by rwa [← deepest_of_readString n hstring]⟩
    · trivial
  · rename_i r
    rw [deepest_open (.inl rfl), ← deepest_skipSpace] at hs
    rw [hdown ((le_deepest _ _ _).trans hs)]
    split
    · rename_i rest hrest
      rw [hrest] at hs
      exact ⟨.arr (by simp), deepest_le_of_close (.inl rfl) hs⟩
    · have hitems := h.items n _ hs
      split
      · rename_i vs rest heq
        rw [heq] at hitems
        exact ⟨.arr hitems.1, hitems.2⟩
      · trivial
  · rename_i r
    rw [deepest_open (.inr rfl), ← deepest_skipSpace] at hs
    rw [hdown ((le_deepest _ _ _).trans hs)]
    split
    · rename_i rest hrest
      rw [hrest] at hs
      exact ⟨.obj (by simp), deepest_le_of_close (.inr rfl) hs⟩
    · have hmembers := h.members n _ hs
      split
      · rename_i ms rest heq
        rw [heq] at hmembers
        exact ⟨.obj (Table.forall_ofList hmembers.1), hmembers.2⟩
      · trivial
  · split
    · rename_i x hx
      exact isShallow_word? hs hx
    · exact isShallow_readNumber hs

lemma isShallow_readItems_step (hs : deepest false (n + 1) s ≤ N) :
    IsShallow N n (∀ v ∈ ·, IsWithin (N - (n + 1)) v) (readItems (k + 1) s) := by
  have hvalue := h.value (n + 1) s hs
  rw [readItems]
  split
  · trivial
  · rename_i v r heq
    rw [heq] at hvalue
    obtain ⟨hv, hr⟩ := hvalue
    rw [← deepest_skipSpace] at hr
    split
    · rename_i rest hrest
      rw [hrest] at hr
      exact ⟨by simpa using hv, deepest_le_of_close (.inl rfl) hr⟩
    · rename_i t ht
      rw [ht, deepest_inert rfl, ← deepest_skipSpace] at hr
      have hitems := h.items n _ hr
      split
      · rename_i vs rest hvs
        rw [hvs] at hitems
        exact ⟨List.forall_mem_cons.mpr ⟨hv, hitems.1⟩, hitems.2⟩
      · trivial
    · trivial

lemma isShallow_readMembers_step (hs : deepest false (n + 1) s ≤ N) :
    IsShallow N n (∀ m ∈ ·, IsWithin (N - (n + 1)) m.2) (readMembers (k + 1) s) := by
  rw [readMembers.eq_def]
  dsimp only
  split
  · split
    · trivial
    · rename_i name t hname
      rw [deepest_of_readString _ hname, ← deepest_skipSpace] at hs
      split
      · rename_i u hu
        rw [hu, deepest_inert rfl, ← deepest_skipSpace] at hs
        have hvalue := h.value (n + 1) _ hs
        split
        · trivial
        · rename_i v w hv
          rw [hv] at hvalue
          obtain ⟨hwithin, hw⟩ := hvalue
          rw [← deepest_skipSpace] at hw
          split
          · rename_i rest hrest
            rw [hrest] at hw
            exact ⟨by simpa using hwithin, deepest_le_of_close (.inr rfl) hw⟩
          · rename_i x hx
            rw [hx, deepest_inert rfl, ← deepest_skipSpace] at hw
            have hmembers := h.members n _ hw
            split
            · rename_i ms rest hms
              rw [hms] at hmembers
              exact ⟨List.forall_mem_cons.mpr ⟨hwithin, hmembers.1⟩, hmembers.2⟩
            · trivial
          · trivial
      · trivial
  · trivial

end Values

lemma isShallowWithin (N k : Nat) : IsShallowWithin N k := by
  induction k with
  | zero => exact ⟨fun _ _ _ => trivial, fun _ _ _ => trivial, fun _ _ _ => trivial⟩
  | succ k ih =>
    exact ⟨fun _ _ => isShallow_readValue_step ih, fun _ _ => isShallow_readItems_step ih,
      fun _ _ => isShallow_readMembers_step ih⟩

lemma isWithin_of_read {s : Text} {v : Json} (h : read s = .ok v) : IsWithin (nesting s) v := by
  rw [read.eq_def] at h
  split at h
  · simp at h
  · have hvalue := (isShallowWithin (nesting s) (2 * s.length + 2)).value 0 (skipSpace s)
      (deepest_skipSpace 0 s).le
    split at h
    · simp at h
    · rename_i w r heq
      rw [heq] at hvalue
      split at h
      · obtain rfl := Except.ok.inj h
        exact hvalue.1
      · simp at h

end SketchBuild.Json

import SketchBuild.Proofs.Flags.Prefixed
import SketchBuild.Proofs.Text.Strip

namespace SketchBuild.Flags

inductive Turn where
  | before
  | after
  deriving DecidableEq

def Turn.flag : Turn → Text
  | .before => beforeFlag
  | .after => afterFlag

def Turn.plainFlag : Turn → Text
  | .before => "-I"
  | .after => "-idirafter"

inductive PrefixItem where
  | setPrefix (dir : Text)
  | below (turn : Turn) (name : Text)
  | other (argument : Text)
  deriving DecidableEq

/-- How a flag has its value: in the next argument, behind an equals sign or right behind it. -/
inductive Spelling where
  | separate
  | equals
  | fused
  deriving DecidableEq

namespace Spelling

def attached : Spelling → Text → Text
  | .separate, _ => []
  | .equals, value => '=' :: value
  | .fused, value => value

def following : Spelling → Text → List Text
  | .separate, value => [value]
  | _, _ => []

def arguments (s : Spelling) (flag value : Text) : List Text :=
  (flag ++ s.attached value) :: s.following value

end Spelling

/-- Whether a value right behind its flag is still read as the value. -/
def IsFusible (value : Text) : Prop := value ≠ [] ∧ value.head? ≠ some '='

instance (value : Text) : Decidable (IsFusible value) := inferInstanceAs (Decidable (_ ∧ _))

namespace PrefixItem

def arguments (s : Spelling) : PrefixItem → List Text
  | .setPrefix dir => s.arguments prefixFlag dir
  | .below turn name => s.arguments turn.flag name
  | .other argument => [argument]

def IsSpelled (s : Spelling) : PrefixItem → Prop
  | .setPrefix dir => s = .fused → IsFusible dir
  | .below turn name => ¬prefixFlag <+: name ∧
      (s = .fused → IsFusible name ∧ (turn = .after → ¬("before" : Text) <+: name))
  | .other argument => ¬prefixFlag <+: argument ∧ ¬afterFlag <+: argument ∧
      argument.head? ≠ some '@'

instance (s : Spelling) : (item : PrefixItem) → Decidable (item.IsSpelled s)
  | .setPrefix _ => inferInstanceAs (Decidable (_ → _))
  | .below _ _ => inferInstanceAs (Decidable (_ ∧ (_ → _ ∧ (_ → _))))
  | .other _ => inferInstanceAs (Decidable (_ ∧ _ ∧ _))

end PrefixItem

def spelled (items : List (PrefixItem × Spelling)) : List Text :=
  items.flatMap fun x => x.1.arguments x.2

def resolveItems (cwd base : Text) : Option Text → List (PrefixItem × Spelling) → List Text
  | _, [] => []
  | _, (.setPrefix dir, _) :: rest => resolveItems cwd base (some (prefixDir cwd base dir)) rest
  | some dir, (.below turn name, _) :: rest =>
    (turn.plainFlag ++ joinPrefix dir name) :: resolveItems cwd base (some dir) rest
  | none, (.below turn name, s) :: rest =>
    s.arguments turn.flag name ++ resolveItems cwd base none rest
  | _, (.other argument, _) :: rest => argument :: resolveItems cwd base none rest

/-- Whether every name below a prefix has one; `active` tells whether one holds at the start. -/
def AllPrefixed : Bool → List PrefixItem → Prop
  | _, [] => True
  | _, .setPrefix _ :: rest => AllPrefixed true rest
  | active, .below _ _ :: rest => active = true ∧ AllPrefixed active rest
  | _, .other _ :: rest => AllPrefixed false rest

section Arguments

variable {s : Spelling} {value name : Text}

lemma value?_attached (flag : Text) (h : s = .fused → IsFusible value) (rest : List Text) :
    value? flag (flag ++ s.attached value) (s.following value ++ rest).head? =
      some (value, decide (s = .separate)) := by
  cases s with
  | separate =>
    rw [Spelling.attached, List.append_nil, value?, if_pos rfl]
    rfl
  | equals =>
    rw [Spelling.attached, value?, if_neg (by simp), attached?, Text.dropPrefix?_append]
    rfl
  | fused =>
    obtain ⟨hne, hequals⟩ := h rfl
    cases value with
    | nil => exact (hne rfl).elim
    | cons c value =>
      have hc : c ≠ '=' := by simpa using hequals
      rw [Spelling.attached, value?, if_neg (by simp), attached?, Text.dropPrefix?_append]
      split
      · rename_i heq
        exact (hc (List.cons.inj (Option.some.inj heq)).1).elim
      · rename_i heq
        rw [← heq]
        rfl
      · rename_i hnot
        exact (hnot c value rfl).elim

lemma left_following (s : Spelling) (value : Text) (rest : List Text) :
    (if decide (s = .separate) then (s.following value ++ rest).tail
      else s.following value ++ rest) = rest := by
  cases s <;> rfl

lemma value?_flag (turn : Turn) (t : Text) (next : Option Text) :
    value? prefixFlag (turn.flag ++ t) next = none := by
  cases turn <;> exact value?_of_dropPrefix rfl

lemma value?_after (h : s = .fused → ¬("before" : Text) <+: name) (next : Option Text) :
    value? beforeFlag (afterFlag ++ s.attached name) next = none := by
  apply value?_of_dropPrefix
  apply Text.dropPrefix?_of_not_prefix
  have hsplit : beforeFlag = afterFlag ++ ("before" : Text) := rfl
  rw [hsplit, List.prefix_append_right_inj]
  cases s with
  | separate => exact (by decide : ¬("before" : Text) <+: [])
  | equals =>
    rintro ⟨rest, hrest⟩
    simp [Spelling.attached] at hrest
  | fused => exact h rfl

lemma move_setPrefix (active : Option Text) (h : s = .fused → IsFusible value) (rest : List Text) :
    move active (prefixFlag ++ s.attached value) (s.following value ++ rest).head? =
      .setPrefix value (decide (s = .separate)) := by
  simp only [move, value?_attached prefixFlag h]

lemma move_below (dir : Text) {turn : Turn} (h : (PrefixItem.below turn name).IsSpelled s)
    (rest : List Text) :
    move (some dir) (turn.flag ++ s.attached name) (s.following name ++ rest).head? =
      .replace (turn.plainFlag ++ joinPrefix dir name) (decide (s = .separate)) := by
  simp only [move, value?_flag]
  cases turn with
  | before =>
    simp only [Turn.flag, value?_attached beforeFlag fun hs => (h.2 hs).1]
    rfl
  | after =>
    simp only [Turn.flag, value?_after fun hs => (h.2 hs).2 rfl,
      value?_attached afterFlag fun hs => (h.2 hs).1]
    rfl

lemma move_other {argument : Text} (h : (PrefixItem.other argument).IsSpelled s)
    (active : Option Text) (next : Option Text) : move active argument next = .keep := by
  have hbefore : ¬beforeFlag <+: argument := fun hb =>
    h.2.1 ((List.prefix_append afterFlag ("before" : Text)).trans hb)
  have hnone : ∀ flag : Text, ¬flag <+: argument → value? flag argument next = none :=
    fun flag hf => value?_of_dropPrefix (Text.dropPrefix?_of_not_prefix hf)
  simp only [move, hnone _ h.1, hnone _ hbefore, hnone _ h.2.1]
  cases active <;> rfl

end Arguments

section Scan

variable {d : Disk} {base : Text} {splice : Text → List Text → Noted (Option (List Text))}
  {s : Spelling} {name : Text} {turn : Turn}

lemma reference?_flag (turn : Turn) (t : Text) : reference? (turn.flag ++ t) = none := by
  cases turn <;> rfl

lemma value_scanPrefixes_prefix (active : Option Text) {dir : Text}
    (h : (PrefixItem.setPrefix dir).IsSpelled s) (rest : List Text) :
    (scanPrefixes d base splice active (s.arguments prefixFlag dir ++ rest)).value =
      (scanPrefixes d base splice (some (prefixDir d.cwd base dir)) rest).value := by
  rw [Spelling.arguments, List.cons_append,
    scanPrefixes_setPrefix (Or.inr rfl) (move_setPrefix active h rest), left_following]

lemma value_scanPrefixes_below (dir : Text) (h : (PrefixItem.below turn name).IsSpelled s)
    (rest : List Text) :
    (scanPrefixes d base splice (some dir) (s.arguments turn.flag name ++ rest)).value =
      (scanPrefixes d base splice (some dir) rest).value.map
        ((turn.plainFlag ++ joinPrefix dir name) :: ·) := by
  rw [Spelling.arguments, List.cons_append,
    scanPrefixes_replace (Or.inr (reference?_flag turn _)) (move_below dir h rest), value_emit,
    left_following]

lemma value_scanPrefixes_unprefixed (h : (PrefixItem.below turn name).IsSpelled s)
    (rest : List Text) :
    (scanPrefixes d base splice none (s.arguments turn.flag name ++ rest)).value =
      (scanPrefixes d base splice none rest).value.map (s.arguments turn.flag name ++ ·) := by
  rw [Spelling.arguments, List.cons_append,
    value_scanPrefixes_keep (value?_flag turn _ _)]
  cases s with
  | separate =>
    rw [Spelling.following, List.singleton_append,
      value_scanPrefixes_keep (value?_of_dropPrefix (Text.dropPrefix?_of_not_prefix h.1)),
      Option.map_map]
    rfl
  | equals => rfl
  | fused => rfl

lemma value_scanPrefixes_other (active : Option Text) {argument : Text}
    (h : (PrefixItem.other argument).IsSpelled s) (rest : List Text) :
    (scanPrefixes d base splice active (argument :: rest)).value =
      (scanPrefixes d base splice none rest).value.map (argument :: ·) := by
  rw [scanPrefixes_keep (Or.inr (reference?_eq_none h.2.2)) (move_other h _ _), value_emit]

lemma value_scanPrefixes_spelled (active : Option Text) (items : List (PrefixItem × Spelling))
    (h : ∀ x ∈ items, x.1.IsSpelled x.2) :
    (scanPrefixes d base splice active (spelled items)).value =
      some (resolveItems d.cwd base active items) := by
  induction items generalizing active with
  | nil =>
    rw [spelled, List.flatMap_nil, scanPrefixes, resolveItems]
    rfl
  | cons x items ih =>
    obtain ⟨item, s⟩ := x
    have hx : item.IsSpelled s := h (item, s) (by simp)
    have hrest := fun active => ih active fun y hy => h y (List.mem_cons_of_mem _ hy)
    rw [spelled, List.flatMap_cons, ← spelled]
    cases item with
    | setPrefix dir =>
      rw [PrefixItem.arguments, value_scanPrefixes_prefix active hx, hrest, resolveItems]
    | below turn name =>
      cases active with
      | none =>
        rw [PrefixItem.arguments, value_scanPrefixes_unprefixed hx, hrest, Option.map_some,
          resolveItems]
      | some dir =>
        rw [PrefixItem.arguments, value_scanPrefixes_below dir hx, hrest, Option.map_some,
          resolveItems]
    | other argument =>
      rw [PrefixItem.arguments, List.singleton_append, value_scanPrefixes_other active hx, hrest,
        Option.map_some, resolveItems]

lemma value_resolvePrefixes_spelled (d : Disk) (base : Text) (items : List (PrefixItem × Spelling))
    (h : ∀ x ∈ items, x.1.IsSpelled x.2) :
    (resolvePrefixes d base (spelled items)).value = resolveItems d.cwd base none items := by
  rw [resolvePrefixes, Noted.value_map]
  cases spliceBound d (spelled items) with
  | zero => rw [resolveWithin, value_scanPrefixes_spelled none items h, Option.getD_some]
  | succ n => rw [resolveWithin, value_scanPrefixes_spelled none items h, Option.getD_some]

end Scan

lemma resolveItems_congr (cwd base : Text) (active : Option Text)
    {items items' : List (PrefixItem × Spelling)} (h : items.map Prod.fst = items'.map Prod.fst)
    (hp : AllPrefixed active.isSome (items.map Prod.fst)) :
    resolveItems cwd base active items = resolveItems cwd base active items' := by
  induction items generalizing active items' with
  | nil =>
    obtain rfl : items' = [] := by simpa using h.symm
    rfl
  | cons x items ih =>
    cases items' with
    | nil => simp at h
    | cons y items' =>
      obtain ⟨item, s⟩ := x
      obtain ⟨item', s'⟩ := y
      obtain ⟨rfl, hrest⟩ := List.cons.inj h
      cases item with
      | setPrefix dir =>
        rw [resolveItems, resolveItems]
        exact ih (some _) hrest hp
      | below turn name =>
        obtain ⟨hactive, hp⟩ := hp
        obtain ⟨dir, rfl⟩ := Option.isSome_iff_exists.mp hactive
        rw [resolveItems, resolveItems, ih (some dir) hrest hp]
      | other argument => rw [resolveItems, resolveItems, ih none hrest hp]

/-- Resolving prefixes goes through the items of an argument list, each in its own spelling. If every
name below a prefix has one, the spelling is of no consequence. -/
theorem resolvePrefixes_spelled (d : Disk) (base : Text) (items : List (PrefixItem × Spelling))
    (h : ∀ x ∈ items, x.1.IsSpelled x.2) :
    (resolvePrefixes d base (spelled items)).value = resolveItems d.cwd base none items ∧
      (AllPrefixed false (items.map Prod.fst) → ∀ items' : List (PrefixItem × Spelling),
        (∀ x ∈ items', x.1.IsSpelled x.2) → items'.map Prod.fst = items.map Prod.fst →
          (resolvePrefixes d base (spelled items')).value =
            (resolvePrefixes d base (spelled items)).value) := by
  refine ⟨value_resolvePrefixes_spelled d base items h, ?_⟩
  intro hp items' h' hsame
  rw [value_resolvePrefixes_spelled d base items h, value_resolvePrefixes_spelled d base items' h']
  exact (resolveItems_congr d.cwd base none hsame.symm hp).symm

theorem resolvePrefixes_spelled_sample :
    let d : Disk := { root := .dir [], here := [] }
    let items : List (PrefixItem × Spelling) :=
      [(.setPrefix "sdk/", .equals), (.below .before "before", .fused), (.below .after "=x", .separate),
        (.other "-c", .separate), (.below .after "before", .equals), (.setPrefix "/opt", .fused),
        (.below .after "", .separate)]
    (∀ x ∈ items, x.1.IsSpelled x.2) ∧
      spelled items = ["-iprefix=sdk/", "-iwithprefixbeforebefore", "-iwithprefix", "=x", "-c",
        "-iwithprefix=before", "-iprefix/opt", "-iwithprefix", ""] ∧
      (resolvePrefixes d "/w" (spelled items)).value = ["-I/w/sdk/before", "-idirafter/w/sdk/=x",
        "-c", "-iwithprefix=before", "-idirafter/opt/"] := by
  intro d items
  have hspelled : ∀ x ∈ items, x.1.IsSpelled x.2 := by decide
  refine ⟨hspelled, by decide, ?_⟩
  rw [(resolvePrefixes_spelled d "/w" items hspelled).1]
  decide

end SketchBuild.Flags

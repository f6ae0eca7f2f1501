import SketchBuild.Proofs.Path.Join

namespace SketchBuild.Path

def HasSingleRoot (p : Text) : Prop := p.head? = some '/' ∧ p.tail.head? ≠ some '/'

/-- Goes on from a stack of components, the outermost first: empty and `.` components stay where they are,
and `..` takes one off, at the root none. -/
def follow (stack : List Text) (part : Text) : List Text :=
  if part = [] ∨ part = ['.'] then stack
  else if part = ['.', '.'] then stack.dropLast
  else stack ++ [part]

def stackFrom (start : List Text) (path : Text) : List Text :=
  (Text.pieces '/' path).foldl follow start

def stack (path : Text) : List Text := stackFrom [] path

section Stack

lemma reverse_push {names : List Text} (h : ∀ c ∈ names, IsName c) (part : Text) :
    (push true names part).reverse = follow names.reverse part := by
  by_cases hskip : part = [] ∨ part = ['.']
  · simp [push, follow, hskip]
  · by_cases hdots : part = ['.', '.']
    · subst hdots
      cases names with
      | nil => rfl
      | cons top below =>
        have htop := (h top (by simp)).ne_dots
        simp [push, follow, htop]
    · simp [push, follow, hskip, hdots]

lemma reverse_foldl_push {parts : List Text} (hparts : ∀ part ∈ parts, '/' ∉ part) {names : List Text}
    (h : ∀ c ∈ names, IsName c) :
    (parts.foldl (push true) names).reverse = parts.foldl follow names.reverse := by
  induction parts generalizing names with
  | nil => rfl
  | cons part parts ih =>
    have hpush := push_isName names part (hparts part (by simp)) h
    rw [List.foldl_cons, List.foldl_cons, ih (fun x hx => hparts x (by simp [hx])) hpush,
      reverse_push h]

lemma components_eq_stack (p : Text) : components true p = stack p :=
  reverse_foldl_push (not_mem_of_mem_pieces '/' p) (by simp)

lemma follow_isName {names : List Text} (h : ∀ c ∈ names, IsName c) {part : Text} (hpart : '/' ∉ part) :
    ∀ c ∈ follow names part, IsName c := by
  intro c hc
  rw [follow] at hc
  split at hc
  · exact h c hc
  · rename_i hskip
    obtain ⟨hne, hdot⟩ := not_or.mp hskip
    split at hc
    · exact h c ((List.dropLast_sublist names).mem hc)
    · rename_i hdots
      rcases List.mem_append.mp hc with hc | hc
      · exact h c hc
      · rw [List.mem_singleton.mp hc]
        exact ⟨hne, hpart, hdot, hdots⟩

lemma stackFrom_isName {start : List Text} (h : ∀ c ∈ start, IsName c) (path : Text) :
    ∀ c ∈ stackFrom start path, IsName c := by
  have hfold : ∀ parts : List Text, (∀ part ∈ parts, '/' ∉ part) → ∀ names : List Text,
      (∀ c ∈ names, IsName c) → ∀ c ∈ parts.foldl follow names, IsName c := by
    intro parts hparts
    induction parts with
    | nil => exact fun _ hnames => hnames
    | cons part parts ih =>
      intro names hnames
      exact ih (fun x hx => hparts x (by simp [hx])) _ (follow_isName hnames (hparts part (by simp)))
  exact hfold _ (not_mem_of_mem_pieces '/' path) start h

lemma stack_isName (p : Text) : ∀ c ∈ stack p, IsName c := stackFrom_isName (by simp) p

end Stack

section Prefix

variable {cs ds : List Text}

lemma intercalate_append (hcs : cs ≠ []) (hds : ds ≠ []) :
    ['/'].intercalate (cs ++ ds) = ['/'].intercalate cs ++ '/' :: ['/'].intercalate ds := by
  induction cs with
  | nil => exact (hcs rfl).elim
  | cons c cs ih =>
    cases cs with
    | nil =>
      obtain ⟨d, ds, rfl⟩ := List.exists_cons_of_ne_nil hds
      simp [List.intercalate_cons_cons]
    | cons e cs =>
      rw [List.cons_append, List.cons_append, List.intercalate_cons_cons, ← List.cons_append, ih (by simp),
        List.intercalate_cons_cons]
      simp

lemma stripEnd_eq_self {c : Char} {s : Text} (h : s.getLast? ≠ some c) : Text.stripEnd c s = s := by
  rcases List.eq_nil_or_concat s with rfl | ⟨t, a, rfl⟩
  · rfl
  · have ha : a ≠ c := by simpa using h
    simp [Text.stripEnd, ha]

lemma slash_prefix_spell_iff (hds : ds ≠ []) (hcs : ∀ c ∈ cs, '/' ∉ c) (hds' : ∀ c ∈ ds, '/' ∉ c) :
    spell 1 ds ++ ['/'] <+: spell 1 cs ↔ ∃ es, es ≠ [] ∧ cs = ds ++ es := by
  constructor
  · rintro ⟨t, ht⟩
    have hjoin : ['/'].intercalate ds ++ '/' :: t = ['/'].intercalate cs := by
      simpa [spell] using ht
    have hne : cs ≠ [] := by
      rintro rfl
      simp at hjoin
    refine ⟨Text.pieces '/' t, pieces_ne_nil '/' t, ?_⟩
    rw [← pieces_intercalate '/' cs hne hcs, ← hjoin, pieces_separated, pieces_intercalate '/' ds hds hds']
  · rintro ⟨es, hes, rfl⟩
    refine ⟨['/'].intercalate es, ?_⟩
    rw [spell, spell, intercalate_append hds hes]
    simp

lemma isUnder_spell_iff {p root : Text} (hp : normalize p = spell 1 cs) (hroot : normalize root = spell 1 ds)
    (hcs : ∀ c ∈ cs, IsName c) (hds : ∀ c ∈ ds, IsName c) :
    isUnder p root = true ↔ ds <+: cs := by
  have hone : IsRoot 1 := Or.inl rfl
  simp only [isUnder, hp, hroot, Bool.or_eq_true, decide_eq_true_eq, List.isPrefixOf_iff_prefix]
  by_cases hnil : ds = []
  · subst hnil
    have hslash : Text.stripEnd '/' (spell 1 []) ++ ['/'] <+: spell 1 cs := ⟨['/'].intercalate cs, rfl⟩
    exact iff_of_true (Or.inr hslash) List.nil_prefix
  · rw [stripEnd_eq_self (getLast_spell 1 ds hnil hds), slash_prefix_spell_iff hnil
      (fun c hc => (hcs c hc).no_slash) fun c hc => (hds c hc).no_slash]
    constructor
    · rintro (heq | ⟨es, _, rfl⟩)
      · obtain ⟨_, rfl⟩ := spell_injective hone hone hcs hds heq
        exact List.prefix_rfl
      · exact List.prefix_append ds es
    · rintro ⟨es, rfl⟩
      by_cases hes : es = []
      · left
        rw [hes, List.append_nil]
      · exact Or.inr ⟨es, hes, rfl⟩

end Prefix

section Rooted

variable {p q root : Text}

lemma HasSingleRoot.rootSlashes (h : HasSingleRoot p) : rootSlashes p = 1 := by
  obtain ⟨hhead, htail⟩ := h
  rcases p with _ | ⟨c, _ | ⟨d, p⟩⟩
  · simp at hhead
  · obtain rfl : c = '/' := by simpa using hhead
    rfl
  · obtain rfl : c = '/' := by simpa using hhead
    have hd : d ≠ '/' := by simpa using htail
    simp [Path.rootSlashes, hd]

lemma HasSingleRoot.normalize (h : HasSingleRoot p) : normalize p = spell 1 (stack p) := by
  rw [normalize_of_rooted h.1, h.rootSlashes, components_eq_stack]

lemma isUnder_iff (hp : HasSingleRoot p) (hroot : HasSingleRoot root) :
    isUnder p root = true ↔ stack root <+: stack p :=
  isUnder_spell_iff hp.normalize hroot.normalize (stack_isName p) (stack_isName root)

lemma isUnder_refl (p : Text) : isUnder p p = true := by simp [isUnder]

lemma normalize_of_isUnder_isUnder (hp : HasSingleRoot p) (hq : HasSingleRoot q)
    (hpq : isUnder p q = true) (hqp : isUnder q p = true) : Path.normalize p = Path.normalize q := by
  have hle := (isUnder_iff hp hq).mp hpq
  have hge := (isUnder_iff hq hp).mp hqp
  rw [hp.normalize, hq.normalize, hge.eq_of_length_le hle.length_le]

lemma hasSingleRoot_spell {cs : List Text} (h : ∀ c ∈ cs, IsName c) : HasSingleRoot (spell 1 cs) :=
  ⟨rfl, head_intercalate cs fun c hc => ⟨(h c hc).ne_nil, (h c hc).no_slash⟩⟩

end Rooted

section Resolve

variable {cwd base path : Text}

lemma resolve_eq_spell (hbase : HasSingleRoot base) (hpath : isAbsolute path = false) :
    resolve cwd base path = spell 1 (stackFrom (stack base) path) := by
  have hhead : path.head? ≠ some '/' := by
    intro h
    simp [isAbsolute, h] at hpath
  rw [resolve_relative (ne_nil_of_rooted hbase.1) hpath, normalize_join hbase.1 hhead, hbase.rootSlashes,
    reverse_foldl_push (not_mem_of_mem_pieces '/' path) ?_, List.reverse_reverse, components_eq_stack]
  · rfl
  · intro c hc
    exact components_isName base c (List.mem_reverse.mp hc)

lemma stack_resolve (hbase : HasSingleRoot base) (hpath : isAbsolute path = false) :
    HasSingleRoot (resolve cwd base path) ∧
      stack (resolve cwd base path) = stackFrom (stack base) path := by
  have hname := stackFrom_isName (stack_isName base) path
  rw [resolve_eq_spell hbase hpath]
  refine ⟨hasSingleRoot_spell hname, ?_⟩
  rw [← components_eq_stack, components_spell true 1 _ hname]

lemma isUnder_absolute {dir : Text} (h : HasSingleRoot dir) (p : Text) :
    isUnder p (absolute cwd dir) = isUnder p dir := by
  rw [absolute, join, if_pos h.1, isUnder, isUnder, (isAnchored_normalize h.1).normal]

lemma contains_of_iff {p : Text} (hp : HasSingleRoot p) {dirs : List Text}
    (hdirs : ∀ dir ∈ dirs, HasSingleRoot dir) :
    (Boundary.of cwd dirs).contains p = true ↔ ∃ dir ∈ dirs, stack dir <+: stack p := by
  have hunder : ∀ dir ∈ dirs, isUnder p (absolute cwd dir) = true ↔ stack dir <+: stack p := by
    intro dir hdir
    rw [isUnder_absolute (hdirs dir hdir), isUnder_iff hp (hdirs dir hdir)]
  rw [Boundary.contains, List.any_eq_true]
  constructor
  · rintro ⟨root, hroot, hp⟩
    obtain ⟨dir, hdir, rfl⟩ := List.mem_map.mp hroot
    have hmem := (List.mem_filter.mp hdir).1
    exact ⟨dir, hmem, (hunder dir hmem).mp hp⟩
  · rintro ⟨dir, hdir, hprefix⟩
    refine ⟨absolute cwd dir, List.mem_map_of_mem (List.mem_filter.mpr ⟨hdir, ?_⟩),
      (hunder dir hdir).mpr hprefix⟩
    simp [ne_nil_of_rooted (hdirs dir hdir).1]

structure IsFollowed (cwd base path : Text) : Prop where
  single : HasSingleRoot (resolve cwd base path)
  spelled : resolve cwd base path = '/' :: ['/'].intercalate (stackFrom (stack base) path)
  under : ∀ root, HasSingleRoot root →
    (isUnder (resolve cwd base path) root = true ↔ stack root <+: stackFrom (stack base) path)
  contained : ∀ dirs, (∀ dir ∈ dirs, HasSingleRoot dir) →
    ((Boundary.of cwd dirs).contains (resolve cwd base path) = true ↔
      ∃ dir ∈ dirs, stack dir <+: stackFrom (stack base) path)
  sibling : ∀ root above name more below, HasSingleRoot root → stack root = above ++ [name] →
    stackFrom (stack base) path = above ++ (name ++ more) :: below → more ≠ [] →
    isUnder (resolve cwd base path) root = false
  root : isUnder (resolve cwd base path) ['/'] = true

structure IsOrdered (P : Text → Prop) : Prop where
  refl : ∀ p, P p → isUnder p p = true
  trans : ∀ p q r, P p → P q → P r → isUnder p q = true → isUnder q r = true → isUnder p r = true
  antisymm : ∀ p q, P p → P q → isUnder p q = true → isUnder q p = true → normalize p = normalize q

lemma isFollowed (hbase : HasSingleRoot base) (hpath : isAbsolute path = false) :
    IsFollowed cwd base path := by
  obtain ⟨hsingle, hstack⟩ : HasSingleRoot (resolve cwd base path) ∧
      stack (resolve cwd base path) = stackFrom (stack base) path := stack_resolve hbase hpath
  have hunder : ∀ root, HasSingleRoot root →
      (isUnder (resolve cwd base path) root = true ↔ stack root <+: stackFrom (stack base) path) := by
    intro root hroot
    rw [isUnder_iff hsingle hroot, hstack]
  refine ⟨hsingle, resolve_eq_spell hbase hpath, hunder, ?_, ?_, ?_⟩
  · intro dirs hdirs
    rw [contains_of_iff hsingle hdirs, hstack]
  · intro root above name more below hroot habove hbelow hmore
    rw [Bool.eq_false_iff, ne_eq, hunder root hroot, habove, hbelow, List.prefix_append_right_inj,
      List.cons_prefix_cons]
    rintro ⟨hname, _⟩
    exact hmore (List.self_eq_append_right.mp hname)
  · exact (hunder ['/'] ⟨rfl, by simp⟩).mpr List.nil_prefix

lemma isOrdered : IsOrdered HasSingleRoot where
  refl p _ := isUnder_refl p
  trans p q r hp hq hr hpq hqr := by
    rw [isUnder_iff hp hr]
    exact ((isUnder_iff hq hr).mp hqr).trans ((isUnder_iff hp hq).mp hpq)
  antisymm _ _ := normalize_of_isUnder_isUnder

/-- Membership in a project is containment of components: a path is in it if the components of a root are the
first ones of the path, whatever the text of both is. -/
theorem isUnder_iff_prefix (cwd : Text) :
    (∀ base path, HasSingleRoot base → isAbsolute path = false → IsFollowed cwd base path) ∧
      IsOrdered HasSingleRoot :=
  ⟨fun _ _ => isFollowed, isOrdered⟩

theorem isUnder_iff_prefix_sample :
    let base : Text := "/p//b/"
    let path : Text := "../../../p/./bc//x.c"
    HasSingleRoot base ∧ isAbsolute path = false ∧ resolve "/" base path = "/p/bc/x.c" ∧
      HasSingleRoot "/p/q/.." ∧ isUnder (resolve "/" base path) "/p/q/.." = true ∧
      HasSingleRoot "/p/b" ∧ isUnder (resolve "/" base path) "/p/b" = false ∧
      (Boundary.of "/" ["/p/b", "/p/q/.."]).contains (resolve "/" base path) = true ∧
      isUnder "/p/q/../x" "/p" = true := by
  intro base path
  have hbase : HasSingleRoot base := ⟨by decide, by decide⟩
  have hpath : isAbsolute path = false := by decide
  have hdetour : HasSingleRoot "/p/q/.." := ⟨by decide, by decide⟩
  have hbeside : HasSingleRoot "/p/b" := ⟨by decide, by decide⟩
  obtain ⟨hfollowed, hordered⟩ := isUnder_iff_prefix "/"
  have h := hfollowed base path hbase hpath
  have hdirs : ∀ dir ∈ (["/p/b", "/p/q/.."] : List Text), HasSingleRoot dir := by
    intro dir hdir
    rcases List.mem_cons.mp hdir with rfl | hdir
    · exact hbeside
    · rwa [List.mem_singleton.mp hdir]
  have htrans := hordered.trans "/p/q/../x" "/p/." "/p" ⟨by decide, by decide⟩ ⟨by decide, by decide⟩
    ⟨by decide, by decide⟩ (by decide) (by decide)
  exact ⟨hbase, hpath, h.spelled, hdetour, (h.under _ hdetour).mpr (by decide), hbeside,
    h.sibling _ ["p"] "b" "c" ["x.c"] hbeside (by decide) (by decide) (by decide),
    (h.contained _ hdirs).mpr ⟨"/p/q/..", by simp, by decide⟩, htrans⟩

end Resolve

end SketchBuild.Path

import SketchBuild.Flags.Normal
import SketchBuild.Proofs.Flags.Include
import SketchBuild.Proofs.Flags.Prefixed

namespace SketchBuild.Flags

open Piece

variable {d : Disk} {base : Text}

lemma dropPrefix_includeFlags {flag : Text} (h : flag ∈ includeFlags) (value : Text) :
    Text.dropPrefix? prefixFlag (flag ++ value) = none := by
  simp only [includeFlags, List.mem_cons, List.not_mem_nil, or_false] at h
  rcases h with rfl | rfl | rfl | rfl <;> rfl

lemma value?_prefixFlag_includeFlags {flag : Text} (h : flag ∈ includeFlags) (value : Text)
    (next : Option Text) : value? prefixFlag (flag ++ value) next = none :=
  value?_of_dropPrefix (dropPrefix_includeFlags h value)

lemma place_cases (cwd : Text) (hb : base.head? = some '/') (value : Text) :
    place cwd base value = value ∨ (place cwd base value).head? = some '/' := by
  rw [place]
  split
  · exact Or.inl rfl
  · rename_i hv
    exact Or.inr (rooted_resolve_of_not_isFixed cwd hb (Bool.not_eq_true _ ▸ hv))

lemma mapValues_hasNoPrefix {f : Text → Text} (hf : ∀ v, f v = v ∨ (f v).head? = some '/')
    {ts : List Text} (h : HasNoPrefix ts) : HasNoPrefix (mapValues f ts) := by
  have hsingle : ∀ argument rest, value? prefixFlag argument (List.head? rest) = none →
      HasNoPrefix (mapValues f rest) →
      HasNoPrefix (((single argument).mapValue f).arguments ++ mapValues f rest) := by
    intro argument rest hv hr
    rcases single_cases argument with ⟨flag, value, hflag, hvalue, rfl⟩ | hs
    · rw [(single_fused hflag hvalue).2]
      exact ⟨value?_prefixFlag_includeFlags hflag _ _, hr⟩
    · rw [hs]
      refine HasNoPrefix.cons hv hr ?_
      rintro rfl
      rfl
  induction ts using split.induct with
  | case1 => trivial
  | case2 argument =>
    have hh := hsingle argument [] h.1 trivial
    rw [mapValues_singleton]
    simpa [mapValues, split] using hh
  | case3 argument next rest hmem ih =>
    rw [mapValues_pair f hmem]
    refine ⟨by simpa using value?_prefixFlag_includeFlags hmem [] _, ?_⟩
    have hr := ih h.2.2
    rcases hf next with hn | hn
    · rw [hn]
      refine HasNoPrefix.cons h.2.1 hr ?_
      rintro rfl
      rfl
    · refine ⟨value?_prefixFlag_of_head (by simp [hn]), hr⟩
  | case4 argument next rest hmem ih =>
    rw [mapValues_cons f hmem]
    exact hsingle argument (next :: rest) h.1 (ih h.2)

lemma resolveIncludes_hasNoPrefix {cwd : Text} (hb : base = [] ∨ base.head? = some '/')
    {ts : List Text} (h : HasNoPrefix ts) : HasNoPrefix (resolveIncludes cwd base ts) := by
  by_cases hn : base = []
  · simpa [resolveIncludes, hn] using h
  · rw [resolveIncludes_eq hn]
    exact mapValues_hasNoPrefix (place_cases cwd (hb.resolve_left hn)) h

lemma resolveIncludes_isSettled (hb : base = [] ∨ base.head? = some '/') {ts : List Text}
    (h : ∀ t ∈ ts, IsSettled d base t) :
    ∀ t ∈ resolveIncludes d.cwd base ts, IsSettled d base t := by
  by_cases hn : base = []
  · simpa [resolveIncludes, hn] using h
  · rw [resolveIncludes_eq hn]
    intro t ht
    rcases mem_mapValues _ ts t ht with ht | ht | ⟨v, hv, rfl⟩
    · exact h t ht
    · exact isSettled_of_head (by simp [ht])
    · rcases place_cases d.cwd (hb.resolve_left hn) v with hp | hp
      · rw [hp]
        exact h v hv
      · exact isSettled_of_head (by simp [hp])

structure IsNormal (d : Disk) (base header : Text) (arguments : List Text) : Prop where
  settled : ∀ a ∈ arguments, IsSettled d base a
  no_prefix : HasNoPrefix arguments
  placed : resolveIncludes d.cwd base arguments = arguments
  forced : forceHeader header arguments = arguments

lemma value_normalize (header : Text) (arguments : List Text) :
    (normalize d base header arguments).value =
      forceHeader header (resolveIncludes d.cwd base
        (resolvePrefixes d base (expand d base arguments).value).value) := by
  simp only [normalize, Noted.value_bind]
  split <;> rfl

lemma value_resolvePrefixes_self {arguments : List Text} (h : HasNoPrefix arguments) :
    (resolvePrefixes d base arguments).value = arguments := by
  simp only [resolvePrefixes, Noted.value_map]
  cases spliceBound d arguments with
  | zero => simp [resolveWithin, value_scanPrefixes_self h]
  | succ n => simp [resolveWithin, value_scanPrefixes_self h]

lemma IsNormal.value_normalize {header : Text} {arguments : List Text}
    (h : IsNormal d base header arguments) :
    (normalize d base header arguments).value = arguments := by
  rw [Flags.value_normalize, value_expand_settled h.settled, value_resolvePrefixes_self h.no_prefix,
    h.placed, h.forced]

lemma exists_value_resolvePrefixes {executable : Text} (hx : executable.head? ≠ some '-')
    {arguments : List Text} (hs : ∀ a ∈ executable :: arguments, IsSettled d base a) :
    ∃ out, (resolvePrefixes d base (executable :: arguments)).value = executable :: out ∧
      HasNoPrefix (executable :: out) ∧ ∀ a ∈ executable :: out, IsSettled d base a := by
  have hkeep : value? prefixFlag executable arguments.head? = none := value?_prefixFlag_of_head hx
  have hscan : ∃ splice out,
      resolveWithin d base (spliceBound d (executable :: arguments)) none =
        scanPrefixes d base splice none ∧
      (scanPrefixes d base splice none arguments).value = some out ∧
      ∀ a ∈ out, a ∈ arguments ∨ IsJoined a := by
    cases spliceBound d (executable :: arguments) with
    | zero =>
      obtain ⟨out, hout, hmem⟩ := exists_scanPrefixes _ none arguments le_rfl fun a ha =>
        hs a (by simp [ha])
      exact ⟨_, out, rfl, hout, hmem⟩
    | succ n =>
      obtain ⟨out, hout, hmem⟩ := exists_scanPrefixes _ none arguments le_rfl fun a ha =>
        hs a (by simp [ha])
      exact ⟨_, out, rfl, hout, hmem⟩
  obtain ⟨splice, out, hwithin, hout, hmem⟩ := hscan
  have hvalue : (resolveWithin d base (spliceBound d (executable :: arguments)) none
      (executable :: arguments)).value = some (executable :: out) := by
    rw [hwithin, value_scanPrefixes_keep hkeep, hout, Option.map_some]
  refine ⟨out, by simp [resolvePrefixes, hvalue], resolveWithin_hasNoPrefix _ _ _ _ hvalue, ?_⟩
  intro a ha
  rcases List.mem_cons.mp ha with rfl | ha
  · exact hs _ (by simp)
  · rcases hmem a ha with ha | ha
    · exact hs a (by simp [ha])
    · exact isSettled_of_head (by simp [ha.head])

lemma forceHeader_cases (header executable : Text) (rest : List Text) :
    forceHeader header (executable :: rest) = executable :: rest ∨
      forceHeader header (executable :: rest) = executable :: forcedFlag :: header :: rest := by
  rw [forceHeader]
  split
  · exact Or.inl rfl
  · exact Or.inr rfl

lemma forceHeader_forceHeader (header : Text) (arguments : List Text) :
    forceHeader header (forceHeader header arguments) = forceHeader header arguments := by
  cases arguments with
  | nil => rfl
  | cons executable rest =>
    by_cases h : forcesHeader header (executable :: rest) = true
    · simp only [forceHeader, h, if_true]
    · have hforced : forcesHeader header (executable :: forcedFlag :: header :: rest) = true := by
        simp [forcesHeader, namesHeader]
      simp only [forceHeader, h, hforced, if_true, Bool.false_eq_true, if_false]

def IsOperand (word : Text) : Prop := word.head? ≠ some '-' ∧ word.head? ≠ some '@'

lemma isNormal_normalize {header executable : Text} (hg : IsGrounded d base)
    (hb : base = [] ∨ base.head? = some '/') (hh : IsOperand header) (hx : IsOperand executable)
    (rest : List Text) :
    IsNormal d base header (normalize d base header (executable :: rest)).value := by
  have hexpand := value_expand_isSettled hg (executable :: rest)
  rw [value_normalize]
  rw [value_expand_cons hx.2] at hexpand ⊢
  obtain ⟨out, hout, hnone, hsettled⟩ := exists_value_resolvePrefixes hx.1 hexpand
  have hplaced := resolveIncludes_isSettled hb hsettled
  have hnoPrefix : HasNoPrefix (resolveIncludes d.cwd base (executable :: out)) :=
    resolveIncludes_hasNoPrefix hb hnone
  have hfixed : resolveIncludes d.cwd base (resolveIncludes d.cwd base (executable :: out)) =
      resolveIncludes d.cwd base (executable :: out) := by
    rcases hb with rfl | hb
    · simp [resolveIncludes]
    · exact resolveIncludes_resolveIncludes d.cwd hb base (executable :: out)
  rw [hout]
  rw [resolveIncludes_cons (isInert_of_head hx.1)] at hplaced hnoPrefix hfixed ⊢
  generalize resolveIncludes d.cwd base out = tail at hplaced hnoPrefix hfixed
  have hforced := forceHeader_forceHeader header (executable :: tail)
  rcases forceHeader_cases header executable tail with he | he
  · rw [he] at hforced ⊢
    exact ⟨hplaced, hnoPrefix, hfixed, hforced⟩
  · rw [he] at hforced ⊢
    refine ⟨?_, ?_, ?_, hforced⟩
    · intro a ha
      simp only [List.mem_cons] at ha
      rcases ha with rfl | rfl | rfl | ha
      · exact isSettled_of_head hx.2
      · exact isSettled_of_head (by decide)
      · exact isSettled_of_head hh.2
      · exact hplaced a (by simp [ha])
    · exact ⟨value?_prefixFlag_of_head hx.1, value?_of_dropPrefix rfl,
        value?_prefixFlag_of_head hh.1, hnoPrefix.2⟩
    · have hinert : IsInert forcedFlag := ⟨by decide, rfl⟩
      rw [resolveIncludes_cons (isInert_of_head hx.1)] at hfixed ⊢
      rw [resolveIncludes_cons hinert, resolveIncludes_cons (isInert_of_head hh.1),
        List.tail_eq_of_cons_eq hfixed]

/-- Normalizing leaves arguments that are normal, so that a second time changes nothing, and
normalizing an entry a second time changes neither its arguments nor its command line. -/
theorem normalize_normalize (d : Disk) (base header executable : Text) (rest : List Text)
    (hg : IsGrounded d base) (hb : base = [] ∨ base.head? = some '/') (hh : IsOperand header)
    (hx : IsOperand executable) :
    IsNormal d base header (normalize d base header (executable :: rest)).value ∧
      (normalize d base header (normalize d base header (executable :: rest)).value).value =
        (normalize d base header (executable :: rest)).value ∧
      ∀ e : Entry, e.directory = base → e.arguments = executable :: rest →
        (normalizeEntry d header (normalizeEntry d header e).value).value =
          (normalizeEntry d header e).value := by
  have hnormal := isNormal_normalize hg hb hh hx rest
  have hn := hnormal.value_normalize
  refine ⟨hnormal, hn, ?_⟩
  rintro ⟨directory, file, arguments, command⟩ rfl rfl
  cases command <;> simp_all [normalizeEntry, Entry.withArguments, Entry.usesCommand]

theorem normalize_normalize_response :
    let d : Disk :=
      { root := .dir [("r", .file (Text.Utf8.encode "-iprefix p -iwithprefix q"))], here := [] }
    IsGrounded d "/" ∧ IsOperand "A.h" ∧ IsOperand "gcc" ∧
      (normalize d "/" "A.h" (normalize d "/" "A.h" ["gcc", "@r", "x.c"]).value).value =
        (normalize d "/" "A.h" ["gcc", "@r", "x.c"]).value := by
  intro d
  have hg : IsGrounded d "/" := isGrounded_of_words (by decide)
  have hh : IsOperand "A.h" := ⟨by decide, by decide⟩
  have hx : IsOperand "gcc" := ⟨by decide, by decide⟩
  exact ⟨hg, hh, hx, (normalize_normalize d "/" "A.h" "gcc" ["@r", "x.c"] hg (Or.inr rfl) hh hx).2.1⟩

end SketchBuild.Flags

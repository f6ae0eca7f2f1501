import SketchBuild.Proofs.Disk.Change
import SketchBuild.Proofs.Disk.Frame
import SketchBuild.Proofs.Path.Split

namespace SketchBuild.Disk

open SketchBuild.Path (baseName parent IsName)

section Steps

lemma steps_separated (a b : Text) : steps (a ++ '/' :: b) = steps a ++ steps b := by
  rw [steps, Path.pieces_separated, List.filter_append, ← steps, ← steps]

lemma steps_slashes (n : Nat) (b : Text) : steps (List.replicate n '/' ++ b) = steps b := by
  induction n with
  | zero => rfl
  | succ n ih =>
    rw [List.replicate_succ, List.cons_append, ← List.nil_append ('/' :: _), steps_separated, ih]
    rfl

lemma steps_of_not_mem {c : Text} (hc : '/' ∉ c) (hne : c ≠ []) : steps c = [c] := by
  have hp : Text.pieces '/' c = [c] := by
    simpa [Text.pieces, Text.extend] using Path.pieces_append '/' c [] hc
  rw [steps, hp, List.filter_cons_of_pos (by simpa using hne), List.filter_nil]

lemma steps_parent {p : Text} (h : baseName p ≠ []) : steps p = steps (parent p) ++ [baseName p] := by
  have hname := steps_of_not_mem (Path.not_slash_mem_baseName p) h
  rcases Path.split_cases p with ⟨hp, hdir⟩ | ⟨n, hp, hdir⟩ | ⟨s, c, n, _, hp, hdir⟩
  · rw [hdir, show steps [] = [] from rfl, List.nil_append, ← hname, ← hp]
  · have hslashes := steps_slashes (n + 1) []
    rw [List.append_nil] at hslashes
    conv_lhs => rw [hp]
    rw [hdir, steps_slashes, hname, hslashes]
    rfl
  · conv_lhs => rw [hp]
    rw [hdir, steps_separated, steps_slashes, hname]

lemma asksDirectory_of_baseName {p : Text} (h : baseName p ≠ []) : asksDirectory p = false := by
  have hlast : p.getLast? = (baseName p).getLast? := by
    conv_lhs => rw [Path.eq_append_baseName p]
    exact List.getLast?_append_of_ne_nil _ h
  rw [asksDirectory, hlast, decide_eq_false_iff_not]
  intro hslash
  exact Path.not_slash_mem_baseName p (List.mem_of_getLast? hslash)

lemma baseName_ne_nil_of_asksDirectory {p : Text} (hp : p ≠ []) (h : asksDirectory p = false) :
    baseName p ≠ [] := by
  intro hname
  rcases Path.baseName_eq_nil hname with hnil | hlast
  · exact hp hnil
  · simp [asksDirectory, hlast] at h

end Steps

variable {d d' : Disk} {path target : Text} {dir : List Text} {bytes : List UInt8}

lemma origin_eq_of_head {p q : Text} (h : p.head? = q.head?) : origin d p = origin d q := by
  rw [origin, origin, h]

lemma origin_parent (h : parent path ≠ []) : origin d (parent path) = origin d path := by
  apply origin_eq_of_head
  rcases Path.split_cases path with ⟨_, hdir⟩ | ⟨n, hp, hdir⟩ | ⟨s, c, n, _, hp, hdir⟩
  · exact (h hdir).elim
  · conv_rhs => rw [hp]
    rw [hdir]
    rfl
  · conv_rhs => rw [hp]
    rw [hdir, List.head?_append_of_ne_nil (s ++ [c]) (by simp)]

section Walk

lemma walk_append {l k ps : List Text} {node : Node} (h : walk d l ps = .ok (.taken k node))
    (rest : List Text) : walk d l (ps ++ rest) = walk d k rest := by
  induction ps generalizing l with
  | nil =>
    have hk : k = l := location_of_walk_nil h
    rw [hk, List.nil_append]
  | cons part ps ih =>
    obtain ⟨members, hm⟩ := hasDir_of_walk_cons h
    rw [walk_cons hm] at h
    rw [List.cons_append, walk_cons hm]
    split at h
    · rename_i hdot
      rw [if_pos hdot, ih h]
    · rename_i hdot
      rw [if_neg hdot]
      split at h
      · rename_i hup
        rw [if_pos hup, ih h]
      · rename_i hup
        rw [if_neg hup]
        split at h
        · simp at h
        · rename_i hfree
          have hfree' : ¬(decide (ps ++ rest = []) && (Table.find? part members).isNone) = true := by
            simp only [Bool.and_eq_true, decide_eq_true_eq, not_and] at hfree ⊢
            exact fun hnil => hfree (List.append_eq_nil_iff.mp hnil).1
          rw [if_neg hfree', ih h]

lemma exists_of_walk_append {l ps rest : List Text} {p : Place}
    (h : walk d l (ps ++ rest) = .ok p) (hr : rest ≠ []) :
    ∃ k members, walk d l ps = .ok (.taken k (.dir members)) ∧ walk d k rest = .ok p := by
  induction ps generalizing l with
  | nil =>
    obtain ⟨part, rest', rfl⟩ := List.exists_cons_of_ne_nil hr
    obtain ⟨members, hm⟩ := hasDir_of_walk_cons h
    exact ⟨l, members, by rw [walk_nil, hm], h⟩
  | cons part ps ih =>
    rw [List.cons_append] at h
    obtain ⟨members, hm⟩ := hasDir_of_walk_cons h
    rw [walk_cons hm] at h ⊢
    split at h
    · rename_i hdot
      rw [if_pos hdot]
      exact ih h
    · rename_i hdot
      rw [if_neg hdot]
      split at h
      · rename_i hup
        rw [if_pos hup]
        exact ih h
      · rename_i hup
        rw [if_neg hup]
        split at h
        · rename_i hfree
          simp [hr] at hfree
        · obtain ⟨k, ms, hk, hrest⟩ := ih h
          have hmember : ¬(decide (ps = []) && (Table.find? part members).isNone) = true := by
            simp only [Bool.and_eq_true, decide_eq_true_eq, not_and, Option.isNone_iff_eq_none]
            rintro rfl hnone
            have hon := isOn_of_walk hk
            have hloc : k = l ++ [part] := location_of_walk_nil hk
            rw [Place.IsOn, hloc, Node.find?_concat hm, hnone] at hon
            simp at hon
          exact ⟨k, ms, by rw [if_neg hmember, hk], hrest⟩

def placeIn (d : Disk) (dir : List Text) (name : Text) : Place :=
  match d.root.find? (dir ++ [name]) with
  | some node => .taken (dir ++ [name]) node
  | none => .free dir name

lemma walk_name (h : d.root.HasDir dir) {c : Text} (hc : IsName c) :
    walk d dir [c] = .ok (d.placeIn dir c) := by
  obtain ⟨members, hm⟩ := h
  have hfind : d.root.find? (dir ++ [c]) = Table.find? c members := Node.find?_concat hm c
  rw [walk_cons hm, if_neg hc.ne_dot, if_neg hc.ne_dots, placeIn, hfind, walk_nil, hfind]
  cases Table.find? c members <;> rfl

end Walk

def LeadsInto (d : Disk) (path : Text) (dir : List Text) : Prop :=
  ∃ members, walk d (origin d path) (steps (parent path)) = .ok (.taken dir (.dir members))

lemma LeadsInto.hasDir (h : LeadsInto d path dir) : d.root.HasDir dir := by
  obtain ⟨members, hwalk⟩ := h
  exact ⟨members, isOn_of_walk hwalk⟩

lemma LeadsInto.of_keepsDirs (h : LeadsInto d path dir) (hd : KeepsDirs d d')
    (hh : d'.here = d.here) : LeadsInto d' path dir := by
  obtain ⟨members, hwalk⟩ := h
  obtain ⟨members', hm'⟩ := hd dir ⟨members, isOn_of_walk hwalk⟩
  refine ⟨members', ?_⟩
  rw [origin_congr hh]
  exact walk_of_keepsDirs hd hwalk hm'

lemma LeadsInto.append (h : LeadsInto d path dir) (hp : path ≠ []) {s : Text} (hs : '/' ∉ s) :
    LeadsInto d (path ++ s) dir := by
  rw [LeadsInto, Path.parent_append_of_not_mem path hs,
    origin_eq_of_head (List.head?_append_of_ne_nil path hp)]
  exact h

section Operations

variable (h : LeadsInto d path dir) (hc : IsName (baseName path))

include h hc

lemma LeadsInto.walk_eq :
    walk d (origin d path) (steps path) = .ok (d.placeIn dir (baseName path)) := by
  have hdir := h.hasDir
  obtain ⟨members, hwalk⟩ := h
  rw [steps_parent hc.ne_nil, walk_append hwalk, walk_name hdir hc]

omit h in
lemma ne_nil_of_baseName : path ≠ [] := by
  rintro rfl
  exact hc.ne_nil rfl

lemma LeadsInto.place_eq : d.place path = .ok (d.placeIn dir (baseName path)) := by
  rw [place, if_neg (ne_nil_of_baseName hc), h.walk_eq hc, asksDirectory_of_baseName hc.ne_nil]
  cases d.placeIn dir (baseName path) with
  | free dir name => rfl
  | taken l node => cases node <;> rfl

lemma LeadsInto.place_of_find? {node : Node}
    (hn : d.root.find? (dir ++ [baseName path]) = some node) :
    d.place path = .ok (.taken (dir ++ [baseName path]) node) := by
  rw [h.place_eq hc, placeIn, hn]

lemma LeadsInto.place_of_none (hn : d.root.find? (dir ++ [baseName path]) = none) :
    d.place path = .ok (.free dir (baseName path)) := by
  rw [h.place_eq hc, placeIn, hn]

lemma LeadsInto.write_of_hasDir (bytes : List UInt8) (hd : d.root.HasDir (dir ++ [baseName path])) :
    d.write path bytes = .error { cause := .isDirectory, path } := by
  obtain ⟨members, hm⟩ := hd
  rw [write, if_neg (ne_nil_of_baseName hc), h.walk_eq hc, placeIn, hm]

lemma LeadsInto.write_eq (hd : ¬d.root.HasDir (dir ++ [baseName path])) :
    d.write path bytes = .ok (d.setMember dir (baseName path) (.file bytes)) := by
  rw [write, if_neg (ne_nil_of_baseName hc), h.walk_eq hc, placeIn,
    asksDirectory_of_baseName hc.ne_nil]
  cases hn : d.root.find? (dir ++ [baseName path]) with
  | none => rfl
  | some node =>
    cases node with
    | file old => simp [setAt_concat]
    | dir members => exact (hd ⟨members, hn⟩).elim

variable {source : List Text} {name : Text}

lemma LeadsInto.rename_eq {aside : Text}
    (hs : d.place aside = .ok (.taken (source ++ [name]) (.file bytes)))
    (hd : ¬d.root.HasDir (dir ++ [baseName path])) :
    d.rename aside path =
      .ok ((d.dropMember source name).setMember dir (baseName path) (.file bytes)) := by
  rw [rename, hs]
  cases hn : d.root.find? (dir ++ [baseName path]) with
  | none =>
    rw [h.place_of_none hc hn, asksDirectory_of_baseName hc.ne_nil]
    simp [dropAt_concat]
  | some node =>
    rw [h.place_of_find? hc hn]
    cases node with
    | file old => simp [dropAt_concat, setAt_concat]
    | dir members => exact (hd ⟨members, hn⟩).elim

lemma LeadsInto.rename_of_hasDir {aside : Text} {l : List Text}
    (hs : d.place aside = .ok (.taken l (.file bytes)))
    (hd : d.root.HasDir (dir ++ [baseName path])) : ∃ e, d.rename aside path = .error e := by
  obtain ⟨members, hm⟩ := hd
  rw [rename, hs, h.place_of_find? hc hm]
  exact ⟨_, rfl⟩

end Operations

lemma exists_leadsInto {p : Place} (hne : path ≠ []) (hasks : asksDirectory path = false)
    (hwalk : walk d (origin d path) (steps path) = .ok p)
    (hdir : ∀ l members, p ≠ .taken l (.dir members)) :
    ∃ dir, LeadsInto d path dir ∧ IsName (baseName path) := by
  have hname := baseName_ne_nil_of_asksDirectory hne hasks
  rw [steps_parent hname] at hwalk
  obtain ⟨dir, members, hinto, hlast⟩ := exists_of_walk_append hwalk (by simp)
  refine ⟨dir, ⟨members, hinto⟩, hname, Path.not_slash_mem_baseName path, ?_, ?_⟩
  · -- the dot stands for the directory itself
    intro hdot
    rw [walk_cons (isOn_of_walk hinto), if_pos hdot, walk_nil, isOn_of_walk hinto] at hlast
    exact hdir _ _ (Except.ok.inj hlast).symm
  · intro hdots
    have hup : d.root.HasDir dir.dropLast :=
      Node.HasDir.of_prefix ⟨members, isOn_of_walk hinto⟩ (List.dropLast_prefix dir)
    obtain ⟨above, habove⟩ := hup
    rw [walk_cons (isOn_of_walk hinto), if_neg (by simp [hdots]), if_pos hdots, walk_nil,
      habove] at hlast
    exact hdir _ _ (Except.ok.inj hlast).symm

end SketchBuild.Disk

import SketchBuild.Command.Words
import SketchBuild.Disk.Walk
import SketchBuild.Proofs.Disk.Change
import SketchBuild.Storage

namespace SketchBuild

namespace Text

namespace Utf8

lemma length_split_resume (bs : List UInt8) :
    (split bs).length ≤ bs.length ∧ ∀ p, (resume p bs).length ≤ bs.length + 1 := by
  induction bs with
  | nil => exact ⟨Nat.le_refl _, fun _ => Nat.le_refl _⟩
  | cons b bs ih =>
    obtain ⟨ihSplit, ihResume⟩ := ih
    have hstart : (split (b :: bs)).length ≤ bs.length + 1 := by
      rw [split]
      split
      · simpa using ihSplit
      · exact ihResume _
    refine ⟨hstart, ?_⟩
    intro p
    rw [resume]
    split
    · simp only [List.length_cons]
      omega
    · have hnext := ihResume
      rename_i q _
      have hq := ihResume q
      simp only [List.length_cons]
      omega
    · rw [split] at hstart
      simpa using hstart

lemma length_decodeLossy (bs : List UInt8) : (decodeLossy bs).length ≤ bs.length := by
  rw [decodeLossy, List.length_map]
  exact (length_split_resume bs).1

end Utf8

lemma length_unifyNewlines (s : Text) : (unifyNewlines s).length ≤ s.length := by
  induction s using unifyNewlines.induct with
  | case1 => exact Nat.le_refl _
  | case2 s ih =>
    simp only [unifyNewlines, List.length_cons]
    omega
  | case3 c s hc ih =>
    rw [unifyNewlines.eq_3 c s hc]
    simpa using ih

end Text

namespace Command

lemma length_extend (u : Text) (ws : List Text) :
    (Text.extend u ws).length = max 1 ws.length := by
  cases ws with
  | nil => rfl
  | cons w ws => simp [Text.extend]

lemma length_scan (s : Text) :
    (scan .between s).length ≤ s.length ∧ ∀ mode, (scan mode s).length ≤ s.length + 1 := by
  induction s with
  | nil =>
    refine ⟨Nat.le_refl _, ?_⟩
    intro mode
    cases mode <;> simp [scan]
  | cons c s ih =>
    obtain ⟨ihBetween, ih⟩ := ih
    have hextend : ∀ u mode, (Text.extend u (scan mode s)).length ≤ s.length + 1 := by
      intro u mode
      have hmode := ih mode
      rw [length_extend]
      omega
    have hbetween : (scan .between (c :: s)).length ≤ s.length + 1 := by
      rw [scan]
      split
      · omega
      · exact hextend _ _
    refine ⟨hbetween, ?_⟩
    intro mode
    apply Nat.le_succ_of_le
    cases mode with
    | between => exact hbetween
    | bare =>
      rw [scan]
      split
      · simpa using ihBetween
      · exact hextend _ _
    | slashes n =>
      rw [scan]
      split_ifs
      · exact ih _
      · exact hextend _ _
      · exact hextend _ _
      · simpa using ihBetween
      · exact hextend _ _
    | double =>
      rw [scan]
      split_ifs
      · exact ih _
      · exact ih _
      · exact hextend _ _
    | doubleSlash =>
      rw [scan]
      split
      · exact hextend _ _
      · exact hextend _ _
    | single =>
      rw [scan]
      split
      · exact ih _
      · exact hextend _ _

lemma length_words (line : Text) : (words line).length ≤ line.length := (length_scan line).1

end Command

namespace Node

mutual

def words : Node → List Text
  | .file bytes => Command.words (Storage.textOfBytes bytes)
  | .dir members => memberWords members

def memberWords : List (Text × Node) → List Text
  | [] => []
  | (_, n) :: rest => words n ++ memberWords rest

end

mutual

lemma length_words_le : ∀ n : Node, (words n).length ≤ size n
  | .file bytes =>
    calc (words (.file bytes)).length
        ≤ (Storage.textOfBytes bytes).length := Command.length_words _
      _ ≤ (Text.Utf8.decodeLossy bytes).length := Text.length_unifyNewlines _
      _ ≤ size (.file bytes) := Text.Utf8.length_decodeLossy bytes
  | .dir members => length_memberWords_le members

lemma length_memberWords_le : ∀ members : List (Text × Node),
    (memberWords members).length ≤ memberSize members
  | [] => Nat.le_refl _
  | (_, n) :: rest => by
    have hn := length_words_le n
    have hrest := length_memberWords_le rest
    rw [memberWords, memberSize, List.length_append]
    omega

end

lemma words_sublist_of_find? {name : Text} {n : Node} {members : List (Text × Node)}
    (h : Table.find? name members = some n) : (words n).Sublist (words (.dir members)) := by
  induction members with
  | nil => simp [Table.find?] at h
  | cons row members ih =>
    obtain ⟨key, first⟩ := row
    rw [words, memberWords]
    rw [Table.find?] at h
    split at h
    · obtain rfl := Option.some.inj h
      exact List.sublist_append_left _ _
    · rw [words] at ih
      exact (ih h).trans (List.sublist_append_right _ _)

lemma words_sublist {n m : Node} {l : List Text} (h : n.find? l = some m) :
    (words m).Sublist (words n) := by
  induction l generalizing n with
  | nil =>
    obtain rfl := Option.some.inj h
    exact List.Sublist.refl _
  | cons name l ih =>
    cases n with
    | file bytes => simp [find?, member?] at h
    | dir members =>
      rw [find?, member?] at h
      obtain ⟨c, hc, hm⟩ := Option.bind_eq_some_iff.mp h
      exact (ih hm).trans (words_sublist_of_find? hc)

end Node

lemma Storage.words_sublist {d : Disk} {path text : Text} (h : fileText? d path = some text) :
    (Command.words text).Sublist d.root.words := by
  obtain ⟨bytes, hread, rfl⟩ := Option.map_eq_some_iff.mp h
  cases hr : d.read path with
  | error e => simp [hr, Except.toOption] at hread
  | ok found =>
    rw [hr] at hread
    obtain rfl := Option.some.inj hread
    obtain ⟨l, hl⟩ := Disk.exists_of_read hr
    exact Node.words_sublist (Disk.isOn_of_walk (Disk.walk_of_place hl).2.1)

end SketchBuild

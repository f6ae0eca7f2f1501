import Mathlib.Tactic.Lemma
import SketchBuild.Text.Utf8

namespace SketchBuild.Text

namespace Utf8

lemma start_ascii {c : Char} (h : c.toNat < 128) : start c.val.toUInt8 = .inl (.char c) := by
  have hnat : c.val.toUInt8.toNat = c.toNat := by
    rw [UInt32.toNat_toUInt8]
    exact Nat.mod_eq_of_lt (Nat.lt_trans h (by omega))
  have hlt : c.val.toUInt8 < 0x80 := by
    rw [UInt8.lt_iff_toNat_lt, hnat]
    exact h
  rw [start, if_pos hlt, hnat, Char.ofNat_toNat]

lemma encode_cons_ascii {c : Char} (h : c.toNat < 128) (s : Text) :
    encode (c :: s) = c.val.toUInt8 :: encode s := by
  have hsize : c.utf8Size = 1 := by
    rw [Char.utf8Size_eq_one_iff, UInt32.le_iff_toNat_le]
    exact Nat.le_of_lt_succ h
  rw [encode, List.flatMap_cons, String.utf8EncodeChar_eq_singleton hsize]
  rfl

lemma split_encode {s : Text} (h : ∀ c ∈ s, c.toNat < 128) :
    split (encode s) = s.map Piece.char := by
  induction s with
  | nil => rfl
  | cons c s ih =>
    rw [encode_cons_ascii (h c (by simp)), split, start_ascii (h c (by simp)),
      ih fun a ha => h a (by simp [ha]), List.map_cons]

lemma join_char (s : Text) (position : Nat) : join position (s.map Piece.char) = .ok s := by
  induction s generalizing position with
  | nil => rfl
  | cons c s ih =>
    rw [List.map_cons, join, ih]
    rfl

lemma decode_encode {s : Text} (h : ∀ c ∈ s, c.toNat < 128) : decode (encode s) = .ok s := by
  rw [decode, split_encode h, join_char]

end Utf8

end SketchBuild.Text

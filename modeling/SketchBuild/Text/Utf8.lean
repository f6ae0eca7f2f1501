import SketchBuild.Text.Basic

/-!
UTF-8: encoding, and a decoder that splits any byte sequence into characters and broken pieces.
A broken piece is a maximal beginning of a well-formed sequence, or a single byte that starts none.
-/

namespace SketchBuild.Text.Utf8

inductive Fault where
  | startByte
  | continuationByte
  | truncated
  deriving DecidableEq

inductive Piece where
  | char (c : Char)
  | broken (fault : Fault) (bytes : List UInt8)
  deriving DecidableEq

/-- A character whose first bytes were read: the value so far, how many bytes are to come, and the
range of the next one. -/
structure Pending where
  bytes : List UInt8
  value : Nat
  left : Nat
  low : UInt8 := 0x80
  high : UInt8 := 0xBF

def start (b : UInt8) : Piece ⊕ Pending :=
  if b < 0x80 then .inl (.char (Char.ofNat b.toNat))
  else if b < 0xC2 then .inl (.broken .startByte [b])
  else if b < 0xE0 then .inr { bytes := [b], value := b.toNat - 0xC0, left := 0 }
  else if b = 0xE0 then .inr { bytes := [b], value := 0, left := 1, low := 0xA0 }
  else if b = 0xED then .inr { bytes := [b], value := 13, left := 1, high := 0x9F }
  else if b < 0xF0 then .inr { bytes := [b], value := b.toNat - 0xE0, left := 1 }
  else if b = 0xF0 then .inr { bytes := [b], value := 0, left := 2, low := 0x90 }
  else if b < 0xF4 then .inr { bytes := [b], value := b.toNat - 0xF0, left := 2 }
  else if b = 0xF4 then .inr { bytes := [b], value := 4, left := 2, high := 0x8F }
  else .inl (.broken .startByte [b])

def Pending.next (p : Pending) (b : UInt8) : Option (Piece ⊕ Pending) :=
  if p.low ≤ b && b ≤ p.high then
    let value := p.value * 64 + (b.toNat - 0x80)
    some <| match p.left with
      | 0 => .inl (.char (Char.ofNat value))
      | n + 1 => .inr { bytes := p.bytes ++ [b], value := value, left := n }
  else none

mutual

def resume (p : Pending) : List UInt8 → List Piece
  | [] => [.broken .truncated p.bytes]
  | b :: bs => match p.next b with
    | some (.inl piece) => piece :: split bs
    | some (.inr q) => resume q bs
    | none => .broken .continuationByte p.bytes :: match start b with
      | .inl piece => piece :: split bs
      | .inr q => resume q bs

def split : List UInt8 → List Piece
  | [] => []
  | b :: bs => match start b with
    | .inl piece => piece :: split bs
    | .inr p => resume p bs

end

structure DecodeError where
  fault : Fault
  position : Nat
  bytes : List UInt8
  deriving DecidableEq

/-- The text that pieces spell; `position` bytes stand before them. -/
def join (position : Nat) : List Piece → Except DecodeError Text
  | [] => .ok []
  | .char c :: ps => do
    let s ← join (position + c.utf8Size) ps
    return c :: s
  | .broken fault bytes :: _ => .error { fault, position, bytes }

def decode (bs : List UInt8) : Except DecodeError Text := join 0 (split bs)

def decodeLossy (bs : List UInt8) : Text :=
  (split bs).map fun
    | .char c => c
    | .broken _ _ => '\uFFFD'

def encode (s : Text) : List UInt8 := s.flatMap String.utf8EncodeChar

def hexByte (b : UInt8) : Text := [Nat.digitChar (b.toNat / 16), Nat.digitChar (b.toNat % 16)]

def Fault.message : Fault → Text
  | .startByte => "invalid start byte"
  | .continuationByte => "invalid continuation byte"
  | .truncated => "unexpected end of data"

def DecodeError.message (e : DecodeError) : Text :=
  let place := match e.bytes with
    | [b] => "byte 0x" ++ hexByte b ++ " in position " ++ ofNat e.position
    | bs => "bytes in position " ++ ofNat e.position ++ ['-'] ++ ofNat (e.position + bs.length - 1)
  "'utf-8' codec can't decode " ++ place ++ ": " ++ e.fault.message

end SketchBuild.Text.Utf8

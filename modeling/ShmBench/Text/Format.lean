/-!
# Text formats: hexadecimal bytes and aligned cells

Bytes are written as two lowercase digits each, high half first, with no
marker.  `Hex.decode` reads such text back, upper- or lowercase, and refuses an
odd number of digits or a character that is no digit.

Table cells are padded to a width (`Layout`).
-/

/-! ## Hexadecimal text of byte strings -/

namespace ShmBench
namespace Hex

/-- The lowercase digit of a value below sixteen. -/
def digit (n : Nat) : Char :=
  if n < 10 then Char.ofNat (48 + n) else Char.ofNat (87 + n)

/-- The two digits of one byte, high half first. -/
def byteDigits (b : UInt8) : List Char :=
  [digit (b.toNat / 16), digit (b.toNat % 16)]

/-- The hex text of a byte string. -/
def encode (bs : ByteArray) : String :=
  String.ofList (bs.toList.flatMap byteDigits)

/-- The hex text of a list of bytes. -/
def encodeList (bs : List UInt8) : String :=
  String.ofList (bs.flatMap byteDigits)

/-- Why a text is no hex encoding. -/
inductive DecodeError where
  | oddLength
  | badDigit
  deriving DecidableEq, Repr

/-- The value of a hex digit of either case. -/
def digitValue (c : Char) : Option Nat :=
  if '0' ≤ c ∧ c ≤ '9' then some (c.toNat - 48)
  else if 'a' ≤ c ∧ c ≤ 'f' then some (c.toNat - 87)
  else if 'A' ≤ c ∧ c ≤ 'F' then some (c.toNat - 55)
  else none

/-- Bytes of a digit list read two at a time. -/
def decodeDigits : List Char → Except DecodeError (List UInt8)
  | [] => .ok []
  | [_] => .error .oddLength
  | hi :: lo :: rest =>
    match digitValue hi, digitValue lo with
    | some h, some l => (decodeDigits rest).map (fun r => (16 * h + l).toUInt8 :: r)
    | _, _ => .error .badDigit

/-- The bytes a hex text stands for.  An odd length is reported before any
bad digit. -/
def decode (s : String) : Except DecodeError ByteArray :=
  if s.length % 2 = 1 then .error .oddLength
  else (decodeDigits s.toList).map (fun bs => ⟨bs.toArray⟩)

end Hex

/-! ## Aligned text

Table cells are padded with spaces to a width counted in characters: left
alignment pads on the right, right alignment on the left, and text already as
wide as the cell is left as it is. -/

namespace Layout

/-- Spaces, `n` of them. -/
def spaces (n : Nat) : String := String.ofList (List.replicate n ' ')

/-- Pad on the right to `width` characters. -/
def left (width : Nat) (s : String) : String := s ++ spaces (width - s.length)

/-- Pad on the left to `width` characters. -/
def right (width : Nat) (s : String) : String := spaces (width - s.length) ++ s

/-- Padding never shortens the text. -/
theorem length_left (width : Nat) (s : String) : (left width s).length = max width s.length := by
  simp [left, spaces]
  omega

end Layout
end ShmBench

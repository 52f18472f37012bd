/-!
# Decimal numerals of a fixed width

Command-line counts and CPU numbers are read as decimal numerals into a word
of a fixed width.  A numeral is an optional sign and then digits; `+` is
always allowed, `-` only for a signed word.  Reading goes left to right and
stops at the first fault:

* empty text is `empty`;
* a sign alone, or a character that is no digit, is `invalidDigit`;
* a value past the top of the word is `tooLarge`, past its bottom `tooSmall`.

A digit is checked before the value it makes, so in `99…9x` the overflow
comes first when it is reached before the `x`.
-/

namespace ShmBench

/-- **Why a numeral could not be read.** -/
inductive NumeralError where
  | empty
  | invalidDigit
  | tooLarge
  | tooSmall
  deriving DecidableEq, Repr

/-- The text of a numeral error. -/
def NumeralError.message : NumeralError → String
  | .empty => "cannot parse integer from empty string"
  | .invalidDigit => "invalid digit found in string"
  | .tooLarge => "number too large to fit in target type"
  | .tooSmall => "number too small to fit in target type"

/-- **The shape of a word**: its width in bits and whether it is signed. -/
structure WordShape where
  bits : Nat
  signed : Bool
  deriving DecidableEq, Repr

namespace WordShape

/-- The largest value of the word. -/
def top (w : WordShape) : Int := if w.signed then Int.pow 2 (w.bits - 1) - 1 else Int.pow 2 w.bits - 1

/-- The smallest value of the word. -/
def bottom (w : WordShape) : Int := if w.signed then -(Int.pow 2 (w.bits - 1)) else 0

/-- Unsigned 64-bit words. -/
def u64 : WordShape := ⟨64, false⟩

/-- Signed 64-bit words. -/
def i64 : WordShape := ⟨64, true⟩

end WordShape

namespace Numeral

/-- Accumulate digits onto `acc`, away from zero in the direction `negative`
says, faulting at the first bad digit or the first value out of the word. -/
def digits (w : WordShape) (negative : Bool) : Int → List Char → Except NumeralError Int
  | acc, [] => .ok acc
  | acc, c :: rest =>
    if c.isDigit then
      let d : Int := (c.toNat - '0'.toNat : Nat)
      let next := if negative then acc * 10 - d else acc * 10 + d
      if next > w.top then .error .tooLarge
      else if next < w.bottom then .error .tooSmall
      else digits w negative next rest
    else .error .invalidDigit

/-- **Read a numeral** into a word of shape `w`. -/
def read (w : WordShape) (s : String) : Except NumeralError Int :=
  match s.toList with
  | [] => .error .empty
  | ['+'] | ['-'] => .error .invalidDigit
  | '+' :: rest => digits w false 0 rest
  | '-' :: rest => if w.signed then digits w true 0 rest else .error .invalidDigit
  | cs => digits w false 0 cs

/-- A natural-number reading of an unsigned word. -/
def readNat (w : WordShape) (s : String) : Except NumeralError Nat :=
  (read w s).map Int.toNat

end Numeral

end ShmBench

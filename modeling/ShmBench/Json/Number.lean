import ShmBench.Json

/-!
# Reading numbers back from JSON text

A saved report is a text file, and what a reader loads from it is not always
the value that was written: a JSON number has no fixed precision, and the
reader takes it apart with a 64-bit accumulator.

* Digits join a 64-bit significand while it fits.  After the first integer
  digit that would carry it past the largest word, the remaining integer digits
  only raise the power of ten; after the first fraction digit that would, the
  remaining fraction digits are dropped (`intDigits`, `fracDigits`).
* The exponent is what power of ten is left over, saturating at the bounds of
  a 32-bit integer; an exponent too long for one reads as zero, or fails for a
  nonzero significand and a positive exponent (`expDigits`).
* The value is the significand rounded to a double, then multiplied or divided
  once by the double nearest to `10^|e|`; below `10^-308` it is first divided
  by `10^308` (`scaleTen`).  A product past the largest double is no number.

The last step rounds twice, so a seventeen-digit significand, or a power of
ten past `10^22`, can land a unit or two in the last place away from the
double nearest to the text: `3814.6972656249995` reads back as the double
written `3814.697265624999`.

Integers without a point or an exponent stay integers when they fit a word
(or, negative, a signed word); `-0` is the float minus zero.  `readBack`
applies the whole rule to every number of a value.
-/

namespace ShmBench
namespace Json

/-- The largest 64-bit word; a significand never passes it. -/
def wordMax : Nat := 18446744073709551615

/-- The largest signed 32-bit integer, the bound of an exponent. -/
def exponentMax : Int := 2147483647

/-- The value of a decimal digit character. -/
def digitOf (c : Char) : Nat := c.toNat - '0'.toNat

/-- `10 ^ k` as the nearest double, the table a reader scales by. -/
def tenPow (k : Nat) : Float := Decimal.roundToDouble (Nat.pow 10 k) 1

/-- Integer digits: each joins the significand `sig` while it fits a word;
from the first one that does not (`full`), digits only raise the exponent `e`.
Returns the significand, the exponent, whether it filled, and the text after
the digits. -/
def intDigits (sig : Nat) (e : Int) (full : Bool) : List Char → Nat × Int × Bool × List Char
  | [] => (sig, e, full, [])
  | c :: cs =>
    if c.isDigit then
      if full || sig * 10 + digitOf c > wordMax then intDigits sig (e + 1) true cs
      else intDigits (sig * 10 + digitOf c) e false cs
    else (sig, e, full, c :: cs)

/-- Fraction digits: each joins the significand and lowers the exponent while
it fits a word; from the first one that does not, digits are dropped. -/
def fracDigits (sig : Nat) (e : Int) (full : Bool) : List Char → Nat × Int × List Char
  | [] => (sig, e, [])
  | c :: cs =>
    if c.isDigit then
      if full || sig * 10 + digitOf c > wordMax then fracDigits sig e true cs
      else fracDigits (sig * 10 + digitOf c) (e - 1) false cs
    else (sig, e, c :: cs)

/-- Exponent digits, or none once they pass a signed 32-bit integer (the rest
of the digits are still consumed).  Returns the text after the digits. -/
def expDigits : Option Int → List Char → Option Int × List Char
  | x, [] => (x, [])
  | x, c :: cs =>
    if c.isDigit then
      match x with
      | some v =>
        if v * 10 + (digitOf c : Int) > exponentMax then expDigits none cs
        else expDigits (some (v * 10 + (digitOf c : Int))) cs
      | none => expDigits none cs
    else (x, c :: cs)

/-- `e` held to the bounds of a signed 32-bit integer. -/
def saturate (e : Int) : Int :=
  if e > exponentMax then exponentMax
  else if e < -exponentMax - 1 then -exponentMax - 1
  else e

/-- **The power-of-ten step**: `f · 10^e` with one multiplication or division
by a table entry; an exponent below `-308` divides by `10^308` first, and a
product past the largest double is none. -/
def scaleTen (f : Float) (e : Int) : Option Float :=
  if e.natAbs ≤ 308 then
    if 0 ≤ e then
      let g := f * tenPow e.toNat
      if g.isInf then none else some g
    else some (f / tenPow e.natAbs)
  else if f == 0 then some f
  else if h : 0 ≤ e then none
  else scaleTen (f / tenPow 308) (e + 308)
termination_by e.natAbs
decreasing_by omega

/-- A float read from its significand and exponent, with its sign. -/
def floatOf (negative : Bool) (sig : Nat) (e : Int) : Option Json :=
  (scaleTen (Decimal.roundToDouble sig 1) e).map fun f => .float (if negative then -f else f)

/-- An integer without point or exponent: a word, a negative signed word, and
otherwise a float; minus zero is a float. -/
def integerOf (negative : Bool) (sig : Nat) : Json :=
  if !negative then .int sig
  else if sig = 0 then .float (-0.0)
  else if sig ≤ Nat.pow 2 63 then .int (-(sig : Int))
  else .float (-(Decimal.roundToDouble sig 1))

/-- The end of a number from its exponent marker on: a sign, at least one
digit, and nothing after them. -/
def exponentPart (negative : Bool) (sig : Nat) (e : Int) (cs : List Char) : Option Json :=
  let (positive, cs) := match cs with
    | '+' :: r => (true, r)
    | '-' :: r => (false, r)
    | r => (true, r)
  match cs with
  | d :: _ =>
    if !d.isDigit then none
    else match expDigits (some 0) cs with
      | (some x, []) => floatOf negative sig (saturate (if positive then e + x else e - x))
      | (none, []) =>
        if sig ≠ 0 && positive then none
        else some (.float (if negative then -0.0 else 0.0))
      | _ => none
  | [] => none

/-- After the fraction: an exponent, or the end of the text. -/
def afterFraction (negative : Bool) (sig : Nat) (e : Int) : List Char → Option Json
  | [] => floatOf negative sig e
  | c :: cs => if c == 'e' || c == 'E' then exponentPart negative sig e cs else none

/-- **What a reader makes of the text of one JSON number**, or none when the
text is not a number or names a value past the largest double. -/
def readNumber (text : String) : Option Json :=
  let (negative, cs) := match text.toList with
    | '-' :: r => (true, r)
    | r => (false, r)
  let start : Option (Nat × Int × Bool × List Char) := match cs with
    | '0' :: r => match r with
      | d :: _ => if d.isDigit then none else some (0, 0, false, r)
      | [] => some (0, 0, false, [])
    | d :: _ => if d.isDigit then some (intDigits 0 0 false cs) else none
    | [] => none
  match start with
  | none => none
  | some (sig, e, full, rest) =>
    match rest with
    | [] => if full then floatOf negative sig e else some (integerOf negative sig)
    | '.' :: r => match r with
      | d :: _ =>
        if d.isDigit then
          let (sig, e, r) := fracDigits sig e false r
          afterFraction negative sig e r
        else none
      | [] => none
    | c :: r => if c == 'e' || c == 'E' then exponentPart negative sig e r else none

mutual
/-- **A value as a reader loads it from its own text**: every number is written
and read back by `readNumber`; a float with no JSON number is `null`. -/
def readBack : Json → Json
  | .int i => (readNumber (toString i)).getD (.int i)
  | .float x => match Decimal.json x with
    | some t => (readNumber t).getD (.float x)
    | none => .null
  | .arr xs => .arr (readBackItems xs)
  | .obj kvs => .obj (readBackMembers kvs)
  | v => v

/-- The items of an array, each read back. -/
def readBackItems : List Json → List Json
  | [] => []
  | x :: xs => readBack x :: readBackItems xs

/-- The members of an object, each value read back. -/
def readBackMembers : List (String × Json) → List (String × Json)
  | [] => []
  | (k, v) :: kvs => (k, readBack v) :: readBackMembers kvs
end

end Json
end ShmBench

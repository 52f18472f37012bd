/-!
# Decimal text of binary64 numbers

Every finite binary64 number is an exact rational `m · 2^q`.  This module
works on that exact value with natural-number arithmetic:

* `Binary64.ofFloat` reads sign, significand and exponent off the bits;
* `Binary64.shortest` gives the fewest significant digits that read back as
  the same number, the nearest such when two qualify (ties to an even last
  digit);
* `roundedUnits` rounds the exact value to a number of places, a half going
  to the even neighbour;
* `roundToDouble` goes the other way, from a nonnegative rational to the
  nearest double, ties to even.

Three layouts are written from these digits, each a rule of its output:
`display` (positional, no trailing `.0`), `json` (positional for decimal
exponents up to sixteen and down to minus five, an `e` exponent beyond, a
`.0` on integers), and `fixedText` (a fixed number of places).
-/

namespace ShmBench
namespace Decimal

/-- **A binary64 number taken apart.** A finite nonzero value is
`(-1)^negative · significand · 2^exponent`. -/
inductive Binary64 where
  | nan
  | infinite (negative : Bool)
  | zero (negative : Bool)
  /-- `evenGaps` is false only for a power of two above the smallest normal
  exponent, whose neighbour below is nearer than the one above. -/
  | finite (negative : Bool) (significand : Nat) (exponent : Int) (evenGaps : Bool)
  deriving Repr

/-- The parts of a float, read off its 64 bits. -/
def Binary64.ofFloat (x : Float) : Binary64 :=
  let bits : Nat := x.toBits.toNat
  let negative : Bool := bits / Nat.pow 2 63 % 2 == 1
  let biased : Nat := bits / Nat.pow 2 52 % Nat.pow 2 11
  let fraction : Nat := bits % Nat.pow 2 52
  if biased == 2047 then
    if fraction == 0 then .infinite negative else .nan
  else if biased == 0 then
    if fraction == 0 then .zero negative
    else .finite negative fraction (-1074) true
  else
    .finite negative (fraction + Nat.pow 2 52) ((biased : Int) - 1075) (fraction != 0 || biased == 1)

/-- `10 ^ k` as a natural number. -/
def pow10 (k : Nat) : Nat := Nat.pow 10 k

/-- The double nearest to `num / den` (both positive), ties to even.  The
quotient is taken with 53 significant bits, or fewer below the normal range,
and the remainder decides the rounding; a value past the largest double is
infinite. -/
def roundToDouble (num den : Nat) : Float :=
  -- `k` makes `num·2^k / den` land in `[2^52, 2^53)`, capped for subnormals.
  let lg : Int := (num.log2 : Int) - (den.log2 : Int)
  let fits (k : Int) : Bool :=
    let (n, d) := if 0 ≤ k then (num * Nat.pow 2 k.toNat, den) else (num, den * Nat.pow 2 (-k).toNat)
    n / d < Nat.pow 2 53
  let k0 : Int := 53 - lg
  let k1 : Int := if fits k0 then k0 else k0 - 1
  let k : Int := if k1 > 1074 then 1074 else k1
  let (n, d) := if 0 ≤ k then (num * Nat.pow 2 k.toNat, den) else (num, den * Nat.pow 2 (-k).toNat)
  let q := n / d
  let r := n % d
  let q := if 2 * r > d || (2 * r == d && q % 2 == 1) then q + 1 else q
  if k < 0 && q * Nat.pow 2 (-k).toNat ≥ Nat.pow 2 1024 then 1.0 / 0.0
  else Float.scaleB q.toUInt64.toFloat (-k)

/-- The decimal digits of a natural number. -/
def digitsOf (n : Nat) : String := toString n

/-- The number of decimal digits of a positive number. -/
def digitCount (n : Nat) : Nat := (digitsOf n).length

/-- A nonnegative rational `num / den` compared with `c · 10^k`. -/
def compareScaled (c : Nat) (k : Int) (num den : Nat) : Ordering :=
  if 0 ≤ k then compare (c * pow10 k.toNat * den) num
  else compare (c * den) (num * pow10 (-k).toNat)

/-- `⌊(num / den) / 10^k⌋`. -/
def floorScaled (num den : Nat) (k : Int) : Nat :=
  if 0 ≤ k then num / (den * pow10 k.toNat) else num * pow10 (-k).toNat / den

/-- The decimal exponent `E` of a positive rational: `10^E ≤ num / den < 10^(E+1)`.
The search below one is bounded by the smallest binary64 number. -/
def decimalExponent (num den : Nat) : Int :=
  if den ≤ num then (digitCount (num / den) : Int) - 1
  else
    let rec below : Nat → Nat → Int
      | 0, j => -(j : Int)
      | fuel + 1, j => if den ≤ num * pow10 j then -(j : Int) else below fuel (j + 1)
    below 400 1

/-- A digit string with its decimal exponent: the value `digits · 10^exponent`. -/
structure Digits where
  digits : Nat
  exponent : Int
  deriving Repr, DecidableEq

/-- Trailing zeros moved into the exponent. -/
def Digits.trim (d : Digits) : Digits :=
  let rec go : Nat → Nat → Int → Digits
    | 0, c, k => ⟨c, k⟩
    | fuel + 1, c, k => if c != 0 && c % 10 == 0 then go fuel (c / 10) (k + 1) else ⟨c, k⟩
  go 400 d.digits d.exponent

/-- **Shortest digits.** For a positive significand `m` and exponent `q`, the
fewest digits whose value rounds to `m · 2^q` (ends included when `m` is even),
the nearer of the two neighbours on the first decimal grid that has one. -/
def shortestOf (m : Nat) (q : Int) (evenGaps : Bool) : Digits :=
  -- value and interval ends in units of 2^(q-2)
  let e2 := q - 2
  let scale := if 0 ≤ e2 then Nat.pow 2 e2.toNat else 1
  let den := if 0 ≤ e2 then 1 else Nat.pow 2 (-e2).toNat
  let v := 4 * m * scale
  let hi := (4 * m + 2) * scale
  let lo := (if evenGaps then 4 * m - 2 else 4 * m - 1) * scale
  let inclusive := m % 2 == 0
  let inside (c : Nat) (k : Int) : Bool :=
    let a := compareScaled c k lo den
    let b := compareScaled c k hi den
    (a == .gt || (inclusive && a == .eq)) && (b == .lt || (inclusive && b == .eq))
  let e := decimalExponent v den
  let rec search : Nat → Nat → Digits
    | 0, _ => ⟨m, q.toNat⟩
    | fuel + 1, n =>
      let k := e - n + 1
      let below := floorScaled v den k
      let above := below + 1
      match inside below k, inside above k with
      | true, true =>
        -- the nearer of the two; a tie goes to the even digit
        match compareScaled (2 * below + 1) k (2 * v) den with
        | .gt => ⟨below, k⟩
        | .lt => ⟨above, k⟩
        | .eq => if below % 2 == 0 then ⟨below, k⟩ else ⟨above, k⟩
      | true, false => ⟨below, k⟩
      | false, true => ⟨above, k⟩
      | false, false => search fuel (n + 1)
  (search 17 1).trim

/-- The shortest digits of a finite nonzero value; `none` for zero, infinities
and NaN. -/
def Binary64.shortest : Binary64 → Option Digits
  | .finite _ m q g => some (shortestOf m q g)
  | _ => none

/-- The exact value rounded to `places` decimals, as the integer count of
`10^-places` units; a half goes to the even neighbour. -/
def roundedUnits (m : Nat) (q : Int) (places : Nat) : Nat :=
  if 0 ≤ q then m * Nat.pow 2 q.toNat * pow10 places
  else
    let num := m * pow10 places
    let den := Nat.pow 2 (-q).toNat
    let n := num / den
    let r := num % den
    if 2 * r > den || (2 * r == den && n % 2 == 1) then n + 1 else n

/-- Zeros in front of a digit string up to `width` characters. -/
def padZeros (width : Nat) (s : String) : String :=
  String.ofList (List.replicate (width - s.length) '0') ++ s

/-- A count of `10^-places` units written with `places` decimals. -/
def unitsText (units places : Nat) : String :=
  if places == 0 then digitsOf units
  else digitsOf (units / pow10 places) ++ "." ++ padZeros places (digitsOf (units % pow10 places))

/-- **Fixed places.** NaN is `NaN`, infinities are `inf` and `-inf`, and a
negative value (negative zero included) keeps its sign. -/
def fixedText (places : Nat) (x : Float) : String :=
  match Binary64.ofFloat x with
  | .nan => "NaN"
  | .infinite neg => if neg then "-inf" else "inf"
  | .zero neg => (if neg then "-" else "") ++ unitsText 0 places
  | .finite neg m q _ => (if neg then "-" else "") ++ unitsText (roundedUnits m q places) places

/-- Digits `c · 10^k` written positionally, without a trailing `.0`. -/
def positional (d : Digits) : String :=
  let s := digitsOf d.digits
  let len : Int := s.length
  if 0 ≤ d.exponent then s ++ String.ofList (List.replicate d.exponent.toNat '0')
  else if 0 < len + d.exponent then
    let cut := (len + d.exponent).toNat
    String.ofList (s.toList.take cut) ++ "." ++ String.ofList (s.toList.drop cut)
  else "0." ++ String.ofList (List.replicate (-(len + d.exponent)).toNat '0') ++ s

/-- **Plain display**: the shortest digits, positionally, with no exponent and no
trailing `.0`; `NaN`, `inf` and `-inf` for the others. -/
def display (x : Float) : String :=
  match Binary64.ofFloat x with
  | .nan => "NaN"
  | .infinite neg => if neg then "-inf" else "inf"
  | .zero neg => if neg then "-0" else "0"
  | .finite neg m q g => (if neg then "-" else "") ++ positional (shortestOf m q g)

/-- Plain display with `.0` added when the text has no decimal point, as
type errors quote a float. -/
def displayPoint (x : Float) : String :=
  let s := display x
  if x.isFinite && !s.toList.contains '.' then s ++ ".0" else s

/-- The exponent of an `e` form: a minus sign when negative, no plus sign. -/
def exponentText (e : Int) : String :=
  if e < 0 then "-" ++ digitsOf e.natAbs else digitsOf e.toNat

/-- **JSON number layout** of a finite value: positional while the decimal point
falls within sixteen digits of the start and no more than five zeros follow the
point, otherwise one leading digit and an `e` exponent; integers keep `.0`. -/
def jsonDigits (d : Digits) : String :=
  let s := digitsOf d.digits
  let len : Int := s.length
  let k := d.exponent
  let kk := len + k
  if 0 ≤ k && kk ≤ 16 then s ++ String.ofList (List.replicate k.toNat '0') ++ ".0"
  else if 0 < kk && kk ≤ 16 then
    String.ofList (s.toList.take kk.toNat) ++ "." ++ String.ofList (s.toList.drop kk.toNat)
  else if -5 < kk && kk ≤ 0 then
    "0." ++ String.ofList (List.replicate (-kk).toNat '0') ++ s
  else if len == 1 then s ++ "e" ++ exponentText (kk - 1)
  else
    String.ofList (s.toList.take 1) ++ "." ++ String.ofList (s.toList.drop 1) ++ "e" ++
      exponentText (kk - 1)

/-- The JSON text of a float, or `none` when it is not finite. -/
def json (x : Float) : Option String :=
  match Binary64.ofFloat x with
  | .nan => none
  | .infinite _ => none
  | .zero neg => some (if neg then "-0.0" else "0.0")
  | .finite neg m q g => some ((if neg then "-" else "") ++ jsonDigits (shortestOf m q g))

end Decimal
end ShmBench

import ShmBench.Text.Decimal
import ShmBench.Text.Visibility

/-!
# What a plain scalar means

A YAML scalar is text; a reader that asks for a number, a flag or nothing at
all decides what the text stands for.  The rules here are the YAML 1.2 core
schema as the configuration reader applies them:

* `null`, `Null`, `NULL`, `~` and the empty text are nothing (`parseNull`);
* `true`/`True`/`TRUE` and `false`/`False`/`FALSE` are flags (`parseBool`);
* integers are decimal, or `0x`, `0o`, `0b` with an optional `+` (and a `-`
  for negative ones), but a run of digits with a leading zero, such as `010`,
  stays text (`digitsButNotNumber`); the widths are tried from 64 to 128 bits;
* floats are `.inf`, `-.inf`, `.nan` in three spellings, or decimal text
  (`1.5`, `1e2`, `.5`) whose value is finite (`parseF64`).

`Resolved` is the outcome, and `Resolved.unexpected` words it the way a type
error quotes it: ``integer `-1` ``, ``floating point `100.0` ``,
`string "010"`.

The decimal conversion is exact: the text's value `m·10^e` is divided out with
natural numbers and rounded to the nearest double, ties to even
(`Decimal.roundToDouble`), so the double printed in a message is the one the text
names.
-/

namespace ShmBench
namespace Yaml

/-- The value of a digit in bases up to 36: `0`–`9`, then letters in either case. -/
def digitValue (c : Char) : Option Nat :=
  if '0' ≤ c && c ≤ '9' then some (c.toNat - '0'.toNat)
  else if 'a' ≤ c && c ≤ 'z' then some (c.toNat - 'a'.toNat + 10)
  else if 'A' ≤ c && c ≤ 'Z' then some (c.toNat - 'A'.toNat + 10)
  else none

/-- The digits `cs` in base `radix`, most significant first; none when a
character is not a digit of the base or there are no digits. -/
def digitsValue (radix : Nat) (cs : List Char) : Option Nat :=
  if cs.isEmpty then none
  else cs.foldlM (fun acc c => do
    let d ← digitValue c
    if d < radix then some (acc * radix + d) else none) 0

example : digitsValue 16 ['f', 'f'] = some 255 ∧ digitsValue 8 ['9'] = none ∧ digitsValue 10 [] = none := by
  decide

/-- An integer of `bits` bits in base `radix`: an optional `+` (or `-` when
`signed`), then digits, within the width's range. -/
def parseRadix (radix bits : Nat) (signed : Bool) (s : String) : Option Int :=
  let cs := s.toList
  let (negative, digits) := match cs with
    | '+' :: rest => (false, rest)
    | '-' :: rest => if signed then (true, rest) else (false, cs)
    | _ => (false, cs)
  match digitsValue radix digits with
  | none => none
  | some n =>
    let v : Int := if negative then -(n : Int) else n
    let lo : Int := if signed then -((Nat.pow 2 (bits - 1) : Nat) : Int) else 0
    let hi : Int := if signed then ((Nat.pow 2 (bits - 1) - 1 : Nat) : Int) else ((Nat.pow 2 bits - 1 : Nat) : Int)
    if lo ≤ v && v ≤ hi then some v else none

/-- A leading zero followed by digits only, after an optional sign: text by
the YAML 1.2 rules, not a number. -/
def digitsButNotNumber (s : String) : Bool :=
  let cs := match s.toList with
    | '-' :: rest => rest
    | '+' :: rest => rest
    | cs => cs
  match cs with
  | '0' :: rest => !rest.isEmpty && rest.all Char.isDigit
  | _ => false

/-- Whether text starts with a sign. -/
def startsWithSign (s : String) : Bool := s.startsWith "+" || s.startsWith "-"

/-- A non-negative integer of `bits` bits: an optional `+`, then a `0x`, `0o`
or `0b` number or a decimal one. -/
def parseUnsigned (bits : Nat) (s : String) : Option Nat :=
  let unsigned := if s.startsWith "+" then some (s.drop 1).copy else some s
  match unsigned with
  | none => none
  | some u =>
    if s.startsWith "+" && startsWithSign u then none else
    let prefixed (pre : String) (radix : Nat) : Option (Option Nat) :=
      if u.startsWith pre then
        let rest := (u.drop pre.length).copy
        if startsWithSign rest then some none
        else (parseRadix radix bits false rest).map (fun v => some v.toNat)
      else none
    match prefixed "0x" 16 with
    | some r => r
    | none => match prefixed "0o" 8 with
      | some r => r
      | none => match prefixed "0b" 2 with
        | some r => r
        | none =>
          if startsWithSign u || digitsButNotNumber s then none
          else (parseRadix 10 bits false u).map Int.toNat

/-- A signed integer of `bits` bits: `-0x`, `-0o`, `-0b` numbers, or a
decimal one with an optional sign. -/
def parseSigned (bits : Nat) (s : String) : Option Int :=
  let prefixed (pre : String) (radix : Nat) : Option Int :=
    if s.startsWith pre then parseRadix radix bits true ("-" ++ (s.drop pre.length).copy) else none
  match prefixed "-0x" 16 with
  | some v => some v
  | none => match prefixed "-0o" 8 with
    | some v => some v
    | none => match prefixed "-0b" 2 with
      | some v => some v
      | none => if digitsButNotNumber s then none else parseRadix 10 bits true s

/-- The YAML spellings of nothing. -/
def parseNull (s : String) : Bool :=
  s == "null" || s == "Null" || s == "NULL" || s == "~"

/-- The YAML spellings of a flag. -/
def parseBool (s : String) : Option Bool :=
  if s == "true" || s == "True" || s == "TRUE" then some true
  else if s == "false" || s == "False" || s == "FALSE" then some false
  else none

/-- The double that the decimal digits `m` times `10^e` round to. -/
def decimalToDouble (m : Nat) (e : Int) : Float :=
  if m = 0 then 0.0
  else
    let n : Int := (Nat.toDigits 10 m).length
    if e + n - 1 > 308 then 1.0 / 0.0
    else if e + n < -324 then 0.0
    else if 0 ≤ e then Decimal.roundToDouble (m * Nat.pow 10 e.toNat) 1
    else Decimal.roundToDouble m (Nat.pow 10 (-e).toNat)

/-- Decimal text as a double: digits with an optional point and an optional
exponent, with at least one digit before the exponent.  The text has no sign. -/
def parseDecimal (cs : List Char) : Option Float :=
  let intPart := cs.takeWhile Char.isDigit
  let rest := cs.drop intPart.length
  let (fracPart, rest) := match rest with
    | '.' :: r => (r.takeWhile Char.isDigit, r.drop (r.takeWhile Char.isDigit).length)
    | r => ([], r)
  if intPart.isEmpty && fracPart.isEmpty then none else
  let exponent : Option Int := match rest with
    | [] => some 0
    | c :: r =>
      if c == 'e' || c == 'E' then
        let (neg, ds) := match r with
          | '-' :: ds => (true, ds)
          | '+' :: ds => (false, ds)
          | ds => (false, ds)
        match digitsValue 10 ds with
        | some v => if ds.all Char.isDigit then some (if neg then -(v : Int) else v) else none
        | none => none
      else none
  match exponent with
  | none => none
  | some ex =>
    let m := (digitsValue 10 (intPart ++ fracPart)).getD 0
    -- An exponent this large saturates: the value is zero or infinite.
    let ex := if ex > 100000 then 100000 else if ex < -100000 then -100000 else ex
    some (decimalToDouble m (ex - fracPart.length))

/-- Float text as the standard library reads it: an optional sign, then decimal
text or one of the names of the infinities and NaN, in any case. -/
def parseFloatText (s : String) : Option Float :=
  let (negative, body) := match s.toList with
    | '-' :: r => (true, r)
    | '+' :: r => (false, r)
    | r => (false, r)
  let lower := String.ofList (body.map Char.toLower)
  let magnitude :=
    if lower == "inf" || lower == "infinity" then some (1.0 / 0.0)
    else if lower == "nan" then some (0.0 / 0.0)
    else parseDecimal body
  magnitude.map (fun x => if negative then -x else x)

/-- A YAML float: the `.inf` and `.nan` names, or float text with a finite
value.  A `+` may come first, but not two signs. -/
def parseF64 (s : String) : Option Float :=
  let unsigned := if s.startsWith "+" then (s.drop 1).copy else s
  if s.startsWith "+" && startsWithSign unsigned then none
  else if unsigned == ".inf" || unsigned == ".Inf" || unsigned == ".INF" then some (1.0 / 0.0)
  else if s == "-.inf" || s == "-.Inf" || s == "-.INF" then some (-1.0 / 0.0)
  else if s == ".nan" || s == ".NaN" || s == ".NAN" then some (0.0 / 0.0)
  else match parseFloatText unsigned with
    | some x => if x.isFinite then some x else none
    | none => none

/-- **What a scalar stands for**, once resolved. -/
inductive Resolved where
  /-- Nothing: `~`, `null`, or empty text. -/
  | unit
  /-- A flag. -/
  | bool (b : Bool)
  /-- An integer that fits 64 bits unsigned. -/
  | unsigned (n : Nat)
  /-- A negative integer that fits 64 bits signed. -/
  | signed (i : Int)
  /-- A non-negative integer that needs 128 bits. -/
  | wideUnsigned (n : Nat)
  /-- A negative integer that needs 128 bits. -/
  | wideSigned (i : Int)
  /-- A float. -/
  | float (x : Float)
  /-- Text. -/
  | str (s : String)

/-- An integer in the first width that holds it: 64 bits unsigned, then
signed, then 128 bits unsigned, then signed. -/
def resolveInt (s : String) : Option Resolved :=
  match parseUnsigned 64 s with
  | some n => some (.unsigned n)
  | none => match parseSigned 64 s with
    | some i => some (.signed i)
    | none => match parseUnsigned 128 s with
      | some n => some (.wideUnsigned n)
      | none => (parseSigned 128 s).map .wideSigned

/-- An untagged plain scalar: nothing, a flag, an integer, a float, or text,
in that order of preference. -/
def resolvePlain (s : String) : Resolved :=
  if s.isEmpty || parseNull s then .unit
  else match parseBool s with
    | some b => .bool b
    | none => match resolveInt s with
      | some r => r
      | none =>
        match (if digitsButNotNumber s then none else parseF64 s) with
        | some x => .float x
        | none => .str s

/-- How a type error quotes a resolved value. -/
def Resolved.unexpected : Resolved → String
  | .unit => "unit value"
  | .bool b => s!"boolean `{b}`"
  | .unsigned n => s!"integer `{n}`"
  | .signed i => s!"integer `{i}`"
  | .wideUnsigned n => s!"integer `{n}` as u128"
  | .wideSigned i => s!"integer `{i}` as i128"
  | .float x => "floating point `" ++ Decimal.displayPoint x ++ "`"
  | .str s => "string " ++ Escape.quoted s

end Yaml
end ShmBench

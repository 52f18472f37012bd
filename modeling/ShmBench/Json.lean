import ShmBench.Text.Decimal
import ShmBench.Text.Format

/-!
# JSON values and their text

Reports are JSON documents.  A `Json` value is written compactly
(`Json.compact`) or indented by two spaces per level (`Json.pretty`).  Object
members keep the order they were built in.  A float that is not finite has no
JSON number and is written `null`; a finite float keeps a decimal point or an
exponent, so it reads back as a float.
-/

namespace ShmBench

/-- **A JSON value.** Integers and floats are kept apart, as a reader tells
`1` from `1.0`. -/
inductive Json where
  | null
  | bool (b : Bool)
  | int (i : Int)
  | float (x : Float)
  | str (s : String)
  | arr (items : List Json)
  | obj (members : List (String × Json))
  deriving Inhabited

namespace Json

/-- A natural number as a JSON integer. -/
def nat (n : Nat) : Json := .int n

/-- A word as a JSON integer. -/
def word (n : UInt64) : Json := .int n.toNat

/-- An optional value, `null` when absent. -/
def opt {α : Type} (f : α → Json) : Option α → Json
  | none => .null
  | some a => f a

/-- The escape of one character inside a quoted string. -/
def escapeChar (c : Char) : String :=
  if c = '"' then "\\\""
  else if c = '\\' then "\\\\"
  else if c = '\n' then "\\n"
  else if c = '\r' then "\\r"
  else if c = '\t' then "\\t"
  else if c.toNat = 8 then "\\b"
  else if c.toNat = 12 then "\\f"
  else if c.toNat < 32 then
    "\\u00" ++ String.ofList [Hex.digit (c.toNat / 16), Hex.digit (c.toNat % 16)]
  else String.singleton c

/-- A string in double quotes, with quotes, backslashes and control characters
escaped. -/
def quote (s : String) : String :=
  "\"" ++ String.join (s.toList.map escapeChar) ++ "\""

/-- The text of a number or of a value without members. -/
def scalarText : Json → String
  | .null => "null"
  | .bool b => if b then "true" else "false"
  | .int i => toString i
  | .float x => (Decimal.json x).getD "null"
  | .str s => quote s
  | _ => ""

mutual
/-- **Compact text**: no whitespace between tokens. -/
def compact : Json → String
  | .arr items => "[" ++ compactItems items ++ "]"
  | .obj members => "\x7b" ++ compactMembers members ++ "\x7d"
  | v => scalarText v

/-- The items of an array, comma separated. -/
def compactItems : List Json → String
  | [] => ""
  | [x] => compact x
  | x :: rest => compact x ++ "," ++ compactItems rest

/-- The members of an object, comma separated. -/
def compactMembers : List (String × Json) → String
  | [] => ""
  | [(k, v)] => quote k ++ ":" ++ compact v
  | (k, v) :: rest => quote k ++ ":" ++ compact v ++ "," ++ compactMembers rest
end

/-- Spaces for `level` steps of indentation. -/
def indent (level : Nat) : String := String.ofList (List.replicate (2 * level) ' ')

mutual
/-- **Indented text**: one member or item per line, two spaces per level, a
space after each colon; empty arrays and objects stay `[]` and `{}`. -/
def pretty (level : Nat) : Json → String
  | .arr [] => "[]"
  | .obj [] => "{}"
  | .arr items => "[\n" ++ prettyItems (level + 1) items ++ "\n" ++ indent level ++ "]"
  | .obj members => "\x7b\n" ++ prettyMembers (level + 1) members ++ "\n" ++ indent level ++ "\x7d"
  | v => scalarText v

/-- Array items, each on its own line. -/
def prettyItems (level : Nat) : List Json → String
  | [] => ""
  | [x] => indent level ++ pretty level x
  | x :: rest => indent level ++ pretty level x ++ ",\n" ++ prettyItems level rest

/-- Object members, each on its own line. -/
def prettyMembers (level : Nat) : List (String × Json) → String
  | [] => ""
  | [(k, v)] => indent level ++ quote k ++ ": " ++ pretty level v
  | (k, v) :: rest =>
    indent level ++ quote k ++ ": " ++ pretty level v ++ ",\n" ++ prettyMembers level rest
end

/-- The member of an object under `key`, if any. -/
def get? (v : Json) (key : String) : Option Json :=
  match v with
  | .obj members => members.lookup key
  | _ => none

end Json
end ShmBench

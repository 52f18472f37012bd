import ShmBench.Json

/-!
# Reading values from JSON

Readers take a JSON value apart into the project's types.  A member that is
absent or `null` takes the reader's default, and a member of the wrong form is
an error that names the member.  Integers are kept exact, so a count beyond
its word is refused rather than wrapped (`asU64_ok_lt`).
-/

namespace ShmBench
namespace Json

/-- The member under `key`; a `null` member counts as absent. -/
def field? (v : Json) (key : String) : Option Json :=
  match v.get? key with
  | some .null => none
  | m => m

/-- The object under `key`, or the empty object when it is absent. -/
def sub (v : Json) (key : String) : Json := (v.field? key).getD (.obj [])

/-- The items of the array under `key`; anything else holds no items. -/
def items (v : Json) (key : String) : List Json :=
  match v.field? key with
  | some (.arr xs) => xs
  | _ => []

/-- A value as a natural number. -/
def asNat (name : String) : Json → Except String Nat
  | .int i => if 0 ≤ i then pure i.toNat else throw s!"{name} must be an unsigned integer"
  | _ => throw s!"{name} must be an unsigned integer"

/-- A value as a 64-bit word. -/
def asU64 (name : String) (v : Json) : Except String UInt64 := do
  let n ← asNat name v
  if n < UInt64.size then pure n.toUInt64 else throw s!"{name} must be an unsigned integer"

/-- A value as a 32-bit word. -/
def asU32 (name : String) (v : Json) : Except String UInt32 := do
  let n ← asU64 name v
  if n.toNat < UInt32.size then pure n.toUInt32 else throw s!"{name} must fit in u32"

/-- A value as a float: a number, or the name of a value no JSON number
spells (NaN, the infinities, negative zero). -/
def asFloat (name : String) : Json → Except String Float
  | .int i => pure (Float.ofInt i)
  | .float x => pure x
  | .str s =>
    if s == "nan" || s == "NaN" then pure (0.0 / 0.0)
    else if s == "inf" || s == "infinity" then pure (1.0 / 0.0)
    else if s == "-inf" || s == "-infinity" then pure (-1.0 / 0.0)
    else if s == "-0" || s == "-0.0" then pure (-0.0)
    else throw s!"{name} must be a number"
  | _ => throw s!"{name} must be a number"

/-- A value as text. -/
def asString (name : String) : Json → Except String String
  | .str s => pure s
  | _ => throw s!"{name} must be a string"

/-- The word under `name`, `d` when absent. -/
def u64At (v : Json) (name : String) (d : UInt64 := 0) : Except String UInt64 :=
  match v.field? name with
  | none => pure d
  | some m => asU64 name m

/-- The 32-bit word under `name`, `d` when absent. -/
def u32At (v : Json) (name : String) (d : UInt32 := 0) : Except String UInt32 :=
  match v.field? name with
  | none => pure d
  | some m => asU32 name m

/-- The count under `name`, `d` when absent; it must fit a 64-bit word. -/
def natAt (v : Json) (name : String) (d : Nat := 0) : Except String Nat :=
  match v.field? name with
  | none => pure d
  | some m => do pure (← asU64 name m).toNat

/-- The flag under `name`, `d` when absent. -/
def boolAt (v : Json) (name : String) (d : Bool) : Except String Bool :=
  match v.field? name with
  | none => pure d
  | some (.bool b) => pure b
  | some _ => throw s!"{name} must be a boolean"

/-- The text under `name`, `d` when absent. -/
def strAt (v : Json) (name : String) (d : String) : Except String String :=
  match v.field? name with
  | none => pure d
  | some (.str s) => pure s
  | some _ => throw s!"{name} must be a string"

/-- The float under `name`, `d` when absent. -/
def floatAt (v : Json) (name : String) (d : Float := 0) : Except String Float :=
  match v.field? name with
  | none => pure d
  | some m => asFloat name m

/-- The text for a name that is none of the variants `names`. -/
def unknownVariant (v : String) (names : List String) : String :=
  let quoted := names.map (fun n => "`" ++ n ++ "`")
  let expected := match quoted with
    | [a, b] => a ++ " or " ++ b
    | _ => "one of " ++ ", ".intercalate quoted
  s!"unknown variant `{v}`, expected {expected}"

/-- The variant named under `name`, `d` when absent. -/
def variantAt {α : Type} (v : Json) (name : String) (variants : List (String × α)) (d : α) :
    Except String α :=
  match v.field? name with
  | none => pure d
  | some (.str s) => match variants.lookup s with
    | some a => pure a
    | none => throw (unknownVariant s (variants.map Prod.fst))
  | some _ => throw "invalid type, expected a string"

/-- Bytes written as hexadecimal text. -/
def hexBytes (h : String) : Except String ByteArray :=
  match Hex.decode h with
  | .ok b => pure b
  | .error .oddLength => throw "hex string has odd length"
  | .error .badDigit => throw "invalid hex"

/-- A word is read back exactly when it fits. -/
theorem asU64_ok_lt (name : String) (v : Json) (w : UInt64) (h : asU64 name v = .ok w) :
    ∃ n, asNat name v = .ok n ∧ n < UInt64.size ∧ w.toNat = n := by
  unfold asU64 at h
  cases hn : asNat name v with
  | error e => simp [hn, bind, Except.bind] at h
  | ok n =>
    simp only [hn, bind, Except.bind] at h
    by_cases hlt : n < UInt64.size
    · simp only [hlt, if_true, pure, Except.pure, Except.ok.injEq] at h
      subst h
      exact ⟨n, rfl, hlt, by simp [Nat.toUInt64, UInt64.toNat_ofNat_of_lt' hlt]⟩
    · simp [hlt] at h

end Json
end ShmBench

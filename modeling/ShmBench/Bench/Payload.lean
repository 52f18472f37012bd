import ShmBench.Json.Read
import ShmBench.Bench.Frames

/-!
# Payloads described in JSON

A payload is given as its bytes in hexadecimal (`hex`), as text (`utf8`), or by
a length and a way to fill it: one repeated byte (`fill`), the stream of a
seeded generator (`seed`), or bytes counting up modulo 251.  No description
asks for more than 64 MiB.
-/

namespace ShmBench
namespace Payload

/-- The largest length a description may ask for. -/
def maxLen : Nat := 64 * 1024 * 1024

/-- `n` bytes counting up modulo 251; the period is prime, so no power-of-two
stride sees one byte only. -/
def counting (n : Nat) : ByteArray :=
  Nat.fold n (fun i _ acc => acc.push (i % 251).toUInt8) (ByteArray.emptyWithCapacity n)

/-- `n` copies of one byte. -/
def repeated (n : Nat) (b : UInt8) : ByteArray :=
  Nat.fold n (fun _ _ acc => acc.push b) (ByteArray.emptyWithCapacity n)

/-- The bytes a description stands for. -/
def ofJson (v : Json) : Except String ByteArray :=
  match v.field? "hex", v.field? "utf8" with
  | some (.str h), _ => Json.hexBytes h
  | some _, _ => throw "hex must be a string"
  | none, some (.str t) => pure t.toUTF8
  | none, some _ => throw "utf8 must be a string"
  | none, none => do
    let n ← v.natAt "len"
    if n > maxLen then throw "len must be at most 64 MiB"
    match v.field? "fill", v.field? "seed" with
    | some f, _ => do
      let b ← Json.asNat "fill" f
      if b > 255 then throw "fill must be a byte"
      pure (repeated n b.toUInt8)
    | none, some s => pure ((PayloadGenerator.seeded (← Json.asU64 "seed" s)).fill n).1
    | none, none => pure (counting n)

/-- The payload under `payload`; absent, it is empty. -/
def member (v : Json) : Except String ByteArray :=
  match v.field? "payload" with
  | some p => ofJson p
  | none => pure ByteArray.empty

/-- Pushing one byte per step adds one byte per step. -/
theorem fold_push_size (n : Nat) (f : Nat → UInt8) (init : ByteArray) :
    (Nat.fold n (fun i _ acc => acc.push (f i)) init).size = init.size + n := by
  induction n with
  | zero => rfl
  | succ k ih => simp [Nat.fold_succ, ih]; omega

/-- Counting bytes have the length asked for. -/
theorem counting_size (n : Nat) : (counting n).size = n := by
  unfold counting
  rw [fold_push_size]
  have h : (ByteArray.emptyWithCapacity n).size = 0 := rfl
  omega

end Payload
end ShmBench

import ShmBench.Digest.Sha256
import ShmBench.Text.Format

/-!
# Payload digests

The host digests a payload before it exposes it, and the guest digests what it
actually read; the two are compared byte for byte (`Digest.verify`).  A digest
is 32 bytes, written as 64 lowercase hex digits.  A fresh channel holds the
all-zero digest, which no payload has (SHA-256 of the empty string is not zero).

In the channel a digest is stored as four 64-bit words whose little-endian bytes
are the digest's bytes in order (`Digest.toWords`, `Digest.ofWords`).
-/

namespace ShmBench

/-- **A 256-bit payload digest.** -/
structure Digest where
  bytes : Vector UInt8 32
  deriving DecidableEq, Inhabited

namespace Digest

/-- The all-zero digest of a freshly initialized channel. -/
def zero : Digest := ⟨Vector.replicate 32 0⟩

/-- The SHA-256 digest of a payload. -/
def ofPayload (payload : ByteArray) : Digest := ⟨Sha256.hash payload⟩

/-- The digest whose bytes these are, when there are exactly 32. -/
def ofBytes? (bs : ByteArray) : Option Digest :=
  if h : bs.data.size = 32 then some ⟨⟨bs.data, h⟩⟩ else none

/-- Lowercase hex text: the display form. -/
def hex (d : Digest) : String := Hex.encodeList d.bytes.toList

/-- The debug form, `Digest(<hex>)`. -/
def debug (d : Digest) : String := "Digest(" ++ d.hex ++ ")"

/-- The little-endian word of bytes `8 * k` to `8 * k + 7`. -/
def word (d : Digest) (k : Nat) : UInt64 :=
  (List.range 8).foldr (fun i acc => (acc <<< 8) ||| (d.bytes.toArray.getD (8 * k + i) 0).toUInt64) 0

/-- The four words that store a digest in the channel. -/
def toWords (d : Digest) : Vector UInt64 4 := Vector.ofFn fun k => d.word k.val

/-- The digest that four stored words hold. -/
def ofWords (w : Vector UInt64 4) : Digest :=
  ⟨Vector.ofFn fun i => (w.get ⟨i.val / 8, by omega⟩ >>> (8 * (i.val % 8)).toUInt64).toUInt8⟩

end Digest

/-- **The outcome of checking a payload against an expected digest.** -/
inductive Verdict where
  | matched
  | mismatch (expected actual : Digest)
  deriving DecidableEq, Inhabited

namespace Verdict

/-- Whether the payload matched. -/
def isMatch : Verdict → Bool
  | .matched => true
  | .mismatch _ _ => false

end Verdict

namespace Digest

/-- **Verify a payload** against the digest the host published. -/
def verify (payload : ByteArray) (expected : Digest) : Verdict :=
  let actual := ofPayload payload
  if actual = expected then .matched else .mismatch expected actual

/-- A payload always verifies against its own digest. -/
theorem verify_ofPayload (payload : ByteArray) :
    verify payload (ofPayload payload) = .matched := by
  simp [verify]

/-- A mismatch reports the expected digest it was given. -/
theorem verify_mismatch_expected (payload : ByteArray) (expected e a : Digest)
    (h : verify payload expected = .mismatch e a) : e = expected ∧ a = ofPayload payload := by
  simp only [verify] at h
  by_cases hm : ofPayload payload = expected
  · simp [hm] at h
  · simp only [hm, if_false, Verdict.mismatch.injEq] at h
    exact ⟨h.1.symm, h.2.symm⟩

end Digest
end ShmBench

/-!
# Message tags, result codes and the overhead formula

A message carries a 32-bit sequence number.  Latency messages count up from
zero; bandwidth messages start at `bandwidthBase`, so the two ranges stay apart
as long as a latency run sends fewer than `bandwidthBase` messages
(`classify_latency_sequence`).

The guest answers each message with a result code, stored as a raw word in the
channel; `ResultCode.ofRaw` and `ResultCode.toRaw` are inverse on every word.
-/

namespace ShmBench

/-- First sequence number of a bandwidth message. -/
def bandwidthBase : UInt32 := 0xFFFF

/-- **The test a message belongs to.** -/
inductive MessageKind where
  | latency
  | bandwidth
  deriving DecidableEq, Repr, Inhabited

namespace MessageKind

/-- The sequence number of iteration `i` of this test; bandwidth numbers wrap
around the 32-bit range. -/
def sequence : MessageKind → UInt32 → UInt32
  | .latency, i => i
  | .bandwidth, i => bandwidthBase + i

/-- The test a received sequence number belongs to. -/
def classify (seq : UInt32) : MessageKind :=
  if seq ≥ bandwidthBase then .bandwidth else .latency

/-- The lowercase name of the test. -/
def name : MessageKind → String
  | .latency => "latency"
  | .bandwidth => "bandwidth"

/-- A latency iteration below the base is read back as latency. -/
theorem classify_latency_sequence (i : UInt32) (h : i < bandwidthBase) :
    classify (sequence .latency i) = .latency := by
  simp only [classify, sequence]
  have : ¬ (i ≥ bandwidthBase) := fun h' => absurd h (UInt32.not_lt.mpr h')
  simp [this]

end MessageKind

/-- **What the guest reports for a message.** -/
inductive ResultCode where
  | none
  | integrityMismatch
  | allocationFailed
  | payloadTooLarge
  | unknown (raw : UInt32)
  deriving DecidableEq, Repr, Inhabited

namespace ResultCode

/-- The word stored in the channel. -/
def toRaw : ResultCode → UInt32
  | .none => 0
  | .integrityMismatch => 1
  | .allocationFailed => 2
  | .payloadTooLarge => 3
  | .unknown raw => raw

/-- The code a stored word stands for. -/
def ofRaw (raw : UInt32) : ResultCode :=
  if raw = 0 then .none
  else if raw = 1 then .integrityMismatch
  else if raw = 2 then .allocationFailed
  else if raw = 3 then .payloadTooLarge
  else .unknown raw

/-- Every code but `none` is a failure. -/
def isError : ResultCode → Bool
  | .none => false
  | _ => true

/-- The name of the variant. -/
def variantName : ResultCode → String
  | .none => "None"
  | .integrityMismatch => "IntegrityMismatch"
  | .allocationFailed => "AllocationFailed"
  | .payloadTooLarge => "PayloadTooLarge"
  | .unknown _ => "Unknown"

/-- The text a code is shown as. -/
def message : ResultCode → String
  | .none => "none"
  | .integrityMismatch => "integrity mismatch"
  | .allocationFailed => "allocation failed"
  | .payloadTooLarge => "payload too large"
  | .unknown raw => s!"unknown error {raw}"

/-- Storing a decoded word gives the word back. -/
theorem toRaw_ofRaw (raw : UInt32) : (ofRaw raw).toRaw = raw := by
  unfold ofRaw
  by_cases h0 : raw = 0
  · simp [h0, toRaw]
  by_cases h1 : raw = 1
  · simp [h1, toRaw]
  by_cases h2 : raw = 2
  · simp [h2, toRaw]
  by_cases h3 : raw = 3
  · simp [h3, toRaw]
  simp [h0, h1, h2, h3, toRaw]

end ResultCode

/-- **How the notification overhead is estimated** from a round trip and the
guest's own times. -/
inductive OverheadFormula where
  /-- Round trip minus the whole guest processing time. -/
  | guestTotal
  /-- Round trip minus the guest time without the verification. -/
  | guestTotalExcludingVerify
  deriving DecidableEq, Repr, Inhabited

namespace OverheadFormula

/-- The lowercase name used in configuration files and reports. -/
def name : OverheadFormula → String
  | .guestTotal => "guest_total"
  | .guestTotalExcludingVerify => "guest_total_excluding_verify"

/-- The variant name. -/
def variantName : OverheadFormula → String
  | .guestTotal => "GuestTotal"
  | .guestTotalExcludingVerify => "GuestTotalExcludingVerify"

/-- The formula a name stands for. -/
def ofName? : String → Option OverheadFormula
  | "guest_total" => some .guestTotal
  | "guest_total_excluding_verify" => some .guestTotalExcludingVerify
  | _ => none

/-- The estimated notification overhead; differences stop at zero. -/
def notification (f : OverheadFormula) (roundtrip guestTotal verify : UInt64) : UInt64 :=
  let share := match f with
    | .guestTotal => guestTotal
    | .guestTotalExcludingVerify => if verify ≤ guestTotal then guestTotal - verify else 0
  if share ≤ roundtrip then roundtrip - share else 0

end OverheadFormula
end ShmBench

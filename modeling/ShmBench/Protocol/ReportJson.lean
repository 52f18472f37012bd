import ShmBench.Protocol.Report
import ShmBench.Json.Read

/-!
# Reports as JSON

The JSON forms of the report types, as written into result files: records
are objects with one member per field in declaration order, counts are
integers, rates are floats, a digest is its array of 32 byte values, and
enumerations are their names (`ResultCode` by variant, with an unknown code
as `{"Unknown": raw}`).

The readers take the same members back, each with its default when absent: a
count is zero, a digest is all zero, a message's kind follows from its
sequence number, and a report says the guest released the message.
-/

namespace ShmBench

/-- The JSON form of raw counts. -/
def RawCounts.toJson (r : RawCounts) : Json := .obj (r.fields.map fun (k, v) => (k, .word v))

/-- The JSON form of a counter report. -/
def CounterReport.toJson (r : CounterReport) : Json :=
  .obj ([("raw", r.raw.toJson)] ++ r.rates.map fun (k, v) => (k, .float v))

/-- The JSON form of phase durations. -/
def PhaseTimings.toJson (p : PhaseTimings) : Json := .obj (p.fields.map fun (k, v) => (k, .word v))

/-- The JSON form of a guest timing. -/
def GuestTiming.toJson (g : GuestTiming) : Json :=
  .obj [("phases", g.phases.toJson), ("counters", g.counters.toJson)]

/-- The JSON form of a result code. -/
def ResultCode.toJson : ResultCode → Json
  | .unknown raw => .obj [("Unknown", .word raw.toUInt64)]
  | c => .str c.variantName

/-- The JSON form of an outcome. -/
def MessageOutcome.toJson : MessageOutcome → Json
  | .delivered => .str "delivered"
  | .guestError c => .obj [("guest_error", c.toJson)]
  | .timedOut st ms => .obj [("timed_out", .obj [("stage", .str st.key), ("waited_ms", .word ms)])]

/-- The JSON form of a digest: its bytes. -/
def Digest.toJson (d : Digest) : Json := .arr (d.bytes.toList.map fun b => .nat b.toNat)

/-- The JSON form of a message report. -/
def MessageReport.toJson (r : MessageReport) : Json :=
  .obj [("sequence", .nat r.sequence.toNat), ("kind", .str r.kind.name), ("data_size", .word r.dataSize),
    ("digest", r.digest.toJson), ("write_ns", .word r.writeNs), ("roundtrip_ns", .word r.roundtripNs),
    ("notification_ns", .word r.notificationNs), ("guest", r.guest.toJson),
    ("host_counters", r.hostCounters.toJson), ("outcome", r.outcome.toJson),
    ("released", .bool r.released)]

/-- Raw counts from their members by name. -/
def RawCounts.ofJson (v : Json) : Except String RawCounts := do
  pure { l1CacheMisses := ← v.u64At "l1_cache_misses", l1CacheReferences := ← v.u64At "l1_cache_references",
         llcMisses := ← v.u64At "llc_misses", llcReferences := ← v.u64At "llc_references",
         memoryLoads := ← v.u64At "memory_loads", memoryStores := ← v.u64At "memory_stores",
         tlbMisses := ← v.u64At "tlb_misses", cpuCycles := ← v.u64At "cpu_cycles",
         instructions := ← v.u64At "instructions", contextSwitches := ← v.u64At "context_switches" }

/-- A counter report from its raw counts and rates. -/
def CounterReport.ofJson (v : Json) : Except String CounterReport := do
  pure { raw := ← RawCounts.ofJson (v.sub "raw"), l1MissRate := ← v.floatAt "l1_miss_rate",
         llcMissRate := ← v.floatAt "llc_miss_rate",
         instructionsPerCycle := ← v.floatAt "instructions_per_cycle",
         cyclesPerByte := ← v.floatAt "cycles_per_byte", tlbMissRate := ← v.floatAt "tlb_miss_rate" }

/-- Phase durations from their members by name. -/
def PhaseTimings.ofJson (v : Json) : Except String PhaseTimings := do
  pure { hotReadNs := ← v.u64At "hot_read_ns", coldReadNs := ← v.u64At "cold_read_ns",
         copyNs := ← v.u64At "copy_ns", verifyNs := ← v.u64At "verify_ns", totalNs := ← v.u64At "total_ns" }

/-- A digest from its 64 hexadecimal digits. -/
def Digest.ofJson (v : Json) : Except String Digest := do
  let h ← match v with
    | .str h => pure h
    | _ => throw "digest must be a string"
  match Digest.ofBytes? (← Json.hexBytes h) with
  | some d => pure d
  | none => throw "digest must be 32 bytes (64 hex chars)"

/-- The waiting stages by key. -/
def WaitStage.variants : List (String × WaitStage) :=
  [("guest_idle", .guestIdle), ("processing", .processing), ("acknowledged", .acknowledged)]

/-- An outcome: `"delivered"`, `{"guest_error": code}` or
`{"timed_out": {"stage", "waited_ms"}}`. -/
def MessageOutcome.ofJson (v : Json) : Except String MessageOutcome :=
  match v, v.field? "guest_error", v.field? "timed_out" with
  | .str "delivered", _, _ => pure .delivered
  | _, some c, _ => do pure (.guestError (ResultCode.ofRaw (← Json.asU32 "guest_error" c)))
  | _, none, some t => do
    match t.field? "stage" with
    | some (.str _) => pure (.timedOut (← t.variantAt "stage" WaitStage.variants .guestIdle) (← t.u64At "waited_ms"))
    | _ => throw "stage must be a string"
  | _, none, none => throw "outcome must be delivered, guest_error or timed_out"

/-- A message report; the kind, when absent, follows from the sequence
number. -/
def MessageReport.ofJson (v : Json) : Except String MessageReport := do
  let seq ← v.u32At "sequence"
  let g := v.sub "guest"
  pure { sequence := seq,
         kind := ← v.variantAt "kind" [("latency", .latency), ("bandwidth", .bandwidth)] (MessageKind.classify seq),
         dataSize := ← v.u64At "data_size",
         digest := ← match v.field? "digest" with | some d => Digest.ofJson d | none => pure Digest.zero,
         writeNs := ← v.u64At "write_ns", roundtripNs := ← v.u64At "roundtrip_ns",
         notificationNs := ← v.u64At "notification_ns",
         guest := ⟨← PhaseTimings.ofJson g, ← CounterReport.ofJson (g.sub "counters")⟩,
         hostCounters := ← CounterReport.ofJson (v.sub "host_counters"),
         outcome := ← match v.field? "outcome" with | some o => MessageOutcome.ofJson o | none => pure .delivered,
         released := ← v.boolAt "released" true }

end ShmBench

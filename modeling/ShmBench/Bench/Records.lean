import ShmBench.Protocol.ReportJson
import ShmBench.Bench.Metrics
import ShmBench.Text.Decimal

/-!
# Per-message records and their CSV rows

Every message of a latency run becomes a `LatencyRecord` and every message of
a bandwidth run a `BandwidthRecord`, built from the host's report.  Each
record has a fixed CSV header and writes one row per record, with durations
also given in microseconds (latency) or milliseconds (bandwidth) to two
decimals and rates to four decimals.  A failed bandwidth message counts as
zero throughput.
-/

namespace ShmBench

/-- The name of an outcome in a record. -/
def MessageOutcome.name : MessageOutcome → String
  | .delivered => "delivered"
  | .guestError _ => "guest_error"
  | .timedOut _ _ => "timed_out"

/-- **A latency record.** -/
structure LatencyRecord where
  iteration : UInt32 := 0
  sequence : UInt32 := 0
  sizeBytes : UInt64 := 0
  writeNs : UInt64 := 0
  roundtripNs : UInt64 := 0
  hotReadNs : UInt64 := 0
  coldReadNs : UInt64 := 0
  copyNs : UInt64 := 0
  verifyNs : UInt64 := 0
  guestTotalNs : UInt64 := 0
  notificationEstNs : UInt64 := 0
  totalNs : UInt64 := 0
  l1MissRate : Float := 0
  llcMissRate : Float := 0
  instructionsPerCycle : Float := 0
  cyclesPerByte : Float := 0
  success : Bool := true
  errorCode : UInt32 := 0
  outcome : String := "delivered"
  deriving Inhabited

namespace LatencyRecord

/-- **The record of a message report.** -/
def ofReport (iteration : UInt32) (r : MessageReport) : LatencyRecord :=
  let p := r.guest.phases
  let c := r.guest.counters
  { iteration, sequence := r.sequence, sizeBytes := r.dataSize, writeNs := r.writeNs,
    roundtripNs := r.roundtripNs, hotReadNs := p.hotReadNs, coldReadNs := p.coldReadNs,
    copyNs := p.copyNs, verifyNs := p.verifyNs, guestTotalNs := p.totalNs,
    notificationEstNs := r.notificationNs, totalNs := r.totalNs, l1MissRate := c.l1MissRate,
    llcMissRate := c.llcMissRate, instructionsPerCycle := c.instructionsPerCycle,
    cyclesPerByte := c.cyclesPerByte, success := r.success, errorCode := r.errorCode.toRaw,
    outcome := r.outcome.name }

/-- The CSV header. -/
def header : String :=
  "iteration,sequence,size_bytes,write_ns,write_us,roundtrip_ns,roundtrip_us," ++
  "hot_read_ns,cold_read_ns,copy_ns,verify_ns,guest_total_ns,notification_est_ns,notification_est_us," ++
  "total_ns,total_us,l1_miss_rate,llc_miss_rate,ipc,cycles_per_byte,success,error_code,outcome"

/-- Microseconds to two decimals. -/
def micros (ns : UInt64) : String := Decimal.fixedText 2 (ns.toFloat / 1000)

/-- **The CSV row**, with its line end. -/
def row (r : LatencyRecord) : String :=
  ",".intercalate [toString r.iteration, toString r.sequence, toString r.sizeBytes,
    toString r.writeNs, micros r.writeNs, toString r.roundtripNs, micros r.roundtripNs,
    toString r.hotReadNs, toString r.coldReadNs, toString r.copyNs, toString r.verifyNs,
    toString r.guestTotalNs, toString r.notificationEstNs, micros r.notificationEstNs,
    toString r.totalNs, micros r.totalNs, Decimal.fixedText 4 r.l1MissRate,
    Decimal.fixedText 4 r.llcMissRate, Decimal.fixedText 4 r.instructionsPerCycle,
    Decimal.fixedText 4 r.cyclesPerByte, if r.success then "1" else "0", toString r.errorCode,
    r.outcome] ++ "\n"

/-- The JSON form. -/
def toJson (r : LatencyRecord) : Json :=
  .obj [("iteration", .nat r.iteration.toNat), ("sequence", .nat r.sequence.toNat),
    ("size_bytes", .word r.sizeBytes), ("write_ns", .word r.writeNs), ("roundtrip_ns", .word r.roundtripNs),
    ("hot_read_ns", .word r.hotReadNs), ("cold_read_ns", .word r.coldReadNs), ("copy_ns", .word r.copyNs),
    ("verify_ns", .word r.verifyNs), ("guest_total_ns", .word r.guestTotalNs),
    ("notification_est_ns", .word r.notificationEstNs), ("total_ns", .word r.totalNs),
    ("l1_miss_rate", .float r.l1MissRate), ("llc_miss_rate", .float r.llcMissRate),
    ("instructions_per_cycle", .float r.instructionsPerCycle), ("cycles_per_byte", .float r.cyclesPerByte),
    ("success", .bool r.success), ("error_code", .nat r.errorCode.toNat), ("outcome", .str r.outcome)]

/-- A record: `{iteration, report}` builds it from a message report, and
otherwise each field is read by name. -/
def ofJson (v : Json) : Except String LatencyRecord := do
  match v.field? "report" with
  | some rep => pure (ofReport (← v.u32At "iteration") (← MessageReport.ofJson rep))
  | none =>
    pure { iteration := ← v.u32At "iteration", sequence := ← v.u32At "sequence",
           sizeBytes := ← v.u64At "size_bytes", writeNs := ← v.u64At "write_ns",
           roundtripNs := ← v.u64At "roundtrip_ns", hotReadNs := ← v.u64At "hot_read_ns",
           coldReadNs := ← v.u64At "cold_read_ns", copyNs := ← v.u64At "copy_ns",
           verifyNs := ← v.u64At "verify_ns", guestTotalNs := ← v.u64At "guest_total_ns",
           notificationEstNs := ← v.u64At "notification_est_ns", totalNs := ← v.u64At "total_ns",
           l1MissRate := ← v.floatAt "l1_miss_rate", llcMissRate := ← v.floatAt "llc_miss_rate",
           instructionsPerCycle := ← v.floatAt "instructions_per_cycle",
           cyclesPerByte := ← v.floatAt "cycles_per_byte", success := ← v.boolAt "success" true,
           errorCode := ← v.u32At "error_code", outcome := ← v.strAt "outcome" "delivered" }

end LatencyRecord

/-- **A bandwidth record.** -/
structure BandwidthRecord where
  iteration : UInt32 := 0
  frame : FrameSpec := FrameSpec.hd
  sizeBytes : UInt64 := 0
  writeNs : UInt64 := 0
  roundtripNs : UInt64 := 0
  guestReadNs : UInt64 := 0
  guestVerifyNs : UInt64 := 0
  totalNs : UInt64 := 0
  success : Bool := true
  errorCode : UInt32 := 0
  deriving Inhabited

namespace BandwidthRecord

/-- **The record of a message report** for a frame. -/
def ofReport (iteration : UInt32) (frame : FrameSpec) (r : MessageReport) : BandwidthRecord :=
  { iteration, frame, sizeBytes := r.dataSize, writeNs := r.writeNs, roundtripNs := r.roundtripNs,
    guestReadNs := r.guest.phases.copyNs, guestVerifyNs := r.guest.phases.verifyNs,
    totalNs := r.totalNs, success := r.success, errorCode := r.errorCode.toRaw }

/-- The payload size in mebibytes. -/
def sizeMb (r : BandwidthRecord) : Float := r.sizeBytes.toFloat / mebibyte

/-- A rate over `ns`, zero for a failed message. -/
def rate (r : BandwidthRecord) (ns : UInt64) : Float :=
  if r.success then mbPerSec r.sizeBytes ns else 0

/-- Write throughput. -/
def writeMbps (r : BandwidthRecord) : Float := r.rate r.writeNs

/-- Guest read (copy) throughput. -/
def readMbps (r : BandwidthRecord) : Float := r.rate r.guestReadNs

/-- End-to-end throughput. -/
def totalMbps (r : BandwidthRecord) : Float := r.rate r.totalNs

/-- The CSV header. -/
def header : String :=
  "iteration,frame_type,width,height,bpp,size_bytes,size_mb," ++
  "write_ns,write_ms,write_mbps,roundtrip_ns,roundtrip_ms,guest_read_ns,guest_read_ms,read_mbps," ++
  "guest_verify_ns,guest_verify_ms,total_ns,total_ms,total_mbps,success,error_code"

/-- Milliseconds to two decimals. -/
def millis (ns : UInt64) : String := Decimal.fixedText 2 (ns.toFloat / 1000000)

/-- Two decimals. -/
def two (x : Float) : String := Decimal.fixedText 2 x

/-- **The CSV row**, with its line end; the bits per pixel are computed in 64
bits and an overflow is a fault. -/
def row (r : BandwidthRecord) : Checked String := do
  let bpp ← UInt64.mulChecked r.frame.bytesPerPixel 8
  pure (",".intercalate [toString r.iteration, r.frame.name, toString r.frame.width,
    toString r.frame.height, toString bpp, toString r.sizeBytes, two r.sizeMb,
    toString r.writeNs, millis r.writeNs, two r.writeMbps, toString r.roundtripNs,
    millis r.roundtripNs, toString r.guestReadNs, millis r.guestReadNs, two r.readMbps,
    toString r.guestVerifyNs, millis r.guestVerifyNs, toString r.totalNs, millis r.totalNs,
    two r.totalMbps, if r.success then "1" else "0", toString r.errorCode] ++ "\n")

/-- The JSON form. -/
def toJson (r : BandwidthRecord) : Json :=
  .obj [("iteration", .nat r.iteration.toNat), ("frame", r.frame.toJson), ("size_bytes", .word r.sizeBytes),
    ("write_ns", .word r.writeNs), ("roundtrip_ns", .word r.roundtripNs),
    ("guest_read_ns", .word r.guestReadNs), ("guest_verify_ns", .word r.guestVerifyNs),
    ("total_ns", .word r.totalNs), ("success", .bool r.success), ("error_code", .nat r.errorCode.toNat)]

/-- A record of a frame (1080p unless given): `{iteration, report}` builds
it from a message report, and otherwise each field is read by name. -/
def ofJson (v : Json) : Except String BandwidthRecord := do
  let frame ← FrameSpec.ofJson ((v.field? "frame").getD (.str "1080p"))
  match v.field? "report" with
  | some rep => pure (ofReport (← v.u32At "iteration") frame (← MessageReport.ofJson rep))
  | none =>
    pure { iteration := ← v.u32At "iteration", frame, sizeBytes := ← v.u64At "size_bytes",
           writeNs := ← v.u64At "write_ns", roundtripNs := ← v.u64At "roundtrip_ns",
           guestReadNs := ← v.u64At "guest_read_ns", guestVerifyNs := ← v.u64At "guest_verify_ns",
           totalNs := ← v.u64At "total_ns", success := ← v.boolAt "success" true,
           errorCode := ← v.u32At "error_code" }

end BandwidthRecord
end ShmBench

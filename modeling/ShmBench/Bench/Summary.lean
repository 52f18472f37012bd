import ShmBench.Bench.Records
import ShmBench.Text.Format

/-!
# Summaries of a run

`OverheadBreakdown.ofRecords` averages the successful latency records per
component (write, round trip, notification, cold read, copy, verify, total),
with each component's share of the summed end-to-end time; there is no
breakdown when nothing succeeded.  `BandwidthSummary.byFrame` groups
bandwidth records by frame, in order of first appearance, and averages the
throughput of the successful ones.  Both have a text rendering, and both turn
into benchmark results for the JSON report.
-/

namespace ShmBench

/-- **One component of the breakdown.** -/
structure Component where
  meanNs : UInt64
  minNs : UInt64
  maxNs : UInt64
  /-- Percentage of the summed end-to-end time. -/
  share : Float
  deriving Inhabited

namespace Component

/-- The component of `values`, against the summed total `totalSum`. -/
def ofValues (values : List UInt64) (totalSum : UInt64) : Checked Component := do
  let sum ← UInt64.sumChecked values
  let count := (max values.length 1).toUInt64
  pure { meanNs := sum / count, minNs := values.min?.getD 0, maxNs := values.max?.getD 0,
         share := if totalSum > 0 then 100 * sum.toFloat / totalSum.toFloat else 0 }

/-- The JSON form. -/
def toJson (c : Component) : Json :=
  .obj [("mean_ns", .word c.meanNs), ("min_ns", .word c.minNs), ("max_ns", .word c.maxNs),
    ("share", .float c.share)]

end Component

/-- **Where the end-to-end time of the successful messages went.** -/
structure OverheadBreakdown where
  attempted : Nat
  successful : Nat
  write : Component
  roundtrip : Component
  notification : Component
  read : Component
  copy : Component
  verify : Component
  total : Component
  deriving Inhabited

namespace OverheadBreakdown

/-- **The breakdown of latency records**, or none when no record succeeded. -/
def ofRecords (records : List LatencyRecord) : Checked (Option OverheadBreakdown) := do
  let ok := records.filter (·.success)
  if ok.isEmpty then return none
  let totalSum ← UInt64.sumChecked (ok.map (·.totalNs))
  let comp (f : LatencyRecord → UInt64) : Checked Component := Component.ofValues (ok.map f) totalSum
  pure (some
    { attempted := records.length, successful := ok.length,
      write := ← comp (·.writeNs), roundtrip := ← comp (·.roundtripNs),
      notification := ← comp (·.notificationEstNs), read := ← comp (·.coldReadNs),
      copy := ← comp (·.copyNs), verify := ← comp (·.verifyNs), total := ← comp (·.totalNs) })

/-- Microseconds of a count of nanoseconds. -/
def micros (ns : UInt64) : Float := ns.toFloat / 1000

/-- One average line. -/
def averageLine (name : String) (c : Component) (share : String) : String :=
  "  " ++ Layout.left 20 name ++ " " ++ Layout.right 9 (toString c.meanNs) ++ " ns (" ++
    Layout.right 9 (Decimal.fixedText 2 (micros c.meanNs)) ++ " µs) [" ++ share ++ "]\n"

/-- One range line. -/
def rangeLine (name : String) (c : Component) : String :=
  "  " ++ Layout.left 14 name ++ " " ++ s!"{c.minNs} - {c.maxNs} ns (" ++
    Decimal.fixedText 2 (micros c.minNs) ++ " - " ++ Decimal.fixedText 2 (micros c.maxNs) ++ " µs)\n"

/-- **The text rendering.** -/
def render (b : OverheadBreakdown) : String :=
  s!"Successful: {b.successful}/{b.attempted}\n\nOVERHEAD BREAKDOWN (Average):\n" ++
  String.join ([("Write (host):", b.write), ("Notification (est):", b.notification),
      ("Cold read (guest):", b.read), ("Copy (guest):", b.copy), ("Verify (guest):", b.verify)].map
    fun (n, c) => averageLine n c (Layout.right 5 (Decimal.fixedText 1 c.share) ++ "%")) ++
  "  " ++ String.ofList (List.replicate 50 '-') ++ "\n" ++
  averageLine "Total end-to-end:" b.total "100.0%" ++
  "\nMIN/MAX:\n" ++
  String.join ([("Write:", b.write), ("Round-trip:", b.roundtrip), ("Notification:", b.notification),
      ("Cold read:", b.read), ("Copy:", b.copy), ("Verify:", b.verify)].map fun (n, c) => rangeLine n c) ++
  "\nNotification is estimated as round-trip minus guest processing.\n"

end OverheadBreakdown

/-- **Bandwidth of one frame size.** -/
structure BandwidthSummary where
  frame : FrameSpec
  attempted : Nat
  successful : Nat
  writeMbps : Float
  readMbps : Float
  totalMbps : Float
  deriving Inhabited

namespace BandwidthSummary

/-- The frames of the records, each once, in order of first appearance. -/
def frames (records : List BandwidthRecord) : List FrameSpec :=
  records.foldl (fun acc r => if acc.contains r.frame then acc else acc ++ [r.frame]) []

/-- The mean of a rate over the successful records. -/
def meanOf (ok : List BandwidthRecord) (f : BandwidthRecord → Float) : Float :=
  if ok.isEmpty then 0 else (ok.foldl (fun acc r => acc + f r) 0) / Float.ofNat ok.length

/-- **The summaries by frame.** -/
def byFrame (records : List BandwidthRecord) : List BandwidthSummary :=
  (frames records).map fun frame =>
    let all := records.filter (·.frame == frame)
    let ok := all.filter (·.success)
    { frame, attempted := all.length, successful := ok.length,
      writeMbps := meanOf ok BandwidthRecord.writeMbps,
      readMbps := meanOf ok BandwidthRecord.readMbps,
      totalMbps := meanOf ok BandwidthRecord.totalMbps }

/-- **The text rendering** of one summary. -/
def render (s : BandwidthSummary) : String :=
  s!"{s.frame.name} Results ({s.successful}/{s.attempted} successful):\n" ++
  String.join ([("Avg Write BW:", s.writeMbps), ("Avg Read BW:", s.readMbps),
      ("Avg Overall BW:", s.totalMbps)].map fun (n, v) =>
    "  " ++ Layout.left 16 n ++ " " ++ Layout.right 8 (Decimal.fixedText 0 v) ++ " MB/s (" ++
      Decimal.fixedText 2 (v / 1024) ++ " GB/s)\n")

/-- The JSON form. -/
def toJson (s : BandwidthSummary) : Json :=
  .obj [("frame", s.frame.toJson), ("attempted", .nat s.attempted), ("successful", .nat s.successful),
    ("write_mbps", .float s.writeMbps), ("read_mbps", .float s.readMbps), ("total_mbps", .float s.totalMbps)]

end BandwidthSummary

/-- Every summary rendered, each followed by a blank line. -/
def renderBandwidth (summaries : List BandwidthSummary) : String :=
  String.join (summaries.map fun s => s.render ++ "\n")

/-- The latency components reported, each by its result's name. -/
def latencyComponents : List (String × (LatencyRecord → UInt64)) :=
  [("latency_write", (·.writeNs)), ("latency_roundtrip", (·.roundtripNs)),
   ("latency_notification", (·.notificationEstNs)), ("latency_hot_read", (·.hotReadNs)),
   ("latency_cold_read", (·.coldReadNs)), ("latency_copy", (·.copyNs)),
   ("latency_verify", (·.verifyNs)), ("latency_guest_total", (·.guestTotalNs)),
   ("latency_total", (·.totalNs))]

/-- **The latency results**: one per component, over the successful records. -/
def latencyResults (records : List LatencyRecord) : Checked (List BenchmarkResult) := do
  let ok := records.filter (·.success)
  let size := (ok.head?.map (·.sizeBytes)).getD 0
  latencyComponents.mapM fun (name, f) => do
    let r ← BenchmarkResult.ofLatency name .latency (ok.map f) true
    pure ((r.withMetadata "payload_size_bytes" (.word size)).withMetadata "attempted"
      (.nat records.length) |>.withMetadata "successful" (.nat ok.length))

/-- **The bandwidth results**: one per frame, over the successful records. -/
def bandwidthResults (records : List BandwidthRecord) : Checked (List BenchmarkResult) :=
  (BandwidthSummary.byFrame records).mapM fun s => do
    let samples := (records.filter fun r => r.frame == s.frame && r.success).map (·.totalNs)
    let r ← BenchmarkResult.ofLatency ("bandwidth_" ++ s.frame.name) .bandwidth samples true
    let r := r.withThroughput (← s.frame.size)
    pure (((((r.withMetadata "frame" s.frame.toJson).withMetadata "write_mbps" (.float s.writeMbps))
      |>.withMetadata "read_mbps" (.float s.readMbps)) |>.withMetadata "total_mbps" (.float s.totalMbps))
      |>.withMetadata "successful" (.nat s.successful))

end ShmBench

import ShmBench.Cli.Attach
import ShmBench.Bench.Summary
import ShmBench.Bench.Report
import ShmBench.Text.Decimal

/-!
# `host`: driving the tests

The host maps the channel, initializes it, waits for the guest (going on
without it when it does not come in time), runs the tests of its plan, marks
the run complete and saves the results:

* the latency test sends the 4K frame `count` times, when it fits the
  channel, and prints every failure and the successes `shouldPrint` picks;
* the bandwidth test sends each frame that fits `iterations` times;
* each test writes its records to a CSV file in the output directory, and the
  benchmark results of both go to a JSON report when there are any.

Each payload is fresh random bytes from a generator over the machine's
entropy, and each message draws a random offset; with `--corrupt-every k`,
every `k`-th message has the byte at that offset flipped after its digest is
taken.  The messages are counted in a 32-bit word.
-/

namespace ShmBench
namespace Cli
open CommandM

/-- Print every message of a short run, every hundredth of a long one. -/
def shouldPrint (index total : Nat) : Bool := total ≤ 10 || (index + 1) % 100 == 0

/-- **The sending side of a host run**: the endpoint, how often to corrupt a
message, the messages sent so far, and the generator of the payloads. -/
structure Sender where
  host : HostEndpoint
  corruptEvery : Option Nat
  sent : Nat := 0
  generator : PayloadGenerator

/-- One more message on a 32-bit count, which aborts when it overflows. -/
def countOne (sent : Nat) : Checked Nat :=
  if sent + 1 < 4294967296 then .ok (sent + 1) else .error (.overflow .add)

/-- **Send one message** of `size` fresh random bytes; with `--corrupt-every k`
every `k`-th message has the byte at a random offset flipped after its digest
is taken.  A failure is reported under `context`. -/
def Sender.send (s : Sender) (sequence : UInt32) (size : Nat) (context : String) :
    CommandM (MessageReport × Sender) := do
  let sent ← checked (countOne s.sent)
  let corrupt := s.corruptEvery.any fun k => sent % k == 0
  let (offset, generator) := s.generator.corruptionOffset size.toUInt64
  let (payload, generator) := generator.fill size
  let change : Option HostEndpoint.Corruption := if corrupt then some (.flip offset.toNat 0xFF) else none
  let (r, host) ← endpoint (HostEndpoint.sendWith sequence payload change) s.host
  match r with
  | .ok report => pure (report, { s with host, sent, generator })
  | .error e => fail ((Failure.ofProtocol e).context context)

/-- **A CSV file being written**: its path and its text so far. -/
structure CsvFile where
  path : String
  text : String

/-- Create a CSV file in `dir`, making the directory first; its header is the
first line. -/
def CsvFile.create (dir name header : String) : CommandM CsvFile := do
  let fs ← orFail ((← files).makeDirs dir) Failure.ofReport
  let path := Files.join dir name
  setFiles (← orFail (fs.writeFile path ByteArray.empty) Failure.ofReport)
  pure ⟨path, header ++ "\n"⟩

/-- Add a row, which carries its own line end. -/
def CsvFile.push (c : CsvFile) (row : String) : CsvFile := { c with text := c.text ++ row }

/-- Write the file out; its path. -/
def CsvFile.finish (c : CsvFile) : CommandM String := do
  setFiles (← orFail ((← files).writeFile c.path c.text.toUTF8) Failure.ofReport)
  pure c.path

/-- Two decimals. -/
def twoPlaces (x : Float) : String := Decimal.fixedText 2 x

/-- The line of a delivered latency message. -/
def latencyLine (i : Nat) (r : LatencyRecord) : String :=
  let f := LatencyMetrics.formatLatency
  "[" ++ Layout.right 4 (toString i) ++ "] write " ++ f r.writeNs ++ " | round trip " ++ f r.roundtripNs ++
    " | notification " ++ f r.notificationEstNs ++ " | total " ++ f r.totalNs

/-- **A test under way**: the sender, the CSV file being written, the records
so far, and the messages that succeeded. -/
structure TestRun (ρ : Type) where
  sender : Sender
  csv : CsvFile
  records : Array ρ := #[]
  successes : Nat := 0

/-- **One latency message**: send iteration `i` of `count`, print its line when
it failed or `shouldPrint` picks it, and record it. -/
def latencyStep (size count : Nat) (t : TestRun LatencyRecord) (i : Nat) :
    CommandM (TestRun LatencyRecord) := do
  let sequence := MessageKind.latency.sequence i.toUInt32
  let (report, sender) ← t.sender.send sequence size ("Latency message " ++ toString sequence ++ " failed")
  let record := LatencyRecord.ofReport i.toUInt32 report
  let mut successes := t.successes
  if record.success then
    successes := successes + 1
    if shouldPrint (successes - 1) count then say (latencyLine i record)
  else
    say ("[" ++ Layout.right 4 (toString i) ++ "] FAILED: " ++ record.outcome ++ " (error code " ++
      toString record.errorCode ++ ")")
  pure { sender, csv := t.csv.push record.row, records := t.records.push record, successes }

/-- **The latency test**: `count` messages of the 4K frame; the records. -/
def runLatency (s : Sender) (count : Nat) (dir : String) : CommandM (List LatencyRecord × Sender) := do
  let frame := FrameSpec.latency
  let size := (← checked frame.size).toNat
  let mb := twoPlaces (← checked frame.sizeMb)
  say ("--- Latency test: " ++ toString count ++ " x " ++ frame.name ++ " (" ++ mb ++ " MB) ---")
  let csv ← CsvFile.create dir "latency_results.csv" LatencyRecord.header
  let t ← (List.range count).foldlM (latencyStep size count) { sender := s, csv }
  let path ← t.csv.finish
  say ""
  match ← checked (OverheadBreakdown.ofRecords t.records.toList) with
  | some b => print b.render
  | none => say "No latency message succeeded"
  say ("Latency results: " ++ path)
  say ""
  pure (t.records.toList, t.sender)

/-- The line of one bandwidth message. -/
def bandwidthLine (i : Nat) (r : BandwidthRecord) : String :=
  let mbps (x : Float) := Layout.right 8 (Decimal.fixedText 0 x)
  if r.success then
    "  [" ++ Layout.right 3 (toString i) ++ "] write " ++ mbps r.writeMbps ++ " MB/s | read " ++
      mbps r.readMbps ++ " MB/s | total " ++ mbps r.totalMbps ++ " MB/s"
  else "  [" ++ Layout.right 3 (toString i) ++ "] FAILED (error code " ++ toString r.errorCode ++ ")"

/-- **One bandwidth message**: send iteration `i` of a frame of `size` bytes,
print its line, and record it. -/
def bandwidthStep (frame : FrameSpec) (size : Nat) (t : TestRun BandwidthRecord) (i : Nat) :
    CommandM (TestRun BandwidthRecord) := do
  let sequence := MessageKind.bandwidth.sequence i.toUInt32
  let (report, sender) ← t.sender.send sequence size (frame.name ++ " transfer " ++ toString i ++ " failed")
  let record := BandwidthRecord.ofReport i.toUInt32 frame report
  say (bandwidthLine i record)
  let row ← checked record.row
  pure { t with sender, csv := t.csv.push row, records := t.records.push record }

/-- **One bandwidth frame**: `iterations` messages of its size when it fits
`capacity`, nothing otherwise. -/
def frameStep (iterations capacity : Nat) (t : TestRun BandwidthRecord) (frame : FrameSpec) :
    CommandM (TestRun BandwidthRecord) := do
  if ← checked (frame.fits capacity.toUInt64) then
    let size := (← checked frame.size).toNat
    let mb := twoPlaces (← checked frame.sizeMb)
    say (frame.name ++ " (" ++ toString frame.width ++ "x" ++ toString frame.height ++ ", " ++ mb ++ " MB):")
    (List.range iterations).foldlM (bandwidthStep frame size) t
  else pure t

/-- **The bandwidth test**: `iterations` messages of every frame that fits
`capacity`; the records. -/
def runBandwidth (s : Sender) (iterations capacity : Nat) (dir : String) :
    CommandM (List BandwidthRecord × Sender) := do
  say ("--- Bandwidth test: " ++ toString iterations ++ " iterations per frame ---")
  let csv ← CsvFile.create dir "bandwidth_results.csv" BandwidthRecord.header
  let t ← FrameSpec.bandwidth.foldlM (frameStep iterations capacity) { sender := s, csv }
  let path ← t.csv.finish
  say ""
  print (renderBandwidth (BandwidthSummary.byFrame t.records.toList))
  say ("Bandwidth results: " ++ path)
  say ""
  pure (t.records.toList, t.sender)

/-- **The tests of a plan** over a channel of `capacity` bytes: the latency
test when its frame fits, then the bandwidth test; their results. -/
def runTests (s : Sender) (plan : TestPlan) (capacity : Nat) (dir : String) :
    CommandM (List BenchmarkResult × Sender) := do
  let (latency, s) ← match plan.latency with
    | some count =>
      if ← checked (FrameSpec.latency.fits capacity.toUInt64) then do
        let (records, s) ← runLatency s count dir
        pure (← checked (latencyResults records), s)
      else pure ([], s)
    | none => pure ([], s)
  let (bandwidth, s) ← match plan.bandwidth with
    | some iterations => do
      let (records, s) ← runBandwidth s iterations capacity dir
      pure (← checked (bandwidthResults records), s)
    | none => pure ([], s)
  pure (latency ++ bandwidth, s)

/-- The megabytes of a capacity, to two decimals. -/
def capacityMb (capacity : Nat) : String := twoPlaces (capacity.toFloat / mebibyte)

/-- **`host`**: initialize the channel, run the plan's tests, complete the run
and save the results. -/
def host (m : Machine) (g : Globals) (a : HostArgs) : CommandM Unit := do
  let config ← loadConfig g.config
  let plan := a.modes.plan
  let (path, channel) ← openChannel m a.transport config.transport a.create
  let capacity := channel.capacity
  let w ← mapRegion path channel
  let endpoint0 := HostEndpoint.new w .primary config.host (m.counters config.pipeline.hardwareCounters)
  let latencyCount ← checked (plan.latencyMessages capacity)
  let bandwidthCount ← checked (plan.bandwidthMessages capacity)
  say "=== ivmark host ==="
  say ("Region:    " ++ path)
  say ("Capacity:  " ++ toString capacity ++ " bytes (" ++ capacityMb capacity ++ " MB)")
  say ("Messages:  " ++ toString latencyCount ++ " latency, " ++ toString bandwidthCount ++ " bandwidth")
  say ""
  let (r, e) ← endpoint HostEndpoint.prepare endpoint0
  orFail r Failure.ofProtocol
  say "Waiting for guest..."
  let (ready, e) ← endpoint HostEndpoint.waitForGuest e
  if !(ready.toOption.getD false) then say "Guest not ready, proceeding anyway"
  let sender : Sender := { host := e, corruptEvery := a.corruptEvery, generator := .ofKey m.entropy }
  let (results, s) ← runTests sender plan capacity a.outputDir
  let (r, _) ← endpoint HostEndpoint.shutdown s.host
  orFail r Failure.ofProtocol
  if !results.isEmpty then
    let report : BenchmarkReport := { timestamp := m.stamp, results }
    let (file, fs) ← orFail (report.save (← files) a.outputDir m.stamp) Failure.ofReport
    setFiles fs
    say ("JSON report: " ++ file)
  say "=== Host finished ==="

/-- Short runs print every message. -/
theorem shouldPrint_short (index total : Nat) (h : total ≤ 10) : shouldPrint index total = true := by
  simp [shouldPrint, h]

end Cli
end ShmBench

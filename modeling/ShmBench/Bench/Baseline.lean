import ShmBench.Bench.Metrics
import ShmBench.Bench.Harness
import ShmBench.Region
import ShmBench.Text.Format

/-!
# Memory reference numbers

The channel's figures only mean something next to what plain memory does on
the same machine.  The baseline reads and copies one frame-sized buffer, on
the heap and in a shared mapping, five ways:

* `stride-64 cold`: one load per cache line after a flush;
* `byte-by-byte cold` and `byte-by-byte hot`: every byte summed, after a
  flush or with the buffer warm;
* `memcpy cold` and `memcpy hot`: a copy into a private buffer.

Each test runs under the harness with one warm-up run; its setup flushes the
buffer for a cold test and warms it for a hot one, so the state the harness
carries is whether the buffer is in cache (`BaselineTest.elapsed`).  The shared
mapping skips the hot byte sum, and is skipped entirely when a region of the
buffer's size cannot be made.

A result is reported as a table row (`renderTable`) and as a benchmark result
of category `baseline` whose throughput is the buffer moved in the mean time
(`BaselineResult.toResult`).
-/

namespace ShmBench

/-- **A baseline test.** -/
inductive BaselineTest where
  | stride64Cold
  | byteCold
  | byteHot
  | memcpyCold
  | memcpyHot
  deriving DecidableEq, Repr, Inhabited

namespace BaselineTest

/-- The tests run on the heap. -/
def heap : List BaselineTest := [.stride64Cold, .byteCold, .byteHot, .memcpyCold, .memcpyHot]

/-- The tests run on the shared mapping. -/
def shm : List BaselineTest := [.stride64Cold, .byteCold, .memcpyCold, .memcpyHot]

example : heap.length = 5 ∧ shm.length = 4 := ⟨rfl, rfl⟩

/-- The test's label. -/
def label : BaselineTest → String
  | .stride64Cold => "stride-64 cold"
  | .byteCold => "byte-by-byte cold"
  | .byteHot => "byte-by-byte hot"
  | .memcpyCold => "memcpy cold"
  | .memcpyHot => "memcpy hot"

/-- What the test measures, for the table. -/
def notes : BaselineTest → String
  | .stride64Cold => "one load per line, prefetch-bound"
  | .byteCold | .byteHot => "every byte summed"
  | .memcpyCold | .memcpyHot => "copy into private heap"

/-- Whether the buffer is flushed before each run. -/
def isCold : BaselineTest → Bool
  | .stride64Cold | .byteCold | .memcpyCold => true
  | .byteHot | .memcpyHot => false

/-- The test with a label. -/
def ofLabel? (s : String) : Option BaselineTest := heap.find? (·.label == s)

/-- How long one run takes on `len` bytes, cached or not. -/
def elapsed (t : BaselineTest) (len : Nat) (cached : Bool) : Nat :=
  let miss := if cached then 0 else 6 * Cost.lines len
  match t with
  | .stride64Cold => if cached then Cost.touchWarm len else Cost.touchCold len
  | .byteCold | .byteHot => 20 + len / 2 + miss
  | .memcpyCold | .memcpyHot => Cost.copy len + miss

end BaselineTest

/-- **Where the buffer lives.** -/
inductive MemoryKind where
  | heap
  | shm
  deriving DecidableEq, Repr, Inhabited

/-- The kind as a table shows it. -/
def MemoryKind.display : MemoryKind → String
  | .heap => "Heap"
  | .shm => "SHM"

/-- The kind's lowercase name. -/
def MemoryKind.name : MemoryKind → String
  | .heap => "heap"
  | .shm => "shm"

/-- **One row of the baseline.** -/
structure BaselineResult where
  test : BaselineTest
  memory : MemoryKind
  bytes : Nat
  latency : LatencyMetrics

namespace BaselineResult

/-- The row's name: where, then what. -/
def name (r : BaselineResult) : String := r.memory.display ++ " " ++ r.test.label

/-- The mean time in milliseconds. -/
def meanMs (r : BaselineResult) : Float := r.latency.meanNs / 1000000

/-- Mebibytes per second at the mean time. -/
def mbPerSec (r : BaselineResult) : Float := ShmBench.mbPerSec r.bytes.toUInt64 r.latency.meanNs.toUInt64

/-- Gibibytes per second at the mean time. -/
def gbPerSec (r : BaselineResult) : Float := r.mbPerSec / 1024

/-- The row as stored: test, memory, size and statistics. -/
def toJson (r : BaselineResult) : Json :=
  .obj [("test", .str r.test.label), ("memory", .str r.memory.name), ("bytes", .nat r.bytes),
    ("latency", r.latency.toJson)]

/-- The result's name: `baseline_`, the memory, and the label with spaces and
dashes as underscores. -/
def resultName (r : BaselineResult) : String :=
  "baseline_" ++ r.memory.name ++ "_" ++
    String.ofList (r.test.label.toList.map fun c => if c == '-' || c == ' ' then '_' else c)

/-- **The row as a benchmark result**, over the samples it kept. -/
def toResult (r : BaselineResult) : Checked BenchmarkResult := do
  let res ← BenchmarkResult.ofLatency r.resultName .baseline (r.latency.samples.getD []) true
  pure ((((res.withThroughput r.bytes.toUInt64).withMetadata "memory" (.str r.memory.name)).withMetadata
    "bytes" (.nat r.bytes)).withMetadata "notes" (.str r.test.notes))

end BaselineResult

/-- **The console table**: a header, a rule, and one line per row. -/
def renderTable (results : List BaselineResult) : String :=
  let header := Layout.left 30 "Test" ++ " " ++ Layout.right 11 "Time" ++ " " ++ Layout.right 13 "Bandwidth" ++
    " " ++ Layout.right 11 "" ++ " Notes\n"
  let rule := String.ofList (List.replicate 90 '-') ++ "\n"
  let line (r : BaselineResult) :=
    Layout.left 30 r.name ++ " " ++ Layout.right 8 (Decimal.fixedText 2 r.meanMs) ++ " ms " ++
      Layout.right 8 (Decimal.fixedText 2 r.mbPerSec) ++ " MB/s " ++
      Layout.right 6 (Decimal.fixedText 2 r.gbPerSec) ++ " GB/s " ++ r.test.notes ++ "\n"
  header ++ rule ++ String.join (results.map line)

/-- **Baseline settings**: the buffer size (one 4K frame), the measured runs,
and whether the shared mapping is tried. -/
structure BaselineConfig where
  size : Nat := 3840 * 2160 * 3
  iterations : Nat := 10
  includeShm : Bool := true
  deriving DecidableEq, Repr, Inhabited

/-- Run `tests` on a buffer of `bytes` in `memory`. -/
def runTests (h : BenchmarkHarness) (memory : MemoryKind) (tests : List BaselineTest) (bytes : Nat) :
    Checked (List BaselineResult) :=
  tests.mapM fun t => do
    let (_, samples) := h.run false (fun _ => !t.isCold) (fun _ => true) (t.elapsed bytes)
    pure ⟨t, memory, bytes, ← LatencyMetrics.ofSamples samples true⟩

/-- **Run the baseline**: every heap test, then every shared-mapping test when
a region of the buffer's size can be made. -/
def runBaseline (c : BaselineConfig) : Checked (List BaselineResult) := do
  let h : BenchmarkHarness := { warmup := 1, iterations := c.iterations }
  let heap ← runTests h .heap BaselineTest.heap c.size
  if !c.includeShm then return heap
  match Region.validateSize "ivmark-baseline" c.size with
  | .ok _ => pure (heap ++ (← runTests h .shm BaselineTest.shm c.size))
  | .error _ => pure heap

end ShmBench

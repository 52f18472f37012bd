import ShmBench.Fault
import ShmBench.Json.Read
import ShmBench.Text.Decimal
import ShmBench.Bench.Frames
import ShmBench.Rounding

/-!
# Benchmark metrics

`LatencyMetrics.ofSamples` summarizes a list of durations: minimum, maximum,
mean, median (the element at `len / 2` of the sorted list), the 95th and 99th
percentiles (at `⌊len · 0.95⌋` and `⌊len · 0.99⌋` computed in binary64, capped
at the last index) and the population standard deviation.  The sum is taken in 64 bits and an
overflow is a fault.  The sorted samples are kept on request, thinned to every
`len / 1000`-th one beyond 10 000 samples.

Throughput is mebibytes per second, and zero for a zero duration.  A
`BenchmarkResult` bundles the metrics of one measurement with free-form
metadata, and a `BenchmarkReport` gathers results for the JSON report.
-/

namespace ShmBench

/-- **What a result measures.** -/
inductive BenchmarkCategory where
  | latency
  | bandwidth
  | baseline
  deriving DecidableEq, Repr, Inhabited

namespace BenchmarkCategory

/-- The category's name. -/
def name : BenchmarkCategory → String
  | .latency => "latency"
  | .bandwidth => "bandwidth"
  | .baseline => "baseline"

/-- All categories. -/
def all : List BenchmarkCategory := [.latency, .bandwidth, .baseline]

/-- The category a name stands for. -/
def ofName? (s : String) : Option BenchmarkCategory := all.find? (·.name == s)

end BenchmarkCategory

/-- **Latency statistics** of a list of durations, in nanoseconds. -/
structure LatencyMetrics where
  minNs : UInt64
  maxNs : UInt64
  meanNs : Float
  medianNs : UInt64
  p95Ns : UInt64
  p99Ns : UInt64
  stdDevNs : Float
  samples : Option (List UInt64)
  deriving Inhabited

namespace LatencyMetrics

/-- The statistics of no samples: all zero. -/
def empty : LatencyMetrics := ⟨0, 0, 0, 0, 0, 0, 0, none⟩

/-- Every `step`-th element, starting with the first. -/
def everyNth (step : Nat) (xs : List UInt64) : List UInt64 :=
  (xs.zipIdx.filter fun (_, i) => i % step == 0).map (·.1)

/-- The index `⌊len · q⌋` computed in binary64 (`Rounding.scaledFloor`), capped
at the last index; the fraction `q` is given by its significand over `2^53`. -/
def quantileIndex (len q : Nat) : Nat :=
  min (Rounding.scaledFloor len q) (len - 1)

/-- **Summarize samples.** -/
def ofSamples (samples : List UInt64) (keepRaw : Bool) : Checked LatencyMetrics := do
  if samples.isEmpty then return empty
  let sorted := samples.mergeSort (· ≤ ·)
  let len := sorted.length
  let sum ← UInt64.sumChecked sorted
  let n := Float.ofNat len
  let mean := sum.toFloat / n
  let at_ (i : Nat) : UInt64 := sorted.getD i 0
  let variance := (sorted.foldl (fun acc x => let d := x.toFloat - mean; acc + d * d) 0) / n
  let raw := if keepRaw then some (if len > 10000 then everyNth (len / 1000) sorted else sorted)
    else none
  pure { minNs := at_ 0, maxNs := at_ (len - 1), meanNs := mean, medianNs := at_ (len / 2),
         p95Ns := at_ (quantileIndex len (Rounding.fraction 95 100)),
         p99Ns := at_ (quantileIndex len (Rounding.fraction 99 100)),
         stdDevNs := variance.sqrt, samples := raw }

/-- The JSON form. -/
def toJson (m : LatencyMetrics) : Json :=
  .obj ([("min_ns", .word m.minNs), ("max_ns", .word m.maxNs), ("mean_ns", .float m.meanNs),
    ("median_ns", .word m.medianNs), ("p95_ns", .word m.p95Ns), ("p99_ns", .word m.p99Ns),
    ("std_dev_ns", .float m.stdDevNs)] ++
    (m.samples.map fun s => [("samples", Json.arr (s.map .word))]).getD [])

/-- **A duration for people**: nanoseconds below a microsecond, otherwise two
decimals of the largest unit that keeps the number at least one. -/
def formatLatency (ns : UInt64) : String :=
  let x := ns.toFloat
  if ns < 1000 then s!"{ns}ns"
  else if ns < 1000000 then Decimal.fixedText 2 (x / 1000) ++ "μs"
  else if ns < 1000000000 then Decimal.fixedText 2 (x / 1000000) ++ "ms"
  else Decimal.fixedText 2 (x / 1000000000) ++ "s"

end LatencyMetrics

/-- **Mebibytes per second** of `bytes` moved in `durationNs`; zero for no time. -/
def mbPerSec (bytes durationNs : UInt64) : Float :=
  if durationNs = 0 then 0 else (bytes.toFloat / mebibyte) / (durationNs.toFloat / 1e9)

/-- **A throughput measurement.** -/
structure ThroughputMetrics where
  bytes : UInt64
  durationNs : UInt64
  mbPerSec : Float
  deriving Inhabited

namespace ThroughputMetrics

/-- The throughput of `bytes` in `durationNs`. -/
def calculate (bytes durationNs : UInt64) : ThroughputMetrics :=
  ⟨bytes, durationNs, ShmBench.mbPerSec bytes durationNs⟩

/-- Gibibytes per second. -/
def gbPerSec (t : ThroughputMetrics) : Float := t.mbPerSec / 1024

/-- The JSON form. -/
def toJson (t : ThroughputMetrics) : Json :=
  .obj [("bytes", .word t.bytes), ("duration_ns", .word t.durationNs), ("mb_per_sec", .float t.mbPerSec)]

end ThroughputMetrics

/-- **One benchmark result.** -/
structure BenchmarkResult where
  name : String
  category : BenchmarkCategory
  latency : Option LatencyMetrics
  throughput : Option ThroughputMetrics
  iterations : UInt64
  /-- Free-form values; a key set twice keeps its last value. -/
  metadata : List (String × Json)
  deriving Inhabited

namespace BenchmarkResult

/-- **A latency result** over `samples`. -/
def ofLatency (name : String) (category : BenchmarkCategory) (samples : List UInt64)
    (keepRaw : Bool) : Checked BenchmarkResult := do
  pure ⟨name, category, some (← LatencyMetrics.ofSamples samples keepRaw), none,
    samples.length.toUInt64, []⟩

/-- Add the throughput of `bytes` moved in the mean latency. -/
def withThroughput (r : BenchmarkResult) (bytes : UInt64) : BenchmarkResult :=
  match r.latency with
  | some l => { r with throughput := some (ThroughputMetrics.calculate bytes l.meanNs.toUInt64) }
  | none => r

/-- Set a metadata value. -/
def withMetadata (r : BenchmarkResult) (key : String) (value : Json) : BenchmarkResult :=
  if r.metadata.any (·.1 == key) then
    { r with metadata := r.metadata.map fun (k, v) => if k == key then (k, value) else (k, v) }
  else { r with metadata := r.metadata ++ [(key, value)] }

/-- The JSON form: absent metrics and empty metadata are left out. -/
def toJson (r : BenchmarkResult) : Json :=
  .obj ([("name", .str r.name), ("category", .str r.category.name)] ++
    (r.latency.map fun l => [("latency", l.toJson)]).getD [] ++
    (r.throughput.map fun t => [("throughput", t.toJson)]).getD [] ++
    [("iterations", .word r.iterations)] ++
    (if r.metadata.isEmpty then [] else [("metadata", .obj r.metadata)]))

end BenchmarkResult

/-- The members of a frame description. -/
def FrameSpec.fields (f : FrameSpec) : List (String × Json) :=
  [("name", .str f.name), ("width", .word f.width), ("height", .word f.height),
   ("bytes_per_pixel", .word f.bytesPerPixel)]

/-- The JSON form of a frame. -/
def FrameSpec.toJson (f : FrameSpec) : Json := .obj f.fields

/-- A frame: the name of a standard one, or its members (three bytes per
pixel unless given). -/
def FrameSpec.ofJson (v : Json) : Except String FrameSpec :=
  match v with
  | .str n => match FrameSpec.ofName? n with
    | some f => pure f
    | none => throw s!"unknown frame {n}"
  | _ => do
    pure { name := ← v.strAt "name" "", width := ← v.u64At "width", height := ← v.u64At "height",
           bytesPerPixel := ← v.u64At "bytes_per_pixel" 3 }

/-- The categories by name. -/
def BenchmarkCategory.variants : List (String × BenchmarkCategory) :=
  BenchmarkCategory.all.map fun c => (c.name, c)

end ShmBench

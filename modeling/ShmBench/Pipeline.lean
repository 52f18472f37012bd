import ShmBench.Counter.Source
import ShmBench.Channel.Wire
import ShmBench.Digest
import ShmBench.Message
import ShmBench.Bench.Harness

/-!
# The measurement pipeline

The guest runs every received payload through fixed phases:

1. touch the payload once to warm it, then start the counters;
2. **hot read**: touch one byte of every cache line;
3. flush the payload from the cache (when flushing is on);
4. **cold read**: touch it again;
5. flush again, grow the private buffer to the payload's length, **copy** the
   payload over its first bytes, and stop the counters;
6. **verify** the copied bytes against the expected digest.

The private buffer is kept from run to run: it grows to the longest payload so
far and never shrinks.  Growing asks a reservation (`MeasurementPipeline.reserve`),
which may refuse for any reason: the standard one refuses a length past the
allocation limit, and an allocator with no memory refuses too.  When it is
refused the run stops the counters and reports `AllocationFailed` with no
verdict, the copy and the verification skipped and the buffer as it was.

Each phase that ran took at least one nanosecond, and a skipped phase is zero.
A mismatch is the result code `IntegrityMismatch`; counting never decides success.
-/

namespace ShmBench

/-- **Pipeline settings.** -/
structure PipelineConfig where
  hardwareCounters : Bool := true
  flushCache : Bool := true
  deriving DecidableEq, Repr, Inhabited

/-- **What one run reports.** -/
structure PipelineReport where
  timings : PhaseTimings
  counters : CounterReport
  error : ResultCode
  verdict : Option Verdict
  deriving Inhabited

/-- The most bytes one allocation may hold, `isize::MAX`. -/
def allocationLimit : Nat := 9223372036854775807

/-- **The limit check of an exact reservation**, as the standard growable
buffer makes it: room for `additional` more bytes in a buffer of `len` is
refused when the new length passes the allocation limit.  Whether the
allocator then has the memory is not decided here: a pipeline whose allocator
refuses is one with another `reserve`, and no statement about pipelines
assumes this one. -/
def reserveExact (len additional : Nat) : Bool := len + additional ≤ allocationLimit

/-- **A measurement pipeline**: a counter source, the flush setting, and the
private buffer payloads are copied into, with the reservation that grows it. -/
structure MeasurementPipeline where
  counters : CounterSource
  flushCache : Bool
  /-- The private buffer; it only grows. -/
  copy : ByteArray := ByteArray.empty
  /-- Whether a buffer of the first length may grow by the second. -/
  reserve : Nat → Nat → Bool := reserveExact
  deriving Inhabited

namespace MeasurementPipeline

/-- A pipeline over `counters` with the given settings and an empty buffer. -/
def new (counters : CounterSource) (config : PipelineConfig) : MeasurementPipeline :=
  { counters, flushCache := config.flushCache }

/-- Whether the counters produce real counts. -/
def countersAvailable (p : MeasurementPipeline) : Bool := p.counters.isAvailable

/-- Release the counters. -/
def close (p : MeasurementPipeline) : MeasurementPipeline := { p with counters := p.counters.close }

/-- A duration in whole nanoseconds as a word: at least one, and the largest
word when it does not fit. -/
def atLeastOne (n : Nat) : UInt64 :=
  if n < UInt64.size then (max n 1).toUInt64 else 0xFFFFFFFFFFFFFFFF

/-- A measured duration is never zero. -/
theorem atLeastOne_pos (n : Nat) : 0 < atLeastOne n := by
  unfold atLeastOne
  split
  · rename_i h
    have hs : UInt64.size = 18446744073709551616 := rfl
    have h1 : max n 1 < UInt64.size := by omega
    rw [UInt64.lt_iff_toNat_lt, Nat.toUInt64, UInt64.toNat_ofNat_of_lt' h1]
    simp only [UInt64.toNat_zero]
    omega
  · decide

/-- **Grow the private buffer** to hold `len` bytes, the new bytes zero; `none`
when the reservation is refused.  A buffer already long enough is kept. -/
def growCopy (p : MeasurementPipeline) (len : Nat) : Option ByteArray :=
  if len ≤ p.copy.size then some p.copy
  else if p.reserve p.copy.size (len - p.copy.size) then
    some (p.copy ++ ⟨Array.replicate (len - p.copy.size) 0⟩)
  else none

/-- **Run a payload through the phases**: the report, the pipeline afterwards, and
the time the run took in nanoseconds. -/
def run (p : MeasurementPipeline) (payload : ByteArray) (expected : Digest) :
    PipelineReport × MeasurementPipeline × Nat :=
  let len := payload.size
  let flush := if p.flushCache then Cost.flush len else 0
  let hot := Cost.touchWarm len
  let cold := if p.flushCache then Cost.touchCold len else Cost.touchWarm len
  let (report, counters) := p.counters.start.stop len.toUInt64
  -- warming, starting the counters, both reads and both flushes
  let reads := Cost.touchWarm len + Cost.counters + hot + flush + cold + flush
  match p.growCopy len with
  | none =>
    let total := reads + Cost.counters
    let timings : PhaseTimings :=
      { hotReadNs := atLeastOne hot, coldReadNs := atLeastOne cold, totalNs := atLeastOne total }
    (⟨timings, report, .allocationFailed, none⟩, { p with counters }, total)
  | some buffer =>
    let copy := payload.copySlice 0 buffer 0 len
    let verdict := Digest.verify (copy.extract 0 len) expected
    let total := reads + Cost.copy len + Cost.counters + Cost.hash len
    let timings : PhaseTimings :=
      { hotReadNs := atLeastOne hot, coldReadNs := atLeastOne cold,
        copyNs := atLeastOne (Cost.copy len), verifyNs := atLeastOne (Cost.hash len),
        totalNs := atLeastOne total }
    let error := if verdict.isMatch then ResultCode.none else ResultCode.integrityMismatch
    (⟨timings, report, error, some verdict⟩, { p with counters, copy }, total)

/-- Every phase of a run whose buffer grows is reported as having run. -/
theorem run_allPhasesRan (p : MeasurementPipeline) (payload : ByteArray) (expected : Digest)
    (h : (p.growCopy payload.size).isSome) :
    (p.run payload expected).1.timings.allPhasesRan = true := by
  obtain ⟨buffer, hb⟩ := Option.isSome_iff_exists.1 h
  simp only [run, hb, PhaseTimings.allPhasesRan, atLeastOne_pos, Bool.and_true, decide_true]

end MeasurementPipeline

/-- Reading one byte of every cache line: the exclusive-or of bytes `0, 64, 128, …`. -/
def cacheTouch (data : ByteArray) : UInt8 :=
  (List.range ((data.size + cacheLineSizeBytes - 1) / cacheLineSizeBytes)).foldl
    (fun acc i => acc ^^^ data.get! (i * cacheLineSizeBytes)) 0
where
  cacheLineSizeBytes : Nat := 64

/-- Flushing evicts lines on this target. -/
def flushSupported : Bool := true

end ShmBench

/-!
# The measuring harness

A harness runs an operation a number of times after some warm-up runs, and
records how long each measured run took.  Before every run, warm-up or not, a
setup step prepares the state (flushes a cache, say); the setup is not timed.

`BenchmarkHarness.run` is that loop over an explicit state: the setup and the
operation are state changes, and `elapsed` says how long the operation took
on the state it ran on.  A duration is kept in 64 bits and recorded as at
least one nanosecond, as a clock that ticks in nanoseconds reports a run that
finished within its tick (`measured_pos`).

The calls alternate, setup first (`s`, `o`, `s`, `o`, ...), one pair per
warm-up run and per measured run (`BenchmarkHarness.calls`), and there is one sample per measured
run (`measured_length`).

The time an operation takes, in the baseline measurements and in the
simulated endpoints alike, comes from one cost model (`Cost`).
-/

/-! ## The time operations take

Measured durations depend on the machine; the simulated endpoints take them
from this cost model instead.  Every cost is a fixed part plus a part
proportional to the bytes handled, in nanoseconds, and every cost is at
least one nanosecond, so a phase that ran is never reported as skipped.

The figures are those of a current x86-64 core: SHA-256 at about 400 MB/s,
copies at 8 bytes per nanosecond, one cache line touched every 2 ns when warm
and every 8 ns when cold or flushed. -/

namespace ShmBench
namespace Cost

/-- Cache lines in `len` bytes, counting a partial line. -/
def lines (len : Nat) : Nat := (len + 63) / 64

/-- Digesting `len` bytes. -/
def hash (len : Nat) : Nat := 500 + len * 5 / 2

/-- Copying `len` bytes. -/
def copy (len : Nat) : Nat := 100 + len / 8

/-- Reading one byte of every cache line of warm data. -/
def touchWarm (len : Nat) : Nat := 20 + 2 * lines len

/-- Reading one byte of every cache line of flushed data. -/
def touchCold (len : Nat) : Nat := 20 + 8 * lines len

/-- Flushing every cache line and waiting for the evictions. -/
def flush (len : Nat) : Nat := 50 + 8 * lines len

/-- Starting or stopping a counter set. -/
def counters : Nat := 200

/-- The bookkeeping around one protocol operation. -/
def step : Nat := 500

/-- Starting a worker thread. -/
def spawn : Nat := 50000

/-- The interval at which the driver thread checks the guest's state. -/
def syncInterval : Nat := 100000

/-- How long a sleeping poller takes to notice a change: its interval, or a
short spin when it does not sleep. -/
def wake (intervalNs : Nat) : Nat := if intervalNs = 0 then 50 else intervalNs

/-- Every cost is positive. -/
theorem hash_pos (len : Nat) : 0 < hash len := by unfold hash; omega

theorem copy_pos (len : Nat) : 0 < copy len := by unfold copy; omega

end Cost

/-- **A harness**: warm-up runs, then measured runs. -/
structure BenchmarkHarness where
  warmup : Nat := 1
  iterations : Nat := 10
  deriving DecidableEq, Repr, Inhabited

namespace BenchmarkHarness

/-- A duration as recorded: its 64-bit word, and one for a run within the tick. -/
def sample (ns : Nat) : UInt64 :=
  if ns.toUInt64 = 0 then 1 else ns.toUInt64

/-- One measured run: prepare, then time the operation. -/
def measure {σ : Type} (setup operation : σ → σ) (elapsed : σ → Nat) (s : σ) : σ × UInt64 :=
  let s := setup s
  (operation s, sample (elapsed s))

/-- A recorded duration is positive. -/
theorem sample_pos (ns : Nat) : 0 < (sample ns).toNat := by
  unfold sample
  split
  · decide
  · rename_i h
    have : ns.toUInt64.toNat ≠ 0 := fun h' => h (UInt64.toNat_inj.mp (by simpa using h'))
    omega

/-- `n` measured runs from `s`, with their samples in order. -/
def measured {σ : Type} (setup operation : σ → σ) (elapsed : σ → Nat) : Nat → σ → σ × List UInt64
  | 0, s => (s, [])
  | n + 1, s =>
    let (s, x) := measure setup operation elapsed s
    let (s, xs) := measured setup operation elapsed n s
    (s, x :: xs)

/-- `n` warm-up runs: setup and operation, untimed. -/
def warm {σ : Type} (setup operation : σ → σ) : Nat → σ → σ
  | 0, s => s
  | n + 1, s => warm setup operation n (operation (setup s))

/-- **Run the harness**: the warm-up runs, then the measured ones; the final
state and one sample per measured run. -/
def run {σ : Type} (h : BenchmarkHarness) (s : σ) (setup operation : σ → σ) (elapsed : σ → Nat) :
    σ × List UInt64 :=
  measured setup operation elapsed h.iterations (warm setup operation h.warmup s)

/-- The calls a run makes, in order: `s` for a setup, `o` for an operation. -/
def calls (h : BenchmarkHarness) : List Char :=
  (List.replicate (h.warmup + h.iterations) ['s', 'o']).flatten

/-- The first `n` calls of a run, without listing the rest. -/
def callsPrefix (h : BenchmarkHarness) (n : Nat) : List Char :=
  (List.range (min n (2 * (h.warmup + h.iterations)))).map fun i => if i % 2 = 0 then 's' else 'o'

/-- There is one sample per measured run. -/
theorem measured_length {σ : Type} (setup operation : σ → σ) (elapsed : σ → Nat) (n : Nat) (s : σ) :
    (measured setup operation elapsed n s).2.length = n := by
  induction n generalizing s with
  | zero => rfl
  | succ n ih => simp [measured, ih]

/-- Every sample is at least one nanosecond. -/
theorem measured_pos {σ : Type} (setup operation : σ → σ) (elapsed : σ → Nat) (n : Nat) (s : σ) :
    ∀ x ∈ (measured setup operation elapsed n s).2, 0 < x.toNat := by
  induction n generalizing s with
  | zero => simp [measured]
  | succ n ih =>
    intro x hx
    simp only [measured, List.mem_cons] at hx
    rcases hx with h | h
    · subst h
      exact sample_pos _
    · exact ih _ x h

end BenchmarkHarness
end ShmBench

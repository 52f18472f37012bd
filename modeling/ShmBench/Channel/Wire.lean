import ShmBench.Counter.Report

/-!
# Results as they cross the channel

No float crosses the channel: a rate is stored as an unsigned 32-bit count of
ten-thousandths (`Fixed.encode`), with NaN and nonpositive rates stored as
zero and rates beyond the range stored as the largest word.  Counts and
durations cross unchanged, so decoding the encoding of a timing record gives
back its five durations and ten counts exactly (`decodeTiming_encodeTiming_phases`,
`decodeCounters_encodeCounters_raw`).
-/

namespace ShmBench

namespace Fixed

/-- Ten thousand units make one. -/
def scale : Float := 10000.0

/-- **Encode a rate**: NaN and nonpositive values are zero, values beyond the
range saturate, the rest are rounded half away from zero. -/
def encode (value : Float) : UInt32 :=
  if value.isNaN || value ≤ 0 then 0
  else
    let scaled := (value * scale).round
    if scaled ≥ 4294967295.0 then 0xFFFFFFFF else scaled.toUInt32

/-- Decode a stored rate. -/
def decode (raw : UInt32) : Float := raw.toFloat / scale

end Fixed

/-- **Phase durations** in nanoseconds on the guest clock; a phase that ran
took at least one nanosecond, and zero means it was skipped. -/
structure PhaseTimings where
  hotReadNs : UInt64 := 0
  coldReadNs : UInt64 := 0
  copyNs : UInt64 := 0
  verifyNs : UInt64 := 0
  totalNs : UInt64 := 0
  deriving DecidableEq, Repr, Inhabited

namespace PhaseTimings

/-- Whether all four measured phases ran. -/
def allPhasesRan (p : PhaseTimings) : Bool :=
  p.hotReadNs > 0 && p.coldReadNs > 0 && p.copyNs > 0 && p.verifyNs > 0

/-- The sum of the four phases, stopping at the largest word. -/
def phaseSum (p : PhaseTimings) : UInt64 :=
  UInt64.saturatingAdd (UInt64.saturatingAdd (UInt64.saturatingAdd p.hotReadNs p.coldReadNs)
    p.copyNs) p.verifyNs

/-- The five durations with their field names. -/
def fields (p : PhaseTimings) : List (String × UInt64) :=
  [("hot_read_ns", p.hotReadNs), ("cold_read_ns", p.coldReadNs), ("copy_ns", p.copyNs),
   ("verify_ns", p.verifyNs), ("total_ns", p.totalNs)]

end PhaseTimings

/-- **Counter values as stored**: ten counts and five fixed-point rates. -/
structure CounterWire where
  raw : RawCounts := {}
  l1MissRate : UInt32 := 0
  llcMissRate : UInt32 := 0
  instructionsPerCycle : UInt32 := 0
  cyclesPerByte : UInt32 := 0
  tlbMissRate : UInt32 := 0
  deriving DecidableEq, Repr, Inhabited

/-- The five stored rates with their field names. -/
def CounterWire.rateFields (w : CounterWire) : List (String × UInt32) :=
  [("l1_miss_rate_x10000", w.l1MissRate), ("llc_miss_rate_x10000", w.llcMissRate),
   ("instructions_per_cycle_x10000", w.instructionsPerCycle),
   ("cycles_per_byte_x10000", w.cyclesPerByte), ("tlb_miss_rate_x10000", w.tlbMissRate)]

/-- **A timing record as stored**: five durations and the counters. -/
structure TimingWire where
  phases : PhaseTimings := {}
  counters : CounterWire := {}
  deriving DecidableEq, Repr, Inhabited

/-- What the guest reports for one message: its phases and counter report. -/
structure GuestTiming where
  phases : PhaseTimings := {}
  counters : CounterReport := {}
  deriving Inhabited

namespace Fixed

/-- The stored form of a counter report. -/
def encodeCounters (r : CounterReport) : CounterWire :=
  { raw := r.raw
    l1MissRate := encode r.l1MissRate
    llcMissRate := encode r.llcMissRate
    instructionsPerCycle := encode r.instructionsPerCycle
    cyclesPerByte := encode r.cyclesPerByte
    tlbMissRate := encode r.tlbMissRate }

/-- The report a stored counter record stands for. -/
def decodeCounters (w : CounterWire) : CounterReport :=
  { raw := w.raw
    l1MissRate := decode w.l1MissRate
    llcMissRate := decode w.llcMissRate
    instructionsPerCycle := decode w.instructionsPerCycle
    cyclesPerByte := decode w.cyclesPerByte
    tlbMissRate := decode w.tlbMissRate }

/-- The stored form of a guest timing. -/
def encodeTiming (phases : PhaseTimings) (counters : CounterReport) : TimingWire :=
  ⟨phases, encodeCounters counters⟩

/-- The guest timing a stored record stands for. -/
def decodeTiming (w : TimingWire) : GuestTiming :=
  ⟨w.phases, decodeCounters w.counters⟩

/-- Counts cross the channel unchanged. -/
theorem decodeCounters_encodeCounters_raw (r : CounterReport) :
    (decodeCounters (encodeCounters r)).raw = r.raw := rfl

/-- Durations cross the channel unchanged. -/
theorem decodeTiming_encodeTiming_phases (p : PhaseTimings) (c : CounterReport) :
    (decodeTiming (encodeTiming p c)).phases = p := rfl

end Fixed
end ShmBench

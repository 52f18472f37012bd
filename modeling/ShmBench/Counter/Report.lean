/-!
# Counter events and the report of one measured region

Nine events can be counted.  Three of them (`l1d-read-misses`, `cpu-cycles`,
`instructions`) are essential: without them a counter set is not opened.
`RawCounts` holds ten counts; L1 read accesses are also the load count, so
setting them fills two fields (`RawCounts.set`).

`CounterReport.derive` adds five rates, each a quotient of two counts that is
zero when its denominator is zero.
-/

namespace ShmBench

/-- **A countable event**, in the order a counter set opens them. -/
inductive HwEvent where
  | l1Misses
  | l1References
  | llcMisses
  | llcReferences
  | tlbMisses
  | cpuCycles
  | instructions
  | contextSwitches
  | memoryStores
  deriving DecidableEq, Repr, Inhabited

namespace HwEvent

/-- Every event, in opening order. -/
def all : List HwEvent :=
  [.l1Misses, .l1References, .llcMisses, .llcReferences, .tlbMisses, .cpuCycles,
   .instructions, .contextSwitches, .memoryStores]

/-- The event's name. -/
def name : HwEvent → String
  | .l1Misses => "l1d-read-misses"
  | .l1References => "l1d-read-accesses"
  | .llcMisses => "llc-read-misses"
  | .llcReferences => "llc-read-accesses"
  | .tlbMisses => "dtlb-read-misses"
  | .cpuCycles => "cpu-cycles"
  | .instructions => "instructions"
  | .contextSwitches => "context-switches"
  | .memoryStores => "memory-stores"

/-- The event a name stands for. -/
def ofName? (s : String) : Option HwEvent :=
  all.find? (fun e => e.name == s)

/-- Without these events a counter set is not opened. -/
def isEssential : HwEvent → Bool
  | .l1Misses | .cpuCycles | .instructions => true
  | _ => false

end HwEvent

/-- **Raw event counts** of one measured region. -/
structure RawCounts where
  l1CacheMisses : UInt64 := 0
  l1CacheReferences : UInt64 := 0
  llcMisses : UInt64 := 0
  llcReferences : UInt64 := 0
  memoryLoads : UInt64 := 0
  memoryStores : UInt64 := 0
  tlbMisses : UInt64 := 0
  cpuCycles : UInt64 := 0
  instructions : UInt64 := 0
  contextSwitches : UInt64 := 0
  deriving DecidableEq, Repr, Inhabited

namespace RawCounts

/-- All counts zero. -/
def zero : RawCounts := {}

/-- Store the count of `event`; L1 read accesses also set the load count. -/
def set (r : RawCounts) : HwEvent → UInt64 → RawCounts
  | .l1Misses, v => { r with l1CacheMisses := v }
  | .l1References, v => { r with l1CacheReferences := v, memoryLoads := v }
  | .llcMisses, v => { r with llcMisses := v }
  | .llcReferences, v => { r with llcReferences := v }
  | .tlbMisses, v => { r with tlbMisses := v }
  | .cpuCycles, v => { r with cpuCycles := v }
  | .instructions, v => { r with instructions := v }
  | .contextSwitches, v => { r with contextSwitches := v }
  | .memoryStores, v => { r with memoryStores := v }

/-- The ten counts with their field names, in layout order. -/
def fields (r : RawCounts) : List (String × UInt64) :=
  [("l1_cache_misses", r.l1CacheMisses), ("l1_cache_references", r.l1CacheReferences),
   ("llc_misses", r.llcMisses), ("llc_references", r.llcReferences),
   ("memory_loads", r.memoryLoads), ("memory_stores", r.memoryStores),
   ("tlb_misses", r.tlbMisses), ("cpu_cycles", r.cpuCycles),
   ("instructions", r.instructions), ("context_switches", r.contextSwitches)]

end RawCounts

/-- The sum of two words, stopping at the largest word. -/
def UInt64.saturatingAdd (a b : UInt64) : UInt64 :=
  if a.toNat + b.toNat < UInt64.size then a + b else 0xFFFFFFFFFFFFFFFF

/-- **A counter report**: raw counts and the rates derived from them. -/
structure CounterReport where
  raw : RawCounts := {}
  l1MissRate : Float := 0
  llcMissRate : Float := 0
  instructionsPerCycle : Float := 0
  cyclesPerByte : Float := 0
  /-- TLB misses per memory operation (loads plus stores). -/
  tlbMissRate : Float := 0
  deriving Inhabited

namespace CounterReport

/-- The all-zero report of a source that counts nothing. -/
def zeroed : CounterReport := {}

/-- A quotient of two counts, zero when the denominator is zero. -/
def ratio (num den : UInt64) : Float :=
  if den > 0 then num.toFloat / den.toFloat else 0

/-- **Derive the rates** of raw counts over `byteCount` bytes. -/
def derive (raw : RawCounts) (byteCount : UInt64) : CounterReport :=
  { raw
    l1MissRate := ratio raw.l1CacheMisses raw.l1CacheReferences
    llcMissRate := ratio raw.llcMisses raw.llcReferences
    instructionsPerCycle := ratio raw.instructions raw.cpuCycles
    cyclesPerByte := ratio raw.cpuCycles byteCount
    tlbMissRate := ratio raw.tlbMisses (UInt64.saturatingAdd raw.memoryLoads raw.memoryStores) }

/-- A report is zero when every raw count is. -/
def isZero (r : CounterReport) : Bool := r.raw == RawCounts.zero

/-- The five rates with their field names. -/
def rates (r : CounterReport) : List (String × Float) :=
  [("l1_miss_rate", r.l1MissRate), ("llc_miss_rate", r.llcMissRate),
   ("instructions_per_cycle", r.instructionsPerCycle), ("cycles_per_byte", r.cyclesPerByte),
   ("tlb_miss_rate", r.tlbMissRate)]

end CounterReport
end ShmBench

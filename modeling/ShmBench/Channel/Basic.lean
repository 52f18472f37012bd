import ShmBench.Channel.Header
import ShmBench.Region

/-!
# Shared memory and the channels that map it

`SharedMemory` is what both sides see: the header fields and the payload
area.  The payload area is kept as the prefix that has been written; every
byte beyond it is zero, as in a fresh mapping, so a region of 1 GiB costs
nothing until it is used.

A `Channel` is one side's mapping of that memory: its region (which fixes the
capacity, the region size less the header) and, when tracing is on, the list
of state-word writes made through it, each with the writer's name.
-/

namespace ShmBench

/-- **The memory both sides map.** -/
structure SharedMemory where
  header : Header := {}
  /-- The written prefix of the payload area; the rest is zero. -/
  payload : ByteArray := ByteArray.empty
  deriving Inhabited

namespace SharedMemory

/-- The first `len` payload bytes. -/
def read (m : SharedMemory) (len : Nat) : ByteArray :=
  if len ≤ m.payload.size then m.payload.extract 0 len
  else m.payload ++ ⟨Array.replicate (len - m.payload.size) 0⟩

/-- Copy `bytes` to the start of the payload area. -/
def write (m : SharedMemory) (bytes : ByteArray) : SharedMemory :=
  if m.payload.size ≤ bytes.size then { m with payload := bytes }
  else { m with payload := bytes.copySlice 0 m.payload 0 bytes.size }

/-- Reading what was just written gives it back. -/
theorem read_write (m : SharedMemory) (bytes : ByteArray) (h : m.payload.size ≤ bytes.size) :
    (m.write bytes).read bytes.size = bytes.extract 0 bytes.size := by
  simp [write, read, h]

end SharedMemory

/-- **One write of a state word**, as a trace records it. -/
structure StateWrite where
  field : StateField
  fromRaw : UInt32
  toRaw : UInt32
  /-- The name of the thread that wrote. -/
  writer : String
  deriving DecidableEq, Repr

/-- **One side's mapping** of the shared memory. -/
structure Channel where
  region : Region
  tracing : Bool := false
  trace : Array StateWrite := #[]
  deriving Repr

namespace Channel

/-- The smallest region a channel accepts: a header and one cache line. -/
def minRegion : Nat := headerSize + cacheLineSize

/-- **Map a channel** over a region of at least `minRegion` bytes. -/
def new (region : Region) : Except RegionError Channel :=
  if region.size < minRegion then .error (.tooSmall region.size minRegion)
  else .ok ⟨region, false, #[]⟩

/-- Record state writes from now on. -/
def withTrace (c : Channel) : Channel := { c with tracing := true }

/-- The payload bytes the mapping holds. -/
def capacity (c : Channel) : Nat := c.region.size - headerSize

/-- Record a state write, if tracing is on. -/
def record (c : Channel) (w : StateWrite) : Channel :=
  if c.tracing then { c with trace := c.trace.push w } else c

end Channel
end ShmBench

import ShmBench.Channel.State
import ShmBench.Channel.Wire
import ShmBench.Digest
import ShmBench.Message

/-!
# The channel header

The first 256 bytes of a region are the header, a sequence of little-endian
words:

| offset | field |
|---|---|
| 0 | magic (`0xDEADBEEF` once the host has initialized) |
| 4 | test-complete flag |
| 8, 12 | host and guest state words |
| 16, 20 | sequence number and payload size |
| 24 | payload digest, four 64-bit words (`Digest.toWords`) |
| 56 | guest result code |
| 64 | five phase durations, 64-bit |
| 104 | ten counts (64-bit) then five fixed-point rates (32-bit) |

Everything after the header is the payload area.  `Header.toBytes` lays the
fields out at these offsets, and `Header.toBytes_size` says the image is
exactly one header long.
-/

namespace ShmBench

/-- The channel header's size in bytes. -/
def headerSize : Nat := 256

/-- The magic word of an initialized channel. -/
def channelMagic : UInt32 := 0xDEADBEEF

/-- Cache lines are 64 bytes. -/
def cacheLineSize : Nat := 64

/-- **The fields of the channel header.** -/
structure Header where
  magic : UInt32 := 0
  complete : UInt32 := 0
  hostState : UInt32 := 0
  guestState : UInt32 := 0
  sequence : UInt32 := 0
  dataSize : UInt32 := 0
  /-- The payload digest, as the four words that hold it. -/
  digestWords : Vector UInt64 4 := Vector.replicate 4 0
  errorCode : UInt32 := 0
  timing : TimingWire := {}
  deriving Inhabited

namespace Header

/-- The little-endian bytes of a value, `n` of them. -/
def leBytes (n : Nat) (v : Nat) : List UInt8 :=
  (List.range n).map fun i => (v / Nat.pow 256 i % 256).toUInt8

/-- The bytes of the timing block's counters: ten counts, five rates, a zero word. -/
def counterBytes (w : CounterWire) : List UInt8 :=
  (w.raw.fields.flatMap fun (_, v) => leBytes 8 v.toNat) ++
  (w.rateFields.flatMap fun (_, v) => leBytes 4 v.toNat) ++ leBytes 4 0

/-- **The header's byte image**, 256 bytes. -/
def toBytes (h : Header) : List UInt8 :=
  leBytes 4 h.magic.toNat ++ leBytes 4 h.complete.toNat ++ leBytes 4 h.hostState.toNat ++
  leBytes 4 h.guestState.toNat ++ leBytes 4 h.sequence.toNat ++ leBytes 4 h.dataSize.toNat ++
  leBytes 8 h.digestWords[0].toNat ++ leBytes 8 h.digestWords[1].toNat ++
  leBytes 8 h.digestWords[2].toNat ++ leBytes 8 h.digestWords[3].toNat ++
  leBytes 4 h.errorCode.toNat ++ leBytes 4 0 ++
  (h.timing.phases.fields.flatMap fun (_, v) => leBytes 8 v.toNat) ++
  counterBytes h.timing.counters ++ leBytes 8 0 ++ List.replicate 40 0

theorem leBytes_length (n v : Nat) : (leBytes n v).length = n := by simp [leBytes]

/-- The payload digest the header holds, read back from its words. -/
def digest (h : Header) : Digest := Digest.ofWords h.digestWords

/-- The image is exactly one header long. -/
theorem toBytes_size (h : Header) : h.toBytes.length = headerSize := by
  simp [toBytes, counterBytes, leBytes_length, RawCounts.fields, CounterWire.rateFields,
    PhaseTimings.fields, headerSize]

/-- Whether the channel is open: the magic word is in place. -/
def isOpen (h : Header) : Bool := h.magic == channelMagic

/-- Whether the test-complete flag is set. -/
def isComplete (h : Header) : Bool := h.complete != 0

/-- The host state the header holds, if its word is a state. -/
def host (h : Header) : Option HostState := HostState.ofRaw h.hostState

/-- The guest state the header holds, if its word is a state. -/
def guest (h : Header) : Option GuestState := GuestState.ofRaw h.guestState

/-- The header after a host reset: no message, no results, not complete. -/
def reset (h : Header) : Header :=
  { h with sequence := 0, dataSize := 0, errorCode := 0, complete := 0,
           digestWords := Vector.replicate 4 0, timing := {} }

end Header

/-- **What one look at the header shows.** -/
structure Snapshot where
  magic : UInt32
  complete : Bool
  hostState : UInt32
  guestState : UInt32
  sequence : UInt32
  dataSize : UInt32
  errorCode : UInt32
  capacity : Nat
  deriving DecidableEq, Repr

/-- The snapshot of a header seen through a mapping of `capacity` payload bytes. -/
def Header.snapshot (h : Header) (capacity : Nat) : Snapshot :=
  ⟨h.magic, h.isComplete, h.hostState, h.guestState, h.sequence, h.dataSize, h.errorCode, capacity⟩

end ShmBench

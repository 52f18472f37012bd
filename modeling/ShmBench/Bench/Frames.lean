import ShmBench.Fault
import ShmBench.Random.Generator

/-!
# Test frames and random payloads

A frame is an uncompressed picture used as a transfer payload; its size is
width × height × bytes per pixel, each product checked for overflow.  The
latency test sends a 4K frame and the bandwidth test sweeps 1080p, 1440p and
4K, smallest first.

A payload generator draws fresh random bytes for every message from a seeded
ChaCha12 generator, so no two payloads share cache-friendly structure.
-/

namespace ShmBench

/-- Bytes in a mebibyte, as a float. -/
def mebibyte : Float := 1024.0 * 1024.0

/-- **An uncompressed video frame.** -/
structure FrameSpec where
  name : String
  width : UInt64
  height : UInt64
  bytesPerPixel : UInt64 := 3
  deriving DecidableEq, Repr, Inhabited

namespace FrameSpec

/-- The frame's size in bytes; a product beyond 64 bits is an overflow. -/
def size (f : FrameSpec) : Checked UInt64 := do
  let wh ← UInt64.mulChecked f.width f.height
  UInt64.mulChecked wh f.bytesPerPixel

/-- The frame's size in mebibytes. -/
def sizeMb (f : FrameSpec) : Checked Float := do
  pure ((← f.size).toFloat / mebibyte)

/-- Whether the frame fits in `capacity` bytes. -/
def fits (f : FrameSpec) (capacity : UInt64) : Checked Bool := do
  pure ((← f.size) ≤ capacity)

/-- 1920 × 1080 RGB. -/
def hd : FrameSpec := ⟨"1080p", 1920, 1080, 3⟩

/-- 2560 × 1440 RGB. -/
def qhd : FrameSpec := ⟨"1440p", 2560, 1440, 3⟩

/-- 3840 × 2160 RGB. -/
def uhd : FrameSpec := ⟨"4K", 3840, 2160, 3⟩

/-- The frame the latency test sends. -/
def latency : FrameSpec := uhd

/-- The frames the bandwidth test sweeps, smallest first. -/
def bandwidth : List FrameSpec := [hd, qhd, uhd]

/-- The named standard frame. -/
def ofName? (name : String) : Option FrameSpec := bandwidth.find? (·.name == name)

end FrameSpec

/-- **A payload generator**: a seeded random stream. -/
structure PayloadGenerator where
  rng : ChaChaRng
  deriving Inhabited

namespace PayloadGenerator

/-- A generator whose payloads are determined by `seed`. -/
def seeded (seed : UInt64) : PayloadGenerator := ⟨ChaChaRng.ofSeed seed⟩

/-- A generator over a full key, as the system's entropy gives one. -/
def ofKey (key : Vector UInt32 8) : PayloadGenerator := ⟨ChaChaRng.ofKey key⟩

/-- `len` fresh random bytes. -/
def fill (g : PayloadGenerator) (len : Nat) : ByteArray × PayloadGenerator :=
  let (bytes, rng) := g.rng.fillBytes len
  (bytes, ⟨rng⟩)

/-- The offset of the byte to flip when corrupting a `len`-byte payload: zero
for an empty payload, otherwise uniform below `len`. -/
def corruptionOffset (g : PayloadGenerator) (len : UInt64) : UInt64 × PayloadGenerator :=
  if len = 0 then (0, g)
  else
    let (v, rng) := g.rng.below len
    (v, ⟨rng⟩)

end PayloadGenerator
end ShmBench

import ShmBench.Channel.Basic
import ShmBench.Files

/-!
# Regions kept in files

A region backed by a file is the file's bytes: the header image in the first
256 bytes and the payload area after it.  `Header.ofBytes` reads the fields
back from the image at the offsets `Header.toBytes` writes them to, and
`SharedMemory.ofFile` / `SharedMemory.toFile` move a whole region between a
file and the memory both sides map.

A file shorter than the header reads as zeros past its end, as an unwritten
sparse file does.
-/

namespace ShmBench

/-- The little-endian value of `n` bytes at `offset`; bytes past the end are zero. -/
def leValue (bs : ByteArray) (offset n : Nat) : Nat :=
  (List.range n).foldr (fun i acc => acc * 256 + (bs.data.getD (offset + i) 0).toNat) 0

/-- A 32-bit word at `offset`. -/
def leWord32 (bs : ByteArray) (offset : Nat) : UInt32 := (leValue bs offset 4).toUInt32

/-- A 64-bit word at `offset`. -/
def leWord64 (bs : ByteArray) (offset : Nat) : UInt64 := (leValue bs offset 8).toUInt64

namespace Header

/-- **The header an image holds**, read at the offsets of `toBytes`. -/
def ofBytes (bs : ByteArray) : Header :=
  let w32 := leWord32 bs
  let w64 := leWord64 bs
  let raw : RawCounts :=
    { l1CacheMisses := w64 104, l1CacheReferences := w64 112, llcMisses := w64 120,
      llcReferences := w64 128, memoryLoads := w64 136, memoryStores := w64 144,
      tlbMisses := w64 152, cpuCycles := w64 160, instructions := w64 168,
      contextSwitches := w64 176 }
  { magic := w32 0, complete := w32 4, hostState := w32 8, guestState := w32 12,
    sequence := w32 16, dataSize := w32 20, digestWords := #v[w64 24, w64 32, w64 40, w64 48],
    errorCode := w32 56,
    timing := {
      phases := { hotReadNs := w64 64, coldReadNs := w64 72, copyNs := w64 80,
                  verifyNs := w64 88, totalNs := w64 96 },
      counters := { raw := raw, l1MissRate := w32 184, llcMissRate := w32 188,
                    instructionsPerCycle := w32 192, cyclesPerByte := w32 196,
                    tlbMissRate := w32 200 } } }

/-- The header image as bytes. -/
def image (h : Header) : ByteArray := ⟨h.toBytes.toArray⟩

end Header

namespace SharedMemory

/-- The region a file holds: its header image and its payload area. -/
def ofFile (d : FileData) : SharedMemory :=
  { header := Header.ofBytes (d.slice 0 headerSize),
    payload := if headerSize < d.bytes.size then d.bytes.extract headerSize d.bytes.size else .empty }

/-- The file after the region is written back over it: the header image, then
the written payload. -/
def toFile (m : SharedMemory) (d : FileData) : FileData :=
  (d.writeAt 0 m.header.image).writeAt headerSize m.payload

end SharedMemory

/-- The header image is one header long. -/
theorem Header.image_size (h : Header) : h.image.size = headerSize := by
  simp [Header.image, ByteArray.size, Header.toBytes_size]

end ShmBench

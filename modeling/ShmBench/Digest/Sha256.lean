/-!
# SHA-256

The message is padded with a one bit, zeros, and its bit length as a 64-bit
big-endian number, to a multiple of 64 bytes; each 64-byte block is expanded
to 64 schedule words and folded into the eight working words by 64 rounds.
The digest is the eight words, big-endian.

Whole blocks are read straight from the input, and only the last one or two
blocks are built with the padding (`Sha256.hash`), which is the same as
hashing the padded message block by block (`Sha256.blocks`).
-/

namespace ShmBench
namespace Sha256

/-- The eight working words. -/
structure State where
  a : UInt32
  b : UInt32
  c : UInt32
  d : UInt32
  e : UInt32
  f : UInt32
  g : UInt32
  h : UInt32
  deriving DecidableEq, Repr, Inhabited

/-- The initial working words. -/
def initial : State :=
  ⟨0x6a09e667, 0xbb67ae85, 0x3c6ef372, 0xa54ff53a, 0x510e527f, 0x9b05688c, 0x1f83d9ab, 0x5be0cd19⟩

/-- The round constants. -/
def roundConstants : Array UInt32 := #[
  0x428a2f98, 0x71374491, 0xb5c0fbcf, 0xe9b5dba5, 0x3956c25b, 0x59f111f1, 0x923f82a4, 0xab1c5ed5,
  0xd807aa98, 0x12835b01, 0x243185be, 0x550c7dc3, 0x72be5d74, 0x80deb1fe, 0x9bdc06a7, 0xc19bf174,
  0xe49b69c1, 0xefbe4786, 0x0fc19dc6, 0x240ca1cc, 0x2de92c6f, 0x4a7484aa, 0x5cb0a9dc, 0x76f988da,
  0x983e5152, 0xa831c66d, 0xb00327c8, 0xbf597fc7, 0xc6e00bf3, 0xd5a79147, 0x06ca6351, 0x14292967,
  0x27b70a85, 0x2e1b2138, 0x4d2c6dfc, 0x53380d13, 0x650a7354, 0x766a0abb, 0x81c2c92e, 0x92722c85,
  0xa2bfe8a1, 0xa81a664b, 0xc24b8b70, 0xc76c51a3, 0xd192e819, 0xd6990624, 0xf40e3585, 0x106aa070,
  0x19a4c116, 0x1e376c08, 0x2748774c, 0x34b0bcb5, 0x391c0cb3, 0x4ed8aa4a, 0x5b9cca4f, 0x682e6ff3,
  0x748f82ee, 0x78a5636f, 0x84c87814, 0x8cc70208, 0x90befffa, 0xa4506ceb, 0xbef9a3f7, 0xc67178f2]

/-- Rotate right by `n` bits. -/
@[inline] def rotr (x n : UInt32) : UInt32 := (x >>> n) ||| (x <<< (32 - n))

/-- The big-endian word at byte offset `i`. -/
@[inline] def wordAt (bs : ByteArray) (i : Nat) : UInt32 :=
  (bs.get! i).toUInt32 <<< 24 ||| (bs.get! (i + 1)).toUInt32 <<< 16 |||
    (bs.get! (i + 2)).toUInt32 <<< 8 ||| (bs.get! (i + 3)).toUInt32

/-- The first sixteen schedule words: the block's words. -/
def loadWords (bs : ByteArray) (off : Nat) : Nat → Nat → Array UInt32 → Array UInt32
  | 0, _, w => w
  | n + 1, i, w => loadWords bs off n (i + 1) (w.push (wordAt bs (off + 4 * i)))

/-- The remaining schedule words, each from four earlier ones. -/
def extend : Nat → Nat → Array UInt32 → Array UInt32
  | 0, _, w => w
  | n + 1, i, w =>
    let w15 := w[i - 15]!
    let w2 := w[i - 2]!
    let s0 := rotr w15 7 ^^^ rotr w15 18 ^^^ (w15 >>> 3)
    let s1 := rotr w2 17 ^^^ rotr w2 19 ^^^ (w2 >>> 10)
    extend n (i + 1) (w.push (w[i - 16]! + s0 + w[i - 7]! + s1))

/-- The 64 schedule words of the block at byte offset `off`. -/
def schedule (bs : ByteArray) (off : Nat) : Array UInt32 :=
  extend 48 16 (loadWords bs off 16 0 (Array.mkEmpty 64))

/-- Rounds `i` to `i + n - 1` over the schedule `w`, on the working words. -/
def rounds (w : Array UInt32) :
    Nat → Nat → UInt32 → UInt32 → UInt32 → UInt32 → UInt32 → UInt32 → UInt32 → UInt32 → State
  | 0, _, a, b, c, d, e, f, g, h => ⟨a, b, c, d, e, f, g, h⟩
  | n + 1, i, a, b, c, d, e, f, g, h =>
    let s1 := rotr e 6 ^^^ rotr e 11 ^^^ rotr e 25
    let ch := (e &&& f) ^^^ ((~~~ e) &&& g)
    let t1 := h + s1 + ch + roundConstants[i]! + w[i]!
    let s0 := rotr a 2 ^^^ rotr a 13 ^^^ rotr a 22
    let maj := (a &&& b) ^^^ (a &&& c) ^^^ (b &&& c)
    rounds w n (i + 1) (t1 + s0 + maj) a b c (d + t1) e f g

/-- Fold the block at byte offset `off` into the working words. -/
def compress (s : State) (bs : ByteArray) (off : Nat) : State :=
  let r := rounds (schedule bs off) 64 0 s.a s.b s.c s.d s.e s.f s.g s.h
  ⟨s.a + r.a, s.b + r.b, s.c + r.c, s.d + r.d, s.e + r.e, s.f + r.f, s.g + r.g, s.h + r.h⟩

/-- Fold `count` blocks, starting at block `first`. -/
def blocks (bs : ByteArray) (first count : Nat) (s : State) : State :=
  Nat.fold count (fun i _ acc => compress acc bs (64 * (first + i))) s

/-- The padding that follows a message of `len` bytes. -/
def padding (len : Nat) : ByteArray :=
  let zeros := (119 - len % 64) % 64
  let bits := 8 * len
  ⟨(#[0x80] ++ Array.replicate zeros 0 ++
    (Array.range 8).map (fun i => (bits / Nat.pow 2 (8 * (7 - i)) % 256).toUInt8))⟩

/-- The working word at position `i` (0 to 7). -/
def State.word (s : State) (i : Nat) : UInt32 :=
  match i with
  | 0 => s.a | 1 => s.b | 2 => s.c | 3 => s.d
  | 4 => s.e | 5 => s.f | 6 => s.g | _ => s.h

/-- The eight words as 32 big-endian bytes. -/
def State.toBytes (s : State) : Vector UInt8 32 :=
  Vector.ofFn fun i => (s.word (i.val / 4) >>> (8 * (3 - i.val % 4)).toUInt32).toUInt8

/-- **The SHA-256 digest** of a byte string. -/
def hash (data : ByteArray) : Vector UInt8 32 :=
  let whole := data.size / 64
  let s := blocks data 0 whole initial
  let tail := data.extract (64 * whole) data.size ++ padding data.size
  (blocks tail 0 (tail.size / 64) s).toBytes

end Sha256
end ShmBench

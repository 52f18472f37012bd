/-!
# The seeded random generator

A generator keeps a ChaCha12 key, the next block counter, and a buffer of 64
words (four consecutive blocks) with a read position.  It hands out words from
the buffer and refills it when the buffer is spent:

* `nextU32` takes one word;
* `nextU64` takes two words, low word first, spanning a refill if needed;
* `fillBytes` takes whole words, little-endian, and drops the unused bytes of
  the last word it touched;
* `below n` draws a 64-bit value uniformly below `n` by a widening multiply,
  rejecting the low halves above the largest multiple-friendly zone.

A key is made from a 64-bit seed by eight steps of a PCG32 generator
(`seedKey`).

The words come from the ChaCha block function, below.
-/

/-! ## The ChaCha block function

A block is computed from sixteen words: four constants, an eight-word key, a
64-bit block counter (low word first) and a 64-bit stream number, here zero.
The words are mixed by a number of double rounds, each four column quarter
rounds then four diagonal ones, and the input is added back word by word.
Twelve rounds (six double rounds) give the variant used for payloads. -/

namespace ShmBench
namespace ChaCha

/-- The words of "expand 32-byte k". -/
def constants : List UInt32 := [0x61707865, 0x3320646e, 0x79622d32, 0x6b206574]

/-- Rotate left by `n` bits. -/
@[inline] def rotl (x n : UInt32) : UInt32 := (x <<< n) ||| (x >>> (32 - n))

/-- The quarter round on positions `a`, `b`, `c`, `d`. -/
def quarter (s : Array UInt32) (a b c d : Nat) : Array UInt32 :=
  let va := s[a]! + s[b]!
  let vd := rotl (s[d]! ^^^ va) 16
  let vc := s[c]! + vd
  let vb := rotl (s[b]! ^^^ vc) 12
  let va := va + vb
  let vd := rotl (vd ^^^ va) 8
  let vc := vc + vd
  let vb := rotl (vb ^^^ vc) 7
  ((s.set! a va).set! b vb |>.set! c vc).set! d vd

/-- Four column quarter rounds, then four diagonal ones. -/
def doubleRound (s : Array UInt32) : Array UInt32 :=
  let s := quarter s 0 4 8 12
  let s := quarter s 1 5 9 13
  let s := quarter s 2 6 10 14
  let s := quarter s 3 7 11 15
  let s := quarter s 0 5 10 15
  let s := quarter s 1 6 11 12
  let s := quarter s 2 7 8 13
  quarter s 3 4 9 14

/-- The input words of the block numbered `counter`. -/
def input (key : Vector UInt32 8) (counter : UInt64) : Array UInt32 :=
  constants.toArray ++ key.toArray ++ #[counter.toUInt32, (counter >>> 32).toUInt32, 0, 0]

/-- **The sixteen output words** of block `counter` after `doubleRounds`
double rounds. -/
def block (doubleRounds : Nat) (key : Vector UInt32 8) (counter : UInt64) : Array UInt32 :=
  let start := input key counter
  let mixed := Nat.repeat doubleRound doubleRounds start
  Array.zipWith (· + ·) mixed start

end ChaCha

/-- **A ChaCha12 word generator** with a 64-word buffer. -/
structure ChaChaRng where
  key : Vector UInt32 8
  /-- The counter of the block that the next refill starts with. -/
  counter : UInt64
  buffer : Array UInt32
  /-- The read position in the buffer; 64 when it is spent. -/
  index : Nat
  deriving Inhabited

namespace ChaChaRng

/-- Words per buffer: four blocks of sixteen. -/
def bufferWords : Nat := 64

/-- One PCG32 step: the new state and its output word. -/
def pcgStep (state : UInt64) : UInt64 × UInt32 :=
  let s := state * 6364136223846793005 + 11634580027462260723
  let xorshifted := (((s >>> 18) ^^^ s) >>> 27).toUInt32
  let rot := (s >>> 59).toUInt32
  (s, (xorshifted >>> rot) ||| (xorshifted <<< ((32 - rot) % 32)))

/-- The eight key words expanded from a 64-bit seed. -/
def seedWords : Nat → UInt64 → List UInt32
  | 0, _ => []
  | n + 1, s => let (s', w) := pcgStep s; w :: seedWords n s'

/-- The key a 64-bit seed expands to. -/
def seedKey (seed : UInt64) : Vector UInt32 8 :=
  Vector.ofFn fun i => (seedWords 8 seed).getD i.val 0

/-- **A generator over a full key**, with a spent buffer. -/
def ofKey (key : Vector UInt32 8) : ChaChaRng :=
  ⟨key, 0, Array.replicate bufferWords 0, bufferWords⟩

/-- **A generator seeded from a 64-bit number**, with a spent buffer. -/
def ofSeed (seed : UInt64) : ChaChaRng := ofKey (seedKey seed)

/-- Refill the buffer with the next four blocks and read from position `index`. -/
def refill (g : ChaChaRng) (index : Nat) : ChaChaRng :=
  let words := (List.range 4).foldl
    (fun acc i => acc ++ ChaCha.block 6 g.key (g.counter + i.toUInt64)) #[]
  { g with counter := g.counter + 4, buffer := words, index }

/-- The next word. -/
def nextU32 (g : ChaChaRng) : UInt32 × ChaChaRng :=
  let g := if g.index ≥ bufferWords then g.refill 0 else g
  (g.buffer[g.index]!, { g with index := g.index + 1 })

/-- The next 64-bit value: two words, low word first. -/
def nextU64 (g : ChaChaRng) : UInt64 × ChaChaRng :=
  let pair (lo hi : UInt32) : UInt64 := (hi.toUInt64 <<< 32) ||| lo.toUInt64
  if g.index + 1 < bufferWords then
    (pair g.buffer[g.index]! g.buffer[g.index + 1]!, { g with index := g.index + 2 })
  else if g.index ≥ bufferWords then
    let g := g.refill 2
    (pair g.buffer[0]! g.buffer[1]!, g)
  else
    let lo := g.buffer[bufferWords - 1]!
    let g := g.refill 1
    (pair lo g.buffer[0]!, g)

/-- Append the first `n` little-endian bytes (at most four) of a word. -/
def pushWordBytes (out : ByteArray) (w : UInt32) (n : Nat) : ByteArray :=
  (List.range (min n 4)).foldl (fun o k => o.push (w >>> (8 * k).toUInt32).toUInt8) out

/-- Append the bytes of buffer words from `index`, `count` of them, stopping after
`need` bytes. -/
def copyWords (buffer : Array UInt32) : Nat → Nat → Nat → ByteArray → ByteArray
  | 0, _, _, out => out
  | count + 1, index, need, out =>
    copyWords buffer count (index + 1) (need - 4) (pushWordBytes out buffer[index]! need)

/-- Fill `need` more bytes into `out`; `fuel` bounds the refills. -/
def fillLoop : Nat → ChaChaRng → Nat → ByteArray → ByteArray × ChaChaRng
  | 0, g, _, out => (out, g)
  | fuel + 1, g, need, out =>
    if need = 0 then (out, g)
    else
      let g := if g.index ≥ bufferWords then g.refill 0 else g
      let words := min (bufferWords - g.index) ((need + 3) / 4)
      let filled := min need (4 * words)
      fillLoop fuel { g with index := g.index + words } (need - filled)
        (copyWords g.buffer words g.index need out)

/-- **`len` random bytes**: whole words in little-endian order. -/
def fillBytes (g : ChaChaRng) (len : Nat) : ByteArray × ChaChaRng :=
  fillLoop (len + 1) g len (ByteArray.emptyWithCapacity len)

/-- The high and low halves of the 128-bit product of two 64-bit values. -/
def wideMul (a b : UInt64) : UInt64 × UInt64 :=
  let p := a.toNat * b.toNat
  ((p / UInt64.size).toUInt64, p.toUInt64)

/-- Number of leading zero bits of a 64-bit value. -/
def leadingZeros (x : UInt64) : UInt64 :=
  (64 - (Nat.log2 x.toNat + 1) : Nat).toUInt64

/-- Draws for `below`, at most `fuel` of them. -/
def belowLoop (range zone : UInt64) : Nat → ChaChaRng → UInt64 × ChaChaRng
  | 0, g => (0, g)
  | fuel + 1, g =>
    let (v, g) := g.nextU64
    let (hi, lo) := wideMul v range
    if lo ≤ zone then (hi, g) else belowLoop range zone fuel g

/-- **A value uniformly below `n`**, for `0 < n`: draw 64-bit values until the low
half of the product with `n` lies in the accepted zone, and take the high half.
A draw is rejected with probability below one half, so the bound of 256 draws
is never reached in practice. -/
def below (g : ChaChaRng) (n : UInt64) : UInt64 × ChaChaRng :=
  let zone := (n <<< leadingZeros n) - 1
  belowLoop n zone 256 g

end ChaChaRng
end ShmBench

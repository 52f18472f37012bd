import ShmBench.Channel.Image
import ShmBench.Proofs.Discipline
import Mathlib.Data.Nat.Digits.Defs

/-!
# The channel's wire codec

What one side stores in the header, the other side reads back unchanged.  Three
layers carry a value across, each proved once:

* a number stored as `n` little-endian bytes (`Header.leBytes`) reads back as
  its base-256 digits (`Nat.ofDigits 256`), that is modulo `256 ^ n`
  (`leValue_leBytes_append`);
* a digest stored as four 64-bit words gives its bytes back in order
  (`Digest.ofWords_toWords`);
* the header's byte image gives every field back from the offset it is stored
  at (`Header.ofBytes_image`).

On top of them, every writer of the header reads back what it stored and leaves
the magic word and both state words alone (`channel_codec_roundtrip`).
-/

namespace ShmBench

/-! ## Little-endian values -/

/-- The bytes of `v`, lowest first, are its base-256 digits below `256 ^ n`. -/
theorem ofDigits_range_div_mod (v : Nat) : ∀ n,
    Nat.ofDigits 256 ((List.range n).map fun i => v / 256 ^ i % 256) = v % 256 ^ n
  | 0 => by simp [Nat.mod_one]
  | n + 1 => by
    rw [List.range_succ, List.map_append, Nat.ofDigits_append, ofDigits_range_div_mod v n,
      Nat.mod_pow_succ]
    simp

/-- Digit `j` of a base-256 value. -/
theorem ofDigits_div_pow_mod (L : List Nat) (hL : ∀ x ∈ L, x < 256) (j : Nat)
    (hj : j < L.length) : Nat.ofDigits 256 L / 256 ^ j % 256 = L[j] := by
  rw [Nat.ofDigits_div_pow_eq_ofDigits_drop j (by decide) L hL, List.drop_eq_getElem_cons hj,
    Nat.ofDigits_cons]
  have := hL _ (List.getElem_mem hj)
  omega

/-- Bytes are base-256 digits. -/
theorem toNat_map_lt {α : Type} (f : α → UInt8) (l : List α) :
    ∀ x ∈ l.map fun a => (f a).toNat, x < 256 := by
  intro x hx
  obtain ⟨a, -, rfl⟩ := List.mem_map.1 hx
  exact (f a).toNat_lt

/-- A value read from an image is the base-256 number of the bytes it covers. -/
theorem leValue_eq_ofDigits (bs : ByteArray) (offset n : Nat) :
    leValue bs offset n =
      Nat.ofDigits 256 ((List.range n).map fun i => (bs.data.getD (offset + i) 0).toNat) := by
  simp only [leValue, Nat.ofDigits_eq_foldr, Nat.cast_id, List.foldr_map]
  congr 1
  funext i acc
  omega

/-- Reading past a prefix of the image is reading the rest. -/
theorem leValue_append_of_le (pre rest : List UInt8) (offset n : Nat)
    (h : pre.length ≤ offset) :
    leValue ⟨(pre ++ rest).toArray⟩ offset n = leValue ⟨rest.toArray⟩ (offset - pre.length) n := by
  unfold leValue
  congr 1
  funext i acc
  have hi : offset - pre.length + i = offset + i - pre.length := by omega
  simp only [Array.getD_eq_getD_getElem?, List.getElem?_toArray,
    List.getElem?_append_right (show pre.length ≤ offset + i by omega), hi]

/-- Reading past a stored number is reading what follows it. -/
theorem leValue_leBytes_skip (m v : Nat) (rest : List UInt8) (offset n : Nat) (h : m ≤ offset) :
    leValue ⟨(Header.leBytes m v ++ rest).toArray⟩ offset n =
      leValue ⟨rest.toArray⟩ (offset - m) n := by
  rw [leValue_append_of_le _ _ _ _ (by rw [Header.leBytes_length]; exact h), Header.leBytes_length]

/-- **A stored number reads back** modulo the room it was stored in. -/
theorem leValue_leBytes_append (n v : Nat) (rest : List UInt8) :
    leValue ⟨(Header.leBytes n v ++ rest).toArray⟩ 0 n = v % 256 ^ n := by
  rw [leValue_eq_ofDigits, ← ofDigits_range_div_mod]
  congr 1
  apply List.map_congr_left
  intro i hi
  have hi : i < n := List.mem_range.1 hi
  simp [Array.getD_eq_getD_getElem?, List.getElem?_append_left, Header.leBytes, hi]

/-! ## The digest as four words -/

/-- Packing at most eight bytes, first byte lowest, gives their base-256 value. -/
theorem toNat_foldr_shift_or (b : Nat → UInt8) : ∀ is : List Nat, is.length ≤ 8 →
    (is.foldr (fun i (acc : UInt64) => (acc <<< 8) ||| (b i).toUInt64) 0).toNat =
      Nat.ofDigits 256 (is.map fun i => (b i).toNat)
  | [], _ => rfl
  | i :: is, h => by
    have hlen : is.length ≤ 7 := by simp at h; omega
    have hd : Nat.ofDigits 256 (is.map fun i => (b i).toNat) < 256 ^ 7 :=
      calc _ < 256 ^ (is.map fun i => (b i).toNat).length :=
            Nat.ofDigits_lt_base_pow_length (by decide) (toNat_map_lt b is)
        _ ≤ 256 ^ 7 := Nat.pow_le_pow_right (by decide) (by simpa using hlen)
    have hb : (b i).toNat < 2 ^ 8 := (b i).toNat_lt
    rw [List.foldr_cons, UInt64.toNat_or, UInt64.toNat_shiftLeft,
      toNat_foldr_shift_or b is (by omega), UInt8.toNat_toUInt64, List.map_cons, Nat.ofDigits_cons]
    have hshift : Nat.ofDigits 256 (is.map fun i => (b i).toNat) <<< ((8 : UInt64).toNat % 64) %
        2 ^ 64 = Nat.ofDigits 256 (is.map fun i => (b i).toNat) <<< 8 := by
      rw [Nat.shiftLeft_eq, Nat.shiftLeft_eq]
      exact Nat.mod_eq_of_lt (by simp; omega)
    rw [hshift, ← Nat.shiftLeft_add_eq_or_of_lt hb, Nat.shiftLeft_eq]
    omega

/-- A stored word holds its eight bytes as base-256 digits. -/
theorem Digest.word_toNat (d : Digest) (k : Nat) :
    (d.word k).toNat =
      Nat.ofDigits 256 ((List.range 8).map fun i => (d.bytes.toArray.getD (8 * k + i) 0).toNat) := by
  unfold Digest.word
  exact toNat_foldr_shift_or (fun i => d.bytes.toArray.getD (8 * k + i) 0) (List.range 8) (by simp)

/-- Byte `j` of stored word `k` is digest byte `8 * k + j`. -/
theorem Digest.word_byte (d : Digest) (k j : Nat) (hj : j < 8) :
    ((d.word k) >>> (8 * j).toUInt64).toUInt8.toNat = (d.bytes.toArray.getD (8 * k + j) 0).toNat := by
  have hs : ((8 * j).toUInt64.toNat % 64) = 8 * j := by simp; omega
  rw [UInt64.toNat_toUInt8, UInt64.toNat_shiftRight, hs, Nat.shiftRight_eq_div_pow, Nat.pow_mul,
    word_toNat, show (2 ^ 8 : Nat) = 256 from rfl, ofDigits_div_pow_mod _ (toNat_map_lt _ _) j
    (by simpa using hj)]
  simp

theorem Digest.toWords_get (d : Digest) (k : Nat) (hk : k < 4) :
    d.toWords.get ⟨k, hk⟩ = d.word k := by
  simp only [Digest.toWords, Vector.get, Array.getElem_ofFn, Vector.toArray_ofFn]
  rfl

/-- **A digest comes back from its four words.** -/
@[simp] theorem Digest.ofWords_toWords (d : Digest) : Digest.ofWords d.toWords = d := by
  obtain ⟨bytes⟩ := d
  simp only [Digest.ofWords, Digest.mk.injEq]
  apply Vector.ext
  intro i hi
  apply UInt8.toNat_inj.1
  rw [Vector.getElem_ofFn, Digest.toWords_get, Digest.word_byte _ _ _ (by omega), Nat.div_add_mod]
  simp [hi]

/-! ## The header image -/

theorem UInt32.toNat_mod_toUInt32 (x : UInt32) : (x.toNat % 256 ^ 4).toUInt32 = x := by
  rw [Nat.mod_eq_of_lt (show x.toNat < 256 ^ 4 from x.toNat_lt)]
  simp

theorem UInt64.toNat_mod_toUInt64 (x : UInt64) : (x.toNat % 256 ^ 8).toUInt64 = x := by
  rw [Nat.mod_eq_of_lt (show x.toNat < 256 ^ 8 from x.toNat_lt)]
  simp

/-- A vector of four is the vector of its four entries.  The bounds are
arguments, so that the statement carries no proof of its own. -/
theorem Vector.eq_of_four {α : Type} (v : Vector α 4) (h₀ : 0 < 4) (h₁ : 1 < 4) (h₂ : 2 < 4)
    (h₃ : 3 < 4) : #v[getElem v 0 h₀, getElem v 1 h₁, getElem v 2 h₂, getElem v 3 h₃] = v := by
  ext i hi
  match i, hi with
  | 0, _ | 1, _ | 2, _ | 3, _ => rfl

/-- **The header image reads back as the header**: every field is read from the
offset `Header.toBytes` stores it at, at the width it is stored with. -/
theorem Header.ofBytes_image (h : Header) : Header.ofBytes h.image = h := by
  simp (disch := omega) only [ofBytes, image, toBytes, counterBytes, PhaseTimings.fields,
    RawCounts.fields, CounterWire.rateFields, List.flatMap_cons, List.flatMap_nil, List.append_nil,
    List.append_assoc, leWord32, leWord64, leValue_leBytes_skip, leValue_leBytes_append,
    Nat.reduceSub, UInt32.toNat_mod_toUInt32, UInt64.toNat_mod_toUInt64, Vector.eq_of_four]

/-! ## Writers of the header -/

/-- The zero digest is stored as four zero words. -/
theorem Digest.zero_toWords : Digest.zero.toWords = Vector.replicate 4 0 := by decide

/-- A reset header holds the zero digest. -/
@[simp] theorem Header.reset_digest (h : Header) : h.reset.digest = Digest.zero := by
  rw [Header.reset, Header.digest, ← Digest.zero_toWords, Digest.ofWords_toWords]

/-- **The channel's wire codec round-trips.**  The guest's results (a timing
record and any code a stored word decodes to) read back exactly; a message's
sequence, size and digest read back exactly, the digest through its four words;
the fixed-point encoding keeps the five durations and the ten counts; a reset
reads back as the zero header, keeping only the magic word and the state words;
no writer of these fields changes the magic word or either state word; a decoded
code stores the word it came from; and the header's byte image reads back as the
header. -/
theorem channel_codec_roundtrip :
    (∀ (w : World) (t : TimingWire) (r : UInt32),
      (w.writeResults t (.ofRaw r)).header.timing = t ∧
        ResultCode.ofRaw (w.writeResults t (.ofRaw r)).header.errorCode = .ofRaw r) ∧
    (∀ (w : World) (s n : UInt32) (d : Digest),
      (w.writeMessageHeader s n d).header.sequence = s ∧
        (w.writeMessageHeader s n d).header.dataSize = n ∧
        (w.writeMessageHeader s n d).header.digest = d) ∧
    (∀ (p : PhaseTimings) (c : CounterReport),
      (Fixed.decodeTiming (Fixed.encodeTiming p c)).phases = p ∧
        (Fixed.decodeTiming (Fixed.encodeTiming p c)).counters.raw = c.raw) ∧
    (∀ w : World,
      w.resetHeader.header = { magic := w.header.magic, hostState := w.header.hostState,
                               guestState := w.header.guestState } ∧
        w.resetHeader.header.digest = Digest.zero ∧
        ResultCode.ofRaw w.resetHeader.header.errorCode = .none) ∧
    (∀ (w : World) (t : TimingWire) (e : ResultCode) (s n : UInt32) (d : Digest),
      ∀ w' ∈ [w.writeResults t e, w.writeMessageHeader s n d, w.resetHeader, w.clearResults],
        w'.header.magic = w.header.magic ∧ w'.header.hostState = w.header.hostState ∧
          w'.header.guestState = w.header.guestState) ∧
    (∀ r : UInt32, (ResultCode.ofRaw r).toRaw = r) ∧
    (∀ h : Header, Header.ofBytes h.image = h) := by
  refine ⟨?results, ?message, ?fixed, ?reset, ?frame, ResultCode.toRaw_ofRaw, Header.ofBytes_image⟩
  case results =>
    intro w t r
    simp [ResultCode.toRaw_ofRaw]
  case message =>
    intro w s n d
    simp [Header.digest]
  case fixed =>
    intro p c
    exact ⟨Fixed.decodeTiming_encodeTiming_phases p c, Fixed.decodeCounters_encodeCounters_raw c⟩
  case reset =>
    intro w
    refine ⟨rfl, Header.reset_digest _, ?_⟩
    simp [Header.reset, ResultCode.ofRaw]
  case frame =>
    intro w t e s n d w' hw'
    simp only [List.mem_cons, List.not_mem_nil, or_false] at hw'
    rcases hw' with rfl | rfl | rfl | rfl <;> simp [Header.reset]

end ShmBench

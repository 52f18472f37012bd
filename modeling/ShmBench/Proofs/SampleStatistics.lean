import Mathlib
import ShmBench.Bench.Metrics

/-!
# Latency statistics

`LatencyMetrics.ofSamples` sorts the samples, sums them in 64 bits and reads
its statistics off the sorted list.  This module states what they are, against
any ascending arrangement `sorted` of the samples (`LatencyMetrics.Describes`):
the minimum and the maximum, the median as the sample of rank `⌊n/2⌋`, the 95th
and 99th percentiles as samples, all five in ascending order, and the kept
samples as the whole sorted list up to 10 000 of them and otherwise every
`⌊n/1000⌋`-th one, still ascending, from the minimum, 1000 to 1100 of them.

The percentile ranks are computed in binary64.  Rounding loses or gains at most a
relative `2⁻⁵²` (`le_nearest_mul`, `nearest_mul_le`), far less than the gaps
between `1/2`, `0.95` and `0.99`, so the ranks stay in order
(`half_le_quantileIndex`, `quantileIndex_le_quantileIndex`).

The sum is where the statistics can fail: `ofSamples_isOk_iff` says they are
computed exactly when the samples add up to less than `2^64`, and
`ofSamples_describes` puts it all together.
-/

namespace ShmBench

/-! ## Rounding error -/

namespace Rounding

/-- The dropped unit, `2^52` times over, is at most the number rounded. -/
theorem unit_mul_le (a : Nat) (h : dropped a ≠ 0) :
    Nat.pow 2 (dropped a) * Nat.pow 2 52 ≤ a := by
  have ha : a ≠ 0 := by
    rintro rfl
    simp [dropped, Nat.log2_zero, precision] at h
  have hlog : dropped a + 52 = a.log2 := by
    simp only [dropped, precision] at h ⊢
    omega
  calc Nat.pow 2 (dropped a) * Nat.pow 2 52 = 2 ^ (dropped a + 52) := by
        rw [Nat.pow_add]; rfl
    _ = 2 ^ a.log2 := by rw [hlog]
    _ ≤ a := Nat.log2_self_le ha

/-- A number of at most 53 significant bits is its own rounding. -/
theorem nearest_of_dropped_eq_zero {a : Nat} (h : dropped a = 0) : nearest a = a := by
  simp [nearest, h, Nat.mod_one]

/-- Rounding moves a number by less than one dropped unit. -/
theorem nearest_near (a : Nat) :
    a < nearest a + Nat.pow 2 (dropped a) ∧ nearest a ≤ a + Nat.pow 2 (dropped a) := by
  have hpos : 0 < Nat.pow 2 (dropped a) := Nat.two_pow_pos _
  have hdiv := Nat.div_add_mod a (Nat.pow 2 (dropped a))
  have hmod := Nat.mod_lt a hpos
  generalize htrunc : a / Nat.pow 2 (dropped a) * Nat.pow 2 (dropped a) = t
  have ht : t + a % Nat.pow 2 (dropped a) = a := by rw [← htrunc, Nat.mul_comm]; exact hdiv
  rcases nearest_eq_or a with h | h
  · rw [htrunc] at h
    omega
  · rw [Nat.add_mul, Nat.one_mul, htrunc] at h
    omega

/-- **Rounding loses at most a relative `2⁻⁵²`.** -/
theorem le_nearest_mul (a : Nat) : a * (Nat.pow 2 52 - 1) ≤ nearest a * Nat.pow 2 52 := by
  by_cases h : dropped a = 0
  · rw [nearest_of_dropped_eq_zero h]
    exact Nat.mul_le_mul_left _ (Nat.sub_le _ _)
  · have hunit := unit_mul_le a h
    have hnear := (nearest_near a).1
    have hP : Nat.pow 2 52 = 4503599627370496 := by decide
    rw [hP] at hunit ⊢
    -- `a` exceeds its rounding by less than a unit, and a unit is at most `a / 2^52`
    generalize Nat.pow 2 (dropped a) = u at hunit hnear
    nlinarith

/-- **Rounding gains at most a relative `2⁻⁵²`.** -/
theorem nearest_mul_le (a : Nat) : nearest a * Nat.pow 2 52 ≤ a * (Nat.pow 2 52 + 1) := by
  by_cases h : dropped a = 0
  · rw [nearest_of_dropped_eq_zero h]
    exact Nat.mul_le_mul_left _ (Nat.le_succ _)
  · have hunit := unit_mul_le a h
    have hnear := (nearest_near a).2
    have hP : Nat.pow 2 52 = 4503599627370496 := by decide
    rw [hP] at hunit ⊢
    generalize Nat.pow 2 (dropped a) = u at hunit hnear
    nlinarith

/-- A larger fraction, by more than the rounding error, gives a floor at least
as large. -/
theorem scaledFloor_le_scaledFloor (n : Nat) {m₁ m₂ : Nat}
    (h : m₁ * (Nat.pow 2 52 + 1) ≤ m₂ * (Nat.pow 2 52 - 1)) :
    scaledFloor n m₁ ≤ scaledFloor n m₂ := by
  unfold scaledFloor
  apply Nat.div_le_div_right
  have hpos : 0 < Nat.pow 2 52 := Nat.two_pow_pos _
  have hprod : nearest n * m₁ * (Nat.pow 2 52 + 1) ≤ nearest n * m₂ * (Nat.pow 2 52 - 1) := by
    rw [Nat.mul_assoc, Nat.mul_assoc]
    exact Nat.mul_le_mul_left _ h
  have : nearest (nearest n * m₁) * Nat.pow 2 52 ≤ nearest (nearest n * m₂) * Nat.pow 2 52 :=
    calc nearest (nearest n * m₁) * Nat.pow 2 52
        ≤ nearest n * m₁ * (Nat.pow 2 52 + 1) := nearest_mul_le _
      _ ≤ nearest n * m₂ * (Nat.pow 2 52 - 1) := hprod
      _ ≤ nearest (nearest n * m₂) * Nat.pow 2 52 := le_nearest_mul _
  exact Nat.le_of_mul_le_mul_right this hpos

/-- A fraction above one half by more than the rounding error gives at least
half of `n`. -/
theorem half_le_scaledFloor (n : Nat) {m : Nat}
    (hm : Nat.pow 2 52 * (Nat.pow 2 52 * Nat.pow 2 52) ≤ m * ((Nat.pow 2 52 - 1) * (Nat.pow 2 52 - 1))) :
    n / 2 ≤ scaledFloor n m := by
  unfold scaledFloor
  generalize hP : Nat.pow 2 52 = P at hm
  have hP0 : 0 < P := hP ▸ Nat.two_pow_pos _
  have h53 : Nat.pow 2 53 = 2 * P := by rw [← hP]
  have hN := le_nearest_mul n
  have hR := le_nearest_mul (nearest n * m)
  rw [hP] at hN hR
  have hkey : n * P * (P * P) ≤ nearest (nearest n * m) * (P * P) :=
    calc n * P * (P * P) = n * (P * (P * P)) := by ring
      _ ≤ n * (m * ((P - 1) * (P - 1))) := Nat.mul_le_mul_left _ hm
      _ = n * (P - 1) * m * (P - 1) := by ring
      _ ≤ nearest n * P * m * (P - 1) := by gcongr
      _ = nearest n * m * (P - 1) * P := by ring
      _ ≤ nearest (nearest n * m) * P * P := by gcongr
      _ = nearest (nearest n * m) * (P * P) := by ring
  have hlow : n * P ≤ nearest (nearest n * m) :=
    Nat.le_of_mul_le_mul_right hkey (Nat.mul_pos hP0 hP0)
  rw [h53, Nat.le_div_iff_mul_le (by omega)]
  calc n / 2 * (2 * P) = n / 2 * 2 * P := by ring
    _ ≤ n * P := Nat.mul_le_mul_right _ (Nat.div_mul_le_self n 2)
    _ ≤ nearest (nearest n * m) := hlow

end Rounding

/-! ## Percentile ranks -/

namespace LatencyMetrics

/-- A quantile's index is an index of the samples. -/
theorem quantileIndex_lt {n : Nat} (hn : 0 < n) (q : Nat) : quantileIndex n q < n := by
  unfold quantileIndex
  omega

/-- The 95th percentile's fraction lies above one half by more than rounding can take. -/
theorem fraction95_above_half :
    Nat.pow 2 52 * (Nat.pow 2 52 * Nat.pow 2 52) ≤
      Rounding.fraction 95 100 * ((Nat.pow 2 52 - 1) * (Nat.pow 2 52 - 1)) := by
  decide

/-- The 99th percentile's fraction lies above the 95th's by more than rounding can take. -/
theorem fraction95_below_99 :
    Rounding.fraction 95 100 * (Nat.pow 2 52 + 1) ≤ Rounding.fraction 99 100 * (Nat.pow 2 52 - 1) := by
  decide

/-- **The 95th percentile ranks at or above the median.** -/
theorem half_le_quantileIndex {n : Nat} (hn : 0 < n) :
    n / 2 ≤ quantileIndex n (Rounding.fraction 95 100) := by
  have := Rounding.half_le_scaledFloor n fraction95_above_half
  unfold quantileIndex
  omega

/-- **The 99th percentile ranks at or above the 95th.** -/
theorem quantileIndex_le_quantileIndex (n : Nat) :
    quantileIndex n (Rounding.fraction 95 100) ≤ quantileIndex n (Rounding.fraction 99 100) := by
  have := Rounding.scaledFloor_le_scaledFloor n fraction95_below_99
  unfold quantileIndex
  omega

/-! ## Thinning the sorted samples -/

/-- Thinning keeps the first element of every block of `k`. -/
theorem everyNth_cons {k : Nat} (hk : 0 < k) (x : UInt64) (rest : List UInt64) :
    everyNth k (x :: rest) = x :: everyNth k ((x :: rest).drop k) := by
  obtain ⟨j, rfl⟩ : ∃ j, k = j + 1 := ⟨k - 1, by omega⟩
  unfold everyNth
  conv_lhs => rw [← List.take_append_drop (j + 1) (x :: rest)]
  rw [List.zipIdx_append, List.filter_append, List.map_append, List.take_succ_cons]
  have hfront : (List.filter (fun p : UInt64 × Nat => p.2 % (j + 1) == 0) ((rest.take j).zipIdx 1)) = [] := by
    refine List.filter_eq_nil_iff.mpr fun ⟨y, i⟩ hp => ?_
    have hi := List.mem_zipIdx hp
    have hlen : (rest.take j).length ≤ j := by simp [List.length_take]
    have : i % (j + 1) = i := Nat.mod_eq_of_lt (by omega)
    simp only [beq_iff_eq, this]
    omega
  -- the later blocks start at a multiple of `k`, so shifting their indices keeps the pattern
  have hback : (List.filter (fun p : UInt64 × Nat => p.2 % (j + 1) == 0)
      (((x :: rest).drop (j + 1)).zipIdx (x :: rest.take j).length)).map (·.1) =
      (List.filter (fun p : UInt64 × Nat => p.2 % (j + 1) == 0)
        (((x :: rest).drop (j + 1)).zipIdx)).map (·.1) := by
    by_cases hshort : rest.length ≤ j
    · have : (x :: rest).drop (j + 1) = [] := List.drop_eq_nil_iff.mpr (by simp; omega)
      rw [this]
      rfl
    · have hk' : (x :: rest.take j).length = j + 1 := by simp [List.length_take]; omega
      have hpred : ((fun p : UInt64 × Nat => p.2 % (j + 1) == 0) ∘
          fun q : UInt64 × Nat => (q.1, j + 1 + q.2)) = fun p => p.2 % (j + 1) == 0 := by
        funext ⟨a, i⟩
        simp [Function.comp, Nat.add_mod_left]
      have hfst : ((·.1) ∘ fun q : UInt64 × Nat => (q.1, j + 1 + q.2)) = (·.1) := rfl
      rw [hk', List.zipIdx_eq_map_add, List.filter_map, List.map_map]
      exact congrArg₂ List.map hfst (congrArg₂ List.filter hpred rfl)
  simp only [List.zipIdx_cons, List.filter_cons, Nat.zero_mod, beq_self_eq_true, if_true, hfront,
    List.map_cons, List.map_nil, List.cons_append, List.nil_append]
  simpa using hback

/-- After the first block there is one block fewer. -/
theorem blocks_drop {k : Nat} (hk : 0 < k) (n : Nat) (hn : 0 < n) :
    (n + k - 1) / k = (n - k + k - 1) / k + 1 := by
  by_cases hnk : k ≤ n
  · have : n - k + k - 1 = n - 1 := by omega
    rw [this, ← Nat.add_div_right (n - 1) hk]
    congr 1
    omega
  · have h0 : (n - k + k - 1) / k = 0 := Nat.div_eq_of_lt (by omega)
    have h1 : (n + k - 1) / k = 1 := Nat.div_eq_of_lt_le (by omega) (by omega)
    rw [h0, h1]

/-- **Thinning keeps the elements at indices `0, k, 2k, …`.** -/
theorem everyNth_eq_range {k : Nat} (hk : 0 < k) : ∀ xs : List UInt64,
    everyNth k xs = (List.range ((xs.length + k - 1) / k)).map fun j => xs.getD (j * k) 0
  | [] => by simp [everyNth, hk]
  | x :: rest => by
    rw [everyNth_cons hk, everyNth_eq_range hk ((x :: rest).drop k), List.length_drop,
      blocks_drop hk (x :: rest).length (by simp), List.range_succ_eq_map, List.map_cons, List.map_map]
    congr 1
    · simp
    apply List.map_congr_left
    intro j _
    -- block `j` of the rest is block `j + 1` of the whole list
    simp [List.getD_eq_getElem?_getD, List.getElem?_drop, Nat.succ_mul, Nat.add_comm]
termination_by xs => xs.length
decreasing_by simp; omega

/-- A block index below the block count starts inside the list. -/
theorem mul_lt_of_lt_blocks {k n j : Nat} (hk : 0 < k) (hj : j < (n + k - 1) / k) : j * k < n := by
  have h := (Nat.le_div_iff_mul_le hk).mp hj
  rw [Nat.succ_mul] at h
  omega

/-- **Beyond 10 000 samples, thinning to every `⌊n/1000⌋`-th keeps 1000 to 1100
of them.** -/
theorem thinned_count {n : Nat} (hn : 10000 < n) :
    1000 ≤ (n + n / 1000 - 1) / (n / 1000) ∧ (n + n / 1000 - 1) / (n / 1000) ≤ 1100 := by
  have hk : 10 ≤ n / 1000 := by omega
  constructor
  · -- a thousand whole blocks fit
    rw [Nat.le_div_iff_mul_le (by omega)]
    omega
  · -- the remainder is shorter than a thousand, so at most a hundred more blocks start
    rw [← Nat.lt_succ_iff, Nat.div_lt_iff_lt_mul (by omega)]
    omega

/-! ## Ascending lists -/

/-- In an ascending list a later index holds a value at least as large. -/
theorem getD_le_getD {l : List UInt64} (hl : l.Pairwise (· ≤ ·)) {i j : Nat} (hij : i ≤ j)
    (hj : j < l.length) : l.getD i 0 ≤ l.getD j 0 := by
  rw [List.getD_eq_getElem _ _ (by omega), List.getD_eq_getElem _ _ hj]
  rcases Nat.lt_or_eq_of_le hij with h | rfl
  · exact List.pairwise_iff_getElem.mp hl i j (by omega) hj h
  · exact UInt64.le_refl _

/-- An index inside the list reads one of its elements. -/
theorem getD_mem {l : List UInt64} {i : Nat} (hi : i < l.length) : l.getD i 0 ∈ l := by
  rw [List.getD_eq_getElem _ _ hi]
  exact List.getElem_mem hi

/-- The first element of an ascending list is its least. -/
theorem getD_zero_le {l : List UInt64} (hl : l.Pairwise (· ≤ ·)) {x : UInt64} (hx : x ∈ l) :
    l.getD 0 0 ≤ x := by
  obtain ⟨i, hi, rfl⟩ := List.getElem_of_mem hx
  rw [← List.getD_eq_getElem _ 0 hi]
  exact getD_le_getD hl (Nat.zero_le _) hi

/-- The last element of an ascending list is its greatest. -/
theorem le_getD_last {l : List UInt64} (hl : l.Pairwise (· ≤ ·)) {x : UInt64} (hx : x ∈ l) :
    x ≤ l.getD (l.length - 1) 0 := by
  obtain ⟨i, hi, rfl⟩ := List.getElem_of_mem hx
  rw [← List.getD_eq_getElem _ 0 hi]
  exact getD_le_getD hl (by omega) (by omega)

/-- Reading an ascending list at ascending indices inside it gives an ascending list. -/
theorem ascending_thinned {l : List UInt64} (hl : l.Pairwise (· ≤ ·)) {k : Nat} (hk : 0 < k) :
    ((List.range ((l.length + k - 1) / k)).map fun j => l.getD (j * k) 0).Pairwise (· ≤ ·) := by
  apply List.pairwise_map.mpr
  refine List.Pairwise.imp_of_mem (fun {a b} _ hb hab => ?_) List.pairwise_le_range
  exact getD_le_getD hl (Nat.mul_le_mul_right _ hab)
    (mul_lt_of_lt_blocks hk (List.mem_range.mp hb))

/-- **The kept samples ascend from the first**, all `n` of them up to 10 000 and
otherwise every `⌊n/1000⌋`-th, 1000 to 1100 of them. -/
theorem kept_ascends {sorted : List UInt64} (hasc : sorted.Pairwise (· ≤ ·)) {n : Nat}
    (hlen : sorted.length = n) (hn : 0 < n) :
    let kept := if n ≤ 10000 then sorted else
      (List.range ((n + n / 1000 - 1) / (n / 1000))).map fun j => sorted.getD (j * (n / 1000)) 0
    kept.Pairwise (· ≤ ·) ∧ kept.head? = some (sorted.getD 0 0) ∧
      (10000 < n → 1000 ≤ kept.length ∧ kept.length ≤ 1100) := by
  intro kept
  by_cases hbig : 10000 < n
  · -- thinned: the step ⌊n/1000⌋ is positive and index 0 is read first
    have hcount := thinned_count hbig
    simp only [kept, if_neg (Nat.not_le.mpr hbig)]
    refine ⟨hlen ▸ ascending_thinned hasc (by omega), ?_, fun _ => by simpa using hcount⟩
    obtain ⟨c, hc⟩ : ∃ c, (n + n / 1000 - 1) / (n / 1000) = c + 1 :=
      ⟨_, (Nat.succ_pred_eq_of_pos (by omega)).symm⟩
    rw [hc, List.range_succ_eq_map]
    simp
  · simp only [kept, if_pos (Nat.le_of_not_lt hbig)]
    refine ⟨hasc, ?_, fun h => absurd h hbig⟩
    obtain ⟨x, rest, rfl⟩ := List.exists_cons_of_ne_nil (List.ne_nil_of_length_pos (hlen ▸ hn))
    simp

/-- The samples sorted by `ofSamples` are ascending. -/
theorem ascending_mergeSort (samples : List UInt64) :
    (samples.mergeSort (· ≤ ·)).Pairwise (· ≤ ·) := by
  have sorted := @List.pairwise_mergeSort UInt64 (fun a b => decide (a ≤ b))
    (fun _ _ _ hab hbc => by
      simp only [decide_eq_true_eq] at hab hbc ⊢
      exact UInt64.le_trans hab hbc)
    (fun a b => by simpa using UInt64.le_total a b) samples
  exact sorted.imp fun h => by simpa using h

/-- The samples have one ascending arrangement. -/
theorem eq_mergeSort_of_ascending {samples sorted : List UInt64} (hperm : sorted.Perm samples)
    (hasc : sorted.Pairwise (· ≤ ·)) : sorted = samples.mergeSort (· ≤ ·) :=
  List.Perm.eq_of_pairwise (fun _ _ _ _ hab hba => UInt64.le_antisymm hab hba) hasc
    (ascending_mergeSort samples) (hperm.trans (List.mergeSort_perm _ _).symm)

end LatencyMetrics

/-! ## Checked sums -/

/-- The exact sum of words is the sum of their values. -/
theorem UInt64.natSum_eq_sum (l : List UInt64) : UInt64.natSum l = (l.map UInt64.toNat).sum := by
  induction l with
  | nil => rfl
  | cons x xs ih => simp [UInt64.natSum, ih]

/-- Reordering words does not change their exact sum. -/
theorem UInt64.natSum_perm {l₁ l₂ : List UInt64} (h : l₁.Perm l₂) :
    UInt64.natSum l₁ = UInt64.natSum l₂ := by
  rw [UInt64.natSum_eq_sum, UInt64.natSum_eq_sum]
  exact (h.map _).sum_eq

/-- A checked sum that fails reports an overflowing addition. -/
theorem UInt64.foldlM_addChecked_error (xs : List UInt64) (acc : UInt64) (e : Fault)
    (h : xs.foldlM UInt64.addChecked acc = .error e) : e = .overflow .add := by
  induction xs generalizing acc with
  | nil => cases h
  | cons x xs ih =>
    simp only [List.foldlM_cons] at h
    unfold UInt64.addChecked at h
    split at h
    · exact ih _ h
    · cases h
      rfl

/-- **A checked sum is the exact sum when it fits, and an overflow otherwise.** -/
theorem UInt64.sumChecked_eq (xs : List UInt64) :
    UInt64.sumChecked xs = if UInt64.natSum xs < UInt64.size then .ok (UInt64.ofNat (UInt64.natSum xs))
      else .error (.overflow .add) := by
  split
  · next hlt => exact (UInt64.sumChecked_eq_ok_iff _ _).mpr ⟨hlt, UInt64.toNat_ofNat_of_lt' hlt⟩
  · next hge =>
    cases hs : UInt64.sumChecked xs with
    | error e => rw [UInt64.foldlM_addChecked_error _ _ _ hs]
    | ok r => exact absurd ((UInt64.sumChecked_eq_ok_iff _ _).mp hs).1 hge

namespace LatencyMetrics

/-- What `ofSamples` reads off the sorted samples once their sum fits. -/
theorem ofSamples_eq_ok {samples : List UInt64} (hne : samples ≠ []) {keepRaw : Bool}
    {m : LatencyMetrics} (h : ofSamples samples keepRaw = .ok m) :
    m.minNs = (samples.mergeSort (· ≤ ·)).getD 0 0 ∧
    m.maxNs = (samples.mergeSort (· ≤ ·)).getD (samples.length - 1) 0 ∧
    m.medianNs = (samples.mergeSort (· ≤ ·)).getD (samples.length / 2) 0 ∧
    m.p95Ns = (samples.mergeSort (· ≤ ·)).getD
      (quantileIndex samples.length (Rounding.fraction 95 100)) 0 ∧
    m.p99Ns = (samples.mergeSort (· ≤ ·)).getD
      (quantileIndex samples.length (Rounding.fraction 99 100)) 0 ∧
    m.samples = if keepRaw then some (if samples.length > 10000 then
      everyNth (samples.length / 1000) (samples.mergeSort (· ≤ ·)) else samples.mergeSort (· ≤ ·))
      else none := by
  have hemp : samples.isEmpty = false := List.isEmpty_eq_false_iff.mpr hne
  unfold ofSamples at h
  simp only [hemp, Bool.false_eq_true, if_false] at h
  cases hs : UInt64.sumChecked (samples.mergeSort (· ≤ ·)) with
  | error e => simp [hs, bind, Except.bind] at h
  | ok sum =>
    simp only [hs, bind, Except.bind, pure, Except.pure, Except.ok.injEq] at h
    subst h
    simp [List.length_mergeSort]

/-- **The statistics are computed exactly when the samples add up to less than
`2^64`**; otherwise the sum overflows. -/
theorem ofSamples_isOk_iff {samples : List UInt64} (hne : samples ≠ []) (keepRaw : Bool) :
    (∃ m, ofSamples samples keepRaw = .ok m) ↔ UInt64.natSum samples < UInt64.size := by
  have hemp : samples.isEmpty = false := List.isEmpty_eq_false_iff.mpr hne
  unfold ofSamples
  simp only [hemp, Bool.false_eq_true, if_false]
  rw [UInt64.sumChecked_eq, UInt64.natSum_perm (List.mergeSort_perm _ _)]
  split
  · next hlt => simp [bind, Except.bind, pure, Except.pure, hlt]
  · next hge => simp [bind, Except.bind, hge]

/-- Statistics that are not computed fail on the sum. -/
theorem ofSamples_eq_error {samples : List UInt64} (hne : samples ≠ []) {keepRaw : Bool} {e : Fault}
    (h : ofSamples samples keepRaw = .error e) : e = .overflow .add := by
  have hemp : samples.isEmpty = false := List.isEmpty_eq_false_iff.mpr hne
  unfold ofSamples at h
  simp only [hemp, Bool.false_eq_true, if_false] at h
  rw [UInt64.sumChecked_eq] at h
  split at h
  · simp [bind, Except.bind, pure, Except.pure] at h
  · simpa [bind, Except.bind] using h.symm

/-- **What the statistics of a nonempty list of samples state**, read against
`sorted`, the samples in ascending order. -/
structure Describes (samples sorted : List UInt64) (keepRaw : Bool) (m : LatencyMetrics) : Prop where
  /-- The minimum is a sample below every sample. -/
  min_mem : m.minNs ∈ samples
  min_le : ∀ x ∈ samples, m.minNs ≤ x
  /-- The maximum is a sample above every sample. -/
  max_mem : m.maxNs ∈ samples
  le_max : ∀ x ∈ samples, x ≤ m.maxNs
  /-- The median is the sample of rank `⌊n/2⌋`. -/
  median_eq : m.medianNs = sorted.getD (samples.length / 2) 0
  /-- The percentiles are samples. -/
  p95_mem : m.p95Ns ∈ samples
  p99_mem : m.p99Ns ∈ samples
  /-- The five statistics ascend. -/
  min_le_median : m.minNs ≤ m.medianNs
  median_le_p95 : m.medianNs ≤ m.p95Ns
  p95_le_p99 : m.p95Ns ≤ m.p99Ns
  p99_le_max : m.p99Ns ≤ m.maxNs
  /-- On request the samples are kept: all of them up to 10 000, otherwise those
  at indices `0, k, 2k, …` for `k = ⌊n/1000⌋`. -/
  kept_eq : m.samples = if keepRaw then some (if samples.length ≤ 10000 then sorted else
    (List.range ((samples.length + samples.length / 1000 - 1) / (samples.length / 1000))).map
      fun j => sorted.getD (j * (samples.length / 1000)) 0) else none
  /-- Kept samples ascend from the minimum, 1000 to 1100 of them when thinned. -/
  kept_ascending : ∀ kept, m.samples = some kept → kept.Pairwise (· ≤ ·) ∧
    kept.head? = some m.minNs ∧ (10000 < samples.length → 1000 ≤ kept.length ∧ kept.length ≤ 1100)

/-- Computed statistics describe the samples against their sorted arrangement. -/
theorem describes_of_eq_ok {samples : List UInt64} (hne : samples ≠ []) {keepRaw : Bool}
    {m : LatencyMetrics} (h : ofSamples samples keepRaw = .ok m) :
    m.Describes samples (samples.mergeSort (· ≤ ·)) keepRaw := by
  obtain ⟨hmin, hmax, hmedian, hp95, hp99, hkept⟩ := ofSamples_eq_ok hne h
  generalize hsorted : samples.mergeSort (· ≤ ·) = sorted at hmin hmax hmedian hp95 hp99 hkept
  have hperm : sorted.Perm samples := hsorted ▸ List.mergeSort_perm _ _
  have hasc : sorted.Pairwise (· ≤ ·) := hsorted ▸ ascending_mergeSort samples
  have hlen : sorted.length = samples.length := hperm.length_eq
  have hn : 0 < samples.length := List.length_pos_iff.mpr hne
  have hmem : ∀ {i}, i < samples.length → sorted.getD i 0 ∈ samples :=
    fun hi => hperm.mem_iff.mp (getD_mem (hlen ▸ hi))
  have hle : ∀ {i j}, i ≤ j → j < samples.length → sorted.getD i 0 ≤ sorted.getD j 0 :=
    fun hij hj => getD_le_getD hasc hij (hlen ▸ hj)
  have h95 := quantileIndex_lt hn (Rounding.fraction 95 100)
  have h99 := quantileIndex_lt hn (Rounding.fraction 99 100)
  -- beyond 10 000 samples the thinning step is positive
  have hthin : 10000 < samples.length →
      everyNth (samples.length / 1000) sorted = (List.range ((samples.length + samples.length / 1000 - 1) /
        (samples.length / 1000))).map fun j => sorted.getD (j * (samples.length / 1000)) 0 := by
    intro hbig
    rw [everyNth_eq_range (by omega), hlen]
  have hkept' : m.samples = if keepRaw then some (if samples.length ≤ 10000 then sorted else
      (List.range ((samples.length + samples.length / 1000 - 1) / (samples.length / 1000))).map
        fun j => sorted.getD (j * (samples.length / 1000)) 0) else none := by
    rw [hkept]
    by_cases hbig : 10000 < samples.length
    · simp [hbig, hthin hbig, Nat.not_le.mpr hbig]
    · simp [hbig, Nat.le_of_not_lt hbig]
  refine
    { min_mem := by rw [hmin]; exact hmem hn
      min_le := fun x hx => by rw [hmin]; exact getD_zero_le hasc (hperm.mem_iff.mpr hx)
      max_mem := by rw [hmax]; exact hmem (by omega)
      le_max := fun x hx => by rw [hmax, ← hlen]; exact le_getD_last hasc (hperm.mem_iff.mpr hx)
      median_eq := hmedian
      p95_mem := by rw [hp95]; exact hmem h95
      p99_mem := by rw [hp99]; exact hmem h99
      min_le_median := by rw [hmin, hmedian]; exact hle (Nat.zero_le _) (by omega)
      median_le_p95 := by rw [hmedian, hp95]; exact hle (half_le_quantileIndex hn) h95
      p95_le_p99 := by rw [hp95, hp99]; exact hle (quantileIndex_le_quantileIndex _) h99
      p99_le_max := by rw [hp99, hmax]; exact hle (by omega) (by omega)
      kept_eq := hkept'
      kept_ascending := fun kept hk => ?_ }
  rw [hkept'] at hk
  cases keepRaw with
  | false => cases hk
  | true =>
    simp only [if_true, Option.some.injEq] at hk
    subst hk
    rw [hmin]
    exact kept_ascends hasc hlen hn

/-- **Latency statistics**: for every nonempty list of samples, the statistics are
computed exactly when the samples add up to less than `2^64`, and then, against
the samples' ascending arrangement, the minimum and maximum are the least and
greatest sample, the median is the sample of rank `⌊n/2⌋`, the percentiles are
samples, the five ascend, and the kept samples are all of them up to 10 000 and
otherwise every `⌊n/1000⌋`-th, ascending from the minimum, 1000 to 1100 long. -/
theorem ofSamples_describes (samples : List UInt64) (keepRaw : Bool) (hne : samples ≠ []) :
    ((∃ m, ofSamples samples keepRaw = .ok m) ↔ UInt64.natSum samples < UInt64.size) ∧
    ∀ m, ofSamples samples keepRaw = .ok m →
      ∀ sorted, sorted.Perm samples → sorted.Pairwise (· ≤ ·) → m.Describes samples sorted keepRaw := by
  refine ⟨ofSamples_isOk_iff hne keepRaw, fun m h sorted hperm hasc => ?_⟩
  rw [eq_mergeSort_of_ascending hperm hasc]
  exact describes_of_eq_ok hne h

/-- The statistics of three samples out of order. -/
theorem ofSamples_describes_three : ([3, 1, 2] : List UInt64) ≠ [] ∧
    (((∃ m, ofSamples [3, 1, 2] true = .ok m) ↔ UInt64.natSum [3, 1, 2] < UInt64.size) ∧
    ∀ m, ofSamples [3, 1, 2] true = .ok m →
      ∀ sorted, sorted.Perm [3, 1, 2] → sorted.Pairwise (· ≤ ·) → m.Describes [3, 1, 2] sorted true) :=
  ⟨by simp, ofSamples_describes [3, 1, 2] true (by simp)⟩

/-- Two samples whose sum passes `2^64` abort the statistics. -/
theorem samples_sum_overflows :
    ofSamples [18446744073709551615, 1] false = .error (.overflow .add) := by
  have hne : ([18446744073709551615, 1] : List UInt64) ≠ [] := by simp
  cases h : ofSamples [18446744073709551615, 1] false with
  | ok m =>
    have hfit := (ofSamples_isOk_iff hne false).mp ⟨m, h⟩
    exact absurd hfit (by decide)
  | error e => rw [ofSamples_eq_error hne h]

end LatencyMetrics

end ShmBench

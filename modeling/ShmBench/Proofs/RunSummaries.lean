import Mathlib
import ShmBench.Bench.Summary
import ShmBench.Proofs.SampleStatistics

/-!
# Summaries of a run

The overhead breakdown and the latency results average the successful latency
records; the bandwidth summaries group bandwidth records by frame.  This module
states what they compute, for every list of records.

* A component of the breakdown is the least, the greatest and the rounded-down
  mean of one field over the successful records, the mean between the other two
  (`Component.Describes`).  There is no breakdown exactly when no record
  succeeded, and every record is attempted (`OverheadBreakdown.Describes`).
* `BandwidthSummary.byFrame` is a partition: one summary per frame, in order of
  first appearance (`frames_firstAppearance`), counting the frame's records and
  its successful ones, and the counts add up to the number of records
  (`sum_attempted`).

Both sum durations in 64 bits, and that is where they fail: each is computed
exactly when its sums fit (`ofRecords_isOk_iff`, `latencyResults_isOk_iff`,
`bandwidthResults_isOk_iff`).
-/

namespace ShmBench

/-! ## Checked computations in sequence -/

namespace Checked

variable {α β : Type}

/-- A sequence gives a result when its first step gives one that the rest takes
to it. -/
theorem bind_eq_ok {x : Checked α} {f : α → Checked β} {b : β} :
    x >>= f = .ok b ↔ ∃ a, x = .ok a ∧ f a = .ok b := by
  cases x with
  | error e => simp [bind, Except.bind]
  | ok a => simp [bind, Except.bind]

/-- A computation run over a list gives one result per element, in order. -/
theorem mapM_eq_ok {f : α → Checked β} {l : List α} {rs : List β} :
    l.mapM f = .ok rs ↔ List.Forall₂ (fun a r => f a = .ok r) l rs := by
  induction l generalizing rs with
  | nil => cases rs <;> simp [pure, Except.pure]
  | cons a l ih =>
    cases rs with
    | nil => simp [List.mapM_cons, bind_eq_ok, pure, Except.pure]
    | cons r rs => simp [List.mapM_cons, bind_eq_ok, ih, pure, Except.pure]

/-- A computation run over a list succeeds when it does on every element. -/
theorem mapM_isOk {f : α → Checked β} {l : List α} :
    (∃ rs, l.mapM f = .ok rs) ↔ ∀ a ∈ l, ∃ r, f a = .ok r := by
  simp only [mapM_eq_ok]
  induction l with
  | nil => exact ⟨fun _ => by simp, fun _ => ⟨[], .nil⟩⟩
  | cons a l ih =>
    rw [List.forall_mem_cons, ← ih]
    constructor
    · rintro ⟨_, hall⟩
      obtain ⟨r, rs, hr, hrs, rfl⟩ := List.forall₂_cons_left_iff.mp hall
      exact ⟨⟨r, hr⟩, rs, hrs⟩
    · rintro ⟨⟨r, hr⟩, rs, hrs⟩
      exact ⟨r :: rs, .cons hr hrs⟩

end Checked

/-! ## Results over samples -/

/-- Any list of samples, the empty one included, has statistics exactly when its
sum fits in a word. -/
theorem LatencyMetrics.ofSamples_isOk_iff_sum (samples : List UInt64) (keepRaw : Bool) :
    (∃ m, LatencyMetrics.ofSamples samples keepRaw = .ok m) ↔
      UInt64.natSum samples < UInt64.size := by
  cases samples with
  | nil => exact ⟨fun _ => by decide, fun _ => ⟨LatencyMetrics.empty, rfl⟩⟩
  | cons x xs => exact LatencyMetrics.ofSamples_isOk_iff (List.cons_ne_nil x xs) keepRaw

namespace BenchmarkResult

/-- A latency result is made exactly when the statistics of its samples are,
and counts one iteration per sample. -/
theorem ofLatency_eq_ok {name : String} {c : BenchmarkCategory} {samples : List UInt64}
    {keepRaw : Bool} {r : BenchmarkResult} :
    ofLatency name c samples keepRaw = .ok r ↔
      ∃ m, LatencyMetrics.ofSamples samples keepRaw = .ok m ∧
        r = ⟨name, c, some m, none, samples.length.toUInt64, []⟩ := by
  unfold ofLatency
  simp only [Checked.bind_eq_ok, pure, Except.pure, Except.ok.injEq]
  exact exists_congr fun _ => and_congr_right fun _ => eq_comm

@[simp] theorem withMetadata_name (r : BenchmarkResult) (key : String) (value : Json) :
    (r.withMetadata key value).name = r.name := by
  unfold withMetadata
  split <;> rfl

@[simp] theorem withMetadata_iterations (r : BenchmarkResult) (key : String) (value : Json) :
    (r.withMetadata key value).iterations = r.iterations := by
  unfold withMetadata
  split <;> rfl

@[simp] theorem withThroughput_name (r : BenchmarkResult) (bytes : UInt64) :
    (r.withThroughput bytes).name = r.name := by
  unfold withThroughput
  split <;> rfl

@[simp] theorem withThroughput_iterations (r : BenchmarkResult) (bytes : UInt64) :
    (r.withThroughput bytes).iterations = r.iterations := by
  unfold withThroughput
  split <;> rfl

end BenchmarkResult

/-! ## Components -/

/-- The larger of two words is one of them and at least both: the greatest of
a list is then one of its words above all of them (`List.max?_eq_some_iff`). -/
instance lawfulOrderMaxUInt64 : Std.LawfulOrderMax UInt64 :=
  Std.LawfulOrderMax.of_le_max
    (fun a b => by
      change a ≤ if a ≤ b then b else a
      split
      · assumption
      · exact UInt64.le_refl a)
    (fun a b => by
      change b ≤ if a ≤ b then b else a
      split
      · exact UInt64.le_refl b
      · next h => exact UInt64.le_of_lt (UInt64.not_le.mp h))
    (fun a b => by
      change (if a ≤ b then b else a) = a ∨ (if a ≤ b then b else a) = b
      split
      · exact .inr rfl
      · exact .inl rfl)

/-- Words each at least `m` add up to at least `m` times their count. -/
theorem UInt64.length_mul_le_natSum {l : List UInt64} {m : UInt64} (h : ∀ x ∈ l, m ≤ x) :
    l.length * m.toNat ≤ UInt64.natSum l := by
  have hvalues : ∀ v ∈ l.map UInt64.toNat, m.toNat ≤ v := by
    simpa using fun x hx => UInt64.le_iff_toNat_le.mp (h x hx)
  simpa [UInt64.natSum_eq_sum] using List.card_nsmul_le_sum _ _ hvalues

/-- Words each at most `m` add up to at most `m` times their count. -/
theorem UInt64.natSum_le_length_mul {l : List UInt64} {m : UInt64} (h : ∀ x ∈ l, x ≤ m) :
    UInt64.natSum l ≤ l.length * m.toNat := by
  have hvalues : ∀ v ∈ l.map UInt64.toNat, v ≤ m.toNat := by
    simpa using fun x hx => UInt64.le_iff_toNat_le.mp (h x hx)
  simpa [UInt64.natSum_eq_sum] using List.sum_le_card_nsmul _ _ hvalues

namespace Component

/-- **What the component of a nonempty list of values states.** -/
structure Describes (values : List UInt64) (c : Component) : Prop where
  /-- The minimum is a value below every value. -/
  min_mem : c.minNs ∈ values
  min_le : ∀ x ∈ values, c.minNs ≤ x
  /-- The maximum is a value above every value. -/
  max_mem : c.maxNs ∈ values
  le_max : ∀ x ∈ values, x ≤ c.maxNs
  /-- The mean is the sum over the count, rounded down. -/
  mean_eq : c.meanNs.toNat = UInt64.natSum values / values.length
  /-- The mean lies between the minimum and the maximum. -/
  min_le_mean : c.minNs ≤ c.meanNs
  mean_le_max : c.meanNs ≤ c.maxNs

/-- A component is computed exactly when its values add up to less than `2^64`. -/
theorem ofValues_isOk_iff (values : List UInt64) (totalSum : UInt64) :
    (∃ c, ofValues values totalSum = .ok c) ↔ UInt64.natSum values < UInt64.size := by
  unfold ofValues
  rw [UInt64.sumChecked_eq]
  split
  · next hlt => simp [bind, Except.bind, pure, Except.pure, hlt]
  · next hge => simp [bind, Except.bind, hge]

/-- A computed component of a nonempty list of values, fewer than `2^64` of
them, describes them. -/
theorem describes_of_eq_ok {values : List UInt64} (hne : values ≠ [])
    (hlen : values.length < UInt64.size) {totalSum : UInt64} {c : Component}
    (h : ofValues values totalSum = .ok c) : c.Describes values := by
  unfold ofValues at h
  obtain ⟨sum, hsum, hc⟩ := Checked.bind_eq_ok.mp h
  have hsumNat := ((UInt64.sumChecked_eq_ok_iff _ _).mp hsum).2
  simp only [pure, Except.pure, Except.ok.injEq] at hc
  subst hc
  obtain ⟨lo, hlo⟩ := Option.ne_none_iff_exists'.mp (mt List.min?_eq_none_iff.mp hne)
  obtain ⟨hi, hhi⟩ := Option.ne_none_iff_exists'.mp (mt List.max?_eq_none_iff.mp hne)
  obtain ⟨hlo_mem, hlo_le⟩ := List.min?_eq_some_iff.mp hlo
  obtain ⟨hhi_mem, hhi_le⟩ := List.max?_eq_some_iff.mp hhi
  have hn : 0 < values.length := List.length_pos_iff.mpr hne
  -- the count is the length itself, below `2^64`
  have hmean : (sum / (max values.length 1).toUInt64).toNat = UInt64.natSum values / values.length := by
    rw [UInt64.toNat_div, hsumNat, Nat.max_eq_left hn]
    exact congrArg _ (UInt64.toNat_ofNat_of_lt' hlen)
  have hlow := UInt64.length_mul_le_natSum hlo_le
  have hhigh := UInt64.natSum_le_length_mul hhi_le
  simp only [hlo, hhi, Option.getD_some]
  refine ⟨hlo_mem, hlo_le, hhi_mem, hhi_le, hmean, ?_, ?_⟩
  · rw [UInt64.le_iff_toNat_le, hmean, Nat.le_div_iff_mul_le hn, Nat.mul_comm]
    exact hlow
  · rw [UInt64.le_iff_toNat_le, hmean]
    exact Nat.div_le_of_le_mul hhigh

end Component

/-! ## The overhead breakdown -/

namespace OverheadBreakdown

/-- The fields the breakdown averages, in the order it computes them: write,
round trip, notification, cold read, copy, verify and end-to-end total. -/
def fields : List (LatencyRecord → UInt64) :=
  [(·.writeNs), (·.roundtripNs), (·.notificationEstNs), (·.coldReadNs), (·.copyNs),
   (·.verifyNs), (·.totalNs)]

/-- **What the breakdown of latency records states.** -/
structure Describes (records : List LatencyRecord) (b : OverheadBreakdown) : Prop where
  /-- Every record is attempted; the successful ones are counted. -/
  attempted_eq : b.attempted = records.length
  successful_eq : b.successful = (records.filter (·.success)).length
  /-- Each component is over the successful records only. -/
  write : b.write.Describes ((records.filter (·.success)).map (·.writeNs))
  roundtrip : b.roundtrip.Describes ((records.filter (·.success)).map (·.roundtripNs))
  notification : b.notification.Describes ((records.filter (·.success)).map (·.notificationEstNs))
  read : b.read.Describes ((records.filter (·.success)).map (·.coldReadNs))
  copy : b.copy.Describes ((records.filter (·.success)).map (·.copyNs))
  verify : b.verify.Describes ((records.filter (·.success)).map (·.verifyNs))
  total : b.total.Describes ((records.filter (·.success)).map (·.totalNs))

/-- With no successful record there is no breakdown. -/
theorem ofRecords_of_none {records : List LatencyRecord} (h : records.filter (·.success) = []) :
    ofRecords records = .ok none := by
  unfold ofRecords
  simp [h, pure, Except.pure]

/-- With a successful record, a breakdown that is computed is one, each
component taken from its field against the summed totals. -/
theorem ofRecords_eq_ok {records : List LatencyRecord} (hne : records.filter (·.success) ≠ [])
    {r : Option OverheadBreakdown} (h : ofRecords records = .ok r) :
    ∃ b t, r = some b ∧ b.attempted = records.length ∧
      b.successful = (records.filter (·.success)).length ∧
      Component.ofValues ((records.filter (·.success)).map (·.writeNs)) t = .ok b.write ∧
      Component.ofValues ((records.filter (·.success)).map (·.roundtripNs)) t = .ok b.roundtrip ∧
      Component.ofValues ((records.filter (·.success)).map (·.notificationEstNs)) t = .ok b.notification ∧
      Component.ofValues ((records.filter (·.success)).map (·.coldReadNs)) t = .ok b.read ∧
      Component.ofValues ((records.filter (·.success)).map (·.copyNs)) t = .ok b.copy ∧
      Component.ofValues ((records.filter (·.success)).map (·.verifyNs)) t = .ok b.verify ∧
      Component.ofValues ((records.filter (·.success)).map (·.totalNs)) t = .ok b.total := by
  unfold ofRecords at h
  simp only [List.isEmpty_eq_false_iff.mpr hne, Bool.false_eq_true, if_false,
    Checked.bind_eq_ok, pure, Except.pure, Except.ok.injEq] at h
  obtain ⟨t, -, w, hw, rt, hrt, n, hn, rd, hrd, cp, hcp, vf, hvf, tt, htt, rfl⟩ := h
  exact ⟨_, t, rfl, rfl, rfl, hw, hrt, hn, hrd, hcp, hvf, htt⟩

/-- **The breakdown is computed exactly when every averaged field adds up, over
the successful records, to less than `2^64`.** -/
theorem ofRecords_isOk_iff (records : List LatencyRecord) :
    (∃ r, ofRecords records = .ok r) ↔
      ∀ f ∈ fields, UInt64.natSum ((records.filter (·.success)).map f) < UInt64.size := by
  by_cases hne : records.filter (·.success) = []
  · -- nothing is summed
    simp only [hne, List.map_nil]
    exact ⟨fun _ _ _ => by decide, fun _ => ⟨none, ofRecords_of_none hne⟩⟩
  simp only [fields, List.mem_cons, List.not_mem_nil, or_false, forall_eq_or_imp, forall_eq]
  constructor
  · rintro ⟨r, h⟩
    obtain ⟨b, t, -, -, -, hw, hrt, hn, hrd, hcp, hvf, htt⟩ := ofRecords_eq_ok hne h
    have fits : ∀ {values c}, Component.ofValues values t = .ok c → UInt64.natSum values < UInt64.size :=
      fun hc => (Component.ofValues_isOk_iff _ t).mp ⟨_, hc⟩
    exact ⟨fits hw, fits hrt, fits hn, fits hrd, fits hcp, fits hvf, fits htt⟩
  · rintro ⟨hw, hrt, hn, hrd, hcp, hvf, htt⟩
    -- every sum fits, so each step of the breakdown gives its value
    obtain ⟨t, ht⟩ : ∃ t, UInt64.sumChecked ((records.filter (·.success)).map (·.totalNs)) = .ok t := by
      rw [UInt64.sumChecked_eq, if_pos htt]
      exact ⟨_, rfl⟩
    obtain ⟨w, hw⟩ := (Component.ofValues_isOk_iff _ t).mpr hw
    obtain ⟨rt, hrt⟩ := (Component.ofValues_isOk_iff _ t).mpr hrt
    obtain ⟨n, hn⟩ := (Component.ofValues_isOk_iff _ t).mpr hn
    obtain ⟨rd, hrd⟩ := (Component.ofValues_isOk_iff _ t).mpr hrd
    obtain ⟨cp, hcp⟩ := (Component.ofValues_isOk_iff _ t).mpr hcp
    obtain ⟨vf, hvf⟩ := (Component.ofValues_isOk_iff _ t).mpr hvf
    obtain ⟨tt, htt⟩ := (Component.ofValues_isOk_iff _ t).mpr htt
    unfold ofRecords
    simp only [List.isEmpty_eq_false_iff.mpr hne, Bool.false_eq_true, if_false,
      Checked.bind_eq_ok, pure, Except.pure, Except.ok.injEq]
    exact ⟨_, t, ht, w, hw, rt, hrt, n, hn, rd, hrd, cp, hcp, vf, hvf, tt, htt, rfl⟩

/-- **There is no breakdown exactly when no record succeeded.** -/
theorem ofRecords_eq_none_iff (records : List LatencyRecord) :
    ofRecords records = .ok none ↔ ∀ r ∈ records, r.success = false := by
  have hnil : records.filter (·.success) = [] ↔ ∀ r ∈ records, r.success = false := by
    simp [List.filter_eq_nil_iff]
  rw [← hnil]
  constructor
  · intro h
    by_contra hne
    obtain ⟨b, t, hb, -⟩ := ofRecords_eq_ok hne h
    cases hb
  · exact ofRecords_of_none

/-- A computed breakdown of fewer than `2^64` records describes them. -/
theorem describes_of_eq_ok {records : List LatencyRecord} (hlen : records.length < UInt64.size)
    {b : OverheadBreakdown} (h : ofRecords records = .ok (some b)) : b.Describes records := by
  have hne : records.filter (·.success) ≠ [] := fun hnil => by
    rw [ofRecords_of_none hnil] at h
    cases h
  obtain ⟨b', t, hb, hatt, hsucc, hw, hrt, hn, hrd, hcp, hvf, htt⟩ := ofRecords_eq_ok hne h
  cases hb
  -- every field is read over the same successful records: some, and fewer than `2^64`
  have comp : ∀ {f : LatencyRecord → UInt64} {c},
      Component.ofValues ((records.filter (·.success)).map f) t = .ok c →
        c.Describes ((records.filter (·.success)).map f) := fun hc =>
    Component.describes_of_eq_ok (by simpa using hne)
      (by rw [List.length_map]; exact lt_of_le_of_lt (List.length_filter_le _ _) hlen) hc
  exact ⟨hatt, hsucc, comp hw, comp hrt, comp hn, comp hrd, comp hcp, comp hvf, comp htt⟩

end OverheadBreakdown

/-! ## The latency results -/

/-- **The latency results are computed exactly when every reported field adds
up, over the successful records, to less than `2^64`.** -/
theorem latencyResults_isOk_iff (records : List LatencyRecord) :
    (∃ rs, latencyResults records = .ok rs) ↔
      ∀ c ∈ latencyComponents, UInt64.natSum ((records.filter (·.success)).map c.2) < UInt64.size := by
  unfold latencyResults
  rw [Checked.mapM_isOk]
  refine forall₂_congr fun ⟨name, f⟩ _ => ?_
  rw [← LatencyMetrics.ofSamples_isOk_iff_sum _ true]
  constructor
  · rintro ⟨r, hr⟩
    obtain ⟨r₀, h₀, -⟩ := Checked.bind_eq_ok.mp hr
    obtain ⟨m, hm, -⟩ := BenchmarkResult.ofLatency_eq_ok.mp h₀
    exact ⟨m, hm⟩
  · rintro ⟨m, hm⟩
    exact ⟨_, Checked.bind_eq_ok.mpr ⟨_, BenchmarkResult.ofLatency_eq_ok.mpr ⟨m, hm, rfl⟩, rfl⟩⟩

/-- Computed latency results are one per reported field, in order, each
counting the successful records. -/
theorem latencyResults_eq_ok {records : List LatencyRecord} {rs : List BenchmarkResult}
    (h : latencyResults records = .ok rs) :
    List.Forall₂ (fun c r => r.name = c.1 ∧
      r.iterations = (records.filter (·.success)).length.toUInt64) latencyComponents rs := by
  unfold latencyResults at h
  refine (Checked.mapM_eq_ok.mp h).imp fun {c r} hc => ?_
  obtain ⟨name, f⟩ := c
  obtain ⟨r₀, h₀, hr⟩ := Checked.bind_eq_ok.mp hc
  obtain ⟨m, -, rfl⟩ := BenchmarkResult.ofLatency_eq_ok.mp h₀
  simp only [pure, Except.pure, Except.ok.injEq] at hr
  subst hr
  simp

/-- **Overhead breakdown**: for every list of fewer than `2^64` latency records,
the breakdown is computed exactly when each averaged field adds up, over the
successful records, to less than `2^64`; there is none exactly when no record
succeeded, and otherwise every record is attempted and each component is the
least, the greatest and the rounded-down mean of its field over the successful
records only.  The latency results are computed exactly when their sums fit,
and are then nine, one per reported field in order, each counting the
successful records. -/
theorem breakdown_averages_successful (records : List LatencyRecord)
    (hlen : records.length < UInt64.size) :
    ((∃ r, OverheadBreakdown.ofRecords records = .ok r) ↔
      ∀ f ∈ OverheadBreakdown.fields,
        UInt64.natSum ((records.filter (·.success)).map f) < UInt64.size) ∧
    (OverheadBreakdown.ofRecords records = .ok none ↔ ∀ r ∈ records, r.success = false) ∧
    (∀ b, OverheadBreakdown.ofRecords records = .ok (some b) → b.Describes records) ∧
    ((∃ rs, latencyResults records = .ok rs) ↔
      ∀ c ∈ latencyComponents,
        UInt64.natSum ((records.filter (·.success)).map c.2) < UInt64.size) ∧
    ∀ rs, latencyResults records = .ok rs → rs.length = 9 ∧
      List.Forall₂ (fun c r => r.name = c.1 ∧
        r.iterations.toNat = (records.filter (·.success)).length) latencyComponents rs := by
  refine ⟨OverheadBreakdown.ofRecords_isOk_iff records, OverheadBreakdown.ofRecords_eq_none_iff records,
    fun b h => OverheadBreakdown.describes_of_eq_ok hlen h, latencyResults_isOk_iff records,
    fun rs h => ?_⟩
  have hres := latencyResults_eq_ok h
  -- the successful records are fewer than `2^64`, so their count is a word
  have hcount : ((records.filter (·.success)).length.toUInt64).toNat =
      (records.filter (·.success)).length :=
    UInt64.toNat_ofNat_of_lt' (lt_of_le_of_lt (List.length_filter_le _ _) hlen)
  exact ⟨hres.length_eq.symm, hres.imp fun _ _ h => ⟨h.1, by rw [h.2, hcount]⟩⟩

/-- The breakdown and the results of one successful and one failed record. -/
theorem breakdown_averages_successful_mixed :
    ∃ records : List LatencyRecord,
      records = [{ writeNs := 5, totalNs := 10 }, { success := false }] ∧
      records.length < UInt64.size ∧
      (((∃ r, OverheadBreakdown.ofRecords records = .ok r) ↔
        ∀ f ∈ OverheadBreakdown.fields,
          UInt64.natSum ((records.filter (·.success)).map f) < UInt64.size) ∧
      (OverheadBreakdown.ofRecords records = .ok none ↔ ∀ r ∈ records, r.success = false) ∧
      (∀ b, OverheadBreakdown.ofRecords records = .ok (some b) → b.Describes records) ∧
      ((∃ rs, latencyResults records = .ok rs) ↔
        ∀ c ∈ latencyComponents,
          UInt64.natSum ((records.filter (·.success)).map c.2) < UInt64.size) ∧
      ∀ rs, latencyResults records = .ok rs → rs.length = 9 ∧
        List.Forall₂ (fun c r => r.name = c.1 ∧
          r.iterations.toNat = (records.filter (·.success)).length) latencyComponents rs) :=
  ⟨_, rfl, by decide, breakdown_averages_successful _ (by decide)⟩

/-- Two successful writes whose durations add past `2^64` abort the breakdown. -/
theorem breakdown_write_sum_overflows :
    OverheadBreakdown.ofRecords [{ writeNs := 18446744073709551615 }, { writeNs := 1 }] =
      .error (.overflow .add) := rfl

/-! ## Bandwidth by frame -/

namespace BandwidthSummary

/-- One more record adds its frame to the frames seen, when it is new. -/
theorem frames_concat (records : List BandwidthRecord) (r : BandwidthRecord) :
    frames (records ++ [r]) =
      if r.frame ∈ frames records then frames records else frames records ++ [r.frame] := by
  unfold frames
  rw [List.foldl_concat]
  simp only [List.contains_iff_mem]

/-- A frame is listed exactly when some record has it. -/
theorem mem_frames {records : List BandwidthRecord} {f : FrameSpec} :
    f ∈ frames records ↔ ∃ r ∈ records, r.frame = f := by
  induction records using List.reverseRecOn with
  | nil => simp [frames]
  | append_singleton records r ih =>
    have hseen : (∃ x ∈ records ++ [r], x.frame = f) ↔ f ∈ frames records ∨ r.frame = f := by
      simp [ih, or_and_right, exists_or]
    rw [frames_concat, hseen]
    split
    · next hr => exact ⟨.inl, fun h => h.elim id fun e => e ▸ hr⟩
    · simp [eq_comm]

/-- A frame already seen keeps its first index when a record is added. -/
theorem idxOf_concat {records : List BandwidthRecord} {f : FrameSpec} (hf : f ∈ frames records)
    (r : BandwidthRecord) :
    ((records ++ [r]).map (·.frame)).idxOf f = (records.map (·.frame)).idxOf f := by
  rw [List.map_append]
  exact List.idxOf_append_of_mem (List.mem_map.mpr (mem_frames.mp hf))

/-- **Frames are listed in order of first appearance.** -/
theorem frames_firstAppearance (records : List BandwidthRecord) :
    (frames records).Pairwise fun f g =>
      (records.map (·.frame)).idxOf f < (records.map (·.frame)).idxOf g := by
  induction records using List.reverseRecOn with
  | nil => simp [frames]
  | append_singleton records r ih =>
    have hold : (frames records).Pairwise fun f g =>
        ((records ++ [r]).map (·.frame)).idxOf f < ((records ++ [r]).map (·.frame)).idxOf g :=
      ih.imp_of_mem fun hf hg hlt => by rwa [idxOf_concat hf, idxOf_concat hg]
    rw [frames_concat]
    split
    · exact hold
    · next hnew =>
      -- a new frame first appears at the last record, after every frame listed
      have hlast : ((records ++ [r]).map (·.frame)).idxOf r.frame = records.length := by
        rw [List.map_append, List.idxOf_append_of_notMem
          (fun h => hnew (mem_frames.mpr (List.mem_map.mp h))), List.length_map]
        simp
      refine List.pairwise_append.mpr ⟨hold, List.pairwise_singleton _ _, fun f hf g hg => ?_⟩
      rw [List.mem_singleton.mp hg, idxOf_concat hf, hlast]
      calc (records.map (·.frame)).idxOf f < (records.map (·.frame)).length :=
            List.idxOf_lt_length_of_mem (List.mem_map.mpr (mem_frames.mp hf))
        _ = records.length := List.length_map _

/-- Each frame is listed once. -/
theorem nodup_frames (records : List BandwidthRecord) : (frames records).Nodup :=
  (frames_firstAppearance records).imp fun hlt heq => by
    subst heq
    exact lt_irrefl _ hlt

/-- The summaries are of the frames seen. -/
@[simp] theorem byFrame_frame (records : List BandwidthRecord) :
    (byFrame records).map (·.frame) = frames records := by
  simp [byFrame, Function.comp_def]

/-- A frame's records are its occurrences among the frames of the records. -/
theorem count_frame (records : List BandwidthRecord) (f : FrameSpec) :
    (records.map (·.frame)).count f = (records.filter (·.frame == f)).length := by
  rw [List.count, List.countP_map, List.countP_eq_length_filter]
  rfl

/-- A frame's successful records, picked out in one pass. -/
theorem filter_success_frame (records : List BandwidthRecord) (f : FrameSpec) :
    (records.filter (·.frame == f)).filter (·.success) =
      records.filter fun r => r.frame == f && r.success := by
  rw [List.filter_filter]
  congr 1
  funext r
  exact Bool.and_comm _ _

/-- **What the summary of a frame states**, against all the records. -/
structure Describes (records : List BandwidthRecord) (s : BandwidthSummary) : Prop where
  /-- It counts the frame's records and those of them that succeeded. -/
  attempted_eq : s.attempted = records.countP (·.frame == s.frame)
  successful_eq : s.successful = records.countP fun r => r.frame == s.frame && r.success
  /-- Its rates are means over the frame's successful records only. -/
  write_eq : s.writeMbps =
    meanOf (records.filter fun r => r.frame == s.frame && r.success) BandwidthRecord.writeMbps
  read_eq : s.readMbps =
    meanOf (records.filter fun r => r.frame == s.frame && r.success) BandwidthRecord.readMbps
  total_eq : s.totalMbps =
    meanOf (records.filter fun r => r.frame == s.frame && r.success) BandwidthRecord.totalMbps
  /-- A frame without a successful record has no throughput. -/
  rates_zero : s.successful = 0 → s.writeMbps = 0 ∧ s.readMbps = 0 ∧ s.totalMbps = 0

/-- Every summary describes its frame's records. -/
theorem describes_of_mem {records : List BandwidthRecord} {s : BandwidthSummary}
    (hs : s ∈ byFrame records) : s.Describes records := by
  obtain ⟨f, -, rfl⟩ := List.mem_map.mp hs
  dsimp only
  rw [filter_success_frame]
  refine ⟨List.countP_eq_length_filter.symm, List.countP_eq_length_filter.symm, rfl, rfl, rfl, ?_⟩
  intro h0
  -- the mean over no record is zero
  simp [List.length_eq_zero_iff.mp h0, meanOf]

/-- **No record is lost or counted twice**: the frames' record counts add up to
the number of records. -/
theorem sum_attempted (records : List BandwidthRecord) :
    ((byFrame records).map (·.attempted)).sum = records.length := by
  have hcounts : (byFrame records).map (·.attempted) =
      (frames records).map fun f => (records.map (·.frame)).count f := by
    simp [byFrame, count_frame]
  -- the frames listed are the distinct frames of the records, in another order
  have hperm : (frames records).Perm (records.map (·.frame)).dedup :=
    (List.perm_ext_iff_of_nodup (nodup_frames records) (List.nodup_dedup _)).mpr fun f => by
      rw [List.mem_dedup, mem_frames, List.mem_map]
  rw [hcounts, (hperm.map _).sum_eq, List.sum_map_count_dedup_eq_length, List.length_map]

end BandwidthSummary

/-- A frame's size is computed exactly when its products fit in a word. -/
theorem FrameSpec.size_isOk_iff (f : FrameSpec) :
    (∃ n, f.size = .ok n) ↔ f.width.toNat * f.height.toNat < UInt64.size ∧
      f.width.toNat * f.height.toNat * f.bytesPerPixel.toNat < UInt64.size := by
  unfold FrameSpec.size UInt64.mulChecked
  by_cases hwh : f.width.toNat * f.height.toNat < UInt64.size
  · have hmul : (f.width * f.height).toNat = f.width.toNat * f.height.toNat := by
      rw [UInt64.toNat_mul, Nat.mod_eq_of_lt hwh]
    by_cases hb : f.width.toNat * f.height.toNat * f.bytesPerPixel.toNat < UInt64.size
    · simp [hwh, hmul, hb, bind, Except.bind]
    · simp [hwh, hmul, hb, bind, Except.bind]
  · simp [hwh, bind, Except.bind]

/-- **The bandwidth results are computed exactly when, for every frame, its size
and the sum of its successful durations fit in a word.** -/
theorem bandwidthResults_isOk_iff (records : List BandwidthRecord) :
    (∃ rs, bandwidthResults records = .ok rs) ↔ ∀ s ∈ BandwidthSummary.byFrame records,
      (∃ n, s.frame.size = .ok n) ∧
      UInt64.natSum ((records.filter fun r => r.frame == s.frame && r.success).map (·.totalNs)) <
        UInt64.size := by
  unfold bandwidthResults
  rw [Checked.mapM_isOk]
  refine forall₂_congr fun s _ => ?_
  rw [← LatencyMetrics.ofSamples_isOk_iff_sum _ true]
  constructor
  · rintro ⟨r, hr⟩
    obtain ⟨r₀, h₀, hr⟩ := Checked.bind_eq_ok.mp hr
    obtain ⟨n, hn, -⟩ := Checked.bind_eq_ok.mp hr
    obtain ⟨m, hm, -⟩ := BenchmarkResult.ofLatency_eq_ok.mp h₀
    exact ⟨⟨n, hn⟩, m, hm⟩
  · rintro ⟨⟨n, hn⟩, m, hm⟩
    exact ⟨_, Checked.bind_eq_ok.mpr ⟨_, BenchmarkResult.ofLatency_eq_ok.mpr ⟨m, hm, rfl⟩,
      Checked.bind_eq_ok.mpr ⟨n, hn, rfl⟩⟩⟩

/-- Computed bandwidth results are one per summary, in order, each named for its
frame and counting the frame's successful records. -/
theorem bandwidthResults_eq_ok {records : List BandwidthRecord} {rs : List BenchmarkResult}
    (h : bandwidthResults records = .ok rs) :
    List.Forall₂ (fun s r => r.name = "bandwidth_" ++ s.frame.name ∧
      r.iterations = s.successful.toUInt64) (BandwidthSummary.byFrame records) rs := by
  unfold bandwidthResults at h
  have hall := Checked.mapM_eq_ok.mp h
  rw [BandwidthSummary.byFrame, List.forall₂_map_left_iff] at hall ⊢
  refine hall.imp fun {f r} hc => ?_
  obtain ⟨r₀, h₀, hr⟩ := Checked.bind_eq_ok.mp hc
  obtain ⟨n, -, hr⟩ := Checked.bind_eq_ok.mp hr
  obtain ⟨m, -, rfl⟩ := BenchmarkResult.ofLatency_eq_ok.mp h₀
  simp only [pure, Except.pure, Except.ok.injEq] at hr
  subst hr
  refine ⟨by simp, ?_⟩
  simp only [BenchmarkResult.withMetadata_iterations, BenchmarkResult.withThroughput_iterations,
    List.length_map]
  rw [BandwidthSummary.filter_success_frame]

/-- **Bandwidth by frame**: for every list of bandwidth records, the summaries
list each frame of the records once, in order of first appearance; each counts
the frame's records and its successful ones and averages its rates over the
successful ones only, and the counts add up to the number of records.  The
results are computed exactly when each frame's size and the sum of its
successful durations fit in a word, and are then one per summary, in order,
each counting the summary's successful records. -/
theorem byFrame_partitions (records : List BandwidthRecord) :
    (∀ f, f ∈ (BandwidthSummary.byFrame records).map (·.frame) ↔ ∃ r ∈ records, r.frame = f) ∧
    ((BandwidthSummary.byFrame records).map (·.frame)).Nodup ∧
    ((BandwidthSummary.byFrame records).map (·.frame)).Pairwise (fun f g =>
      (records.map (·.frame)).idxOf f < (records.map (·.frame)).idxOf g) ∧
    (∀ s ∈ BandwidthSummary.byFrame records, s.Describes records) ∧
    ((BandwidthSummary.byFrame records).map (·.attempted)).sum = records.length ∧
    ((∃ rs, bandwidthResults records = .ok rs) ↔ ∀ s ∈ BandwidthSummary.byFrame records,
      s.frame.width.toNat * s.frame.height.toNat < UInt64.size ∧
      s.frame.width.toNat * s.frame.height.toNat * s.frame.bytesPerPixel.toNat < UInt64.size ∧
      UInt64.natSum ((records.filter fun r => r.frame == s.frame && r.success).map (·.totalNs)) <
        UInt64.size) ∧
    ∀ rs, bandwidthResults records = .ok rs →
      List.Forall₂ (fun s r => r.name = "bandwidth_" ++ s.frame.name ∧
        r.iterations = s.successful.toUInt64) (BandwidthSummary.byFrame records) rs := by
  rw [BandwidthSummary.byFrame_frame]
  refine ⟨fun _ => BandwidthSummary.mem_frames, BandwidthSummary.nodup_frames records,
    BandwidthSummary.frames_firstAppearance records, fun _ hs => BandwidthSummary.describes_of_mem hs,
    BandwidthSummary.sum_attempted records, ?_, fun _ h => bandwidthResults_eq_ok h⟩
  rw [bandwidthResults_isOk_iff]
  simp only [FrameSpec.size_isOk_iff, and_assoc]

/-- Two successful records of one frame whose durations add past `2^64` leave
the bandwidth results uncomputed. -/
theorem bandwidth_sum_overflows :
    ¬ ∃ rs, bandwidthResults [{ totalNs := 18446744073709551615 }, { totalNs := 1 }] = .ok rs := by
  intro hok
  have hfits := (bandwidthResults_isOk_iff _).mp hok
  rw [BandwidthSummary.byFrame, List.forall_mem_map] at hfits
  -- both records are of the default frame, and their durations do not fit
  exact absurd (hfits FrameSpec.hd (by decide)).2 (by decide)

end ShmBench

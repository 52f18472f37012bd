import ShmBench.Proofs.Serving

/-!
# A pipeline over a sequence of messages

One measurement pipeline measures message after message (`runEach`), keeping
its private buffer from run to run.  Whatever ran before, a run whose buffer
can grow to the payload's length verifies exactly that payload against the
expected digest: the copy is laid over the front of the buffer and only the
payload's own length of it is hashed, so bytes of an earlier, longer payload
never reach the verification (`runWith_of_growCopy_some`).  A run whose buffer
cannot grow reports `AllocationFailed` with no verdict, skips the copy and the
verification and leaves the buffer as it was (`runWith_of_growCopy_none`).
Across a sequence the buffer is as long as the longest payload whose run could
grow it (`copy_size_runEach`), so it never shrinks.

The pipeline is written over one counter source; `runWith` is the same run over
any source given by its two operations.  A run starts the source once and then
stops it once over the payload's length (`runWith_counters`), which a source
that only logs its calls shows (`runWith_logged`).
-/

namespace ShmBench
namespace MeasurementPipeline

/-- **A run over any counter source**, given by its `start` and `stop` and its
state `s`: the report, the source's state afterwards, the private buffer
afterwards and the time the run took.  `run` is this over `CounterSource`
(`run_eq_runWith`). -/
def runWith {σ : Type} (start : σ → σ) (stop : σ → UInt64 → CounterReport × σ) (s : σ)
    (p : MeasurementPipeline) (payload : ByteArray) (expected : Digest) :
    PipelineReport × σ × ByteArray × Nat :=
  let len := payload.size
  let flush := if p.flushCache then Cost.flush len else 0
  let hot := Cost.touchWarm len
  let cold := if p.flushCache then Cost.touchCold len else Cost.touchWarm len
  let (report, s') := stop (start s) len.toUInt64
  let reads := Cost.touchWarm len + Cost.counters + hot + flush + cold + flush
  match p.growCopy len with
  | none =>
    let total := reads + Cost.counters
    let timings : PhaseTimings :=
      { hotReadNs := atLeastOne hot, coldReadNs := atLeastOne cold, totalNs := atLeastOne total }
    (⟨timings, report, .allocationFailed, none⟩, s', p.copy, total)
  | some buffer =>
    let copy := payload.copySlice 0 buffer 0 len
    let verdict := Digest.verify (copy.extract 0 len) expected
    let total := reads + Cost.copy len + Cost.counters + Cost.hash len
    let timings : PhaseTimings :=
      { hotReadNs := atLeastOne hot, coldReadNs := atLeastOne cold,
        copyNs := atLeastOne (Cost.copy len), verifyNs := atLeastOne (Cost.hash len),
        totalNs := atLeastOne total }
    let error := if verdict.isMatch then ResultCode.none else ResultCode.integrityMismatch
    (⟨timings, report, error, some verdict⟩, s', copy, total)

/-- The pipeline's run is the run over its own counter source. -/
theorem run_eq_runWith (p : MeasurementPipeline) (payload : ByteArray) (expected : Digest) :
    p.run payload expected =
      let r := runWith CounterSource.start CounterSource.stop p.counters p payload expected
      (r.1, { p with counters := r.2.1, copy := r.2.2.1 }, r.2.2.2) := by
  simp only [run, runWith]
  -- both take the counters' one result apart, then the buffer's growth
  rcases p.counters.start.stop payload.size.toUInt64 with ⟨report, counters⟩
  cases p.growCopy payload.size <;> rfl

section Runs

variable {σ : Type} (start : σ → σ) (stop : σ → UInt64 → CounterReport × σ) (s : σ)
  {p : MeasurementPipeline} {payload : ByteArray} (expected : Digest)

/-- **Every run starts the source and then stops it over the payload's
length**, and reports what that stop reported. -/
theorem runWith_counters (p : MeasurementPipeline) (payload : ByteArray) :
    (runWith start stop s p payload expected).1.counters =
        (stop (start s) payload.size.toUInt64).1 ∧
      (runWith start stop s p payload expected).2.1 = (stop (start s) payload.size.toUInt64).2 := by
  simp only [runWith]
  rcases stop (start s) payload.size.toUInt64 with ⟨report, s'⟩
  cases p.growCopy payload.size <;> exact ⟨rfl, rfl⟩

/-- A buffer that grows is as long as the longer of itself and the payload. -/
theorem growCopy_size {buffer : ByteArray} {len : Nat} (h : p.growCopy len = some buffer) :
    buffer.size = max p.copy.size len := by
  unfold growCopy at h
  split at h
  · cases h
    omega
  · split at h
    · cases h
      rw [ByteArray.size_append]
      show p.copy.size + (Array.replicate _ 0).size = _
      rw [Array.size_replicate]
      omega
    · cases h

/-- Copying a payload over the front of a buffer at least as long keeps its length. -/
theorem copySlice_size (src dst : ByteArray) (h : src.size ≤ dst.size) :
    (src.copySlice 0 dst 0 src.size).size = dst.size := by
  simp only [ByteArray.copySlice, ByteArray.size, Nat.zero_add, Nat.sub_zero, Array.size_append,
    Array.size_extract] at h ⊢
  omega

/-- **A run whose buffer grows verifies its own payload**, whatever the buffer
held: the verdict is that of the payload against the expected digest, a
mismatch is `IntegrityMismatch`, and the buffer afterwards starts with the
payload and is as long as the longer of the two. -/
theorem runWith_of_growCopy_some {buffer : ByteArray} (h : p.growCopy payload.size = some buffer) :
    let r := runWith start stop s p payload expected
    r.1.verdict = some (Digest.verify payload expected) ∧
      r.1.error = (if (Digest.verify payload expected).isMatch then .none else .integrityMismatch) ∧
      r.2.2.1.extract 0 payload.size = payload ∧ r.2.2.1.size = max p.copy.size payload.size := by
  have hsize := growCopy_size h
  simp only [runWith, h, ByteArray.copySlice_extract_self, true_and]
  exact (copySlice_size _ _ (by omega)).trans hsize

/-- **A run whose buffer cannot grow** reports `AllocationFailed` and no
verdict: the two reads were timed, the copy and the verification skipped, and
the buffer is left as it was. -/
theorem runWith_of_growCopy_none (h : p.growCopy payload.size = none) :
    let r := runWith start stop s p payload expected
    r.1.error = .allocationFailed ∧ r.1.verdict = none ∧ r.1.timings.copyNs = 0 ∧
      r.1.timings.verifyNs = 0 ∧ 0 < r.1.timings.hotReadNs ∧ 0 < r.1.timings.coldReadNs ∧
      r.2.2.1 = p.copy := by
  simp only [runWith, h, true_and, and_true]
  exact ⟨atLeastOne_pos _, atLeastOne_pos _⟩

/-- A failed allocation is the only way a run reports `AllocationFailed`. -/
theorem runWith_error_eq_allocationFailed (p : MeasurementPipeline) (payload : ByteArray) :
    (runWith start stop s p payload expected).1.error = .allocationFailed ↔
      p.growCopy payload.size = none := by
  cases h : p.growCopy payload.size with
  | none => exact iff_of_true (runWith_of_growCopy_none start stop s expected h).1 rfl
  | some buffer =>
    refine iff_of_false ?_ (by simp)
    rw [(runWith_of_growCopy_some start stop s expected h).2.1]
    split <;> simp

end Runs

/-- **A call on a counter source**, as a log records it. -/
inductive CounterCall where
  | start
  | stop (byteCount : UInt64)
  deriving DecidableEq, Repr

/-- A run over a source that only logs its calls makes two: a start, then a
stop over the payload's length. -/
theorem runWith_logged (log : List CounterCall) (p : MeasurementPipeline) (payload : ByteArray)
    (expected : Digest) :
    (runWith (· ++ [.start]) (fun log n => (CounterReport.zeroed, log ++ [.stop n])) log p payload
      expected).2.1 = log ++ [.start, .stop payload.size.toUInt64] := by
  rw [(runWith_counters _ _ _ _ _ _).2]
  simp

/-! ## Message after message -/

/-- **Run messages in order through one pipeline**: the reports, in order, and
the pipeline afterwards. -/
def runEach (p : MeasurementPipeline) :
    List (ByteArray × Digest) → List PipelineReport × MeasurementPipeline
  | [] => ([], p)
  | (payload, expected) :: rest =>
    let r := p.run payload expected
    let out := r.2.1.runEach rest
    (r.1 :: out.1, out.2)

/-- Running two sequences one after the other runs the second from the
pipeline the first left. -/
theorem runEach_append (p : MeasurementPipeline) (xs ys : List (ByteArray × Digest)) :
    p.runEach (xs ++ ys) =
      ((p.runEach xs).1 ++ ((p.runEach xs).2.runEach ys).1, ((p.runEach xs).2.runEach ys).2) := by
  induction xs generalizing p with
  | nil => rfl
  | cons m rest ih =>
    obtain ⟨payload, expected⟩ := m
    simp only [List.cons_append, runEach, ih]

/-- One report per message. -/
@[simp] theorem length_runEach (p : MeasurementPipeline) (msgs : List (ByteArray × Digest)) :
    (p.runEach msgs).1.length = msgs.length := by
  induction msgs generalizing p with
  | nil => rfl
  | cons m rest ih => simp [runEach, ih]

/-- The report for a message of a sequence is that message's run from the
pipeline the earlier messages left. -/
theorem runEach_getElem? (p : MeasurementPipeline) (pre post : List (ByteArray × Digest))
    (payload : ByteArray) (expected : Digest) :
    (p.runEach (pre ++ (payload, expected) :: post)).1[pre.length]? =
      some ((p.runEach pre).2.run payload expected).1 := by
  rw [runEach_append]
  simp [runEach]

/-- One run's buffer: as it was after a failed allocation, else as long as the
longer of itself and the payload. -/
theorem run_copy_size (p : MeasurementPipeline) (payload : ByteArray) (expected : Digest) :
    (p.run payload expected).2.1.copy.size =
      if (p.run payload expected).1.error = .allocationFailed then p.copy.size
      else max p.copy.size payload.size := by
  simp only [run_eq_runWith, runWith_error_eq_allocationFailed]
  cases h : p.growCopy payload.size with
  | none => simp [(runWith_of_growCopy_none _ _ _ expected h).2.2.2.2.2.2]
  | some buffer => simp [(runWith_of_growCopy_some _ _ _ expected h).2.2.2]

/-- **The buffer after a sequence of runs is as long as the longest payload
whose run could grow it**, or as it was at the start when none is longer. -/
theorem copy_size_runEach (p : MeasurementPipeline) (msgs : List (ByteArray × Digest)) :
    (p.runEach msgs).2.copy.size =
      (((msgs.zip (p.runEach msgs).1).filter (·.2.error != .allocationFailed)).map
        (·.1.1.size)).foldl max p.copy.size := by
  induction msgs generalizing p with
  | nil => rfl
  | cons m rest ih =>
    obtain ⟨payload, expected⟩ := m
    simp only [runEach, List.zip_cons_cons, List.filter_cons]
    rw [ih, run_copy_size]
    -- the run grew the buffer exactly when it did not report a failed allocation
    by_cases hf : (p.run payload expected).1.error = .allocationFailed
    · simp [hf]
    · simp [hf]

/-- A run never shrinks the buffer. -/
theorem copy_size_le_run (p : MeasurementPipeline) (payload : ByteArray) (expected : Digest) :
    p.copy.size ≤ (p.run payload expected).2.1.copy.size := by
  rw [run_copy_size]
  split
  · exact Nat.le_refl _
  · exact Nat.le_max_left _ _

/-- Nor does a sequence of runs. -/
theorem copy_size_le_runEach (p : MeasurementPipeline) (msgs : List (ByteArray × Digest)) :
    p.copy.size ≤ (p.runEach msgs).2.copy.size := by
  induction msgs generalizing p with
  | nil => exact Nat.le_refl _
  | cons m rest ih => exact Nat.le_trans (copy_size_le_run p m.1 m.2) (ih _)

/-- **What one run of a pipeline reports, whatever its buffer holds.**  It
reports `AllocationFailed` exactly when the buffer cannot grow, and then no
verdict, no copy or verification time, positive read times and the buffer as it
was; otherwise the payload's own verdict against the expected digest, a mismatch
as `IntegrityMismatch`, and a buffer that starts with the payload.  Either way it
starts the counters and stops them once over the payload's length. -/
theorem run_reports (q : MeasurementPipeline) (payload : ByteArray) (expected : Digest) :
    let r := q.run payload expected
    (r.1.error = .allocationFailed ↔ q.growCopy payload.size = none) ∧
    (r.1.error = .allocationFailed →
      r.1.verdict = none ∧ r.1.timings.copyNs = 0 ∧ r.1.timings.verifyNs = 0 ∧
        0 < r.1.timings.hotReadNs ∧ 0 < r.1.timings.coldReadNs ∧ r.2.1.copy = q.copy) ∧
    (r.1.error ≠ .allocationFailed →
      r.1.verdict = some (Digest.verify payload expected) ∧
        r.1.error = (if (Digest.verify payload expected).isMatch then .none else .integrityMismatch) ∧
        r.2.1.copy.extract 0 payload.size = payload) ∧
    r.1.counters = (q.counters.start.stop payload.size.toUInt64).1 ∧
    r.2.1.counters = (q.counters.start.stop payload.size.toUInt64).2 := by
  simp only [run_eq_runWith]
  have herr := runWith_error_eq_allocationFailed CounterSource.start CounterSource.stop q.counters
    expected q payload
  refine ⟨herr, fun h => ?_, fun h => ?_, (runWith_counters _ _ _ expected q payload).1,
    (runWith_counters _ _ _ expected q payload).2⟩
  · obtain ⟨-, hv, hc, hh, hot, hcold, hb⟩ :=
      runWith_of_growCopy_none CounterSource.start CounterSource.stop q.counters expected (herr.1 h)
    exact ⟨hv, hc, hh, hot, hcold, hb⟩
  · obtain ⟨buffer, hg⟩ := Option.ne_none_iff_exists'.1 (mt herr.2 h)
    obtain ⟨hv, he, hx, -⟩ :=
      runWith_of_growCopy_some CounterSource.start CounterSource.stop q.counters expected hg
    exact ⟨hv, he, hx⟩

/-- **Every run of a sequence verifies its own payload, whatever ran before
it.**  For each message, with `q` the pipeline the earlier runs left, the
sequence reports `q`'s run of it, which is as `run_reports` says, and that run
makes two calls on its counter source, a start and then a stop over the
payload's length, as a source that only logs its calls shows.  Across the
sequence the buffer never shrinks, and ends as long as the longest payload whose
run grew it. -/
theorem runEach_verifies_each_payload (p : MeasurementPipeline)
    (msgs : List (ByteArray × Digest)) :
    (∀ pre payload expected post, msgs = pre ++ (payload, expected) :: post →
      let q := (p.runEach pre).2
      let r := q.run payload expected
      (p.runEach msgs).1[pre.length]? = some r.1 ∧
      (r.1.error = .allocationFailed ↔ q.growCopy payload.size = none) ∧
      (r.1.error = .allocationFailed →
        r.1.verdict = none ∧ r.1.timings.copyNs = 0 ∧ r.1.timings.verifyNs = 0 ∧
          0 < r.1.timings.hotReadNs ∧ 0 < r.1.timings.coldReadNs ∧ r.2.1.copy = q.copy) ∧
      (r.1.error ≠ .allocationFailed →
        r.1.verdict = some (Digest.verify payload expected) ∧
          r.1.error =
            (if (Digest.verify payload expected).isMatch then .none else .integrityMismatch) ∧
          r.2.1.copy.extract 0 payload.size = payload) ∧
      r.1.counters = (q.counters.start.stop payload.size.toUInt64).1 ∧
      r.2.1.counters = (q.counters.start.stop payload.size.toUInt64).2 ∧
      ∀ log, (runWith (· ++ [CounterCall.start])
        (fun log n => (CounterReport.zeroed, log ++ [.stop n])) log q payload expected).2.1 =
          log ++ [.start, .stop payload.size.toUInt64]) ∧
    (∀ pre post, msgs = pre ++ post →
      (p.runEach pre).2.copy.size ≤ (p.runEach msgs).2.copy.size) ∧
    (p.runEach msgs).2.copy.size =
      (((msgs.zip (p.runEach msgs).1).filter (·.2.error != .allocationFailed)).map
        (·.1.1.size)).foldl max p.copy.size := by
  refine ⟨?_, ?_, copy_size_runEach p msgs⟩
  · rintro pre payload expected post rfl
    obtain ⟨hiff, hfail, hok, hstart, hstop⟩ := run_reports (p.runEach pre).2 payload expected
    exact ⟨runEach_getElem? p pre post payload expected, hiff, hfail, hok, hstart, hstop,
      fun log => runWith_logged log _ payload expected⟩
  · rintro pre post rfl
    rw [runEach_append]
    exact copy_size_le_runEach _ post

/-- A short payload run after a longer one, on a fresh pipeline, is verified
on its own two bytes. -/
theorem short_payload_verified_alone :
    let p := MeasurementPipeline.new .null {}
    let q := (p.runEach [(⟨#[1, 2, 3, 4]⟩, Digest.zero)]).2
    (p.runEach [(⟨#[1, 2, 3, 4]⟩, Digest.zero), (⟨#[5, 6]⟩, Digest.zero)]).1[1]? =
        some (q.run ⟨#[5, 6]⟩ Digest.zero).1 ∧
      (q.run ⟨#[5, 6]⟩ Digest.zero).1.verdict = some (Digest.verify ⟨#[5, 6]⟩ Digest.zero) := by
  obtain ⟨hget, hiff, -, hok, -⟩ := (runEach_verifies_each_payload (MeasurementPipeline.new .null {})
    [(⟨#[1, 2, 3, 4]⟩, Digest.zero), (⟨#[5, 6]⟩, Digest.zero)]).1
    [(⟨#[1, 2, 3, 4]⟩, Digest.zero)] ⟨#[5, 6]⟩ Digest.zero [] rfl
  have hgrow : (((MeasurementPipeline.new .null {}).runEach
      [(⟨#[1, 2, 3, 4]⟩, Digest.zero)]).2.growCopy (ByteArray.mk #[5, 6]).size).isSome = true := by
    decide
  exact ⟨hget, (hok fun h => by rw [hiff.1 h] at hgrow; cases hgrow).1⟩

end MeasurementPipeline
end ShmBench

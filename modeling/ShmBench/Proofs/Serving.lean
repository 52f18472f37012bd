import ShmBench.Proofs.Runs

/-!
# Handling one message

What the guest does with one message, judged by everything it shows: each of
its writes and the end of each of its waits is recorded in order
(`messageSide`, whose ghost is the list of the guest's events).  The host may
run meanwhile but, as the protocol has it, leaves the message alone while the
guest holds it: the message header, the payload, the test-complete flag and the
mappings stay as they were (`MessageHeld`).

From `READY`, one call of `serveNext` either gives up waiting (`idle`) having
written nothing, or sees the host `SENDING` and then publishes `PROCESSING`,
stores its results, publishes `ACKNOWLEDGED`, waits for the release and,
released, publishes `READY` (`HandleShows`).  What it reports and stores is
what `ReadsMessage` says: a size beyond the mapping is refused with the buffer
unread; otherwise the first `dataSize` bytes of the buffer are checked against
the header's digest, unless the private copy cannot grow.  From a state other
than `READY` and `ACKNOWLEDGED` the move to `PROCESSING` is refused and nothing
is written; from `ACKNOWLEDGED` the release comes first.
-/

namespace ShmBench
open Interleaving

/-! ## What the guest reads and what the pipeline makes of it -/

/-- Reading the payload area gives exactly the bytes asked for. -/
theorem SharedMemory.read_size (m : SharedMemory) (n : Nat) : (m.read n).size = n := by
  unfold SharedMemory.read
  split
  · simp [ByteArray.size_extract]
    omega
  · rw [ByteArray.size_append]
    show m.payload.size + (Array.replicate _ 0).size = n
    rw [Array.size_replicate]
    omega

@[simp] theorem World.readPayload_size (w : World) (n : Nat) : (w.readPayload n).size = n :=
  SharedMemory.read_size _ _

/-- A payload copied to the front of any buffer reads back as itself. -/
theorem ByteArray.copySlice_extract_self (src dst : ByteArray) :
    (src.copySlice 0 dst 0 src.size).extract 0 src.size = src := by
  apply ByteArray.ext
  rw [ByteArray.data_extract]
  simp only [ByteArray.copySlice, ByteArray.size, Nat.zero_add, Nat.sub_zero, Nat.min_self]
  simp [Array.extract_append]

namespace MeasurementPipeline

/-- **The private buffer fails to grow exactly when it is too short and the
reservation refuses the rest**, whatever the reservation answers. -/
theorem growCopy_eq_none_iff (p : MeasurementPipeline) (n : Nat) :
    p.growCopy n = none ↔ p.copy.size < n ∧ p.reserve p.copy.size (n - p.copy.size) = false := by
  unfold growCopy
  by_cases hle : n ≤ p.copy.size
  · have hnot : ¬ p.copy.size < n := by omega
    simp [hle, hnot]
  · have hlt : p.copy.size < n := by omega
    cases p.reserve p.copy.size (n - p.copy.size) <;> simp [hle, hlt]

/-- A run whose buffer cannot grow reports `AllocationFailed` and no verdict. -/
theorem run_of_growCopy_none {p : MeasurementPipeline} {payload : ByteArray} (expected : Digest)
    (h : p.growCopy payload.size = none) :
    (p.run payload expected).1.error = .allocationFailed ∧ (p.run payload expected).1.verdict = none := by
  simp [run, h]

/-- **A run whose buffer grows verifies the payload it was given**: the copy
reads back as the payload, and a mismatch is `IntegrityMismatch`. -/
theorem run_of_growCopy_some {p : MeasurementPipeline} {payload buffer : ByteArray}
    (expected : Digest) (h : p.growCopy payload.size = some buffer) :
    (p.run payload expected).1.verdict = some (Digest.verify payload expected) ∧
      (p.run payload expected).1.error =
        if Digest.ofPayload payload = expected then .none else .integrityMismatch := by
  simp only [run, h, ByteArray.copySlice_extract_self, true_and]
  by_cases hm : Digest.ofPayload payload = expected <;> simp [Digest.verify, hm, Verdict.isMatch]

end MeasurementPipeline

/-- **What the guest makes of the message of world `v`** through endpoint `e`,
in the order it decides: an announced size beyond its mapping is refused
(`PayloadTooLarge`, no verdict, zero counts, the four phases zero) with the
buffer unread; otherwise the first `dataSize` bytes of the buffer are checked
against the header's digest (`IntegrityMismatch` when they differ), unless the
private copy cannot grow (`AllocationFailed`, no verdict). -/
def Outcome (e : GuestEndpoint) (v : World) (phases : PhaseTimings) (counters : CounterReport)
    (error : ResultCode) (verdict : Option Verdict) : Prop :=
  let n := v.header.dataSize.toNat
  let bytes := v.readPayload n
  if n > v.capacity e.window then
    error = .payloadTooLarge ∧ verdict = none ∧ counters = .zeroed ∧
      phases.hotReadNs = 0 ∧ phases.coldReadNs = 0 ∧ phases.copyNs = 0 ∧ phases.verifyNs = 0
  else if (e.pipeline.growCopy n).isSome then
    verdict = some (Digest.verify bytes v.header.digest) ∧
      error = if Digest.ofPayload bytes = v.header.digest then .none else .integrityMismatch
  else error = .allocationFailed ∧ verdict = none

/-- **The message a guest reports** for the message of world `v`: the header's
sequence number and size, and the outcome of measuring it. -/
def ReadsMessage (e : GuestEndpoint) (v : World) (m : ProcessedMessage) : Prop :=
  m.sequence = v.header.sequence ∧ m.dataSize = v.header.dataSize ∧
    Outcome e v m.timing.phases m.timing.counters m.error m.verdict

/-- The total time the guest reports is no part of the outcome. -/
theorem Outcome.total {e : GuestEndpoint} {v : World} {phases : PhaseTimings}
    {counters : CounterReport} {error : ResultCode} {verdict : Option Verdict} (t : UInt64)
    (h : Outcome e v phases counters error verdict) :
    Outcome e v { phases with totalNs := t } counters error verdict := by
  unfold Outcome at h ⊢
  by_cases hbig : v.header.dataSize.toNat > v.capacity e.window
  · simp only [if_pos hbig] at h ⊢
    exact h
  · simp only [if_neg hbig] at h ⊢
    exact h

/-! ## A host that leaves the message alone -/

/-- **The message is held** from `w` to `w'`: its header fields, the payload,
the test-complete flag and every mapping's region are as they were. -/
structure MessageHeld (w w' : World) : Prop where
  sequence : w'.header.sequence = w.header.sequence
  dataSize : w'.header.dataSize = w.header.dataSize
  digest : w'.header.digestWords = w.header.digestWords
  complete : w'.header.complete = w.header.complete
  payload : w'.mem.payload = w.mem.payload
  region : ∀ q, (w'.channel q).region = (w.channel q).region

namespace MessageHeld

theorem refl (w : World) : MessageHeld w w := ⟨rfl, rfl, rfl, rfl, rfl, fun _ => rfl⟩

theorem trans {w w' w'' : World} (h : MessageHeld w w') (h' : MessageHeld w' w'') :
    MessageHeld w w'' :=
  ⟨h'.1.trans h.1, h'.2.trans h.2, h'.3.trans h.3, h'.4.trans h.4, h'.5.trans h.5,
    fun q => (h'.6 q).trans (h.6 q)⟩

/-- Publishing a guest state holds the message. -/
theorem publishGuest (w : World) (l : String) (p : Window) (s : GuestState) :
    MessageHeld w ((w.stamp l).publishGuest p s) where
  sequence := by simp
  dataSize := by simp
  digest := by simp
  complete := by simp
  payload := by simp
  region q := by by_cases hq : q = p <;> simp [hq]

/-- Storing results holds the message. -/
theorem writeResults (w : World) (l : String) (t : TimingWire) (c : ResultCode) :
    MessageHeld w ((w.stamp l).writeResults t c) where
  sequence := by simp
  dataSize := by simp
  digest := by simp
  complete := by simp
  payload := by simp [World.writeResults]
  region q := by simp

/-- A held message is measured as it was. -/
theorem outcome_eq {e : GuestEndpoint} {w v : World} (h : MessageHeld w v) :
    Outcome e v = Outcome e w := by
  have hcap : v.capacity e.window = w.capacity e.window := by
    unfold World.capacity Channel.capacity
    rw [h.region]
  have hread (n : Nat) : v.readPayload n = w.readPayload n := by
    unfold World.readPayload SharedMemory.read
    rw [h.payload]
  funext phases counters error verdict
  simp only [Outcome]
  rw [h.dataSize, hcap, hread, Header.digest, Header.digest, h.digest]

end MessageHeld

/-- An event of the guest: a write of `f` over the world `b` it finds. -/
def guestWrite (f : World → World) (b : World) : Event := .write b (f (b.stamp "worker"))

/-- **The guest judged by what it shows**: its ghost is the list of its events,
and the host leaves the message alone. -/
def messageSide : Side (List Event) := ⟨"worker", fun l ev l' => l' = l ++ [ev], MessageHeld⟩

theorem messageSide_later {w w' : World} (h : messageSide.Later w w') : MessageHeld w w' := by
  induction h with
  | refl => exact .refl _
  | tail _ he ih => exact ih.trans he

theorem messageHeld_stable (w₀ : World) : messageSide.Stable (MessageHeld w₀) :=
  fun _ _ he h => h.trans he

/-! ## What one call shows -/

/-- **What handling message `m` shows** through window `p`: `PROCESSING`
published, the results stored (its timing and its code), `ACKNOWLEDGED`
published, and the end of the wait for the release; when released, `READY`
published. -/
def HandleShows (p : Window) (m : ProcessedMessage) (evs : List Event) : Prop :=
  ∃ b₁ b₂ b₃ o v rest,
    evs = [guestWrite (·.publishGuest p .processing) b₁,
      guestWrite (·.writeResults (Fixed.encodeTiming m.timing.phases m.timing.counters) m.error) b₂,
      guestWrite (·.publishGuest p .acknowledged) b₃, .observe o v] ++ rest ∧
    ((o = .ready ∧ m.released = true ∧ ∃ b₄, rest = [guestWrite (·.publishGuest p .ready) b₄]) ∨
      (o ≠ .ready ∧ m.released = false ∧ rest = []))

/-- **What serving from `READY` shows**, the message held as in `w`: a wait
for the host that gives up, with nothing written, reported `idle`; or a wait
that sees the host `SENDING`, then the handling of the message of `w`. -/
def ServesFromReady (e : GuestEndpoint) (w : World) (r : Except ProtocolError GuestEvent)
    (evs : List Event) : Prop :=
  (r = .ok .idle ∧ ∃ n v, evs = [.observe (.timedOut n) v]) ∨
    ∃ v m rest, r = .ok (.processed m) ∧ v.hostState = some .sending ∧
      evs = .observe .ready v :: rest ∧ HandleShows e.window m rest ∧ ReadsMessage e w m

/-- **What one call of `serveNext` shows** from endpoint `e`, the message held
as in `w`: from `READY`, `ServesFromReady`; from `ACKNOWLEDGED`, a wait for
the release that gives up (`stalled`, nothing written), or that sees the host
`READY`, then `READY` published and what serving from `READY` shows; from any
other state, a wait that gives up (`idle`), or one that sees the host
`SENDING` and then the refused move to `PROCESSING`, nothing written. -/
def ServeShows (e : GuestEndpoint) (w : World) (r : Except ProtocolError GuestEvent)
    (evs : List Event) : Prop :=
  if e.state = .ready then ServesFromReady e w r evs
  else if e.state = .acknowledged then
    (r = .ok .stalled ∧ ∃ n v, evs = [.observe (.timedOut n) v]) ∨
      ∃ v b rest, v.hostState = some .ready ∧
        evs = .observe .ready v :: guestWrite (·.publishGuest e.window .ready) b :: rest ∧
        ServesFromReady { e with state := .ready } w r rest
  else (r = .ok .idle ∧ ∃ n v, evs = [.observe (.timedOut n) v]) ∨
    ∃ v, r = .error (.transition (.invalid "guest" e.state.name GuestState.processing.name)) ∧
      v.hostState = some .sending ∧ evs = [.observe .ready v]

/-! ## The guest's operations, by what they show -/

namespace GuestEndpoint

variable {e : GuestEndpoint} {l : List Event} {w₀ w : World}

/-- **A transition to `t`**: allowed, it publishes `t` and shows that write;
refused, it shows nothing and changes nothing. -/
theorem transition_shows (t : GuestState) (hw : MessageHeld w₀ w) :
    opWp messageSide (transition t) e (fun r e' l' w' => MessageHeld w₀ w' ∧
      if e.state.canTransition t then
        r = .ok () ∧ e' = { e with state := t } ∧
          ∃ b, l' = l ++ [guestWrite (·.publishGuest e.window t) b]
      else r = .error (.transition (.invalid "guest" e.state.name t.name)) ∧ e' = e ∧ l' = l)
      l w := by
  simp only [transition, change, opWp_bind, opWp_get, hence_opWp]
  cases ht : e.state.canTransition t with
  | false =>
    simp only [Bool.not_false, ite_true]
    exact fun w' hw' => ⟨hw.trans (messageSide_later hw'), by simp⟩
  | true =>
    simp only [Bool.not_true, Bool.false_eq_true, ite_false, if_true, opWp_bind, opWp_change,
      hence_opWp, opWp_set]
    intro w₁ h₁
    refine ⟨_, rfl, fun w₂ h₂ => ⟨?_, trivial, trivial, w₁, rfl⟩⟩
    exact (hw.trans (messageSide_later h₁)).trans
      ((MessageHeld.publishGuest _ _ _ _).trans (messageSide_later h₂))

/-- **A wait** shows its end: the outcome and the world its last check read. -/
theorem await_shows (q : Poll) (hw : MessageHeld w₀ w) :
    opWp messageSide (await q) e (fun r e' l' w' => MessageHeld w₀ w' ∧ e' = e ∧
      ∃ o v, r = .ok o ∧ q.EndsWith o v ∧ MessageHeld w₀ v ∧ l' = l ++ [.observe o v]) l w :=
  opWp_await_of (messageHeld_stable w₀) hw fun o v hv ho =>
    ⟨_, rfl, fun _ hv' => ⟨hv.trans (messageSide_later hv'), rfl, o, v, rfl, ho, hv, rfl⟩⟩

/-- A wait that honours the flag does not end `shutdown` while the flag is down. -/
theorem not_endsWith_shutdown {q : Poll} {v : World} (h : v.header.complete = 0) :
    ¬ q.EndsWith .shutdown v := by
  simp [Poll.EndsWith, Poll.flagged, Header.isComplete, h]

/-- **Measuring** shows nothing and gives the outcome `Outcome` describes. -/
theorem measure_shows (v : World) (hw : MessageHeld w₀ w) :
    opWp messageSide (measure v) e (fun r e' l' w' => MessageHeld w₀ w' ∧ l' = l ∧
      e'.state = e.state ∧ e'.window = e.window ∧
      ∃ phases counters error verdict, r = .ok (phases, counters, error, verdict) ∧
        Outcome e v phases counters error verdict) l w := by
  simp only [measure, spend, opWp_bind, opWp_get, hence_opWp]
  split
  · rename_i hbig
    refine fun w' hw' => ⟨hw.trans (messageSide_later hw'), rfl, rfl, rfl, _, _, _, _, rfl, ?_⟩
    simp [Outcome, hbig]
  · rename_i hfit
    simp only [opWp_bind, opWp_set, opWp_spend, hence_opWp, opWp_pure]
    refine fun w' hw' => ⟨hw.trans (messageSide_later hw'), rfl, trivial, trivial, _, _, _, _, rfl, ?_⟩
    unfold Outcome
    rw [if_neg hfit]
    have hsize := World.readPayload_size v v.header.dataSize.toNat
    cases hg : e.pipeline.growCopy v.header.dataSize.toNat with
    | none =>
      have := MeasurementPipeline.run_of_growCopy_none v.header.digest (hsize ▸ hg)
      simpa [hg] using this
    | some buffer =>
      have := MeasurementPipeline.run_of_growCopy_some v.header.digest (hsize ▸ hg)
      simpa [hg] using this

/-- **The release**, with the flag down: a wait that sees the host `READY`
and then `READY` published, or a wait that gives up with nothing written. -/
theorem awaitRelease_shows (hk : e.state = .acknowledged) (hc : w₀.header.complete = 0)
    (hw : MessageHeld w₀ w) :
    opWp messageSide awaitRelease e (fun r e' l' w' => MessageHeld w₀ w' ∧ ∃ o v, r = .ok o ∧
      ((o = .ready ∧ v.hostState = some .ready ∧ e' = { e with state := .ready } ∧
          ∃ b, l' = l ++ [.observe o v, guestWrite (·.publishGuest e.window .ready) b]) ∨
        (∃ n, o = .timedOut n ∧ e' = e ∧ l' = l ++ [.observe o v]))) l w := by
  simp only [awaitRelease, opWp_bind, opWp_get, hence_opWp]
  refine opWp_weaken (await_shows _ hw) fun r e₁ l₁ w₁ h => ?_
  obtain ⟨hw₁, rfl, o, v, rfl, ho, hv, rfl⟩ := h
  cases o with
  | ready =>
    simp only [PollOutcome.isReady, ite_true, opWp_bind]
    refine opWp_weaken (transition_shows .ready hw₁) fun r e₂ l₂ w₂ h => ?_
    obtain ⟨hw₂, ht⟩ := h
    rw [if_pos (by rw [hk]; rfl)] at ht
    obtain ⟨rfl, rfl, b, rfl⟩ := ht
    have hv : v.hostState = some .ready := by simpa [Poll.EndsWith] using ho
    exact fun w₃ h₃ => ⟨hw₂.trans (messageSide_later h₃), _, v, rfl, .inl ⟨rfl, hv, rfl, b, by simp⟩⟩
  | timedOut n =>
    simp only [PollOutcome.isReady, Bool.false_eq_true, ite_false, opWp_pure]
    exact fun w₂ h₂ => ⟨hw₁.trans (messageSide_later h₂), _, v, rfl, .inr ⟨n, by simp⟩⟩
  | shutdown => exact absurd ho (not_endsWith_shutdown (hv.complete.trans hc))

/-- **Handling a message from `READY`**, with the flag down: the message the
guest reads is the one held, and handling it shows `HandleShows`. -/
theorem handle_shows (hr : e.state = .ready) (hc : w₀.header.complete = 0)
    (hw : MessageHeld w₀ w) :
    opWp messageSide handle e (fun r _ l' w' => MessageHeld w₀ w' ∧
      ∃ m evs, r = .ok m ∧ l' = l ++ evs ∧ HandleShows e.window m evs ∧ ReadsMessage e w₀ m) l w := by
  simp only [handle, now, opWp_bind, opWp_now, hence_opWp]
  intro start
  refine opWp_weaken (transition_shows .processing hw) fun r e₁ l₁ w₁ h => ?_
  obtain ⟨hw₁, ht⟩ := h
  rw [if_pos (by rw [hr]; rfl)] at ht
  obtain ⟨rfl, rfl, b₁, rfl⟩ := ht
  simp only [look, opWp_bind, opWp_look, hence_opWp]
  intro v hv
  -- everything the guest reports comes from `v`, which holds the message of `w₀`
  have hv₀ := hw₁.trans (messageSide_later hv)
  refine opWp_weaken (measure_shows v hv₀) fun r e₃ l₃ w₃ h => ?_
  obtain ⟨hw₃, rfl, hst₃, hwin₃, phases, counters, error, verdict, rfl, hout⟩ := h
  simp only [change, opWp_bind, opWp_now, opWp_change, hence_opWp]
  intro t w₄ h₄
  refine ⟨_, rfl, ?_⟩
  refine opWp_weaken (transition_shows .acknowledged
    ((hw₃.trans (messageSide_later h₄)).trans (MessageHeld.writeResults _ _ _ _)))
    fun r e₅ l₅ w₅ h => ?_
  obtain ⟨hw₅, ht⟩ := h
  rw [if_pos (by rw [hst₃]; rfl)] at ht
  obtain ⟨rfl, rfl, b₃, rfl⟩ := ht
  simp only [opWp_bind]
  refine opWp_weaken (awaitRelease_shows rfl hc hw₅) fun r e₆ l₆ w₆ h => ?_
  obtain ⟨hw₆, o, v₆, rfl, hrel⟩ := h
  simp only [opWp_pure]
  intro w₇ h₇
  have hreads : ReadsMessage e w₀
      { sequence := v.header.sequence, kind := MessageKind.classify v.header.sequence,
        dataSize := v.header.dataSize, error := error,
        timing := ⟨{ phases with totalNs := MeasurementPipeline.atLeastOne (t - start) }, counters⟩,
        verdict := verdict, released := o.isReady } := by
    refine ⟨hv₀.sequence, hv₀.dataSize, ?_⟩
    rw [← MessageHeld.outcome_eq hv₀]
    exact hout.total _
  refine ⟨hw₆.trans (messageSide_later h₇), ?_⟩
  rw [hwin₃] at hrel
  rcases hrel with ⟨rfl, -, -, b₄, rfl⟩ | ⟨n, rfl, -, rfl⟩
  · exact ⟨_, [_, _, _, _, _], rfl, by simp [guestWrite, messageSide], ⟨b₁, w₄, b₃, .ready, v₆, [_], rfl, .inl ⟨rfl, rfl, b₄, rfl⟩⟩,
      hreads⟩
  · exact ⟨_, [_, _, _, _], rfl, by simp [guestWrite, messageSide], ⟨b₁, w₄, b₃, .timedOut n, v₆, [], rfl, .inr ⟨by simp, rfl, rfl⟩⟩,
      hreads⟩

/-- **Handling from any state but `READY`** is refused at once: the move to
`PROCESSING` fails and nothing is written. -/
theorem handle_refused (hr : e.state ≠ .ready) (hw : MessageHeld w₀ w) :
    opWp messageSide handle e (fun r _ l' w' => MessageHeld w₀ w' ∧ l' = l ∧
      r = .error (.transition (.invalid "guest" e.state.name GuestState.processing.name))) l w := by
  simp only [handle, now, opWp_bind, opWp_now, hence_opWp]
  intro start
  refine opWp_weaken (transition_shows .processing hw) fun r e₁ l₁ w₁ h => ?_
  obtain ⟨hw₁, ht⟩ := h
  rw [if_neg (by rw [GuestState.canTransition_processing]; exact hr)] at ht
  obtain ⟨rfl, rfl, rfl⟩ := ht
  exact ⟨hw₁, rfl, rfl⟩

/-- **Picking up a message**, with the flag down: from `READY` it serves as
`ServesFromReady` says; from any other state a message it sees is refused. -/
theorem pickUp_shows (hc : w₀.header.complete = 0) (hw : MessageHeld w₀ w) :
    opWp messageSide pickUp e (fun r _ l' w' => MessageHeld w₀ w' ∧ ∃ evs, l' = l ++ evs ∧
      if e.state = .ready then ServesFromReady e w₀ r evs
      else (r = .ok .idle ∧ ∃ n v, evs = [.observe (.timedOut n) v]) ∨
        ∃ v, r = .error (.transition (.invalid "guest" e.state.name GuestState.processing.name)) ∧
          v.hostState = some .sending ∧ evs = [.observe .ready v]) l w := by
  simp only [pickUp, opWp_bind, opWp_get, hence_opWp]
  refine opWp_weaken (await_shows _ hw) fun r e₁ l₁ w₁ h => ?_
  obtain ⟨hw₁, he₁, o, v, rfl, ho, hv, rfl⟩ := h
  subst e₁
  cases o with
  | timedOut n =>
    refine fun w₂ h₂ => ⟨hw₁.trans (messageSide_later h₂), _, rfl, ?_⟩
    split
    · exact .inl ⟨rfl, n, v, rfl⟩
    · exact .inl ⟨rfl, n, v, rfl⟩
  | shutdown => exact absurd ho (not_endsWith_shutdown (hv.complete.trans hc))
  | ready =>
    -- the wait saw the host `SENDING`
    have hs : v.hostState = some .sending := by simpa [Poll.EndsWith] using ho
    simp only [opWp_bind]
    by_cases hr : e.state = .ready
    · refine opWp_mono_hence (handle_shows hr hc hw₁) fun r e₂ l₂ w₂ h => ?_
      obtain ⟨hw₂, m, evs, rfl, rfl, hshow, hread⟩ := Side.hence_self h
      refine fun w₃ h₃ => ⟨hw₂.trans (messageSide_later h₃), .observe .ready v :: evs, by simp, ?_⟩
      rw [if_pos hr]
      exact .inr ⟨v, m, evs, rfl, hs, rfl, hshow, hread⟩
    · refine opWp_mono_hence (handle_refused hr hw₁) fun r e₂ l₂ w₂ h => ?_
      obtain ⟨hw₂, rfl, rfl⟩ := Side.hence_self h
      refine ⟨hw₂, _, rfl, ?_⟩
      rw [if_neg hr]
      exact .inr ⟨v, rfl, hs, rfl⟩

/-- **One call of `serveNext`**, with the flag down, shows what `ServeShows`
says. -/
theorem serveNext_shows (hc : w₀.header.complete = 0) (hw : MessageHeld w₀ w) :
    opWp messageSide serveNext e (fun r _ l' _ => ∃ evs, l' = l ++ evs ∧ ServeShows e w₀ r evs)
      l w := by
  simp only [serveNext, spend, opWp_bind, opWp_spend, opWp_get, hence_opWp]
  split
  · -- an acknowledged message is released first
    rename_i ha
    have hk : e.state = .acknowledged := by simpa using ha
    simp only [opWp_bind]
    refine opWp_weaken (awaitRelease_shows hk hc hw) fun r e₁ l₁ w₁ h => ?_
    obtain ⟨hw₁, o, v, rfl, hrel⟩ := h
    rcases hrel with ⟨rfl, hv, rfl, b, rfl⟩ | ⟨n, rfl, rfl, rfl⟩
    · refine opWp_weaken (pickUp_shows hc hw₁) fun r e₂ l₂ w₂ h => ?_
      obtain ⟨-, evs, rfl, hshow⟩ := h
      rw [if_pos rfl] at hshow
      refine ⟨.observe .ready v :: guestWrite (·.publishGuest e.window .ready) b :: evs, by simp, ?_⟩
      rw [ServeShows, if_neg (by rw [hk]; decide), if_pos hk]
      exact .inr ⟨v, b, evs, hv, rfl, hshow⟩
    · refine fun w₂ h₂ => ⟨_, rfl, ?_⟩
      rw [ServeShows, if_neg (by rw [hk]; decide), if_pos hk]
      exact .inl ⟨rfl, n, v, rfl⟩
  · rename_i ha
    have hk : e.state ≠ .acknowledged := by simpa using ha
    refine opWp_weaken (pickUp_shows hc hw) fun r e₁ l₁ w₁ h => ?_
    obtain ⟨-, evs, rfl, hshow⟩ := h
    refine ⟨evs, rfl, ?_⟩
    unfold ServeShows
    by_cases hr : e.state = .ready
    · rwa [if_pos hr] at hshow ⊢
    · rw [if_neg hr] at hshow ⊢
      rwa [if_neg hk]

end GuestEndpoint

/-- **Serving one message, end to end.**  Whatever the host does that leaves
the message alone, and with the test-complete flag down, one call of
`serveNext` shows exactly what `ServeShows` says: from `READY`, nothing written
until a wait sees the host `SENDING`; then `PROCESSING` published, the results
stored, `ACKNOWLEDGED` published, in every branch, with the sequence number and
size of the held message and the outcome `Outcome` lays out for its first
`dataSize` bytes; from any other state but `ACKNOWLEDGED`, the move to
`PROCESSING` refused with nothing written; from `ACKNOWLEDGED`, the release
first.  The private copy fails to grow, and the message is reported
`AllocationFailed`, exactly when it is shorter than the payload and the
pipeline's reservation refuses the rest, whatever answers the reservation
gives. -/
theorem serve_next_handles_message :
    (∀ (e : GuestEndpoint) (w : World) (l : List Event), w.header.complete = 0 →
      opWp messageSide GuestEndpoint.serveNext e
        (fun r _ l' _ => ∃ evs, l' = l ++ evs ∧ ServeShows e w r evs) l w) ∧
    (∀ (p : MeasurementPipeline) (n : Nat),
      p.growCopy n = none ↔ p.copy.size < n ∧ p.reserve p.copy.size (n - p.copy.size) = false) :=
  ⟨fun _ _ _ hc => GuestEndpoint.serveNext_shows hc (.refl _),
    MeasurementPipeline.growCopy_eq_none_iff⟩

/-- **A guest facing a published message**: the host initializes and publishes
message 1 while the guest attaches; the guest is `READY`, the host `SENDING`,
and the guest's next call serves as `ServeShows` says. -/
theorem serve_next_handles_message_sending :
    ∃ s c, Session.start {} = .ok s ∧
      (s.launch [.act .prepare, .act (.send 1 ⟨#[1, 2]⟩ none)] [.act .attach]).Reachable c ∧
      ∃ r e, c.guest = .run (.pure (r, e)) ∧ e.state = .ready ∧ c.world.hostState = some .sending ∧
      c.world.header.complete = 0 ∧
      opWp messageSide GuestEndpoint.serveNext e
        (fun r _ l' _ => ∃ evs, l' = [] ++ evs ∧ ServeShows e c.world r evs) [] c.world := by
  refine Session.exists_of_replay {} _ _
    -- the guest attaches while the host initializes, then the host publishes message 1
    (List.flatten [List.replicate 3 (.guest .go), List.replicate 6 (.host .go),
      List.replicate 2 (.guest .go), List.replicate 11 (.host .go),
      [.host (.clock 0), .host .go]])
    (fun _ c => c.guest.finished.any (·.2.state == .ready) &&
      c.world.hostState == some .sending && c.world.header.complete == 0) (by decide +kernel) ?_
  intro s c _ _ hp
  simp only [Option.any_eq_true, Proc.finished_eq_some, Bool.and_eq_true, beq_iff_eq] at hp
  obtain ⟨⟨⟨⟨r, e⟩, hguest, hready⟩, hsend⟩, hc⟩ := hp
  exact ⟨r, e, hguest, hready, hsend, hc, serve_next_handles_message.1 _ _ _ hc⟩

end ShmBench

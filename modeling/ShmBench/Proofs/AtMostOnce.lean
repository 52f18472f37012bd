import ShmBench.Proofs.Runs

/-!
# A message is processed at most once

The guest moves to `PROCESSING` once for each publication of the host: on the
trace of the shared channel, between any two `PROCESSING` writes of the guest
there is a `SENDING` write of the host (`ProcessingSeparated`).  This holds in
every interleaving of any host script with any guest script over one channel,
whatever the waits do: a withdrawn message, a release that times out, a guest
that attaches again (`processing_separated`).

The argument is the guest's licence.  The guest publishes `PROCESSING` only
from `READY`, right after a wait of its own saw the host `SENDING`; it became
`READY` right after a wait that saw the host `READY`; and each of its writes
forgets what it saw.  Between those two waits the host word went from `READY`
to `SENDING`, which only the host's own publication of `SENDING` does, and that
publication is on the trace after the last `PROCESSING`.

The invariant (`OnceInv`) says this of the trace written since the launch:
it is separated; while the guest is `READY`, a host that is `SENDING` has
published since the last `PROCESSING` (`Rearmed`); and the world the guest
last saw tells no more than the world now does.

At most once counts publications, not the bytes behind them: a guest that saw
`SENDING` just before the host withdrew the message still processes it, over
whatever the host has written since (`withdrawn_buffer_reused`), and the host
then takes its acknowledgement as the answer to the next message
(`acknowledgement_misattributed`).
-/

namespace ShmBench

open Interleaving

/-! ## Separated traces -/

/-- A write that moves the guest to `PROCESSING`. -/
def StateWrite.startsProcessing (x : StateWrite) : Bool :=
  x.field == .guest && x.toRaw == GuestState.processing.toRaw

/-- A write that moves the host to `SENDING`: a publication. -/
def StateWrite.publishes (x : StateWrite) : Bool :=
  x.field == .host && x.toRaw == HostState.sending.toRaw

/-- **At most once**: between any two `PROCESSING` writes of the trace there
is a `SENDING` write. -/
def ProcessingSeparated (t : List StateWrite) : Prop :=
  ∀ l₁ x l₂ y l₃, t = l₁ ++ x :: l₂ ++ y :: l₃ → x.startsProcessing = true →
    y.startsProcessing = true → ∃ z ∈ l₂, z.publishes = true

/-- Every `PROCESSING` write of the trace has a `SENDING` write after it, so
one more `PROCESSING` keeps the trace separated. -/
def ProcessingAnswered (t : List StateWrite) : Prop :=
  ∀ l₁ x l₂, t = l₁ ++ x :: l₂ → x.startsProcessing = true → ∃ z ∈ l₂, z.publishes = true

/-- A trace that grew by `a` at its end, split around one of its entries. -/
private theorem eq_concat_split {u t l : List StateWrite} {y a : StateWrite}
    (h : u ++ y :: l = t ++ [a]) :
    (l = [] ∧ y = a ∧ t = u) ∨ ∃ l', l = l' ++ [a] ∧ t = u ++ y :: l' := by
  rcases List.eq_nil_or_concat l with rfl | ⟨l', b, rfl⟩
  · obtain ⟨h₁, h₂⟩ := List.append_inj' h rfl
    simp only [List.cons.injEq, and_true] at h₂
    exact .inl ⟨rfl, h₂, h₁.symm⟩
  · rw [List.concat_eq_append, show u ++ y :: (l' ++ [b]) = u ++ y :: l' ++ [b] by simp] at h
    obtain ⟨h₁, h₂⟩ := List.append_inj' h rfl
    simp only [List.cons.injEq, and_true] at h₂
    exact .inr ⟨l', by rw [h₂, List.concat_eq_append], h₁.symm⟩

theorem ProcessingSeparated.nil : ProcessingSeparated [] := by
  intro l₁ x l₂ y l₃ h
  simp at h

theorem ProcessingAnswered.nil : ProcessingAnswered [] := by
  intro l₁ x l₂ h
  simp at h

/-- **A separated trace stays separated** when it grows by a write that does
not start processing, or by one that does once every earlier one is answered. -/
theorem ProcessingSeparated.concat {t : List StateWrite} {a : StateWrite}
    (hs : ProcessingSeparated t) (ha : a.startsProcessing = true → ProcessingAnswered t) :
    ProcessingSeparated (t ++ [a]) := by
  intro l₁ x l₂ y l₃ h hx hy
  rcases eq_concat_split h.symm with ⟨rfl, rfl, rfl⟩ | ⟨l', rfl, rfl⟩
  · exact ha hy l₁ x l₂ rfl hx
  · exact hs l₁ x l₂ y l' rfl hx hy

/-- Answered writes stay answered when the trace grows by a write that does
not start processing. -/
theorem ProcessingAnswered.concat {t : List StateWrite} {a : StateWrite}
    (ht : ProcessingAnswered t) (ha : a.startsProcessing = false) :
    ProcessingAnswered (t ++ [a]) := by
  intro l₁ x l₂ h hx
  rcases eq_concat_split (u := l₁) (l := l₂) h.symm with ⟨rfl, rfl, rfl⟩ | ⟨l', rfl, rfl⟩
  · rw [hx] at ha
    cases ha
  · obtain ⟨z, hz, hp⟩ := ht l₁ x l' rfl hx
    exact ⟨z, List.mem_append_left _ hz, hp⟩

/-- A publication answers every `PROCESSING` before it. -/
theorem ProcessingAnswered.concat_publishes (t : List StateWrite) {a : StateWrite}
    (ha : a.publishes = true) : ProcessingAnswered (t ++ [a]) := by
  intro l₁ x l₂ h hx
  rcases eq_concat_split (u := l₁) (l := l₂) h.symm with ⟨rfl, rfl, rfl⟩ | ⟨l', rfl, rfl⟩
  · -- one write cannot be of both fields
    simp only [StateWrite.startsProcessing, StateWrite.publishes, Bool.and_eq_true,
      beq_iff_eq] at hx ha
    rw [hx.1] at ha
    cases ha.1
  · exact ⟨a, by simp, ha⟩

/-! ## The invariant -/

section Invariant

variable (p : Window) (n : Nat)

/-- **A host that is `SENDING` has published since the last `PROCESSING`.** -/
def Rearmed (w : World) : Prop :=
  w.hostState = some .sending → ProcessingAnswered (w.writesSince p n)

/-- **The invariant of at-most-once processing**, of the world and the
guest's ghost, for the writes on window `p` after the first `n`. -/
structure OnceInv (w : World) (kg : GuestGhost) : Prop where
  grown : n ≤ (w.channel p).trace.size
  quiet : (w.channel p).tracing = false → w.writesSince p n = []
  separated : ProcessingSeparated (w.writesSince p n)
  rearmed : kg.state = .ready → Rearmed p n w
  seen : ∀ v, kg.seen = some v →
    (ProcessingAnswered (v.writesSince p n) → ProcessingAnswered (w.writesSince p n)) ∧
    (Rearmed p n v → Rearmed p n w) ∧ (kg.state = .ready → Rearmed p n v)

end Invariant

variable {p : Window} {n : Nat}

/-- A step that leaves window `p` and the host word alone keeps the invariant,
for a ghost that keeps what the invariant reads of it. -/
theorem OnceInv.congr {w w' : World} {kg kg' : GuestGhost} (hI : OnceInv p n w kg)
    (hc : w'.channel p = w.channel p) (hh : w'.hostState = w.hostState)
    (hk : kg'.state = kg.state) (hseen : kg'.seen = kg.seen) : OnceInv p n w' kg' := by
  have hw : w'.writesSince p n = w.writesSince p n := by simp [World.writesSince, hc]
  have hr : Rearmed p n w' ↔ Rearmed p n w := by simp only [Rearmed, hw, hh]
  refine ⟨by rw [hc]; exact hI.grown, fun h => ?_, by rw [hw]; exact hI.separated,
    fun h => hr.2 (hI.rearmed (by rwa [hk] at h)), fun v hv => ?_⟩
  · rw [hc] at h
    rw [hw]
    exact hI.quiet h
  obtain ⟨h₁, h₂, h₃⟩ := hI.seen v (by rwa [hseen] at hv)
  exact ⟨fun h => by rw [hw]; exact h₁ h, fun h => hr.2 (h₂ h), fun h => h₃ (by rwa [hk] at h)⟩

/-- **A host move keeps the invariant.**  A publication of `SENDING` answers
every `PROCESSING` before it, and a publication of another state takes the
host off `SENDING`; any other write leaves the trace and the host word alone. -/
theorem OnceInv.host_move {w w' : World} {kh kh' : HostGhost} {kg : GuestGhost}
    {e : Event} (hI : OnceInv p n w kg) (hm : HostMove p kh e kh') (he : e.Effect w w') :
    OnceInv p n w' kg := by
  cases hm with
  | publish v s h _ =>
    obtain ⟨rfl, rfl⟩ := he
    obtain ⟨hgrown, hw⟩ := World.writesSince_grow hI.grown
      (World.publishHost_trace (v.stamp "main") p s)
    simp only [World.stamp_channel, World.stamp_header, World.stamp_thread] at hw
    cases ht : (v.channel p).tracing with
    | false =>
      -- nothing is recorded, and nothing was since the launch
      simp only [ht, Bool.false_eq_true, ite_false, List.append_nil] at hw
      have hre : Rearmed p n ((v.stamp "main").publishHost p s) :=
        fun _ => by rw [hw, hI.quiet ht]; exact .nil
      exact ⟨hgrown, fun _ => hw ▸ hI.quiet ht, hw ▸ hI.separated, fun _ => hre,
        fun u hu => ⟨fun h' => hw ▸ (hI.seen u hu).1 h', fun _ => hre, (hI.seen u hu).2.2⟩⟩
    | true =>
      simp only [ht, ite_true] at hw
      have hx : StateWrite.startsProcessing ⟨.host, v.header.hostState, s.toRaw, "main"⟩ = false := by
        simp [StateWrite.startsProcessing]
      -- a host that is `SENDING` now has just published
      have hre : Rearmed p n ((v.stamp "main").publishHost p s) := by
        intro hsend
        simp only [World.hostState_publishHost, Option.some.injEq] at hsend
        subst hsend
        rw [hw]
        exact .concat_publishes _ (by simp [StateWrite.publishes])
      exact ⟨hgrown, fun h' => by simp [ht] at h', hw ▸ hI.separated.concat (by simp [hx]),
        fun _ => hre, fun u hu => ⟨fun h' => hw ▸ ((hI.seen u hu).1 h').concat hx, fun _ => hre,
          (hI.seen u hu).2.2⟩⟩
  | write v u hu =>
    obtain ⟨rfl, rfl⟩ := he
    exact hI.congr (by rw [HostUpdate.channel_apply hu]; simp)
      (by rw [HostUpdate.hostState_apply hu]; rfl) rfl rfl
  | observe o v =>
    obtain ⟨rfl, rfl⟩ := he
    exact hI

@[simp] theorem World.hostState_publishGuest (w : World) (q : Window) (g : GuestState) :
    (w.publishGuest q g).hostState = w.hostState := by
  simp [World.hostState, Header.host]

/-- What the guest saw before publishing `READY` licenses it: the host was
`READY` then, so was `Rearmed`, and is now. -/
theorem OnceInv.rearmed_of_licensed {w : World} {kg : GuestGhost} (hI : OnceInv p n w kg)
    (hl : GuestState.ready.Licensed kg.seen) : Rearmed p n w := by
  obtain ⟨v, hv, hready⟩ := hl
  exact (hI.seen v hv).2.1 fun hsend => by rw [hready] at hsend; cases hsend

/-- What the guest saw before publishing `PROCESSING` licenses it: the host was
`SENDING` then, so every earlier `PROCESSING` was answered, and still is. -/
theorem OnceInv.answered_of_licensed {w : World} {kg : GuestGhost} (hI : OnceInv p n w kg)
    (hr : kg.state = .ready) (hl : GuestState.processing.Licensed kg.seen) :
    ProcessingAnswered (w.writesSince p n) := by
  obtain ⟨v, hv, hsend⟩ := hl
  obtain ⟨h₁, -, h₃⟩ := hI.seen v hv
  exact h₁ (h₃ hr hsend)

/-- **A guest move keeps the invariant.**  `PROCESSING` is published from
`READY` after a wait saw the host `SENDING`, so every earlier `PROCESSING` is
answered; `READY` is published after a wait saw the host `READY`; a wait that
ends `ready` remembers a world that tells what the world now tells. -/
theorem OnceInv.guest_move {w w' : World} {kg kg' : GuestGhost} {e : Event}
    (hI : OnceInv p n w kg) (hm : GuestMove p kg e kg') (he : e.Effect w w') :
    OnceInv p n w' kg' := by
  cases hm with
  | publish v s hcan hlic =>
    obtain ⟨rfl, rfl⟩ := he
    obtain ⟨hgrown, hw⟩ := World.writesSince_grow hI.grown
      (World.publishGuest_trace (v.stamp "worker") p s)
    simp only [World.stamp_channel, World.stamp_header, World.stamp_thread] at hw
    have hh : ((v.stamp "worker").publishGuest p s).hostState = v.hostState := by simp; rfl
    cases ht : (v.channel p).tracing with
    | false =>
      simp only [ht, Bool.false_eq_true, ite_false, List.append_nil] at hw
      have hr : Rearmed p n ((v.stamp "worker").publishGuest p s) ↔ Rearmed p n v := by
        simp only [Rearmed, hw, hh]
      refine ⟨hgrown, fun _ => by rw [hw]; exact hI.quiet ht, by rw [hw]; exact hI.separated,
        fun hs => ?_, nofun⟩
      cases hs
      exact hr.2 (hI.rearmed_of_licensed hlic)
    | true =>
      simp only [ht, ite_true] at hw
      refine ⟨hgrown, fun h' => by simp [ht] at h', ?_, fun hs => ?_, nofun⟩
      · rw [hw]
        refine hI.separated.concat fun hx => ?_
        -- the new entry is `PROCESSING`: the guest was `READY` and saw the host `SENDING`
        have hs : s = .processing := by
          simpa [StateWrite.startsProcessing, GuestState.toRaw_inj] using hx
        subst hs
        exact hI.answered_of_licensed (GuestState.canTransition_processing.1 hcan) hlic
      · cases hs
        intro hsend
        rw [hw]
        exact (hI.rearmed_of_licensed hlic (by rwa [hh] at hsend)).concat
          (by simp [StateWrite.startsProcessing, GuestState.toRaw_inj])
  | results v timing code h =>
    obtain ⟨rfl, rfl⟩ := he
    exact hI.congr (by simp) rfl rfl rfl
  | ready v =>
    obtain ⟨rfl, rfl⟩ := he
    refine ⟨hI.grown, hI.quiet, hI.separated, hI.rearmed, fun u hu => ?_⟩
    cases hu
    exact ⟨id, id, hI.rearmed⟩
  | timedOut m v =>
    obtain ⟨rfl, rfl⟩ := he
    exact hI
  | shutdown v =>
    obtain ⟨rfl, rfl⟩ := he
    exact hI

/-- The invariant holds at a launch: nothing is written since, and the guest
has seen nothing. -/
theorem OnceInv.launch (s : Session) (p : Window) :
    OnceInv p (s.world.channel p).trace.size s.world s.guestGhost := by
  have hw := World.writesSince_size s.world p
  refine ⟨Nat.le_refl _, fun _ => hw, hw ▸ .nil, fun _ _ => hw ▸ .nil, nofun⟩

/-! ## At most once -/

/-- **A message is processed at most once.**  In every interleaving of any
host script with any guest script whose endpoints share window `p`, with any
timeouts, the state writes recorded on `p` since the launch have a `SENDING`
write between any two `PROCESSING` writes. -/
theorem processing_separated {s : Session} {p : Window} (ha : s.Attached p)
    (hs : List (Scripted HostAction)) (gs : List (Scripted GuestAction)) {c : Config _ _}
    (hc : (s.launch hs gs).Reachable c) :
    ProcessingSeparated (c.world.writesSince p (s.world.channel p).trace.size) := by
  obtain ⟨_, _, hI, -, -⟩ := Session.launch_holds (I := fun w _ kg => OnceInv p _ w kg)
    (fun _ _ _ _ _ _ hI hm he => hI.host_move hm he)
    (fun _ _ _ _ _ _ hI hm he => hI.guest_move hm he)
    (Session.hostScript_synced ha hs) (Session.guestScript_synced ha gs) (OnceInv.launch s p) hc
  exact OnceInv.separated hI

set_option maxRecDepth 8000 in
/-- **Two messages, two `PROCESSING` writes, a publication between them.**  The
host initializes and sends two messages while the guest attaches and serves
twice; the trace since the launch holds both `PROCESSING` writes, and the
theorem applies to it. -/
theorem processing_separated_two_messages :
    ∃ s c, Session.start {} = .ok s ∧
      (s.launch [.act .prepare, .act (.send 1 ⟨#[1]⟩ none), .act (.send 2 ⟨#[2]⟩ none)]
        [.act .attach, .act .serve, .act .serve]).Reachable c ∧
      ((c.world.writesSince .primary (s.world.channel .primary).trace.size).filter
        (·.startsProcessing)).length = 2 ∧
      ProcessingSeparated (c.world.writesSince .primary (s.world.channel .primary).trace.size) := by
  refine Session.exists_of_replay {} _ _
    -- the guest attaches and the host initializes and sends message 1
    (List.flatten [List.replicate 3 (.guest .go), List.replicate 6 (.host .go),
    List.replicate 4 (.guest .go), List.replicate 11 (.host .go), [.host (.clock 0)],
    List.replicate 2 (.host .go),
    -- the guest processes message 1 and the host takes its acknowledgement
    [.guest .go, .guest (.clock 0)], List.replicate 3 (.guest .go), [.guest (.clock 0)],
    List.replicate 3 (.guest .go), List.replicate 3 (.host .go), [.host (.clock 0)],
    List.replicate 3 (.host .go), List.replicate 4 (.guest .go),
    -- the same for message 2
    List.replicate 12 (.host .go), [.host (.clock 0)], List.replicate 2 (.host .go),
    [.guest .go, .guest (.clock 0)], List.replicate 3 (.guest .go), [.guest (.clock 0)],
    List.replicate 3 (.guest .go), List.replicate 3 (.host .go), [.host (.clock 0)],
    List.replicate 3 (.host .go), List.replicate 2 (.guest .go), [.host .go]])
    (fun s c => ((c.world.writesSince .primary (s.world.channel .primary).trace.size).filter
      (·.startsProcessing)).length == 2) (by decide +kernel) ?_
  intro s c hs hc htwo
  exact ⟨beq_iff_eq.1 htwo, processing_separated (Session.start_attached rfl hs) _ _ hc⟩

/-! ## A withdrawn message still in hand

At most once does not say which bytes the guest reads.  The host's check that
the guest is idle before it rewrites the buffer reads the guest word, while
the guest decides to process on an earlier look at the host word: a guest
that saw `SENDING` but has not yet published `PROCESSING` passes the check. -/

/-- **The withdraw race**, as turns of a host that sends messages 1 and 2 and a
guest that serves once: the guest sees message 1 published, and the host's
pickup wait gives up before the guest publishes `PROCESSING`. -/
def withdrawRace : List Turn :=
  List.flatten [
    -- the host initializes and the guest attaches
    List.replicate 6 (.host .go), List.replicate 5 (.guest .go),
    -- the host fills and publishes message 1, and the guest sees it
    List.replicate 11 (.host .go), [.host (.clock 0), .host .go],
    List.replicate 3 (.guest .go),
    -- the pickup wait gives up; the host withdraws and writes message 2's payload
    [.host .go, .host (.expire 2000000000)], List.replicate 10 (.host .go),
    -- the guest processes message 1 and acknowledges
    [.guest (.clock 0)], List.replicate 3 (.guest .go), [.guest (.clock 0)],
    List.replicate 2 (.guest .go),
    -- the host publishes message 2 and takes the acknowledgement as its answer
    List.replicate 2 (.host .go), [.host (.clock 0)], List.replicate 5 (.host .go),
    [.host (.clock 0)], List.replicate 2 (.host .go),
    -- the guest is released, and the host sees it
    List.replicate 3 (.guest .go), List.replicate 2 (.host .go)]

/-- **A withdrawn message is processed with the next message's bytes.**  The
host publishes message 1, the guest sees `SENDING`, the host's pickup wait
gives up and withdraws it, and the host's next send finds the guest `READY`
and writes message 2's payload; the guest then processes message 1 against
the bytes of message 2. -/
theorem withdrawn_buffer_reused :
    ∃ s c, Session.start {} = .ok s ∧
      (s.launch [.act .prepare, .act (.send 1 ⟨#[1]⟩ none), .act (.send 2 ⟨#[2]⟩ none)]
        [.act .attach, .act .serve]).Reachable c ∧
      ∃ r e m, c.guest = .run (.pure (r, e)) ∧ r.results = #[.done, .event (.processed m)] ∧
        m.sequence = 1 ∧ m.verdict = some (Digest.verify ⟨#[2]⟩ (Digest.ofPayload ⟨#[1]⟩)) := by
  refine Session.exists_of_replay {} _ _ withdrawRace
    (fun _ c => ((c.guest.finished.bind (·.1.afterAttach?)).bind GuestResult.processed?).any
      fun m => m.sequence == 1 &&
        m.verdict == some (Digest.verify ⟨#[2]⟩ (Digest.ofPayload ⟨#[1]⟩))) (by decide +kernel) ?_
  intro s c hs hc hp
  simp only [Option.any_eq_true, Option.bind_eq_some_iff, ScriptResult.afterAttach?_eq_some,
    GuestResult.processed?_eq_some, Proc.finished_eq_some, Bool.and_eq_true, beq_iff_eq] at hp
  obtain ⟨m, ⟨_, ⟨⟨r, e⟩, hguest, hres⟩, rfl⟩, hseq, hverdict⟩ := hp
  exact ⟨r, e, m, hguest, Array.toList_inj.1 hres, hseq, hverdict⟩

/-- **The host reports another message's acknowledgement as its own.**  In the
same run the host's report for message 2 carries the guest's verdict on
message 1, `GuestError(IntegrityMismatch)` though nothing was corrupted, while
the guest processed message 1 alone. -/
theorem acknowledgement_misattributed :
    ∃ s c, Session.start {} = .ok s ∧
      (s.launch [.act .prepare, .act (.send 1 ⟨#[1]⟩ none), .act (.send 2 ⟨#[2]⟩ none)]
        [.act .attach, .act .serve]).Reachable c ∧
      ∃ hr he gr ge report f m, c.host = .run (.pure (hr, he)) ∧ c.guest = .run (.pure (gr, ge)) ∧
        hr.results.back? = some (.report report f) ∧ report.sequence = 2 ∧
        report.outcome = .guestError .integrityMismatch ∧
        gr.results.toList = [.done, .event (.processed m)] ∧ m.sequence = 1 := by
  refine Session.exists_of_replay {} _ _ withdrawRace
    (fun _ c => ((c.host.finished.bind (·.1.results.back?)).bind HostResult.report?).any
        (fun r => r.sequence == 2 && r.outcome == .guestError .integrityMismatch) &&
      ((c.guest.finished.bind (·.1.afterAttach?)).bind GuestResult.processed?).any
        (·.sequence == 1)) (by decide +kernel) ?_
  intro s c hs hc hp
  simp only [Option.any_eq_true, Option.bind_eq_some_iff, ScriptResult.afterAttach?_eq_some,
    GuestResult.processed?_eq_some, HostResult.report?_eq_some, Proc.finished_eq_some,
    Bool.and_eq_true, beq_iff_eq] at hp
  obtain ⟨⟨report, ⟨_, ⟨⟨hr, he⟩, hhost, hback⟩, f, rfl⟩, hseq, hout⟩,
    m, ⟨_, ⟨⟨gr, ge⟩, hguest, hres⟩, rfl⟩, hm⟩ := hp
  exact ⟨hr, he, gr, ge, report, f, m, hhost, hguest, hback, hseq, hout, hres, hm⟩

end ShmBench

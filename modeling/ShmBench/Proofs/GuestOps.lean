import ShmBench.Proofs.Discipline
import ShmBench.Session

/-!
# The guest's operations, one specification each

The guest's operations are specified as the host's are: each is a weakest
precondition for the guest judged on its own (`guestSide`), from an endpoint
in step with its ghost (`GuestEndpoint.Synced`), whatever the host does
meanwhile.  A host step never touches the guest state word
(`HostStep.guestState_eq`), so the guest's own word is a stable fact.

The guest's discipline asks more than the host's: `READY` and `PROCESSING` are
licensed by what the last successful wait saw.  The specifications show where
each licence comes from: `attach` and the release publish `READY` right after a
wait that saw the host `READY`, and a message is handled right after a wait
that saw the host `SENDING`.

What one call of `serveNext` publishes is `GuestState.Serves`: from `READY`,
`PROCESSING ACKNOWLEDGED` and maybe the release's `READY`; from `ACKNOWLEDGED`,
the release first.  Any other call publishes nothing.
-/

namespace ShmBench

open Interleaving

variable {p : Window}

/-! ## What the guest can count on -/

@[simp] theorem World.guestState_publishGuest (w : World) (q : Window) (s : GuestState) :
    (w.publishGuest q s).guestState = some s := by
  simp [World.guestState, Header.guest, GuestState.ofRaw_toRaw]

@[simp] theorem World.guestState_stamp (w : World) (l : String) :
    (w.stamp l).guestState = w.guestState := rfl

@[simp] theorem World.guestState_writeResults (w : World) (timing : TimingWire)
    (code : ResultCode) : (w.writeResults timing code).guestState = w.guestState := rfl

/-- Whatever the host does leaves the guest state word. -/
theorem HostStep.guestState_later {w w' : World} (h : (guestSide p).Later w w') :
    w'.guestState = w.guestState := by
  induction h with
  | refl => rfl
  | tail _ hs ih => simp only [World.guestState, Header.guest, HostStep.guestState_eq hs] at ih ⊢; exact ih

/-- **The guest endpoint in step with its ghost**: it uses window `p`, holds
the ghost's state, and the channel's guest word reads as that state. -/
structure GuestEndpoint.Synced (p : Window) (e : GuestEndpoint) (k : GuestGhost) (w : World) :
    Prop where
  window : e.window = p
  state : e.state = k.state
  word : w.guestState.getD .uninitialized = k.state

namespace GuestEndpoint.Synced

variable {e : GuestEndpoint} {k : GuestGhost} {w : World}

theorem stable (e : GuestEndpoint) (k : GuestGhost) : (guestSide p).Stable (e.Synced p k) :=
  fun _ _ hs h => ⟨h.window, h.state, by rw [HostStep.guestState_later (.single hs)]; exact h.word⟩

theorem later {w' : World} (h : e.Synced p k w) (hw : (guestSide p).Later w w') :
    e.Synced p k w' :=
  (stable e k).later hw h

/-- What was seen is no part of being in step. -/
theorem seen (h : e.Synced p k w) (v : Option World) : e.Synced p { k with seen := v } w :=
  ⟨h.window, h.state, h.word⟩

end GuestEndpoint.Synced

/-! ## Transitions and waits -/

/-- What a guest transition to `t` gives: with the move allowed, success, the
state `t`, `t` published and nothing seen since; otherwise the machine's
refusal and nothing changed. -/
def GuestEndpoint.transitioned (t : GuestState) (e : GuestEndpoint) (k : GuestGhost) :
    Except ProtocolError Unit × GuestEndpoint × GuestGhost :=
  if e.state.canTransition t then (.ok (), { e with state := t }, ⟨t, k.log ++ [t], none⟩)
  else (.error (.transition (.invalid "guest" e.state.name t.name)), e, k)

theorem GuestEndpoint.transitioned_of_allowed {t : GuestState} {e : GuestEndpoint}
    {k : GuestGhost} (h : e.state.canTransition t = true) :
    transitioned t e k = (.ok (), { e with state := t }, ⟨t, k.log ++ [t], none⟩) :=
  if_pos h

theorem GuestEndpoint.transitioned_of_refused {t : GuestState} {e : GuestEndpoint}
    {k : GuestGhost} (h : e.state.canTransition t = false) :
    transitioned t e k = (.error (.transition (.invalid "guest" e.state.name t.name)), e, k) :=
  if_neg (by simp [h])

@[simp] theorem GuestState.canTransition_waitingHostInit (s : GuestState) :
    s.canTransition .waitingHostInit = true := by
  cases s <;> rfl

/-- Only a `READY` guest may start processing. -/
theorem GuestState.canTransition_processing {s : GuestState} :
    s.canTransition .processing = true ↔ s = .ready := by
  cases s <;> simp [GuestState.canTransition]

/-- **A guest transition** does what `transitioned` says, when the state it
publishes is licensed by what the guest saw; it keeps any stable fact that
publishing `t` keeps. -/
theorem GuestEndpoint.transition_spec (t : GuestState) {F : World → Prop}
    (hF : (guestSide p).Stable F) (hFt : ∀ v, F v → F ((v.stamp "worker").publishGuest p t))
    {e : GuestEndpoint} {k : GuestGhost} {w : World}
    (hl : e.state.canTransition t = true → t.Licensed k.seen) (hs : e.Synced p k w) (hw : F w) :
    opWp (guestSide p) (GuestEndpoint.transition t) e
      (fun r e' k' w' => (r, e', k') = transitioned t e k ∧ e'.Synced p k' w' ∧ F w') k w := by
  obtain ⟨rfl, hst, hword⟩ := hs
  simp only [GuestEndpoint.transition, GuestEndpoint.change, opWp_bind, opWp_get, hence_opWp]
  unfold transitioned
  cases ht : e.state.canTransition t with
  | false =>
    -- refused: nothing is written
    simp only [Bool.not_false, ite_true, opWp_bind, opWp_throw]
    exact fun w' hw' => ⟨by simp, Synced.later ⟨rfl, hst, hword⟩ hw', hF.later hw' hw⟩
  | true =>
    simp only [Bool.not_true, Bool.false_eq_true, ite_false, if_true, opWp_bind, opWp_change,
      hence_opWp, opWp_set]
    intro w₁ h₁
    refine ⟨_, GuestMove.publish k w₁ t (hst ▸ ht) (hl ht), fun w₂ h₂ => ?_⟩
    refine ⟨rfl, ⟨rfl, rfl, ?_⟩, hF.later h₂ (hFt _ (hF.later h₁ hw))⟩
    rw [HostStep.guestState_later h₂]
    simp

/-- An allowed, licensed guest transition succeeds, moves the endpoint to `t`
and records `t`, forgetting what was seen. -/
theorem GuestEndpoint.transition_allowed (t : GuestState) {F : World → Prop}
    (hF : (guestSide p).Stable F) (hFt : ∀ v, F v → F ((v.stamp "worker").publishGuest p t))
    {e : GuestEndpoint} {k : GuestGhost} {w : World}
    (hl : t.Licensed k.seen) (hs : e.Synced p k w) (hw : F w)
    (ht : e.state.canTransition t = true) :
    opWp (guestSide p) (GuestEndpoint.transition t) e
      (fun r e' k' w' => r = .ok () ∧ e' = { e with state := t } ∧
        k' = ⟨t, k.log ++ [t], none⟩ ∧ e'.Synced p k' w' ∧ F w') k w := by
  refine opWp_weaken (transition_spec t hF hFt (fun _ => hl) hs hw) fun r e' k' w' h => ?_
  obtain ⟨hr, hs', hw'⟩ := h
  rw [transitioned_of_allowed ht] at hr
  simp only [Prod.mk.injEq] at hr
  exact ⟨hr.1, hr.2.1, hr.2.2, hs', hw'⟩

/-- What a wait makes the guest remember: the world it saw, when it ends
`ready`; nothing otherwise. -/
def GuestGhost.Saw (k : GuestGhost) (q : Poll) : PollOutcome → GuestGhost → Prop
  | .ready, k' => ∃ v, q.ready v = true ∧ k' = { k with seen := some v }
  | _, k' => k' = k

/-- **A wait of the guest** changes nothing but what the ghost saw. -/
theorem GuestEndpoint.await_spec (q : Poll) {F : World → Prop} (hF : (guestSide p).Stable F)
    {e : GuestEndpoint} {k : GuestGhost} {w : World} (hw : F w) :
    opWp (guestSide p) (GuestEndpoint.await q) e
      (fun r e' k' w' => e' = e ∧ F w' ∧ ∃ o, r = .ok o ∧ k.Saw q o k') k w := by
  refine opWp_await_of hF hw fun o v hv ho => ?_
  cases o with
  | ready =>
    exact ⟨_, GuestMove.ready k v, fun v' hv' => ⟨rfl, hF.later hv' hv, _, rfl, v, ho, rfl⟩⟩
  | timedOut n =>
    exact ⟨k, GuestMove.timedOut k n v, fun v' hv' => ⟨rfl, hF.later hv' hv, _, rfl, rfl⟩⟩
  | shutdown =>
    exact ⟨k, GuestMove.shutdown k v, fun v' hv' => ⟨rfl, hF.later hv' hv, _, rfl, rfl⟩⟩

/-! ## Attaching and releasing -/

/-- **Attaching** publishes `WAITING_HOST_INIT`, then `READY` once a wait saw
the channel open and the host `READY`; a wait that gives up leaves the guest
waiting. -/
theorem GuestEndpoint.attach_spec {e : GuestEndpoint} {k : GuestGhost} {w : World}
    (hs : e.Synced p k w) :
    opWp (guestSide p) GuestEndpoint.attach e
      (fun r e' k' w' => e'.Synced p k' w' ∧
        ((r = .ok () ∧ k'.state = .ready ∧ k'.log = k.log ++ [.waitingHostInit, .ready]) ∨
          (k'.state = .waitingHostInit ∧ k'.log = k.log ++ [.waitingHostInit]))) k w := by
  simp only [GuestEndpoint.attach, GuestEndpoint.spend, opWp_bind, opWp_spend, hence_opWp]
  refine opWp_weaken (transition_allowed .waitingHostInit (F := fun _ => True)
    (fun _ _ _ _ => trivial) (fun _ _ => trivial) trivial hs trivial
    (GuestState.canTransition_waitingHostInit _)) fun r e₁ k₁ w₁ h => ?_
  obtain ⟨rfl, rfl, rfl, hs₁, -⟩ := h
  simp only [opWp_bind, opWp_get, hence_opWp]
  refine opWp_weaken (await_spec _ (Synced.stable _ _) hs₁) fun r e₂ k₂ w₂ h => ?_
  obtain ⟨rfl, hs₂, o, rfl, hsaw⟩ := h
  cases o with
  | timedOut waited =>
    obtain rfl := hsaw
    simp only [GuestEndpoint.look, opWp_bind, opWp_look, hence_opWp, opWp_throw]
    exact fun v hv v' hv' => ⟨hs₂.later (hv.trans hv'), .inr ⟨rfl, rfl⟩⟩
  | shutdown =>
    obtain rfl := hsaw
    exact fun v hv => ⟨hs₂.later hv, .inr ⟨rfl, rfl⟩⟩
  | ready =>
    -- the wait saw the host `READY`, which licenses the guest's `READY`
    obtain ⟨v, hv, rfl⟩ := hsaw
    have hl : GuestState.ready.Licensed (some v) := ⟨v, rfl, (by simpa using hv : _ ∧ _).2⟩
    refine opWp_weaken (transition_allowed .ready (F := fun _ => True) (fun _ _ _ _ => trivial)
      (fun _ _ => trivial) hl (hs₂.seen _) trivial rfl) fun r e₃ k₃ w₃ h => ?_
    obtain ⟨rfl, rfl, rfl, hs₃, -⟩ := h
    exact ⟨hs₃, .inl ⟨rfl, rfl, by simp⟩⟩

/-- **The release** of an acknowledged message: `READY` once a wait saw the
host `READY`, nothing otherwise. -/
theorem GuestEndpoint.awaitRelease_spec {e : GuestEndpoint} {k : GuestGhost} {w : World}
    (hk : k.state = .acknowledged) (hs : e.Synced p k w) :
    opWp (guestSide p) GuestEndpoint.awaitRelease e
      (fun r e' k' w' => e'.Synced p k' w' ∧ ∃ o, r = .ok o ∧
        ((o = .ready ∧ k'.state = .ready ∧ k'.log = k.log ++ [.ready]) ∨
          (o ≠ .ready ∧ k'.state = k.state ∧ k'.log = k.log))) k w := by
  simp only [GuestEndpoint.awaitRelease, opWp_bind, opWp_get, hence_opWp]
  refine opWp_weaken (await_spec _ (Synced.stable _ _) hs) fun r e₁ k₁ w₁ h => ?_
  obtain ⟨rfl, hs₁, o, rfl, hsaw⟩ := h
  cases o with
  | timedOut waited =>
    obtain rfl := hsaw
    simp only [PollOutcome.isReady, Bool.false_eq_true, ite_false, opWp_pure]
    exact fun v hv => ⟨hs₁.later hv, _, rfl, .inr ⟨by simp, rfl, rfl⟩⟩
  | shutdown =>
    obtain rfl := hsaw
    simp only [PollOutcome.isReady, Bool.false_eq_true, ite_false, opWp_pure]
    exact fun v hv => ⟨hs₁.later hv, _, rfl, .inr ⟨by simp, rfl, rfl⟩⟩
  | ready =>
    obtain ⟨v, hv, rfl⟩ := hsaw
    have hl : GuestState.ready.Licensed (some v) := ⟨v, rfl, by simpa using hv⟩
    simp only [PollOutcome.isReady, ite_true, opWp_bind]
    refine opWp_weaken (transition_allowed .ready (F := fun _ => True) (fun _ _ _ _ => trivial)
      (fun _ _ => trivial) hl (hs₁.seen _) trivial (by rw [hs.state, hk]; rfl))
      fun r e₂ k₂ w₂ h => ?_
    obtain ⟨rfl, rfl, rfl, hs₂, -⟩ := h
    exact fun v hv => ⟨hs₂.later hv, _, rfl, .inl ⟨rfl, rfl, rfl⟩⟩

/-! ## Serving a message -/

/-- **Measuring** writes nothing: only the pipeline changes. -/
theorem GuestEndpoint.measure_spec (v : World) {e : GuestEndpoint} {k : GuestGhost} {w : World}
    (hs : e.Synced p k w) :
    opWp (guestSide p) (GuestEndpoint.measure v) e
      (fun r e' k' w' => (∃ a, r = .ok a) ∧ e'.Synced p k' w' ∧ k' = k) k w := by
  simp only [GuestEndpoint.measure, GuestEndpoint.spend, opWp_bind, opWp_get, hence_opWp]
  split
  · exact fun v hv => ⟨⟨_, rfl⟩, hs.later hv, rfl⟩
  · simp only [opWp_bind, opWp_set, opWp_spend, hence_opWp, opWp_pure]
    exact fun v hv => ⟨⟨_, rfl⟩, ⟨hs.window, hs.state, (hs.later hv).word⟩, rfl⟩

/-- **The states one served message publishes**, from the state the guest
starts in to the state it ends in: from `READY`, `PROCESSING ACKNOWLEDGED`
and the release's `READY` if it comes; from `ACKNOWLEDGED`, the release of the
message before. -/
def GuestState.Serves : GuestState → List GuestState → GuestState → Prop
  | .ready, d, s' => (d = [.processing, .acknowledged, .ready] ∧ s' = .ready) ∨
      (d = [.processing, .acknowledged] ∧ s' = .acknowledged)
  | .acknowledged, d, s' => (d = [.ready] ∧ s' = .ready) ∨
      (d = [.ready, .processing, .acknowledged, .ready] ∧ s' = .ready) ∨
      (d = [.ready, .processing, .acknowledged] ∧ s' = .acknowledged)
  | _, _, _ => False

/-- What one call that may serve a message does to the ghost: nothing
published, or one message served. -/
def GuestGhost.Served (k k' : GuestGhost) : Prop :=
  (k'.state = k.state ∧ k'.log = k.log) ∨ ∃ d, k'.log = k.log ++ d ∧ k.state.Serves d k'.state

/-- **Handling a message** from `READY` serves it; from any other state the
move to `PROCESSING` is refused and nothing is published.  The wait that saw
the host `SENDING` licenses `PROCESSING`. -/
theorem GuestEndpoint.handle_spec {e : GuestEndpoint} {k : GuestGhost} {w : World}
    (hl : GuestState.processing.Licensed k.seen) (hs : e.Synced p k w) :
    opWp (guestSide p) GuestEndpoint.handle e
      (fun _ e' k' w' => e'.Synced p k' w' ∧ k.Served k') k w := by
  simp only [GuestEndpoint.handle, GuestEndpoint.now, opWp_bind, opWp_now, hence_opWp]
  intro start
  refine opWp_weaken (transition_spec .processing (F := fun _ => True) (fun _ _ _ _ => trivial)
    (fun _ _ => trivial) (fun _ => hl) hs trivial) fun r e₁ k₁ w₁ h => ?_
  obtain ⟨ht, hs₁, -⟩ := h
  cases hc : e.state.canTransition .processing with
  | false =>
    rw [transitioned_of_refused hc] at ht
    simp only [Prod.mk.injEq] at ht
    obtain ⟨rfl, rfl, rfl⟩ := ht
    exact ⟨hs₁, .inl ⟨rfl, rfl⟩⟩
  | true =>
    have hr : k.state = .ready := hs.state ▸ GuestState.canTransition_processing.1 hc
    rw [transitioned_of_allowed hc] at ht
    simp only [Prod.mk.injEq] at ht
    obtain ⟨rfl, rfl, rfl⟩ := ht
    simp only [GuestEndpoint.look, opWp_bind, opWp_look, hence_opWp]
    intro w₂ h₂
    refine opWp_weaken (measure_spec w₂ (hs₁.later h₂)) fun r e₃ k₃ w₃ h => ?_
    obtain ⟨⟨⟨phases, counters, error, verdict⟩, rfl⟩, hs₃, rfl⟩ := h
    simp only [GuestEndpoint.change, opWp_bind, opWp_now, opWp_change, hence_opWp]
    intro t w₄ h₄
    -- the results are written while `PROCESSING`
    refine ⟨_, GuestMove.results _ w₄ _ _ rfl, ?_⟩
    have hs₄ := (hs₃.later h₄)
    refine opWp_weaken (transition_allowed .acknowledged (F := fun _ => True)
      (fun _ _ _ _ => trivial) (fun _ _ => trivial) trivial
      ⟨hs₄.window, hs₄.state, by simpa [guestSide] using hs₄.word⟩ trivial
      (by rw [hs₃.state]; rfl)) fun r e₅ k₅ w₅ h => ?_
    obtain ⟨rfl, rfl, rfl, hs₅, -⟩ := h
    simp only [opWp_bind]
    refine opWp_weaken (awaitRelease_spec rfl hs₅) fun r e₆ k₆ w₆ h => ?_
    obtain ⟨hs₆, o, rfl, hrel⟩ := h
    simp only [opWp_pure]
    refine fun v hv => ⟨hs₆.later hv, .inr ?_⟩
    rcases hrel with ⟨-, hst, hlog⟩ | ⟨-, hst, hlog⟩
    · exact ⟨[.processing, .acknowledged, .ready], by simp [hlog], by
        rw [hr, hst]; exact .inl ⟨rfl, rfl⟩⟩
    · exact ⟨[.processing, .acknowledged], by simp [hlog], by rw [hr, hst]; exact .inr ⟨rfl, rfl⟩⟩

/-- **Picking up a message**: a wait that saw the host `SENDING` licenses
handling it. -/
theorem GuestEndpoint.pickUp_spec {e : GuestEndpoint} {k : GuestGhost} {w : World}
    (hs : e.Synced p k w) :
    opWp (guestSide p) GuestEndpoint.pickUp e
      (fun _ e' k' w' => e'.Synced p k' w' ∧ k.Served k') k w := by
  simp only [GuestEndpoint.pickUp, opWp_bind, opWp_get, hence_opWp]
  refine opWp_weaken (await_spec _ (Synced.stable _ _) hs) fun r e₁ k₁ w₁ h => ?_
  obtain ⟨rfl, hs₁, o, rfl, hsaw⟩ := h
  cases o with
  | timedOut waited =>
    obtain rfl := hsaw
    exact fun v hv => ⟨hs₁.later hv, .inl ⟨rfl, rfl⟩⟩
  | shutdown =>
    obtain rfl := hsaw
    exact fun v hv => ⟨hs₁.later hv, .inl ⟨rfl, rfl⟩⟩
  | ready =>
    obtain ⟨v, hv, rfl⟩ := hsaw
    simp only [opWp_bind]
    refine opWp_mono_hence (handle_spec ⟨v, rfl, by simpa using hv⟩ (hs₁.seen _))
      fun r e' k' w' h => ?_
    cases r with
    | ok m => exact h
    | error err => exact Side.hence_self h

/-- A release followed by a served message is one served message. -/
theorem GuestGhost.Served.of_release {k k₁ k' : GuestGhost} (hk : k.state = .acknowledged)
    (hst : k₁.state = .ready) (hlog : k₁.log = k.log ++ [.ready]) (h : k₁.Served k') :
    k.Served k' := by
  refine .inr ?_
  rcases h with ⟨hst', hlog'⟩ | ⟨d, hlog', hd⟩
  · exact ⟨[.ready], by rw [hlog', hlog], by rw [hk, hst', hst]; exact .inl ⟨rfl, rfl⟩⟩
  · rw [hst] at hd
    refine ⟨.ready :: d, by simp [hlog', hlog], ?_⟩
    rw [hk]
    rcases hd with ⟨rfl, h'⟩ | ⟨rfl, h'⟩
    · exact .inr (.inl ⟨rfl, h'⟩)
    · exact .inr (.inr ⟨rfl, h'⟩)

/-- **Serving one message** publishes what `GuestState.Serves` says, or
nothing. -/
theorem GuestEndpoint.serveNext_spec {e : GuestEndpoint} {k : GuestGhost} {w : World}
    (hs : e.Synced p k w) :
    opWp (guestSide p) GuestEndpoint.serveNext e
      (fun _ e' k' w' => e'.Synced p k' w' ∧ k.Served k') k w := by
  simp only [GuestEndpoint.serveNext, GuestEndpoint.spend, opWp_bind, opWp_spend, opWp_get,
    hence_opWp]
  split
  · -- an acknowledged message is released first
    rename_i ha
    have hk : k.state = .acknowledged := hs.state ▸ (by simpa using ha)
    simp only [opWp_bind]
    refine opWp_weaken (awaitRelease_spec hk hs) fun r e₁ k₁ w₁ h => ?_
    obtain ⟨hs₁, o, rfl, hrel⟩ := h
    rcases hrel with ⟨rfl, hst, hlog⟩ | ⟨ho, hst, hlog⟩
    · exact opWp_weaken (pickUp_spec hs₁) fun _ _ _ _ h => ⟨h.1, h.2.of_release hk hst hlog⟩
    · cases o with
      | ready => exact absurd rfl ho
      | timedOut waited => exact fun v hv => ⟨hs₁.later hv, .inl ⟨hst, hlog⟩⟩
      | shutdown => exact fun v hv => ⟨hs₁.later hv, .inl ⟨hst, hlog⟩⟩
  · exact pickUp_spec hs

/-! ## The serving loop and the script actions -/

/-- **One turn of the serving loop** serves at most one message and goes on
as `next` does. -/
theorem GuestEndpoint.loopTurn_spec (expected : Option Nat) (processed failed : Nat)
    (msgs : Array ProcessedMessage)
    {next : ProcessedMessage → StateT GuestEndpoint Program GuestEndpoint.LoopResult}
    (hnext : ∀ m e k w, e.Synced p k w → stWp (guestSide p) (next m) e
      (fun _ e' k' w' => e'.Synced p k' w' ∧ Relation.ReflTransGen GuestGhost.Served k k') k w)
    {e : GuestEndpoint} {k : GuestGhost} {w : World} (hs : e.Synced p k w) :
    stWp (guestSide p) (GuestEndpoint.loopTurn expected processed failed msgs next) e
      (fun _ e' k' w' => e'.Synced p k' w' ∧ Relation.ReflTransGen GuestGhost.Served k k') k w := by
  rw [GuestEndpoint.loopTurn]
  split
  · exact fun v hv => ⟨hs.later hv, .refl⟩
  rw [stWp_bind, stWp_run]
  refine opWp_mono_hence (serveNext_spec hs) fun r e₁ k₁ w₁ h => ?_
  have hs₁ := (Side.hence_self h).1
  have hk₁ := (Side.hence_self h).2
  rcases r with err | ev
  · exact fun v hv => ⟨(h v hv).1, .single hk₁⟩
  cases ev with
  | processed m => exact stWp_weaken (hnext m _ _ _ hs₁) fun _ _ _ _ h' => ⟨h'.1, .head hk₁ h'.2⟩
  | idle => exact fun v hv => ⟨(h v hv).1, .single hk₁⟩
  | stalled => exact fun v hv => ⟨(h v hv).1, .single hk₁⟩
  | shutdown => exact fun v hv => ⟨(h v hv).1, .single hk₁⟩

/-- **The serving loop** serves one message after another. -/
theorem GuestEndpoint.runLoop_spec (expected : Option Nat) (room processed failed : Nat)
    (msgs : Array ProcessedMessage) {e : GuestEndpoint} {k : GuestGhost} {w : World}
    (hs : e.Synced p k w) :
    stWp (guestSide p) (GuestEndpoint.runLoop expected room processed failed msgs) e
      (fun _ e' k' w' => e'.Synced p k' w' ∧ Relation.ReflTransGen GuestGhost.Served k k') k w := by
  induction room generalizing processed failed msgs e k w with
  | zero =>
    rw [GuestEndpoint.runLoop]
    refine loopTurn_spec _ _ _ _ ?_ hs
    exact fun _ _ _ _ hs' v hv => ⟨hs'.later hv, .refl⟩
  | succ room ih =>
    rw [GuestEndpoint.runLoop]
    refine loopTurn_spec _ _ _ _ ?_ hs
    exact fun _ _ _ _ hs' => ih _ _ _ hs'

/-- Attaching as a script action. -/
theorem GuestAction.perform_attach {e : GuestEndpoint} {k : GuestGhost} {w : World}
    (hs : e.Synced p k w) :
    stWp (guestSide p) GuestAction.attach.perform e
      (fun _ e' k' w' => e'.Synced p k' w' ∧
        ((k'.state = .ready ∧ k'.log = k.log ++ [.waitingHostInit, .ready]) ∨
          (k'.state = .waitingHostInit ∧ k'.log = k.log ++ [.waitingHostInit]))) k w := by
  simp only [GuestAction.perform, stWp_bind, stWp_run]
  refine opWp_mono_hence (GuestEndpoint.attach_spec hs) fun r e' k' w' h v hv => ?_
  obtain ⟨hs', ha⟩ := h v hv
  exact ⟨hs', ha.imp (fun h => h.2) id⟩

/-- Serving until a count is reached, as a script action. -/
theorem GuestAction.perform_run (expected : Option Nat) {e : GuestEndpoint} {k : GuestGhost}
    {w : World} (hs : e.Synced p k w) :
    stWp (guestSide p) (GuestAction.run expected).perform e
      (fun _ e' k' w' => e'.Synced p k' w' ∧ Relation.ReflTransGen GuestGhost.Served k k') k w := by
  simp only [GuestAction.perform, GuestEndpoint.run, stWp_bind]
  exact stWp_mono_hence (GuestEndpoint.runLoop_spec _ _ _ _ _ hs) fun _ _ _ _ h => h

/-- **Every guest action keeps the endpoint in step with its ghost.** -/
theorem GuestAction.perform_synced (a : GuestAction) {e : GuestEndpoint} {k : GuestGhost}
    {w : World} (hs : e.Synced p k w) :
    stWp (guestSide p) a.perform e (fun _ e' k' w' => e'.Synced p k' w') k w := by
  cases a with
  | renew config pipeline counters =>
    simp only [GuestAction.perform, stWp_bind, stWp_get]
    intro w₁ h₁ w₂ h₂ w₃ h₃
    -- the new endpoint reads its state off the word, which is the ghost's
    have hs₂ := hs.later (h₁.trans h₂)
    exact ⟨hs.window, hs₂.word, (hs₂.later h₃).word⟩
  | attach => exact stWp_weaken (perform_attach hs) fun _ _ _ _ h => h.1
  | serve =>
    simp only [GuestAction.perform, stWp_bind, stWp_run]
    refine opWp_mono_hence (GuestEndpoint.serveNext_spec hs) fun r e' k' w' h => ?_
    cases r with
    | ok ev => exact fun v hv => (h v hv).1
    | error err => exact fun v hv => (h v hv).1
  | run expected => exact stWp_weaken (perform_run expected hs) fun _ _ _ _ h => h.1
  | close =>
    simp only [GuestAction.perform, stWp_bind, stWp_modify]
    exact fun v hv v' hv' => ⟨hs.window, hs.state, (hs.later (hv.trans hv')).word⟩
  | state =>
    simp only [GuestAction.perform, stWp_bind, stWp_get]
    exact fun v hv v' hv' => hs.later (hv.trans hv')

end ShmBench

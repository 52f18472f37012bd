import ShmBench.Proofs.Discipline
import ShmBench.Session

/-!
# The host's operations, one specification each

Each operation of the host endpoint is specified once, as a weakest
precondition for the host judged on its own (`hostSide`): run from an endpoint
in step with its ghost (`HostEndpoint.Synced`), it keeps the host's discipline
at every write and every end of a wait, whatever the guest does meanwhile, and
ends in step again, having published the states its specification names.
Callers cite these lemmas and never unfold the operation.

A guest step leaves everything the host owns as it was (`HostOwned.of_later`),
so facts about the host's data survive the guest.  Specifications that must
carry such a fact across their writes take it as a stable predicate `F` kept by
those writes.
-/

namespace ShmBench

open Interleaving

variable {p : Window}

/-! ## What the host can count on -/

@[simp] theorem World.hostState_publishHost (w : World) (q : Window) (s : HostState) :
    (w.publishHost q s).hostState = some s := by
  simp [World.hostState, Header.host, HostState.ofRaw_toRaw]

theorem HostOwned.hostState_eq {w w' : World} (h : HostOwned w w') :
    w'.hostState = w.hostState := by
  simp [World.hostState, Header.host, h.hostState]

/-- Whatever the guest does leaves what the host owns. -/
theorem HostOwned.of_later {w w' : World} (h : (hostSide p).Later w w') : HostOwned w w' := by
  induction h with
  | refl => exact HostOwned.refl _
  | tail _ hs ih => exact ih.trans (GuestStep.hostOwned hs)

/-- A host write that publishes nothing leaves the host state word. -/
theorem HostUpdate.hostState_apply {u : HostUpdate} (hu : u.publishes = false) (q : Window)
    (w : World) : (u.apply q w).hostState = w.hostState := by
  rw [World.hostState, Header.host, HostUpdate.hostWord_apply hu]
  rfl

/-- A fact about what the host owns survives the guest. -/
theorem HostOwned.stable {P : World → Prop} (hP : ∀ w w', HostOwned w w' → P w → P w') :
    (hostSide p).Stable P :=
  fun w w' hs h => hP w w' (GuestStep.hostOwned hs) h

/-- **The host endpoint in step with its ghost**: it uses window `p`, holds
the ghost's state, and the channel's host word reads as that state. -/
structure HostEndpoint.Synced (p : Window) (e : HostEndpoint) (k : HostGhost) (w : World) :
    Prop where
  window : e.window = p
  state : e.state = k.state
  word : w.hostState.getD .uninitialized = k.state

theorem HostOwned.isComplete_eq {w w' : World} (h : HostOwned w w') :
    w'.header.isComplete = w.header.isComplete := by
  simp [Header.isComplete, h.complete]

theorem HostEndpoint.Synced.stable (e : HostEndpoint) (k : HostGhost) :
    (hostSide p).Stable (e.Synced p k) :=
  fun _ _ hs h => ⟨h.window, h.state, by rw [(GuestStep.hostOwned hs).hostState_eq]; exact h.word⟩

theorem HostEndpoint.Synced.later {e : HostEndpoint} {k : HostGhost} {w w' : World}
    (h : e.Synced p k w) (hw : (hostSide p).Later w w') : e.Synced p k w' :=
  (Synced.stable e k).later hw h

/-- A host write that publishes nothing keeps the endpoint in step. -/
theorem HostEndpoint.Synced.update {e : HostEndpoint} {k : HostGhost} {w : World}
    (h : e.Synced p k w) {u : HostUpdate} (hu : u.publishes = false) (l : String) :
    e.Synced p k (u.apply p (w.stamp l)) :=
  ⟨h.window, h.state, by rw [HostUpdate.hostState_apply hu]; exact h.word⟩

/-! ## Writes and waits -/

/-- **A write that publishes nothing** keeps the ghost, and any stable fact
the write keeps. -/
theorem HostEndpoint.change_spec {F : World → Prop} (hF : (hostSide p).Stable F) (u : HostUpdate)
    (hu : u.publishes = false) (hFu : ∀ v, F v → F (u.apply p (v.stamp "main")))
    {e : HostEndpoint} {k : HostGhost} {w : World} (hw : F w) :
    opWp (hostSide p) (HostEndpoint.change (u.apply p)) e
      (fun r e' k' w' => r = .ok () ∧ e' = e ∧ k' = k ∧ F w') k w := by
  unfold HostEndpoint.change
  rw [opWp_change]
  intro v hv
  exact ⟨k, HostMove.write k v u hu,
    fun v' hv' => ⟨rfl, rfl, rfl, hF.later hv' (hFu v (hF.later hv hw))⟩⟩

/-- What a transition to `t` gives: with the move allowed, success, the state
`t`, and `t` published; otherwise the machine's refusal and nothing changed. -/
def HostEndpoint.transitioned (t : HostState) (e : HostEndpoint) (k : HostGhost) :
    Except ProtocolError Unit × HostEndpoint × HostGhost :=
  if e.state.canTransition t then (.ok (), { e with state := t }, ⟨t, k.log ++ [t]⟩)
  else (.error (.transition (.invalid "host" e.state.name t.name)), e, k)

theorem HostEndpoint.transitioned_of_allowed {t : HostState} {e : HostEndpoint} {k : HostGhost}
    (h : e.state.canTransition t = true) :
    transitioned t e k = (.ok (), { e with state := t }, ⟨t, k.log ++ [t]⟩) :=
  if_pos h

@[simp] theorem HostState.canTransition_initializing (s : HostState) :
    s.canTransition .initializing = true := by
  cases s <;> rfl

/-- **A host transition** does what `transitioned` says, and keeps any stable
fact that publishing `t` keeps. -/
theorem HostEndpoint.transition_spec (t : HostState) {F : World → Prop}
    (hF : (hostSide p).Stable F) (hFt : ∀ v, F v → F ((v.stamp "main").publishHost p t))
    (hFs : t = .sending → ∀ v, F v → v.header.isComplete = false)
    {e : HostEndpoint} {k : HostGhost} {w : World} (hs : e.Synced p k w) (hw : F w) :
    opWp (hostSide p) (HostEndpoint.transition t) e
      (fun r e' k' w' => (r, e', k') = transitioned t e k ∧ e'.Synced p k' w' ∧ F w') k w := by
  obtain ⟨rfl, hst, hword⟩ := hs
  simp only [HostEndpoint.transition, HostEndpoint.change, opWp_bind, opWp_get, hence_opWp]
  unfold transitioned
  cases ht : e.state.canTransition t with
  | false =>
    simp only [Bool.not_false, ite_true, opWp_bind, opWp_throw]
    exact fun w' hw' => ⟨by simp, Synced.later ⟨rfl, hst, hword⟩ hw', hF.later hw' hw⟩
  | true =>
    simp only [Bool.not_true, Bool.false_eq_true, ite_false, if_true, opWp_bind, opWp_change,
      hence_opWp, opWp_set]
    intro w₁ h₁
    refine ⟨_, HostMove.publish k w₁ t (hst ▸ ht) fun hs => hFs hs w₁ (hF.later h₁ hw),
      fun w₂ h₂ => ?_⟩
    refine ⟨rfl, ⟨rfl, rfl, ?_⟩, hF.later h₂ (hFt _ (hF.later h₁ hw))⟩
    rw [(HostOwned.of_later h₂).hostState_eq]
    simp

/-- An allowed host transition succeeds, moves the endpoint to `t` and
records `t`. -/
theorem HostEndpoint.transition_allowed (t : HostState) {F : World → Prop}
    (hF : (hostSide p).Stable F) (hFt : ∀ v, F v → F ((v.stamp "main").publishHost p t))
    (hFs : t = .sending → ∀ v, F v → v.header.isComplete = false)
    {e : HostEndpoint} {k : HostGhost} {w : World} (hs : e.Synced p k w) (hw : F w)
    (ht : e.state.canTransition t = true) :
    opWp (hostSide p) (HostEndpoint.transition t) e
      (fun r e' k' w' => r = .ok () ∧ e' = { e with state := t } ∧ k' = ⟨t, k.log ++ [t]⟩ ∧
        e'.Synced p k' w' ∧ F w') k w := by
  refine opWp_weaken (transition_spec t hF hFt hFs hs hw) fun r e' k' w' h => ?_
  obtain ⟨hr, hs', hw'⟩ := h
  rw [transitioned_of_allowed ht] at hr
  simp only [Prod.mk.injEq] at hr
  exact ⟨hr.1, hr.2.1, hr.2.2, hs', hw'⟩

/-- **A wait of the host** changes nothing of its own; it ends `shutdown`
exactly when the run is complete, since only the host sets the flag. -/
theorem HostEndpoint.pollFor_spec {F : World → Prop} (hF : (hostSide p).Stable F)
    (timeoutNs : Nat) (ready : World → Bool) {e : HostEndpoint} {k : HostGhost} {w : World}
    (hw : F w) :
    opWp (hostSide p) (HostEndpoint.pollFor timeoutNs ready) e
      (fun r e' k' w' => e' = e ∧ k' = k ∧ F w' ∧
        ∃ o, r = .ok o ∧ (o = .shutdown ↔ w'.header.isComplete = true)) k w := by
  simp only [HostEndpoint.pollFor, HostEndpoint.await, opWp_bind, opWp_get, hence_opWp]
  refine opWp_await_checked hF hw fun o v hv ho hu =>
    ⟨k, HostMove.observe k o v, fun v' hv' => ⟨rfl, rfl, hF.later hv' hv, o, rfl, ?_⟩⟩
  rw [(HostOwned.of_later hv').isComplete_eq]
  cases o with
  | shutdown => simpa [Poll.EndsWith, Poll.flagged] using ho
  | _ =>
    -- the flag check passed at an earlier world, and the guest never sets the flag
    obtain ⟨u, hf, hlater⟩ := hu (by rintro ⟨⟩)
    simp only [Poll.flagged, Bool.true_and] at hf
    simpa [(HostOwned.of_later hlater).isComplete_eq] using hf

/-- The wait for a `READY` guest changes nothing of the host's. -/
theorem HostEndpoint.waitForGuest_spec {F : World → Prop} (hF : (hostSide p).Stable F)
    {e : HostEndpoint} {k : HostGhost} {w : World} (hw : F w) :
    opWp (hostSide p) HostEndpoint.waitForGuest e
      (fun r e' k' w' => e' = e ∧ k' = k ∧ F w' ∧ ∃ b, r = .ok b) k w := by
  simp only [HostEndpoint.waitForGuest, opWp_bind, opWp_get, hence_opWp]
  refine opWp_weaken (pollFor_spec hF _ _ hw) fun r e' k' w' h => ?_
  obtain ⟨rfl, rfl, hw', o, rfl, -⟩ := h
  exact fun v hv => ⟨rfl, rfl, hF.later hv hw', _, rfl⟩

/-- The wait for the release changes nothing of the host's. -/
theorem HostEndpoint.waitForRelease_spec {F : World → Prop} (hF : (hostSide p).Stable F)
    {e : HostEndpoint} {k : HostGhost} {w : World} (hw : F w) :
    opWp (hostSide p) HostEndpoint.waitForRelease e
      (fun r e' k' w' => e' = e ∧ k' = k ∧ F w' ∧ ∃ b, r = .ok b) k w := by
  simp only [HostEndpoint.waitForRelease, opWp_bind, opWp_get, hence_opWp]
  refine opWp_weaken (pollFor_spec hF _ _ hw) fun r e' k' w' h => ?_
  obtain ⟨rfl, rfl, hw', o, rfl, -⟩ := h
  exact fun v hv => ⟨rfl, rfl, hF.later hv hw', _, rfl⟩

/-! ## Initialization and shutdown -/

/-- **Initialization** publishes `INITIALIZING` then `READY`, from any state,
and leaves the channel open with the run not complete. -/
theorem HostEndpoint.prepare_spec {e : HostEndpoint} {k : HostGhost} {w : World}
    (hs : e.Synced p k w) :
    opWp (hostSide p) HostEndpoint.prepare e
      (fun r e' k' w' => r = .ok () ∧ e' = { e with state := .ready } ∧
        k' = ⟨.ready, k.log ++ [.initializing, .ready]⟩ ∧ e'.Synced p k' w' ∧
        w'.header.complete = 0 ∧ w'.header.magic = channelMagic) k w := by
  simp only [HostEndpoint.prepare, HostEndpoint.spend, HostEndpoint.change, opWp_bind, opWp_spend,
    opWp_change, hence_opWp]
  intro w₁ h₁
  refine ⟨k, HostMove.write k w₁ (.magic 0) rfl, ?_⟩
  have hs₁ := (hs.later h₁).update (u := .magic 0) rfl "main"
  refine opWp_weaken (HostEndpoint.transition_allowed .initializing (F := fun _ => True)
    (fun _ _ _ _ => trivial) (fun _ _ => trivial) (by rintro ⟨⟩) hs₁ trivial
    (HostState.canTransition_initializing _)) fun r e' k' w' h => ?_
  obtain ⟨rfl, rfl, rfl, hs', -⟩ := h
  simp only [opWp_bind, opWp_change, hence_opWp]
  intro w₂ h₂
  refine ⟨_, HostMove.write _ w₂ .reset rfl, fun w₃ h₃ =>
    ⟨_, HostMove.write _ w₃ (.magic channelMagic) rfl, ?_⟩⟩
  have hF : (hostSide p).Stable fun v => v.header.complete = 0 ∧ v.header.magic = channelMagic :=
    HostOwned.stable fun _ _ h hv => ⟨h.complete.trans hv.1, h.magic.trans hv.2⟩
  have hw₃ : ((w₃.stamp "main").setMagic channelMagic).header.complete = 0 := by
    simp [(HostOwned.of_later h₃).complete, Header.reset]
  refine opWp_weaken (HostEndpoint.transition_allowed .ready hF (fun v hv => by simpa using hv)
    (by rintro ⟨⟩)
    ((((hs'.later h₂).update (u := .reset) rfl "main").later h₃).update (u := .magic channelMagic)
      rfl "main") ⟨hw₃, by simp⟩ rfl) fun r e'' k'' w'' h => ?_
  obtain ⟨rfl, rfl, rfl, hs'', hc, hm⟩ := h
  exact ⟨rfl, rfl, by simp, by simpa using hs'', hc, hm⟩

/-- **Shutdown** sets the test-complete flag and then moves to `COMPLETED`,
as the machine allows. -/
theorem HostEndpoint.shutdown_spec {e : HostEndpoint} {k : HostGhost} {w : World}
    (hs : e.Synced p k w) :
    opWp (hostSide p) HostEndpoint.shutdown e
      (fun r e' k' w' => (r, e', k') = transitioned .completed e k ∧ e'.Synced p k' w' ∧
        w'.header.isComplete = true) k w := by
  simp only [HostEndpoint.shutdown, HostEndpoint.spend, HostEndpoint.change, opWp_bind, opWp_spend,
    opWp_change, hence_opWp]
  intro w₁ h₁
  refine ⟨k, HostMove.write k w₁ (.complete true) rfl, ?_⟩
  have hF : (hostSide p).Stable fun v => v.header.isComplete = true :=
    HostOwned.stable fun _ _ h hv => by simpa [Header.isComplete, h.complete] using hv
  exact opWp_weaken (transition_spec .completed hF (fun v hv => by simpa [Header.isComplete] using hv)
    (by rintro ⟨⟩) ((hs.later h₁).update (u := .complete true) rfl "main") (by simp [Header.isComplete]))
    fun r e' k' w' h => h

/-! ## A send -/

/-- The writes that fill the channel with a message: the results, the
payload and the message header. -/
def HostUpdate.fills : HostUpdate → Bool
  | .clearResults | .payload _ | .message _ _ _ => true
  | _ => false

/-- The filling writes leave the host state word and the test-complete flag. -/
theorem HostUpdate.fills_keep {u : HostUpdate} (hu : u.fills = true) (q : Window) (w : World) :
    (u.apply q w).hostState = w.hostState ∧ (u.apply q w).header.complete = w.header.complete := by
  cases u <;> simp_all [HostUpdate.fills, HostUpdate.apply, World.hostState, Header.host]

/-- **Filling the channel** publishes nothing and keeps the endpoint's state,
window and settings, and any stable fact the filling writes keep. -/
theorem HostEndpoint.fill_spec (report : MessageReport) (payload : ByteArray) (digest : Digest)
    (corrupt : Option Corruption) {F : World → Prop} (hF : (hostSide p).Stable F)
    (hFu : ∀ (u : HostUpdate) v, u.fills = true → F v → F (u.apply p (v.stamp "main")))
    {e : HostEndpoint} {k : HostGhost} {w : World} (hw : F w) :
    opWp (hostSide p) (HostEndpoint.fill report payload digest corrupt) e
      (fun r e' k' w' => (∃ a, r = .ok a) ∧ e'.window = e.window ∧ e'.state = e.state ∧
        e'.config = e.config ∧ k' = k ∧ F w') k w := by
  simp -zeta only [HostEndpoint.fill, HostEndpoint.change, HostEndpoint.spend, opWp_bind, opWp_spend,
    opWp_change, opWp_modify, opWp_get, hence_opWp]
  intro w₁ h₁
  have hw₁ := hFu .clearResults w₁ rfl (hF.later h₁ hw)
  refine ⟨k, HostMove.write k w₁ .clearResults rfl, fun w₂ h₂ =>
    ⟨k, HostMove.write k w₂ (.payload payload) rfl, ?_⟩⟩
  have hw₂ := hFu (.payload payload) w₂ rfl (hF.later h₂ hw₁)
  cases corrupt with
  | none =>
    simp only [opWp_set, opWp_bind, opWp_spend, opWp_change, hence_opWp]
    intro v hv
    exact ⟨k, HostMove.write k v (.message _ _ _) rfl, fun v' hv' =>
      ⟨⟨_, rfl⟩, rfl, rfl, rfl, rfl, hF.later hv' (hFu (.message _ _ _) v rfl (hF.later hv hw₂))⟩⟩
  | some c =>
    simp only [opWp_set, opWp_bind, opWp_spend, opWp_change, hence_opWp]
    intro v hv
    have hw₃ := hFu (.payload (c.apply (v.readPayload payload.size))) v rfl (hF.later hv hw₂)
    refine ⟨k, HostMove.write k v (.payload (c.apply (v.readPayload payload.size))) rfl,
      fun v' hv' => ?_⟩
    exact ⟨k, HostMove.write k v' (.message _ _ _) rfl, fun v'' hv'' =>
      ⟨⟨_, rfl⟩, rfl, rfl, rfl, rfl, hF.later hv'' (hFu (.message _ _ _) v' rfl (hF.later hv' hw₃))⟩⟩

/-- What delivering a published message leaves: `SENDING` then `READY`, or
`SENDING` alone when a wait saw the run complete. -/
def HostEndpoint.Delivered (k : HostGhost) (r : Except ProtocolError MessageReport)
    (e' : HostEndpoint) (k' : HostGhost) (w' : World) : Prop :=
  (k' = ⟨.ready, k.log ++ [.sending, .ready]⟩ ∧ e'.state = .ready) ∨
  (k' = ⟨.sending, k.log ++ [.sending]⟩ ∧ e'.state = .sending ∧ r = .error .shutdown ∧
    w'.header.isComplete = true)

/-- **Delivering a filled message**, while the run is not complete, publishes
`SENDING` and, unless a wait sees the run complete, `READY` again; it keeps the
endpoint's settings and any stable fact that publishing keeps. -/
theorem HostEndpoint.deliver_spec (report : MessageReport) {F : World → Prop}
    (hF : (hostSide p).Stable F) (hFt : ∀ t v, F v → F ((v.stamp "main").publishHost p t))
    (hFc : ∀ v, F v → v.header.isComplete = false) {e : HostEndpoint} {k : HostGhost} {w : World} (hs : e.Synced p k w) (hr : e.state = .ready)
    (hw : F w) :
    opWp (hostSide p) (HostEndpoint.deliver report) e
      (fun r e' k' w' => Delivered k r e' k' w' ∧ e'.Synced p k' w' ∧ e'.config = e.config ∧ F w')
      k w := by
  simp only [HostEndpoint.deliver, HostEndpoint.now, opWp_bind, opWp_get, opWp_now, hence_opWp]
  intro start
  refine opWp_weaken (transition_allowed .sending hF (hFt .sending) (fun _ => hFc) hs hw
    (by rw [hr]; rfl)) fun r e₁ k₁ w₁ h => ?_
  obtain ⟨rfl, rfl, rfl, hs₁, hw₁⟩ := h
  simp only [opWp_bind]
  have withdraw : ∀ (a : MessageReport) v, Synced p { e with state := .sending }
      ⟨.sending, k.log ++ [.sending]⟩ v → F v →
      opWp (hostSide p) (transition .ready >>= fun _ => pure a) { e with state := .sending }
        (fun r e' k' w' => Delivered k r e' k' w' ∧ e'.Synced p k' w' ∧ e'.config = e.config ∧ F w')
        ⟨.sending, k.log ++ [.sending]⟩ v := by
    intro a v hs' hv
    refine opWp_seq (transition_allowed .ready hF (hFt .ready) (by rintro ⟨⟩) hs' hv rfl)
      (fun _ e' k' w' h => ?_) (fun err e' k' w' h => by cases h.1)
    obtain ⟨-, rfl, rfl, hs'', hw''⟩ := h
    exact fun v' hv' => ⟨.inl ⟨by simp, rfl⟩, hs''.later hv', rfl, hF.later hv' hw''⟩
  have halt : ∀ v, Synced p { e with state := .sending } ⟨.sending, k.log ++ [.sending]⟩ v → F v →
      v.header.isComplete = true → (hostSide p).Hence (fun k' w' =>
        Delivered k (.error .shutdown) { e with state := .sending } k' w' ∧
        Synced p { e with state := .sending } k' w' ∧ e.config = e.config ∧ F w')
        ⟨.sending, k.log ++ [.sending]⟩ v :=
    fun v hs' hv hc v' hv' => ⟨.inr ⟨rfl, rfl, rfl, (HostOwned.of_later hv').isComplete_eq.trans hc⟩,
      hs'.later hv', rfl, hF.later hv' hv⟩
  have hF₁ := (Synced.stable { e with state := .sending } ⟨.sending, k.log ++ [.sending]⟩).and hF
  refine opWp_weaken (pollFor_spec hF₁ _ _ ⟨hs₁, hw₁⟩) fun r e₂ k₂ w₂ h => ?_
  obtain ⟨rfl, rfl, ⟨hs₂, hw₂⟩, o, rfl, hshut⟩ := h
  cases o with
  | timedOut waited => exact withdraw _ _ hs₂ hw₂
  | shutdown => exact halt _ hs₂ hw₂ (hshut.1 rfl)
  | ready =>
    simp only [opWp_bind]
    refine opWp_weaken (pollFor_spec hF₁ _ _ ⟨hs₂, hw₂⟩) fun r e₃ k₃ w₃ h => ?_
    obtain ⟨rfl, rfl, ⟨hs₃, hw₃⟩, o, rfl, hshut⟩ := h
    cases o with
    | timedOut waited => exact withdraw _ _ hs₃ hw₃
    | shutdown => exact halt _ hs₃ hw₃ (hshut.1 rfl)
    | ready =>
      simp only [HostEndpoint.look, opWp_bind, opWp_now, opWp_look, hence_opWp]
      intro t w₄ h₄
      refine opWp_weaken (transition_allowed .ready hF (hFt .ready) (by rintro ⟨⟩) (hs₃.later h₄)
        (hF.later h₄ hw₃) rfl) fun r e₅ k₅ w₅ h => ?_
      obtain ⟨rfl, rfl, rfl, hs₅, hw₅⟩ := h
      simp only [opWp_bind]
      refine opWp_weaken (waitForRelease_spec ((Synced.stable _ _).and hF) ⟨hs₅, hw₅⟩)
        fun r e₆ k₆ w₆ h => ?_
      obtain ⟨rfl, rfl, ⟨hs₆, hw₆⟩, b, rfl⟩ := h
      exact fun v hv => ⟨.inl ⟨by simp, rfl⟩, hs₆.later hv, rfl, hF.later hv hw₆⟩

theorem HostEndpoint.sendSealed_spec (sequence : UInt32) (payload : ByteArray) (digest : Digest)
    (corrupt : Option Corruption) {e : HostEndpoint} {k : HostGhost} {w : World}
    (hs : e.Synced p k w) :
    opWp (hostSide p) (sendSealed sequence payload digest corrupt) e
      (fun r e' k' w' => ((k' = k ∧ e'.state = e.state) ∨ (e.state = .ready ∧ Delivered k r e' k' w')) ∧
        e'.Synced p k' w' ∧ e'.config = e.config ∧ w'.header.complete = w.header.complete) k w := by
  have hF : (hostSide p).Stable fun v => v.header.complete = w.header.complete :=
    HostOwned.stable fun _ _ h hv => h.complete.trans hv
  have idle : ∀ r v, e.Synced p k v → v.header.complete = w.header.complete →
      (hostSide p).Hence (fun k' w' => ((k' = k ∧ e.state = e.state) ∨
        (e.state = .ready ∧ Delivered k r e k' w')) ∧ e.Synced p k' w' ∧ e.config = e.config ∧
        w'.header.complete = w.header.complete) k v :=
    fun r v hs' hv v' hv' => ⟨.inl ⟨rfl, rfl⟩, hs'.later hv', rfl, hF.later hv' hv⟩
  simp only [sendSealed, look, spend, opWp_bind, opWp_get, hence_opWp]
  split
  · exact (opWp_bind _ _ _ _ _ _).2 (idle _ w hs rfl)
  rename_i hr
  simp only [bne_iff_ne, ne_eq, Decidable.not_not] at hr
  simp only [opWp_bind, opWp_look, hence_opWp]
  intro w₁ h₁
  split
  · exact (opWp_bind _ _ _ _ _ _).2 (idle _ w₁ (hs.later h₁) (hF.later h₁ rfl))
  simp only [opWp_bind, opWp_spend, hence_opWp]
  refine opWp_weaken (pollFor_spec ((Synced.stable e k).and hF) _ _ ⟨hs.later h₁, hF.later h₁ rfl⟩)
    fun r e₂ k₂ w₂ h => ?_
  obtain ⟨rfl, rfl, ⟨hs₂, hw₂⟩, o, rfl, hshut⟩ := h
  cases o with
  | timedOut waited => exact idle _ w₂ hs₂ hw₂
  | shutdown => exact (opWp_bind _ _ _ _ _ _).2 (idle _ w₂ hs₂ hw₂)
  | ready =>
    -- the wait ended `ready`, so the run is not complete, and the filling keeps it so
    have hlow : w₂.header.isComplete = false := by simpa using hshut
    simp only [opWp_bind]
    have hF₂ : (hostSide p).Stable fun v => v.hostState.getD .uninitialized = k₂.state ∧
        v.header.complete = w.header.complete :=
      HostOwned.stable fun _ _ h hv => ⟨by rw [h.hostState_eq]; exact hv.1, h.complete.trans hv.2⟩
    have hfill : ∀ (u : HostUpdate) (v : World), u.fills = true →
        v.hostState.getD .uninitialized = k₂.state ∧ v.header.complete = w.header.complete →
        (u.apply p (v.stamp "main")).hostState.getD .uninitialized = k₂.state ∧
          (u.apply p (v.stamp "main")).header.complete = w.header.complete := by
      intro u v hu hv
      obtain ⟨h₁, h₂⟩ := HostUpdate.fills_keep hu p (v.stamp "main")
      exact ⟨by rw [h₁]; exact hv.1, by rw [h₂]; exact hv.2⟩
    refine opWp_weaken (fill_spec _ payload digest corrupt hF₂ hfill ⟨hs₂.word, hw₂⟩)
      fun r e₃ k₃ w₃ h => ?_
    obtain ⟨⟨a, rfl⟩, hwin, hst, hcfg, rfl, hw₃⟩ := h
    have hs₃ : e₃.Synced p k₃ w₃ := ⟨hwin.trans hs₂.window, hst.trans hs₂.state, hw₃.1⟩
    have hF₃ : (hostSide p).Stable fun v => v.header.complete = w.header.complete ∧
        v.header.isComplete = false :=
      HostOwned.stable fun _ _ h hv => ⟨h.complete.trans hv.1, h.isComplete_eq.trans hv.2⟩
    have hlow₃ : w₃.header.isComplete = false := by
      simpa [Header.isComplete, hw₃.2, ← hw₂] using hlow
    refine opWp_weaken (deliver_spec a hF₃ (fun t v hv => by simpa [Header.isComplete] using hv)
      (fun v hv => hv.2) hs₃
      (hst.trans hr) ⟨hw₃.2, hlow₃⟩) fun r e₄ k₄ w₄ h => ?_
    obtain ⟨hd, hs₄, hcfg₄, hw₄⟩ := h
    exact ⟨.inr ⟨hr, hd⟩, hs₄, hcfg₄.trans hcfg, hw₄.1⟩

theorem HostEndpoint.sendWith_spec (sequence : UInt32) (payload : ByteArray)
    (corrupt : Option Corruption) {e : HostEndpoint} {k : HostGhost} {w : World}
    (hs : e.Synced p k w) :
    opWp (hostSide p) (sendWith sequence payload corrupt) e
      (fun r e' k' w' => ((k' = k ∧ e'.state = e.state) ∨ (e.state = .ready ∧ Delivered k r e' k' w')) ∧
        e'.Synced p k' w' ∧ e'.config = e.config ∧ w'.header.complete = w.header.complete) k w :=
  sendSealed_spec sequence payload _ corrupt hs

/-! ## Script actions -/

/-- Initialization as a script action. -/
theorem HostAction.perform_prepare {e : HostEndpoint} {k : HostGhost} {w : World}
    (hs : e.Synced p k w) :
    stWp (hostSide p) HostAction.prepare.perform e
      (fun _ e' k' w' => k' = ⟨.ready, k.log ++ [.initializing, .ready]⟩ ∧ e'.Synced p k' w' ∧
        w'.header.complete = 0) k w := by
  simp only [HostAction.perform, stWp_bind, stWp_run]
  refine opWp_mono_hence (HostEndpoint.prepare_spec hs) fun r e' k' w' h v hv => ?_
  obtain ⟨-, -, rfl, hs', hc, -⟩ := Side.hence_self h
  exact ⟨rfl, hs'.later hv, (HostOwned.of_later hv).complete.trans hc⟩

/-- A send as a script action: it leaves the ghost alone, or the host was
`READY` and the message was delivered or withdrawn. -/
theorem HostAction.perform_send (sequence : UInt32) (payload : ByteArray)
    (corrupt : Option HostEndpoint.Corruption) {e : HostEndpoint} {k : HostGhost} {w : World}
    (hs : e.Synced p k w) :
    stWp (hostSide p) (HostAction.send sequence payload corrupt).perform e
      (fun _ e' k' w' => ((k' = k ∧ e'.state = e.state) ∨
          (e.state = .ready ∧ ∃ r, HostEndpoint.Delivered k r e' k' w')) ∧
        e'.Synced p k' w' ∧ w'.header.complete = w.header.complete) k w := by
  simp only [HostAction.perform, stWp_bind, stWp_run]
  refine opWp_mono_hence (HostEndpoint.sendWith_spec sequence payload corrupt hs)
    fun r e' k' w' h => ?_
  -- what the send promised holds from its end on, through the reading of the settings
  have post : (hostSide p).Hence (fun k'' w'' => ((k'' = k ∧ e'.state = e.state) ∨
      (e.state = .ready ∧ ∃ r, HostEndpoint.Delivered k r e' k'' w'')) ∧
      e'.Synced p k'' w'' ∧ w''.header.complete = w.header.complete) k' w' := fun v hv => by
    obtain ⟨hd, hs', -, hc⟩ := h v hv
    refine ⟨hd.imp id fun hd => ⟨hd.1, r, hd.2⟩, hs', hc⟩
  cases r with
  | ok report =>
    simp only [stWp_bind, stWp_get]
    exact Side.hence_hence.2 post
  | error err => exact post

/-- Shutdown as a script action. -/
theorem HostAction.perform_shutdown {e : HostEndpoint} {k : HostGhost} {w : World}
    (hs : e.Synced p k w) :
    stWp (hostSide p) HostAction.shutdown.perform e
      (fun _ e' k' w' => (∃ r, (r, e', k') = HostEndpoint.transitioned .completed e k) ∧
        e'.Synced p k' w') k w := by
  simp only [HostAction.perform, stWp_bind, stWp_run]
  refine opWp_mono_hence (HostEndpoint.shutdown_spec hs) fun r e' k' w' h v hv => ?_
  obtain ⟨ht, hs', -⟩ := h v hv
  exact ⟨⟨r, ht⟩, hs'⟩

/-- **Every host action keeps the endpoint in step with its ghost.** -/
theorem HostAction.perform_synced (a : HostAction) {e : HostEndpoint} {k : HostGhost} {w : World}
    (hs : e.Synced p k w) :
    stWp (hostSide p) a.perform e (fun _ e' k' w' => e'.Synced p k' w') k w := by
  cases a with
  | renew config counters =>
    simp only [HostAction.perform, stWp_bind, stWp_get]
    intro w₁ h₁ w₂ h₂ w₃ h₃
    -- the new endpoint reads its state off the word, which is the ghost's
    have hs₂ := hs.later (h₁.trans h₂)
    exact ⟨hs.window, hs₂.word, (hs₂.later h₃).word⟩
  | prepare => exact stWp_weaken (perform_prepare hs) fun _ _ _ _ h => h.2.1
  | waitForGuest =>
    simp only [HostAction.perform, stWp_bind, stWp_run]
    refine opWp_mono_hence (HostEndpoint.waitForGuest_spec (HostEndpoint.Synced.stable e k) hs)
      fun r e' k' w' h => ?_
    obtain ⟨rfl, rfl, hs', b, rfl⟩ := Side.hence_self h
    exact fun v hv => hs'.later hv
  | shutdown => exact stWp_weaken (perform_shutdown hs) fun _ _ _ _ h => h.2
  | state =>
    simp only [HostAction.perform, stWp_bind, stWp_get]
    exact fun v hv v' hv' => hs.later (hv.trans hv')
  | send sequence payload corrupt =>
    exact stWp_weaken (perform_send sequence payload corrupt hs) fun _ _ _ _ h => h.2.1

end ShmBench

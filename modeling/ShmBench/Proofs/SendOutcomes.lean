import ShmBench.Proofs.Initialization

/-!
# How a send ends

A send is judged by the literal list of its events (`writesSide`): each write
and the end of each wait, whatever the guest does meanwhile.  From any endpoint
whose state the channel's host word shows (`send_outcomes`), on a mapping
that, as every region, holds at most `Region.maxSize` bytes:

* `HostNotReady` is returned exactly when the endpoint is not `READY`, and
  `PayloadTooLarge` exactly when it is and the payload is longer than the
  capacity; both, and every error but `Shutdown`, leave the endpoint, the
  events and the host's fields as they were (`SendEnds`);
* every report leaves the host `READY`, in the endpoint and in the channel;
* a wait for an idle guest that gives up shows only its own end, no write;
  otherwise the header describes the payload's full length;
* a timeout is reported only for a wait that gave up, its condition failing
  after its timeout (`HostConfig.GaveUp`), with the wait's length;
* a guest failure is the code read after the guest acknowledged, never `None`,
  and a report succeeds exactly when that code is zero.

The walk follows the program: `fill_writes` for the filling writes,
`deliver_ends` for the publication and its three waits, and `sendSealed_ends`
for the checks and the wait for an idle guest before them.
-/

namespace ShmBench
open Interleaving

/-- **The outcome of an acknowledged message**, from the result word the host
read: the guest's failure, or delivered. -/
def ackOutcome (raw : UInt32) : MessageOutcome :=
  if (ResultCode.ofRaw raw).isError then .guestError (ResultCode.ofRaw raw) else .delivered

/-- Only the zero word reads as no failure. -/
theorem ResultCode.ofRaw_isError_eq_false {raw : UInt32} :
    (ResultCode.ofRaw raw).isError = false ↔ raw = 0 := by
  unfold ResultCode.ofRaw
  by_cases h0 : raw = 0
  · simp [h0, ResultCode.isError]
  · by_cases h1 : raw = 1 <;> by_cases h2 : raw = 2 <;> by_cases h3 : raw = 3 <;>
      simp [h0, h1, h2, h3, ResultCode.isError]

/-- An acknowledged message is delivered exactly when the result word is zero. -/
theorem ackOutcome_eq_delivered {raw : UInt32} : ackOutcome raw = .delivered ↔ raw = 0 := by
  unfold ackOutcome
  cases h : (ResultCode.ofRaw raw).isError
  · simpa using ResultCode.ofRaw_isError_eq_false.1 h
  · have hne : raw ≠ 0 := fun h0 => by simp [ResultCode.ofRaw_isError_eq_false.2 h0] at h
    simp [hne]

/-- A guest failure of an acknowledged message is the code the result word
reads as, and never `None`. -/
theorem ackOutcome_eq_guestError {raw : UInt32} {c : ResultCode}
    (h : ackOutcome raw = .guestError c) : c = ResultCode.ofRaw raw ∧ c ≠ .none := by
  unfold ackOutcome at h
  split at h
  · cases h
    rename_i hc
    exact ⟨rfl, fun hn => by simp [hn, ResultCode.isError] at hc⟩
  · cases h

/-- An acknowledged message never reads as a timeout. -/
theorem ackOutcome_ne_timedOut (raw : UInt32) (stage : WaitStage) (ms : UInt64) :
    ackOutcome raw ≠ .timedOut stage ms := by
  unfold ackOutcome
  split <;> simp

/-- **A wait of a send that gave up** after `n` nanoseconds, its last check
reading `v`: the wait's condition failed there, and its timeout had passed. -/
def HostConfig.GaveUp (cfg : HostConfig) : WaitStage → Nat → World → Prop
  | .guestIdle, n, v => HostEndpoint.guestBusy v = true ∧ cfg.processingTimeoutNs ≤ n
  | .processing, n, v => HostEndpoint.guestBusy v = false ∧ cfg.processingTimeoutNs ≤ n
  | .acknowledged, n, v => v.guestState ≠ some .acknowledged ∧ cfg.ackTimeoutNs ≤ n

/-- A world the host read after one of its waits saw the guest `ACKNOWLEDGED`:
the wait's end is among the events `l`. -/
def ReadAfterAck (R : World → World → Prop) (l : List Event) (v : World) : Prop :=
  ∃ va, .observe .ready va ∈ l ∧ va.guestState = some .acknowledged ∧ (writesSide R).Later va v

section Steps

variable {R : World → World → Prop} {e : HostEndpoint} {l : List Event} {w : World}

/-- A fact that what the host owns decides survives the guest. -/
theorem writesSide_stable (hR : ∀ v v', R v v' → HostOwned v v') {F : World → Prop}
    (hF : ∀ v v', HostOwned v v' → F v → F v') : (writesSide R).Stable F :=
  fun v v' h hv => hF v v' (hR v v' h) hv

/-- The guest never changes the host's state word. -/
theorem writesSide_stable_hostState (hR : ∀ v v', R v v' → HostOwned v v')
    (s : Option HostState) :
    (writesSide R).Stable fun v => v.hostState = s :=
  writesSide_stable hR fun _ _ h hv => h.hostState_eq.trans hv

/-- Nor the message size the header describes. -/
theorem writesSide_stable_dataSize (hR : ∀ v v', R v v' → HostOwned v v') (n : UInt32) :
    (writesSide R).Stable fun v => v.header.dataSize = n :=
  writesSide_stable hR fun _ _ h hv => h.dataSize.trans hv

/-- **A wait** shows one event: how it ended and the world its last check read. -/
theorem pollFor_writes (timeoutNs : Nat) (ready : World → Bool)
    {Q : Except ProtocolError PollOutcome → HostEndpoint → List Event → World → Prop}
    (h : ∀ o v, (writesSide R).Later w v →
      ({ intervalNs := e.config.pollIntervalNs, timeoutNs, ready } : Poll).EndsWith o v →
      (writesSide R).Hence (Q (.ok o) e) (l ++ [.observe o v]) v) :
    opWp (writesSide R) (HostEndpoint.pollFor timeoutNs ready) e Q l w := by
  simp only [HostEndpoint.pollFor, HostEndpoint.await, opWp_bind, opWp_get, hence_opWp]
  exact opWp_await_of (F := (writesSide R).Later w) (fun _ _ he h => h.tail he)
    (Side.later_refl w) fun o v hv ho => ⟨_, rfl, h o v hv ho⟩

/-- **Filling the channel** keeps the endpoint's state, window and settings and
any stable fact the filling writes keep, and leaves the header describing the
payload's length, cut to a word. -/
theorem fill_writes (hR : ∀ v v', R v v' → HostOwned v v') (report : MessageReport)
    (payload : ByteArray) (digest : Digest) (corrupt : Option HostEndpoint.Corruption)
    {F : World → Prop} (hF : (writesSide R).Stable F)
    (hFu : ∀ (u : HostUpdate) v, u.fills = true → F v → F (u.apply e.window (v.stamp "main")))
    (hw : F w) :
    opWp (writesSide R) (HostEndpoint.fill report payload digest corrupt) e
      (fun r e' _ w' => (∃ a, r = .ok a) ∧ e'.window = e.window ∧ e'.state = e.state ∧
        e'.config = e.config ∧ F w' ∧ w'.header.dataSize = payload.size.toUInt32) l w := by
  have hD := writesSide_stable_dataSize hR payload.size.toUInt32
  simp -zeta only [HostEndpoint.fill, HostEndpoint.spend, opWp_bind, opWp_spend, change_writes,
    opWp_modify, opWp_get, hence_opWp]
  intro b₁ h₁ b₂ h₂
  have hw₂ := hFu (.payload payload) b₂ rfl
    (hF.later h₂ (hFu .clearResults b₁ rfl (hF.later h₁ hw)))
  have header : ∀ v, F v → ∀ v', (writesSide R).Later v v' →
      F ((HostUpdate.message report.sequence payload.size.toUInt32 digest).apply e.window
        (v'.stamp "main")) ∧
      ((v'.stamp "main").writeMessageHeader report.sequence payload.size.toUInt32
        digest).header.dataSize = payload.size.toUInt32 :=
    fun v hv v' hv' => ⟨hFu (.message _ _ _) v' rfl (hF.later hv' hv), rfl⟩
  cases corrupt with
  | none =>
    simp only [opWp_set, opWp_bind, opWp_spend, change_writes, hence_opWp]
    intro v hv v' hv'
    obtain ⟨hF', hD'⟩ := header _ hw₂ v hv
    exact ⟨⟨_, rfl⟩, rfl, rfl, rfl, hF.later hv' hF', hD.later hv' hD'⟩
  | some c =>
    simp only [opWp_set, opWp_bind, opWp_spend, change_writes, hence_opWp]
    intro v hv v' hv' v'' hv''
    have hw₃ := hFu (.payload (c.apply (v.readPayload payload.size))) v rfl (hF.later hv hw₂)
    obtain ⟨hF', hD'⟩ := header _ hw₃ v' hv'
    exact ⟨⟨_, rfl⟩, rfl, rfl, rfl, hF.later hv'' hF', hD.later hv'' hD'⟩

/-- **How a delivery under settings `cfg` ends**: stopped by a complete run, or
with a report and the host `READY`, withdrawn after the pickup or
acknowledgement wait gave up, or with the outcome read after the guest
acknowledged. -/
def DeliverEnds (R : World → World → Prop) (cfg : HostConfig)
    (r : Except ProtocolError MessageReport) (e' : HostEndpoint) (l' : List Event) (w' : World) :
    Prop :=
  r = .error .shutdown ∨ ∃ rep, r = .ok rep ∧ e'.state = .ready ∧ w'.hostState = some .ready ∧
    ((∃ stage n v, stage ≠ .guestIdle ∧ rep.outcome = .timedOut stage (n / 1000000).toUInt64 ∧
        .observe (.timedOut n) v ∈ l' ∧ cfg.GaveUp stage n v) ∨
      ∃ v, ReadAfterAck R l' v ∧ rep.outcome = ackOutcome v.header.errorCode)

/-- **Delivering a filled message** from `READY`: it ends as `DeliverEnds`
says, keeping the settings and any stable fact that publishing keeps. -/
theorem deliver_ends (hR : ∀ v v', R v v' → HostOwned v v') (report : MessageReport)
    {F : World → Prop} (hF : (writesSide R).Stable F)
    (hFt : ∀ t v, F v → F ((v.stamp "main").publishHost e.window t)) (hr : e.state = .ready)
    (hw : F w) :
    opWp (writesSide R) (HostEndpoint.deliver report) e
      (fun r e' l' w' => F w' ∧ e'.config = e.config ∧ DeliverEnds R e.config r e' l' w') l w := by
  have hH := writesSide_stable_hostState hR (some .ready)
  simp only [HostEndpoint.deliver, HostEndpoint.now, opWp_bind, opWp_get, opWp_now, hence_opWp]
  intro start
  have withdraw : ∀ (stage : WaitStage) waited l₁ v₀ v, stage ≠ .guestIdle →
      .observe (.timedOut waited) v₀ ∈ l₁ → e.config.GaveUp stage waited v₀ → F v →
      opWp (writesSide R) (HostEndpoint.transition .ready >>= fun _ =>
          pure (HostEndpoint.timedOut report stage waited)) { e with state := .sending }
        (fun r e' l' w' => F w' ∧ e'.config = e.config ∧ DeliverEnds R e.config r e' l' w')
        l₁ v := by
    intro stage waited l₁ v₀ v hs hmem hg hv
    rw [opWp_bind]
    refine transition_writes rfl fun b hb w' hw' => ?_
    simp only [opWp_pure]
    intro w'' hw''
    refine ⟨hF.later (hw'.trans hw'') (hFt .ready b (hF.later hb hv)), trivial,
      .inr ⟨_, rfl, rfl, hH.later (hw'.trans hw'') (by simp),
        .inl ⟨stage, waited, v₀, hs, rfl, List.mem_append_left _ hmem, hg⟩⟩⟩
  -- a wait that sees the run complete stops the delivery
  have halt : ∀ (e₁ : HostEndpoint) l₁ v, e₁.config = e.config → F v →
      (writesSide R).Hence (fun l' w' => F w' ∧ e₁.config = e.config ∧
        DeliverEnds R e.config (.error .shutdown) e₁ l' w') l₁ v :=
    fun e₁ l₁ v hc hv w' hw' => ⟨hF.later hw' hv, hc, .inl rfl⟩
  refine transition_writes (by rw [hr]; rfl) fun b₁ h₁ v₁ hv₁ => ?_
  have hF₁ : F v₁ := hF.later hv₁ (hFt .sending b₁ (hF.later h₁ hw))
  dsimp only
  rw [opWp_bind]
  refine pollFor_writes _ _ fun o v₂ h₂ ho₂ => ?_
  cases o with
  | timedOut waited =>
    simp only [hence_opWp]
    exact withdraw .processing waited _ v₂ v₂ (by decide) (by simp)
      (by simpa [Poll.EndsWith, HostConfig.GaveUp] using ho₂) (hF.later h₂ hF₁)
  | shutdown =>
    simp only [hence_opWp, opWp_bind]
    exact (opWp_throw _ _ _ _ _).2 (halt _ _ v₂ rfl (hF.later h₂ hF₁))
  | ready =>
    simp only [hence_opWp]
    rw [opWp_bind]
    refine pollFor_writes _ _ fun o v₃ h₃ ho₃ => ?_
    cases o with
    | timedOut waited =>
      simp only [hence_opWp]
      exact withdraw .acknowledged waited _ v₃ v₃ (by decide) (by simp)
        (by simpa [Poll.EndsWith, HostConfig.GaveUp] using ho₃) (hF.later (h₂.trans h₃) hF₁)
    | shutdown =>
      simp only [hence_opWp, opWp_bind]
      exact (opWp_throw _ _ _ _ _).2 (halt _ _ v₃ rfl (hF.later (h₂.trans h₃) hF₁))
    | ready =>
      have hack : v₃.guestState = some .acknowledged := by simpa [Poll.EndsWith] using ho₃
      simp only [hence_opWp, HostEndpoint.look, HostEndpoint.waitForRelease, opWp_bind, opWp_now,
        opWp_look]
      intro t v₄ h₄
      refine transition_writes rfl fun b₅ h₅ v₅ hv₅ => ?_
      simp only [opWp_bind, opWp_get, hence_opWp]
      have hF₅ : F v₅ := hF.later hv₅
        (hFt .ready b₅ (hF.later h₅ (hF.later h₄ (hF.later (h₂.trans h₃) hF₁))))
      refine pollFor_writes _ _ fun o v₆ h₆ _ w₆ hw₆ => ?_
      simp only [opWp_pure]
      intro w' hw' w'' hw''
      have hlater := hv₅.trans (h₆.trans (hw₆.trans (hw'.trans hw'')))
      refine ⟨hF.later (h₆.trans (hw₆.trans (hw'.trans hw''))) hF₅, rfl,
        .inr ⟨_, rfl, rfl, hH.later hlater (by simp),
          .inr ⟨v₄, ⟨v₃, by simp, hack, h₄⟩, rfl⟩⟩⟩

end Steps

/-- A mapping, never above `Region.maxSize` bytes, holds fewer payload bytes
than a word counts. -/
theorem World.capacity_lt (w : World) (p : Window) : w.capacity p < 4294967296 := by
  have h := (w.channel p).region.size_le
  simp only [World.capacity, Channel.capacity]
  unfold Region.maxSize at h
  omega

/-- The guest never changes a mapping's capacity. -/
theorem writesSide_capacity {R : World → World → Prop} (hR : ∀ v v', R v v' → HostOwned v v')
    {w w' : World} (h : (writesSide R).Later w w') (p : Window) : w'.capacity p = w.capacity p := by
  simp only [World.capacity, Channel.capacity, (writesSide_later hR h).region p]

/-- **How a send from `e` over world `w` ends**, given its result `r`, the
endpoint `e'`, the events `l'` (those before it were `l`) and the world `w'`. -/
structure SendEnds (R : World → World → Prop) (e : HostEndpoint) (payload : ByteArray)
    (l : List Event) (w : World) (r : Except ProtocolError MessageReport) (e' : HostEndpoint)
    (l' : List Event) (w' : World) : Prop where
  /-- `HostNotReady` exactly when the endpoint is not `READY`, naming its state. -/
  hostNotReady : ∀ s, r = .error (.hostNotReady s) ↔ e.state ≠ .ready ∧ s = e.state.name
  /-- `PayloadTooLarge` exactly when it is and the payload is longer than the capacity. -/
  payloadTooLarge : ∀ n c, r = .error (.payloadTooLarge n c) ↔
    e.state = .ready ∧ w.capacity e.window < payload.size ∧ n = payload.size ∧
      c = w.capacity e.window
  /-- Every error but `Shutdown` comes before any event: the endpoint is as it
  was and the world as the guest alone left it. -/
  untouched : ∀ err, r = .error err → err ≠ .shutdown →
    e' = e ∧ l' = l ∧ (writesSide R).Later w w'
  /-- Every report leaves the host `READY`, in the endpoint and in the channel. -/
  ready : ∀ rep, r = .ok rep → e'.state = .ready ∧ w'.hostState = some .ready
  /-- A wait for an idle guest that gave up shows its end and nothing else. -/
  idle : ∀ rep ms, r = .ok rep → rep.outcome = .timedOut .guestIdle ms →
    e' = e ∧ (∃ n v, l' = l ++ [.observe (.timedOut n) v]) ∧ (writesSide R).Later w w'
  /-- A timeout is reported only for a wait of the send that gave up, with its
  length in milliseconds. -/
  timedOut : ∀ rep stage ms, r = .ok rep → rep.outcome = .timedOut stage ms →
    ∃ n v, .observe (.timedOut n) v ∈ l' ∧ ms = (n / 1000000).toUInt64 ∧ e.config.GaveUp stage n v
  /-- Any other report leaves the header describing the whole payload. -/
  dataSize : ∀ rep, r = .ok rep → (∀ ms, rep.outcome ≠ .timedOut .guestIdle ms) →
    w'.header.dataSize.toNat = payload.size
  /-- A guest failure is the code read after the guest acknowledged, never `None`. -/
  guestError : ∀ rep c, r = .ok rep → rep.outcome = .guestError c →
    c ≠ .none ∧ ∃ v, ReadAfterAck R l' v ∧ c = ResultCode.ofRaw v.header.errorCode
  /-- A report succeeds exactly when the code read after the acknowledgement is zero. -/
  success : ∀ rep, r = .ok rep → (rep.success = true ↔
    ∃ v, ReadAfterAck R l' v ∧ rep.outcome = ackOutcome v.header.errorCode ∧ v.header.errorCode = 0)

namespace SendEnds

variable {R : World → World → Prop} {e e' : HostEndpoint} {payload : ByteArray}
  {l l' : List Event} {w w' : World}

/-- A send refused because the endpoint is not `READY`. -/
theorem notReady (hr : e.state ≠ .ready) (hw : (writesSide R).Later w w') :
    SendEnds R e payload l w (.error (.hostNotReady e.state.name)) e l w' where
  hostNotReady s := by simp [hr, eq_comm]
  payloadTooLarge n c := by simp [hr]
  untouched _ _ _ := ⟨rfl, rfl, hw⟩
  ready _ h := by cases h
  idle _ _ h := by cases h
  timedOut _ _ _ h := by cases h
  dataSize _ h := by cases h
  guestError _ _ h := by cases h
  success _ h := by cases h

/-- A send refused because the payload is longer than the capacity. -/
theorem tooLarge (hr : e.state = .ready) (hc : w.capacity e.window < payload.size)
    (hw : (writesSide R).Later w w') :
    SendEnds R e payload l w (.error (.payloadTooLarge payload.size (w.capacity e.window))) e l w'
    where
  hostNotReady s := by simp [hr]
  payloadTooLarge n c := by simp [hr, hc, eq_comm]
  untouched _ _ _ := ⟨rfl, rfl, hw⟩
  ready _ h := by cases h
  idle _ _ h := by cases h
  timedOut _ _ _ h := by cases h
  dataSize _ h := by cases h
  guestError _ _ h := by cases h
  success _ h := by cases h

/-- **A send that passed both checks**: only `Shutdown` fails it, and each
report is as `hok` says: the host `READY`, nothing but the wait's end when the
guest never became idle, the header describing the payload otherwise, and the
outcome a timeout of a wait that gave up or read after the acknowledgement. -/
theorem of_checked {r : Except ProtocolError MessageReport} (hr : e.state = .ready)
    (hc : ¬ w.capacity e.window < payload.size) (herr : ∀ err, r = .error err → err = .shutdown)
    (hok : ∀ rep, r = .ok rep → e'.state = .ready ∧ w'.hostState = some .ready ∧
      (∀ ms, rep.outcome = .timedOut .guestIdle ms →
        e' = e ∧ (∃ n v, l' = l ++ [.observe (.timedOut n) v]) ∧ (writesSide R).Later w w') ∧
      ((∀ ms, rep.outcome ≠ .timedOut .guestIdle ms) → w'.header.dataSize.toNat = payload.size) ∧
      ((∃ stage n v, rep.outcome = .timedOut stage (n / 1000000).toUInt64 ∧
          .observe (.timedOut n) v ∈ l' ∧ e.config.GaveUp stage n v) ∨
        ∃ v, ReadAfterAck R l' v ∧ rep.outcome = ackOutcome v.header.errorCode)) :
    SendEnds R e payload l w r e' l' w' where
  hostNotReady s := iff_of_false (fun h => by cases herr _ h) fun h => h.1 hr
  payloadTooLarge n c := iff_of_false (fun h => by cases herr _ h) fun h => hc h.2.1
  untouched err h hs := absurd (herr err h) hs
  ready rep h := ⟨(hok rep h).1, (hok rep h).2.1⟩
  idle rep ms h ho := (hok rep h).2.2.1 ms ho
  dataSize rep h ho := (hok rep h).2.2.2.1 ho
  timedOut rep stage ms h ho := by
    rcases (hok rep h).2.2.2.2 with ⟨stage', n, v, hto, hmem, hg⟩ | ⟨v, -, hout⟩
    · rw [ho] at hto
      cases hto
      exact ⟨n, v, hmem, rfl, hg⟩
    · exact absurd (hout.symm.trans ho) (ackOutcome_ne_timedOut _ _ _)
  guestError rep c h ho := by
    rcases (hok rep h).2.2.2.2 with ⟨stage, n, v, hto, -⟩ | ⟨v, hv, hout⟩
    · rw [ho] at hto
      cases hto
    · obtain ⟨hc, hne⟩ := ackOutcome_eq_guestError (hout.symm.trans ho)
      exact ⟨hne, v, hv, hc⟩
  success rep h := by
    simp only [MessageReport.success, beq_iff_eq]
    constructor
    · intro hd
      rcases (hok rep h).2.2.2.2 with ⟨stage, n, v, hto, -⟩ | ⟨v, hv, hout⟩
      · rw [hd] at hto
        cases hto
      · exact ⟨v, hv, hout, ackOutcome_eq_delivered.1 (hout.symm.trans hd)⟩
    · rintro ⟨v, -, hout, h0⟩
      exact hout.trans (ackOutcome_eq_delivered.2 h0)

/-- **A send whose message was filled and delivered** ends as its delivery
did, the header describing the whole payload. -/
theorem of_delivered {r : Except ProtocolError MessageReport} (hr : e.state = .ready)
    (hc : ¬ w.capacity e.window < payload.size) (hD : w'.header.dataSize.toNat = payload.size)
    (hd : DeliverEnds R e.config r e' l' w') : SendEnds R e payload l w r e' l' w' := by
  refine of_checked hr hc (fun err h => ?_) fun rep h => ?_
  · rcases hd with hs | ⟨rep, hrep, -⟩
    · rw [hs] at h
      cases h
      rfl
    · rw [hrep] at h
      cases h
  · rcases hd with hs | ⟨rep', hrep, hst, hready, hout⟩
    · rw [hs] at h
      cases h
    rw [hrep] at h
    cases h
    -- a delivered message was never a wait for an idle guest
    have hnot : ∀ ms, rep.outcome ≠ .timedOut .guestIdle ms := by
      intro ms ho
      rcases hout with ⟨stage, n, v, hs, hto, -⟩ | ⟨v, -, hack⟩
      · rw [ho] at hto
        cases hto
        exact hs rfl
      · exact ackOutcome_ne_timedOut _ _ _ (hack.symm.trans ho)
    exact ⟨hst, hready, fun ms ho => (hnot ms ho).elim, fun _ => hD,
      hout.imp (fun ⟨stage, n, v, _, hto, hmem, hg⟩ => ⟨stage, n, v, hto, hmem, hg⟩) id⟩

end SendEnds

/-- **A send with a known digest ends as `SendEnds` says**, from any endpoint
whose state the channel's host word shows. -/
theorem sendSealed_ends {R : World → World → Prop} (hR : ∀ v v', R v v' → HostOwned v v')
    (sequence : UInt32) (payload : ByteArray) (digest : Digest)
    (corrupt : Option HostEndpoint.Corruption) {e : HostEndpoint} {l : List Event} {w : World}
    (hw : w.hostState.getD .uninitialized = e.state) :
    opWp (writesSide R) (HostEndpoint.sendSealed sequence payload digest corrupt) e
      (SendEnds R e payload l w) l w := by
  have hcap := World.capacity_lt w e.window
  simp only [HostEndpoint.sendSealed, HostEndpoint.look, HostEndpoint.spend, opWp_bind, opWp_get,
    hence_opWp]
  split
  · rename_i hr
    exact (opWp_bind _ _ _ _ _ _).2 fun w' hw' => SendEnds.notReady (by simpa using hr) hw'
  rename_i hr
  simp only [bne_iff_ne, ne_eq, Decidable.not_not] at hr
  simp only [opWp_bind, opWp_look, hence_opWp]
  intro w₁ h₁
  rw [writesSide_capacity hR h₁]
  split
  · rename_i hc
    have hc' : w.capacity e.window < payload.size := by simp at hc; omega
    exact (opWp_bind _ _ _ _ _ _).2 fun w' hw' => SendEnds.tooLarge hr hc' (h₁.trans hw')
  rename_i hc
  have hc' : ¬ w.capacity e.window < payload.size := by simp at hc; omega
  have hlen : payload.size < 4294967296 := by omega
  have hH := writesSide_stable_hostState hR (some .ready)
  have hw₀ : w.hostState = some .ready := by
    cases h : w.hostState with
    | none => simp [h, hr] at hw
    | some s => simp_all
  simp only [opWp_bind, opWp_spend, hence_opWp]
  refine pollFor_writes _ _ fun o v₂ h₂ ho₂ => ?_
  cases o with
  | timedOut waited =>
    -- the guest was still busy when the wait gave up
    have hg : e.config.GaveUp .guestIdle waited v₂ := by
      simpa [Poll.EndsWith, HostConfig.GaveUp] using ho₂
    simp only [opWp_pure, hence_opWp]
    intro w' hw'
    have hlater := h₁.trans (h₂.trans hw')
    refine SendEnds.of_checked hr hc' (fun _ h => by cases h) fun rep h => ?_
    cases h
    exact ⟨hr, hH.later hlater hw₀, fun _ _ => ⟨rfl, ⟨waited, v₂, rfl⟩, hlater⟩,
      fun h => (h _ rfl).elim, .inl ⟨.guestIdle, waited, v₂, rfl, by simp, hg⟩⟩
  | shutdown =>
    simp only [hence_opWp, opWp_bind]
    exact (opWp_throw _ _ _ _ _).2 fun w' hw' =>
      SendEnds.of_checked hr hc' (fun err h => by cases h; rfl) fun _ h => by cases h
  | ready =>
    simp only [hence_opWp]
    rw [opWp_bind]
    have hD := writesSide_stable_dataSize hR payload.size.toUInt32
    refine opWp_weaken (fill_writes hR _ payload digest corrupt (F := fun _ => True)
      (fun _ _ _ _ => trivial) (fun _ _ _ _ => trivial) trivial) fun r e₃ l₃ w₃ h => ?_
    obtain ⟨⟨a, rfl⟩, -, hst, hcfg, -, hD₃⟩ := h
    refine opWp_weaken (deliver_ends hR a hD (fun t v hv => by simpa using hv) (hst.trans hr) hD₃)
      fun r e₄ l₄ w₄ h => ?_
    obtain ⟨hD₄, -, hd⟩ := h
    rw [hcfg] at hd
    exact SendEnds.of_delivered hr hc' ((congrArg UInt32.toNat hD₄).trans
      (UInt32.toNat_ofNat_of_lt' hlen)) hd

/-- **How a send ends**, from any endpoint whose state the channel's host word
shows, whatever the guest does meanwhile and whatever the hook does to the
written bytes: as `SendEnds` lists. -/
theorem send_outcomes {R : World → World → Prop} (hR : ∀ v v', R v v' → HostOwned v v')
    (sequence : UInt32) (payload : ByteArray) (corrupt : Option HostEndpoint.Corruption)
    (e : HostEndpoint) (l : List Event) (w : World)
    (hw : w.hostState.getD .uninitialized = e.state) :
    opWp (writesSide R) (HostEndpoint.sendWith sequence payload corrupt) e
      (SendEnds R e payload l w) l w :=
  sendSealed_ends hR sequence payload _ corrupt hw

/-- **A send after the channel is prepared**: once the host has initialized
and the guest attached, the theorem applies to the endpoint and the channel
they leave, and the same send, served by the guest, is delivered. -/
theorem send_outcomes_after_prepare :
    ∃ s₀, Session.start {} = .ok s₀ ∧
      ∃ s, s = (s₀.play { host := some [.act .prepare], guest := some [.act .attach] }).1 ∧
        s.host.state = .ready ∧ s.world.guestState = some .ready ∧
        (∃ r rep f, (s.play
            { host := some [.act (.send 1 ⟨#[1, 2]⟩ none)], guest := some [.act .serve] }).2.host =
              some r ∧
          r.results.toList = [.report rep f] ∧ rep.outcome = .delivered) ∧
        opWp (writesSide (GuestStep s.host.window)) (HostEndpoint.sendWith 1 ⟨#[1, 2]⟩ none) s.host
          (SendEnds (GuestStep s.host.window) s.host ⟨#[1, 2]⟩ [] s.world) [] s.world := by
  refine Session.exists_of_start {} (fun s₀ =>
    let s := (s₀.play { host := some [.act .prepare], guest := some [.act .attach] }).1
    let sent := (s.play
      { host := some [.act (.send 1 ⟨#[1, 2]⟩ none)], guest := some [.act .serve] }).2.host
    s.host.state == .ready && s.world.guestState == some .ready &&
      s.world.hostState.getD .uninitialized == s.host.state &&
      ((sent.bind (·.single?)).bind HostResult.report?).any (·.outcome == .delivered))
    (by decide +kernel) ?_
  intro s₀ _ hp
  simp only [Option.any_eq_true, Option.bind_eq_some_iff, ScriptResult.single?_eq_some,
    HostResult.report?_eq_some, Bool.and_eq_true, beq_iff_eq] at hp
  obtain ⟨⟨⟨hready, hguest⟩, hw⟩, rep, ⟨_, ⟨r, hr, hres⟩, f, rfl⟩, hout⟩ := hp
  exact ⟨_, rfl, hready, hguest, ⟨r, rep, f, hr, hres, hout⟩,
    send_outcomes (fun _ _ h => h.hostOwned) 1 ⟨#[1, 2]⟩ none _ [] _ hw⟩

end ShmBench

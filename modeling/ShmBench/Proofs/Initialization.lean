import ShmBench.Proofs.Runs

/-!
# Re-arming the channel

An initialization may find the channel in any state a crashed or finished run
left: any magic word, the test-complete flag raised, a stale message and
stale results, the host word on any state and the guest word on anything.
Judged by the literal list of its writes (`writesSide`, whose ghost is the
list of the host's events), `prepare` always succeeds and makes exactly five
(`prepare_shows`): it closes the channel (magic zero), publishes
`INITIALIZING`, clears the header, reopens the channel and publishes `READY`.

Whatever the guest does meanwhile, the reopening write finds every host-owned
field of the message cleared and the channel still closed, and the channel
ends open with the host `READY` (`prepareWrites_runs`), so a guest that sees
the magic word sees a consistent header.  No write touches the guest's word or
the payload (`prepareWrites_spareGuest`).  With no guest step in between, the
results are cleared too (`prepare_alone`).
-/

namespace ShmBench
open Interleaving

/-- An event of the host: a write of `f` over the world `b` it finds. -/
def hostWrite (f : World → World) (b : World) : Event := .write b (f (b.stamp "main"))

/-- **The host judged by its writes**: its ghost is the list of its events, and
the other thread's steps are `R`. -/
def writesSide (R : World → World → Prop) : Side (List Event) :=
  ⟨"main", fun l ev l' => l' = l ++ [ev], R⟩

namespace Interleaving

/-- **The events of a run, from world `w` to world `w'`**: each event found the
world the one before it left, as the other thread then changed it, and the run
ends on a world the other thread made of the last. -/
def Side.Runs {K : Type} (S : Side K) : World → List Event → World → Prop
  | w, [], w' => S.Later w w'
  | w, .write b a :: rest, w' => S.Later w b ∧ S.Runs a rest w'
  | w, .observe _ v :: rest, w' => S.Later w v ∧ S.Runs v rest w'

/-- A write that leaves the guest's state word and the payload as it found them. -/
def Event.SparesGuest : Event → Prop
  | .write b a => a.header.guestState = b.header.guestState ∧ a.mem.payload = b.mem.payload
  | .observe _ _ => True

end Interleaving

/-- The five writes of an initialization through window `p`, each over the
world it found. -/
def prepareWrites (p : Window) (b₁ b₂ b₃ b₄ b₅ : World) : List Event :=
  [hostWrite (·.setMagic 0) b₁, hostWrite (·.publishHost p .initializing) b₂,
    hostWrite World.resetHeader b₃, hostWrite (·.setMagic channelMagic) b₄,
    hostWrite (·.publishHost p .ready) b₅]

/-- The message fields the host owns, cleared: no run is complete and no message
is described. -/
def Header.Cleared (h : Header) : Prop :=
  h.complete = 0 ∧ h.sequence = 0 ∧ h.dataSize = 0 ∧ h.digestWords = Vector.replicate 4 0

section Writes

variable {R : World → World → Prop} {e : HostEndpoint} {l : List Event} {w : World}

/-- Under a rely that keeps what the host owns, so does everything the other
thread does between two host writes. -/
theorem writesSide_later (hR : ∀ v v', R v v' → HostOwned v v') {w w' : World}
    (h : (writesSide R).Later w w') : HostOwned w w' := by
  induction h with
  | refl => exact .refl _
  | tail _ he ih => exact ih.trans (hR _ _ he)

/-- A change of the world shows as one host write over the world it finds. -/
theorem change_writes (f : World → World)
    {Q : Except ProtocolError Unit → HostEndpoint → List Event → World → Prop} :
    opWp (writesSide R) (HostEndpoint.change f) e Q l w ↔
      ∀ b, (writesSide R).Later w b →
        (writesSide R).Hence (Q (.ok ()) e) (l ++ [hostWrite f b]) (f (b.stamp "main")) := by
  rw [HostEndpoint.change, opWp_change]
  exact forall_congr' fun _ => imp_congr_right fun _ => exists_eq_left

/-- **An allowed transition** shows as one write, the publication of its target. -/
theorem transition_writes {t : HostState} (ht : e.state.canTransition t = true)
    {Q : Except ProtocolError Unit → HostEndpoint → List Event → World → Prop}
    (h : ∀ b, (writesSide R).Later w b →
      (writesSide R).Hence (Q (.ok ()) { e with state := t })
        (l ++ [hostWrite (·.publishHost e.window t) b]) ((b.stamp "main").publishHost e.window t)) :
    opWp (writesSide R) (HostEndpoint.transition t) e Q l w := by
  simp only [HostEndpoint.transition, opWp_bind, opWp_get, ht, Bool.not_true, Bool.false_eq_true,
    ite_false, change_writes, hence_opWp, opWp_set]
  exact h

/-- **What an initialization shows**, from any endpoint and any world: it
succeeds, leaves the endpoint `READY`, and its writes are exactly the five of
`prepareWrites`, a run from the world it started on. -/
theorem prepare_shows :
    opWp (writesSide R) HostEndpoint.prepare e (fun r e' l' w' => r = .ok () ∧
      e' = { e with state := .ready } ∧ ∃ b₁ b₂ b₃ b₄ b₅,
        l' = l ++ prepareWrites e.window b₁ b₂ b₃ b₄ b₅ ∧
        (writesSide R).Runs w (prepareWrites e.window b₁ b₂ b₃ b₄ b₅) w') l w := by
  simp only [HostEndpoint.prepare, HostEndpoint.spend, opWp_bind, opWp_spend, change_writes,
    hence_opWp]
  intro b₁ h₁
  -- every state may move to `INITIALIZING`, and `INITIALIZING` to `READY`
  refine transition_writes (HostState.canTransition_initializing _) fun b₂ h₂ => ?_
  simp only [hence_opWp, opWp_bind, change_writes]
  refine fun b₃ h₃ b₄ h₄ => transition_writes rfl fun b₅ h₅ w' h' => ?_
  refine ⟨rfl, rfl, b₁, b₂, b₃, b₄, b₅, by simp [prepareWrites], ?_⟩
  simp only [prepareWrites, hostWrite, Side.Runs]
  exact ⟨h₁, h₂, h₃, h₄, h₅, h'⟩

end Writes

/-- A cleared header stays cleared while what the host owns is kept. -/
theorem HostOwned.cleared {w w' : World} (h : HostOwned w w') (hc : w.header.Cleared) :
    w'.header.Cleared := by
  obtain ⟨h₁, h₂, h₃, h₄⟩ := hc
  exact ⟨h.complete.trans h₁, h.sequence.trans h₂, h.dataSize.trans h₃, h.digest.trans h₄⟩

/-- **The reopening write finds a consistent header, and the channel ends open
with the host `READY`**: under a rely that keeps what the host owns, the world
the fourth write finds is closed, `INITIALIZING` and cleared, and so is every
world from the end on, open and `READY`. -/
theorem prepareWrites_runs {R : World → World → Prop} (hR : ∀ v v', R v v' → HostOwned v v')
    {p : Window} {w w' b₁ b₂ b₃ b₄ b₅ : World}
    (h : (writesSide R).Runs w (prepareWrites p b₁ b₂ b₃ b₄ b₅) w') :
    (b₄.header.magic = 0 ∧ b₄.hostState = some .initializing ∧ b₄.header.Cleared) ∧
      w'.header.magic = channelMagic ∧ w'.hostState = some .ready ∧ w'.header.Cleared := by
  simp only [prepareWrites, hostWrite, Side.Runs] at h
  obtain ⟨-, h₂, h₃, h₄, h₅, h'⟩ := h
  -- what the guest may do between two host writes keeps every field below
  have o₂ := writesSide_later hR h₂
  have o₃ := writesSide_later hR h₃
  have o₄ := writesSide_later hR h₄
  have o₅ := writesSide_later hR h₅
  have o' := writesSide_later hR h'
  have hc₄ : b₄.header.Cleared := o₄.cleared ⟨rfl, rfl, rfl, rfl⟩
  have hc₅ : b₅.header.Cleared := o₅.cleared hc₄
  refine ⟨⟨?_, ?_, hc₄⟩, ?_, ?_, o'.cleared (by simpa [Header.Cleared] using hc₅)⟩
  · simp [o₄.magic, o₃.magic, o₂.magic, Header.reset]
  · simp [World.hostState, Header.host, o₄.hostState, o₃.hostState, Header.reset,
      HostState.ofRaw_toRaw]
  · simp [o'.magic, o₅.magic]
  · simp [World.hostState, Header.host, o'.hostState, HostState.ofRaw_toRaw]

/-- **No write of an initialization touches the guest**: each leaves the
guest's state word and the payload as it found them. -/
theorem prepareWrites_spareGuest (p : Window) (b₁ b₂ b₃ b₄ b₅ : World) :
    ∀ ev ∈ prepareWrites p b₁ b₂ b₃ b₄ b₅, ev.SparesGuest := by
  simp [prepareWrites, hostWrite, Event.SparesGuest, World.setMagic, World.resetHeader,
    Header.reset]

/-- With no other thread, a world the other thread could lead to is the world itself. -/
theorem writesSide_alone {w w' : World} (h : (writesSide fun _ _ => False).Later w w') :
    w' = w := by
  induction h with
  | refl => rfl
  | tail _ he => exact he.elim

/-- **With no guest step in between**, an initialization also clears the
results, and ends with the guest's word and the payload as it found them. -/
theorem prepare_alone (e : HostEndpoint) (w : World) :
    opWp (writesSide fun _ _ => False) HostEndpoint.prepare e (fun _ _ _ w' =>
      w'.header.errorCode = 0 ∧ w'.header.timing = {} ∧
        w'.header.guestState = w.header.guestState ∧ w'.mem.payload = w.mem.payload) [] w := by
  refine opWp_weaken prepare_shows fun r e' l' w' h => ?_
  obtain ⟨-, -, b₁, b₂, b₃, b₄, b₅, -, hrun⟩ := h
  simp only [prepareWrites, hostWrite, Side.Runs] at hrun
  -- each write finds the world the one before it left
  obtain ⟨h₁, h₂, h₃, h₄, h₅, h'⟩ := hrun
  obtain rfl := writesSide_alone h₁
  obtain rfl := writesSide_alone h₂
  obtain rfl := writesSide_alone h₃
  obtain rfl := writesSide_alone h₄
  obtain rfl := writesSide_alone h₅
  obtain rfl := writesSide_alone h'
  simp [World.setMagic, World.resetHeader, Header.reset]

/-- **Initialization re-arms the channel from any state.**  From any endpoint
and any world, and whatever the guest writes meanwhile, it succeeds and leaves
the endpoint `READY`; its writes are exactly: the magic word zeroed, `INITIALIZING`
published, the header cleared, the magic word set and `READY` published, and
none touches the guest's word or the payload; the reopening write finds the
channel closed, `INITIALIZING` and cleared; and the channel ends open, `READY`
and cleared.  With no guest step in between, the results end cleared too and
the guest's word and the payload as they were. -/
theorem prepare_rearms_channel (e : HostEndpoint) (w : World) :
    (∀ R : World → World → Prop, (∀ v v', R v v' → HostOwned v v') → ∀ l,
      opWp (writesSide R) HostEndpoint.prepare e (fun r e' l' w' => r = .ok () ∧
        e' = { e with state := .ready } ∧ ∃ b₁ b₂ b₃ b₄ b₅,
          l' = l ++ prepareWrites e.window b₁ b₂ b₃ b₄ b₅ ∧
          (∀ ev ∈ prepareWrites e.window b₁ b₂ b₃ b₄ b₅, ev.SparesGuest) ∧
          (b₄.header.magic = 0 ∧ b₄.hostState = some .initializing ∧ b₄.header.Cleared) ∧
          w'.header.magic = channelMagic ∧ w'.hostState = some .ready ∧ w'.header.Cleared) l w) ∧
    opWp (writesSide fun _ _ => False) HostEndpoint.prepare e (fun _ _ _ w' =>
      w'.header.errorCode = 0 ∧ w'.header.timing = {} ∧
        w'.header.guestState = w.header.guestState ∧ w'.mem.payload = w.mem.payload) [] w := by
  refine ⟨fun R hR l => opWp_weaken prepare_shows fun r e' l' w' h => ?_, prepare_alone e w⟩
  obtain ⟨hr, he, b₁, b₂, b₃, b₄, b₅, hl, hrun⟩ := h
  exact ⟨hr, he, b₁, b₂, b₃, b₄, b₅, hl, prepareWrites_spareGuest _ _ _ _ _ _,
    prepareWrites_runs hR hrun⟩

/-- **A channel a finished run left behind** is re-armed: after a run that
initialized, delivered message 1 and shut down, the channel is `COMPLETED`
with the test-complete flag raised and the message's sequence number and size
still in the header; initialized again while its guest may write, it ends
open, `READY` and cleared. -/
theorem prepare_rearms_completed_channel :
    ∃ s₀, Session.start {} = .ok s₀ ∧
      ∃ s, s = ((s₀.play { host := some [.act .prepare], guest := some [.act .attach] }).1.play
          { host := some [.act (.send 1 ⟨#[1, 2]⟩ none), .act .shutdown]
            guest := some [.act .serve] }).1 ∧
        s.world.hostState = some .completed ∧ s.world.header.complete = 1 ∧
        s.world.header.sequence = 1 ∧ s.world.header.dataSize = 2 ∧
        opWp (writesSide (GuestStep s.host.window)) HostEndpoint.prepare s.host (fun r _ _ w' =>
          r = .ok () ∧ w'.header.magic = channelMagic ∧ w'.hostState = some .ready ∧
            w'.header.Cleared) [] s.world := by
  refine Session.exists_of_start {} (fun s₀ =>
    let s := ((s₀.play { host := some [.act .prepare], guest := some [.act .attach] }).1.play
      { host := some [.act (.send 1 ⟨#[1, 2]⟩ none), .act .shutdown]
        guest := some [.act .serve] }).1
    s.world.hostState == some .completed && s.world.header.complete == 1 &&
      s.world.header.sequence == 1 && s.world.header.dataSize == 2) (by decide +kernel) ?_
  intro s₀ _ hp
  simp only [Bool.and_eq_true, beq_iff_eq] at hp
  obtain ⟨⟨⟨hh, hc⟩, hseq⟩, hsize⟩ := hp
  refine ⟨_, rfl, hh, hc, hseq, hsize, opWp_weaken ((prepare_rearms_channel _ _).1 _
    (fun _ _ h => h.hostOwned) []) fun r e' l' w' h => ?_⟩
  obtain ⟨hr, -, b₁, b₂, b₃, b₄, b₅, -, -, -, hm, hs, hcl⟩ := h
  exact ⟨hr, hm, hs, hcl⟩

end ShmBench

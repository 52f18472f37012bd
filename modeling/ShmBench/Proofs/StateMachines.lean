import ShmBench.Proofs.Runs

/-!
# The state machines over whole runs

Each side writes only its own state word, and only by a transition its
machine allows, checked against the state the endpoint holds.  Over every
interleaving of a host script and a guest script on one channel whose words
start as states, with any timeouts and any errors (`state_machines`):

* every write recorded since the start moves its field from the word the
  previous write of that field left, by a move the field's machine allows
  (`StateField.follows`);
* a script that has finished leaves its endpoint holding the state its word
  reads, whatever its actions returned;
* with tracing on, a host script of initialization, sends and shutdown
  (`HostAction.lifecycle`) writes `INITIALIZING READY (SENDING READY)*
  COMPLETED` (`HostState.Run`), from any start, a completed channel with the
  test-complete flag set among them;
* with tracing on, a guest script of attach and run writes
  `WAITING_HOST_INIT READY (PROCESSING ACKNOWLEDGED READY)*
  (PROCESSING ACKNOWLEDGED)?`, or `WAITING_HOST_INIT` alone when attaching
  gives up (`GuestState.Run`).

A guest whose attach times out is the run that leaves the longer guest shape:
`attach_timeout_word` replays one.

The invariant (`StateInv`) keeps, for each field, the writes recorded since
the start following its machine from the start word, ending at the word the
header holds, and spelling the states the side's ghost published (`Tracks`).
The words are the ghosts' states, so each publication is a move of the
machine from the word it replaces.
-/

namespace ShmBench

open Interleaving

/-! ## Writes that follow a machine -/

/-- Whether the machine of field `f` moves from word `a` to word `b`. -/
def StateField.allows : StateField → UInt32 → UInt32 → Bool
  | .host, a, b =>
    match HostState.ofRaw a, HostState.ofRaw b with
    | some s, some t => s.canTransition t
    | _, _ => false
  | .guest, a, b =>
    match GuestState.ofRaw a, GuestState.ofRaw b with
    | some s, some t => s.canTransition t
    | _, _ => false

/-- The word of field `f` after the writes `t`, from the word `v`. -/
def StateField.lastWord (f : StateField) (v : UInt32) (t : List StateWrite) : UInt32 :=
  t.foldl (fun v x => if x.field = f then x.toRaw else v) v

/-- **The writes of field `f` follow its machine** from the word `v`: each
moves from the word the one before it left, by a move the machine allows. -/
def StateField.follows (f : StateField) : UInt32 → List StateWrite → Bool
  | _, [] => true
  | v, x :: t =>
    if x.field = f then (x.fromRaw == v && f.allows x.fromRaw x.toRaw) && f.follows x.toRaw t
    else f.follows v t

/-- The words written to field `f`, in order. -/
def StateField.written (f : StateField) (t : List StateWrite) : List UInt32 :=
  (t.filter (·.field == f)).map (·.toRaw)

theorem StateField.allows_host (s t : HostState) :
    StateField.host.allows s.toRaw t.toRaw = s.canTransition t := by
  simp [StateField.allows, HostState.ofRaw_toRaw]

theorem StateField.allows_guest (s t : GuestState) :
    StateField.guest.allows s.toRaw t.toRaw = s.canTransition t := by
  simp [StateField.allows, GuestState.ofRaw_toRaw]

theorem StateField.lastWord_concat (f : StateField) (v : UInt32) (t : List StateWrite)
    (x : StateWrite) :
    f.lastWord v (t ++ [x]) = if x.field = f then x.toRaw else f.lastWord v t := by
  simp [StateField.lastWord]

/-- A write appended to a trace follows the machine when it moves from the
word the trace left. -/
theorem StateField.follows_concat (f : StateField) (v : UInt32) (t : List StateWrite)
    (x : StateWrite) :
    f.follows v (t ++ [x]) = true ↔ f.follows v t = true ∧
      (x.field = f → x.fromRaw = f.lastWord v t ∧ f.allows x.fromRaw x.toRaw = true) := by
  induction t generalizing v with
  | nil =>
    by_cases hx : x.field = f <;> simp [StateField.follows, StateField.lastWord, hx]
  | cons y t ih =>
    by_cases hy : y.field = f
    · simp only [List.cons_append, StateField.follows, hy, ite_true, Bool.and_eq_true, beq_iff_eq,
        ih, StateField.lastWord, List.foldl_cons]
      exact and_assoc.symm
    · simp only [List.cons_append, StateField.follows, hy, ite_false, ih, StateField.lastWord,
        List.foldl_cons]

theorem StateField.written_concat (f : StateField) (t : List StateWrite) (x : StateWrite) :
    f.written (t ++ [x]) = f.written t ++ if x.field = f then [x.toRaw] else [] := by
  by_cases hx : x.field = f <;> simp [StateField.written, hx]

/-! ## What the trace tells of one field -/

/-- **What the trace tells of field `f`**: from the start word `v₀` its writes
follow the machine; with tracing on they end at the field's `word` and spell
the words `log` its side published. -/
structure Tracks (f : StateField) (v₀ : UInt32) (tracing : Bool) (t : List StateWrite)
    (word : UInt32) (log : List UInt32) : Prop where
  follows : f.follows v₀ t = true
  last : tracing = true → f.lastWord v₀ t = word
  written : tracing = true → f.written t = log

section Tracks

variable {f : StateField} {v₀ : UInt32} {tr : Bool} {t : List StateWrite} {word : UInt32}
  {log : List UInt32}

/-- Nothing written yet: the trace tells the start word. -/
theorem Tracks.start (f : StateField) (v₀ : UInt32) (tr : Bool) : Tracks f v₀ tr [] v₀ [] :=
  ⟨rfl, fun _ => rfl, fun _ => rfl⟩

/-- **A publication of field `f`** that its machine allows, recorded if
tracing, keeps the trace telling the field. -/
theorem Tracks.publish (h : Tracks f v₀ tr t word log) {b : UInt32}
    (ha : f.allows word b = true) (l : String) :
    Tracks f v₀ tr (t ++ if tr then [⟨f, word, b, l⟩] else []) b (log ++ [b]) := by
  cases tr with
  | false => exact ⟨by simpa using h.follows, nofun, nofun⟩
  | true =>
    simp only [ite_true]
    refine ⟨(StateField.follows_concat f v₀ t _).2 ⟨h.follows, fun _ => ⟨(h.last rfl).symm, ha⟩⟩,
      fun _ => by simp [StateField.lastWord_concat], fun _ => ?_⟩
    rw [StateField.written_concat, h.written rfl]
    simp

/-- A publication of the other field leaves what the trace tells of `f`. -/
theorem Tracks.other (h : Tracks f v₀ tr t word log) {g : StateField} (hg : g ≠ f)
    (a b : UInt32) (l : String) :
    Tracks f v₀ tr (t ++ if tr then [⟨g, a, b, l⟩] else []) word log := by
  cases tr with
  | false => exact ⟨by simpa using h.follows, nofun, nofun⟩
  | true =>
    simp only [ite_true]
    refine ⟨(StateField.follows_concat f v₀ t _).2 ⟨h.follows, fun hf => absurd hf hg⟩,
      fun _ => ?_, fun _ => ?_⟩
    · rw [StateField.lastWord_concat, if_neg hg, h.last rfl]
    · rw [StateField.written_concat, if_neg hg, h.written rfl, List.append_nil]

end Tracks

/-! ## The invariant -/

/-- **The invariant of the state machines**, of the world and both ghosts,
for the writes on window `p` after the first `n`, with tracing `tr` and start
words `h₀` and `g₀`: each word is its side's state, and the trace tells each
field. -/
structure StateInv (p : Window) (n : Nat) (tr : Bool) (h₀ g₀ : UInt32) (w : World)
    (kh : HostGhost) (kg : GuestGhost) : Prop where
  grown : n ≤ (w.channel p).trace.size
  tracing : (w.channel p).tracing = tr
  host_word : w.header.hostState = kh.state.toRaw
  guest_word : w.header.guestState = kg.state.toRaw
  host : Tracks .host h₀ tr (w.writesSince p n) w.header.hostState (kh.log.map HostState.toRaw)
  guest : Tracks .guest g₀ tr (w.writesSince p n) w.header.guestState (kg.log.map GuestState.toRaw)

variable {p : Window} {n : Nat} {tr : Bool} {h₀ g₀ : UInt32}

/-- A step that leaves window `p` and both words alone keeps the invariant,
for ghosts that keep their states and logs. -/
theorem StateInv.congr {w w' : World} {kh kh' : HostGhost} {kg kg' : GuestGhost}
    (hI : StateInv p n tr h₀ g₀ w kh kg) (hc : w'.channel p = w.channel p)
    (hh : w'.header.hostState = w.header.hostState)
    (hg : w'.header.guestState = w.header.guestState) (hkh : kh' = kh)
    (hkg : kg'.state = kg.state ∧ kg'.log = kg.log) : StateInv p n tr h₀ g₀ w' kh' kg' := by
  subst hkh
  have hw : w'.writesSince p n = w.writesSince p n := by simp [World.writesSince, hc]
  refine ⟨hc ▸ hI.grown, hc ▸ hI.tracing, hh.trans hI.host_word, ?_, ?_, ?_⟩
  · rw [hg, hI.guest_word, hkg.1]
  · rw [hw, hh]
    exact hI.host
  · rw [hw, hg, hkg.2]
    exact hI.guest

/-- **A host move keeps the invariant**: a publication is a move of the host
machine from the word it replaces, recorded if tracing. -/
theorem StateInv.host_move {w w' : World} {kh kh' : HostGhost} {kg : GuestGhost} {e : Event}
    (hI : StateInv p n tr h₀ g₀ w kh kg) (hm : HostMove p kh e kh') (he : e.Effect w w') :
    StateInv p n tr h₀ g₀ w' kh' kg := by
  cases hm with
  | publish v s h _ =>
    obtain ⟨rfl, rfl⟩ := he
    obtain ⟨hgrown, hw⟩ := World.writesSince_grow hI.grown
      (World.publishHost_trace (v.stamp "main") p s)
    simp only [World.stamp_channel, World.stamp_header, World.stamp_thread, hI.tracing] at hw
    have hhost := hI.host.publish (b := s.toRaw)
      (by rw [hI.host_word, StateField.allows_host]; exact h) "main"
    have hguest := hI.guest.other (g := .host) (by decide) v.header.hostState s.toRaw "main"
    refine ⟨hgrown, by simpa using hI.tracing, by simp, by simpa using hI.guest_word, ?_, ?_⟩
    · rw [hw]
      simpa using hhost
    · rw [hw]
      simpa using hguest
  | write v u hu =>
    obtain ⟨rfl, rfl⟩ := he
    exact hI.congr (by rw [HostUpdate.channel_apply hu]; simp)
      (by rw [HostUpdate.hostWord_apply hu]; rfl) (HostStep.guestState_eq ⟨u, rfl⟩) rfl
      ⟨rfl, rfl⟩
  | observe o v =>
    obtain ⟨rfl, rfl⟩ := he
    exact hI

/-- **A guest move keeps the invariant**: a publication is a move of the
guest machine from the word it replaces; results and waits leave both words. -/
theorem StateInv.guest_move {w w' : World} {kh : HostGhost} {kg kg' : GuestGhost} {e : Event}
    (hI : StateInv p n tr h₀ g₀ w kh kg) (hm : GuestMove p kg e kg') (he : e.Effect w w') :
    StateInv p n tr h₀ g₀ w' kh kg' := by
  cases hm with
  | publish v s h hl =>
    obtain ⟨rfl, rfl⟩ := he
    obtain ⟨hgrown, hw⟩ := World.writesSince_grow hI.grown
      (World.publishGuest_trace (v.stamp "worker") p s)
    simp only [World.stamp_channel, World.stamp_header, World.stamp_thread, hI.tracing] at hw
    have hguest := hI.guest.publish (b := s.toRaw)
      (by rw [hI.guest_word, StateField.allows_guest]; exact h) "worker"
    have hhost := hI.host.other (g := .guest) (by decide) v.header.guestState s.toRaw "worker"
    refine ⟨hgrown, by simpa using hI.tracing, by simpa using hI.host_word, by simp, ?_, ?_⟩
    · rw [hw]
      simpa using hhost
    · rw [hw]
      simpa using hguest
  | results v timing code h =>
    obtain ⟨rfl, rfl⟩ := he
    exact hI.congr (by simp) rfl rfl rfl ⟨rfl, rfl⟩
  | ready v =>
    obtain ⟨rfl, rfl⟩ := he
    exact hI.congr rfl rfl rfl rfl ⟨rfl, rfl⟩
  | timedOut m v =>
    obtain ⟨rfl, rfl⟩ := he
    exact hI
  | shutdown v =>
    obtain ⟨rfl, rfl⟩ := he
    exact hI

/-- The invariant holds at a launch whose words are states, with the start's
tracing and words. -/
theorem StateInv.launch {s : Session} (ha : s.Attached p) (hh : s.world.hostState.isSome)
    (hg : s.world.guestState.isSome) :
    StateInv p (s.world.channel p).trace.size (s.world.channel p).tracing
      s.world.header.hostState s.world.header.guestState s.world s.hostGhost s.guestGhost := by
  obtain ⟨x, hx⟩ := Option.isSome_iff_exists.1 hh
  obtain ⟨y, hy⟩ := Option.isSome_iff_exists.1 hg
  -- each endpoint holds the state its word reads
  have hhost : s.world.header.hostState = s.host.state.toRaw := by
    rw [ha.host_state, hx, Option.getD_some]
    exact (HostState.toRaw_of_ofRaw hx).symm
  have hguest : s.world.header.guestState = s.guest.state.toRaw := by
    rw [ha.guest_state, hy, Option.getD_some]
    exact (GuestState.toRaw_of_ofRaw hy).symm
  refine ⟨Nat.le_refl _, rfl, hhost, hguest, ?_, ?_⟩
  · rw [World.writesSince_size]
    exact Tracks.start _ _ _
  · rw [World.writesSince_size]
    exact Tracks.start _ _ _

/-! ## The words a run writes -/

/-- **A host lifecycle**: initialization, the given sends in order, then
shutdown. -/
def HostAction.lifecycle (sends : List (UInt32 × ByteArray × Option HostEndpoint.Corruption)) :
    List (Scripted HostAction) :=
  (HostAction.prepare :: sends.map (fun m => HostAction.send m.1 m.2.1 m.2.2) ++
    [HostAction.shutdown]).map .act

/-- **The host word of a lifecycle**: `INITIALIZING READY (SENDING READY)* COMPLETED`. -/
def HostState.Run (l : List HostState) : Prop :=
  ∃ j, l = [.initializing, .ready] ++ (List.replicate j [HostState.sending, .ready]).flatten ++
    [.completed]

/-- **The guest word of an attach and a run**: `WAITING_HOST_INIT` alone, or
`WAITING_HOST_INIT READY (PROCESSING ACKNOWLEDGED READY)* (PROCESSING ACKNOWLEDGED)?`. -/
def GuestState.Run (l : List GuestState) : Prop :=
  l = [.waitingHostInit] ∨ ∃ j, ∃ b : Bool, l = [.waitingHostInit, .ready] ++
    (List.replicate j [GuestState.processing, .acknowledged, .ready]).flatten ++
    (if b then [.processing, .acknowledged] else [])

variable {e : HostEndpoint} {k : HostGhost} {w : World}

/-- **A lifecycle writes the host word**, whatever the guest does.  Each send
moves `SENDING READY` or nothing: a send ends `SENDING` only when the run is
complete, and the test-complete flag stays clear from initialization on. -/
theorem HostAction.lifecycle_spec (sends : List (UInt32 × ByteArray × Option HostEndpoint.Corruption))
    (hs : e.Synced p k w) (acc : Array HostResult) :
    stWp (hostSide p) (runScript HostAction.perform (HostAction.lifecycle sends) acc) e
      (fun _ e' k' w' => e'.Synced p k' w' ∧ ∃ l, k'.log = k.log ++ l ∧ HostState.Run l) k w := by
  simp only [HostAction.lifecycle, List.cons_append, List.map_cons, List.map_append, runScript]
  rw [stWp_bind]
  refine stWp_weaken (HostAction.perform_prepare hs) fun _ e₁ k₁ w₁ h => ?_
  obtain ⟨rfl, hs₁, hc₁⟩ := h
  -- the sends keep the host `READY`, the flag clear, and add `SENDING READY` or nothing
  refine stWp_runScript_append (P := fun e' k' w' => e'.Synced p k' w' ∧ w'.header.complete = 0 ∧
      k'.state = .ready ∧ ∃ j, k'.log = k.log ++ [.initializing, .ready] ++
        (List.replicate j [HostState.sending, .ready]).flatten) _ _ ?_ ?_ _
    ⟨hs₁, hc₁, rfl, 0, by simp⟩
  · intro a ha e' k' w' h'
    obtain ⟨hs', hc', hst, j, hlog⟩ := h'
    obtain ⟨m, -, rfl⟩ := List.mem_map.1 ha
    refine stWp_weaken (HostAction.perform_send _ _ _ hs') fun _ e'' k'' w'' h => ?_
    obtain ⟨hd, hs'', hc''⟩ := h
    rcases hd with ⟨rfl, -⟩ | ⟨-, r, hdel⟩
    · exact ⟨hs'', hc''.trans hc', hst, j, hlog⟩
    rcases hdel with ⟨rfl, -⟩ | ⟨-, -, -, hcomp⟩
    · refine ⟨hs'', hc''.trans hc', rfl, j + 1, ?_⟩
      simp [hlog, List.replicate_succ']
    · -- a send that ends `SENDING` saw the flag set, but it is clear
      simp [Header.isComplete, hc'', hc'] at hcomp
  · intro acc' e' k' w' h'
    obtain ⟨hs', -, hst, j, hlog⟩ := h'
    simp only [List.map_nil, runScript]
    rw [stWp_bind]
    refine stWp_weaken (HostAction.perform_shutdown hs') fun _ e'' k'' w'' h => ?_
    obtain ⟨⟨r, ht⟩, hs''⟩ := h
    rw [HostEndpoint.transitioned_of_allowed (by rw [hs'.state, hst]; rfl)] at ht
    simp only [Prod.mk.injEq] at ht
    obtain ⟨-, -, rfl⟩ := ht
    exact fun v hv => ⟨hs''.later hv, _, by simp [hlog], j, rfl⟩

/-- The guest word since an attach, by the state it leaves the guest in:
`WAITING_HOST_INIT` when attaching gave up, `READY` after whole messages,
`ACKNOWLEDGED` after one more that is not released. -/
def GuestState.AfterAttach : GuestState → List GuestState → Prop
  | .waitingHostInit, d => d = [.waitingHostInit]
  | .ready, d => ∃ j, d = [.waitingHostInit, .ready] ++
      (List.replicate j [GuestState.processing, .acknowledged, .ready]).flatten
  | .acknowledged, d => ∃ j, d = [.waitingHostInit, .ready] ++
      (List.replicate j [GuestState.processing, .acknowledged, .ready]).flatten ++
      [.processing, .acknowledged]
  | _, _ => False

theorem GuestState.AfterAttach.run {s : GuestState} {d : List GuestState}
    (h : s.AfterAttach d) : GuestState.Run d := by
  cases s with
  | waitingHostInit => exact .inl h
  | ready =>
    obtain ⟨j, rfl⟩ := h
    exact .inr ⟨j, false, by simp⟩
  | acknowledged =>
    obtain ⟨j, rfl⟩ := h
    exact .inr ⟨j, true, by simp⟩
  | uninitialized | processing => exact h.elim

/-- **A served message keeps the word's shape**: from `READY` it adds
`PROCESSING ACKNOWLEDGED` and the release's `READY` if it comes; from
`ACKNOWLEDGED` the release comes first. -/
theorem GuestState.AfterAttach.serves {s s' : GuestState} {d δ : List GuestState}
    (h : s.AfterAttach d) (hs : s.Serves δ s') : s'.AfterAttach (d ++ δ) := by
  cases s with
  | ready =>
    obtain ⟨j, rfl⟩ := h
    rcases hs with ⟨rfl, rfl⟩ | ⟨rfl, rfl⟩
    · exact ⟨j + 1, by simp [List.replicate_succ']⟩
    · exact ⟨j, by simp⟩
  | acknowledged =>
    obtain ⟨j, rfl⟩ := h
    rcases hs with ⟨rfl, rfl⟩ | ⟨rfl, rfl⟩ | ⟨rfl, rfl⟩
    · exact ⟨j + 1, by simp [List.replicate_succ']⟩
    · exact ⟨j + 2, by simp [List.replicate_succ']⟩
    · exact ⟨j + 1, by simp [List.replicate_succ']⟩
  | waitingHostInit | uninitialized | processing => exact hs.elim

/-- A serving loop keeps the word's shape. -/
theorem GuestState.AfterAttach.served {k k' : GuestGhost} {base d : List GuestState}
    (h : Relation.ReflTransGen GuestGhost.Served k k') (hk : k.state.AfterAttach d)
    (hlog : k.log = base ++ d) : ∃ d', k'.log = base ++ d' ∧ k'.state.AfterAttach d' := by
  induction h with
  | refl => exact ⟨d, hlog, hk⟩
  | tail _ hs ih =>
    obtain ⟨d₁, hlog₁, hk₁⟩ := ih
    rcases hs with ⟨hst, hl⟩ | ⟨δ, hl, hδ⟩
    · exact ⟨d₁, hl.trans hlog₁, hst ▸ hk₁⟩
    · exact ⟨d₁ ++ δ, by rw [hl, hlog₁, List.append_assoc], hk₁.serves hδ⟩

/-- **An attach and a run write the guest word**, whatever the host does. -/
theorem GuestAction.attachRun_spec (expected : Option Nat) {e : GuestEndpoint} {k : GuestGhost}
    {w : World} (hs : e.Synced p k w) (acc : Array GuestResult) :
    stWp (guestSide p) (runScript GuestAction.perform [.act .attach, .act (.run expected)] acc) e
      (fun _ e' k' w' => e'.Synced p k' w' ∧ ∃ l, k'.log = k.log ++ l ∧ GuestState.Run l) k w := by
  simp only [runScript]
  rw [stWp_bind]
  refine stWp_weaken (GuestAction.perform_attach hs) fun _ e₁ k₁ w₁ h => ?_
  obtain ⟨hs₁, hatt⟩ := h
  -- attaching leaves the word `WAITING_HOST_INIT`, or `WAITING_HOST_INIT READY`
  have hk₁ : ∃ d, k₁.log = k.log ++ d ∧ k₁.state.AfterAttach d := by
    rcases hatt with ⟨hst, hl⟩ | ⟨hst, hl⟩
    · exact ⟨_, hl, by rw [hst]; exact ⟨0, rfl⟩⟩
    · exact ⟨_, hl, by rw [hst]; rfl⟩
  obtain ⟨d, hl₁, hd⟩ := hk₁
  rw [stWp_bind]
  refine stWp_mono_hence (GuestAction.perform_run expected hs₁) fun _ e₂ k₂ w₂ h v hv => ?_
  obtain ⟨-, hserved⟩ := Side.hence_self h
  obtain ⟨d', hl₂, hd'⟩ := hd.served hserved hl₁
  exact ⟨(h v hv).1, d', hl₂, hd'.run⟩

/-! ## The state machines over whole runs -/

/-- **The invariant holds in every configuration a launch reaches**, beside
whatever the two scripts were shown to promise. -/
theorem StateInv.holds {s : Session} {p : Window} (ha : s.Attached p)
    (hh : s.world.hostState.isSome) (hg : s.world.guestState.isSome)
    {hs : List (Scripted HostAction)} {gs : List (Scripted GuestAction)}
    {Qh : ScriptResult HostResult → HostEndpoint → HostGhost → World → Prop}
    {Qg : ScriptResult GuestResult → GuestEndpoint → GuestGhost → World → Prop}
    (hQh : stWp (hostSide p) (runScript HostAction.perform hs #[]) s.host Qh s.hostGhost s.world)
    (hQg : stWp (guestSide p) (runScript GuestAction.perform gs #[]) s.guest Qg s.guestGhost
      s.world)
    {c : Config _ _} (hc : (s.launch hs gs).Reachable c) :
    c.Holds (hostSide p) (guestSide p)
      (StateInv p (s.world.channel p).trace.size (s.world.channel p).tracing
        s.world.header.hostState s.world.header.guestState)
      (fun r => Qh r.1 r.2) (fun r => Qg r.1 r.2) :=
  Session.launch_holds (fun _ _ _ _ _ _ hI hm he => hI.host_move hm he)
    (fun _ _ _ _ _ _ hI hm he => hI.guest_move hm he) hQh hQg (StateInv.launch ha hh hg) hc

/-- **What a run keeps of the state machines**, in configuration `c` reached
from launching host script `hs` and guest script `gs` of session `s` on
window `p`. -/
structure Session.KeepsMachines (s : Session) (p : Window) (hs : List (Scripted HostAction))
    (gs : List (Scripted GuestAction))
    (c : Config (ScriptResult HostResult × HostEndpoint) (ScriptResult GuestResult × GuestEndpoint)) :
    Prop where
  /-- The host writes since the launch follow the host machine from the start word. -/
  host_follows : StateField.host.follows s.world.header.hostState
    (c.world.writesSince p (s.world.channel p).trace.size) = true
  /-- The guest writes since the launch follow the guest machine from the start word. -/
  guest_follows : StateField.guest.follows s.world.header.guestState
    (c.world.writesSince p (s.world.channel p).trace.size) = true
  /-- A finished host script leaves its endpoint holding the state its word reads. -/
  host_synced : ∀ r e, c.host = .run (.pure (r, e)) → c.world.hostState = some e.state
  /-- A finished guest script leaves its endpoint holding the state its word reads. -/
  guest_synced : ∀ r e, c.guest = .run (.pure (r, e)) → c.world.guestState = some e.state
  /-- With tracing on, a finished lifecycle has written a host run. -/
  host_run : (s.world.channel p).tracing = true → ∀ sends, hs = HostAction.lifecycle sends →
    ∀ r e, c.host = .run (.pure (r, e)) → ∃ l, HostState.Run l ∧
      StateField.host.written (c.world.writesSince p (s.world.channel p).trace.size) =
        l.map HostState.toRaw
  /-- With tracing on, a finished attach and run has written a guest run. -/
  guest_run : (s.world.channel p).tracing = true →
    ∀ expected, gs = [.act .attach, .act (.run expected)] →
    ∀ r e, c.guest = .run (.pure (r, e)) → ∃ l, GuestState.Run l ∧
      StateField.guest.written (c.world.writesSince p (s.world.channel p).trace.size) =
        l.map GuestState.toRaw

/-- **The state machines hold over whole runs**: every configuration that any
interleaving of any two scripts reaches, on one channel whose words start as
states, keeps them (`Session.KeepsMachines`). -/
theorem state_machines {s : Session} {p : Window} (ha : s.Attached p)
    (hh : s.world.hostState.isSome) (hg : s.world.guestState.isSome)
    (hs : List (Scripted HostAction)) (gs : List (Scripted GuestAction)) {c : Config _ _}
    (hc : (s.launch hs gs).Reachable c) : s.KeepsMachines p hs gs c := by
  have synced := StateInv.holds ha hh hg (Session.hostScript_synced ha hs)
    (Session.guestScript_synced ha gs) hc
  constructor
  case host_follows =>
    obtain ⟨_, _, hI, -, -⟩ := synced
    exact StateInv.host hI |>.follows
  case guest_follows =>
    obtain ⟨_, _, hI, -, -⟩ := synced
    exact StateInv.guest hI |>.follows
  case host_synced =>
    intro r e hr
    obtain ⟨kh, _, hI, hsync⟩ := Config.Holds.host_done synced hr
    rw [HostEndpoint.Synced.state hsync, World.hostState, Header.host, StateInv.host_word hI,
      HostState.ofRaw_toRaw]
  case guest_synced =>
    intro r e hr
    obtain ⟨_, kg, hI, hsync⟩ := Config.Holds.guest_done synced hr
    rw [GuestEndpoint.Synced.state hsync, World.guestState, Header.guest, StateInv.guest_word hI,
      GuestState.ofRaw_toRaw]
  case host_run =>
    rintro htr sends rfl r e hr
    obtain ⟨kh, _, hI, -, l, hlog, hrun⟩ := Config.Holds.host_done
      (StateInv.holds ha hh hg (HostAction.lifecycle_spec sends ha.host_synced #[])
        (Session.guestScript_synced ha gs) hc) hr
    refine ⟨l, hrun, ?_⟩
    rw [(StateInv.host hI).written htr, hlog]
    simp [Session.hostGhost]
  case guest_run =>
    rintro htr expected rfl r e hr
    obtain ⟨_, kg, hI, -, l, hlog, hrun⟩ := Config.Holds.guest_done
      (StateInv.holds ha hh hg (Session.hostScript_synced ha hs)
        (GuestAction.attachRun_spec expected ha.guest_synced #[]) hc) hr
    refine ⟨l, hrun, ?_⟩
    rw [(StateInv.guest hI).written htr, hlog]
    simp [Session.guestGhost]

set_option maxRecDepth 8000 in
/-- **Two messages served to the count.**  A lifecycle of two sends against an
attach and a run of two: both scripts finish, the host has written
`INITIALIZING READY (SENDING READY)² COMPLETED` and the guest
`WAITING_HOST_INIT READY (PROCESSING ACKNOWLEDGED READY)²`, and the theorem
applies to where they end. -/
theorem state_machines_two_messages :
    ∃ s c, Session.start {} = .ok s ∧
      (s.launch (HostAction.lifecycle [(1, ⟨#[1]⟩, none), (2, ⟨#[2]⟩, none)])
        [.act .attach, .act (.run (some 2))]).Reachable c ∧
      (∃ r e, c.host = .run (.pure (r, e))) ∧ (∃ r e, c.guest = .run (.pure (r, e))) ∧
      StateField.host.written (c.world.writesSince .primary (s.world.channel .primary).trace.size) =
        [HostState.initializing, .ready, .sending, .ready, .sending, .ready, .completed].map
          HostState.toRaw ∧
      StateField.guest.written (c.world.writesSince .primary (s.world.channel .primary).trace.size) =
        [GuestState.waitingHostInit, .ready, .processing, .acknowledged, .ready, .processing,
          .acknowledged, .ready].map GuestState.toRaw ∧
      s.KeepsMachines .primary (HostAction.lifecycle [(1, ⟨#[1]⟩, none), (2, ⟨#[2]⟩, none)])
        [.act .attach, .act (.run (some 2))] c := by
  refine Session.exists_of_replay {} _ _
    -- the guest attaches and the host initializes and sends message 1
    (List.flatten [List.replicate 3 (.guest .go), List.replicate 6 (.host .go),
    List.replicate 4 (.guest .go), List.replicate 11 (.host .go), [.host (.clock 0)],
    List.replicate 2 (.host .go),
    -- the guest processes message 1 and the host takes its acknowledgement
    [.guest .go, .guest (.clock 0)], List.replicate 3 (.guest .go), [.guest (.clock 0)],
    List.replicate 3 (.guest .go), List.replicate 3 (.host .go), [.host (.clock 0)],
    List.replicate 3 (.host .go), List.replicate 4 (.guest .go),
    -- the same for message 2, after which the guest's count is reached
    List.replicate 12 (.host .go), [.host (.clock 0)], List.replicate 2 (.host .go),
    [.guest .go, .guest (.clock 0)], List.replicate 3 (.guest .go), [.guest (.clock 0)],
    List.replicate 3 (.guest .go), List.replicate 3 (.host .go), [.host (.clock 0)],
    List.replicate 3 (.host .go), List.replicate 2 (.guest .go),
    -- the host shuts down
    List.replicate 4 (.host .go)])
    (fun s c => s.world.hostState.isSome && s.world.guestState.isSome &&
      c.host.finished.isSome && c.guest.finished.isSome &&
      StateField.host.written (c.world.writesSince .primary (s.world.channel .primary).trace.size) ==
        [HostState.initializing, .ready, .sending, .ready, .sending, .ready, .completed].map
          HostState.toRaw &&
      StateField.guest.written (c.world.writesSince .primary (s.world.channel .primary).trace.size) ==
        [GuestState.waitingHostInit, .ready, .processing, .acknowledged, .ready, .processing,
          .acknowledged, .ready].map GuestState.toRaw) (by decide +kernel) ?_
  intro s c hs hc hp
  simp only [Bool.and_eq_true, beq_iff_eq, Proc.finished_isSome, Prod.exists] at hp
  obtain ⟨⟨⟨⟨⟨hh, hg⟩, hhost⟩, hguest⟩, hhw⟩, hgw⟩ := hp
  exact ⟨hhost, hguest, hhw, hgw, state_machines (Session.start_attached rfl hs) hh hg _ _ hc⟩

/-- **A guest whose attach gives up writes `WAITING_HOST_INIT` alone.**  With
no host at all, the guest's attach waits out its timeout and fails, and the
run that follows finds nothing to serve: the guest's word never reaches
`READY`. -/
theorem attach_timeout_word :
    ∃ s c, Session.start {} = .ok s ∧
      (s.launch [] [.act .attach, .act (.run none)]).Reachable c ∧
      (∃ r e, c.guest = .run (.pure (r, e)) ∧ e.state = .waitingHostInit) ∧
      StateField.guest.written (c.world.writesSince .primary (s.world.channel .primary).trace.size) =
        [GuestState.waitingHostInit.toRaw] := by
  refine ⟨_, _, rfl, Config.replay_sound (show Config.replay
    [.guest .go, .guest .go, .guest .go, .guest (.expire 50000000000),
      .guest .go, .guest .go, .guest .go, .guest (.expire 60000000000)] _ = some _ from rfl),
    ⟨_, _, rfl, rfl⟩, rfl⟩

end ShmBench

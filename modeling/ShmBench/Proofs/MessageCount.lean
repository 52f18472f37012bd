import ShmBench.Cli.Guest
import ShmBench.Proofs.Runs

/-!
# Host and guest agree on the message count

The host command sends its plan's messages in nested loops: `count` latency
messages when the latency frame fits the channel, then `iterations` messages
of every bandwidth frame that fits.  The guest command computes the same count
with a closed formula, `TestPlan.expectedMessages`, and serves until that many
messages are processed.

The host side is a statement about command runs that end well (`Yields`):
each loop is taken apart with the loop rule `Yields.foldlM`, and each send
counts one.  Both sides meet in `TestPlan.messagesFitting`.  The guest side is
the serving loop's invariant: the messages handled and the room left in the
count add up to the count, so the loop serves only while it is short of the
count, never overflows, and ends with it exactly when no step came back
without a message.  Judged by its events alone, a step comes back without a
message only when one of its waits gives up or meets the flag, so a loop whose
every wait is answered ends with the count reached.
-/

namespace ShmBench

/-! ## Frames that fit -/

/-- Whether a frame fits `capacity` bytes, a frame whose size overflows
counting as one that does not. -/
def FrameSpec.fitsIn (f : FrameSpec) (capacity : Nat) : Bool :=
  match f.fits capacity.toUInt64 with
  | .ok b => b
  | .error _ => false

/-- A frame whose size is known fits as `fitsIn` says. -/
theorem FrameSpec.fits_eq {f : FrameSpec} {size : UInt64} (h : f.size = .ok size) (c : Nat) :
    f.fits c.toUInt64 = .ok (f.fitsIn c) := by
  simp [FrameSpec.fitsIn, FrameSpec.fits, h, bind, Except.bind, pure, Except.pure]

/-- The fit a command reads off `fits` is `fitsIn`. -/
theorem FrameSpec.fitsIn_of_fits {f : FrameSpec} {c : Nat} {b : Bool}
    (h : f.fits c.toUInt64 = .ok b) : f.fitsIn c = b := by
  simp [FrameSpec.fitsIn, h]

theorem FrameSpec.latency_fits (c : Nat) :
    FrameSpec.latency.fits c.toUInt64 = .ok (FrameSpec.latency.fitsIn c) :=
  FrameSpec.fits_eq (f := FrameSpec.latency) rfl c

namespace Cli

/-! ## Commands that end well -/

namespace CommandM

/-- **A command that ends well yields `P`**: every run of `x` that returns a
value returns one of which `P` holds.  A run that fails (a send refused, a
file not written) is not counted. -/
def Yields {α : Type} (x : CommandM α) (P : α → Prop) : Prop :=
  ∀ st a st', x.run.run st = (.ok a, st') → P a

namespace Yields

variable {α β : Type} {P Q : α → Prop}

theorem pure {a : α} (h : P a) : Yields (Pure.pure a) P := by
  intro st b st' hr
  cases hr
  exact h

theorem mono {x : CommandM α} (hx : Yields x Q) (h : ∀ a, Q a → P a) : Yields x P :=
  fun st a st' hr => h a (hx st a st' hr)

theorem bind {x : CommandM α} {f : α → CommandM β} {R : β → Prop} (hx : Yields x Q)
    (hf : ∀ a, Q a → Yields (f a) R) : Yields (x >>= f) R := by
  intro st b st' h
  rw [ExceptT.run_bind, StateT.run_bind] at h
  cases hr : x.run.run st with
  | mk r st₁ =>
    rw [hr] at h
    cases r with
    | ok a => exact hf a (hx st a st₁ hr) st₁ b st' h
    | error e => cases h

/-- The steps after a command whose value the proof does not need. -/
theorem after {x : CommandM α} {f : α → CommandM β} {R : β → Prop} (hf : ∀ a, Yields (f a) R) :
    Yields (x >>= f) R :=
  bind (Q := fun _ => True) (fun _ _ _ _ => True.intro) fun a _ => hf a

/-- The step after a command whose value is dropped, such as a printed line. -/
theorem seq {x : CommandM Unit} {y : CommandM α} (hy : Yields y P) : Yields (x >>= fun _ => y) P :=
  after fun _ => hy

theorem pure_bind {a : α} {f : α → CommandM β} {R : β → Prop} (h : Yields (f a) R) :
    Yields (Pure.pure a >>= f) R :=
  bind (pure rfl) fun _ ha => ha ▸ h

/-- **The loop rule**: a fold yields what each step keeps, the invariant read
at the prefix of the list done so far. -/
theorem foldlM {f : β → α → CommandM β} {I : List α → β → Prop}
    (hf : ∀ done a b, I done b → Yields (f b a) (I (done ++ [a]))) :
    ∀ (l done : List α) (b : β), I done b → Yields (l.foldlM f b) (I (done ++ l))
  | [], done, b, h => by simpa using pure h
  | a :: l, done, b, h => by
    rw [List.foldlM_cons]
    refine bind (hf done a b h) fun b' h' => ?_
    simpa using foldlM hf l (done ++ [a]) b' h'

theorem checked (x : Checked α) : Yields (CommandM.checked x) fun a => x = .ok a := by
  intro st a st' h
  cases x with
  | ok b => cases h; rfl
  | error e => cases h

theorem fail (f : Failure) : Yields (CommandM.fail f : CommandM α) P := by
  intro st a st' h
  cases h

end Yields

end CommandM

open CommandM

/-! ## The messages the host sends -/

/-- A message sent counts one; a refused send, or a count that overflows,
ends the command. -/
theorem Sender.send_sent (s : Sender) (sequence : UInt32) (size : Nat) (context : String) :
    Yields (s.send sequence size context) fun r => r.2.sent = s.sent + 1 := by
  unfold Sender.send
  refine Yields.bind (Yields.checked _) fun sent hs => ?_
  have hsent : sent = s.sent + 1 := by
    unfold countOne at hs
    split at hs <;> cases hs
    rfl
  refine Yields.after fun ⟨r, host⟩ => ?_
  cases r with
  | ok report => exact Yields.pure hsent
  | error e => exact Yields.fail _

theorem latencyStep_sent (size count : Nat) (t : TestRun LatencyRecord) (i : Nat) :
    Yields (latencyStep size count t i) fun t' => t'.sender.sent = t.sender.sent + 1 := by
  unfold latencyStep
  refine Yields.bind (Sender.send_sent _ _ _ _) fun ⟨report, sender⟩ hs => ?_
  dsimp only at hs ⊢
  -- a delivered message may be printed, a failed one always is
  split
  · split
    · exact Yields.seq (Yields.pure hs)
    · exact Yields.pure hs
  · exact Yields.seq (Yields.pure hs)

/-- **A loop of sends**: when each step sends one message, the loop sends one
per element. -/
theorem TestRun.foldlM_sent {ρ : Type} {f : TestRun ρ → Nat → CommandM (TestRun ρ)}
    (hf : ∀ t i, Yields (f t i) fun t' => t'.sender.sent = t.sender.sent + 1) (l : List Nat)
    (t : TestRun ρ) : Yields (l.foldlM f t) fun t' => t'.sender.sent = t.sender.sent + l.length := by
  refine Yields.mono (Yields.foldlM (I := fun done t' => t'.sender.sent = t.sender.sent + done.length)
    (fun done i t₁ h => Yields.mono (hf t₁ i) fun t' h' => ?_) l [] t rfl) fun t' ht => ?_
  · simp only [h', h, List.length_append, List.length_singleton]
    omega
  · simpa using ht

/-- **The latency test sends `count` messages.** -/
theorem runLatency_sent (s : Sender) (count : Nat) (dir : String) :
    Yields (runLatency s count dir) fun r => r.2.sent = s.sent + count := by
  unfold runLatency
  refine Yields.after fun size => ?_
  refine Yields.after fun mb => ?_
  refine Yields.seq ?_
  refine Yields.after fun csv => ?_
  refine Yields.bind (TestRun.foldlM_sent (latencyStep_sent _ _) _ _) fun t ht => ?_
  rw [List.length_range] at ht
  refine Yields.after fun path => ?_
  refine Yields.seq ?_
  refine Yields.after fun b => ?_
  cases b <;> exact Yields.seq (Yields.seq (Yields.seq (Yields.pure ht)))

theorem bandwidthStep_sent (frame : FrameSpec) (size : Nat) (t : TestRun BandwidthRecord)
    (i : Nat) :
    Yields (bandwidthStep frame size t i) fun t' => t'.sender.sent = t.sender.sent + 1 := by
  unfold bandwidthStep
  refine Yields.bind (Sender.send_sent _ _ _ _) fun ⟨report, sender⟩ hs => ?_
  exact Yields.seq (Yields.after fun _ => Yields.pure hs)

/-- One bandwidth frame sends its `iterations` when it fits, nothing otherwise. -/
theorem frameStep_sent (iterations capacity : Nat) (t : TestRun BandwidthRecord)
    (frame : FrameSpec) :
    Yields (frameStep iterations capacity t frame) fun t' =>
      t'.sender.sent = t.sender.sent + if frame.fitsIn capacity then iterations else 0 := by
  unfold frameStep
  refine Yields.bind (Yields.checked _) fun b hb => ?_
  rw [FrameSpec.fitsIn_of_fits hb]
  cases b with
  | false => exact Yields.pure rfl
  | true =>
    refine Yields.after fun size => ?_
    refine Yields.after fun mb => ?_
    refine Yields.seq (Yields.mono (TestRun.foldlM_sent (bandwidthStep_sent _ _) _ _) ?_)
    simp

/-- **The bandwidth test sends `iterations` messages of every frame that fits.** -/
theorem runBandwidth_sent (s : Sender) (iterations capacity : Nat) (dir : String) :
    Yields (runBandwidth s iterations capacity dir) fun r =>
      r.2.sent = s.sent + iterations * (FrameSpec.bandwidth.filter (·.fitsIn capacity)).length := by
  unfold runBandwidth
  refine Yields.seq ?_
  refine Yields.after fun csv => ?_
  refine Yields.bind (Yields.foldlM (I := fun done t =>
      t.sender.sent = s.sent + iterations * (done.filter (·.fitsIn capacity)).length)
    (fun done f t h => Yields.mono (frameStep_sent _ _ t f) fun t' h' => ?_) _ [] _ rfl)
    fun t ht => ?_
  · rw [h', h, List.filter_append, List.length_append, Nat.mul_add]
    cases hf : f.fitsIn capacity with
    | false => simp [hf]
    | true => simp [hf, Nat.add_assoc]
  refine Yields.after fun path => ?_
  exact Yields.seq (Yields.seq (Yields.seq (Yields.seq (Yields.pure (by simpa using ht)))))

/-- **The messages a plan sends** over a channel of `capacity` bytes: the
latency count when the latency frame fits, and the iterations for every
bandwidth frame that fits. -/
def TestPlan.messagesFitting (p : TestPlan) (capacity : Nat) : Nat :=
  (p.latency.map fun n => if FrameSpec.latency.fitsIn capacity then n else 0).getD 0 +
    (p.bandwidth.map (· * (FrameSpec.bandwidth.filter (·.fitsIn capacity)).length)).getD 0

/-- **The tests of a plan send `messagesFitting` messages.** -/
theorem runTests_sent (s : Sender) (plan : TestPlan) (capacity : Nat) (dir : String) :
    Yields (runTests s plan capacity dir) fun r =>
      r.2.sent = s.sent + plan.messagesFitting capacity := by
  unfold runTests
  extract_lets jp
  -- the bandwidth test, after the latency test sent its messages
  have hjp : ∀ r : List BenchmarkResult × Sender, r.2.sent = s.sent +
      (plan.latency.map fun n => if FrameSpec.latency.fitsIn capacity then n else 0).getD 0 →
      Yields (jp r) fun r => r.2.sent = s.sent + plan.messagesFitting capacity := by
    rintro ⟨latency, s₁⟩ h₁
    dsimp only [jp]
    split
    · rename_i iterations hb
      refine Yields.bind (runBandwidth_sent _ _ _ _) fun ⟨records, s₂⟩ h₂ => ?_
      refine Yields.after fun _ => Yields.pure_bind (Yields.pure ?_)
      simp only [TestPlan.messagesFitting, hb, Option.map_some, Option.getD_some] at h₁ h₂ ⊢
      omega
    · rename_i hb
      refine Yields.pure_bind (Yields.pure ?_)
      simpa [TestPlan.messagesFitting, hb] using h₁
  -- the latency test, which runs only when its frame fits
  split
  · rename_i count hl
    refine Yields.bind (Yields.checked _) fun b hb => ?_
    split
    · rename_i hfit
      refine Yields.bind (runLatency_sent _ _ _) fun ⟨records, s₁⟩ h => ?_
      refine Yields.after fun _ => Yields.bind (Yields.pure ?_) hjp
      simpa [hl, FrameSpec.fitsIn_of_fits hb, hfit] using h
    · rename_i hfit
      refine Yields.bind (Yields.pure ?_) hjp
      simp [hl, FrameSpec.fitsIn_of_fits hb, hfit]
  · rename_i hl
    refine Yields.bind (Yields.pure ?_) hjp
    simp [hl]

/-! ## The messages the guest expects -/

theorem TestPlan.framesFitting_eq (c : Nat) :
    TestPlan.framesFitting c = .ok (FrameSpec.bandwidth.filter (·.fitsIn c)) := by
  simp only [TestPlan.framesFitting, FrameSpec.bandwidth, List.filterM, List.filterAuxM,
    FrameSpec.fits_eq (f := FrameSpec.hd) rfl, FrameSpec.fits_eq (f := FrameSpec.qhd) rfl,
    FrameSpec.fits_eq (f := FrameSpec.uhd) rfl, List.filter_cons, List.filter_nil]
  cases FrameSpec.hd.fitsIn c <;> cases FrameSpec.qhd.fitsIn c <;> cases FrameSpec.uhd.fitsIn c <;> rfl

/-- **The count a guest expects** is the count the plan sends. -/
theorem TestPlan.expectedMessages_eq (p : TestPlan) (capacity : Nat) :
    p.expectedMessages capacity = .ok (p.messagesFitting capacity) := by
  simp only [TestPlan.expectedMessages, TestPlan.latencyMessages, TestPlan.bandwidthMessages,
    TestPlan.framesFitting_eq, FrameSpec.latency_fits, TestPlan.messagesFitting]
  cases p.latency <;> cases p.bandwidth <;> cases FrameSpec.latency.fitsIn capacity <;> rfl

/-- With no test chosen, an 8 MiB channel takes only the 1080p frame. -/
example : ({} : ModeArgs).plan.messagesFitting 8388608 = 10 := by decide

end Cli

/-! ## The serving loop's counts -/

open Interleaving

/-- The messages of a list that failed. -/
def failedCount (msgs : Array ProcessedMessage) : Nat := (msgs.toList.filter (!·.success)).length

theorem failedCount_push (msgs : Array ProcessedMessage) (m : ProcessedMessage) :
    failedCount (msgs.push m) = if m.success then failedCount msgs else failedCount msgs + 1 := by
  cases hm : m.success <;> simp [failedCount, hm]

/-- **How a serving loop for `n` messages ends**: having handled at most `n`
messages, with a summary that counts them and their failures and says the
count was reached exactly when `n` were handled; an error ends it short of
`n`, and its count never overflows. -/
def LoopEnd (n : Nat) (msgs : Array ProcessedMessage) :
    Checked (Except ProtocolError GuestSummary) → Prop
  | .ok (.ok s) => s.processed = msgs.size ∧ s.failed = failedCount msgs ∧
      (s.stop = .countReached ↔ msgs.size = n) ∧ msgs.size ≤ n
  | .ok (.error _) => msgs.size < n
  | .error _ => False

/-- A loop that handled its `n` messages. -/
theorem LoopEnd.reached {n : Nat} {msgs : Array ProcessedMessage} (h : msgs.size = n) :
    LoopEnd n msgs (.ok (.ok ⟨msgs.size, failedCount msgs, .countReached⟩)) :=
  ⟨rfl, rfl, iff_of_true rfl h, Nat.le_of_eq h⟩

/-- A loop that stops short of `n` for want of a message. -/
theorem LoopEnd.short {n : Nat} {msgs : Array ProcessedMessage} {stop : StopReason}
    (hstop : stop ≠ .countReached) (hlt : msgs.size < n) :
    LoopEnd n msgs (.ok (.ok ⟨msgs.size, failedCount msgs, stop⟩)) :=
  ⟨rfl, rfl, ⟨fun h => absurd h hstop, fun h => by omega⟩, by omega⟩

variable {p : Window}

/-- **One turn of the loop counts what it serves**, when the rest of the loop
does after one more message. -/
theorem GuestEndpoint.loopTurn_counts (n processed failed : Nat) (msgs : Array ProcessedMessage)
    {next : ProcessedMessage → StateT GuestEndpoint Program GuestEndpoint.LoopResult}
    (hp : processed = msgs.size) (hf : failed = failedCount msgs) (hle : processed ≤ n)
    (hnext : processed < n → ∀ m e k w, e.Synced p k w → stWp (guestSide p) (next m) e
      (fun r e' k' w' => e'.Synced p k' w' ∧ LoopEnd n r.1 r.2) k w)
    {e : GuestEndpoint} {k : GuestGhost} {w : World} (hs : e.Synced p k w) :
    stWp (guestSide p) (GuestEndpoint.loopTurn (some n) processed failed msgs next) e
      (fun r e' k' w' => e'.Synced p k' w' ∧ LoopEnd n r.1 r.2) k w := by
  subst hp hf
  rw [GuestEndpoint.loopTurn]
  split
  · rename_i hc
    have hreached : msgs.size = n := by simp at hc; omega
    exact fun v hv => ⟨hs.later hv, LoopEnd.reached hreached⟩
  rename_i hc
  have hlt : msgs.size < n := by simp at hc; omega
  rw [stWp_bind, stWp_run]
  refine opWp_mono_hence (GuestEndpoint.serveNext_spec hs) fun r e₁ k₁ w₁ h => ?_
  have hs₁ := (Side.hence_self h).1
  rcases r with err | ev
  · exact fun v hv => ⟨(h v hv).1, hlt⟩
  cases ev with
  | processed m => exact hnext hlt m _ _ _ hs₁
  | idle => exact fun v hv => ⟨(h v hv).1, LoopEnd.short (by decide) hlt⟩
  | stalled => exact fun v hv => ⟨(h v hv).1, LoopEnd.short (by decide) hlt⟩
  | shutdown => exact fun v hv => ⟨(h v hv).1, LoopEnd.short (by decide) hlt⟩

/-- **The loop rule** for a loop counting to `n`: what every turn gives,
given that the rest of the loop gives it after one more message, the whole
loop gives.  The invariant: the messages handled and the room left in the
count add up to `n`, and the counters read the messages collected; so the
count check stops the loop exactly when the room is used up, before the
count can overflow. -/
theorem GuestEndpoint.runLoop_of_turn {K : Type} {S : Side K} (n : Nat)
    (Pre : GuestEndpoint → K → World → Prop)
    (Post : K → GuestEndpoint.LoopResult → GuestEndpoint → K → World → Prop)
    (hturn : ∀ processed failed msgs
      (next : ProcessedMessage → StateT GuestEndpoint Program GuestEndpoint.LoopResult) e k w,
      processed = msgs.size → failed = failedCount msgs → processed ≤ n →
      (processed < n → ∀ m e k w, Pre e k w → stWp S (next m) e (Post k) k w) →
      Pre e k w → stWp S (GuestEndpoint.loopTurn (some n) processed failed msgs next) e (Post k) k w)
    (room processed failed : Nat) (msgs : Array ProcessedMessage) {e : GuestEndpoint} {k : K}
    {w : World} (hn : processed + room = n) (hp : processed = msgs.size)
    (hf : failed = failedCount msgs) (he : Pre e k w) :
    stWp S (GuestEndpoint.runLoop (some n) room processed failed msgs) e (Post k) k w := by
  induction room generalizing processed failed msgs e k w with
  | zero =>
    rw [GuestEndpoint.runLoop]
    exact hturn _ _ msgs _ e k w hp hf (by omega) (fun hlt => absurd hn (by omega)) he
  | succ room ih =>
    rw [GuestEndpoint.runLoop]
    refine hturn _ _ msgs _ e k w hp hf (by omega) (fun _ m _ _ _ he' => ?_) he
    exact ih _ _ (msgs.push m) (by omega) (by simp [hp]) (by rw [hf, failedCount_push]) he'

/-- **The serving loop counts what it serves.** -/
theorem GuestEndpoint.runLoop_counts (n room processed failed : Nat)
    (msgs : Array ProcessedMessage) {e : GuestEndpoint} {k : GuestGhost} {w : World}
    (hn : processed + room = n) (hp : processed = msgs.size) (hf : failed = failedCount msgs)
    (hs : e.Synced p k w) :
    stWp (guestSide p) (GuestEndpoint.runLoop (some n) room processed failed msgs) e
      (fun r e' k' w' => e'.Synced p k' w' ∧ LoopEnd n r.1 r.2) k w :=
  runLoop_of_turn n (fun e k w => e.Synced p k w)
    (fun _ r e' k' w' => e'.Synced p k' w' ∧ LoopEnd n r.1 r.2)
    (fun _ _ msgs _ _ _ _ hp hf hle hnext hs => loopTurn_counts n _ _ msgs hp hf hle hnext hs)
    room processed failed msgs hn hp hf hs

/-! ## A loop whose every wait is answered

Judged by its events alone, with the host free to do anything (`eventSide`),
a guest between messages serves one on every call unless one of the call's
waits ends without its condition: no transition from `READY` or
`ACKNOWLEDGED` is refused, so the waits for a message and for the release are
the only places a call can stop short.  A loop for `n` messages whose every
wait is answered therefore ends with the count reached after exactly `n`. -/

/-- **The guest judged by its events alone**: its ghost is the list of its
events, and the host may do anything at all. -/
def eventSide : Side (List Event) := ⟨"worker", fun l ev l' => l' = l ++ [ev], fun _ _ => True⟩

/-- **Every wait answered**: each wait that ended among `evs` ended with its
condition met, neither giving up nor meeting the flag. -/
def Answered (evs : List Event) : Prop := ∀ o v, Event.observe o v ∈ evs → o = .ready

@[simp] theorem answered_nil : Answered [] := by simp [Answered]

theorem answered_append {a b : List Event} : Answered (a ++ b) ↔ Answered a ∧ Answered b := by
  simp only [Answered, List.mem_append, or_imp, forall_and]

@[simp] theorem answered_cons_write {b a : World} {evs : List Event} :
    Answered (.write b a :: evs) ↔ Answered evs := by
  simp [Answered]

@[simp] theorem answered_cons_observe {o : PollOutcome} {v : World} {evs : List Event} :
    Answered (.observe o v :: evs) ↔ o = .ready ∧ Answered evs := by
  simp only [Answered, List.mem_cons, Event.observe.injEq, or_imp, forall_and]
  constructor
  · rintro ⟨h₁, h₂⟩
    exact ⟨h₁ o v ⟨rfl, rfl⟩, h₂⟩
  · rintro ⟨rfl, h⟩
    exact ⟨fun _ _ h' => h'.1, h⟩

/-- A guest between messages: `READY`, or `ACKNOWLEDGED` with the release
still to come. -/
def GuestEndpoint.Serving (e : GuestEndpoint) : Prop := e.state = .ready ∨ e.state = .acknowledged

/-- After a release wait the guest is between messages, released or not. -/
theorem GuestEndpoint.serving_of_release {e : GuestEndpoint} {b : Bool}
    (h : e.state = if b then .ready else .acknowledged) : e.Serving := by
  cases b
  · exact .inr h
  · exact .inl h

/-- **What a loop for `n` messages shows**, from the events `l` before it:
the events it adds, and when each of their waits was answered, exactly `n`
messages handled and the count reported reached. -/
def ReachesCount (n : Nat) (l : List Event) (r : GuestEndpoint.LoopResult) (l' : List Event) :
    Prop :=
  ∃ evs, l' = l ++ evs ∧
    (Answered evs → r.1.size = n ∧ r.2 = .ok (.ok ⟨n, failedCount r.1, .countReached⟩))

namespace GuestEndpoint

variable {e : GuestEndpoint} {l : List Event} {w : World}

/-- A wait shows its end. -/
theorem await_logged (q : Poll) :
    opWp eventSide (await q) e (fun r e' l' _ => e' = e ∧
      ∃ o v, r = .ok o ∧ l' = l ++ [.observe o v]) l w :=
  opWp_await_of (F := fun _ => True) (fun _ _ _ _ => trivial) trivial
    fun o v _ _ => ⟨_, rfl, fun _ _ => ⟨rfl, o, v, rfl, rfl⟩⟩

/-- An allowed transition shows one write. -/
theorem transition_logged (t : GuestState) (ht : e.state.canTransition t = true) :
    opWp eventSide (transition t) e (fun r e' l' _ => r = .ok () ∧ e' = { e with state := t } ∧
      ∃ b a, l' = l ++ [.write b a]) l w := by
  simp only [transition, change, opWp_bind, opWp_get, hence_opWp, ht, Bool.not_true,
    Bool.false_eq_true, ite_false, opWp_change, opWp_set]
  exact fun _ _ => ⟨_, rfl, fun _ _ => ⟨trivial, trivial, _, _, rfl⟩⟩

/-- Measuring shows nothing and keeps the endpoint's state. -/
theorem measure_logged (v : World) :
    opWp eventSide (measure v) e (fun r e' l' _ => l' = l ∧ e'.state = e.state ∧ ∃ x, r = .ok x)
      l w := by
  simp only [measure, spend, opWp_bind, opWp_get, hence_opWp]
  split
  · exact fun _ _ => by simp
  · simp only [opWp_bind, opWp_set, opWp_spend, hence_opWp, opWp_pure]
    exact fun _ _ => by simp

/-- **The release**: `READY` published exactly when the wait saw the host
`READY`, which it does when the wait is answered. -/
theorem awaitRelease_answered (hk : e.state = .acknowledged) :
    opWp eventSide awaitRelease e (fun r e' l' _ => ∃ o evs, r = .ok o ∧ l' = l ++ evs ∧
      e'.state = (if o.isReady then .ready else .acknowledged) ∧ (Answered evs → o = .ready)) l w := by
  simp only [awaitRelease, opWp_bind, opWp_get, hence_opWp]
  refine opWp_weaken (await_logged _) fun r e₁ l₁ w₁ h => ?_
  obtain ⟨rfl, o, v, rfl, rfl⟩ := h
  cases o with
  | ready =>
    simp only [PollOutcome.isReady, ite_true, opWp_bind]
    refine opWp_weaken (transition_logged .ready (by rw [hk]; rfl)) fun r e₂ l₂ w₂ h => ?_
    obtain ⟨rfl, rfl, b, a, rfl⟩ := h
    exact fun _ _ => ⟨_, [.observe .ready v, .write b a], rfl, by simp, rfl, fun _ => rfl⟩
  | timedOut _ | shutdown =>
    simp only [PollOutcome.isReady, Bool.false_eq_true, ite_false, opWp_pure]
    exact fun _ _ => ⟨_, [_], rfl, rfl, hk, fun ha => by simp at ha⟩

/-- **Handling a message from `READY`** always yields it, and leaves the guest
between messages whatever its release wait sees. -/
theorem handle_logged (hr : e.state = .ready) :
    opWp eventSide handle e (fun r e' l' _ => e'.Serving ∧ (∃ m, r = .ok m) ∧ l <+: l') l w := by
  simp only [handle, now, look, change, opWp_bind, opWp_now, hence_opWp]
  intro start
  refine opWp_weaken (transition_logged .processing (by rw [hr]; rfl)) fun r e₁ l₁ w₁ h => ?_
  obtain ⟨rfl, rfl, b₁, a₁, rfl⟩ := h
  simp only [opWp_bind, opWp_look, hence_opWp]
  intro v _
  refine opWp_weaken (measure_logged v) fun r e₃ l₃ w₃ h => ?_
  obtain ⟨rfl, hst₃, x, rfl⟩ := h
  simp only [opWp_bind, opWp_now, opWp_change, hence_opWp]
  intro t _ _
  refine ⟨_, rfl, ?_⟩
  refine opWp_weaken (transition_logged .acknowledged (by rw [hst₃]; rfl)) fun r e₅ l₅ w₅ h => ?_
  obtain ⟨rfl, rfl, b₃, a₃, rfl⟩ := h
  simp only [opWp_bind]
  refine opWp_weaken (awaitRelease_answered rfl) fun r e₆ l₆ w₆ h => ?_
  obtain ⟨o, evs, rfl, rfl, he₆, -⟩ := h
  exact fun _ _ => ⟨serving_of_release he₆, ⟨_, rfl⟩, by simp⟩

/-- **Picking up from `READY`** serves a message unless its wait gives up or
meets the flag. -/
theorem pickUp_answered (hr : e.state = .ready) :
    opWp eventSide pickUp e (fun r e' l' _ => e'.Serving ∧ ∃ evs, l' = l ++ evs ∧
      (Answered evs → ∃ m, r = .ok (.processed m))) l w := by
  simp only [pickUp, opWp_bind, opWp_get, hence_opWp]
  refine opWp_weaken (await_logged _) fun r e₁ l₁ w₁ h => ?_
  obtain ⟨rfl, o, v, rfl, rfl⟩ := h
  cases o with
  | ready =>
    simp only [opWp_bind]
    refine opWp_weaken (handle_logged hr) fun r e₂ l₂ w₂ h => ?_
    obtain ⟨he₂, ⟨m, rfl⟩, evs, rfl⟩ := h
    exact fun _ _ => ⟨he₂, .observe .ready v :: evs, by simp, fun _ => ⟨m, rfl⟩⟩
  | timedOut _ | shutdown =>
    exact fun _ _ => ⟨.inl hr, [_], rfl, fun ha => by simp at ha⟩

/-- **One call of `serveNext` between messages** serves a message unless one
of its waits gives up or meets the flag, and leaves the guest between
messages. -/
theorem serveNext_answered (he : e.Serving) :
    opWp eventSide serveNext e (fun r e' l' _ => e'.Serving ∧ ∃ evs, l' = l ++ evs ∧
      (Answered evs → ∃ m, r = .ok (.processed m))) l w := by
  simp only [serveNext, spend, opWp_bind, opWp_spend, opWp_get, hence_opWp]
  split
  · -- an acknowledged message is released first
    rename_i ha
    simp only [opWp_bind]
    refine opWp_weaken (awaitRelease_answered (by simpa using ha)) fun r e₁ l₁ w₁ h => ?_
    obtain ⟨o, evs, rfl, rfl, he₁, hrel⟩ := h
    cases o with
    | ready =>
      refine opWp_weaken (pickUp_answered he₁) fun r e₂ l₂ w₂ h => ?_
      obtain ⟨he₂, evs', rfl, hpick⟩ := h
      exact ⟨he₂, evs ++ evs', by simp, fun ha => hpick (answered_append.1 ha).2⟩
    | timedOut _ | shutdown =>
      exact fun _ _ => ⟨.inr he₁, evs, rfl, fun ha => absurd (hrel ha) (by simp)⟩
  · rename_i ha
    have hr : e.state = .ready := he.resolve_right (by simpa using ha)
    exact pickUp_answered hr

/-- **One turn of the loop reaches the count** when each of its waits is
answered, if the rest of the loop does after one more message. -/
theorem loopTurn_answered (n processed failed : Nat) (msgs : Array ProcessedMessage)
    {next : ProcessedMessage → StateT GuestEndpoint Program LoopResult}
    (hp : processed = msgs.size) (hf : failed = failedCount msgs) (hle : processed ≤ n)
    (hnext : processed < n → ∀ m e l w, e.Serving →
      stWp eventSide (next m) e (fun r _ l' _ => ReachesCount n l r l') l w)
    (he : e.Serving) :
    stWp eventSide (loopTurn (some n) processed failed msgs next) e
      (fun r _ l' _ => ReachesCount n l r l') l w := by
  subst hp hf
  rw [loopTurn]
  split
  · rename_i hc
    have hreached : msgs.size = n := by simp at hc; omega
    exact fun _ _ => ⟨[], by simp, fun _ => ⟨hreached, by rw [hreached]⟩⟩
  rename_i hc
  have hlt : msgs.size < n := by simp at hc; omega
  rw [stWp_bind, stWp_run]
  refine opWp_weaken (serveNext_answered he) fun r e₁ l₁ w₁ h => ?_
  obtain ⟨he₁, evs, rfl, hserved⟩ := h
  -- a call that brought no message had a wait that was not answered
  rcases r with err | ev
  · exact fun _ _ => ⟨evs, rfl, fun ha => by simpa using hserved ha⟩
  cases ev with
  | processed m =>
    refine stWp_weaken (hnext hlt m _ _ _ he₁) fun r _ l' _ h => ?_
    obtain ⟨evs', rfl, hreach⟩ := h
    exact ⟨evs ++ evs', by simp, fun ha => hreach (answered_append.1 ha).2⟩
  | idle | stalled | shutdown => exact fun _ _ => ⟨evs, rfl, fun ha => by simpa using hserved ha⟩

/-- **A loop whose every wait is answered reaches its count.** -/
theorem runLoop_answered (n room processed failed : Nat) (msgs : Array ProcessedMessage)
    (hn : processed + room = n) (hp : processed = msgs.size) (hf : failed = failedCount msgs)
    (he : e.Serving) :
    stWp eventSide (runLoop (some n) room processed failed msgs) e
      (fun r _ l' _ => ReachesCount n l r l') l w :=
  runLoop_of_turn n (fun e _ _ => e.Serving) (fun l r _ l' _ => ReachesCount n l r l')
    (fun _ _ msgs _ _ _ _ hp hf hle hnext he => loopTurn_answered n _ _ msgs hp hf hle hnext he)
    room processed failed msgs hn hp hf he

end GuestEndpoint

/-- **Host and guest agree on the message count.**  For every selection of
tests and every channel capacity, the count the guest expects is defined and
every run of the host's tests that ends well sends exactly that many messages.
A guest serving `n` messages, whatever the host does, handles at most `n`,
counts them and their failures in its summary, and reports the count reached
exactly when it handled `n`.  And a guest between messages whose every wait
during the loop is answered handles exactly `n` and reports the count
reached: the loop stops short only when a wait gives up or meets the flag. -/
theorem message_counts_agree :
    (∀ (m : Cli.ModeArgs) (capacity : Nat), ∃ n, m.plan.expectedMessages capacity = .ok n ∧
      ∀ (s : Cli.Sender) (dir : String),
        Cli.CommandM.Yields (Cli.runTests s m.plan capacity dir) fun r => r.2.sent = s.sent + n) ∧
    (∀ (p : Window) (n : Nat) (e : GuestEndpoint) (k : GuestGhost) (w : World), e.Synced p k w →
      stWp (guestSide p) (GuestEndpoint.run (some n)) e
        (fun r e' k' w' => e'.Synced p k' w' ∧ LoopEnd n r.1 r.2) k w) ∧
    (∀ (n : Nat) (e : GuestEndpoint) (l : List Event) (w : World), e.Serving →
      stWp eventSide (GuestEndpoint.run (some n)) e (fun r _ l' _ => ReachesCount n l r l') l w) := by
  refine ⟨fun m capacity => ?_, fun p n e k w hs => ?_, fun n e l w he => ?_⟩
  · exact ⟨_, Cli.TestPlan.expectedMessages_eq _ _, fun s dir => Cli.runTests_sent _ _ _ _⟩
  · exact GuestEndpoint.runLoop_counts n n 0 0 #[] (Nat.zero_add n) rfl rfl hs
  · exact GuestEndpoint.runLoop_answered n n 0 0 #[] (Nat.zero_add n) rfl rfl he

/-- **Two messages, counted on both sides.**  Once the host has initialized
and the guest attached, a guest running for two messages serves the host's
two sends and reports the count reached after both; the theorem applies to
the guest the attach left. -/
theorem message_counts_agree_two_messages :
    ∃ s₀, Session.start {} = .ok s₀ ∧
      ∃ s, s = (s₀.play { host := some [.act .prepare], guest := some [.act .attach] }).1 ∧
        s.guest.Synced .primary s.guestGhost s.world ∧ s.guest.Serving ∧
        (∃ r ms, (s.play
            { host := some [.act (.send 1 ⟨#[1]⟩ none), .act (.send 2 ⟨#[2]⟩ none)]
              guest := some [.act (.run (some 2))] }).2.guest = some r ∧
          r.results.toList = [.ran ms (.ok (.ok ⟨2, 0, .countReached⟩))] ∧ ms.size = 2) ∧
        stWp (guestSide .primary) (GuestEndpoint.run (some 2)) s.guest
          (fun r e' k' w' => e'.Synced .primary k' w' ∧ LoopEnd 2 r.1 r.2) s.guestGhost s.world ∧
        stWp eventSide (GuestEndpoint.run (some 2)) s.guest
          (fun r _ l' _ => ReachesCount 2 [] r l') [] s.world := by
  refine Session.exists_of_start {} (fun s₀ =>
    let s := (s₀.play { host := some [.act .prepare], guest := some [.act .attach] }).1
    let ran := (s.play
      { host := some [.act (.send 1 ⟨#[1]⟩ none), .act (.send 2 ⟨#[2]⟩ none)]
        guest := some [.act (.run (some 2))] }).2.guest
    s.guest.window == .primary && s.guest.state == .ready &&
      s.world.guestState.getD .uninitialized == s.guest.state &&
      ((ran.bind (·.single?)).bind GuestResult.summary?).any
        (fun x => x.1.size == 2 && x.2 == ⟨2, 0, .countReached⟩)) (by decide +kernel) ?_
  intro s₀ _ hp
  -- naming the prepared session keeps unification from evaluating the step
  generalize (s₀.play { host := some [.act .prepare], guest := some [.act .attach] }).1 = s at hp ⊢
  simp only [Option.any_eq_true, Option.bind_eq_some_iff, ScriptResult.single?_eq_some,
    GuestResult.summary?_eq_some, Bool.and_eq_true, beq_iff_eq] at hp
  obtain ⟨⟨⟨hwin, hready⟩, hword⟩, ⟨ms, g⟩, ⟨_, ⟨r, hr, hres⟩, rfl⟩, hsize, rfl⟩ := hp
  exact ⟨s, rfl, ⟨hwin, rfl, hword⟩, .inl hready, ⟨r, ms, hr, hres, hsize⟩,
    message_counts_agree.2.1 _ _ _ _ _ ⟨hwin, rfl, hword⟩,
    message_counts_agree.2.2 _ _ _ _ (.inl hready)⟩

end ShmBench

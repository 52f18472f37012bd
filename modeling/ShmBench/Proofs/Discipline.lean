import ShmBench.Proofs.RelyGuarantee

/-!
# What each side may write

The host owns the host state word, the magic word, the test-complete flag, the
message header and the payload; the guest owns the guest state word and the
result fields.  Every write of a side is one of a few kinds (`HostUpdate`,
`GuestUpdate`), and a step of a side (`HostStep`, `GuestStep`) is one write of
its kind, made through the channel's window under the side's thread name.
What one side relies on is proved once here from those lists: a guest step
leaves everything the host owns as it was (`GuestStep.hostOwned`), a host step
leaves the guest state word alone (`HostStep.guestState_eq`), and a step of
either side only appends to a trace, entries of its own field
(`HostStep.appends`, `GuestStep.appends`).

Each side also keeps a *discipline*, a machine over a ghost state that its
events follow (`HostMove`, `GuestMove`).  Both publish only the moves their
state machine allows, and both remember the states they published.  The host
publishes `SENDING` only while the test-complete flag is clear.  The guest
publishes `READY` only after a wait of its own saw the host `READY`, and
`PROCESSING` only after one saw the host `SENDING`, with no write of its own in
between, and never `UNINITIALIZED` (`GuestState.Licensed`).  The two sides fit
(`sides_fit`): every write of one is a step the other relies on.
-/

namespace ShmBench

/-! ## The world operations, field by field -/

namespace World

variable (w : World) (p q : Window) (l : String)

@[simp] theorem stamp_header : (w.stamp l).header = w.header := rfl
@[simp] theorem stamp_payload : (w.stamp l).mem.payload = w.mem.payload := rfl
@[simp] theorem stamp_thread : (w.stamp l).thread = l := rfl
@[simp] theorem stamp_channel : (w.stamp l).channel q = w.channel q := by cases q <;> rfl

@[simp] theorem modifyHeader_header (f : Header → Header) :
    (w.modifyHeader f).header = f w.header := rfl
@[simp] theorem modifyHeader_payload (f : Header → Header) :
    (w.modifyHeader f).mem.payload = w.mem.payload := rfl
@[simp] theorem modifyHeader_thread (f : Header → Header) :
    (w.modifyHeader f).thread = w.thread := rfl
@[simp] theorem modifyHeader_channel (f : Header → Header) :
    (w.modifyHeader f).channel q = w.channel q := by cases q <;> rfl

@[simp] theorem modifyChannel_header (f : Channel → Channel) :
    (w.modifyChannel p f).header = w.header := by cases p <;> rfl
@[simp] theorem modifyChannel_payload (f : Channel → Channel) :
    (w.modifyChannel p f).mem.payload = w.mem.payload := by cases p <;> rfl
@[simp] theorem modifyChannel_thread (f : Channel → Channel) :
    (w.modifyChannel p f).thread = w.thread := by cases p <;> rfl
@[simp] theorem modifyChannel_channel (f : Channel → Channel) :
    (w.modifyChannel p f).channel q = if q = p then f (w.channel q) else w.channel q := by
  cases p <;> cases q <;> rfl

variable (s : HostState) (g : GuestState)

@[simp] theorem publishHost_header :
    (w.publishHost p s).header = { w.header with hostState := s.toRaw } := by
  simp [publishHost]
@[simp] theorem publishHost_payload : (w.publishHost p s).mem.payload = w.mem.payload := by
  simp [publishHost]
@[simp] theorem publishHost_channel :
    (w.publishHost p s).channel q = if q = p then
      (w.channel q).record ⟨.host, w.header.hostState, s.toRaw, w.thread⟩ else w.channel q := by
  simp [publishHost]

@[simp] theorem publishGuest_header :
    (w.publishGuest p g).header = { w.header with guestState := g.toRaw } := by
  simp [publishGuest]
@[simp] theorem publishGuest_payload : (w.publishGuest p g).mem.payload = w.mem.payload := by
  simp [publishGuest]
@[simp] theorem publishGuest_channel :
    (w.publishGuest p g).channel q = if q = p then
      (w.channel q).record ⟨.guest, w.header.guestState, g.toRaw, w.thread⟩ else w.channel q := by
  simp [publishGuest]

variable (v : UInt32) (b : Bool) (bytes : ByteArray)

@[simp] theorem setMagic_header : (w.setMagic v).header = { w.header with magic := v } := rfl
@[simp] theorem setComplete_header :
    (w.setComplete b).header = { w.header with complete := if b then 1 else 0 } := rfl
@[simp] theorem resetHeader_header : w.resetHeader.header = w.header.reset := rfl
@[simp] theorem clearResults_header :
    w.clearResults.header = { w.header with errorCode := 0, timing := {} } := rfl
@[simp] theorem writeMessageHeader_header (sequence dataSize : UInt32) (digest : Digest) :
    (w.writeMessageHeader sequence dataSize digest).header =
      { w.header with sequence, dataSize, digestWords := digest.toWords } := rfl
@[simp] theorem writeResults_header (timing : TimingWire) (code : ResultCode) :
    (w.writeResults timing code).header = { w.header with timing, errorCode := code.toRaw } := rfl
@[simp] theorem writePayload_header : (w.writePayload bytes).header = w.header := by
  unfold writePayload header SharedMemory.write; split <;> rfl
@[simp] theorem writePayload_channel : (w.writePayload bytes).channel q = w.channel q := by
  cases q <;> rfl

end World

@[simp] theorem Channel.record_region (c : Channel) (x : StateWrite) :
    (c.record x).region = c.region := by
  unfold Channel.record; split <;> rfl

@[simp] theorem Channel.record_tracing (c : Channel) (x : StateWrite) :
    (c.record x).tracing = c.tracing := by
  unfold Channel.record; split <;> rfl

theorem Channel.record_trace (c : Channel) (x : StateWrite) :
    (c.record x).trace.toList = c.trace.toList ++ if c.tracing then [x] else [] := by
  unfold Channel.record; split <;> simp_all

/-- Distinct host states have distinct words. -/
@[simp] theorem HostState.toRaw_inj {s t : HostState} : s.toRaw = t.toRaw ↔ s = t :=
  ⟨fun h => by simpa [HostState.ofRaw_toRaw] using congrArg HostState.ofRaw h, congrArg _⟩

/-- Distinct guest states have distinct words. -/
@[simp] theorem GuestState.toRaw_inj {s t : GuestState} : s.toRaw = t.toRaw ↔ s = t :=
  ⟨fun h => by simpa [GuestState.ofRaw_toRaw] using congrArg GuestState.ofRaw h, congrArg _⟩

/-- A word that reads as a host state is that state's word. -/
theorem HostState.toRaw_of_ofRaw {r : UInt32} {s : HostState} (h : HostState.ofRaw r = some s) :
    s.toRaw = r := by
  unfold HostState.ofRaw at h
  repeat' split at h
  all_goals first | (cases h; subst_vars; rfl) | cases h

/-- A word that reads as a guest state is that state's word. -/
theorem GuestState.toRaw_of_ofRaw {r : UInt32} {s : GuestState} (h : GuestState.ofRaw r = some s) :
    s.toRaw = r := by
  unfold GuestState.ofRaw at h
  repeat' split at h
  all_goals first | (cases h; subst_vars; rfl) | cases h

/-- Publishing a host state records it on the window's trace, if tracing. -/
theorem World.publishHost_trace (w : World) (p : Window) (s : HostState) :
    ((w.publishHost p s).channel p).trace.toList = (w.channel p).trace.toList ++
      if (w.channel p).tracing then [⟨.host, w.header.hostState, s.toRaw, w.thread⟩] else [] := by
  simp [Channel.record_trace]

/-- Publishing a guest state records it on the window's trace, if tracing. -/
theorem World.publishGuest_trace (w : World) (p : Window) (g : GuestState) :
    ((w.publishGuest p g).channel p).trace.toList = (w.channel p).trace.toList ++
      if (w.channel p).tracing then [⟨.guest, w.header.guestState, g.toRaw, w.thread⟩] else [] := by
  simp [Channel.record_trace]

@[simp] theorem World.publishHost_tracing (w : World) (p q : Window) (s : HostState) :
    ((w.publishHost p s).channel q).tracing = (w.channel q).tracing := by
  simp [apply_ite]

@[simp] theorem World.publishGuest_tracing (w : World) (p q : Window) (g : GuestState) :
    ((w.publishGuest p g).channel q).tracing = (w.channel q).tracing := by
  simp [apply_ite]

@[simp] theorem World.writeResults_channel (w : World) (q : Window) (timing : TimingWire)
    (code : ResultCode) : (w.writeResults timing code).channel q = w.channel q := by
  cases q <;> rfl

/-! ## The writes of each side -/

/-- **A write of the host.** -/
inductive HostUpdate where
  | magic (v : UInt32)
  | publish (s : HostState)
  | reset
  | clearResults
  | payload (bytes : ByteArray)
  | message (sequence dataSize : UInt32) (digest : Digest)
  | complete (b : Bool)

/-- The world after a host write made through window `p`. -/
def HostUpdate.apply (p : Window) : HostUpdate → World → World
  | .magic v, w => w.setMagic v
  | .publish s, w => w.publishHost p s
  | .reset, w => w.resetHeader
  | .clearResults, w => w.clearResults
  | .payload bytes, w => w.writePayload bytes
  | .message sequence dataSize digest, w => w.writeMessageHeader sequence dataSize digest
  | .complete b, w => w.setComplete b

/-- Whether a host write publishes a state. -/
def HostUpdate.publishes : HostUpdate → Bool
  | .publish _ => true
  | _ => false

/-- A host write that publishes nothing leaves the host state word. -/
theorem HostUpdate.hostWord_apply {u : HostUpdate} (hu : u.publishes = false) (p : Window)
    (w : World) : (u.apply p w).header.hostState = w.header.hostState := by
  cases u <;> simp_all [HostUpdate.publishes, HostUpdate.apply, Header.reset]

/-- A host write that publishes nothing leaves every mapping, and its trace, alone. -/
theorem HostUpdate.channel_apply {u : HostUpdate} (hu : u.publishes = false) (p q : Window)
    (w : World) : (u.apply p w).channel q = w.channel q := by
  cases u <;> cases q <;> first | rfl | simp [HostUpdate.publishes] at hu

/-- **A write of the guest.** -/
inductive GuestUpdate where
  | publish (s : GuestState)
  | results (timing : TimingWire) (code : ResultCode)

/-- The world after a guest write made through window `p`. -/
def GuestUpdate.apply (p : Window) : GuestUpdate → World → World
  | .publish s, w => w.publishGuest p s
  | .results timing code, w => w.writeResults timing code

/-- **A step of the host**: one host write through window `p`, as `main`. -/
def HostStep (p : Window) (w w' : World) : Prop :=
  ∃ u : HostUpdate, w' = u.apply p (w.stamp "main")

/-- **A step of the guest**: one guest write through window `p`, as `worker`. -/
def GuestStep (p : Window) (w w' : World) : Prop :=
  ∃ u : GuestUpdate, w' = u.apply p (w.stamp "worker")

/-! ## What a step of one side leaves to the other -/

/-- **What the host owns is unchanged** from `w` to `w'`: its state word, the
magic word, the flag, the message header, the payload, and each mapping's
region and tracing switch. -/
structure HostOwned (w w' : World) : Prop where
  hostState : w'.header.hostState = w.header.hostState
  magic : w'.header.magic = w.header.magic
  complete : w'.header.complete = w.header.complete
  sequence : w'.header.sequence = w.header.sequence
  dataSize : w'.header.dataSize = w.header.dataSize
  digest : w'.header.digestWords = w.header.digestWords
  payload : w'.mem.payload = w.mem.payload
  region : ∀ q, (w'.channel q).region = (w.channel q).region
  tracing : ∀ q, (w'.channel q).tracing = (w.channel q).tracing

theorem HostOwned.refl (w : World) : HostOwned w w :=
  ⟨rfl, rfl, rfl, rfl, rfl, rfl, rfl, fun _ => rfl, fun _ => rfl⟩

theorem HostOwned.trans {w w' w'' : World} (h : HostOwned w w') (h' : HostOwned w' w'') :
    HostOwned w w'' :=
  ⟨h'.1.trans h.1, h'.2.trans h.2, h'.3.trans h.3, h'.4.trans h.4, h'.5.trans h.5,
    h'.6.trans h.6, h'.7.trans h.7, fun q => (h'.8 q).trans (h.8 q),
    fun q => (h'.9 q).trans (h.9 q)⟩

theorem GuestStep.hostOwned {p : Window} {w w' : World} (h : GuestStep p w w') :
    HostOwned w w' := by
  obtain ⟨u, rfl⟩ := h
  cases u with
  | publish s =>
    refine ⟨?_, ?_, ?_, ?_, ?_, ?_, ?_, fun q => ?_, fun q => ?_⟩ <;>
      simp [GuestUpdate.apply, apply_ite]
  | results timing code =>
    exact ⟨rfl, rfl, rfl, rfl, rfl, rfl, rfl, fun q => by cases q <;> rfl,
      fun q => by cases q <;> rfl⟩

theorem HostStep.guestState_eq {p : Window} {w w' : World} (h : HostStep p w w') :
    w'.header.guestState = w.header.guestState := by
  obtain ⟨u, rfl⟩ := h
  cases u <;> simp [HostUpdate.apply, Header.reset]

/-- A step only appends to a trace, entries of field `f`; region and tracing
switch stay. -/
def Appends (f : StateField) (w w' : World) : Prop :=
  ∀ q, (w'.channel q).region = (w.channel q).region ∧
    (w'.channel q).tracing = (w.channel q).tracing ∧
    ∃ l, (w'.channel q).trace.toList = (w.channel q).trace.toList ++ l ∧ ∀ x ∈ l, x.field = f

theorem Appends.refl (f : StateField) (w : World) : Appends f w w :=
  fun _ => ⟨rfl, rfl, [], by simp, by simp⟩

theorem Appends.trans {f : StateField} {w w' w'' : World} (h : Appends f w w')
    (h' : Appends f w' w'') : Appends f w w'' := by
  intro q
  obtain ⟨hr, ht, l, hl, hf⟩ := h q
  obtain ⟨hr', ht', l', hl', hf'⟩ := h' q
  refine ⟨hr'.trans hr, ht'.trans ht, l ++ l', by rw [hl', hl, List.append_assoc], ?_⟩
  intro x hx
  rcases List.mem_append.1 hx with hx | hx
  · exact hf x hx
  · exact hf' x hx

/-- A channel that is not written keeps its trace. -/
theorem appends_of_channel_eq {f : StateField} {w w' : World}
    (h : ∀ q, w'.channel q = w.channel q) : Appends f w w' :=
  fun q => by rw [h q]; exact Appends.refl f w q

/-- Recording an entry of field `f` appends it. -/
theorem appends_of_record {f : StateField} {w w' : World} {p : Window} {x : StateWrite}
    (hx : x.field = f)
    (h : ∀ q, w'.channel q = if q = p then (w.channel q).record x else w.channel q) :
    Appends f w w' := by
  intro q
  rw [h q]
  split
  · refine ⟨by simp, by simp, if (w.channel q).tracing then [x] else [],
      Channel.record_trace _ _, fun y hy => ?_⟩
    split at hy <;> simp_all
  · exact Appends.refl f w q

theorem HostStep.appends {p : Window} {w w' : World} (h : HostStep p w w') :
    Appends .host w w' := by
  obtain ⟨u, rfl⟩ := h
  cases u with
  | publish s => exact appends_of_record rfl fun q => World.publishHost_channel _ _ _ _
  | _ => exact appends_of_channel_eq fun q => by cases q <;> rfl

theorem GuestStep.appends {p : Window} {w w' : World} (h : GuestStep p w w') :
    Appends .guest w w' := by
  obtain ⟨u, rfl⟩ := h
  cases u with
  | publish s => exact appends_of_record rfl fun q => World.publishGuest_channel _ _ _ _
  | results timing code => exact appends_of_channel_eq fun q => by cases q <;> rfl

/-! ## The disciplines -/

/-- **What the host remembers**: the state it holds and the states it
published, in order. -/
structure HostGhost where
  state : HostState
  log : List HostState

/-- **The host's discipline**: a publish is a move of the host machine, and
`SENDING` is published only while the run is not complete; any other write
leaves the ghost alone, and so does the end of a wait. -/
inductive HostMove (p : Window) : HostGhost → Interleaving.Event → HostGhost → Prop
  | publish (k : HostGhost) (w : World) (s : HostState) (h : k.state.canTransition s = true)
      (hs : s = .sending → w.header.isComplete = false) :
    HostMove p k (.write w ((w.stamp "main").publishHost p s)) ⟨s, k.log ++ [s]⟩
  | write (k : HostGhost) (w : World) (u : HostUpdate) (h : u.publishes = false) :
    HostMove p k (.write w (u.apply p (w.stamp "main"))) k
  | observe (k : HostGhost) (o : PollOutcome) (w : World) : HostMove p k (.observe o w) k

/-- **What the guest remembers**: the state it holds, the states it published,
and the world its last wait that ended `ready` saw, unless it wrote since. -/
structure GuestGhost where
  state : GuestState
  log : List GuestState
  seen : Option World

/-- What the guest must have seen before publishing a state: the host `READY`
before `READY`, the host `SENDING` before `PROCESSING`.  No guest operation
publishes `UNINITIALIZED`. -/
def GuestState.Licensed : GuestState → Option World → Prop
  | .ready, seen => ∃ v, seen = some v ∧ v.hostState = some .ready
  | .processing, seen => ∃ v, seen = some v ∧ v.hostState = some .sending
  | .uninitialized, _ => False
  | _, _ => True

/-- **The guest's discipline**: a publish is a licensed move of the guest
machine and forgets what was seen; results are written while `PROCESSING`; a
wait that ends `ready` remembers the world it saw. -/
inductive GuestMove (p : Window) : GuestGhost → Interleaving.Event → GuestGhost → Prop
  | publish (k : GuestGhost) (w : World) (s : GuestState) (h : k.state.canTransition s = true)
      (hs : s.Licensed k.seen) :
    GuestMove p k (.write w ((w.stamp "worker").publishGuest p s)) ⟨s, k.log ++ [s], none⟩
  | results (k : GuestGhost) (w : World) (timing : TimingWire) (code : ResultCode)
      (h : k.state = .processing) :
    GuestMove p k (.write w ((w.stamp "worker").writeResults timing code)) k
  | ready (k : GuestGhost) (w : World) : GuestMove p k (.observe .ready w) { k with seen := some w }
  | timedOut (k : GuestGhost) (n : Nat) (w : World) : GuestMove p k (.observe (.timedOut n) w) k
  | shutdown (k : GuestGhost) (w : World) : GuestMove p k (.observe .shutdown w) k

open Interleaving

/-- The host judged on its own: it runs as `main`, keeps its discipline, and
relies on guest steps. -/
def hostSide (p : Window) : Side HostGhost := ⟨"main", HostMove p, GuestStep p⟩

/-- The guest judged on its own: it runs as `worker`, keeps its discipline, and
relies on host steps. -/
def guestSide (p : Window) : Side GuestGhost := ⟨"worker", GuestMove p, HostStep p⟩

/-- **The two sides fit**: each write of one is a step the other relies on. -/
theorem sides_fit (p : Window) : Fits (hostSide p) (guestSide p) where
  host_label := rfl
  guest_label := rfl
  host_write := by
    intro kh kh' w w' h
    cases h with
    | publish _ s _ _ => exact ⟨.publish s, rfl⟩
    | write _ u _ => exact ⟨u, rfl⟩
  guest_write := by
    intro kg kg' w w' h
    cases h with
    | publish _ s _ _ => exact ⟨.publish s, rfl⟩
    | results _ timing code _ => exact ⟨.results timing code, rfl⟩

end ShmBench

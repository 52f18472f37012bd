import ShmBench.Protocol.Program
import ShmBench.Protocol.Report
import ShmBench.Counter.Source
import ShmBench.Error
import ShmBench.Bench.Harness

/-!
# The host endpoint

The host owns the host state word.  `prepare` (initialization) closes the channel (magic
zero), moves to `INITIALIZING`, clears the header, reopens the channel and
moves to `READY`.  `send` carries one message through three waits:

1. until the guest is idle (not `PROCESSING` or `ACKNOWLEDGED`);
2. after the payload and its header are written and the host is `SENDING`,
   until the guest picks the message up;
3. until the guest acknowledges it.

A wait that times out ends the send with a `timedOut` report, after moving
back to `READY` if the host was `SENDING`.  After an acknowledgement the host
reads the guest's results, moves to `READY`, and waits for the guest to return
to `READY` (the message is then *released*).  A complete run (the
test-complete flag) ends every wait with a `Shutdown` error.

Every state change is checked against the host machine
(`HostState.canTransition`); a forbidden one is an error and leaves the state
as it was.
-/

namespace ShmBench

/-- **Host timing settings**, in nanoseconds. -/
structure HostConfig where
  pollIntervalNs : Nat := 10000
  guestReadyTimeoutNs : Nat := 10000000000
  processingTimeoutNs : Nat := 2000000000
  ackTimeoutNs : Nat := 10000000000
  releaseTimeoutNs : Nat := 1000000000
  overhead : OverheadFormula := .guestTotal
  deriving DecidableEq, Repr, Inhabited

/-- **The host endpoint**: its window, settings, state and counters. -/
structure HostEndpoint where
  window : Window
  config : HostConfig
  state : HostState
  counters : CounterSource
  deriving Inhabited

/-- Host operations: programs that change the endpoint and may fail. -/
abbrev HostM := ExceptT ProtocolError (StateT HostEndpoint Program)

namespace HostEndpoint

/-- **A new host endpoint**; its state is the one the channel holds, or
`UNINITIALIZED` when the word is no state. -/
def new (w : World) (window : Window) (config : HostConfig) (counters : CounterSource) : HostEndpoint :=
  ⟨window, config, (w.hostState).getD .uninitialized, counters⟩

/-- Look at the world. -/
def look : HostM World := liftM Program.look

/-- Change the world. -/
def change (f : World → World) : HostM Unit := liftM (Program.change f)

/-- Compute for a while. -/
def spend (ns : Nat) : HostM Unit := liftM (Program.spend ns)

/-- The thread's clock. -/
def now : HostM Nat := liftM Program.now

/-- Wait as `p` says. -/
def await (p : Poll) : HostM PollOutcome := liftM (Program.await p)

/-- **Move to `target`**, publishing it, if the machine allows. -/
def transition (target : HostState) : HostM Unit := do
  let e ← get
  if !e.state.canTransition target then
    throw (.transition (.invalid "host" e.state.name target.name))
  change (·.publishHost e.window target)
  set { e with state := target }

/-- **Initialize the channel** and become `READY`. -/
def prepare : HostM Unit := do
  spend Cost.step
  change (·.setMagic 0)
  transition .initializing
  change World.resetHeader
  change (·.setMagic channelMagic)
  transition .ready

/-- A wait of the host's poll interval. -/
def pollFor (timeoutNs : Nat) (ready : World → Bool) : HostM PollOutcome := do
  let e ← get
  await { intervalNs := e.config.pollIntervalNs, timeoutNs, ready }

/-- **Wait until the guest is `READY`**; false when it is not in time. -/
def waitForGuest : HostM Bool := do
  let e ← get
  let o ← pollFor e.config.guestReadyTimeoutNs (·.guestState == some .ready)
  pure o.isReady

/-- Whether the guest holds a message. -/
def guestBusy (w : World) : Bool :=
  w.guestState == some .processing || w.guestState == some .acknowledged

/-- The report of a wait that timed out after `waitedNs`. -/
def timedOut (r : MessageReport) (stage : WaitStage) (waitedNs : Nat) : MessageReport :=
  { r with outcome := .timedOut stage (waitedNs / 1000000).toUInt64 }

/-- Whether the guest returns to `READY` in time. -/
def waitForRelease : HostM Bool := do
  let e ← get
  let o ← pollFor e.config.releaseTimeoutNs (·.guestState == some .ready)
  pure o.isReady

/-- **A change made to the written payload after its digest is taken**: any
change of the payload's bytes that keeps its length. -/
structure Corruption where
  apply : ByteArray → ByteArray
  size_apply : ∀ b, (apply b).size = b.size

/-- The change that combines byte `offset` with `mask` by exclusive-or. -/
def Corruption.flip (offset : Nat) (mask : UInt8) : Corruption where
  apply b := b.set! offset (b.get! offset ^^^ mask)
  size_apply b := by simp

/-- **Fill the channel with a message**: clear the guest's results, copy the
payload in (counting the host's events around the copy), change the bytes
written as `corrupt` says, and write the message header.  The report gets the
digest, the host's counters and the write time. -/
def fill (report : MessageReport) (payload : ByteArray) (digest : Digest) (corrupt : Option Corruption) :
    HostM MessageReport := do
  change World.clearResults
  spend (Cost.hash payload.size)
  modify fun e => { e with counters := e.counters.start }
  spend Cost.counters
  spend (Cost.copy payload.size)
  change (·.writePayload payload)
  let e ← get
  let (hostCounters, counters) := e.counters.stop payload.size.toUInt64
  set { e with counters }
  spend Cost.counters
  if let some c := corrupt then change fun w => w.writePayload (c.apply (w.readPayload payload.size))
  change (·.writeMessageHeader report.sequence payload.size.toUInt32 digest)
  pure { report with digest, hostCounters, writeNs := (max (Cost.copy payload.size) 1).toUInt64 }

/-- **Publish the filled message and see it through**: become `SENDING`, wait
for the pickup and the acknowledgement (withdrawing to `READY` when either
wait times out), read the guest's results, become `READY`, and wait for the
release. -/
def deliver (report : MessageReport) : HostM MessageReport := do
  let e ← get
  let start ← now
  transition .sending
  match ← pollFor e.config.processingTimeoutNs guestBusy with
  | .timedOut waited =>
    transition .ready
    return timedOut report .processing waited
  | .shutdown => throw .shutdown
  | .ready => pure ()
  match ← pollFor e.config.ackTimeoutNs (·.guestState == some .acknowledged) with
  | .timedOut waited =>
    transition .ready
    return timedOut report .acknowledged waited
  | .shutdown => throw .shutdown
  | .ready => pure ()
  let roundtrip := (max ((← now) - start) 1).toUInt64
  let w ← look
  let error := ResultCode.ofRaw w.header.errorCode
  let guest := Fixed.decodeTiming w.header.timing
  transition .ready
  let released ← waitForRelease
  let notificationNs :=
    e.config.overhead.notification roundtrip guest.phases.totalNs guest.phases.verifyNs
  let outcome := if error.isError then .guestError error else .delivered
  pure { report with roundtripNs := roundtrip, guest, released, notificationNs, outcome }

/-- **Send one message whose digest is known**, changing the written payload
as `corrupt` says after the digest is taken. -/
def sendSealed (sequence : UInt32) (payload : ByteArray) (digest : Digest) (corrupt : Option Corruption) :
    HostM MessageReport := do
  let e ← get
  if e.state != .ready then throw (.hostNotReady e.state.name)
  let w ← look
  let capacity := w.capacity e.window
  if payload.size ≥ 4294967296 || payload.size > capacity then
    throw (.payloadTooLarge payload.size capacity)
  let report : MessageReport :=
    { sequence, kind := MessageKind.classify sequence, dataSize := payload.size.toUInt64,
      digest := Digest.zero, writeNs := 0, roundtripNs := 0, notificationNs := 0, guest := {},
      hostCounters := CounterReport.zeroed, outcome := .delivered, released := false }
  spend Cost.step
  match ← pollFor e.config.processingTimeoutNs (fun w => !guestBusy w) with
  | .timedOut waited => return timedOut report .guestIdle waited
  | .shutdown => throw .shutdown
  | .ready => pure ()
  deliver (← fill report payload digest corrupt)

/-- **Send one message**, its digest taken of the payload, changing the
written payload as `corrupt` says after the digest is taken. -/
def sendWith (sequence : UInt32) (payload : ByteArray) (corrupt : Option Corruption) :
    HostM MessageReport :=
  sendSealed sequence payload (Digest.ofPayload payload) corrupt

/-- **Mark the run complete** and become `COMPLETED`. -/
def shutdown : HostM Unit := do
  spend Cost.step
  change (·.setComplete true)
  transition .completed

end HostEndpoint
end ShmBench

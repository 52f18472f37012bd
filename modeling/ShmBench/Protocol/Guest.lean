import ShmBench.Protocol.Program
import ShmBench.Protocol.Report
import ShmBench.Pipeline
import ShmBench.Error
import ShmBench.Bench.Harness
import ShmBench.Fault

/-!
# The guest endpoint

The guest owns the guest state word.  `attach` moves to `WAITING_HOST_INIT`
and waits, ignoring the test-complete flag, until the channel is open and the
host is `READY`; it then becomes `READY`.  A guest that waits too long reports
a handshake timeout with the magic word and host state it last saw.

`serveNext` handles one message: after releasing a message still
acknowledged, it waits for the host to be `SENDING`, moves to `PROCESSING`,
runs the payload through the measurement pipeline (or reports
`PayloadTooLarge` when the announced size exceeds its mapping), writes its
results, moves to `ACKNOWLEDGED`, and waits for the host to return to `READY`,
when it becomes `READY` itself.  Waits that time out or see the run complete
become `idle`, `stalled` or `shutdown` events.

`run` serves messages until a count is reached or a step brings no message;
its count of processed messages is a machine word, which aborts when it
overflows.
-/

namespace ShmBench

/-- **Guest timing settings**, in nanoseconds. -/
structure GuestConfig where
  pollIntervalNs : Nat := 10000
  attachIntervalNs : Nat := 10000000
  attachTimeoutNs : Nat := 50000000000
  idleTimeoutNs : Nat := 60000000000
  releaseTimeoutNs : Nat := 10000000000
  deriving DecidableEq, Repr, Inhabited

/-- **The guest endpoint**: its window, settings, state and pipeline. -/
structure GuestEndpoint where
  window : Window
  config : GuestConfig
  state : GuestState
  pipeline : MeasurementPipeline
  deriving Inhabited

/-- Guest operations: programs that change the endpoint and may fail. -/
abbrev GuestM := ExceptT ProtocolError (StateT GuestEndpoint Program)

namespace GuestEndpoint

/-- **A new guest endpoint**; its state is the one the channel holds, or
`UNINITIALIZED` when the word is no state. -/
def new (w : World) (window : Window) (config : GuestConfig) (pipeline : MeasurementPipeline) :
    GuestEndpoint :=
  ⟨window, config, (w.guestState).getD .uninitialized, pipeline⟩

/-- Look at the world. -/
def look : GuestM World := liftM Program.look

/-- Change the world. -/
def change (f : World → World) : GuestM Unit := liftM (Program.change f)

/-- Compute for a while. -/
def spend (ns : Nat) : GuestM Unit := liftM (Program.spend ns)

/-- The thread's clock. -/
def now : GuestM Nat := liftM Program.now

/-- Wait as `p` says. -/
def await (p : Poll) : GuestM PollOutcome := liftM (Program.await p)

/-- **Move to `target`**, publishing it, if the machine allows. -/
def transition (target : GuestState) : GuestM Unit := do
  let e ← get
  if !e.state.canTransition target then
    throw (.transition (.invalid "guest" e.state.name target.name))
  change (·.publishGuest e.window target)
  set { e with state := target }

/-- **Attach to the host**: wait for an open channel and a `READY` host. -/
def attach : GuestM Unit := do
  spend Cost.step
  transition .waitingHostInit
  let e ← get
  let o ← await { intervalNs := e.config.attachIntervalNs, timeoutNs := e.config.attachTimeoutNs,
                  honorShutdown := false,
                  ready := fun w => w.header.isOpen && w.hostState == some .ready }
  match o with
  | .timedOut waited =>
    let w ← look
    throw (.handshakeTimeout (waited / 1000000) w.header.magic w.hostStateName)
  | .shutdown => throw .shutdown
  | .ready => transition .ready

/-- Wait for the host to be `READY` and follow it there. -/
def awaitRelease : GuestM PollOutcome := do
  let e ← get
  let o ← await { intervalNs := e.config.pollIntervalNs, timeoutNs := e.config.releaseTimeoutNs,
                  ready := (·.hostState == some .ready) }
  if o.isReady then transition .ready
  pure o

/-- **Measure the announced payload** of the message `w` holds: run it
through the pipeline, or report `PayloadTooLarge` when the announced size
exceeds the mapping. -/
def measure (w : World) : GuestM (PhaseTimings × CounterReport × ResultCode × Option Verdict) := do
  let e ← get
  let dataSize := w.header.dataSize
  if dataSize.toNat > w.capacity e.window then
    pure (({} : PhaseTimings), CounterReport.zeroed, ResultCode.payloadTooLarge, none)
  else do
    let payload := w.readPayload dataSize.toNat
    let run := e.pipeline.run payload w.header.digest
    set { e with pipeline := run.2.1 }
    spend run.2.2
    pure (run.1.timings, run.1.counters, run.1.error, run.1.verdict)

/-- **Handle the published message**: become `PROCESSING`, measure the
payload, write the results, become `ACKNOWLEDGED`, and wait for the release. -/
def handle : GuestM ProcessedMessage := do
  let start ← now
  transition .processing
  let w ← look
  let (phases, counters, error, verdict) ← measure w
  let phases := { phases with totalNs := MeasurementPipeline.atLeastOne ((← now) - start) }
  let timing : GuestTiming := ⟨phases, counters⟩
  change (·.writeResults (Fixed.encodeTiming phases counters) error)
  transition .acknowledged
  let released := (← awaitRelease).isReady
  let sequence := w.header.sequence
  pure { sequence, kind := MessageKind.classify sequence, dataSize := w.header.dataSize, error,
         timing, verdict, released }

/-- Wait for the host to publish a message, and handle it. -/
def pickUp : GuestM GuestEvent := do
  let e ← get
  match ← await { intervalNs := e.config.pollIntervalNs, timeoutNs := e.config.idleTimeoutNs,
                  ready := (·.hostState == some .sending) } with
  | .timedOut _ => return .idle
  | .shutdown => return .shutdown
  | .ready => return .processed (← handle)

/-- **Serve one message**, or report why none came: a message still
acknowledged is released first. -/
def serveNext : GuestM GuestEvent := do
  spend Cost.step
  if (← get).state == .acknowledged then
    match ← awaitRelease with
    | .timedOut _ => return .stalled
    | .shutdown => return .shutdown
    | .ready => pure ()
  pickUp

/-- The largest count a machine word holds. -/
def wordMax : Nat := 18446744073709551615

/-- What a serving loop returns: the messages it handled, in order, and its
summary or error, unless it aborted. -/
abbrev LoopResult := Array ProcessedMessage × Checked (Except ProtocolError GuestSummary)

/-- **One turn of the serving loop**: stop when the count is reached, else
serve once and go on with `next` after a processed message; a step that
brings none ends the loop with its reason, and an error with the messages so
far. -/
def loopTurn (expected : Option Nat) (processed failed : Nat) (msgs : Array ProcessedMessage)
    (next : ProcessedMessage → StateT GuestEndpoint Program LoopResult) :
    StateT GuestEndpoint Program LoopResult := do
  if expected.any (processed ≥ ·) then
    return (msgs, .ok (.ok ⟨processed, failed, .countReached⟩))
  match ← serveNext.run with
  | .error err => pure (msgs, .ok (.error err))
  | .ok (.processed m) => next m
  | .ok .idle => pure (msgs, .ok (.ok ⟨processed, failed, .idle⟩))
  | .ok .stalled => pure (msgs, .ok (.ok ⟨processed, failed, .stalled⟩))
  | .ok .shutdown => pure (msgs, .ok (.ok ⟨processed, failed, .shutdown⟩))

/-- **The serving loop**; the messages are collected in order.  The count of
processed messages is a machine word with room for `room` more, so a message
processed when it is full aborts the loop with an overflow, before it is
collected. -/
def runLoop (expected : Option Nat) : Nat → Nat → Nat → Array ProcessedMessage →
    StateT GuestEndpoint Program LoopResult
  | 0, processed, failed, msgs =>
    loopTurn expected processed failed msgs fun _ => pure (msgs, .error (.overflow .add))
  | room + 1, processed, failed, msgs =>
    loopTurn expected processed failed msgs fun m =>
      runLoop expected room (processed + 1) (if m.success then failed else failed + 1) (msgs.push m)

/-- **Serve until `expected` messages are processed** or a step brings none.
A count of `n` stops the loop before the count passes `n`, so only a loop with
no count can fill the word. -/
def run (expected : Option Nat) : StateT GuestEndpoint Program LoopResult :=
  runLoop expected (expected.getD wordMax) 0 0 #[]

/-- Release the pipeline's counters. -/
def close (e : GuestEndpoint) : GuestEndpoint := { e with pipeline := e.pipeline.close }

end GuestEndpoint
end ShmBench

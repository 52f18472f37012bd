import ShmBench.Protocol.Host
import ShmBench.Protocol.Guest
import ShmBench.Protocol.Schedule

/-!
# Sessions: both endpoints on one region

A session builds a region, maps a channel for each side and makes both
endpoints, then plays a list of steps.  In each step either side may have a
script of actions:

* when only one side acts, it runs alone on the `main` thread;
* when both act, the guest runs on a `worker` thread started a little later,
  and the host on `main`; the host may first wait, up to two seconds, for the
  guest to reach a given state (`Step.hostAfterGuest`).

A script stops at its first item that could not be read (`Scripted.refused`);
the actions before it have run.  After each step the session reports both
endpoint states, the header, and the state writes made through each mapping
since the previous step.

With an anonymous region both sides share one mapping, so the guest's writes
appear on the host's trace.  With a named region the guest maps its own
(possibly shorter) view of the same memory, with its own trace.
-/

namespace ShmBench

/-- **A script item**: an action, or the reason an item could not be read. -/
inductive Scripted (α : Type) where
  | act (a : α)
  | refused (reason : String)

/-- **Host script actions.** -/
inductive HostAction where
  | renew (config : HostConfig) (counters : CounterSource)
  | prepare
  | waitForGuest
  | shutdown
  | state
  | send (sequence : UInt32) (payload : ByteArray) (corrupt : Option HostEndpoint.Corruption)

/-- **What a host action gives.** -/
inductive HostResult where
  | created (s : HostState)
  | done
  | failed (e : ProtocolError)
  | flag (b : Bool)
  | current (s : HostState)
  /-- A send's report, with the formula the host applied. -/
  | report (r : MessageReport) (formula : OverheadFormula)

/-- **Guest script actions.** -/
inductive GuestAction where
  | renew (config : GuestConfig) (pipeline : PipelineConfig) (counters : CounterSource)
  | attach
  | serve
  | run (expected : Option Nat)
  | close
  | state

/-- **What a guest action gives.** -/
inductive GuestResult where
  | created (s : GuestState)
  | done
  | failed (e : ProtocolError)
  | event (ev : GuestEvent)
  | ran (messages : Array ProcessedMessage) (summary : Checked (Except ProtocolError GuestSummary))
  | closed
  | current (s : GuestState)

/-- The result of an operation that gives nothing or an error. -/
def unitResult {ρ : Type} (done : ρ) (failed : ProtocolError → ρ) : Except ProtocolError Unit → ρ
  | .ok () => done
  | .error e => failed e

/-- **Perform a host action.** -/
def HostAction.perform : HostAction → StateT HostEndpoint Program HostResult
  | .renew config counters => do
    let e ← get
    let w ← liftM Program.look
    let e' := HostEndpoint.new w e.window config counters
    set e'
    pure (.created e'.state)
  | .prepare => do pure (unitResult .done .failed (← HostEndpoint.prepare.run))
  | .waitForGuest => do
    match ← HostEndpoint.waitForGuest.run with
    | .ok b => pure (.flag b)
    | .error e => pure (.failed e)
  | .shutdown => do pure (unitResult .done .failed (← HostEndpoint.shutdown.run))
  | .state => do pure (.current (← get).state)
  | .send sequence payload corrupt => do
    match ← (HostEndpoint.sendWith sequence payload corrupt).run with
    | .ok r => pure (.report r (← get).config.overhead)
    | .error e => pure (.failed e)

/-- **Perform a guest action.** -/
def GuestAction.perform : GuestAction → StateT GuestEndpoint Program GuestResult
  | .renew config pipeline counters => do
    let e ← get
    let w ← liftM Program.look
    let e' := GuestEndpoint.new w e.window config (MeasurementPipeline.new counters pipeline)
    set e'
    pure (.created e'.state)
  | .attach => do pure (unitResult .done .failed (← GuestEndpoint.attach.run))
  | .serve => do
    match ← GuestEndpoint.serveNext.run with
    | .ok ev => pure (.event ev)
    | .error e => pure (.failed e)
  | .run expected => do
    let (msgs, summary) ← GuestEndpoint.run expected
    pure (.ran msgs summary)
  | .close => do
    modify GuestEndpoint.close
    pure .closed
  | .state => do pure (.current (← get).state)

/-- **What one side's script gave**: its results, and the reason it stopped early. -/
structure ScriptResult (ρ : Type) where
  results : Array ρ
  refused : Option String

/-- Run script items in order, stopping at the first refused one. -/
def runScript {σ α ρ : Type} (perform : α → StateT σ Program ρ) :
    List (Scripted α) → Array ρ → StateT σ Program (ScriptResult ρ)
  | [], acc => pure ⟨acc, none⟩
  | .refused reason :: _, acc => pure ⟨acc, some reason⟩
  | .act a :: rest, acc => do
    let r ← perform a
    runScript perform rest (acc.push r)

/-- **One step of a session.** -/
structure Step where
  host : Option (List (Scripted HostAction)) := none
  guest : Option (List (Scripted GuestAction)) := none
  /-- The guest state the host waits for before acting, when both act. -/
  hostAfterGuest : Option GuestState := none

/-- **What one step shows.** -/
structure StepResult where
  host : Option (ScriptResult HostResult)
  guest : Option (ScriptResult GuestResult)
  hostState : HostState
  guestState : GuestState
  header : Header
  hostCapacity : Nat
  guestCapacity : Nat
  trace : List StateWrite
  guestTrace : List StateWrite
  /-- Whether the host's wait for the guest state failed. -/
  syncFailed : Bool

/-- **Everything a session needs.** -/
structure SessionSpec where
  regionSize : Nat := 65536
  /-- A named region, mapped separately by each side. -/
  named : Bool := false
  /-- The guest's mapping of a named region. -/
  guestRegionSize : Nat := 65536
  trace : Bool := true
  hostConfig : HostConfig := {}
  hostCounters : CounterSource := .null
  guestConfig : GuestConfig := {}
  pipelineConfig : PipelineConfig := {}
  guestCounters : CounterSource := .null

/-- **A running session.** -/
structure Session where
  world : World
  host : HostEndpoint
  guest : GuestEndpoint
  /-- Trace entries of each mapping already reported. -/
  seen : Nat
  guestSeen : Nat

namespace Session

/-- The name a session gives its named region. -/
def regionName : String := "<name>"

/-- **Set up a session**: the region or regions, the two channels and endpoints. -/
def start (spec : SessionSpec) : Except RegionError Session := do
  let (hostRegion, guestRegion) ← if spec.named then do
      let (r, ns) ← ShmNamespace.create [] regionName spec.regionSize
      let g ← ShmNamespace.openRegion ns regionName spec.guestRegionSize
      pure (r, g)
    else do
      let r ← Region.anonymous spec.regionSize
      pure (r, r)
  let traced (c : Channel) : Channel := if spec.trace then c.withTrace else c
  let primary := traced (← Channel.new hostRegion)
  let secondary := traced (← Channel.new guestRegion)
  let world : World := { primary, secondary }
  let guestWindow := if spec.named then Window.secondary else Window.primary
  pure { world
         host := HostEndpoint.new world .primary spec.hostConfig spec.hostCounters
         guest := GuestEndpoint.new world guestWindow spec.guestConfig
           (MeasurementPipeline.new spec.guestCounters spec.pipelineConfig)
         seen := 0, guestSeen := 0 }

/-- The host side of a step as a program. -/
def hostProgram (s : Session) (items : List (Scripted HostAction)) :
    Program (ScriptResult HostResult × HostEndpoint) :=
  (runScript HostAction.perform items #[]).run s.host

/-- The guest side of a step as a program. -/
def guestProgram (s : Session) (items : List (Scripted GuestAction)) :
    Program (ScriptResult GuestResult × GuestEndpoint) :=
  (runScript GuestAction.perform items #[]).run s.guest

/-- The longest the host waits for the guest state before acting. -/
def syncTimeout : Nat := 2000000000

/-- The host's wait for a guest state, then its script. -/
def syncedHost (s : Session) (target : Option GuestState) (items : List (Scripted HostAction)) :
    Program (Bool × ScriptResult HostResult × HostEndpoint) := do
  let failed ← match target with
    | none => pure false
    | some g => do
      let o ← Program.await { intervalNs := Cost.syncInterval, timeoutNs := syncTimeout,
                              honorShutdown := false, ready := (·.guestState == some g) }
      pure !o.isReady
  let (r, e) ← s.hostProgram items
  pure (failed, r, e)

/-- **Play one step.** -/
def play (s : Session) (step : Step) : Session × StepResult :=
  let (world, host, guest, syncFailed) :=
    match step.host, step.guest with
    | some hs, some gs =>
      let (w, a, b) := Schedule.run s.world (s.syncedHost step.hostAfterGuest hs)
        (Program.spend Cost.spawn >>= fun _ => s.guestProgram gs)
      let (failed, hr, he) := a.getD (false, ⟨#[], none⟩, s.host)
      let (gr, ge) := b.getD (⟨#[], none⟩, s.guest)
      (w, some (hr, he), some (gr, ge), failed)
    | some hs, none =>
      let (w, a) := Schedule.runAlone s.world (s.hostProgram hs)
      (w, some (a.getD (⟨#[], none⟩, s.host)), none, false)
    | none, some gs =>
      let (w, b) := Schedule.runAlone s.world (s.guestProgram gs)
      (w, none, some (b.getD (⟨#[], none⟩, s.guest)), false)
    | none, none => (s.world, none, none, false)
  let hostE := (host.map (·.2)).getD s.host
  let guestE := (guest.map (·.2)).getD s.guest
  let trace := world.primary.trace.toList.drop s.seen
  let guestTrace := world.secondary.trace.toList.drop s.guestSeen
  let s' := { world, host := hostE, guest := guestE, seen := world.primary.trace.size,
              guestSeen := world.secondary.trace.size }
  (s', { host := host.map (·.1), guest := guest.map (·.1), hostState := hostE.state,
         guestState := guestE.state, header := world.header,
         hostCapacity := world.capacity .primary, guestCapacity := world.capacity .secondary,
         trace, guestTrace, syncFailed })

/-- Play steps in order. -/
def playAll (s : Session) : List Step → List StepResult
  | [] => []
  | step :: rest =>
    let (s', r) := s.play step
    r :: playAll s' rest

end Session

/-- **Run a session**: its host capacity and what each step shows. -/
def SessionSpec.run (spec : SessionSpec) (steps : List Step) :
    Except RegionError (Nat × List StepResult) := do
  let s ← Session.start spec
  pure (s.world.capacity .primary, s.playAll steps)

end ShmBench

import ShmBench.Session
import ShmBench.Bench.Payload
import ShmBench.Json.Read
import ShmBench.Counter.Source

/-!
# Sessions described in JSON

A session description gives the region (`region_size`, `backing`,
`guest_region_size`), each side's settings and counters, and the steps.  A
step holds a host script, a guest script, or both, and may make the host wait
for a guest state first.  A script item is an action name, or a one-member
object from the name to its arguments.

Settings are in milliseconds and microseconds.  A virtual run must stay short,
so timeouts above 2000 ms and poll intervals above 10 ms are refused.  An item
that cannot be read does not stop the step from being read: it becomes a
`Scripted.refused` item, and the script stops there when it is played.

Each side's counters are read as a counter set description (`CounterSpec`).
-/

/-! ## Counter sets described in JSON

A description gives every event's counter default answers, `{"value", "open_fails",
"reset_fails", "enable_fails", "disable_fails", "read_fails"}`, and may
override it per event under `events`.  Opening then goes through
`HardwareCounters.openWith`, so an essential event that fails to open leaves
no counter set, and a source falls back to counting nothing. -/

namespace ShmBench
namespace CounterSpec

/-- A counter's answers and whether opening it fails, over the defaults `d`
and `failsOpen`. -/
def counterOf (v : Json) (d : FixedAnswers) (failsOpen : Bool) : Except String (FixedAnswers × Bool) := do
  pure ({ increment := ← v.u64At "value" d.increment, resetFails := ← v.boolAt "reset_fails" d.resetFails,
          enableFails := ← v.boolAt "enable_fails" d.enableFails,
          disableFails := ← v.boolAt "disable_fails" d.disableFails,
          readFails := ← v.boolAt "read_fails" d.readFails }, ← v.boolAt "open_fails" failsOpen)

/-- An event by name. -/
def eventOf (s : String) : Except String HwEvent :=
  match HwEvent.ofName? s with
  | some e => pure e
  | none => throw s!"unknown event {s}"

/-- How each event opens under a description. -/
def opener (spec : Json) : Except String (HwEvent → Except IoError EventCounter) := do
  let (d, dOpen) ← counterOf (spec.sub "default") {} false
  let evs ← match spec.field? "events" with
    | some (.obj kvs) => kvs.mapM fun (k, v) => do
        let e ← eventOf k
        pure (e, ← counterOf v d dOpen)
    | _ => pure []
  pure fun e => match evs.find? (·.1 == e) with
    | some (_, c, fails) => if fails then .error (.custom "fake open denied") else .ok c.device
    | none => if dOpen then .error (.custom "fake open denied") else .ok d.device

/-- The counter source under `name`: none (or `"null"`) counts nothing, and a
description opens a counter set, falling back to nothing when it cannot. -/
def sourceAt (v : Json) (name : String) : Except String CounterSource :=
  match v.field? name with
  | none | some (.str "null") => pure .null
  | some spec => do pure (CounterSource.probe (← opener spec))

end CounterSpec

namespace SessionRead

/-- Nanoseconds in a millisecond. -/
def ms : Nat := 1000000

/-- Why a setting was refused. -/
def refusedLimits : String := "timeouts above 2000ms or intervals above 10ms are refused"

/-- A timeout in milliseconds under `name`, as nanoseconds. -/
def timeoutAt (v : Json) (name : String) (d : Nat) : Except String Nat := do
  let t ← v.natAt name d
  if t > 2000 then throw refusedLimits
  pure (t * ms)

/-- The overhead formulas by name. -/
def formulas : List (String × OverheadFormula) :=
  [("guest_total", .guestTotal), ("guest_total_excluding_verify", .guestTotalExcludingVerify)]

/-- Host settings. -/
def hostConfig (v : Json) : Except String HostConfig := do
  let poll ← v.natAt "poll_interval_us" 10
  if poll > 10000 then throw refusedLimits
  pure { pollIntervalNs := poll * 1000, guestReadyTimeoutNs := ← timeoutAt v "guest_ready_timeout_ms" 50,
         processingTimeoutNs := ← timeoutAt v "processing_timeout_ms" 500,
         ackTimeoutNs := ← timeoutAt v "ack_timeout_ms" 500,
         releaseTimeoutNs := ← timeoutAt v "release_timeout_ms" 500,
         overhead := ← v.variantAt "overhead" formulas .guestTotal }

/-- Guest settings. -/
def guestConfig (v : Json) : Except String GuestConfig := do
  let poll ← v.natAt "poll_interval_us" 10
  let attach ← v.natAt "attach_interval_ms" 1
  if poll > 10000 || attach > 10 then throw refusedLimits
  pure { pollIntervalNs := poll * 1000, attachIntervalNs := attach * ms,
         attachTimeoutNs := ← timeoutAt v "attach_timeout_ms" 50,
         idleTimeoutNs := ← timeoutAt v "idle_timeout_ms" 500,
         releaseTimeoutNs := ← timeoutAt v "release_timeout_ms" 500 }

/-- Pipeline settings; both switches default to on. -/
def pipelineConfig (v : Json) : Except String PipelineConfig := do
  pure { flushCache := ← v.boolAt "flush_cache" true, hardwareCounters := ← v.boolAt "hardware_counters" true }

/-- The host side: settings and counters. -/
def hostSide (v : Json) : Except String (HostConfig × CounterSource) := do
  pure (← hostConfig (v.sub "config"), ← CounterSpec.sourceAt v "counters")

/-- The guest side: settings, pipeline settings, and the pipeline's counters. -/
def guestSide (v : Json) : Except String (GuestConfig × PipelineConfig × CounterSource) := do
  let p := v.sub "pipeline"
  pure (← guestConfig (v.sub "config"), ← pipelineConfig p, ← CounterSpec.sourceAt p "counters")

/-- An action as its name and its argument object. -/
def action (a : Json) : Except String (String × Json) :=
  match a with
  | .str n => pure (n, .obj [])
  | .obj [(k, v)] => pure (k, v)
  | _ => throw "action must be a name or a one-key object"

/-- A send: sequence number, payload, and an optional byte to flip after the
digest is taken. -/
def send (v : Json) : Except String HostAction := do
  let bytes ← Payload.member v
  let corrupt ← match v.field? "corrupt" with
    | some c => do
      let off ← c.natAt "offset"
      if off ≥ bytes.size then throw "corrupt offset must be inside the payload"
      let x ← Json.asNat "xor" ((c.field? "xor").getD (.int 255))
      if x > 255 then throw "xor must be a byte"
      pure (some (.flip off x.toUInt8))
    | none => pure none
  pure (.send (← v.u32At "sequence") bytes corrupt)

/-- A host action. -/
def hostAction (a : Json) : Except String HostAction := do
  let (n, v) ← action a
  match n with
  | "new" => let (c, s) ← hostSide v; pure (.renew c s)
  | "initialize" => pure .prepare
  | "wait_for_guest" => pure .waitForGuest
  | "shutdown" => pure .shutdown
  | "state" => pure .state
  | "send" => send v
  | _ => throw s!"unknown host action {n}"

/-- A guest action. -/
def guestAction (a : Json) : Except String GuestAction := do
  let (n, v) ← action a
  match n with
  | "new" => let (c, p, s) ← guestSide v; pure (.renew c p s)
  | "attach" => pure .attach
  | "serve" => pure .serve
  | "run" => pure (.run (← match v.field? "expected" with
      | some e => do pure (some (← Json.asNat "expected" e))
      | none => pure none))
  | "close" => pure .close
  | "state" => pure .state
  | _ => throw s!"unknown guest action {n}"

/-- A script: one item or an array of them. -/
def script {α : Type} (f : Json → Except String α) (v : Json) : List (Scripted α) :=
  let items := match v with
    | .arr xs => xs
    | x => [x]
  items.map fun a => match f a with
    | .ok x => .act x
    | .error m => .refused m

/-- One step. -/
def step (v : Json) : Except String Step := do
  let target ← match v.field? "host_after_guest" with
    | some (.str n) => match GuestState.ofName? n with
      | some g => pure (some g)
      | none => throw s!"unknown guest state {n}"
    | some _ => throw "host_after_guest must be a string"
    | none => pure none
  pure { host := (v.field? "host").map (script hostAction),
         guest := (v.field? "guest").map (script guestAction), hostAfterGuest := target }

/-- A whole session: its setup and its steps. -/
def session (v : Json) : Except String (SessionSpec × List Step) := do
  let size ← v.natAt "region_size" 65536
  let named ← match v.field? "backing" with
    | none | some (.str "anonymous") => pure false
    | some (.str "shm") => pure true
    | _ => throw "backing must be anonymous or shm"
  let guestSize ← v.natAt "guest_region_size" size
  let (hc, hs) ← hostSide (v.sub "host")
  let (gc, pc, gs) ← guestSide (v.sub "guest")
  let steps ← (v.items "steps").mapM step
  pure ({ regionSize := size, named, guestRegionSize := guestSize, hostConfig := hc, hostCounters := hs, guestConfig := gc, pipelineConfig := pc,
          guestCounters := gs, trace := ← v.boolAt "trace" true }, steps)

end SessionRead
end ShmBench

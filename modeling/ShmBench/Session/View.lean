import ShmBench.Session
import ShmBench.View

/-!
# Views of a session

What each step of a session shows, without measured times: every action's
result, both endpoint states, the header, and the state writes.  A report
keeps its counts and digest, and of its times only whether they were nonzero,
whether the round trip covered the guest's work, and whether the notification
estimate follows the host's formula.

A script item that could not be read is shown as refused input, in place of
the results of the actions that would have followed it.
-/

namespace ShmBench

/-- The view of an outcome. -/
def MessageOutcome.view : MessageOutcome → Json
  | .delivered => .str "delivered"
  | .guestError c => .obj [("guest_error", Json.word32 c.toRaw)]
  | .timedOut st _ => .obj [("timed_out", .str st.key), ("stage_name", .str st.name)]

/-- The view of a host's report, under the formula the host applied. -/
def MessageReport.view (r : MessageReport) (f : OverheadFormula) : Json :=
  let g := r.guest.phases
  .obj [("sequence", Json.word32 r.sequence), ("kind", .str r.kind.name), ("data_size", .word r.dataSize),
    ("digest", .str r.digest.hex), ("write_ns_nonzero", .bool (r.writeNs > 0)),
    ("roundtrip_ns_nonzero", .bool (r.roundtripNs > 0)),
    ("roundtrip_ge_guest_total", .bool (r.roundtripNs ≥ g.totalNs)),
    ("notification_consistent", .bool (r.notificationNs == f.notification r.roundtripNs g.totalNs g.verifyNs)),
    ("guest_phases", g.flags), ("guest_counters", r.guest.counters.view),
    ("host_counters", r.hostCounters.view), ("outcome", r.outcome.view),
    ("success", .bool r.success), ("error_code", Json.word32 r.errorCode.toRaw), ("released", .bool r.released)]

/-- The view of a message the guest processed. -/
def ProcessedMessage.view (m : ProcessedMessage) : Json :=
  .obj [("sequence", Json.word32 m.sequence), ("kind", .str m.kind.name), ("data_size", Json.word32 m.dataSize),
    ("error", Json.word32 m.error.toRaw), ("error_display", .str m.error.message), ("success", .bool m.success),
    ("verdict", Verdict.view? m.verdict), ("phases", m.timing.phases.flags),
    ("counters", m.timing.counters.view), ("released", .bool m.released)]

/-- The view of a host action's result. -/
def HostResult.view : HostResult → Json
  | .created s => .obj [("state", .str s.name)]
  | .done => .str "ok"
  | .failed e => e.view
  | .flag b => .bool b
  | .current s => .str s.name
  | .report r f => r.view f

/-- The view of a guest event. -/
def GuestEvent.view : GuestEvent → Json
  | .processed m => .obj [("event", .str "processed"), ("message", m.view)]
  | .idle => .obj [("event", .str "idle")]
  | .stalled => .obj [("event", .str "stalled")]
  | .shutdown => .obj [("event", .str "shutdown")]

/-- The view of a guest action's result. -/
def GuestResult.view : GuestResult → Json
  | .created s => .obj [("state", .str s.name)]
  | .done => .str "ok"
  | .failed e => e.view
  | .event ev => ev.view
  | .ran msgs (.ok (.ok sum)) => .obj [("processed", .nat sum.processed), ("failed", .nat sum.failed),
      ("stop", .str sum.stop.key), ("messages", .arr (msgs.toList.map ProcessedMessage.view))]
  | .ran msgs (.ok (.error e)) =>
    .obj [("error_result", e.view), ("messages", .arr (msgs.toList.map ProcessedMessage.view))]
  | .ran msgs (.error f) =>
    .obj [("fault", f.view), ("messages", .arr (msgs.toList.map ProcessedMessage.view))]
  | .closed => .str "closed"
  | .current s => .str s.name

/-- The view of a script's results. -/
def ScriptResult.view {ρ : Type} (f : ρ → Json) (r : ScriptResult ρ) : Json :=
  match r.refused with
  | some m => Json.refusal m
  | none => .arr (r.results.toList.map f)

/-- State writes as `[field, from, to, writer]`. -/
def StateWrite.viewAll (t : List StateWrite) : Json :=
  .arr (t.map fun w => .arr [.str w.field.name, Json.word32 w.fromRaw, Json.word32 w.toRaw, .str w.writer])

/-- The view of a step.  Traces appear when tracing is on; a named region also
shows the guest's own mapping and the raw header bytes. -/
def StepResult.view (named traced : Bool) (r : StepResult) : Json :=
  let bytes := r.header.toBytes
  .obj ((r.host.map (fun h => [("host", h.view HostResult.view)])).getD [] ++
    (r.guest.map (fun g => [("guest", g.view GuestResult.view)])).getD [] ++
    [("host_endpoint", .str r.hostState.name), ("guest_endpoint", .str r.guestState.name),
     ("snapshot", r.header.view r.hostCapacity)] ++
    (if traced then [("trace", StateWrite.viewAll r.trace)] else []) ++
    (if r.syncFailed then [("sync", .str "guest never reached the awaited state")] else []) ++
    (if named && traced then [("guest_trace", StateWrite.viewAll r.guestTrace)] else []) ++
    (if named then [("guest_capacity", .nat r.guestCapacity),
      ("header_hex", .str (Hex.encodeList (bytes.take 64))),
      ("counters_hex", .str (Hex.encodeList ((bytes.drop 104).take 152)))] else []))

end ShmBench

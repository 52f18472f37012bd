import ShmBench.Json
import ShmBench.Error
import ShmBench.Fault
import ShmBench.Channel.Header

/-!
# Views: results without the clock

A view is the JSON picture of a result that a second run on another machine
reproduces: counts, names, digests and texts stay, while a measured duration
shows only whether it was nonzero (`PhaseTimings.flags`).  A rate that is not
finite is named (`"nan"`, `"inf"`, `"-inf"`) so that it survives as JSON.

A failure is viewed as an object with its kind, a dotted path of the error
type and variant, and its text.
-/

namespace ShmBench
namespace Json

/-- A rate; a value without a JSON number is named. -/
def rate (x : Float) : Json :=
  if x.isNaN then .str "nan" else if x.isInf then .str (if x > 0 then "inf" else "-inf") else .float x

/-- A 32-bit word. -/
def word32 (x : UInt32) : Json := .int x.toNat

/-- A failure of the given kind, with its text. -/
def failure (kind message : String) : Json := .obj [("error", .str kind), ("message", .str message)]

/-- Input that was turned down before any work was done. -/
def refusal (message : String) : Json := failure "bad_input" message

end Json

/-- An aborted computation. -/
def Fault.view (f : Fault) : Json := Json.failure "panic" f.message

/-- The view of raw counts: every count by name. -/
def RawCounts.view (r : RawCounts) : Json := .obj (r.fields.map fun (k, v) => (k, .word v))

/-- The view of a counter report: counts, rates, and whether it is zero. -/
def CounterReport.view (r : CounterReport) : Json :=
  .obj ([("raw", r.raw.view)] ++ r.rates.map (fun (k, v) => (k, Json.rate v)) ++ [("is_zero", .bool r.isZero)])

/-- The view of a stored counter record: the counts and the stored rates. -/
def CounterWire.view (w : CounterWire) : Json :=
  .obj (w.raw.fields.map (fun (k, v) => (k, .word v)) ++ w.rateFields.map (fun (k, v) => (k, Json.word32 v)))

/-- The five durations by name. -/
def PhaseTimings.view (p : PhaseTimings) : Json := .obj (p.fields.map fun (k, v) => (k, .word v))

/-- Which phases took time. -/
def PhaseTimings.flags (p : PhaseTimings) : Json :=
  .obj [("hot_read", .bool (p.hotReadNs > 0)), ("cold_read", .bool (p.coldReadNs > 0)),
    ("copy", .bool (p.copyNs > 0)), ("verify", .bool (p.verifyNs > 0)), ("total", .bool (p.totalNs > 0))]

/-- A verdict: a match, or both digests. -/
def Verdict.view : Verdict → Json
  | .matched => .obj [("match", .bool true)]
  | .mismatch e a => .obj [("match", .bool false), ("expected", .str e.hex), ("actual", .str a.hex)]

/-- A verdict that may be missing. -/
def Verdict.view? : Option Verdict → Json := Json.opt Verdict.view

/-- The view of a channel header, with the channel's capacity. -/
def Header.view (h : Header) (capacity : Nat) : Json :=
  .obj [("magic", Json.word32 h.magic), ("open", .bool h.isOpen), ("complete", .bool h.isComplete),
    ("host_state", Json.word32 h.hostState), ("guest_state", Json.word32 h.guestState),
    ("sequence", Json.word32 h.sequence), ("data_size", Json.word32 h.dataSize),
    ("error_code", Json.word32 h.errorCode), ("capacity", .nat capacity), ("digest", .str h.digest.hex),
    ("timing_nonzero", h.timing.phases.flags), ("timing_counters", h.timing.counters.view)]

/-- The variant of a transition error. -/
def TransitionError.kind : TransitionError → String
  | .invalid .. => "InvalidTransition"
  | .unknownState .. => "UnknownState"

/-- The variant of a protocol error. -/
def ProtocolError.kind : ProtocolError → String
  | .handshakeTimeout .. => "HandshakeTimeout"
  | .payloadTooLarge .. => "PayloadTooLarge"
  | .hostNotReady _ => "HostNotReady"
  | .shutdown => "Shutdown"
  | .transition e => "Transition." ++ e.kind

/-- A protocol error.  A handshake timeout shows the magic word and host state
it saw, not the time it waited. -/
def ProtocolError.view : ProtocolError → Json
  | .handshakeTimeout _ m h =>
    .obj [("error", .str "ProtocolError.HandshakeTimeout"), ("magic", Json.word32 m), ("host_state", .str h)]
  | e => Json.failure ("ProtocolError." ++ e.kind) e.message

/-- The variant of a region error. -/
def RegionError.kind : RegionError → String
  | .createFailed .. => "CreateFailed"
  | .openFailed .. => "OpenFailed"
  | .mapFailed _ => "MapFailed"
  | .tooSmall .. => "RegionTooSmall"
  | .transportNotFound _ => "TransportNotFound"

/-- A region error. -/
def RegionError.view (e : RegionError) : Json := Json.failure ("SharedMemoryError." ++ e.kind) e.message

/-- The variant of a counter error. -/
def CounterError.kind : CounterError → String
  | .unsupportedPlatform => "UnsupportedPlatform"
  | .essentialUnavailable .. => "EssentialUnavailable"

/-- A counter error. -/
def CounterError.view (e : CounterError) : Json := Json.failure ("CounterError." ++ e.kind) e.message

/-- The variant of a configuration error. -/
def ConfigError.kind : ConfigError → String
  | .notFound _ => "NotFound"
  | .parse _ => "Parse"
  | .invalidField .. => "InvalidFieldValue"

/-- The dotted kind of a benchmark error: the family, and the variant where
the family has more than one that callers tell apart. -/
def BenchError.kind : BenchError → String
  | .config e => "IvError.Config." ++ e.kind
  | .transition e => "IvError.InvalidStateTransition." ++ e.kind
  | .protocol _ => "IvError.Protocol"
  | .region e => "IvError.SharedMemory." ++ e.kind
  | .counter _ => "IvError.Counter"
  | .io .. => "IvError.Io"

/-- A benchmark error. -/
def BenchError.view (e : BenchError) : Json := Json.failure e.kind e.message

end ShmBench

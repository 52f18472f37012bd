import ShmBench.Channel.Wire
import ShmBench.Digest
import ShmBench.Message
import ShmBench.Fault

/-!
# What the endpoints report

The host reports every message it sends (`MessageReport`): the message, its
digest, the measured times, the guest's timing as decoded from the channel,
and how the exchange ended (`MessageOutcome`): delivered, failed on the
guest, or timed out at one of three waits (`WaitStage`).  A message succeeded
exactly when it was delivered (`MessageReport.success`).

The guest reports every message it processed (`ProcessedMessage`) and, for a
serving loop, why the loop stopped (`StopReason`).
-/

namespace ShmBench

/-- **The host's waits**, in the order a send meets them. -/
inductive WaitStage where
  | guestIdle
  | processing
  | acknowledged
  deriving DecidableEq, Repr, Inhabited

namespace WaitStage

/-- The stage's name in logs. -/
def name : WaitStage → String
  | .guestIdle => "guest idle"
  | .processing => "guest processing"
  | .acknowledged => "guest acknowledged"

/-- The stage's serialized name. -/
def key : WaitStage → String
  | .guestIdle => "guest_idle"
  | .processing => "processing"
  | .acknowledged => "acknowledged"

/-- The stage a serialized name stands for. -/
def ofKey? : String → Option WaitStage
  | "guest_idle" => some .guestIdle
  | "processing" => some .processing
  | "acknowledged" => some .acknowledged
  | _ => none

end WaitStage

/-- **How an exchange ended.** -/
inductive MessageOutcome where
  | delivered
  | guestError (code : ResultCode)
  | timedOut (stage : WaitStage) (waitedMs : UInt64)
  deriving DecidableEq, Repr, Inhabited

/-- **The host's report of one message.** -/
structure MessageReport where
  sequence : UInt32
  kind : MessageKind
  dataSize : UInt64
  digest : Digest
  writeNs : UInt64
  roundtripNs : UInt64
  notificationNs : UInt64
  guest : GuestTiming
  hostCounters : CounterReport
  outcome : MessageOutcome
  released : Bool
  deriving Inhabited

namespace MessageReport

/-- A message succeeded exactly when it was delivered. -/
def success (r : MessageReport) : Bool := r.outcome == .delivered

/-- The guest's result code, or none when the guest reported no failure. -/
def errorCode (r : MessageReport) : ResultCode :=
  match r.outcome with
  | .guestError c => c
  | _ => .none

/-- Write time plus round trip, stopping at the largest word. -/
def totalNs (r : MessageReport) : UInt64 := UInt64.saturatingAdd r.writeNs r.roundtripNs

end MessageReport

/-- **The guest's record of one processed message.** -/
structure ProcessedMessage where
  sequence : UInt32
  kind : MessageKind
  dataSize : UInt32
  error : ResultCode
  timing : GuestTiming
  verdict : Option Verdict
  released : Bool
  deriving Inhabited

/-- A processed message succeeded when it carries no error code. -/
def ProcessedMessage.success (m : ProcessedMessage) : Bool := !m.error.isError

/-- **What one serving step saw.** -/
inductive GuestEvent where
  | processed (m : ProcessedMessage)
  | idle
  | stalled
  | shutdown
  deriving Inhabited

/-- **Why a serving loop stopped.** -/
inductive StopReason where
  | countReached
  | shutdown
  | idle
  | stalled
  deriving DecidableEq, Repr, Inhabited

/-- The serialized name of a stop reason. -/
def StopReason.key : StopReason → String
  | .countReached => "count_reached"
  | .shutdown => "shutdown"
  | .idle => "idle"
  | .stalled => "stalled"

/-- **The end of a serving loop**: messages processed, how many failed, and why it stopped. -/
structure GuestSummary where
  processed : Nat
  failed : Nat
  stop : StopReason
  deriving DecidableEq, Repr

end ShmBench

import ShmBench.Cli.Host
import ShmBench.Protocol.Guest

/-!
# `guest`: serving the host

The guest maps the channel, attaches to the host, and serves messages until
it has processed the messages the plan sends over this channel, or, with
`--until-shutdown`, until the host completes the run; a step that brings no
message also ends it.  Every failed message is printed, and of the others
those `shouldPrint` picks; then the count and the reason it stopped.
-/

namespace ShmBench

/-- Why the serving loop stopped, in words. -/
def StopReason.text : StopReason → String
  | .countReached => "expected message count reached"
  | .shutdown => "host signalled completion"
  | .idle => "no message within the idle timeout"
  | .stalled => "host never released the last message"

namespace Cli
open CommandM

/-- The largest count of the platform's word, the total of an open-ended run. -/
def openEndedTotal : Nat := 18446744073709551615

/-- **The line of a processed message.** -/
def messageLine (m : ProcessedMessage) : String :=
  let kind := match m.kind with
    | .latency => "lat"
    | .bandwidth => "bw"
  let f := LatencyMetrics.formatLatency
  let p := m.timing.phases
  let head := "[" ++ kind ++ " " ++ Layout.right 5 (toString m.sequence) ++ "] "
  if m.success then
    head ++ toString m.dataSize ++ " bytes | hot " ++ f p.hotReadNs ++ " | cold " ++ f p.coldReadNs ++
      " | copy " ++ f p.copyNs ++ " | verify " ++ f p.verifyNs ++ " | total " ++ f p.totalNs
  else head ++ "FAILED: " ++ m.error.message ++ " (" ++ toString m.dataSize ++ " bytes)"

/-- **`guest`**: attach to the host and serve its messages. -/
def guest (m : Machine) (g : Globals) (a : GuestArgs) : CommandM Unit := do
  let config ← loadConfig g.config
  let plan := a.modes.plan
  let (path, channel) ← openChannel m a.transport config.transport false
  let expected ← if a.untilShutdown then pure none else some <$> checked (plan.expectedMessages channel.capacity)
  let pipeline := MeasurementPipeline.new (m.counters config.pipeline.hardwareCounters) config.pipeline
  let w ← mapRegion path channel
  let e := GuestEndpoint.new w .primary config.guest pipeline
  say "=== ivmark guest ==="
  say ("Region:    " ++ path)
  say ("Capacity:  " ++ toString channel.capacity ++ " bytes")
  say ("Counters:  " ++ if pipeline.countersAvailable then "hardware" else "unavailable")
  match expected with
  | some n => say ("Expecting: " ++ toString n ++ " messages")
  | none => say "Expecting: messages until shutdown"
  say ""
  say "Waiting for host..."
  let (r, e) ← endpoint GuestEndpoint.attach e
  orFail r Failure.ofProtocol
  say "Host ready, serving"
  let total := expected.getD openEndedTotal
  let ((messages, result), _) ← runOnRegion ((GuestEndpoint.run expected).run e)
  let numbered := (List.range messages.size).zip messages.toList
  for (i, msg) in numbered do
    if !msg.success || shouldPrint i total then say (messageLine msg)
  let summary ← orFail (← checked result) Failure.ofProtocol
  say ""
  say ("Processed: " ++ toString summary.processed ++ " (" ++ toString summary.failed ++ " failed)")
  say ("Stopped:   " ++ summary.stop.text)
  say "=== Guest finished ==="

end Cli
end ShmBench

import ShmBench.Yaml.Decode
import ShmBench.Protocol.Host
import ShmBench.Protocol.Guest
import ShmBench.Files
import ShmBench.Json

/-!
# Configuration

A benchmark is configured by a YAML file with four sections, each optional
and each field within them optional:

```yaml
transport: { pci_resource, write_combining, fallback_path, region_size_mb }
protocol:  { poll_interval_us, attach_interval_ms, attach_timeout_ms,
             guest_ready_timeout_ms, processing_timeout_ms, ack_timeout_ms,
             host_release_timeout_ms, guest_release_timeout_ms, idle_timeout_ms }
pipeline:  { hardware_counters, flush_cache }
overhead_formula: guest_total | guest_total_excluding_verify
```

Reading is strict: a field that no section has, a field given twice, or a
value of the wrong type is an error that names the field and its line
(`Yaml.Decode`).  Then the values are checked, in a fixed order, and the first
one out of range is reported (`ConfigFile.validate`):

* the region is 1 to 1024 MiB, and neither path is empty;
* the poll interval is at most 10 ms, the attach interval 1 ms to 1 s;
* every timeout is 1 ms to one hour.

An empty text, or one of white space only, is the default configuration
(`loadString`); so is a document that is empty or `{}`.  A file that does
not exist is reported as such before it is read (`loadFile`).
-/

namespace ShmBench

/-- **Where the shared region is found.** -/
structure TransportConfig where
  /-- The device's memory resource inside the guest. -/
  pciResource : String := "/sys/bus/pci/devices/0000:00:03.0/resource2"
  /-- Map the write-combining variant of the resource. -/
  writeCombining : Bool := false
  /-- The file used when there is no device. -/
  fallbackPath : String := "/dev/shm/ivshmem"
  /-- The size the host gives the file it creates. -/
  regionSize : Nat := 64 * 1024 * 1024
  deriving DecidableEq, Repr, Inhabited

/-- The resource actually mapped: with write-combining, its `_wc` variant. -/
def TransportConfig.resourcePath (c : TransportConfig) : String :=
  if c.writeCombining then c.pciResource ++ "_wc" else c.pciResource

/-- **A checked configuration.** -/
structure BenchConfig where
  transport : TransportConfig := {}
  host : HostConfig := {}
  guest : GuestConfig := {}
  pipeline : PipelineConfig := {}
  deriving DecidableEq, Repr, Inhabited

namespace ConfigFile

/-- The `transport` section as written. -/
structure TransportSection where
  pciResource : String := ({} : TransportConfig).pciResource
  writeCombining : Bool := false
  fallbackPath : String := ({} : TransportConfig).fallbackPath
  regionSizeMb : Nat := 64

/-- The `protocol` section as written, in micro- and milliseconds. -/
structure ProtocolSection where
  pollIntervalUs : Nat := 10
  attachIntervalMs : Nat := 10
  attachTimeoutMs : Nat := 50000
  guestReadyTimeoutMs : Nat := 10000
  processingTimeoutMs : Nat := 2000
  ackTimeoutMs : Nat := 10000
  hostReleaseTimeoutMs : Nat := 1000
  guestReleaseTimeoutMs : Nat := 10000
  idleTimeoutMs : Nat := 60000

/-- The `pipeline` section as written. -/
structure PipelineSection where
  hardwareCounters : Bool := true
  flushCache : Bool := true

/-- **The file as written**, before any check. -/
structure Sections where
  transport : TransportSection := {}
  protocol : ProtocolSection := {}
  pipeline : PipelineSection := {}
  overheadFormula : OverheadFormula := .guestTotal

open Yaml

/-- The overhead formulas by their names in the file. -/
def formulas : List (String × OverheadFormula) :=
  [("guest_total", .guestTotal), ("guest_total_excluding_verify", .guestTotalExcludingVerify)]

/-- How the `transport` section is read. -/
def transportSpec : Decode.RecordSpec TransportSection where
  name := "RawTransportConfig"
  fields := ["pci_resource", "write_combining", "fallback_path", "region_size_mb"]
  field name path s := match name with
    | "pci_resource" => do pure { s with pciResource := ← Decode.string "a string" path }
    | "write_combining" => do pure { s with writeCombining := ← Decode.bool path }
    | "fallback_path" => do pure { s with fallbackPath := ← Decode.string "a string" path }
    | _ => do pure { s with regionSizeMb := ← Decode.unsigned "usize" path }

/-- How the `protocol` section is read. -/
def protocolSpec : Decode.RecordSpec ProtocolSection where
  name := "RawProtocolConfig"
  fields := ["poll_interval_us", "attach_interval_ms", "attach_timeout_ms", "guest_ready_timeout_ms",
    "processing_timeout_ms", "ack_timeout_ms", "host_release_timeout_ms", "guest_release_timeout_ms",
    "idle_timeout_ms"]
  field name path s := do
    let v ← Decode.unsigned "u64" path
    pure <| match name with
      | "poll_interval_us" => { s with pollIntervalUs := v }
      | "attach_interval_ms" => { s with attachIntervalMs := v }
      | "attach_timeout_ms" => { s with attachTimeoutMs := v }
      | "guest_ready_timeout_ms" => { s with guestReadyTimeoutMs := v }
      | "processing_timeout_ms" => { s with processingTimeoutMs := v }
      | "ack_timeout_ms" => { s with ackTimeoutMs := v }
      | "host_release_timeout_ms" => { s with hostReleaseTimeoutMs := v }
      | "guest_release_timeout_ms" => { s with guestReleaseTimeoutMs := v }
      | _ => { s with idleTimeoutMs := v }

/-- How the `pipeline` section is read. -/
def pipelineSpec : Decode.RecordSpec PipelineSection where
  name := "RawPipelineConfig"
  fields := ["hardware_counters", "flush_cache"]
  field name path s := do
    let v ← Decode.bool path
    pure (if name == "hardware_counters" then { s with hardwareCounters := v } else { s with flushCache := v })

/-- How the whole file is read. -/
def sectionsSpec : Decode.RecordSpec Sections where
  name := "RawConfig"
  fields := ["transport", "protocol", "pipeline", "overhead_formula"]
  field name path s := match name with
    | "transport" => do pure { s with transport := ← Decode.record transportSpec {} path }
    | "protocol" => do pure { s with protocol := ← Decode.record protocolSpec {} path }
    | "pipeline" => do pure { s with pipeline := ← Decode.record pipelineSpec {} path }
    | _ => do pure { s with overheadFormula := ← Decode.unitEnum formulas path }

/-- A field out of range. -/
def invalid (field : String) (value : Nat) (reason : String) : ConfigError :=
  .invalidField field (toString value) reason

/-- Check the transport section: the region in MiB, then the two paths. -/
def validateTransport (t : TransportSection) : Except ConfigError TransportConfig := do
  if t.regionSizeMb = 0 ∨ t.regionSizeMb > 1024 then
    throw (invalid "region_size_mb" t.regionSizeMb "Must be between 1 and 1024")
  if t.pciResource.isEmpty then throw (.invalidField "pci_resource" "" "Path cannot be empty")
  if t.fallbackPath.isEmpty then throw (.invalidField "fallback_path" "" "Path cannot be empty")
  pure { pciResource := t.pciResource, writeCombining := t.writeCombining,
         fallbackPath := t.fallbackPath, regionSize := t.regionSizeMb * 1024 * 1024 }

/-- The timeouts in the order they are checked. -/
def timeouts (p : ProtocolSection) : List (String × Nat) :=
  [("attach_timeout_ms", p.attachTimeoutMs), ("guest_ready_timeout_ms", p.guestReadyTimeoutMs),
   ("processing_timeout_ms", p.processingTimeoutMs), ("ack_timeout_ms", p.ackTimeoutMs),
   ("host_release_timeout_ms", p.hostReleaseTimeoutMs),
   ("guest_release_timeout_ms", p.guestReleaseTimeoutMs), ("idle_timeout_ms", p.idleTimeoutMs)]

/-- Check the protocol section: the poll interval, the attach interval, then
each timeout; the settings are in nanoseconds. -/
def validateProtocol (p : ProtocolSection) : Except ConfigError (HostConfig × GuestConfig) := do
  if p.pollIntervalUs > 10000 then
    throw (invalid "poll_interval_us" p.pollIntervalUs "Poll interval must not exceed 10000us")
  if p.attachIntervalMs = 0 ∨ p.attachIntervalMs > 1000 then
    throw (invalid "attach_interval_ms" p.attachIntervalMs "Must be between 1 and 1000")
  for (field, value) in timeouts p do
    if value = 0 ∨ value > 3600000 then
      throw (invalid field value "Timeout must be between 1 and 3600000ms")
  let ms := 1000000
  let poll := p.pollIntervalUs * 1000
  pure ({ pollIntervalNs := poll, guestReadyTimeoutNs := p.guestReadyTimeoutMs * ms,
          processingTimeoutNs := p.processingTimeoutMs * ms, ackTimeoutNs := p.ackTimeoutMs * ms,
          releaseTimeoutNs := p.hostReleaseTimeoutMs * ms, overhead := .guestTotal },
        { pollIntervalNs := poll, attachIntervalNs := p.attachIntervalMs * ms,
          attachTimeoutNs := p.attachTimeoutMs * ms, idleTimeoutNs := p.idleTimeoutMs * ms,
          releaseTimeoutNs := p.guestReleaseTimeoutMs * ms })

/-- **Check a configuration as written**: the transport, then the protocol. -/
def validate (s : Sections) : Except ConfigError BenchConfig := do
  let transport ← validateTransport s.transport
  let (host, guest) ← validateProtocol s.protocol
  pure { transport, host := { host with overhead := s.overheadFormula }, guest,
         pipeline := { hardwareCounters := s.pipeline.hardwareCounters, flushCache := s.pipeline.flushCache } }

end ConfigFile

/-- White space as the standard library's trimming sees it. -/
def isSpace (c : Char) : Bool :=
  let v := c.toNat
  (0x09 ≤ v && v ≤ 0x0D) || v == 0x20 || v == 0x85 || v == 0xA0 || v == 0x1680 ||
    (0x2000 ≤ v && v ≤ 0x200A) || v == 0x2028 || v == 0x2029 || v == 0x202F || v == 0x205F || v == 0x3000

/-- **Read a configuration from text.**  Text of white space only is the
default; otherwise the YAML is read strictly and then checked. -/
def loadString (content : String) : Except BenchError BenchConfig :=
  if content.toList.all isSpace then .ok {}
  else
    match Yaml.Decode.run content (Yaml.Decode.record ConfigFile.sectionsSpec {}) with
    | .error e => .error (.config (.parse ("YAML parse error: " ++ e.text)))
    | .ok s => (ConfigFile.validate s).mapError .config

/-- **Read a configuration from a file**: missing is `NotFound`, unreadable is
an I/O error, and the text is read as `loadString` reads it. -/
def loadFile (fs : Files) (path : String) : Except BenchError BenchConfig :=
  if !fs.exists path then .error (.config (.notFound path))
  else
    match fs.readText path with
    | .error e => .error (.io "reading config file" e)
    | .ok text => loadString text

/-- The transport settings as an object. -/
def TransportConfig.toJson (t : TransportConfig) : Json :=
  .obj [("pci_resource", .str t.pciResource), ("write_combining", .bool t.writeCombining),
    ("fallback_path", .str t.fallbackPath), ("region_size", .nat t.regionSize),
    ("resource_path", .str t.resourcePath)]

/-- A configuration as an object, with whether it is the default. -/
def BenchConfig.toJson (c : BenchConfig) : Json :=
  let h := c.host
  let g := c.guest
  .obj [("transport", c.transport.toJson),
    ("host", .obj [("poll_interval_ns", .nat h.pollIntervalNs), ("guest_ready_timeout_ns", .nat h.guestReadyTimeoutNs),
      ("processing_timeout_ns", .nat h.processingTimeoutNs), ("ack_timeout_ns", .nat h.ackTimeoutNs),
      ("release_timeout_ns", .nat h.releaseTimeoutNs), ("overhead", .str h.overhead.name)]),
    ("guest", .obj [("poll_interval_ns", .nat g.pollIntervalNs), ("attach_interval_ns", .nat g.attachIntervalNs),
      ("attach_timeout_ns", .nat g.attachTimeoutNs), ("idle_timeout_ns", .nat g.idleTimeoutNs),
      ("release_timeout_ns", .nat g.releaseTimeoutNs)]),
    ("pipeline", .obj [("hardware_counters", .bool c.pipeline.hardwareCounters),
      ("flush_cache", .bool c.pipeline.flushCache)]),
    ("is_default", .bool (c == {}))]

/-- Blank text is the default configuration. -/
theorem loadString_blank (s : String) (h : s.toList.all isSpace = true) : loadString s = .ok {} := by
  simp [loadString, h]

end ShmBench

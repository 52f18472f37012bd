import ShmBench.Cli.Console
import ShmBench.Cli.Invocation
import ShmBench.Config
import ShmBench.Transport
import ShmBench.Protocol.Schedule

/-!
# Reaching the channel

Before the host, the guest or `inspect` can work, the command loads its
configuration, pins itself to CPUs if asked, finds the region and maps it
(`openChannel`), in that order.

* **CPU lists** are comma-separated parts, each a CPU or a range `a-b`;
  parts that do not read are skipped (`cpuRanges`).  A list with no CPU is an
  error; so is a CPU past the 1024 an affinity mask holds, and a list in
  which no CPU is online.
* **The region** is the device given with `-d` (a path under `/sys` is a
  device resource, switched to its write-combining variant by `--wc`), else
  the plain file the host creates with `--create`, else the one found
  (`selectTransport`).  The device given also replaces the configured file.
* **The mapped region** is kept in the run's state; endpoint operations run
  on it one at a time (`runOnRegion`).
-/

namespace ShmBench
namespace Cli
open CommandM

/-- Text with white space trimmed from both ends. -/
def trimText (s : String) : String :=
  String.ofList ((s.toList.dropWhile isSpace).reverse.dropWhile isSpace).reverse

/-- The CPUs one affinity mask can name. -/
def cpuSetSize : Nat := 1024

/-- A CPU number, if the text is one. -/
def readCpu (s : String) : Option Nat := (Numeral.readNat .u64 s).toOption

/-- **The parts of a CPU list** that read, each the range from its first CPU
to its last; a part whose last CPU comes before its first names none. -/
def cpuRanges (list : String) : List (Nat × Nat) :=
  (list.splitOn ",").filterMap fun part =>
    let part := trimText part
    match part.toList.span (· != '-') with
    | (a, _ :: b) =>
      match readCpu (trimText (String.ofList a)), readCpu (trimText (String.ofList b)) with
      | some x, some y => some (x, y)
      | _, _ => none
    | (_, []) => (readCpu part).map fun c => (c, c)

/-- The error number of a refused affinity. -/
def invalidArgument : String := "EINVAL: Invalid argument"

/-- **Pin the process to a CPU list**: the list must name a CPU, every CPU
must fit the mask, and one of them must be online. -/
def pin (m : Machine) (list : String) : Except Failure Unit :=
  match (cpuRanges list).filter (fun r => r.1 ≤ r.2) with
  | [] => .error ⟨s!"No CPUs in list '{list}'", []⟩
  | ranges =>
    match ranges.find? (fun r => r.2 ≥ cpuSetSize) with
    | some r => .error ⟨s!"CPU {max r.1 cpuSetSize} is out of range", [invalidArgument]⟩
    | none =>
      if ranges.any (fun r => r.1 < m.onlineCpus) then .ok ()
      else .error ⟨s!"Failed to pin process to CPUs {list}", [invalidArgument]⟩

/-- The parts of a path that name something: no empty and no `.` parts. -/
def pathParts (p : String) : List String := (p.splitOn "/").filter fun c => c != "" && c != "."

/-- Whether a path lies under `/sys`, part by part. -/
def underSys (p : String) : Bool := p.startsWith "/" && (pathParts p).head? == some "sys"

/-- The last part of a path, unless it is `..`. -/
def fileName (p : String) : Option String :=
  match (pathParts p).getLast? with
  | some ".." => none
  | n => n

/-- A device resource given on the command line, switched to its
write-combining variant when asked and not already named so. -/
def resourcePath (p : String) (writeCombining : Bool) : String :=
  if !writeCombining || (fileName p).any (·.endsWith "_wc") then p else p ++ "_wc"

/-- **Choose the transport**: a device under `/sys` as a resource, another
device as a plain file unless the host creates it, the created file, or the
one discovered. -/
def selectTransport (fs : Files) (t : TransportArgs) (c : TransportConfig) (create : Bool) :
    Except Failure (Transport × Files) :=
  let c := { c with writeCombining := c.writeCombining || t.wc, fallbackPath := t.device.getD c.fallbackPath }
  let created := (Transport.createFallback fs c).mapError fun e =>
    (Failure.ofRegion e).context "Failed to create shared memory file"
  match t.device with
  | some p =>
    if underSys p then .ok (.pciResource (resourcePath p c.writeCombining), fs)
    else if !create then .ok (.sharedFile p, fs)
    else created
  | none =>
    if create then created
    else ((Transport.discover fs c).map (·, fs)).mapError Failure.ofRegion

/-- **Load the configuration**, or the defaults when no file is given. -/
def loadConfig (path : Option String) : CommandM BenchConfig := do
  match path with
  | none => pure {}
  | some p => orFail (loadFile (← files) p) fun e => (Failure.ofBench e).context ("Failed to load configuration from " ++ p)

/-- **Open the channel**: pin, choose the transport, map it, and lay a channel
over it; the path and the channel. -/
def openChannel (m : Machine) (t : TransportArgs) (c : TransportConfig) (create : Bool) :
    CommandM (String × Channel) := do
  if let some list := t.pinCpu then orFail (pin m list) id
  let (tr, fs) ← orFail (selectTransport (← files) t c create) id
  setFiles fs
  let region ← orFail (Transport.map fs tr) fun e => (Failure.ofRegion e).context ("Failed to map " ++ tr.path)
  let channel ← orFail (Channel.new region) Failure.ofRegion
  pure (tr.path, channel)

/-- **Map the region** of a file for the endpoints; the world they share. -/
def mapRegion (path : String) (channel : Channel) : CommandM World := do
  let d := ((← files).file? path).getD {}
  let w : World := { mem := SharedMemory.ofFile d, primary := channel, secondary := channel }
  modify fun s => { s with mapped := some ⟨path, w⟩ }
  pure w

/-- **Run a program on the mapped region.** -/
def runOnRegion {α : Type} (p : Program α) : CommandM α := do
  let s ← get
  match s.mapped with
  | none => throw (.aborted "no region is mapped")
  | some m =>
    let (w, r) := Schedule.runAlone m.world p
    set { s with mapped := some { m with world := w } }
    match r with
    | some a => pure a
    | none => throw (.aborted "the run did not finish within its step bound")

/-- Run an endpoint operation on the mapped region; its result and the endpoint after. -/
def endpoint {σ α : Type} (op : ExceptT ProtocolError (StateT σ Program) α) (e : σ) :
    CommandM (Except ProtocolError α × σ) :=
  runOnRegion ((op.run).run e)

/-- A list with no CPU in it is refused. -/
theorem pin_empty (m : Machine) (list : String) (h : (cpuRanges list).filter (fun r => r.1 ≤ r.2) = []) :
    pin m list = .error ⟨s!"No CPUs in list '{list}'", []⟩ := by
  simp [pin, h]

end Cli
end ShmBench

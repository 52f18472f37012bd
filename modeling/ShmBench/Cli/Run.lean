import ShmBench.Cli.Guest
import ShmBench.Cli.Console
import ShmBench.Config
import ShmBench.Cli.Attach
import ShmBench.Cli.Host
import ShmBench.Bench.Baseline

/-!
# Running the program

`Cli.run` is the whole program: it reads the command line and runs the
command it names over a set of files.  Reading may end before a command
runs: help and the version are printed to standard output with status 0;
an empty command line prints the help to standard error, and a refused one
its error, both with status 2.

The three smaller commands, `baseline`, `inspect` and `validate`, are
defined here; `host` and `guest` have modules of their own.
-/

/-! ## `baseline`: memory reference numbers

`baseline` measures reading and copying one buffer on the heap and in a
shared mapping (`runBaseline`), prints the table of results, and saves them
as a JSON report when given a directory. -/

namespace ShmBench
namespace Cli
open CommandM

/-- **`baseline`**: measure, print the table, and save the report if asked. -/
def baseline (m : Machine) (a : BaselineArgs) : CommandM Unit := do
  let defaults : BaselineConfig := {}
  let config : BaselineConfig :=
    { size := a.size.getD defaults.size, iterations := a.iterations, includeShm := !a.noShm }
  say "=== Memory baseline ==="
  say ("Buffer: " ++ toString config.size ++ " bytes (" ++ capacityMb config.size ++ " MB), " ++
    toString config.iterations ++ " iterations")
  say ""
  let results ← checked (runBaseline config)
  print (renderTable results)
  if let some dir := a.outputDir then
    let report : BenchmarkReport := { timestamp := m.stamp, results := ← checked (results.mapM (·.toResult)) }
    let (file, fs) ← orFail (report.save (← files) dir m.stamp) Failure.ofReport
    setFiles fs
    say ""
    say ("JSON report: " ++ file)

/-! ## `inspect`: the channel header as text

`inspect` maps the region and prints its header, changing nothing: the
magic word in hexadecimal and whether the channel is open, both state words
by name (or `UNKNOWN (n)` for a word that is no state), the message fields,
the guest's result code with its text, the complete flag, and the capacity.
With `--timing` it adds the guest's last timing record, in nanoseconds. -/

/-- The name of a host state word. -/
def hostStateText (raw : UInt32) : String := ((HostState.ofRaw raw).map HostState.name).getD s!"UNKNOWN ({raw})"

/-- The name of a guest state word. -/
def guestStateText (raw : UInt32) : String := ((GuestState.ofRaw raw).map GuestState.name).getD s!"UNKNOWN ({raw})"

/-- **The header as `inspect` prints it.** -/
def renderSnapshot (s : Snapshot) : String :=
  let opened := if s.magic == channelMagic then "open" else "not initialized"
  "Magic:         " ++ hexWord s.magic ++ " (" ++ opened ++ ")\n" ++
  "Host state:    " ++ hostStateText s.hostState ++ "\n" ++
  "Guest state:   " ++ guestStateText s.guestState ++ "\n" ++
  "Sequence:      " ++ toString s.sequence ++ "\n" ++
  "Data size:     " ++ toString s.dataSize ++ " bytes\n" ++
  "Error code:    " ++ toString s.errorCode ++ " (" ++ (ResultCode.ofRaw s.errorCode).message ++ ")\n" ++
  "Test complete: " ++ toString s.complete ++ "\n" ++
  "Capacity:      " ++ toString s.capacity ++ " bytes\n"

/-- **The guest's last timing record** as `inspect` prints it. -/
def renderTiming (t : TimingWire) : String :=
  "\nLast timing record (ns):\n" ++
  "  Hot read:   " ++ toString t.phases.hotReadNs ++ "\n" ++
  "  Cold read:  " ++ toString t.phases.coldReadNs ++ "\n" ++
  "  Copy:       " ++ toString t.phases.copyNs ++ "\n" ++
  "  Verify:     " ++ toString t.phases.verifyNs ++ "\n" ++
  "  Total:      " ++ toString t.phases.totalNs ++ "\n" ++
  "  Cycles:     " ++ toString t.counters.raw.cpuCycles ++ "\n" ++
  "  LLC misses: " ++ toString t.counters.raw.llcMisses ++ "\n"

/-- **`inspect`**: print the header of the channel, and its timing record
when asked. -/
def inspect (m : Machine) (g : Globals) (a : InspectArgs) : CommandM Unit := do
  let config ← loadConfig g.config
  let (path, channel) ← openChannel m a.transport config.transport false
  let header := Header.ofBytes ((((← files).file? path).getD {}).slice 0 headerSize)
  say ("Region: " ++ path)
  print (renderSnapshot (header.snapshot channel.capacity))
  if a.timing then print (renderTiming header.timing)

end Cli

/-! ## `validate`: checking a configuration file

`validate` reads a configuration file as the other commands do.  A file that
reads is printed section by section, durations as `Duration.text` writes
them and the region size in whole MiB; one that does not is reported on
standard error, and the command ends with status 1. -/

/-! ## Durations as text

A duration is written in the largest unit that leaves a whole part of at
least one: seconds (`s`), then milliseconds (`ms`), microseconds (`µs`), and
nanoseconds (`ns`) for anything shorter, zero included.  The rest below the
unit follows the point, to the nanosecond, without trailing zeros, and with
no point at all when the rest is zero: `1.5s`, `10ms`, `1µs`, `0ns`. -/

namespace Duration

/-- The digits of `rest` as a fraction of `10 ^ places`, with trailing zeros
dropped. -/
def fraction (rest places : Nat) : String :=
  let ds := (Nat.toDigits 10 rest)
  let padded := List.replicate (places - ds.length) '0' ++ ds
  String.ofList (padded.reverse.dropWhile (· == '0')).reverse

/-- A whole part, a rest of `places` digits, and a unit. -/
def decimal (whole rest places : Nat) (unit : String) : String :=
  let f := if rest == 0 then "" else fraction rest places
  toString whole ++ (if f.isEmpty then "" else "." ++ f) ++ unit

/-- **The text of a duration** given in nanoseconds. -/
def text (ns : Nat) : String :=
  let secs := ns / 1000000000
  let sub := ns % 1000000000
  if secs > 0 then decimal secs sub 9 "s"
  else if sub ≥ 1000000 then decimal (sub / 1000000) (sub % 1000000) 6 "ms"
  else if sub ≥ 1000 then decimal (sub / 1000) (sub % 1000) 3 "µs"
  else decimal sub 0 0 "ns"

end Duration

namespace Cli
open CommandM

/-- A labelled line of the listing, the value starting in column 22. -/
def field (label value : String) : String := "  " ++ Layout.left 20 (label ++ ":") ++ value

/-- **A configuration as `validate` lists it.** -/
def renderConfig (c : BenchConfig) : List String :=
  let t := c.transport
  let h := c.host
  let g := c.guest
  let p := c.pipeline
  ["✓ Configuration is valid", "",
   "Transport:",
   field "PCI Resource" t.pciResource,
   field "Write Combining" (toString t.writeCombining),
   field "Fallback Path" t.fallbackPath,
   field "Region Size" (toString (t.regionSize / (1024 * 1024)) ++ " MB"), "",
   "Host:",
   field "Poll Interval" (Duration.text h.pollIntervalNs),
   field "Guest Ready Wait" (Duration.text h.guestReadyTimeoutNs),
   field "Processing Wait" (Duration.text h.processingTimeoutNs),
   field "Ack Wait" (Duration.text h.ackTimeoutNs),
   field "Release Wait" (Duration.text h.releaseTimeoutNs),
   field "Overhead Formula" h.overhead.variantName, "",
   "Guest:",
   field "Attach Interval" (Duration.text g.attachIntervalNs),
   field "Attach Timeout" (Duration.text g.attachTimeoutNs),
   field "Idle Timeout" (Duration.text g.idleTimeoutNs),
   field "Release Wait" (Duration.text g.releaseTimeoutNs), "",
   "Pipeline:",
   field "Hardware Counters" (toString p.hardwareCounters),
   field "Flush Cache" (toString p.flushCache)]

/-- **`validate`**: list the configuration in `file`, or report why it does
not read and end with status 1. -/
def validate (file : String) : CommandM Unit := do
  match loadFile (← files) file with
  | .ok c => (renderConfig c).forM say
  | .error e =>
    complain "✗ Configuration validation failed:"
    complain ("  " ++ e.message)
    throw (.stopped 1)

end Cli

/-! ## The program -/

namespace Cli

/-- The command an invocation names, as a run. -/
def execute (m : Machine) (i : Invocation) : CommandM Unit :=
  match i.command with
  | .host a => host m i.globals a
  | .guest a => guest m i.globals a
  | .baseline a => baseline m a
  | .inspect a => inspect m i.globals a
  | .validate file => validate file

/-- **Run the program** with its arguments over `fs`. -/
def run (m : Machine) (fs : Files) (args : List String) : Outcome :=
  match readLine args with
  | .error .version => ⟨0, programName ++ " " ++ programVersion ++ "\n", "", fs⟩
  | .error (.help text) => ⟨0, text, "", fs⟩
  | .error .bareHelp => ⟨2, "", Help.top, fs⟩
  | .error (.refused e) => ⟨2, "", e.render, fs⟩
  | .ok line => (execute m (Invocation.ofLine line)).finish fs

/-- A refused command line changes no file. -/
theorem run_refused (m : Machine) (fs : Files) (args : List String) (e : UsageError)
    (h : readLine args = .error (.refused e)) : (run m fs args).status = 2 ∧ (run m fs args).files = fs := by
  simp [run, h]

end Cli
end ShmBench

import ShmBench.Cli.Parse
import ShmBench.Bench.Frames

/-!
# What a command line asks for

A command line that was read becomes an `Invocation`: the global settings
and one command with its arguments, each a structure of the values the
command uses, with the defaults filled in.

The tests a run makes are its `TestPlan` (`ModeArgs.plan`): with neither
`-l` nor `-b`, both tests run with their default counts; `-n` replaces the
count of every test that runs.  The messages a plan sends over a channel
leave out the frames that do not fit it (`TestPlan.latencyMessages`,
`TestPlan.bandwidthMessages`); the guest expects their sum.
-/

namespace ShmBench
namespace Cli

/-- The latency count when `-l` is given without one. -/
def defaultLatencyCount : Nat := 100

/-- The bandwidth iterations when `-b` is given without a count. -/
def defaultBandwidthIterations : Nat := 10

/-- **The global settings.** -/
structure Globals where
  config : Option String := none
  verbose : Bool := false
  deriving DecidableEq, Repr

/-- **Which tests run, and how many messages each sends.** -/
structure ModeArgs where
  latency : Option Nat := none
  bandwidth : Option Nat := none
  count : Option Nat := none
  deriving DecidableEq, Repr

/-- **The tests of a run**: the latency count and the bandwidth iterations,
for the tests that run. -/
structure TestPlan where
  latency : Option Nat
  bandwidth : Option Nat
  deriving DecidableEq, Repr

/-- **The plan a selection makes**: both tests when none is chosen, and the
common count in place of each test's own. -/
def ModeArgs.plan (m : ModeArgs) : TestPlan :=
  let (l, b) := match m.latency, m.bandwidth with
    | none, none => (some defaultLatencyCount, some defaultBandwidthIterations)
    | l, b => (l, b)
  ⟨l.map m.count.getD, b.map m.count.getD⟩

example : ({} : ModeArgs).plan = ⟨some 100, some 10⟩ := rfl

namespace TestPlan

/-- The latency messages sent over a channel of `capacity` bytes: none when
the latency frame does not fit. -/
def latencyMessages (p : TestPlan) (capacity : Nat) : Checked Nat := do
  match p.latency with
  | some n => if ← FrameSpec.latency.fits capacity.toUInt64 then pure n else pure 0
  | none => pure 0

/-- The bandwidth frames that fit a channel of `capacity` bytes. -/
def framesFitting (capacity : Nat) : Checked (List FrameSpec) :=
  FrameSpec.bandwidth.filterM (·.fits capacity.toUInt64)

/-- The bandwidth messages sent: the iterations for every frame that fits. -/
def bandwidthMessages (p : TestPlan) (capacity : Nat) : Checked Nat := do
  let frames ← framesFitting capacity
  pure ((p.bandwidth.map (· * frames.length)).getD 0)

/-- **The messages a guest should expect.** -/
def expectedMessages (p : TestPlan) (capacity : Nat) : Checked Nat := do
  pure ((← p.latencyMessages capacity) + (← p.bandwidthMessages capacity))

end TestPlan

/-- **Where the channel lives** and how the process runs against it. -/
structure TransportArgs where
  device : Option String := none
  wc : Bool := false
  pinCpu : Option String := none
  deriving DecidableEq, Repr

/-- **`host` arguments.** -/
structure HostArgs where
  modes : ModeArgs := {}
  transport : TransportArgs := {}
  create : Bool := false
  corruptEvery : Option Nat := none
  outputDir : String := "."
  deriving DecidableEq, Repr

/-- **`guest` arguments.** -/
structure GuestArgs where
  modes : ModeArgs := {}
  transport : TransportArgs := {}
  untilShutdown : Bool := false
  deriving DecidableEq, Repr

/-- **`baseline` arguments.** -/
structure BaselineArgs where
  iterations : Nat := 10
  size : Option Nat := none
  noShm : Bool := false
  outputDir : Option String := none
  deriving DecidableEq, Repr

/-- **`inspect` arguments.** -/
structure InspectArgs where
  transport : TransportArgs := {}
  timing : Bool := false
  deriving DecidableEq, Repr

/-- **A command with its arguments.** -/
inductive Command where
  | host (a : HostArgs)
  | guest (a : GuestArgs)
  | baseline (a : BaselineArgs)
  | inspect (a : InspectArgs)
  | validate (file : String)
  deriving DecidableEq, Repr

/-- **What a command line asks for.** -/
structure Invocation where
  globals : Globals
  command : Command
  deriving DecidableEq, Repr

namespace Invocation

/-- The test selection given. -/
def modes (g : Given) : ModeArgs :=
  ⟨g.number? "latency", g.number? "bandwidth", g.number? "count"⟩

/-- The transport settings given. -/
def transport (g : Given) : TransportArgs :=
  ⟨g.text? "device", g.flag "wc", g.text? "pin_cpu"⟩

/-- **The invocation of a command line**: a global option given after the
command wins over one given before it. -/
def ofLine (l : CommandLine) : Invocation :=
  let g := l.after
  let globals : Globals :=
    { config := (g.text? "config").orElse fun _ => l.before.text? "config",
      verbose := g.flag "verbose" || l.before.flag "verbose" }
  let command : Command :=
    match l.command.name with
    | "host" =>
      .host { modes := modes g, transport := transport g, create := g.flag "create",
              corruptEvery := g.number? "corrupt_every", outputDir := (g.text? "output_dir").getD "." }
    | "guest" => .guest { modes := modes g, transport := transport g, untilShutdown := g.flag "until_shutdown" }
    | "baseline" =>
      .baseline { iterations := (g.number? "iterations").getD 10, size := g.number? "size",
                  noShm := g.flag "no_shm", outputDir := g.text? "output_dir" }
    | "inspect" => .inspect { transport := transport g, timing := g.flag "timing" }
    | _ => .validate (g.positional.getD "")
  ⟨globals, command⟩

end Invocation

/-- A common count replaces the count of every test that runs. -/
theorem ModeArgs.plan_count (m : ModeArgs) (n : Nat) (h : m.count = some n) :
    (∀ k, m.plan.latency = some k → k = n) ∧ (∀ k, m.plan.bandwidth = some k → k = n) := by
  unfold ModeArgs.plan
  rw [h]
  constructor <;> intro k hk <;> split at hk <;> simp_all

end Cli
end ShmBench

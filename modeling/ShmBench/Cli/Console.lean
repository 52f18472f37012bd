import ShmBench.Error
import ShmBench.Counter.Source
import ShmBench.Fault
import ShmBench.Files
import ShmBench.Protocol.Program
import ShmBench.Channel.Image
import ShmBench.Text.Format

/-!
# Running a command

A command writes lines to standard output and standard error, changes files,
and may map one region, through which it changes the file behind it.  Its
state is a `RunState`; a command is a `CommandM` computation over it that may
end early (`Exit`):

* with a `Failure`: the command's error, printed as `Error: …` with the chain
  of its causes below it, and status 1;
* with a status of its own, its text already written;
* aborted by a fault, with status 101.

The state is kept when a command ends early, so what it printed and what it
wrote stay.  The mapped region is written back to its file when the command
ends (`RunState.unmap`), however it ends.
-/

namespace ShmBench
namespace Cli

/-- **A failure of a command**: its message over the chain of its causes,
nearest first. -/
structure Failure where
  message : String
  causes : List String := []
  deriving DecidableEq, Repr

namespace Failure

/-- The failure seen from a step that gives it `message` as its context. -/
def context (f : Failure) (message : String) : Failure := ⟨message, f.message :: f.causes⟩

/-- Text whose later lines start with `pad`. -/
def indentLines (pad text : String) : String :=
  match text.splitOn "\n" with
  | [] => ""
  | first :: rest => first ++ String.join (rest.map fun l => "\n" ++ pad ++ l)

/-- **The failure as printed**: `Error: ` and its message, then its causes,
numbered when there are several. -/
def render (f : Failure) : String :=
  let causes := match f.causes with
    | [] => ""
    | [c] => "\n\nCaused by:\n    " ++ indentLines "    " c
    | cs => "\n\nCaused by:" ++ String.join ((List.range cs.length).zip cs |>.map fun (i, c) =>
      "\n" ++ Layout.right 5 (toString i) ++ ": " ++ indentLines "       " c)
  "Error: " ++ f.message ++ causes ++ "\n"

/-- The failure of a benchmark error: its text, over the error it wraps. -/
def ofBench (e : BenchError) : Failure :=
  match e with
  | .config c => ⟨e.message, [c.message]⟩
  | .transition t => ⟨e.message, [t.message]⟩
  | .protocol p => ⟨e.message, p.message :: (match p with
      | .transition t => [t.message]
      | _ => [])⟩
  | .region r => ⟨e.message, [r.message]⟩
  | .counter c => ⟨e.message, c.message :: (match c with
      | .essentialUnavailable _ s => [s.message]
      | _ => [])⟩
  | .io _ s => ⟨e.message, [s.message]⟩

/-- The failure of a region error, which wraps nothing. -/
def ofRegion (e : RegionError) : Failure := ⟨e.message, []⟩

/-- The failure of a protocol error: a refused state change wraps the change. -/
def ofProtocol (e : ProtocolError) : Failure :=
  ⟨e.message, match e with
    | .transition t => [t.message]
    | _ => []⟩

/-- The failure of writing results. -/
def ofReport (e : IoError) : Failure := ⟨"Failed to write report output: " ++ e.message, [e.message]⟩

end Failure

/-- **How a command ended early.** -/
inductive Exit where
  | failed (f : Failure)
  | stopped (status : Nat)
  | aborted (message : String)
  deriving DecidableEq, Repr

/-- **What a run needs to know of its machine**: the time stamp that names
report files, the CPUs that are online, the key its entropy gives a random
generator, and how its performance counters answer an opening. -/
structure Machine where
  stamp : String := "1970-01-01T00-00-00Z"
  onlineCpus : Nat := 4
  entropy : Vector UInt32 8 := Vector.replicate 8 0
  perf : HwEvent → Except IoError EventCounter := fun _ => .error (.os 13)

/-- **The counter source a command measures with**: nothing when counting is
off, otherwise the best source the machine's counters open. -/
def Machine.counters (m : Machine) (enabled : Bool) : CounterSource :=
  if enabled then CounterSource.probe m.perf else .null

/-- **A region mapped by a command**: the file and the world seen through it. -/
structure Mapping where
  path : String
  world : World

/-- **The state of a command run.** -/
structure RunState where
  out : String := ""
  err : String := ""
  files : Files := {}
  mapped : Option Mapping := none

/-- Write a mapped region back to its file. -/
def RunState.unmap (s : RunState) : RunState :=
  match s.mapped with
  | none => s
  | some m =>
    let d := (s.files.file? m.path).getD {}
    { s with files := s.files.put m.path (.file (m.world.mem.toFile d)), mapped := none }

/-- A command run. -/
abbrev CommandM := ExceptT Exit (StateM RunState)

namespace CommandM

/-- Print a line to standard output. -/
def say (line : String) : CommandM Unit :=
  modify fun s => { s with out := s.out ++ line ++ "\n" }

/-- Print text to standard output as it is. -/
def print (text : String) : CommandM Unit :=
  modify fun s => { s with out := s.out ++ text }

/-- Print a line to standard error. -/
def complain (line : String) : CommandM Unit :=
  modify fun s => { s with err := s.err ++ line ++ "\n" }

/-- End with a failure. -/
def fail {α : Type} (f : Failure) : CommandM α := throw (.failed f)

/-- The value of a step that may fail, or the command's failure. -/
def orFail {ε α : Type} (x : Except ε α) (f : ε → Failure) : CommandM α :=
  match x with
  | .ok a => pure a
  | .error e => fail (f e)

/-- The value of a computation that may abort. -/
def checked {α : Type} (x : Checked α) : CommandM α :=
  match x with
  | .ok a => pure a
  | .error e => throw (.aborted e.message)

/-- The files. -/
def files : CommandM Files := do pure (← get).files

/-- Change the files. -/
def setFiles (fs : Files) : CommandM Unit := modify fun s => { s with files := fs }

end CommandM

/-- **How a command run ends**: its status, standard output and standard
error, and the files after it. -/
structure Outcome where
  status : Nat
  out : String
  err : String
  files : Files

/-- **Run a command** from the given files. -/
def CommandM.finish (c : CommandM Unit) (fs : Files) : Outcome :=
  let (r, s) := (c.run).run { files := fs }
  let s := s.unmap
  match r with
  | .ok () => ⟨0, s.out, s.err, s.files⟩
  | .error (.failed f) => ⟨1, s.out, s.err ++ f.render, s.files⟩
  | .error (.stopped n) => ⟨n, s.out, s.err, s.files⟩
  | .error (.aborted m) =>
    ⟨101, s.out, s.err ++ "\nthread 'main' panicked:\n" ++ m ++ "\n", s.files⟩

/-- A failure without causes prints its message alone. -/
theorem Failure.render_plain (m : String) : (⟨m, []⟩ : Failure).render = "Error: " ++ m ++ "\n" := by
  simp [Failure.render]

end Cli
end ShmBench

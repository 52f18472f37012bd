import ShmBench.Channel.Basic

/-!
# Programs over the shared channel

Both endpoints are written as programs against one `World`: the shared memory
and the mappings the two sides use.  A program is a tree of five kinds of
instruction (`Program`):

* `read k`: look at the world and continue with what was seen;
* `write f next`: change the world in one atomic step;
* `work ns next`: compute locally for `ns` nanoseconds;
* `clock k`: continue with the thread's clock, in nanoseconds;
* `poll p k`: wait until `p.ready` holds, the run is marked complete (when the
  poll honours that), or `p.timeoutNs` has passed, and continue with which of
  the three it was;
* `pure a`: finish with `a`.

Reads and writes take no time; only `work` and waiting advance a thread's
clock.  A scheduler (`Schedule`) decides how two programs interleave.

The world records, with every state-word write, the name of the thread that
made it (`World.thread`), so traces can tell the two threads apart.
-/

namespace ShmBench

/-- Which of the two mappings an endpoint uses. -/
inductive Window where
  | primary
  | secondary
  deriving DecidableEq, Repr, Inhabited

/-- **The shared world**: memory, the two mappings, and the running thread. -/
structure World where
  mem : SharedMemory := {}
  primary : Channel
  secondary : Channel
  /-- The name of the thread making the current step. -/
  thread : String := "main"

namespace World

/-- The mapping behind a window. -/
def channel (w : World) : Window → Channel
  | .primary => w.primary
  | .secondary => w.secondary

/-- Change the mapping behind a window. -/
def modifyChannel (w : World) (p : Window) (f : Channel → Channel) : World :=
  match p with
  | .primary => { w with primary := f w.primary }
  | .secondary => { w with secondary := f w.secondary }

/-- The header. -/
def header (w : World) : Header := w.mem.header

/-- Change the header. -/
def modifyHeader (w : World) (f : Header → Header) : World :=
  { w with mem := { w.mem with header := f w.mem.header } }

/-- The payload capacity seen through a window. -/
def capacity (w : World) (p : Window) : Nat := (w.channel p).capacity

/-- The host state word, read as a state. -/
def hostState (w : World) : Option HostState := w.header.host

/-- The guest state word, read as a state. -/
def guestState (w : World) : Option GuestState := w.header.guest

/-- The name of the guest state, or `UNKNOWN`. -/
def guestStateName (w : World) : String := (w.guestState.map GuestState.name).getD "UNKNOWN"

/-- The name of the host state, or `UNKNOWN`. -/
def hostStateName (w : World) : String := (w.hostState.map HostState.name).getD "UNKNOWN"

/-- **Publish a host state**: swap the word and record the write on the window's trace. -/
def publishHost (w : World) (p : Window) (s : HostState) : World :=
  let old := w.header.hostState
  let w := w.modifyHeader fun h => { h with hostState := s.toRaw }
  w.modifyChannel p (·.record ⟨.host, old, s.toRaw, w.thread⟩)

/-- **Publish a guest state**: swap the word and record the write on the window's trace. -/
def publishGuest (w : World) (p : Window) (s : GuestState) : World :=
  let old := w.header.guestState
  let w := w.modifyHeader fun h => { h with guestState := s.toRaw }
  w.modifyChannel p (·.record ⟨.guest, old, s.toRaw, w.thread⟩)

/-- The snapshot seen through a window. -/
def snapshot (w : World) (p : Window) : Snapshot := w.header.snapshot (w.capacity p)

/-- Store the magic word. -/
def setMagic (w : World) (v : UInt32) : World := w.modifyHeader ({ · with magic := v })

/-- Set or clear the test-complete flag. -/
def setComplete (w : World) (b : Bool) : World :=
  w.modifyHeader ({ · with complete := if b then 1 else 0 })

/-- Clear the message and result fields. -/
def resetHeader (w : World) : World := w.modifyHeader Header.reset

/-- Store a message's sequence number, size and digest. -/
def writeMessageHeader (w : World) (sequence dataSize : UInt32) (digest : Digest) : World :=
  w.modifyHeader ({ · with sequence, dataSize, digestWords := digest.toWords })

/-- Clear the guest's results. -/
def clearResults (w : World) : World := w.modifyHeader ({ · with errorCode := 0, timing := {} })

/-- Store the guest's results. -/
def writeResults (w : World) (timing : TimingWire) (code : ResultCode) : World :=
  w.modifyHeader ({ · with timing, errorCode := code.toRaw })

/-- Copy bytes to the start of the payload area. -/
def writePayload (w : World) (bytes : ByteArray) : World := { w with mem := w.mem.write bytes }

/-- The first `len` payload bytes. -/
def readPayload (w : World) (len : Nat) : ByteArray := w.mem.read len

end World

/-- Why a wait ended. -/
inductive PollOutcome where
  | ready
  | timedOut (waitedNs : Nat)
  | shutdown
  deriving DecidableEq, Repr, Inhabited

/-- Whether a wait ended with its condition met. -/
def PollOutcome.isReady : PollOutcome → Bool
  | .ready => true
  | _ => false

/-- **A wait**: check `ready` every `intervalNs` until `timeoutNs` has passed. -/
structure Poll where
  intervalNs : Nat
  timeoutNs : Nat
  /-- Whether a complete run ends the wait first. -/
  honorShutdown : Bool := true
  ready : World → Bool

/-- **When a wait that nothing ends gives up**, counted from its start: at the
first check at or after its timeout.  Checks are one interval apart, so that
is the timeout rounded up to a whole number of intervals; a wait that spins
(interval zero) gives up at the timeout itself. -/
def Poll.expiryNs (p : Poll) : Nat :=
  if p.intervalNs = 0 then p.timeoutNs
  else (p.timeoutNs + p.intervalNs - 1) / p.intervalNs * p.intervalNs

/-- The first check of a wait: its outcome if it ends at once. -/
def Poll.check (p : Poll) (w : World) : Option PollOutcome :=
  if p.honorShutdown && w.header.isComplete then some .shutdown
  else if p.ready w then some .ready
  else none

/-- **A program** run by one thread against the shared world. -/
inductive Program (α : Type) where
  | pure (a : α)
  | read (k : World → Program α)
  | write (f : World → World) (next : Program α)
  | work (ns : Nat) (next : Program α)
  | clock (k : Nat → Program α)
  | poll (p : Poll) (k : PollOutcome → Program α)

namespace Program

/-- Run `x`, then the program `f` makes of its result. -/
def bind {α β : Type} : Program α → (α → Program β) → Program β
  | .pure a, f => f a
  | .read k, f => .read fun w => (k w).bind f
  | .write g next, f => .write g (next.bind f)
  | .work ns next, f => .work ns (next.bind f)
  | .clock k, f => .clock fun t => (k t).bind f
  | .poll p k, f => .poll p fun o => (k o).bind f

instance : Monad Program where
  pure := .pure
  bind := Program.bind

/-- Look at the world. -/
def look : Program World := .read .pure

/-- Change the world. -/
def change (f : World → World) : Program Unit := .write f (.pure ())

/-- Compute for `ns` nanoseconds. -/
def spend (ns : Nat) : Program Unit := .work ns (.pure ())

/-- The thread's clock. -/
def now : Program Nat := .clock .pure

/-- Wait as `p` says. -/
def await (p : Poll) : Program PollOutcome := .poll p .pure

end Program
end ShmBench

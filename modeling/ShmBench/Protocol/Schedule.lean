import ShmBench.Protocol.Program
import ShmBench.Bench.Harness

/-!
# Running two programs side by side

Two threads, `main` and `worker`, run programs against one world in virtual
time.  Each thread has a clock.  A running thread's next event is at its
clock; a waiting thread's next event is the moment it notices a change, or
its deadline.  The scheduler always advances the thread whose next event
comes first; on a tie a running thread goes before a waiting one, and `main`
before `worker`.

A waiting thread is woken only by a write of the other thread that makes its
wait end: it notices the change one poll interval after the write
(`Cost.wake`), checks again then, and waits on if the change has been undone.
A wait that nothing ends expires at its first check past the timeout
(`Poll.expiryNs`) with a `timedOut` outcome.

The run is bounded by a number of events (`Schedule.run`); both programs of a
session step finish long before the bound.
-/

namespace ShmBench

/-- **A scheduled thread.** -/
inductive Thread (α : Type) where
  | running (clock : Nat) (p : Program α)
  /-- Waiting since `since`; `wake` is when it will notice a change. -/
  | waiting (since : Nat) (wake : Option Nat) (p : Poll) (k : PollOutcome → Program α)
  | finished (clock : Nat) (a : α)

namespace Thread

/-- The time of the thread's next event; none once it has finished. -/
def eventTime {α : Type} : Thread α → Option Nat
  | .running c _ => some c
  | .waiting since wake p _ =>
    let deadline := since + p.expiryNs
    some (match wake with | some x => min x deadline | none => deadline)
  | .finished _ _ => none

/-- Whether the thread is running. -/
def isRunning {α : Type} : Thread α → Bool
  | .running _ _ => true
  | _ => false

/-- The thread's clock. -/
def clock {α : Type} : Thread α → Nat
  | .running c _ => c
  | .waiting since wake _ _ => since.max (wake.getD 0)
  | .finished c _ => c

/-- The thread's result, once finished. -/
def result? {α : Type} : Thread α → Option α
  | .finished _ a => some a
  | _ => none

/-- **One event of a thread**: the world afterwards, the thread afterwards, and
whether it wrote. -/
def advance {α : Type} (label : String) (w : World) : Thread α → World × Thread α × Bool
  | .running c (.pure a) => (w, .finished c a, false)
  | .running c (.read k) => (w, .running c (k w), false)
  | .running c (.write f next) => (f { w with thread := label }, .running c next, true)
  | .running c (.work ns next) => (w, .running (c + ns) next, false)
  | .running c (.clock k) => (w, .running c (k c), false)
  | .running c (.poll p k) =>
    match p.check w with
    | some o => (w, .running c (k o), false)
    | none =>
      if p.timeoutNs = 0 then (w, .running c (k (.timedOut 0)), false)
      else (w, .waiting c none p k, false)
  | t@(.waiting since wake p k) =>
    let now := (t.eventTime).getD since
    match p.check w with
    | some o => (w, .running now (k o), false)
    | none =>
      if now ≥ since + p.timeoutNs then (w, .running now (k (.timedOut (now - since))), false)
      else (w, .waiting since (if wake == some now then none else wake) p k, false)
  | t@(.finished _ _) => (w, t, false)

/-- **Notice a write** made at time `t` by the other thread: a wait that the
write ends is woken one poll interval later. -/
def notice {α : Type} (w : World) (t : Nat) : Thread α → Thread α
  | th@(.waiting since wake p k) =>
    if (p.check w).isSome then
      let at_ := max t since + Cost.wake p.intervalNs
      .waiting since (some (match wake with | some x => min x at_ | none => at_)) p k
    else th
  | th => th

end Thread

namespace Schedule

/-- Whether `main` moves before `worker`. -/
def mainFirst {α β : Type} (a : Thread α) (b : Thread β) : Bool :=
  match a.eventTime, b.eventTime with
  | some x, some y => x < y || (x == y && (a.isRunning || !b.isRunning))
  | some _, none => true
  | none, _ => false

/-- **One scheduling step**: the earlier thread moves, and the other notices its write. -/
def step {α β : Type} (w : World) (a : Thread α) (b : Thread β) : World × Thread α × Thread β :=
  if mainFirst a b then
    let t := a.clock
    let (w, a, wrote) := a.advance "main" w
    (w, a, if wrote then b.notice w t else b)
  else
    let t := b.clock
    let (w, b, wrote) := b.advance "worker" w
    (w, (if wrote then a.notice w t else a), b)

/-- Run until both threads finish, at most `fuel` steps. -/
def runFor {α β : Type} : Nat → World → Thread α → Thread β → World × Thread α × Thread β
  | 0, w, a, b => (w, a, b)
  | fuel + 1, w, a, b =>
    if a.eventTime.isNone && b.eventTime.isNone then (w, a, b)
    else
      let (w, a, b) := step w a b
      runFor fuel w a b

/-- The step bound of one run. -/
def bound : Nat := 10000000

/-- **Run `main` and `worker` together** from time zero. -/
def run {α β : Type} (w : World) (main : Program α) (worker : Program β) :
    World × Option α × Option β :=
  let (w, a, b) := runFor bound w (.running 0 main) (.running 0 worker)
  (w, a.result?, b.result?)

/-- **Run one program alone** on `main`. -/
def runAlone {α : Type} (w : World) (main : Program α) : World × Option α :=
  let (w, a, _) := runFor bound w (.running 0 main) (Thread.finished 0 ())
  (w, a.result?)

end Schedule
end ShmBench

import ShmBench.Counter.Report
import ShmBench.Error

/-!
# Counter sources

A counter source brackets a measured region: `start` resets and enables every
counter, `stop` disables and reads them and derives the rates over the bytes
handled.  Counting never decides whether a message succeeds: a counter whose
operation fails is skipped, and its field keeps the value zero.

There are two sources.  The null source counts nothing and reports zeros.  A
hardware set holds one event counter per event that could be opened; it is
opened in `HwEvent.all` order, and fails as a whole only when an essential
event cannot be opened (`HardwareCounters.openWith`).  Closing a set releases
every counter, so later regions report zeros.

An event counter is a device known only by its answers (`EventCounter`): the
answer to each call may depend on every call made on it before, as a real
counter's and a test fake's do.  The devices of the JSON descriptions answer
from fixed settings (`FixedAnswers`).
-/

namespace ShmBench

/-- **A call on an event counter device.** -/
inductive CounterCall where
  | reset
  | enable
  | disable
  | read
  deriving DecidableEq, Repr

/-- **An event counter device**, known by its answers: each call answers
according to the calls made on it before; a reset, enable or disable answers
with a value nothing reads. -/
structure EventCounter where
  answer : List CounterCall → CounterCall → Except IoError UInt64
  /-- The calls made on it so far, oldest first. -/
  calls : List CounterCall := []

namespace EventCounter

/-- What a call answers now. -/
def ask (c : EventCounter) (k : CounterCall) : Except IoError UInt64 := c.answer c.calls k

/-- The device after one more call. -/
def record (c : EventCounter) (k : CounterCall) : EventCounter := { c with calls := c.calls ++ [k] }

/-- What a read gives now. -/
def read (c : EventCounter) : Except IoError UInt64 := c.ask .read

/-- Reset, then enable when the reset succeeded. -/
def restart (c : EventCounter) : EventCounter :=
  match c.ask .reset with
  | .error _ => c.record .reset
  | .ok _ => (c.record .reset).record .enable

/-- Disable. -/
def halt (c : EventCounter) : EventCounter := c.record .disable

end EventCounter

/-- The name of a call, as its failures word it. -/
def CounterCall.name : CounterCall → String
  | .reset => "reset"
  | .enable => "enable"
  | .disable => "disable"
  | .read => "read"

/-- **Fixed answers for a device**: each call may be set to fail, and every
enable adds the same amount to the count. -/
structure FixedAnswers where
  /-- What each enable adds to the count, wrapping. -/
  increment : UInt64 := 0
  resetFails : Bool := false
  enableFails : Bool := false
  disableFails : Bool := false
  readFails : Bool := false
  deriving DecidableEq, Repr, Inhabited

namespace FixedAnswers

/-- Whether a call is set to fail. -/
def fails (f : FixedAnswers) : CounterCall → Bool
  | .reset => f.resetFails
  | .enable => f.enableFails
  | .disable => f.disableFails
  | .read => f.readFails

/-- The count after some calls: a reset that does not fail zeroes it, an
enable that does not fail adds the increment. -/
def count (f : FixedAnswers) (calls : List CounterCall) : UInt64 :=
  calls.foldl (fun n k => if f.fails k then n else match k with
    | .reset => 0
    | .enable => n + f.increment
    | _ => n) 0

/-- **The device that answers so**: a call set to fail fails, any other
answers the count. -/
def device (f : FixedAnswers) : EventCounter where
  answer calls k := if f.fails k then .error (.custom s!"fake {k.name} failure") else .ok (f.count calls)

end FixedAnswers

/-- **An opened hardware counter set**: one counter per opened event, in
opening order. -/
abbrev HardwareCounters := List (HwEvent × EventCounter)

namespace HardwareCounters

/-- Open events in order; an essential event that cannot be opened fails the set,
an optional one is skipped. -/
def openEvents (opener : HwEvent → Except IoError EventCounter) :
    List HwEvent → Except CounterError HardwareCounters
  | [] => .ok []
  | e :: rest =>
    match opener e with
    | .ok c => (openEvents opener rest).map ((e, c) :: ·)
    | .error source =>
      if e.isEssential then .error (.essentialUnavailable e.name source)
      else openEvents opener rest

/-- **Open a counter set** with `opener`, every event in `HwEvent.all` order. -/
def openWith (opener : HwEvent → Except IoError EventCounter) : Except CounterError HardwareCounters :=
  openEvents opener HwEvent.all

/-- The raw counts read from every counter whose read succeeds. -/
def readAll (cs : HardwareCounters) : RawCounts :=
  cs.foldl (fun raw (e, c) => match c.read with
    | .ok v => raw.set e v
    | .error _ => raw) RawCounts.zero

end HardwareCounters

/-- **A counter source**: counting nothing, or a hardware set. -/
inductive CounterSource where
  | null
  | hardware (counters : HardwareCounters)
  deriving Inhabited

namespace CounterSource

/-- The source's short name. -/
def name : CounterSource → String
  | .null => "null"
  | .hardware _ => "perf_event"

/-- Whether real counts will be produced. -/
def isAvailable : CounterSource → Bool
  | .null => false
  | .hardware cs => !cs.isEmpty

/-- The number of open counters. -/
def opened : CounterSource → Nat
  | .null => 0
  | .hardware cs => cs.length

/-- Reset and enable every counter. -/
def start : CounterSource → CounterSource
  | .null => .null
  | .hardware cs => .hardware (cs.map fun (e, c) => (e, c.restart))

/-- Disable and read every counter, and derive the rates over `byteCount` bytes. -/
def stop (s : CounterSource) (byteCount : UInt64) : CounterReport × CounterSource :=
  match s with
  | .null => (CounterReport.zeroed, .null)
  | .hardware cs =>
    let cs := cs.map fun (e, c) => (e, c.halt)
    (CounterReport.derive (HardwareCounters.readAll cs) byteCount,
      .hardware (cs.map fun (e, c) => (e, c.record .read)))

/-- Release every counter. -/
def close : CounterSource → CounterSource
  | .null => .null
  | .hardware _ => .hardware []

/-- **The best source an opener gives**: the hardware set when it opens, the null
source otherwise. -/
def probe (opener : HwEvent → Except IoError EventCounter) : CounterSource :=
  match HardwareCounters.openWith opener with
  | .ok cs => .hardware cs
  | .error _ => .null

/-- The null source always reports zeros. -/
theorem stop_null (n : UInt64) : (CounterSource.null.stop n).1 = CounterReport.zeroed := rfl

end CounterSource
end ShmBench

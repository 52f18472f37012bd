import ShmBench.Protocol.Program
import Mathlib.Logic.Relation

/-!
# Every interleaving of a host and a guest

`Schedule` runs two programs in one fixed order, the one virtual time gives.
The endpoints' guarantees are stated for **every** order the operating system
may choose, and for every moment at which a wait may give up.  This module
gives that semantics.

A thread in flight (`Proc`) is a program, or a wait whose flag check has passed
and whose condition is read next: one check of a wait reads the test-complete
flag and then, separately, the condition, so the other thread may write between
the two reads.  One step of a thread (`Proc.Step`) is one instruction:

* a read, a write, a stretch of work, or a look at the clock, whose value is any
  number;
* the flag check of a wait, which ends it with `shutdown` when the wait honours
  the flag and the run is complete;
* the condition check of a wait, which ends it with `ready` when the condition
  holds, or, when it does not, either gives up with any waited time of at least
  the timeout or goes back to the flag check.

Writes and the ends of waits are the steps other threads can tell apart; they
show an `Event`.  The host runs as `main` and the guest as `worker`
(`Config.Step`), so the trace names each writer.

`Config.replay` replays one interleaving given as a list of turns; it is the
deterministic witness of a reachable configuration (`Config.replay_sound`).
-/

namespace ShmBench

/-- The world as the thread named `label` writes it. -/
def World.stamp (w : World) (label : String) : World := { w with thread := label }

/-- Whether the flag check of a wait ends it: the wait honours the
test-complete flag and the flag is set. -/
def Poll.flagged (p : Poll) (w : World) : Bool := p.honorShutdown && w.header.isComplete

namespace Interleaving

/-- **What a step shows** the rest of the system: a write, with the world
before and after it, or the end of a wait, with its outcome and the world the
last check read. -/
inductive Event where
  | write (before after : World)
  | observe (o : PollOutcome) (w : World)

/-- How an event moves the world from `w` to `w'`: a write replaces it, the
end of a wait leaves it as it was read. -/
def Event.Effect : Event → World → World → Prop
  | .write b a, w, w' => b = w ∧ a = w'
  | .observe _ v, w, w' => v = w ∧ w' = w

/-- **A thread in flight**: a program, or a wait whose flag check has passed. -/
inductive Proc (α : Type) where
  | run (p : Program α)
  | check (p : Poll) (k : PollOutcome → Program α)

/-- The value of a thread that has finished. -/
def Proc.finished {α : Type} : Proc α → Option α
  | .run (.pure a) => some a
  | _ => none

@[simp] theorem Proc.finished_eq_some {α : Type} {p : Proc α} {a : α} :
    p.finished = some a ↔ p = .run (.pure a) := by
  cases p with
  | run q => cases q <;> simp [Proc.finished]
  | check => simp [Proc.finished]

@[simp] theorem Proc.finished_isSome {α : Type} {p : Proc α} :
    p.finished.isSome = true ↔ ∃ a, p = .run (.pure a) := by
  simp [Option.isSome_iff_exists]

/-- **A thread followed by the rest of a program** `k`: how a call inside a
larger program stands while it runs. -/
def Proc.andThen {α β : Type} : Proc α → (α → Program β) → Proc β
  | .run p, k => .run (p.bind k)
  | .check p c, k => .check p fun o => (c o).bind k

@[simp] theorem Proc.andThen_pure {α β : Type} (a : α) (k : α → Program β) :
    (Proc.run (.pure a)).andThen k = .run (k a) := rfl

/-- **One step of the thread named `label`**, from world `w` to world `w'`,
with the event it shows (`none` for a step no other thread can see). -/
inductive Proc.Step {α : Type} (label : String) :
    World → Proc α → Option Event → World → Proc α → Prop
  | read (w : World) (k : World → Program α) :
    Step label w (.run (.read k)) none w (.run (k w))
  | write (w : World) (f : World → World) (next : Program α) :
    Step label w (.run (.write f next)) (some (.write w (f (w.stamp label))))
      (f (w.stamp label)) (.run next)
  | work (w : World) (ns : Nat) (next : Program α) :
    Step label w (.run (.work ns next)) none w (.run next)
  | clock (w : World) (k : Nat → Program α) (t : Nat) :
    Step label w (.run (.clock k)) none w (.run (k t))
  | halt (w : World) (p : Poll) (k : PollOutcome → Program α) (h : p.flagged w = true) :
    Step label w (.run (.poll p k)) (some (.observe .shutdown w)) w (.run (k .shutdown))
  | pass (w : World) (p : Poll) (k : PollOutcome → Program α) (h : p.flagged w = false) :
    Step label w (.run (.poll p k)) none w (.check p k)
  | ready (w : World) (p : Poll) (k : PollOutcome → Program α) (h : p.ready w = true) :
    Step label w (.check p k) (some (.observe .ready w)) w (.run (k .ready))
  | expire (w : World) (p : Poll) (k : PollOutcome → Program α) (n : Nat)
      (h : p.ready w = false) (hn : p.timeoutNs ≤ n) :
    Step label w (.check p k) (some (.observe (.timedOut n) w)) w (.run (k (.timedOut n)))
  | retry (w : World) (p : Poll) (k : PollOutcome → Program α) (h : p.ready w = false) :
    Step label w (.check p k) none w (.run (.poll p k))

/-- How a step moves the world: a silent step leaves it as it was, a step
that shows an event moves it as the event says. -/
def Event.Shifts : Option Event → World → World → Prop
  | none, w, w' => w' = w
  | some e, w, w' => e.Effect w w'

theorem Proc.Step.shifts {α : Type} {label : String} {w w' : World} {p p' : Proc α}
    {e : Option Event} (h : Proc.Step label w p e w' p') : Event.Shifts e w w' := by
  cases h <;> simp [Event.Shifts, Event.Effect]

/-- **The host and the guest over one world.** -/
structure Config (α β : Type) where
  world : World
  host : Proc α
  guest : Proc β

/-- **One step of the system**: the host (`main`) or the guest (`worker`) moves. -/
inductive Config.Step {α β : Type} : Config α β → Config α β → Prop
  | host {w w' : World} {p p' : Proc α} {q : Proc β} {e : Option Event} :
    Proc.Step "main" w p e w' p' → Step ⟨w, p, q⟩ ⟨w', p', q⟩
  | guest {w w' : World} {p : Proc α} {q q' : Proc β} {e : Option Event} :
    Proc.Step "worker" w q e w' q' → Step ⟨w, p, q⟩ ⟨w', p, q'⟩

/-- The configurations some interleaving leads to. -/
def Config.Reachable {α β : Type} : Config α β → Config α β → Prop :=
  Relation.ReflTransGen Config.Step

/-- The configurations some interleaving leads to through worlds that all
satisfy `F`. -/
def Config.ReachableWhile {α β : Type} (F : World → Prop) : Config α β → Config α β → Prop :=
  Relation.ReflTransGen fun c c' => Config.Step c c' ∧ F c'.world

theorem Config.ReachableWhile.reachable {α β : Type} {F : World → Prop} {c c' : Config α β}
    (h : c.ReachableWhile F c') : c.Reachable c' := by
  induction h with
  | refl => exact Relation.ReflTransGen.refl
  | tail _ hs ih => exact ih.tail hs.1

/-- Along such a path `F` holds throughout once it holds at the start. -/
theorem Config.ReachableWhile.holds {α β : Type} {F : World → Prop} {c c' : Config α β}
    (h : c.ReachableWhile F c') (hc : F c.world) : F c'.world := by
  cases h.cases_tail with
  | inl heq => exact heq ▸ hc
  | inr h' =>
    obtain ⟨_, -, -, hF⟩ := h'
    exact hF

/-! ## Replaying one interleaving -/

/-- **How a replayed step is resolved.** -/
inductive Choice where
  /-- The next instruction; for a wait, its flag check, or a condition check
  that finds the condition met. -/
  | go
  /-- A look at the clock that reads `t`. -/
  | clock (t : Nat)
  /-- A condition check that gives up after `n` nanoseconds. -/
  | expire (n : Nat)
  /-- A condition check that waits on. -/
  | retry
  deriving DecidableEq, Repr

/-- **One replayed step** of the thread named `label`, if `c` applies. -/
def Proc.replay {α : Type} (label : String) (c : Choice) (w : World) :
    Proc α → Option (World × Proc α)
  | .run (.read k) => if c = .go then some (w, .run (k w)) else none
  | .run (.write f next) => if c = .go then some (f (w.stamp label), .run next) else none
  | .run (.work _ next) => if c = .go then some (w, .run next) else none
  | .run (.clock k) =>
    match c with
    | .clock t => some (w, .run (k t))
    | _ => none
  | .run (.poll p k) =>
    if c = .go then
      if p.flagged w then some (w, .run (k .shutdown)) else some (w, .check p k)
    else none
  | .run (.pure _) => none
  | .check p k =>
    match c with
    | .go => if p.ready w then some (w, .run (k .ready)) else none
    | .expire n => if !p.ready w && decide (p.timeoutNs ≤ n) then
        some (w, .run (k (.timedOut n))) else none
    | .retry => if !p.ready w then some (w, .run (.poll p k)) else none
    | .clock _ => none

/-- A replayed step is a step. -/
theorem Proc.replay_sound {α : Type} {label : String} {c : Choice} {w w' : World}
    {p p' : Proc α} (h : p.replay label c w = some (w', p')) :
    ∃ e, Proc.Step label w p e w' p' := by
  cases p with
  | run prog =>
    cases prog with
    | pure a => simp [replay] at h
    | read k =>
      simp only [replay, Option.ite_none_right_eq_some, Option.some.injEq, Prod.mk.injEq] at h
      obtain ⟨-, rfl, rfl⟩ := h
      exact ⟨_, .read w k⟩
    | write f next =>
      simp only [replay, Option.ite_none_right_eq_some, Option.some.injEq, Prod.mk.injEq] at h
      obtain ⟨-, rfl, rfl⟩ := h
      exact ⟨_, .write w f next⟩
    | work ns next =>
      simp only [replay, Option.ite_none_right_eq_some, Option.some.injEq, Prod.mk.injEq] at h
      obtain ⟨-, rfl, rfl⟩ := h
      exact ⟨_, .work w ns next⟩
    | clock k =>
      cases c with
      | clock t =>
        simp only [replay, Option.some.injEq, Prod.mk.injEq] at h
        obtain ⟨rfl, rfl⟩ := h
        exact ⟨_, .clock w k t⟩
      | _ => simp [replay] at h
    | poll q k =>
      simp only [replay, Option.ite_none_right_eq_some] at h
      obtain ⟨-, h⟩ := h
      cases hf : q.flagged w with
      | true =>
        simp only [hf, ite_true, Option.some.injEq, Prod.mk.injEq] at h
        obtain ⟨rfl, rfl⟩ := h
        exact ⟨_, .halt w q k hf⟩
      | false =>
        simp only [hf, Bool.false_eq_true, ite_false, Option.some.injEq, Prod.mk.injEq] at h
        obtain ⟨rfl, rfl⟩ := h
        exact ⟨_, .pass w q k hf⟩
  | check q k =>
    cases c with
    | go =>
      simp only [replay, Option.ite_none_right_eq_some, Option.some.injEq, Prod.mk.injEq] at h
      obtain ⟨hr, rfl, rfl⟩ := h
      exact ⟨_, .ready w q k hr⟩
    | expire n =>
      simp only [replay, Bool.and_eq_true, Bool.not_eq_eq_eq_not, Bool.not_true,
        decide_eq_true_eq, Option.ite_none_right_eq_some, Option.some.injEq,
        Prod.mk.injEq] at h
      obtain ⟨⟨hr, hn⟩, rfl, rfl⟩ := h
      exact ⟨_, .expire w q k n hr hn⟩
    | retry =>
      simp only [replay, Bool.not_eq_eq_eq_not, Bool.not_true, Option.ite_none_right_eq_some,
        Option.some.injEq, Prod.mk.injEq] at h
      obtain ⟨hr, rfl, rfl⟩ := h
      exact ⟨_, .retry w q k hr⟩
    | clock t => simp [replay] at h

/-- **Whose turn it is**, and how its step is resolved. -/
inductive Turn where
  | host (c : Choice)
  | guest (c : Choice)
  deriving DecidableEq, Repr

/-- **Replay an interleaving** turn by turn; `none` when a turn does not apply. -/
def Config.replay {α β : Type} : List Turn → Config α β → Option (Config α β)
  | [], s => some s
  | .host c :: ts, ⟨w, p, q⟩ =>
    match p.replay "main" c w with
    | some (w', p') => replay ts ⟨w', p', q⟩
    | none => none
  | .guest c :: ts, ⟨w, p, q⟩ =>
    match q.replay "worker" c w with
    | some (w', q') => replay ts ⟨w', p, q'⟩
    | none => none

/-- **A replayed interleaving is one the system can take.** -/
theorem Config.replay_sound {α β : Type} {ts : List Turn} {s s' : Config α β}
    (h : Config.replay ts s = some s') : s.Reachable s' := by
  induction ts generalizing s with
  | nil =>
    simp only [replay, Option.some.injEq] at h
    exact h ▸ Relation.ReflTransGen.refl
  | cons t ts ih =>
    obtain ⟨w, p, q⟩ := s
    cases t with
    | host c =>
      simp only [replay] at h
      split at h
      · rename_i w' p' hp
        obtain ⟨e, he⟩ := Proc.replay_sound hp
        exact Relation.ReflTransGen.head (.host he) (ih h)
      · cases h
    | guest c =>
      simp only [replay] at h
      split at h
      · rename_i w' q' hq
        obtain ⟨e, he⟩ := Proc.replay_sound hq
        exact Relation.ReflTransGen.head (.guest he) (ih h)
      · cases h

end Interleaving
end ShmBench

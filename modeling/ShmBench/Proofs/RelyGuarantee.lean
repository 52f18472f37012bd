import ShmBench.Proofs.Interleaving

/-!
# Rely and guarantee for two threads

A thread is judged on its own (`Side`): what the other thread may do to the
world between two of its steps (`Side.env`, the *rely*), and a discipline its
own events must follow, a relation on a ghost state (`Side.move`, the
*guarantee*).  The weakest precondition `Program.wp` of a program asks, for
every world the other thread may lead to before each instruction, that every
write and every end of a wait is a move of the discipline, and that the
postcondition holds once the program is done.  It is defined by recursion on
the program, as a fold over its tree.

Every weakest precondition is stable under the rely (`Program.wp_later`), and
a step of the thread keeps it, making the move its event shows
(`Proc.wp_step`).  When each side's writes are steps the other side relies on,
the two weakest preconditions and any invariant of the ghost states that both
disciplines keep hold in every configuration some interleaving reaches
(`Config.reachable_holds`): this is the only place interleavings are reasoned
about.

Endpoint operations are programs of `StateT σ Program`, and of
`ExceptT ε (StateT σ Program)` when they can fail; `stWp` and `opWp` are their
weakest preconditions, with one rule per building block, so a `do` block is
taken apart by rewriting (`opWp_bind`, `opWp_get`, `opWp_lift`, …).
-/

namespace ShmBench
namespace Interleaving

/-- **How one thread is judged**: its name, the moves of its discipline, and
what the other thread may do to the world between two of its steps. -/
structure Side (K : Type) where
  /-- The name the thread's writes record. -/
  label : String
  /-- An event of the thread takes the ghost state from one value to another. -/
  move : K → Event → K → Prop
  /-- A step of the other thread. -/
  env : World → World → Prop

namespace Side

variable {K : Type} (S : Side K)

/-- The worlds the other thread can lead to from `w`. -/
def Later (w w' : World) : Prop := Relation.ReflTransGen S.env w w'

/-- `P` holds now and after anything the other thread does. -/
def Hence (P : K → World → Prop) (k : K) (w : World) : Prop := ∀ w', S.Later w w' → P k w'

/-- A world predicate that no step of the other thread breaks. -/
def Stable (P : World → Prop) : Prop := ∀ w w', S.env w w' → P w → P w'

/-- The move a step makes: none for a silent step, the discipline's for an event. -/
def Moves (k : K) : Option Event → K → Prop
  | none, k' => k' = k
  | some e, k' => S.move k e k'

variable {S}

theorem later_refl (w : World) : S.Later w w := Relation.ReflTransGen.refl

theorem Later.trans {w w' w'' : World} (h : S.Later w w') (h' : S.Later w' w'') :
    S.Later w w'' :=
  Relation.ReflTransGen.trans h h'

theorem later_of_env {w w' : World} (h : S.env w w') : S.Later w w' :=
  Relation.ReflTransGen.single h

/-- A stable predicate survives any number of steps of the other thread. -/
theorem Stable.later {P : World → Prop} (hP : S.Stable P) {w w' : World} (h : S.Later w w')
    (hw : P w) : P w' := by
  induction h with
  | refl => exact hw
  | tail _ he ih => exact hP _ _ he ih

theorem Stable.and {P P' : World → Prop} (hP : S.Stable P) (hP' : S.Stable P') :
    S.Stable (fun w => P w ∧ P' w) :=
  fun w w' he h => ⟨hP w w' he h.1, hP' w w' he h.2⟩

theorem hence_self {P : K → World → Prop} {k : K} {w : World} (h : S.Hence P k w) : P k w :=
  h w (later_refl w)

theorem Hence.later {P : K → World → Prop} {k : K} {w w' : World} (h : S.Hence P k w)
    (hw : S.Later w w') : S.Hence P k w' :=
  fun w'' h' => h w'' (hw.trans h')

theorem hence_hence {P : K → World → Prop} {k : K} {w : World} :
    S.Hence (S.Hence P) k w ↔ S.Hence P k w :=
  ⟨hence_self, fun h _ hw => h.later hw⟩

end Side

variable {K : Type} (S : Side K)

/-! ## The weakest precondition of a program -/

/-- The condition part of a wait: at any later world the condition is read;
met, the wait ends `ready`, otherwise it may give up after any time of at
least the timeout.  `next o` is what the continuation needs after outcome `o`. -/
def Side.condPre (p : Poll) (next : PollOutcome → K → World → Prop) (k : K) (w : World) : Prop :=
  ∀ w', S.Later w w' →
    (p.ready w' = true → ∃ k', S.move k (.observe .ready w') k' ∧ next .ready k' w') ∧
    (p.ready w' = false → ∀ n, p.timeoutNs ≤ n →
      ∃ k', S.move k (.observe (.timedOut n) w') k' ∧ next (.timedOut n) k' w')

/-- A whole wait: at any later world the flag is read; set (and honoured), the
wait ends `shutdown`, otherwise its condition is read next. -/
def Side.pollPre (p : Poll) (next : PollOutcome → K → World → Prop) (k : K) (w : World) : Prop :=
  ∀ w', S.Later w w' →
    (p.flagged w' = true → ∃ k', S.move k (.observe .shutdown w') k' ∧ next .shutdown k' w') ∧
    (p.flagged w' = false → S.condPre p next k w')

end Interleaving

/-- How a wait may end at world `w`: `shutdown` when its flag check ends it,
`ready` when its condition holds, `timedOut n` when the condition fails and
`n` is at least the timeout. -/
def Poll.EndsWith (p : Poll) : PollOutcome → World → Prop
  | .shutdown, w => p.flagged w = true
  | .ready, w => p.ready w = true
  | .timedOut n, w => p.ready w = false ∧ p.timeoutNs ≤ n

open Interleaving

variable {K α β : Type} (S : Side K)

/-- **The weakest precondition** of a program run by `S`'s thread: before each
instruction the other thread may have moved; each write and each end of a
wait makes a move of the discipline; `Q` holds of the result, the ghost state
and every world from the end on. -/
def Program.wp : Program α → (α → K → World → Prop) → K → World → Prop
  | .pure a, Q, k, w => S.Hence (Q a) k w
  | .read c, Q, k, w => ∀ w', S.Later w w' → (c w').wp Q k w'
  | .write f next, Q, k, w => ∀ w', S.Later w w' →
    ∃ k', S.move k (.write w' (f (w'.stamp S.label))) k' ∧ next.wp Q k' (f (w'.stamp S.label))
  | .work _ next, Q, k, w => ∀ w', S.Later w w' → next.wp Q k w'
  | .clock c, Q, k, w => ∀ w', S.Later w w' → ∀ t, (c t).wp Q k w'
  | .poll p c, Q, k, w => S.pollPre p (fun o => (c o).wp Q) k w

namespace Interleaving

variable {S}

theorem condPre_later {p : Poll} {next : PollOutcome → K → World → Prop} {k : K} {w w' : World}
    (h : S.condPre p next k w) (hw : S.Later w w') : S.condPre p next k w' :=
  fun w'' h' => h w'' (hw.trans h')

theorem pollPre_later {p : Poll} {next : PollOutcome → K → World → Prop} {k : K} {w w' : World}
    (h : S.pollPre p next k w) (hw : S.Later w w') : S.pollPre p next k w' :=
  fun w'' h' => h w'' (hw.trans h')

end Interleaving

namespace Program

variable {S}

/-- **A weakest precondition is stable**: the other thread cannot break it. -/
theorem wp_later {p : Program α} {Q : α → K → World → Prop} {k : K} {w w' : World}
    (h : p.wp S Q k w) (hw : S.Later w w') : p.wp S Q k w' := by
  cases p with
  | pure a => exact Side.Hence.later h hw
  | read c => exact fun w'' h' => h w'' (hw.trans h')
  | write f next => exact fun w'' h' => h w'' (hw.trans h')
  | work ns next => exact fun w'' h' => h w'' (hw.trans h')
  | clock c => exact fun w'' h' => h w'' (hw.trans h')
  | poll p c => exact pollPre_later h hw

theorem hence_wp {p : Program α} {Q : α → K → World → Prop} {k : K} {w : World} :
    S.Hence (p.wp S Q) k w ↔ p.wp S Q k w :=
  ⟨Side.hence_self, fun h _ hw => wp_later h hw⟩

/-- **Weakening the postcondition**: what `Q` gives from the end on is enough. -/
theorem wp_mono_hence {p : Program α} {Q Q' : α → K → World → Prop}
    (hQ : ∀ a k w, S.Hence (Q a) k w → Q' a k w) {k : K} {w : World} (h : p.wp S Q k w) :
    p.wp S Q' k w := by
  induction p generalizing k w with
  | pure a => exact fun w' hw => hQ a k w' (Side.Hence.later h hw)
  | read c ih => exact fun w' hw => ih w' (h w' hw)
  | write f next ih =>
    intro w' hw
    obtain ⟨k', hm, hn⟩ := h w' hw
    exact ⟨k', hm, ih hn⟩
  | work ns next ih => exact fun w' hw => ih (h w' hw)
  | clock c ih => exact fun w' hw t => ih t (h w' hw t)
  | poll p c ih =>
    intro w' hw
    obtain ⟨hs, hc⟩ := h w' hw
    refine ⟨fun hf => ?_, fun hf w'' hw' => ?_⟩
    · obtain ⟨k', hm, hn⟩ := hs hf
      exact ⟨k', hm, ih _ hn⟩
    · obtain ⟨hr, ht⟩ := hc hf w'' hw'
      refine ⟨fun hy => ?_, fun hy n hn => ?_⟩
      · obtain ⟨k', hm, h'⟩ := hr hy
        exact ⟨k', hm, ih _ h'⟩
      · obtain ⟨k', hm, h'⟩ := ht hy n hn
        exact ⟨k', hm, ih _ h'⟩

theorem wp_mono {p : Program α} {Q Q' : α → K → World → Prop}
    (hQ : ∀ a k w, Q a k w → Q' a k w) {k : K} {w : World} (h : p.wp S Q k w) :
    p.wp S Q' k w :=
  wp_mono_hence (fun a k w h => hQ a k w (Side.hence_self h)) h

/-- A postcondition and its closure under the other thread give the same
precondition. -/
theorem wp_hence {p : Program α} {Q : α → K → World → Prop} {k : K} {w : World} :
    p.wp S (fun a => S.Hence (Q a)) k w ↔ p.wp S Q k w :=
  ⟨fun h => wp_mono (fun _ _ _ h => Side.hence_self h) h, wp_mono_hence fun _ _ _ h => h⟩

/-- Postconditions that agree give the same precondition. -/
theorem wp_mono' {p : Program α} {Q Q' : α → K → World → Prop}
    (hQ : ∀ a k w, Q a k w ↔ Q' a k w) {k : K} {w : World} : p.wp S Q k w ↔ p.wp S Q' k w :=
  ⟨wp_mono fun a k w => (hQ a k w).1, wp_mono fun a k w => (hQ a k w).2⟩

/-- **Sequencing**: the precondition of `x` followed by `f` is that of `x`
for the precondition of `f`. -/
theorem wp_bind {γ : Type} (x : Program α) (f : α → Program γ)
    (Q : γ → K → World → Prop) (k : K) (w : World) :
    (x.bind f).wp S Q k w ↔ x.wp S (fun a => (f a).wp S Q) k w := by
  induction x generalizing k w with
  | pure a => exact hence_wp.symm
  | read c ih => exact forall_congr' fun w' => imp_congr_right fun _ => ih w' k w'
  | write g next ih =>
    exact forall_congr' fun w' => imp_congr_right fun _ =>
      exists_congr fun k' => and_congr_right fun _ => ih _ _
  | work ns next ih => exact forall_congr' fun w' => imp_congr_right fun _ => ih k w'
  | clock c ih =>
    exact forall_congr' fun w' => imp_congr_right fun _ => forall_congr' fun t => ih t k w'
  | poll p c ih =>
    exact forall_congr' fun w' => imp_congr_right fun _ => and_congr
      (imp_congr_right fun _ => exists_congr fun k' => and_congr_right fun _ => ih _ _ _)
      (imp_congr_right fun _ => forall_congr' fun w'' => imp_congr_right fun _ => and_congr
        (imp_congr_right fun _ => exists_congr fun k' => and_congr_right fun _ => ih _ _ _)
        (imp_congr_right fun _ => forall_congr' fun n => imp_congr_right fun _ =>
          exists_congr fun k' => and_congr_right fun _ => ih _ _ _))

end Program

namespace Interleaving

/-- The weakest precondition of a thread in flight; a wait past its flag check
keeps the whole wait's precondition, for when it checks the flag again. -/
def Proc.wp : Proc α → (α → K → World → Prop) → K → World → Prop
  | .run p, Q, k, w => p.wp S Q k w
  | .check p c, Q, k, w =>
    S.condPre p (fun o => (c o).wp S Q) k w ∧ S.pollPre p (fun o => (c o).wp S Q) k w

variable {S}

theorem Proc.wp_later {p : Proc α} {Q : α → K → World → Prop} {k : K} {w w' : World}
    (h : p.wp S Q k w) (hw : S.Later w w') : p.wp S Q k w' := by
  cases p with
  | run p => exact Program.wp_later h hw
  | check p c => exact ⟨condPre_later h.1 hw, pollPre_later h.2 hw⟩

/-! ## A step keeps the weakest precondition -/

/-- **One step of the thread keeps its weakest precondition**, and the ghost
state makes the move the step's event asks for. -/
theorem Proc.wp_step {w w' : World} {p p' : Proc α} {e : Option Event}
    (h : Proc.Step S.label w p e w' p') {Q : α → K → World → Prop} {k : K}
    (hp : p.wp S Q k w) : ∃ k', S.Moves k e k' ∧ p'.wp S Q k' w' := by
  cases h with
  | read c => exact ⟨k, rfl, hp w (Side.later_refl w)⟩
  | write f next => exact hp w (Side.later_refl w)
  | work ns next => exact ⟨k, rfl, hp w (Side.later_refl w)⟩
  | clock c t => exact ⟨k, rfl, hp w (Side.later_refl w) t⟩
  | halt q c hf => exact (hp w (Side.later_refl w)).1 hf
  | pass q c hf => exact ⟨k, rfl, (hp w (Side.later_refl w)).2 hf, hp⟩
  | ready q c hr => exact (hp.1 w (Side.later_refl w)).1 hr
  | expire q c n hr hn => exact (hp.1 w (Side.later_refl w)).2 hr n hn
  | retry q c hr => exact ⟨k, rfl, hp.2⟩

/-! ## Both threads together -/

/-- **The sides fit**: every write of the host is a step the guest relies on,
and every write of the guest one the host relies on; the host is `main` and
the guest `worker`. -/
structure Fits {Kh Kg : Type} (H : Side Kh) (G : Side Kg) : Prop where
  host_label : H.label = "main"
  guest_label : G.label = "worker"
  host_write : ∀ kh kh' w w', H.move kh (.write w w') kh' → G.env w w'
  guest_write : ∀ kg kg' w w', G.move kg (.write w w') kg' → H.env w w'

/-- **What holds along every interleaving**: the weakest preconditions of both
threads and an invariant `I` of the world and the two ghost states. -/
def Config.Holds {Kh Kg : Type} (H : Side Kh) (G : Side Kg) (I : World → Kh → Kg → Prop)
    (Qh : α → Kh → World → Prop) (Qg : β → Kg → World → Prop) (c : Config α β) : Prop :=
  ∃ kh kg, I c.world kh kg ∧ c.host.wp H Qh kh c.world ∧ c.guest.wp G Qg kg c.world

/-- A step that makes a move of one side is a step the other relies on. -/
theorem later_of_moves {K' : Type} {S' : Side K'} {k k' : K} {e : Option Event} {w w' : World}
    (hw : ∀ k k' w w', S.move k (.write w w') k' → S'.env w w')
    (hm : S.Moves k e k') (he : Event.Shifts e w w') : S'.Later w w' := by
  cases e with
  | none =>
    obtain rfl : w' = w := he
    exact Side.later_refl _
  | some e =>
    cases e with
    | write b a =>
      obtain ⟨rfl, rfl⟩ := he
      exact Side.later_of_env (hw k k' b a hm)
    | observe o v =>
      obtain ⟨-, rfl⟩ := he
      exact Side.later_refl _

/-- An invariant that every move of the discipline into an `R`-world keeps
is kept by every step into one, silent steps included. -/
theorem keeps_of_moves {P : World → K → Prop} {R : World → Prop}
    (hP : ∀ w w' k k' e, P w k → S.move k e k' → e.Effect w w' → R w' → P w' k')
    {w w' : World} {k k' : K} {e : Option Event} (hm : S.Moves k e k')
    (he : Event.Shifts e w w') (hR : R w') (h : P w k) : P w' k' := by
  cases e with
  | none =>
    obtain rfl : w' = w := he
    obtain rfl : k' = k := hm
    exact h
  | some e => exact hP w w' k k' e h hm he hR

/-- **Every interleaving through `F`-worlds keeps what both threads
promise**: if the invariant `I` survives every move of each discipline into
an `F`-world, then `Config.Holds` passes from a configuration to every
configuration reachable from it through `F`-worlds. -/
theorem Config.reachable_holds_while {Kh Kg : Type} {H : Side Kh} {G : Side Kg}
    (hfit : Fits H G) {F : World → Prop} {I : World → Kh → Kg → Prop}
    (hh : ∀ w w' kh kh' kg e, I w kh kg → H.move kh e kh' → e.Effect w w' → F w' → I w' kh' kg)
    (hg : ∀ w w' kh kg kg' e, I w kh kg → G.move kg e kg' → e.Effect w w' → F w' → I w' kh kg')
    {Qh : α → Kh → World → Prop} {Qg : β → Kg → World → Prop} {c c' : Config α β}
    (hc : c.ReachableWhile F c') (h0 : c.Holds H G I Qh Qg) : c'.Holds H G I Qh Qg := by
  induction hc with
  | refl => exact h0
  | tail _ hs ih =>
    obtain ⟨kh, kg, hI, hH, hG⟩ := ih
    obtain ⟨hs, hF⟩ := hs
    cases hs with
    | host hstep =>
      rw [← hfit.host_label] at hstep
      obtain ⟨kh', hm, hH'⟩ := Proc.wp_step hstep hH
      have hI' := keeps_of_moves (P := fun w kh => I w kh kg)
        (fun w w' kh kh' e h hm he hF => hh w w' kh kh' kg e h hm he hF) hm hstep.shifts hF hI
      exact ⟨kh', kg, hI', hH', Proc.wp_later hG (later_of_moves hfit.host_write hm hstep.shifts)⟩
    | guest hstep =>
      rw [← hfit.guest_label] at hstep
      obtain ⟨kg', hm, hG'⟩ := Proc.wp_step hstep hG
      have hI' := keeps_of_moves (P := fun w kg => I w kh kg)
        (fun w w' kg kg' e h hm he hF => hg w w' kh kg kg' e h hm he hF) hm hstep.shifts hF hI
      exact ⟨kh, kg', hI', Proc.wp_later hH (later_of_moves hfit.guest_write hm hstep.shifts), hG'⟩

/-- **Every interleaving keeps what both threads promise**: if the invariant
`I` survives every move of each discipline, then `Config.Holds` passes from a
configuration to every configuration reachable from it. -/
theorem Config.reachable_holds {Kh Kg : Type} {H : Side Kh} {G : Side Kg} (hfit : Fits H G)
    {I : World → Kh → Kg → Prop}
    (hh : ∀ w w' kh kh' kg e, I w kh kg → H.move kh e kh' → e.Effect w w' → I w' kh' kg)
    (hg : ∀ w w' kh kg kg' e, I w kh kg → G.move kg e kg' → e.Effect w w' → I w' kh kg')
    {Qh : α → Kh → World → Prop} {Qg : β → Kg → World → Prop} {c c' : Config α β}
    (hc : c.Reachable c') (h0 : c.Holds H G I Qh Qg) : c'.Holds H G I Qh Qg := by
  have hw : c.ReachableWhile (fun _ => True) c' := by
    induction hc with
    | refl => exact Relation.ReflTransGen.refl
    | tail _ hs ih => exact ih.tail ⟨hs, trivial⟩
  exact Config.reachable_holds_while hfit (fun w w' kh kh' kg e h hm he _ => hh w w' kh kh' kg e h hm he)
    (fun w w' kh kg kg' e h hm he _ => hg w w' kh kg kg' e h hm he) hw h0

/-! ## Endpoint operations -/

section Operations

variable {ε σ γ : Type} (S)

/-- The weakest precondition of a stateful program started on state `e`. -/
def stWp (x : StateT σ Program α) (e : σ) (Q : α → σ → K → World → Prop) (k : K)
    (w : World) : Prop :=
  (x.run e).wp S (fun r => Q r.1 r.2) k w

/-- The weakest precondition of an operation that may fail, started on state `e`. -/
def opWp (x : ExceptT ε (StateT σ Program) α) (e : σ) (Q : Except ε α → σ → K → World → Prop)
    (k : K) (w : World) : Prop :=
  stWp S x.run e Q k w

variable {S}

@[simp] theorem hence_opWp {x : ExceptT ε (StateT σ Program) α} {e : σ}
    {Q : Except ε α → σ → K → World → Prop} {k : K} {w : World} :
    S.Hence (opWp S x e Q) k w ↔ opWp S x e Q k w :=
  Program.hence_wp

theorem stWp_bind (x : StateT σ Program α) (f : α → StateT σ Program γ) (e : σ)
    (Q : γ → σ → K → World → Prop) (k : K) (w : World) :
    stWp S (x >>= f) e Q k w ↔ stWp S x e (fun a e' => stWp S (f a) e' Q) k w :=
  Program.wp_bind _ _ _ _ _

@[simp] theorem stWp_pure (a : α) (e : σ) (Q : α → σ → K → World → Prop) (k : K) (w : World) :
    stWp S (pure a) e Q k w ↔ S.Hence (Q a e) k w := Iff.rfl

@[simp] theorem stWp_get (e : σ) (Q : σ → σ → K → World → Prop) (k : K) (w : World) :
    stWp S (get : StateT σ Program σ) e Q k w ↔ S.Hence (Q e e) k w := Iff.rfl

@[simp] theorem stWp_set (e e' : σ) (Q : PUnit → σ → K → World → Prop) (k : K) (w : World) :
    stWp S (set e' : StateT σ Program PUnit) e Q k w ↔ S.Hence (Q ⟨⟩ e') k w := Iff.rfl

@[simp] theorem stWp_modify (f : σ → σ) (e : σ) (Q : PUnit → σ → K → World → Prop) (k : K)
    (w : World) : stWp S (modify f : StateT σ Program PUnit) e Q k w ↔ S.Hence (Q ⟨⟩ (f e)) k w :=
  Iff.rfl

/-- A program lifted into a stateful one leaves the state alone. -/
@[simp] theorem stWp_lift (x : Program α) (e : σ) (Q : α → σ → K → World → Prop) (k : K)
    (w : World) :
    stWp S (liftM x : StateT σ Program α) e Q k w ↔ x.wp S (fun a => S.Hence (Q a e)) k w :=
  Program.wp_bind _ _ _ _ _

/-- **Sequencing operations**: a failure skips the rest. -/
theorem opWp_bind (x : ExceptT ε (StateT σ Program) α) (f : α → ExceptT ε (StateT σ Program) γ)
    (e : σ) (Q : Except ε γ → σ → K → World → Prop) (k : K) (w : World) :
    opWp S (x >>= f) e Q k w ↔
      opWp S x e (fun r e' => match r with
        | .ok a => opWp S (f a) e' Q
        | .error err => Q (.error err) e') k w := by
  refine (Program.wp_bind _ _ _ _ _).trans (Iff.trans ?_ Program.wp_hence)
  refine Program.wp_mono' fun r k w => ?_
  obtain ⟨r, e'⟩ := r
  cases r with
  | ok a => exact hence_opWp.symm
  | error err => exact Iff.rfl

@[simp] theorem opWp_pure (a : α) (e : σ) (Q : Except ε α → σ → K → World → Prop) (k : K)
    (w : World) : opWp S (pure a) e Q k w ↔ S.Hence (Q (.ok a) e) k w := Iff.rfl

@[simp] theorem opWp_throw (err : ε) (e : σ) (Q : Except ε α → σ → K → World → Prop) (k : K)
    (w : World) : opWp S (throw err) e Q k w ↔ S.Hence (Q (.error err) e) k w := Iff.rfl

@[simp] theorem opWp_get (e : σ) (Q : Except ε σ → σ → K → World → Prop) (k : K) (w : World) :
    opWp S (get : ExceptT ε (StateT σ Program) σ) e Q k w ↔ S.Hence (Q (.ok e) e) k w :=
  Iff.rfl

@[simp] theorem opWp_set (e e' : σ) (Q : Except ε PUnit → σ → K → World → Prop) (k : K)
    (w : World) :
    opWp S (set e' : ExceptT ε (StateT σ Program) PUnit) e Q k w ↔ S.Hence (Q (.ok ⟨⟩) e') k w :=
  Iff.rfl

@[simp] theorem opWp_modify (f : σ → σ) (e : σ) (Q : Except ε PUnit → σ → K → World → Prop)
    (k : K) (w : World) :
    opWp S (modify f : ExceptT ε (StateT σ Program) PUnit) e Q k w ↔
      S.Hence (Q (.ok ⟨⟩) (f e)) k w :=
  Iff.rfl

/-- A program lifted into an operation cannot fail and leaves the state alone. -/
@[simp] theorem opWp_lift (x : Program α) (e : σ) (Q : Except ε α → σ → K → World → Prop)
    (k : K) (w : World) :
    opWp S (liftM x : ExceptT ε (StateT σ Program) α) e Q k w ↔
      x.wp S (fun a => S.Hence (Q (.ok a) e)) k w := by
  refine (Program.wp_bind _ _ _ _ _).trans ?_
  refine (Program.wp_bind _ _ _ _ _).trans (Program.wp_mono' fun a k w => ?_)
  exact Side.hence_hence

/-- An operation run for its result, failure included, is the operation. -/
@[simp] theorem stWp_run (x : ExceptT ε (StateT σ Program) α) (e : σ)
    (Q : Except ε α → σ → K → World → Prop) (k : K) (w : World) :
    stWp S x.run e Q k w ↔ opWp S x e Q k w := Iff.rfl

/-! ### Specifications of operations -/

theorem stWp_mono_hence {x : StateT σ Program α} {e : σ} {Q Q' : α → σ → K → World → Prop}
    {k : K} {w : World} (h : stWp S x e Q k w)
    (hQ : ∀ a e' k' w', S.Hence (Q a e') k' w' → Q' a e' k' w') : stWp S x e Q' k w :=
  Program.wp_mono_hence (Q := fun (r : α × σ) => Q r.1 r.2) (fun r k w => hQ r.1 r.2 k w) h

theorem stWp_weaken {x : StateT σ Program α} {e : σ} {Q Q' : α → σ → K → World → Prop}
    {k : K} {w : World} (h : stWp S x e Q k w) (hQ : ∀ a e' k' w', Q a e' k' w' → Q' a e' k' w') :
    stWp S x e Q' k w :=
  Program.wp_mono (Q := fun (r : α × σ) => Q r.1 r.2) (fun r k w => hQ r.1 r.2 k w) h

/-- **Weakening a specification** whose postcondition the caller needs from
the end on: what the specification gives from the end on is at hand. -/
theorem opWp_mono_hence {x : ExceptT ε (StateT σ Program) α} {e : σ}
    {Q Q' : Except ε α → σ → K → World → Prop} {k : K} {w : World} (h : opWp S x e Q k w)
    (hQ : ∀ r e' k' w', S.Hence (Q r e') k' w' → Q' r e' k' w') : opWp S x e Q' k w :=
  stWp_mono_hence h hQ

theorem opWp_weaken {x : ExceptT ε (StateT σ Program) α} {e : σ}
    {Q Q' : Except ε α → σ → K → World → Prop} {k : K} {w : World} (h : opWp S x e Q k w)
    (hQ : ∀ r e' k' w', Q r e' k' w' → Q' r e' k' w') : opWp S x e Q' k w :=
  stWp_weaken h hQ

/-- **Composing specifications**: the postcondition of `x` leads to the
precondition of `f` on success, and to the postcondition on failure. -/
theorem opWp_seq {x : ExceptT ε (StateT σ Program) α} {f : α → ExceptT ε (StateT σ Program) γ}
    {e : σ} {R : Except ε α → σ → K → World → Prop} {Q : Except ε γ → σ → K → World → Prop}
    {k : K} {w : World} (h : opWp S x e R k w)
    (hok : ∀ a e' k' w', R (.ok a) e' k' w' → opWp S (f a) e' Q k' w')
    (herr : ∀ err e' k' w', R (.error err) e' k' w' → Q (.error err) e' k' w') :
    opWp S (x >>= f) e Q k w := by
  refine (opWp_bind x f e Q k w).2 (opWp_weaken h fun r e' k' w' hr => ?_)
  cases r with
  | ok a => exact hok a e' k' w' hr
  | error err => exact herr err e' k' w' hr

/-- A write: at whatever world the other thread leaves, the write is a move of
the discipline, and the postcondition holds after it from then on. -/
theorem opWp_change (f : World → World) (e : σ) (Q : Except ε Unit → σ → K → World → Prop)
    (k : K) (w : World) :
    opWp S (liftM (Program.change f) : ExceptT ε (StateT σ Program) Unit) e Q k w ↔
      ∀ w', S.Later w w' → ∃ k', S.move k (.write w' (f (w'.stamp S.label))) k' ∧
        S.Hence (Q (.ok ()) e) k' (f (w'.stamp S.label)) := by
  rw [opWp_lift]
  exact forall_congr' fun _ => imp_congr_right fun _ => exists_congr fun _ =>
    and_congr_right fun _ => Side.hence_hence

/-- A look at the world sees any world the other thread leaves. -/
theorem opWp_look (e : σ) (Q : Except ε World → σ → K → World → Prop) (k : K) (w : World) :
    opWp S (liftM Program.look : ExceptT ε (StateT σ Program) World) e Q k w ↔
      ∀ w', S.Later w w' → S.Hence (Q (.ok w') e) k w' := by
  rw [opWp_lift]
  exact forall_congr' fun _ => imp_congr_right fun _ => Side.hence_hence

theorem opWp_spend (ns : Nat) (e : σ) (Q : Except ε Unit → σ → K → World → Prop) (k : K)
    (w : World) :
    opWp S (liftM (Program.spend ns) : ExceptT ε (StateT σ Program) Unit) e Q k w ↔
      S.Hence (Q (.ok ()) e) k w := by
  rw [opWp_lift]
  exact Side.hence_hence.trans Side.hence_hence

/-- The clock may read anything. -/
theorem opWp_now (e : σ) (Q : Except ε Nat → σ → K → World → Prop) (k : K) (w : World) :
    opWp S (liftM Program.now : ExceptT ε (StateT σ Program) Nat) e Q k w ↔
      ∀ t, S.Hence (Q (.ok t) e) k w := by
  rw [opWp_lift]
  refine ⟨fun h t => Side.hence_hence.1 (h w (Side.later_refl w) t), fun h w' hw t => ?_⟩
  exact Side.hence_hence.2 ((h t).later hw)

/-- **A wait**, from a stable precondition `F`: each way it may end, at any
world where `F` holds, is a move of the discipline after which the
postcondition holds.  A wait that does not end `shutdown` passed a flag check
at a world its end is later than. -/
theorem opWp_await_checked {p : Poll} {F : World → Prop} (hF : S.Stable F) {e : σ}
    {Q : Except ε PollOutcome → σ → K → World → Prop} {k : K} {w : World} (hw : F w)
    (h : ∀ o v, F v → p.EndsWith o v → (o ≠ .shutdown → ∃ u, p.flagged u = false ∧ S.Later u v) →
      ∃ k', S.move k (.observe o v) k' ∧ S.Hence (Q (.ok o) e) k' v) :
    opWp S (liftM (Program.await p) : ExceptT ε (StateT σ Program) PollOutcome) e Q k w := by
  rw [opWp_lift]
  intro w₁ h₁
  have hw₁ := hF.later h₁ hw
  refine ⟨fun hf => ?_, fun hf w₂ h₂ => ?_⟩
  · obtain ⟨k', hm, hQ⟩ := h .shutdown w₁ hw₁ hf (absurd rfl)
    exact ⟨k', hm, Side.hence_hence.2 hQ⟩
  · have hw₂ := hF.later h₂ hw₁
    have checked : ∃ u, p.flagged u = false ∧ S.Later u w₂ := ⟨w₁, hf, h₂⟩
    refine ⟨fun hr => ?_, fun hr n hn => ?_⟩
    · obtain ⟨k', hm, hQ⟩ := h .ready w₂ hw₂ hr fun _ => checked
      exact ⟨k', hm, Side.hence_hence.2 hQ⟩
    · obtain ⟨k', hm, hQ⟩ := h (.timedOut n) w₂ hw₂ ⟨hr, hn⟩ fun _ => checked
      exact ⟨k', hm, Side.hence_hence.2 hQ⟩

/-- **A wait**, from a stable precondition `F`, whatever its flag check saw. -/
theorem opWp_await_of {p : Poll} {F : World → Prop} (hF : S.Stable F) {e : σ}
    {Q : Except ε PollOutcome → σ → K → World → Prop} {k : K} {w : World} (hw : F w)
    (h : ∀ o v, F v → p.EndsWith o v →
      ∃ k', S.move k (.observe o v) k' ∧ S.Hence (Q (.ok o) e) k' v) :
    opWp S (liftM (Program.await p) : ExceptT ε (StateT σ Program) PollOutcome) e Q k w :=
  opWp_await_checked hF hw fun o v hv ho _ => h o v hv ho

end Operations

end Interleaving
end ShmBench

import ShmBench.Proofs.HostOps
import ShmBench.Proofs.GuestOps

/-!
# Two scripts over one channel

A step of a session in which both sides act runs a host script on `main` and a
guest script on `worker` over one world.  `Session.launch` makes that a
configuration of the interleaving semantics, so that every order the two
threads may take, and every moment a wait may give up, is a run from it.

Two endpoints share a channel when both use one window and each holds the
state its word reads, as a new endpoint does (`Session.Attached`).  Then every
script of each side keeps its endpoint in step with its ghost
(`Session.hostScript_synced`, `Session.guestScript_synced`), each side keeps
its discipline, and an invariant of the world and both ghosts that every move
of either discipline keeps holds in every configuration a launch reaches
(`Session.launch_holds`).  A property of all interleavings is proved by
choosing that invariant.
-/

namespace ShmBench

open Interleaving

/-! ## Scripts -/

section Scripts

variable {K σ α ρ : Type} {S : Side K} {perform : α → StateT σ Program ρ}

/-- **A script keeps what each of its actions keeps.** -/
theorem stWp_runScript {P : σ → K → World → Prop} (hP : ∀ e k, S.Stable (P e k))
    (hstep : ∀ a e k w, P e k w → stWp S (perform a) e (fun _ => P) k w)
    (items : List (Scripted α)) (acc : Array ρ) {e : σ} {k : K} {w : World} (h : P e k w) :
    stWp S (runScript perform items acc) e (fun _ => P) k w := by
  induction items generalizing acc e k w with
  | nil => exact fun v hv => (hP e k).later hv h
  | cons item rest ih =>
    cases item with
    | refused reason => exact fun v hv => (hP e k).later hv h
    | act a =>
      simp only [runScript]
      exact (stWp_bind _ _ _ _ _ _).2 (stWp_weaken (hstep a e k w h) fun _ _ _ _ h' => ih _ h')

/-- **A script that opens with actions**: while they run `P` holds, and from
there the rest of the script gives `Q`. -/
theorem stWp_runScript_append {P : σ → K → World → Prop} {Q : ScriptResult ρ → σ → K → World → Prop}
    (items : List α) (rest : List (Scripted α))
    (hstep : ∀ a ∈ items, ∀ e k w, P e k w → stWp S (perform a) e (fun _ => P) k w)
    (hrest : ∀ acc e k w, P e k w → stWp S (runScript perform rest acc) e Q k w)
    (acc : Array ρ) {e : σ} {k : K} {w : World} (h : P e k w) :
    stWp S (runScript perform (items.map .act ++ rest) acc) e Q k w := by
  induction items generalizing acc e k w with
  | nil => exact hrest acc e k w h
  | cons a items ih =>
    simp only [List.map_cons, List.cons_append, runScript]
    refine (stWp_bind _ _ _ _ _ _).2 (stWp_weaken (hstep a (by simp) e k w h) fun _ _ _ _ h' => ?_)
    exact ih (fun b hb => hstep b (by simp [hb])) _ h'

end Scripts

/-! ## Launching both scripts -/

/-- **A step with both scripts**, as a configuration: the session's world,
the host's script on `main` and the guest's on `worker`. -/
def Session.launch (s : Session) (hs : List (Scripted HostAction))
    (gs : List (Scripted GuestAction)) :
    Config (ScriptResult HostResult × HostEndpoint) (ScriptResult GuestResult × GuestEndpoint) :=
  ⟨s.world, .run (s.hostProgram hs), .run (s.guestProgram gs)⟩

/-- **Both endpoints on one channel**: both use window `p`, and each holds the
state its word reads, as a new endpoint does. -/
structure Session.Attached (s : Session) (p : Window) : Prop where
  host_window : s.host.window = p
  guest_window : s.guest.window = p
  host_state : s.host.state = s.world.hostState.getD .uninitialized
  guest_state : s.guest.state = s.world.guestState.getD .uninitialized

/-- **A session on an anonymous region** has both endpoints on its primary
window, each new on the world. -/
theorem Session.start_attached {spec : SessionSpec} {s : Session} (hn : spec.named = false)
    (h : Session.start spec = .ok s) : s.Attached .primary := by
  unfold Session.start at h
  simp only [hn, Bool.false_eq_true, ite_false] at h
  cases hr : Region.anonymous spec.regionSize with
  | error err => simp [hr, bind, Except.bind] at h
  | ok r =>
    cases hc : Channel.new r with
    | error err => simp [hr, hc, bind, Except.bind, pure, Except.pure] at h
    | ok c =>
      simp only [hr, hc, bind, Except.bind, pure, Except.pure, Except.ok.injEq] at h
      subst h
      exact ⟨rfl, rfl, rfl, rfl⟩

/-- The host's ghost at a launch: its state, nothing published yet. -/
def Session.hostGhost (s : Session) : HostGhost := ⟨s.host.state, []⟩

/-- The guest's ghost at a launch: its state, nothing published or seen yet. -/
def Session.guestGhost (s : Session) : GuestGhost := ⟨s.guest.state, [], none⟩

variable {s : Session} {p : Window}

theorem Session.Attached.host_synced (ha : s.Attached p) : s.host.Synced p s.hostGhost s.world :=
  ⟨ha.host_window, rfl, ha.host_state.symm⟩

theorem Session.Attached.guest_synced (ha : s.Attached p) :
    s.guest.Synced p s.guestGhost s.world :=
  ⟨ha.guest_window, rfl, ha.guest_state.symm⟩

/-- **Every host script** keeps the host endpoint in step with its ghost. -/
theorem Session.hostScript_synced (ha : s.Attached p) (hs : List (Scripted HostAction)) :
    stWp (hostSide p) (runScript HostAction.perform hs #[]) s.host
      (fun _ e k w => e.Synced p k w) s.hostGhost s.world :=
  stWp_runScript (fun e k => HostEndpoint.Synced.stable e k)
    (fun a _ _ _ h => HostAction.perform_synced a h) hs #[] ha.host_synced

/-- **Every guest script** keeps the guest endpoint in step with its ghost. -/
theorem Session.guestScript_synced (ha : s.Attached p) (gs : List (Scripted GuestAction)) :
    stWp (guestSide p) (runScript GuestAction.perform gs #[]) s.guest
      (fun _ e k w => e.Synced p k w) s.guestGhost s.world :=
  stWp_runScript (fun e k => GuestEndpoint.Synced.stable e k)
    (fun a _ _ _ h => GuestAction.perform_synced a h) gs #[] ha.guest_synced

/-- **What every interleaving of a launch keeps**: an invariant `I` that holds
at the launch and that every move of either discipline keeps, and the
postconditions the two scripts were shown to meet. -/
theorem Session.launch_holds {hs : List (Scripted HostAction)} {gs : List (Scripted GuestAction)}
    {I : World → HostGhost → GuestGhost → Prop}
    (hh : ∀ w w' kh kh' kg e, I w kh kg → HostMove p kh e kh' → e.Effect w w' → I w' kh' kg)
    (hg : ∀ w w' kh kg kg' e, I w kh kg → GuestMove p kg e kg' → e.Effect w w' → I w' kh kg')
    {Qh : ScriptResult HostResult → HostEndpoint → HostGhost → World → Prop}
    {Qg : ScriptResult GuestResult → GuestEndpoint → GuestGhost → World → Prop}
    (hQh : stWp (hostSide p) (runScript HostAction.perform hs #[]) s.host Qh s.hostGhost s.world)
    (hQg : stWp (guestSide p) (runScript GuestAction.perform gs #[]) s.guest Qg s.guestGhost
      s.world)
    (h0 : I s.world s.hostGhost s.guestGhost) {c : Config _ _} (hc : (s.launch hs gs).Reachable c) :
    c.Holds (hostSide p) (guestSide p) I (fun r => Qh r.1 r.2) (fun r => Qg r.1 r.2) :=
  Config.reachable_holds (sides_fit p) hh hg hc ⟨_, _, h0, hQh, hQg⟩

/-- A host script that has finished meets its postcondition. -/
theorem Config.Holds.host_done {α β Kh Kg : Type} {H : Side Kh} {G : Side Kg}
    {I : World → Kh → Kg → Prop} {Qh : α → Kh → World → Prop} {Qg : β → Kg → World → Prop}
    {c : Config α β} (h : c.Holds H G I Qh Qg) {r : α} (hr : c.host = .run (.pure r)) :
    ∃ kh kg, I c.world kh kg ∧ Qh r kh c.world := by
  obtain ⟨kh, kg, hI, hH, -⟩ := h
  rw [hr] at hH
  exact ⟨kh, kg, hI, Side.hence_self hH⟩

/-- A guest script that has finished meets its postcondition. -/
theorem Config.Holds.guest_done {α β Kh Kg : Type} {H : Side Kh} {G : Side Kg}
    {I : World → Kh → Kg → Prop} {Qh : α → Kh → World → Prop} {Qg : β → Kg → World → Prop}
    {c : Config α β} (h : c.Holds H G I Qh Qg) {r : β} (hr : c.guest = .run (.pure r)) :
    ∃ kh kg, I c.world kh kg ∧ Qg r kg c.world := by
  obtain ⟨kh, kg, hI, -, hG⟩ := h
  rw [hr] at hG
  exact ⟨kh, kg, hI, Side.hence_self hG⟩

/-- **A started session**, for witnesses: when the session `spec` starts and
the test `p` passes on it, some started session satisfies whatever follows
from passing it.  The hypothesis is closed, so a fixed session is checked by
evaluation. -/
theorem Session.exists_of_start {Q : Session → Prop} (spec : SessionSpec) (p : Session → Bool)
    (h : (Session.start spec).toOption.map p = some true)
    (hq : ∀ s, Session.start spec = .ok s → p s = true → Q s) :
    ∃ s, Session.start spec = .ok s ∧ Q s := by
  cases hst : Session.start spec with
  | error err => simp [hst, Except.toOption] at h
  | ok s =>
    have hp : p s = true := by simpa [hst, Except.toOption] using h
    exact ⟨s, rfl, hq s hst hp⟩

/-- **A replayed launch**, for witnesses: when the session `spec` starts and
replaying `ts` from its launch ends where the test `p` passes, some
configuration the launch reaches satisfies `p`, and so whatever follows from
passing it.  The hypothesis is closed, so a fixed run is checked by
evaluation. -/
theorem Session.exists_of_replay {Q : Session → Config (ScriptResult HostResult × HostEndpoint)
      (ScriptResult GuestResult × GuestEndpoint) → Prop}
    (spec : SessionSpec) (hs : List (Scripted HostAction)) (gs : List (Scripted GuestAction))
    (ts : List Turn) (p : Session → Config (ScriptResult HostResult × HostEndpoint)
      (ScriptResult GuestResult × GuestEndpoint) → Bool)
    (h : ((Session.start spec).toOption.bind fun s =>
      (Config.replay ts (s.launch hs gs)).map (p s)) = some true)
    (hq : ∀ s c, Session.start spec = .ok s → (s.launch hs gs).Reachable c → p s c = true → Q s c) :
    ∃ s c, Session.start spec = .ok s ∧ (s.launch hs gs).Reachable c ∧ Q s c := by
  cases hst : Session.start spec with
  | error err => simp [hst, Except.toOption] at h
  | ok s =>
    cases hr : Config.replay ts (s.launch hs gs) with
    | none => simp [hst, hr, Except.toOption] at h
    | some c =>
      have hp : p s c = true := by simpa [hst, hr, Except.toOption] using h
      exact ⟨s, c, rfl, Config.replay_sound hr, hq s c hst (Config.replay_sound hr) hp⟩

/-- The only result of a script of one action. -/
def ScriptResult.single? {ρ : Type} (r : ScriptResult ρ) : Option ρ :=
  if h : r.results.size = 1 then some r.results[0] else none

/-- The result of the action after the attach, in a guest script of an attach
and one more action whose attach went through. -/
def ScriptResult.afterAttach? (r : ScriptResult GuestResult) : Option GuestResult :=
  match r.results.toList with
  | [.done, x] => some x
  | _ => none

/-- The message a guest result reports processed. -/
def GuestResult.processed? : GuestResult → Option ProcessedMessage
  | .event (.processed m) => some m
  | _ => none

/-- The measured messages and the summary of a serving run that ended with one. -/
def GuestResult.summary? : GuestResult → Option (Array ProcessedMessage × GuestSummary)
  | .ran ms (.ok (.ok g)) => some (ms, g)
  | _ => none

/-- The report of a send. -/
def HostResult.report? : HostResult → Option MessageReport
  | .report r _ => some r
  | _ => none

@[simp] theorem ScriptResult.single?_eq_some {ρ : Type} {r : ScriptResult ρ} {x : ρ} :
    r.single? = some x ↔ r.results.toList = [x] := by
  rcases r with ⟨⟨l⟩, _⟩
  cases l with
  | nil => simp [single?]
  | cons y t => cases t <;> simp [single?]

@[simp] theorem ScriptResult.afterAttach?_eq_some {r : ScriptResult GuestResult} {x : GuestResult} :
    r.afterAttach? = some x ↔ r.results.toList = [.done, x] := by
  unfold afterAttach?
  split
  · next y h => simp [h]
  · next hn => simpa using hn x

@[simp] theorem GuestResult.processed?_eq_some {g : GuestResult} {m : ProcessedMessage} :
    g.processed? = some m ↔ g = .event (.processed m) := by
  cases g with
  | event ev => cases ev <;> simp [processed?]
  | _ => simp [processed?]

@[simp] theorem GuestResult.summary?_eq_some {g : GuestResult}
    {x : Array ProcessedMessage × GuestSummary} :
    g.summary? = some x ↔ g = .ran x.1 (.ok (.ok x.2)) := by
  cases g with
  | ran ms c => rcases c with _ | _ | s <;> simp [summary?, Prod.ext_iff, eq_comm]
  | _ => simp [summary?]

@[simp] theorem HostResult.report?_eq_some {h : HostResult} {r : MessageReport} :
    h.report? = some r ↔ ∃ f, h = .report r f := by
  cases h <;> simp [report?, eq_comm]

/-! ## The trace since a launch -/

/-- The writes recorded on window `p`'s trace after its first `n`. -/
def World.writesSince (w : World) (p : Window) (n : Nat) : List StateWrite :=
  (w.channel p).trace.toList.drop n

/-- The writes since `n` grow as the trace does. -/
theorem World.writesSince_grow {n : Nat} {w w' : World} {l : List StateWrite}
    (hn : n ≤ (w.channel p).trace.size)
    (h : (w'.channel p).trace.toList = (w.channel p).trace.toList ++ l) :
    n ≤ (w'.channel p).trace.size ∧ w'.writesSince p n = w.writesSince p n ++ l := by
  unfold World.writesSince
  rw [← Array.length_toList] at hn ⊢
  rw [h, List.drop_append_of_le_length hn, List.length_append]
  exact ⟨Nat.le_add_right_of_le hn, rfl⟩

/-- Nothing is written at the launch. -/
@[simp] theorem World.writesSince_size (w : World) (p : Window) :
    w.writesSince p (w.channel p).trace.size = [] := by
  simp [World.writesSince]

end ShmBench

import ShmBench.Counter.Source
import Mathlib.Data.List.Induction
import Mathlib.Logic.Relation

/-!
# What the counter facade reports

A counter set is opened by trying the events of `HwEvent.all` in order.  An
essential event the opener refuses fails the whole set, named in the error, and
the opener is not asked about any event after it (`openEventsM_logged_refused`);
otherwise the set holds exactly the events that opened, in order
(`openEvents_eq_ok`), and the opener was asked about every event once
(`openEventsM_logged_ok`).  `openEventsM` is the opening loop over an opener
with effects of its own; with a logging opener it shows which events were asked
about.

A stop disables every counter and then reads each once.  A set holds each event
at most once (`CounterSource.Distinct`), and every call keeps it so
(`CounterSource.Distinct.reaches`).  The counts a stop reports are then a
function of the reads alone (`readAll_eq_ofEvents`): the field of an event holds
what the read of its counter gave, zero when the event is not open or its read
failed, and the load count repeats the L1 reads.  The order in which counters
are read does not matter (`readAll_perm`), and failed resets, enables or
disables matter only through the count the read then gives.  A closed source
reports zeros from then on (`CounterSource.reaches_of_close`).
-/

namespace ShmBench

/-! ## Raw counts as a function of the events -/

namespace RawCounts

/-- The count the field of an event holds. -/
def get (r : RawCounts) : HwEvent → UInt64
  | .l1Misses => r.l1CacheMisses
  | .l1References => r.l1CacheReferences
  | .llcMisses => r.llcMisses
  | .llcReferences => r.llcReferences
  | .tlbMisses => r.tlbMisses
  | .cpuCycles => r.cpuCycles
  | .instructions => r.instructions
  | .contextSwitches => r.contextSwitches
  | .memoryStores => r.memoryStores

/-- **The counts of a per-event reading** `f`: the field of each event holds
`f` of it, and the load count is the L1 reads. -/
def ofEvents (f : HwEvent → UInt64) : RawCounts where
  l1CacheMisses := f .l1Misses
  l1CacheReferences := f .l1References
  llcMisses := f .llcMisses
  llcReferences := f .llcReferences
  memoryLoads := f .l1References
  memoryStores := f .memoryStores
  tlbMisses := f .tlbMisses
  cpuCycles := f .cpuCycles
  instructions := f .instructions
  contextSwitches := f .contextSwitches

@[simp] theorem get_ofEvents (f : HwEvent → UInt64) (e : HwEvent) : (ofEvents f).get e = f e := by
  cases e <;> rfl

@[simp] theorem memoryLoads_ofEvents (f : HwEvent → UInt64) :
    (ofEvents f).memoryLoads = f .l1References := rfl

@[simp] theorem get_zero (e : HwEvent) : zero.get e = 0 := by
  cases e <;> rfl

theorem get_set (r : RawCounts) (e e' : HwEvent) (v : UInt64) :
    (r.set e v).get e' = if e' = e then v else r.get e' := by
  cases e <;> cases e' <;> simp [set, get]

theorem memoryLoads_set (r : RawCounts) (e : HwEvent) (v : UInt64) :
    (r.set e v).memoryLoads = if e = .l1References then v else r.memoryLoads := by
  cases e <;> simp [set]

/-- Counts whose events' fields and load count agree are equal. -/
theorem ext_get {r r' : RawCounts} (h : ∀ e, r.get e = r'.get e)
    (hm : r.memoryLoads = r'.memoryLoads) : r = r' := by
  cases r
  cases r'
  simp only [mk.injEq]
  exact ⟨h .l1Misses, h .l1References, h .llcMisses, h .llcReferences, hm, h .memoryStores,
    h .tlbMisses, h .cpuCycles, h .instructions, h .contextSwitches⟩

end RawCounts

/-! ## Reading a counter set -/

namespace HardwareCounters

/-- The events of a set, in order. -/
def events (cs : HardwareCounters) : List HwEvent := cs.map Prod.fst

/-- **What reading the counter of `e` gives**: its count when `e` is open and
the read succeeds, zero otherwise. -/
def readOf (cs : HardwareCounters) (e : HwEvent) : UInt64 :=
  match cs.lookup e with
  | some c => (c.read).toOption.getD 0
  | none => 0

/-- The set after a stop has tried to disable every counter. -/
def halted (cs : HardwareCounters) : HardwareCounters := cs.map fun x => (x.1, x.2.halt)

@[simp] theorem events_append (cs cs' : HardwareCounters) :
    events (cs ++ cs') = events cs ++ events cs' :=
  List.map_append

@[simp] theorem events_halted (cs : HardwareCounters) : events cs.halted = events cs := by
  simp [events, halted, Function.comp_def]

@[simp] theorem readAll_nil : readAll [] = RawCounts.zero := rfl

theorem readAll_concat_ok {cs : HardwareCounters} {e : HwEvent} {c : EventCounter} {v : UInt64}
    (h : c.read = .ok v) : readAll (cs ++ [(e, c)]) = (readAll cs).set e v := by
  simp only [readAll, List.foldl_append, List.foldl_cons, List.foldl_nil, h]

theorem readAll_concat_error {cs : HardwareCounters} {e : HwEvent} {c : EventCounter}
    {err : IoError} (h : c.read = .error err) : readAll (cs ++ [(e, c)]) = readAll cs := by
  simp only [readAll, List.foldl_append, List.foldl_cons, List.foldl_nil, h]

/-- In a set without repeated events, a lookup finds exactly the members. -/
theorem lookup_eq_some_iff {cs : HardwareCounters} (hd : (events cs).Nodup) (e : HwEvent)
    (c : EventCounter) : cs.lookup e = some c ↔ (e, c) ∈ cs := by
  induction cs with
  | nil => simp
  | cons x cs ih =>
    obtain ⟨e₀, c₀⟩ := x
    simp only [events, List.map_cons, List.nodup_cons] at hd
    obtain ⟨hout, hd⟩ := hd
    by_cases he : e = e₀
    · subst he
      -- the first entry is the only one for its event
      have hnot : ∀ c', (e, c') ∉ cs := fun c' hm => hout (List.mem_map.2 ⟨_, hm, rfl⟩)
      simp [hnot, eq_comm]
    · have hb : (e == e₀) = false := by simpa using he
      simp [List.lookup_cons, hb, he, ih hd]

theorem lookup_eq_none {cs : HardwareCounters} {e : HwEvent} (h : e ∉ events cs) :
    cs.lookup e = none := by
  simp only [List.lookup_eq_none_iff, bne_iff_ne, ne_eq, Prod.forall]
  intro a b hm he
  exact h (he ▸ List.mem_map.2 ⟨_, hm, rfl⟩)

theorem lookup_append_of_not_mem {cs : HardwareCounters} {e e' : HwEvent} (c : EventCounter)
    (h : e ∉ events cs) :
    (cs ++ [(e, c)]).lookup e' = if e' = e then some c else cs.lookup e' := by
  rw [List.lookup_append]
  by_cases he : e' = e
  · subst he
    simp [lookup_eq_none h]
  · cases hl : cs.lookup e' <;> simp [he]

/-- **Each event's field holds what its read gave.** -/
theorem get_readAll {cs : HardwareCounters} (hd : (events cs).Nodup) (e : HwEvent) :
    (readAll cs).get e = readOf cs e := by
  induction cs using List.reverseRecOn with
  | nil => simp [readOf]
  | append_singleton cs x ih =>
    obtain ⟨e₀, c₀⟩ := x
    rw [events_append] at hd
    obtain ⟨hnd, -, hsep⟩ := List.nodup_append.1 hd
    have hout : e₀ ∉ events cs := fun h => hsep e₀ h e₀ (by simp [events]) rfl
    -- the last counter decides its own event's field and leaves the others
    cases hr : c₀.read with
    | ok v =>
      rw [readAll_concat_ok hr, RawCounts.get_set, ih hnd]
      by_cases he : e = e₀
      · subst he
        simp [readOf, lookup_append_of_not_mem _ hout, hr, Except.toOption]
      · simp [readOf, lookup_append_of_not_mem _ hout, he]
    | error err =>
      rw [readAll_concat_error hr, ih hnd]
      by_cases he : e = e₀
      · subst he
        simp [readOf, lookup_append_of_not_mem _ hout, hr, lookup_eq_none hout, Except.toOption]
      · simp [readOf, lookup_append_of_not_mem _ hout, he]

/-- The load count is always the L1 reads. -/
theorem memoryLoads_readAll (cs : HardwareCounters) :
    (readAll cs).memoryLoads = (readAll cs).get .l1References := by
  induction cs using List.reverseRecOn with
  | nil => rfl
  | append_singleton cs x ih =>
    obtain ⟨e₀, c₀⟩ := x
    cases hr : c₀.read with
    | ok v =>
      rw [readAll_concat_ok hr, RawCounts.memoryLoads_set, RawCounts.get_set, ih]
      by_cases he : e₀ = .l1References <;> simp [he, eq_comm]
    | error err => rw [readAll_concat_error hr, ih]

/-- **A stop's counts are a function of the reads**: each event's field holds
what the read of its counter gave, zero when it is not open or the read
failed, and the load count repeats the L1 reads. -/
theorem readAll_eq_ofEvents {cs : HardwareCounters} (hd : (events cs).Nodup) :
    readAll cs = RawCounts.ofEvents (readOf cs) :=
  RawCounts.ext_get (fun e => by rw [get_readAll hd, RawCounts.get_ofEvents])
    (by rw [memoryLoads_readAll, get_readAll hd, RawCounts.memoryLoads_ofEvents])

/-- **The order of the reads does not matter.** -/
theorem readAll_perm {cs cs' : HardwareCounters} (hd : (events cs).Nodup) (hp : cs.Perm cs') :
    readAll cs = readAll cs' := by
  have hd' : (events cs').Nodup := (hp.map Prod.fst).nodup_iff.1 hd
  have hlookup : ∀ e, cs.lookup e = cs'.lookup e := fun e =>
    Option.ext fun c => by rw [lookup_eq_some_iff hd, lookup_eq_some_iff hd', hp.mem_iff]
  rw [readAll_eq_ofEvents hd, readAll_eq_ofEvents hd']
  congr 1
  funext e
  simp only [readOf, hlookup]

/-- The set after a stop has read every counter. -/
def readDone (cs : HardwareCounters) : HardwareCounters := cs.map fun x => (x.1, x.2.record .read)

@[simp] theorem events_readDone (cs : HardwareCounters) : events cs.readDone = events cs := by
  simp [events, readDone, Function.comp_def]

/-- A stop disables every counter, then reads the set it leaves. -/
theorem stop_hardware (cs : HardwareCounters) (b : UInt64) :
    (CounterSource.hardware cs).stop b =
      (CounterReport.derive (readAll cs.halted) b, .hardware cs.halted.readDone) := rfl

end HardwareCounters

/-! ## Opening a counter set -/

namespace HwEvent

variable (opener : HwEvent → Except IoError EventCounter)

/-- No essential event of `l` is refused by `opener`. -/
def EssentialsOpen (l : List HwEvent) : Prop :=
  ∀ e ∈ l, e.isEssential = true → (opener e).isOk = true

instance (l : List HwEvent) : Decidable (EssentialsOpen opener l) :=
  inferInstanceAs (Decidable (∀ e ∈ l, e.isEssential = true → (opener e).isOk = true))

/-- The counters an opener gives for the events of `l` that open, in order. -/
def openedAmong (l : List HwEvent) : HardwareCounters :=
  l.filterMap fun e => (opener e).toOption.map (e, ·)

/-- An opener that notes every event it is asked about. -/
def logged (e : HwEvent) : StateM (List HwEvent) (Except IoError EventCounter) :=
  modifyGet fun asked => (opener e, asked ++ [e])

variable {opener}

theorem essentialsOpen_cons {e : HwEvent} {l : List HwEvent} :
    EssentialsOpen opener (e :: l) ↔
      (e.isEssential = true → (opener e).isOk = true) ∧ EssentialsOpen opener l := by
  simp [EssentialsOpen]

/-- An event refused under `EssentialsOpen` is optional. -/
theorem not_essential_of_refused {e : HwEvent} {src : IoError}
    (h : e.isEssential = true → (opener e).isOk = true) (hr : opener e = .error src) :
    e.isEssential = false := by
  cases hess : e.isEssential
  · rfl
  · simp [hr, hess, Except.isOk, Except.toBool] at h

@[simp] theorem openedAmong_nil : openedAmong opener [] = [] := rfl

theorem openedAmong_cons_ok {e : HwEvent} {c : EventCounter} (h : opener e = .ok c)
    (l : List HwEvent) : openedAmong opener (e :: l) = (e, c) :: openedAmong opener l := by
  simp [openedAmong, h, Except.toOption]

theorem openedAmong_cons_error {e : HwEvent} {src : IoError} (h : opener e = .error src)
    (l : List HwEvent) : openedAmong opener (e :: l) = openedAmong opener l := by
  simp [openedAmong, h, Except.toOption]

end HwEvent

namespace HardwareCounters

open HwEvent

variable {opener : HwEvent → Except IoError EventCounter}

/-- **The opening loop over an opener with effects**: the events of `l` in
order, an essential refusal failing the set and ending the loop, an optional
one skipped.  With an opener without effects it is `openEvents`. -/
def openEventsM {m : Type → Type} [Monad m] (opener : HwEvent → m (Except IoError EventCounter)) :
    List HwEvent → m (Except CounterError HardwareCounters)
  | [] => pure (.ok [])
  | e :: rest => do
    match ← opener e with
    | .ok c => return (← openEventsM opener rest).map ((e, c) :: ·)
    | .error source =>
      if e.isEssential then return .error (.essentialUnavailable e.name source)
      else openEventsM opener rest

/-- A refused essential event fails the set, whatever follows it. -/
theorem openEvents_refused {pre post : List HwEvent} {e : HwEvent} {src : IoError}
    (hpre : EssentialsOpen opener pre) (he : e.isEssential = true) (hs : opener e = .error src) :
    openEvents opener (pre ++ e :: post) = .error (.essentialUnavailable e.name src) := by
  induction pre with
  | nil => simp [openEvents, hs, he]
  | cons e₀ pre ih =>
    obtain ⟨h₀, hpre⟩ := essentialsOpen_cons.1 hpre
    cases hr : opener e₀ with
    | ok c => simp [openEvents, hr, ih hpre, Except.map]
    | error src₀ =>
      have hn := not_essential_of_refused h₀ hr
      simp [openEvents, hr, hn, ih hpre]

/-- A failed opening names an essential event refused after no other was. -/
theorem exists_refused {l : List HwEvent} {err : CounterError}
    (h : openEvents opener l = .error err) :
    ∃ pre e post src, l = pre ++ e :: post ∧ EssentialsOpen opener pre ∧
      e.isEssential = true ∧ opener e = .error src ∧ err = .essentialUnavailable e.name src := by
  induction l generalizing err with
  | nil => simp [openEvents] at h
  | cons e₀ rest ih =>
    -- the refusal is this event's, or one further on behind an event that passed
    have later : ∀ (hrest : openEvents opener rest = .error err),
        (e₀.isEssential = true → (opener e₀).isOk = true) →
        ∃ pre e post src, e₀ :: rest = pre ++ e :: post ∧ EssentialsOpen opener pre ∧
          e.isEssential = true ∧ opener e = .error src ∧ err = .essentialUnavailable e.name src := by
      intro hrest h₀
      obtain ⟨pre, e, post, src, rfl, hpre, he, hs, rfl⟩ := ih hrest
      exact ⟨e₀ :: pre, e, post, src, rfl, essentialsOpen_cons.2 ⟨h₀, hpre⟩, he, hs, rfl⟩
    cases hr : opener e₀ with
    | ok c =>
      simp only [openEvents, hr] at h
      cases hrest : openEvents opener rest with
      | ok cs => simp [hrest, Except.map] at h
      | error err' =>
        simp only [hrest, Except.map, Except.error.injEq] at h
        subst h
        exact later hrest fun _ => by simp [hr, Except.isOk, Except.toBool]
    | error src =>
      cases hess : e₀.isEssential
      · simp only [openEvents, hr, hess, Bool.false_eq_true, ite_false] at h
        exact later h fun h => by simp [hess] at h
      · simp only [openEvents, hr, hess, ite_true, Except.error.injEq] at h
        exact ⟨[], e₀, rest, src, rfl, fun _ h => absurd h List.not_mem_nil, hess, hr, h.symm⟩

/-- **An opening that succeeds** refused no essential event and holds exactly
the events that opened, in order. -/
theorem openEvents_eq_ok {l : List HwEvent} {cs : HardwareCounters} :
    openEvents opener l = .ok cs ↔ EssentialsOpen opener l ∧ cs = openedAmong opener l := by
  induction l generalizing cs with
  | nil =>
    simp only [openEvents, openedAmong_nil, Except.ok.injEq]
    exact ⟨fun h => ⟨fun _ h => absurd h List.not_mem_nil, h.symm⟩, fun h => h.2.symm⟩
  | cons e₀ rest ih =>
    rw [essentialsOpen_cons]
    cases hr : opener e₀ with
    | ok c =>
      simp only [openEvents, hr, openedAmong_cons_ok hr]
      cases hrest : openEvents opener rest with
      | ok cs' =>
        obtain ⟨hopen, rfl⟩ := ih.1 hrest
        simp only [Except.map, Except.ok.injEq]
        exact ⟨fun h => ⟨⟨fun _ => rfl, hopen⟩, h.symm⟩, fun h => h.2.symm⟩
      | error err =>
        have hnot : ¬ EssentialsOpen opener rest := fun hopen =>
          absurd (ih.2 ⟨hopen, rfl⟩) (by rw [hrest]; simp)
        simp [Except.map, hnot]
    | error src =>
      rw [openedAmong_cons_error hr]
      cases hess : e₀.isEssential
      · simp [openEvents, hr, hess, ih]
      · simp [openEvents, hr, hess, Except.isOk, Except.toBool]

/-- **A refused essential event ends the asking**: the opener was asked about
the events before it and about it, and no more. -/
theorem openEventsM_logged_refused {pre post : List HwEvent} {e : HwEvent} {src : IoError}
    (hpre : EssentialsOpen opener pre) (he : e.isEssential = true) (hs : opener e = .error src)
    (asked : List HwEvent) :
    (openEventsM (logged opener) (pre ++ e :: post)).run asked =
      pure (.error (.essentialUnavailable e.name src), asked ++ pre ++ [e]) := by
  induction pre generalizing asked with
  | nil => simp [openEventsM, logged, hs, he]
  | cons e₀ pre ih =>
    obtain ⟨h₀, hpre⟩ := essentialsOpen_cons.1 hpre
    cases hr : opener e₀ with
    | ok c => simp [openEventsM, logged, hr, ih hpre, Except.map]
    | error src₀ =>
      have hn := not_essential_of_refused h₀ hr
      simp [openEventsM, logged, hr, hn, ih hpre]

/-- An opening that succeeds asked about every event once, in order. -/
theorem openEventsM_logged_ok {l : List HwEvent} (h : EssentialsOpen opener l)
    (asked : List HwEvent) :
    (openEventsM (logged opener) l).run asked = pure (.ok (openedAmong opener l), asked ++ l) := by
  induction l generalizing asked with
  | nil => simp [openEventsM]
  | cons e₀ rest ih =>
    obtain ⟨h₀, hrest⟩ := essentialsOpen_cons.1 h
    cases hr : opener e₀ with
    | ok c => simp [openEventsM, logged, hr, ih hrest, Except.map, openedAmong_cons_ok hr]
    | error src =>
      have hn := not_essential_of_refused h₀ hr
      simp [openEventsM, logged, hr, hn, ih hrest, openedAmong_cons_error hr]

/-- **An opening that succeeds holds the three essential events**, and more
when optional ones open. -/
theorem three_le_length_openedAmong (h : EssentialsOpen opener HwEvent.all) :
    3 ≤ (openedAmong opener HwEvent.all).length := by
  have hok : ∀ e ∈ HwEvent.all, e.isEssential = true → ∃ c, opener e = .ok c := by
    intro e he hess
    have := h e he hess
    cases hr : opener e with
    | ok c => exact ⟨c, rfl⟩
    | error src => simp [hr, Except.isOk, Except.toBool] at this
  obtain ⟨c₁, h₁⟩ := hok .l1Misses (by decide) rfl
  obtain ⟨c₂, h₂⟩ := hok .cpuCycles (by decide) rfl
  obtain ⟨c₃, h₃⟩ := hok .instructions (by decide) rfl
  -- the essential events form a sublist of all events, and each of them opened
  have hsub : (openedAmong opener [.l1Misses, .cpuCycles, .instructions]).Sublist
      (openedAmong opener HwEvent.all) := List.Sublist.filterMap _ (by decide)
  have hthree : (openedAmong opener [.l1Misses, .cpuCycles, .instructions]).length = 3 := by
    simp [openedAmong_cons_ok h₁, openedAmong_cons_ok h₂, openedAmong_cons_ok h₃]
  exact hthree ▸ hsub.length_le

/-- The events that open among `l` are a sublist of it. -/
theorem events_openedAmong_sublist (l : List HwEvent) :
    (events (openedAmong opener l)).Sublist l := by
  induction l with
  | nil => exact List.Sublist.slnil
  | cons e rest ih =>
    cases hr : opener e with
    | error src => rw [openedAmong_cons_error hr]; exact ih.cons e
    | ok c => rw [openedAmong_cons_ok hr]; exact ih.cons_cons e

end HardwareCounters

/-! ## Calls on a counter source -/

namespace CounterSource

/-- **One call on a counter source**: a start, a stop over some byte count, or
a close. -/
inductive Call : CounterSource → CounterSource → Prop
  | start (s : CounterSource) : Call s s.start
  | stop (s : CounterSource) (byteCount : UInt64) : Call s (s.stop byteCount).2
  | close (s : CounterSource) : Call s s.close

/-- The sources a sequence of calls leads to. -/
def Reaches : CounterSource → CounterSource → Prop := Relation.ReflTransGen Call

/-- **A hardware set holding each event at most once.** -/
def Distinct (s : CounterSource) : Prop :=
  ∃ cs, s = .hardware cs ∧ (HardwareCounters.events cs).Nodup

/-- A source with nothing to count: the null source or an emptied set. -/
def Silent (s : CounterSource) : Prop := s = .null ∨ s = .hardware []

theorem events_map_snd (cs : HardwareCounters) (f : EventCounter → EventCounter) :
    HardwareCounters.events (cs.map fun x => (x.1, f x.2)) = HardwareCounters.events cs := by
  simp [HardwareCounters.events, Function.comp_def]

/-- Every call keeps a set without repeated events so. -/
theorem Call.distinct {s s' : CounterSource} (h : Call s s') (hd : s.Distinct) : s'.Distinct := by
  obtain ⟨cs, rfl, hnd⟩ := hd
  cases h with
  | start => exact ⟨cs.map fun x => (x.1, x.2.restart), rfl, (events_map_snd cs _).symm ▸ hnd⟩
  | stop b =>
    refine ⟨cs.halted.readDone, rfl, ?_⟩
    rwa [HardwareCounters.events_readDone, HardwareCounters.events_halted]
  | close => exact ⟨[], rfl, List.nodup_nil⟩

theorem Distinct.reaches {s s' : CounterSource} (h : s.Reaches s') (hd : s.Distinct) :
    s'.Distinct := by
  induction h with
  | refl => exact hd
  | tail _ hc ih => exact hc.distinct ih

/-- A source with nothing to count stays so under every call. -/
theorem Call.silent {s s' : CounterSource} (h : Call s s') (hs : s.Silent) : s'.Silent := by
  rcases hs with rfl | rfl <;> cases h <;> first | exact .inl rfl | exact .inr rfl

/-- **After a close, every source the calls lead to counts nothing.** -/
theorem reaches_of_close {s₀ s : CounterSource} (h : s₀.close.Reaches s) : s.Silent := by
  induction h with
  | refl => cases s₀ <;> first | exact .inl rfl | exact .inr rfl
  | tail _ hc ih => exact hc.silent ih

/-- A silent source is not available and reports zero counts. -/
theorem Silent.stop_zero {s : CounterSource} (hs : s.Silent) (b : UInt64) :
    s.isAvailable = false ∧ (s.stop b).1.raw = RawCounts.zero := by
  rcases hs with rfl | rfl <;> exact ⟨rfl, rfl⟩

end CounterSource

/-- The saturating sum is the sum, capped at the largest word: it never wraps. -/
theorem UInt64.saturatingAdd_toNat (a b : UInt64) :
    (UInt64.saturatingAdd a b).toNat = min (a.toNat + b.toNat) (UInt64.size - 1) := by
  have hsize : UInt64.size = 18446744073709551616 := rfl
  unfold UInt64.saturatingAdd
  split
  · rename_i h
    rw [UInt64.toNat_add, Nat.mod_eq_of_lt h]
    omega
  · rename_i h
    simp only [UInt64.reduceToNat]
    omega

open HardwareCounters HwEvent in
/-- **The counter facade reports what it opened and read.**  Opening fails
exactly when an essential event is refused, and then names the first one, the
opener asked about nothing after it; otherwise the set holds the events that
opened, in order, at least the three essential ones.  Whatever starts, stops
and closes follow, each stop reports, for every open event, the count its read
gave, zero for the rest, the load count repeating the L1 reads, and the same
whatever the order of the counters; after a close nothing is counted.  The
denominator of loads plus stores saturates. -/
theorem counter_set_reports_reads (opener : HwEvent → Except IoError EventCounter) :
    ((∃ err, openWith opener = .error err) ↔
      ∃ e ∈ HwEvent.all, e.isEssential = true ∧ (opener e).isOk = false) ∧
    (∀ err, openWith opener = .error err ↔
      ∃ pre e post src, HwEvent.all = pre ++ e :: post ∧ EssentialsOpen opener pre ∧
        e.isEssential = true ∧ opener e = .error src ∧ err = .essentialUnavailable e.name src) ∧
    (∀ pre e post src, HwEvent.all = pre ++ e :: post → EssentialsOpen opener pre →
        e.isEssential = true → opener e = .error src →
      (openEventsM (logged opener) HwEvent.all).run [] =
        pure (.error (.essentialUnavailable e.name src), pre ++ [e])) ∧
    (∀ cs, openWith opener = .ok cs →
      cs = openedAmong opener HwEvent.all ∧
      (openEventsM (logged opener) HwEvent.all).run [] = pure (.ok cs, HwEvent.all) ∧
      3 ≤ (CounterSource.hardware cs).opened ∧ (CounterSource.hardware cs).isAvailable = true ∧
      ∀ s, (CounterSource.hardware cs).Reaches s → ∀ b, ∃ cs', s = .hardware cs' ∧
        (s.stop b).1 = CounterReport.derive (RawCounts.ofEvents (readOf cs'.halted)) b ∧
        ∀ cs'', cs''.Perm cs' → ((CounterSource.hardware cs'').stop b).1 = (s.stop b).1) ∧
    (∀ s₀ s : CounterSource, s₀.close.Reaches s →
      s.isAvailable = false ∧ ∀ b, (s.stop b).1.raw = RawCounts.zero) ∧
    (∀ a b : UInt64,
      (UInt64.saturatingAdd a b).toNat = min (a.toNat + b.toNat) (UInt64.size - 1)) := by
  refine ⟨?fails, fun err => ⟨exists_refused, ?named⟩, ?asked, ?opens, ?closed,
    UInt64.saturatingAdd_toNat⟩
  case fails =>
    constructor
    · rintro ⟨err, h⟩
      obtain ⟨pre, e, post, src, hall, -, he, hs, -⟩ := exists_refused h
      exact ⟨e, by simp [hall], he, by simp [hs, Except.isOk, Except.toBool]⟩
    · rintro ⟨e, hm, he, hrefused⟩
      cases h : openWith opener with
      | error err => exact ⟨err, rfl⟩
      | ok cs => exact absurd ((openEvents_eq_ok.1 h).1 e hm he) (by simp [hrefused])
  case named =>
    rintro ⟨pre, e, post, src, hall, hpre, he, hs, rfl⟩
    rw [openWith, hall, openEvents_refused hpre he hs]
  case asked =>
    intro pre e post src hall hpre he hs
    rw [hall]
    have hrun : (openEventsM (logged opener) (pre ++ e :: post)).run [] = _ :=
      openEventsM_logged_refused hpre he hs []
    simpa using hrun
  case opens =>
    intro cs h
    obtain ⟨hopen, rfl⟩ := openEvents_eq_ok.1 h
    have hthree := three_le_length_openedAmong hopen
    have hnd : (events (openedAmong opener HwEvent.all)).Nodup :=
      (events_openedAmong_sublist _).nodup (by decide)
    refine ⟨rfl, by simpa using openEventsM_logged_ok hopen [], hthree, ?_, ?_⟩
    · have hne : openedAmong opener HwEvent.all ≠ [] := fun h => by simp [h] at hthree
      simpa [CounterSource.isAvailable] using hne
    · intro s hreach b
      -- every call keeps the set free of repeated events
      obtain ⟨cs', rfl, hnd'⟩ := CounterSource.Distinct.reaches hreach ⟨_, rfl, hnd⟩
      have hhalt : (events cs'.halted).Nodup := (events_halted cs').symm ▸ hnd'
      refine ⟨cs', rfl, by rw [stop_hardware, readAll_eq_ofEvents hhalt], fun cs'' hp => ?_⟩
      rw [stop_hardware, stop_hardware]
      exact congrArg (CounterReport.derive · b) (readAll_perm hhalt (hp.symm.map _)).symm
  case closed =>
    intro s₀ s h
    exact ⟨((CounterSource.reaches_of_close h).stop_zero 0).1,
      fun b => ((CounterSource.reaches_of_close h).stop_zero b).2⟩

/-- Refusing the cycle counter fails the set after six questions to the opener;
opening everything gives nine counters; an emptied set counts nothing. -/
theorem counter_set_refuses_cycles :
    (HardwareCounters.openEventsM
        (HwEvent.logged fun e => if e = .cpuCycles then .error (.custom "denied") else .ok ({} : FixedAnswers).device)
        HwEvent.all).run [] =
      pure (.error (.essentialUnavailable "cpu-cycles" (.custom "denied")),
        [.l1Misses, .l1References, .llcMisses, .llcReferences, .tlbMisses, .cpuCycles]) ∧
    3 ≤ (CounterSource.hardware (HwEvent.all.map (·, ({ increment := 10 } : FixedAnswers).device))).opened ∧
    ((CounterSource.hardware []).stop 100).1.raw = RawCounts.zero :=
  ⟨(counter_set_reports_reads _).2.2.1
      [.l1Misses, .l1References, .llcMisses, .llcReferences, .tlbMisses] .cpuCycles
      [.instructions, .contextSwitches, .memoryStores] _ rfl (by decide) rfl rfl,
    ((counter_set_reports_reads fun _ => .ok ({ increment := 10 } : FixedAnswers).device).2.2.2.1 _ rfl).2.2.1,
    ((counter_set_reports_reads fun _ => .ok ({} : FixedAnswers).device).2.2.2.2.1 (.hardware []) (.hardware [])
      Relation.ReflTransGen.refl).2 100⟩

end ShmBench

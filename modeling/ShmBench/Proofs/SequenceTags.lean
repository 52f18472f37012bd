import ShmBench.Cli.Invocation
import ShmBench.Message

/-!
# Sequence tags over the counts the command line admits

A message's sequence number tells which test sent it: latency iteration `i` is
numbered `i`, bandwidth iteration `j` is numbered `0xFFFF + j` in 32-bit
arithmetic, and a number at or above `0xFFFF` is read back as bandwidth.  Each
side of the tag is exact (`MessageKind.classify_latency_iff`,
`MessageKind.classify_bandwidth_iff`): a latency iteration reads back as latency
exactly below the base, a bandwidth iteration as bandwidth exactly below
`bandwidthRoom = 2^32 - 0xFFFF`; past that its number wraps onto the latency
numbers, `bandwidthRoom` iterations after the latency iteration it meets
(`MessageKind.latency_eq_bandwidth_iff`).

The host runs the counts its command line gives.  A parser promises that
every number a line it reads holds passed the value check of its option
(`ParserContract`), and the program's own reader keeps that promise
(`Reading.Vetted`, kept by each step of the reading, hence `readLine_contract`);
so `-l` and `-n` give at most 65535 and `-b` at most `2^32 - 1`
(`ModeArgs.Admitted`).  The latency tags
of a host run are therefore always right, and its bandwidth tags exactly for
the iterations below `bandwidthRoom` (`host_sequence_tags`): `-b` admits counts
whose last iterations wrap, and `host -b 4294967295` sends bandwidth iteration
4294901761 under number 0, the number of latency iteration 0
(`bandwidth_tag_wraps`).
-/

namespace ShmBench

/-- The bandwidth iterations whose numbers stay at or above the base:
`2^32 - 0xFFFF`. -/
def bandwidthRoom : Nat := 4294967296 - bandwidthBase.toNat

namespace MessageKind

theorem classify_eq_latency_iff (s : UInt32) :
    classify s = .latency ↔ s.toNat < bandwidthBase.toNat := by
  unfold classify
  split
  · rename_i h
    simpa [UInt32.le_iff_toNat_le] using h
  · rename_i h
    simpa [UInt32.le_iff_toNat_le] using h

theorem classify_eq_bandwidth_iff (s : UInt32) :
    classify s = .bandwidth ↔ bandwidthBase.toNat ≤ s.toNat := by
  unfold classify
  split
  · rename_i h
    simpa [UInt32.le_iff_toNat_le] using h
  · rename_i h
    simpa [UInt32.le_iff_toNat_le] using h

theorem toNat_bandwidth_sequence (j : UInt32) :
    (sequence .bandwidth j).toNat = (bandwidthBase.toNat + j.toNat) % 4294967296 :=
  UInt32.toNat_add _ _

/-- A latency iteration is read back as latency exactly below the base. -/
theorem classify_latency_iff (i : UInt32) :
    classify (sequence .latency i) = .latency ↔ i.toNat < bandwidthBase.toNat :=
  classify_eq_latency_iff i

/-- A bandwidth iteration is read back as bandwidth exactly below
`bandwidthRoom`; from there on its number wraps below the base. -/
theorem classify_bandwidth_iff (j : UInt32) :
    classify (sequence .bandwidth j) = .bandwidth ↔ j.toNat < bandwidthRoom := by
  rw [classify_eq_bandwidth_iff, toNat_bandwidth_sequence]
  have := j.toNat_lt
  simp only [bandwidthRoom, bandwidthBase, UInt32.reduceToNat]
  omega

/-- **Where latency and bandwidth numbers meet**: a latency iteration below
the base shares its number only with the bandwidth iteration `bandwidthRoom`
places later. -/
theorem latency_eq_bandwidth_iff {i : UInt32} (hi : i.toNat < bandwidthBase.toNat) (j : UInt32) :
    sequence .latency i = sequence .bandwidth j ↔ j.toNat = i.toNat + bandwidthRoom := by
  rw [← UInt32.toNat_inj, toNat_bandwidth_sequence]
  have := j.toNat_lt
  simp only [sequence, bandwidthRoom, bandwidthBase, UInt32.reduceToNat] at hi ⊢
  omega

end MessageKind

namespace Cli

/-! ## Every number read passed its option's check -/

/-- A ranged value check accepts only the numbers of its range. -/
theorem checkValue_ranged {o : OptionSpec} {lo hi : Int} (hk : o.kind = .ranged lo hi)
    {raw : String} {n : Nat} (h : checkValue o raw = .ok (.number n)) :
    ∃ m : Int, lo ≤ m ∧ m ≤ hi ∧ n = m.toNat := by
  simp only [checkValue, hk] at h
  split at h
  · cases h
  · rename_i m _
    split at h
    · rename_i hr
      simp only [Bool.and_eq_true, decide_eq_true_eq] at hr
      cases h
      exact ⟨m, hr.1, hr.2, rfl⟩
    · cases h

theorem mem_of_lookup {l : List (String × Value)} {id : String} {v : Value}
    (h : l.lookup id = some v) : (id, v) ∈ l := by
  induction l with
  | nil => cases h
  | cons p l ih =>
    obtain ⟨k, w⟩ := p
    rw [List.lookup_cons] at h
    split at h
    · rename_i hk
      cases h
      simp [beq_iff_eq.mp hk]
    · exact List.mem_cons_of_mem _ (ih h)

/-- **A reading that holds only checked numbers**: the option waiting for its
value is one of the level's, and every number given was accepted by the value
check of an option of the level under its id. -/
structure Reading.Vetted (s : Scope) (r : Reading) : Prop where
  pending : ∀ o, r.pending = some o → o ∈ s.options
  numbers : ∀ id n, (id, Value.number n) ∈ r.given.values →
    ∃ o ∈ s.options, o.id = id ∧ ∃ raw, checkValue o raw = .ok (.number n)

namespace Reading.Vetted

variable {s : Scope} {r r' : Reading}

theorem empty : Reading.Vetted s {} where
  pending _ h := by cases h
  numbers _ _ h := by cases h

/-- Dropping the waiting option keeps the numbers checked. -/
theorem drop_pending (h : r.Vetted s) : Reading.Vetted s { r with pending := none } where
  pending _ h' := by cases h'
  numbers := h.numbers

/-- Waiting for an option of the level keeps the reading checked. -/
theorem wait {o : OptionSpec} (ho : o ∈ s.options) (h : r.Vetted s) :
    Reading.Vetted s { r with pending := some o } where
  pending _ h' := by cases h'; exact ho
  numbers := h.numbers

/-- Setting the positional argument keeps the reading checked. -/
theorem place (t : String) (h : r.Vetted s) :
    Reading.Vetted s { r with given := { r.given with positional := some t } } :=
  ⟨h.pending, h.numbers⟩

/-- Seeing `--` keeps the reading checked. -/
theorem escape (h : r.Vetted s) : Reading.Vetted s { r with escaped := true } :=
  ⟨h.pending, h.numbers⟩

end Reading.Vetted

variable {s : Scope} {r r' : Reading}

/-- **Giving an option** adds one value under its id, a number only when the
option's check accepted it. -/
theorem react_eq_ok {o : OptionSpec} {raw : Option String} (h : react s r o raw = .ok r') :
    ∃ v, r' = { r with given := { r.given with values := r.given.values ++ [(o.id, v)] } } ∧
      ∀ n, v = .number n → ∃ raw, checkValue o raw = .ok (.number n) := by
  unfold react at h
  split at h
  · cases h
  · cases h
  · split at h
    · -- an option that may go without a value and got none: its stand-in is checked
      rename_i missing hopt
      simp only [hopt] at h
      split at h
      · cases h
      · split at h
        · rename_i val hv
          cases h
          exact ⟨val, rfl, fun n hn => ⟨missing, hn ▸ hv⟩⟩
        · cases h
    · -- a given value is checked; a switch stores a flag
      dsimp only at h
      split at h
      · cases h
      · split at h
        · cases h
        · split at h
          · cases h
            exact ⟨.flag, rfl, fun _ h => by cases h⟩
          · split at h
            · rename_i val hv
              cases h
              exact ⟨val, rfl, fun n hn => ⟨_, hn ▸ hv⟩⟩
            · cases h

theorem react_vetted {o : OptionSpec} {raw : Option String} (ho : o ∈ s.options)
    (hr : r.Vetted s) (h : react s r o raw = .ok r') : r'.Vetted s := by
  obtain ⟨v, rfl, hv⟩ := react_eq_ok h
  refine ⟨hr.pending, fun id n hn => ?_⟩
  rcases List.mem_append.mp hn with hn | hn
  · exact hr.numbers id n hn
  · simp only [List.mem_singleton, Prod.mk.injEq] at hn
    obtain ⟨rfl, rfl⟩ := hn
    exact ⟨o, ho, rfl, hv n rfl⟩

theorem resolve_vetted (hr : r.Vetted s) (h : resolve s r = .ok r') : r'.Vetted s := by
  unfold resolve at h
  split at h
  · cases h
    exact hr
  · rename_i o ho
    exact react_vetted (hr.pending o ho) hr.drop_pending h

theorem long_vetted {body : String} {rest : List String} (hr : r.Vetted s)
    (h : long s r body rest = .ok r') : r'.Vetted s := by
  unfold long at h
  simp only [bind, Except.bind] at h
  split at h
  · rename_i o ho
    have hmem := List.mem_of_find?_eq_some ho
    split at h
    · split at h
      · cases h
      · rename_i r₁ h₁
        split at h
        · exact react_vetted hmem (resolve_vetted hr h₁) h
        · cases h
          exact (resolve_vetted hr h₁).wait hmem
    · split at h
      · cases h
      · split at h
        · cases h
        · rename_i r₁ h₁
          exact react_vetted hmem (resolve_vetted hr h₁) h
  · cases h

theorem shorts_vetted (cs : List Char) (hr : r.Vetted s) (h : shorts s r cs = .ok r') :
    r'.Vetted s := by
  induction cs generalizing r with
  | nil =>
    cases h
    exact hr
  | cons c more ih =>
    simp only [shorts, bind, Except.bind] at h
    split at h
    · cases h
    · rename_i o ho
      have hmem := List.mem_of_find?_eq_some ho
      split at h
      · split at h
        · cases h
        · rename_i r₁ h₁
          split at h
          · cases h
          · rename_i r₂ h₂
            exact ih (react_vetted hmem (resolve_vetted hr h₁) h₂) h
      · split at h
        · cases h
        · rename_i r₁ h₁
          split at h
          · cases h
            exact (resolve_vetted hr h₁).wait hmem
          · exact react_vetted hmem (resolve_vetted hr h₁) h
          · exact react_vetted hmem (resolve_vetted hr h₁) h

theorem positional_vetted {t : String} (hr : r.Vetted s) (h : positional s r t = .ok r') :
    r'.Vetted s := by
  unfold positional at h
  simp only [bind, Except.bind] at h
  split at h
  · split at h
    · split at h
      · cases h
      · rename_i r₁ h₁
        split at h
        · cases h
        · cases h
          exact (resolve_vetted hr h₁).place t
    · cases h
  · split at h
    · cases h
    · split at h
      · cases h
      · cases h

/-- **Reading a level keeps its numbers checked**, by induction on the
arguments: each argument is read by one of the steps above. -/
theorem level_vetted (args : List String) {next : Option (String × List String)}
    (hr : r.Vetted s) (h : level s args r = .ok (r', next)) : r'.Vetted s := by
  induction args generalizing r with
  | nil =>
    simp only [level, bind, Except.bind] at h
    split at h
    · cases h
    · rename_i r₁ h₁
      cases h
      exact resolve_vetted hr h₁
  | cons t rest ih =>
    simp only [level, bind, Except.bind] at h
    split at h
    · -- after `--` every argument is positional
      split at h
      · cases h
      · rename_i r₁ h₁
        exact ih (positional_vetted hr h₁) h
    · split at h
      · -- a command name ends the level
        cases h
        exact hr
      · split at h
        · exact ih hr.escape h
        · split at h
          · -- a long option
            split at h
            · cases h
            · rename_i r₁ h₁
              exact ih (long_vetted hr h₁) h
          · split at h
            · -- a cluster of short options
              split at h
              · cases h
              · rename_i r₁ h₁
                exact ih (shorts_vetted _ hr h₁) h
            · split at h
              · -- the value of the option waiting for one
                rename_i o ho
                split at h
                · cases h
                · rename_i r₁ h₁
                  exact ih (react_vetted (hr.pending o ho) hr.drop_pending h₁) h
              · split at h
                · cases h
                · rename_i r₁ h₁
                  exact ih (positional_vetted hr h₁) h

/-- A number read off a level was given under its id. -/
theorem Given.mem_of_number_eq_some {g : Given} {id : String} {n : Nat}
    (h : g.number? id = some n) : (id, Value.number n) ∈ g.values := by
  unfold Given.number? at h
  split at h
  · cases h
    exact mem_of_lookup ‹_›
  · cases h

/-- The command found by a name is found again by its own name. -/
theorem findCommand_name {name : String} {c : CommandSpec} (h : findCommand name = some c) :
    findCommand c.name = some c := by
  have := List.find?_some h
  rw [beq_iff_eq.mp this]
  exact h

/-- **What a command-line parser promises**: a line it reads names a command
of the program, and after it holds only numbers that the value check of one of
the command's options accepted under that option's id. -/
def ParserContract (read : List String → Except Halt CommandLine) : Prop :=
  ∀ args l, read args = .ok l → findCommand l.command.name = some l.command ∧
    ∀ id n, l.after.number? id = some n →
      ∃ o ∈ l.command.accepted, o.id = id ∧ ∃ raw, checkValue o raw = .ok (.number n)

/-- **What a command line that was read gives**: a command of the program,
and after it only numbers that the value check of one of the command's
options accepted under that option's id. -/
theorem readLine_vetted {args : List String} {l : CommandLine} (h : readLine args = .ok l) :
    findCommand l.command.name = some l.command ∧
      ∀ id n, l.after.number? id = some n →
        ∃ o ∈ l.command.accepted, o.id = id ∧ ∃ raw, checkValue o raw = .ok (.number n) := by
  unfold readLine at h
  simp only [bind, Except.bind] at h
  split at h
  · cases h
  · rename_i x _
    obtain ⟨r, next⟩ := x
    split at h
    · -- no command named: the line is refused
      split at h <;> cases h
    · split at h
      · -- an unknown command name
        cases h
      · rename_i c hc
        split at h
        · cases h
        · rename_i y hy
          obtain ⟨r₂, _⟩ := y
          have hv := level_vetted _ Reading.Vetted.empty hy
          -- a command without a positional argument, or with one given, is read
          have hl : l = ⟨r.given, c, r₂.given⟩ := by
            split at h
            · split at h
              · cases h
              · cases h
                rfl
            · cases h
              rfl
          subst hl
          exact ⟨findCommand_name hc,
            fun id n hn => hv.numbers id n (Given.mem_of_number_eq_some hn)⟩

/-- The program's own reader keeps the parser's contract. -/
theorem readLine_contract : ParserContract readLine := fun _ _ h => readLine_vetted h

/-! ## The counts of a host run -/

/-- **The counts the host's options admit**: `-l` and `-n` give `1..=65535`,
`-b` gives `1..=2^32 - 1`. -/
structure ModeArgs.Admitted (m : ModeArgs) : Prop where
  latency : ∀ n, m.latency = some n → 1 ≤ n ∧ n ≤ 65535
  bandwidth : ∀ n, m.bandwidth = some n → 1 ≤ n ∧ n ≤ 4294967295
  count : ∀ n, m.count = some n → 1 ≤ n ∧ n ≤ 65535

/-- The value checks of `host`'s count options. -/
theorem hostCommand_count_kinds : ∀ o ∈ hostCommand.accepted,
    (o.id = "latency" → o.kind = .ranged 1 maxLatencyCount) ∧
    (o.id = "bandwidth" → o.kind = .ranged 1 maxWord) ∧
    (o.id = "count" → o.kind = .ranged 1 maxLatencyCount) := by
  decide

/-- A command line read as `host` was read at the `host` level, and its test
selection is what that level gave. -/
theorem ofLine_host {l : CommandLine} {a : HostArgs} (hc : findCommand l.command.name = some l.command)
    (h : (Invocation.ofLine l).command = .host a) :
    l.command = hostCommand ∧ a.modes = Invocation.modes l.after := by
  unfold Invocation.ofLine at h
  split at h
  · rename_i hn
    cases h
    rw [hn] at hc
    exact ⟨(Option.some.inj hc).symm, rfl⟩
  all_goals cases h

/-- A number read at the `host` level for an option checked in `lo..=hi`
lies in that range. -/
theorem host_number_ranged {l : CommandLine} (hl : l.command = hostCommand)
    (hv : ∀ id n, l.after.number? id = some n →
      ∃ o ∈ l.command.accepted, o.id = id ∧ ∃ raw, checkValue o raw = .ok (.number n))
    {id : String} {hi : Int} (hk : ∀ o ∈ hostCommand.accepted, o.id = id → o.kind = .ranged 1 hi)
    {n : Nat} (hn : l.after.number? id = some n) : 1 ≤ n ∧ n ≤ hi.toNat := by
  obtain ⟨o, ho, hid, raw, hr⟩ := hv id n hn
  rw [hl] at ho
  obtain ⟨m, h₁, h₂, rfl⟩ := checkValue_ranged (hk o ho hid) hr
  omega

/-- **Every host command line admits its counts**, under a parser that keeps
its contract: each was accepted by the value check of its option. -/
theorem host_modes_admitted {read : List String → Except Halt CommandLine}
    (hread : ParserContract read) {args : List String} {l : CommandLine} {a : HostArgs}
    (hl : read args = .ok l) (hh : (Invocation.ofLine l).command = .host a) :
    a.modes.Admitted := by
  obtain ⟨hc, hv⟩ := hread args l hl
  obtain ⟨hcmd, hm⟩ := ofLine_host hc hh
  rw [hm]
  exact ⟨fun _ hn => host_number_ranged hcmd hv (fun o ho => (hostCommand_count_kinds o ho).1) hn,
    fun _ hn => host_number_ranged hcmd hv (fun o ho => (hostCommand_count_kinds o ho).2.1) hn,
    fun _ hn => host_number_ranged hcmd hv (fun o ho => (hostCommand_count_kinds o ho).2.2) hn⟩

namespace ModeArgs.Admitted

variable {m : ModeArgs}

/-- The latency count of a plan comes from `-n`, `-l` or the default 100. -/
theorem plan_latency (hm : m.Admitted) {n : Nat} (h : m.plan.latency = some n) :
    1 ≤ n ∧ n ≤ 65535 := by
  obtain ⟨l, b, c⟩ := m
  -- the count of `-n` wins; without it the count of `-l`, and with no test chosen the default
  cases c with
  | some c =>
    have : c = n := by cases l <;> cases b <;> simp_all [ModeArgs.plan]
    exact this ▸ hm.count c rfl
  | none =>
    cases l with
    | some l =>
      have : l = n := by simp_all [ModeArgs.plan]
      exact this ▸ hm.latency l rfl
    | none =>
      -- with no test chosen both run, the latency test with its default count
      cases b with
      | some b => simp [ModeArgs.plan] at h
      | none =>
        have : n = 100 := by simpa [ModeArgs.plan, defaultLatencyCount, eq_comm] using h
        omega

/-- The bandwidth count of a plan comes from `-n`, `-b` or the default 10;
only `-n` keeps it to 65535. -/
theorem plan_bandwidth (hm : m.Admitted) {b : Nat} (h : m.plan.bandwidth = some b) :
    1 ≤ b ∧ b ≤ 4294967295 ∧ (m.count.isSome → b ≤ 65535) := by
  obtain ⟨l, b', c⟩ := m
  cases c with
  | some c =>
    have : c = b := by cases l <;> cases b' <;> simp_all [ModeArgs.plan]
    have := hm.count c rfl
    simp only [Option.isSome_some, forall_const]
    omega
  | none =>
    simp only [Option.isSome_none, Bool.false_eq_true, false_implies, and_true]
    cases b' with
    | some b' =>
      have : b' = b := by simp_all [ModeArgs.plan]
      exact this ▸ hm.bandwidth b' rfl
    | none =>
      -- with no test chosen both run, the bandwidth test with its default count
      cases l with
      | some l => simp [ModeArgs.plan] at h
      | none =>
        have : b = 10 := by simpa [ModeArgs.plan, defaultBandwidthIterations, eq_comm] using h
        omega

end ModeArgs.Admitted

/-! ## The tags of a host run -/

/-- An iteration of a 32-bit count keeps its value as a word. -/
theorem toNat_toUInt32 {i : Nat} (h : i < 4294967296) : i.toUInt32.toNat = i :=
  UInt32.toNat_ofNat_of_lt' h

/-- Every latency iteration of a count up to 65535 is read back as latency. -/
theorem latency_iterations_tagged {n : Nat} (hn : n ≤ 65535) :
    ∀ i < n, MessageKind.classify (MessageKind.latency.sequence i.toUInt32) = .latency := by
  intro i hi
  rw [MessageKind.classify_latency_iff, toNat_toUInt32 (by omega)]
  simp only [bandwidthBase, UInt32.reduceToNat]
  omega

/-- A bandwidth iteration of a 32-bit count is read back as bandwidth exactly
below `bandwidthRoom`. -/
theorem bandwidth_iterations_tagged {b : Nat} (hb : b ≤ 4294967295) :
    ∀ j < b, (MessageKind.classify (MessageKind.bandwidth.sequence j.toUInt32) = .bandwidth ↔
      j < bandwidthRoom) := by
  intro j hj
  rw [MessageKind.classify_bandwidth_iff, toNat_toUInt32 (by omega)]

/-- A latency iteration and a bandwidth iteration share a number exactly when
the bandwidth iteration is `bandwidthRoom` past the latency one. -/
theorem iterations_meet {n b : Nat} (hn : n ≤ 65535) (hb : b ≤ 4294967295) :
    ∀ i < n, ∀ j < b, (MessageKind.latency.sequence i.toUInt32 =
      MessageKind.bandwidth.sequence j.toUInt32 ↔ j = i + bandwidthRoom) := by
  intro i hi j hj
  have hi' : i.toUInt32.toNat = i := toNat_toUInt32 (by omega)
  have hj' : j.toUInt32.toNat = j := toNat_toUInt32 (by omega)
  rw [MessageKind.latency_eq_bandwidth_iff (by simp only [hi', bandwidthBase, UInt32.reduceToNat]; omega),
    hi', hj']

/-- **Sequence tags over every host command line.**  For every command line
that a parser keeping its contract reads as `host`: every latency iteration of
its plan is read back as latency; a bandwidth iteration `j` of its plan is read
back as bandwidth exactly when `j < bandwidthRoom`, which every count `-n`
gives keeps, while `-b` admits counts up to `2^32 - 1`; and latency iteration
`i` shares its number with bandwidth iteration `j` exactly when
`j = i + bandwidthRoom`. -/
theorem host_sequence_tags {read : List String → Except Halt CommandLine}
    (hread : ParserContract read) {args : List String} {l : CommandLine} {a : HostArgs}
    (hl : read args = .ok l) (hh : (Invocation.ofLine l).command = .host a) :
    (∀ n, a.modes.plan.latency = some n → n ≤ 65535 ∧
      ∀ i < n, MessageKind.classify (MessageKind.latency.sequence i.toUInt32) = .latency) ∧
    (∀ b, a.modes.plan.bandwidth = some b → b ≤ 4294967295 ∧ (a.modes.count.isSome → b ≤ 65535) ∧
      ∀ j < b, (MessageKind.classify (MessageKind.bandwidth.sequence j.toUInt32) = .bandwidth ↔
        j < bandwidthRoom)) ∧
    (∀ n b, a.modes.plan.latency = some n → a.modes.plan.bandwidth = some b → ∀ i < n, ∀ j < b,
      (MessageKind.latency.sequence i.toUInt32 = MessageKind.bandwidth.sequence j.toUInt32 ↔
        j = i + bandwidthRoom)) := by
  have hm := host_modes_admitted hread hl hh
  refine ⟨fun n hn => ?_, fun b hb => ?_, fun n b hn hb => ?_⟩
  · have := hm.plan_latency hn
    exact ⟨this.2, latency_iterations_tagged this.2⟩
  · obtain ⟨-, hle, hcount⟩ := hm.plan_bandwidth hb
    exact ⟨hle, hcount, bandwidth_iterations_tagged hle⟩
  · exact iterations_meet (hm.plan_latency hn).2 (hm.plan_bandwidth hb).2.1

/-- A line that names `host` first is read at the `host` level. -/
theorem readLine_host (rest : List String) :
    readLine ("host" :: rest) =
      (level (Scope.ofCommand hostCommand) rest {}).map fun p => ⟨{}, hostCommand, p.1.given⟩ := by
  have htop : level Scope.top ("host" :: rest) {} = .ok ({}, some ("host", rest)) := by
    simp only [level]
    rfl
  have hc : findCommand "host" = some hostCommand := rfl
  simp only [readLine, htop, hc, bind, Except.bind]
  cases level (Scope.ofCommand hostCommand) rest {} with
  | error e => rfl
  | ok p => rfl

/-- `host -l -b 4294967295` is read with the latency test's stand-in count
and the largest count `-b` admits. -/
theorem level_host_latency_bandwidth :
    level (Scope.ofCommand hostCommand) ["-l", "-b", "4294967295"] {} =
      .ok (⟨⟨[("latency", .number 100), ("bandwidth", .number 4294967295)], none⟩, none, false⟩,
        none) := by
  simp only [level, show ("-l" == "--") = false by decide, show ("-b" == "--") = false by decide,
    show ("4294967295" == "--") = false by decide, show "-l".startsWith "--" = false by simp,
    show "-l".startsWith "-" = true by simp, show "-b".startsWith "--" = false by simp,
    show "-b".startsWith "-" = true by simp, show "4294967295".startsWith "--" = false by simp,
    show "4294967295".startsWith "-" = false by simp]
  rfl

/-- `host -l -b 4294967295`, read by the program's own reader, runs 100
latency messages and `2^32 - 1` bandwidth messages per frame; of the latter,
exactly those below `bandwidthRoom` are read back as bandwidth. -/
theorem host_sequence_tags_full_range :
    readLine ["host", "-l", "-b", "4294967295"] =
        .ok ⟨{}, hostCommand, ⟨[("latency", .number 100), ("bandwidth", .number 4294967295)], none⟩⟩ ∧
      (Invocation.ofLine ⟨{}, hostCommand,
          ⟨[("latency", .number 100), ("bandwidth", .number 4294967295)], none⟩⟩).command =
        .host { modes := { latency := some 100, bandwidth := some 4294967295 } } ∧
      ∀ j < 4294967295, (MessageKind.classify (MessageKind.bandwidth.sequence j.toUInt32) =
        .bandwidth ↔ j < bandwidthRoom) := by
  have hl : readLine ["host", "-l", "-b", "4294967295"] =
      .ok ⟨{}, hostCommand, ⟨[("latency", .number 100), ("bandwidth", .number 4294967295)], none⟩⟩ := by
    rw [readLine_host, level_host_latency_bandwidth]
    rfl
  exact ⟨hl, rfl, ((host_sequence_tags readLine_contract hl rfl).2.1 4294967295 rfl).2.2⟩

/-- **`-b` admits counts whose last tags wrap**: `host -b 4294967295` runs
`2^32 - 1` bandwidth messages per frame, and its iteration 4294901761 is
numbered 0, the number of latency iteration 0, and read back as latency. -/
theorem bandwidth_tag_wraps :
    readLine ["host", "-b", "4294967295"] =
        .ok ⟨{}, hostCommand, ⟨[("bandwidth", .number 4294967295)], none⟩⟩ ∧
      (Invocation.ofLine ⟨{}, hostCommand, ⟨[("bandwidth", .number 4294967295)], none⟩⟩).command =
        .host { modes := { bandwidth := some 4294967295 } } ∧
      ({ bandwidth := some 4294967295 } : ModeArgs).plan.bandwidth = some 4294967295 ∧
      4294901761 < 4294967295 ∧
      MessageKind.classify (MessageKind.bandwidth.sequence (4294901761 : Nat).toUInt32) = .latency ∧
      MessageKind.bandwidth.sequence (4294901761 : Nat).toUInt32 =
        MessageKind.latency.sequence (0 : Nat).toUInt32 := by
  have hlevel : level (Scope.ofCommand hostCommand) ["-b", "4294967295"] {} =
      .ok (⟨⟨[("bandwidth", .number 4294967295)], none⟩, none, false⟩, none) := by
    simp only [level, show ("-b" == "--") = false by decide,
      show ("4294967295" == "--") = false by decide, show "-b".startsWith "--" = false by simp,
      show "-b".startsWith "-" = true by simp, show "4294967295".startsWith "--" = false by simp,
      show "4294967295".startsWith "-" = false by simp]
    rfl
  refine ⟨?_, rfl, rfl, by decide, by decide, by decide⟩
  rw [readLine_host, hlevel]
  rfl

end Cli
end ShmBench

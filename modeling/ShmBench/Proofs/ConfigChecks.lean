import ShmBench.Config

/-!
# Checking a configuration

`ConfigFile.validate` checks twelve fields of a configuration as written, in a
fixed order, and stops at the first one out of range.  This module writes that
order down as a table, `ConfigFile.checks`: each entry names a field, gives the
text of its value and says whether the value is in its range.

* `ConfigFile.firstFailure` runs such a table: the first entry out of range is
  the error.  `firstFailure_eq_ok_iff` and `firstFailure_eq_error_iff` say what
  it returns.
* `validate_eq_firstFailure`: validating a document is running its table, and
  a document that passes gives `Sections.settings`, its values in bytes and
  nanoseconds.
* `validate_reports_first_violation`: validation succeeds exactly when every
  field is in range, an error is `InvalidFieldValue` naming the first field out
  of range with its value, success gives the document's settings, and the
  document with every field missing validates to the default configuration.
-/

namespace ShmBench.ConfigFile

/-- **One range check**: the field, the text of its value as an error shows
it, whether the value is in range, and the reason given when it is not. -/
structure Check where
  field : String
  value : String
  inRange : Bool
  reason : String

/-- The error a failed check reports. -/
def Check.error (c : Check) : ConfigError := .invalidField c.field c.value c.reason

/-- A timeout's check: one millisecond to one hour. -/
def Check.timeout (field : String) (ms : Nat) : Check :=
  ⟨field, toString ms, 1 ≤ ms ∧ ms ≤ 3600000, "Timeout must be between 1 and 3600000ms"⟩

/-- The checks of the transport section, in order. -/
def transportChecks (t : TransportSection) : List Check :=
  [⟨"region_size_mb", toString t.regionSizeMb, 1 ≤ t.regionSizeMb ∧ t.regionSizeMb ≤ 1024,
      "Must be between 1 and 1024"⟩,
   ⟨"pci_resource", t.pciResource, t.pciResource ≠ "", "Path cannot be empty"⟩,
   ⟨"fallback_path", t.fallbackPath, t.fallbackPath ≠ "", "Path cannot be empty"⟩]

/-- The checks of the protocol section, in order. -/
def protocolChecks (p : ProtocolSection) : List Check :=
  [⟨"poll_interval_us", toString p.pollIntervalUs, p.pollIntervalUs ≤ 10000,
      "Poll interval must not exceed 10000us"⟩,
   ⟨"attach_interval_ms", toString p.attachIntervalMs,
      1 ≤ p.attachIntervalMs ∧ p.attachIntervalMs ≤ 1000, "Must be between 1 and 1000"⟩,
   .timeout "attach_timeout_ms" p.attachTimeoutMs,
   .timeout "guest_ready_timeout_ms" p.guestReadyTimeoutMs,
   .timeout "processing_timeout_ms" p.processingTimeoutMs,
   .timeout "ack_timeout_ms" p.ackTimeoutMs,
   .timeout "host_release_timeout_ms" p.hostReleaseTimeoutMs,
   .timeout "guest_release_timeout_ms" p.guestReleaseTimeoutMs,
   .timeout "idle_timeout_ms" p.idleTimeoutMs]

/-- **The twelve checks of a document**, in the order they are made. -/
def checks (s : Sections) : List Check := transportChecks s.transport ++ protocolChecks s.protocol

/-- Every checked field of a document within its range. -/
def Sections.InRange (s : Sections) : Prop :=
  let t := s.transport
  let p := s.protocol
  (1 ≤ t.regionSizeMb ∧ t.regionSizeMb ≤ 1024) ∧ t.pciResource ≠ "" ∧ t.fallbackPath ≠ "" ∧
    p.pollIntervalUs ≤ 10000 ∧ (1 ≤ p.attachIntervalMs ∧ p.attachIntervalMs ≤ 1000) ∧
    ∀ ms ∈ [p.attachTimeoutMs, p.guestReadyTimeoutMs, p.processingTimeoutMs, p.ackTimeoutMs,
      p.hostReleaseTimeoutMs, p.guestReleaseTimeoutMs, p.idleTimeoutMs], 1 ≤ ms ∧ ms ≤ 3600000

/-- The transport a document describes: the region in bytes. -/
def TransportSection.settings (t : TransportSection) : TransportConfig :=
  { pciResource := t.pciResource, writeCombining := t.writeCombining,
    fallbackPath := t.fallbackPath, regionSize := t.regionSizeMb * Nat.pow 2 20 }

/-- The host's and the guest's settings a document describes: every interval
and timeout in nanoseconds, the one poll interval shared by both sides. -/
def ProtocolSection.settings (p : ProtocolSection) : HostConfig × GuestConfig :=
  ({ pollIntervalNs := p.pollIntervalUs * 1000,
     guestReadyTimeoutNs := p.guestReadyTimeoutMs * 1000000,
     processingTimeoutNs := p.processingTimeoutMs * 1000000,
     ackTimeoutNs := p.ackTimeoutMs * 1000000,
     releaseTimeoutNs := p.hostReleaseTimeoutMs * 1000000 },
   { pollIntervalNs := p.pollIntervalUs * 1000,
     attachIntervalNs := p.attachIntervalMs * 1000000,
     attachTimeoutNs := p.attachTimeoutMs * 1000000,
     idleTimeoutNs := p.idleTimeoutMs * 1000000,
     releaseTimeoutNs := p.guestReleaseTimeoutMs * 1000000 })

/-- **The configuration a document describes**, once every check passes. -/
def Sections.settings (s : Sections) : BenchConfig :=
  { transport := s.transport.settings,
    host := { s.protocol.settings.1 with overhead := s.overheadFormula },
    guest := s.protocol.settings.2,
    pipeline := { hardwareCounters := s.pipeline.hardwareCounters,
                  flushCache := s.pipeline.flushCache } }

/-! ## Running a table of checks -/

/-- Run checks in order: the first one out of range is the error. -/
def firstFailure : List Check → Except ConfigError Unit
  | [] => .ok ()
  | c :: cs => if c.inRange then firstFailure cs else .error c.error

@[simp] theorem firstFailure_nil : firstFailure [] = .ok () := rfl

theorem firstFailure_cons (c : Check) (cs : List Check) :
    firstFailure (c :: cs) = if c.inRange then firstFailure cs else .error c.error := rfl

theorem firstFailure_append (cs ds : List Check) :
    firstFailure (cs ++ ds) = (firstFailure cs >>= fun _ => firstFailure ds) := by
  induction cs with
  | nil => rfl
  | cons c cs ih =>
    rw [List.cons_append, firstFailure_cons, firstFailure_cons, ih]
    split <;> rfl

/-- A table passes exactly when every entry is in range. -/
theorem firstFailure_eq_ok_iff (cs : List Check) :
    firstFailure cs = .ok () ↔ ∀ c ∈ cs, c.inRange = true := by
  induction cs with
  | nil => simp
  | cons c cs ih =>
    rw [firstFailure_cons]
    by_cases h : c.inRange <;> simp [h, ih]

/-- A table fails with the error of its first entry out of range. -/
theorem firstFailure_eq_error_iff (cs : List Check) (e : ConfigError) :
    firstFailure cs = .error e ↔ ∃ pre c post, cs = pre ++ c :: post ∧
      (∀ d ∈ pre, d.inRange = true) ∧ c.inRange = false ∧ e = c.error := by
  induction cs with
  | nil => simp [firstFailure]
  | cons c cs ih =>
    rw [firstFailure_cons]
    by_cases h : c.inRange
    · -- `c` passes, so the failing entry lies in the rest
      simp only [h, if_true, ih]
      constructor
      · rintro ⟨pre, d, post, rfl, hpre, hd, rfl⟩
        exact ⟨c :: pre, d, post, rfl, by simpa [h] using hpre, hd, rfl⟩
      · rintro ⟨pre, d, post, hcs, hpre, hd, rfl⟩
        cases pre with
        | nil => simp_all
        | cons c' pre =>
          obtain ⟨rfl, rfl⟩ := List.cons_eq_cons.mp hcs
          exact ⟨pre, d, post, rfl, fun x hx => hpre x (by simp [hx]), hd, rfl⟩
    · -- `c` is the first failure
      simp only [h, Bool.false_eq_true, if_false]
      constructor
      · rintro ⟨⟩
        exact ⟨[], c, cs, rfl, by simp, by simpa using h, rfl⟩
      · rintro ⟨pre, d, post, hcs, hpre, hd, rfl⟩
        cases pre with
        | nil =>
          obtain ⟨rfl, rfl⟩ := List.cons_eq_cons.mp hcs
          rfl
        | cons c' pre =>
          obtain ⟨rfl, -⟩ := List.cons_eq_cons.mp hcs
          exact absurd (hpre c (by simp)) (by simpa using h)

/-! ## The document's table -/

/-- Checking the transport section runs its table. -/
theorem validateTransport_eq (t : TransportSection) :
    validateTransport t = (firstFailure (transportChecks t)).map fun _ => t.settings := by
  have hsize : t.regionSizeMb * 1024 * 1024 = t.regionSizeMb * Nat.pow 2 20 := by
    rw [Nat.mul_assoc]
  unfold validateTransport
  simp only [transportChecks, firstFailure_cons, firstFailure_nil, bind, Except.bind, throw, throwThe,
    MonadExceptOf.throw, Except.map, pure, Except.pure, Check.error, invalid]
  -- one case for each check failing first, and one for none
  by_cases hr : 1 ≤ t.regionSizeMb ∧ t.regionSizeMb ≤ 1024
  · have hr' : ¬(t.regionSizeMb = 0 ∨ t.regionSizeMb > 1024) := by omega
    by_cases hp : t.pciResource = ""
    · simp [hr, hr', hp]
    · by_cases hf : t.fallbackPath = ""
      · simp [hr, hr', hp, hf]
      · simp [hr, hr', hp, hf, TransportSection.settings, hsize]
  · have hr' : t.regionSizeMb = 0 ∨ t.regionSizeMb > 1024 := by omega
    simp [hr, hr']

/-- The loop over the timeouts runs their checks. -/
theorem forIn_timeouts (l : List (String × Nat)) :
    forIn (m := Except ConfigError) l PUnit.unit (fun x _ => match x with
      | (field, value) =>
        if value = 0 ∨ value > 3600000 then do
          throw (invalid field value "Timeout must be between 1 and 3600000ms")
          pure (ForInStep.yield PUnit.unit)
        else pure (ForInStep.yield PUnit.unit)) =
      (firstFailure (l.map fun x => Check.timeout x.1 x.2)).map fun _ => PUnit.unit := by
  induction l with
  | nil => rfl
  | cons x l ih =>
    obtain ⟨field, ms⟩ := x
    rw [List.forIn_cons, List.map_cons, firstFailure_cons]
    by_cases h : 1 ≤ ms ∧ ms ≤ 3600000
    · have h' : ¬(ms = 0 ∨ ms > 3600000) := by omega
      simp only [h', if_false, Check.timeout, h]
      exact ih
    · have h' : ms = 0 ∨ ms > 3600000 := by omega
      simp only [h', if_true, Check.timeout, h, decide_false]
      rfl

/-- Checking the protocol section runs its table. -/
theorem validateProtocol_eq (p : ProtocolSection) :
    validateProtocol p = (firstFailure (protocolChecks p)).map fun _ => p.settings := by
  have hchecks : protocolChecks p =
      ⟨"poll_interval_us", toString p.pollIntervalUs, p.pollIntervalUs ≤ 10000,
        "Poll interval must not exceed 10000us"⟩ ::
      ⟨"attach_interval_ms", toString p.attachIntervalMs,
        1 ≤ p.attachIntervalMs ∧ p.attachIntervalMs ≤ 1000, "Must be between 1 and 1000"⟩ ::
      (timeouts p).map fun x => Check.timeout x.1 x.2 := rfl
  unfold validateProtocol
  rw [forIn_timeouts, hchecks, firstFailure_cons, firstFailure_cons]
  -- the timeouts' own outcome is the same on both sides
  generalize firstFailure ((timeouts p).map fun x => Check.timeout x.1 x.2) = rest
  by_cases hpoll : p.pollIntervalUs ≤ 10000
  · by_cases hattach : 1 ≤ p.attachIntervalMs ∧ p.attachIntervalMs ≤ 1000
    · have hattach' : ¬(p.attachIntervalMs = 0 ∨ p.attachIntervalMs > 1000) := by omega
      simp only [hpoll, hattach, hattach', decide_true, if_true, if_false, gt_iff_lt, Nat.not_lt.mpr hpoll]
      cases rest <;> rfl
    · have hattach' : p.attachIntervalMs = 0 ∨ p.attachIntervalMs > 1000 := by omega
      simp only [hpoll, hattach, hattach', decide_true, decide_false, if_true, if_false, gt_iff_lt,
        Nat.not_lt.mpr hpoll]
      rfl
  · simp only [hpoll, decide_false, if_true, gt_iff_lt, Nat.lt_of_not_le hpoll]
    rfl

/-- **Validating a document runs its twelve checks in order**; a document
that passes gives its settings. -/
theorem validate_eq_firstFailure (s : Sections) :
    validate s = (firstFailure (checks s)).map fun _ => s.settings := by
  unfold validate
  rw [validateTransport_eq, validateProtocol_eq, checks, firstFailure_append]
  cases firstFailure (transportChecks s.transport) <;>
    cases firstFailure (protocolChecks s.protocol) <;> rfl

/-- The table's checks all pass exactly when every field is in its range. -/
theorem checks_pass_iff (s : Sections) : (∀ c ∈ checks s, c.inRange = true) ↔ s.InRange := by
  simp [checks, transportChecks, protocolChecks, Check.timeout, Sections.InRange, and_assoc]

/-- The document with every field missing is the default configuration. -/
theorem validate_default : validate {} = .ok {} := by
  rw [validate_eq_firstFailure]
  rfl

/-- **Configuration validation**: a document validates exactly when every
field is in its range; an error is `InvalidFieldValue` for the first field out
of range, in the order of `checks`, with that field's value; a document that
validates gives its values in bytes and nanoseconds, one poll interval for
both sides and its overhead formula; and the document with every field
missing validates to the default configuration. -/
theorem validate_reports_first_violation (s : Sections) :
    ((∃ cfg, validate s = .ok cfg) ↔ s.InRange) ∧
    (∀ e, validate s = .error e ↔ ∃ pre c post, checks s = pre ++ c :: post ∧
        (∀ d ∈ pre, d.inRange = true) ∧ c.inRange = false ∧
        e = .invalidField c.field c.value c.reason) ∧
    (∀ cfg, validate s = .ok cfg → cfg = s.settings) ∧
    validate {} = .ok {} := by
  rw [validate_eq_firstFailure]
  refine ⟨?_, fun e => ?_, fun cfg => ?_, validate_default⟩
  · rw [← checks_pass_iff, ← firstFailure_eq_ok_iff]
    cases firstFailure (checks s) <;> simp [Except.map]
  · have first := firstFailure_eq_error_iff (checks s) e
    simp only [Check.error] at first
    rw [← first]
    cases firstFailure (checks s) <;> simp [Except.map]
  · cases firstFailure (checks s) <;> simp [Except.map, eq_comm]

end ShmBench.ConfigFile

/-!
# Faults: the arithmetic that aborts

A benchmark run aborts, rather than wraps, when a 64-bit sum or product leaves
its range, and when a random index is asked of an empty range.  `Fault` names
those causes, and `Fault.message` is the one place that words them.

`UInt64.addChecked` and `UInt64.sumChecked` are the checked forms used by the
statistics; `sumChecked_eq_ok_iff` says exactly when a sum aborts.
-/

namespace ShmBench

/-- The arithmetic operation whose result left its range. -/
inductive ArithOp where
  | add
  | sub
  | mul
  deriving DecidableEq, Repr

/-- **Why a computation aborted.** -/
inductive Fault where
  /-- A fixed-width result left its range. -/
  | overflow (op : ArithOp)
  /-- A uniform sample was asked of an empty range. -/
  | emptyRange
  deriving DecidableEq, Repr

/-- The text an aborted computation reports. -/
def Fault.message : Fault → String
  | .overflow .add => "attempt to add with overflow"
  | .overflow .sub => "attempt to subtract with overflow"
  | .overflow .mul => "attempt to multiply with overflow"
  | .emptyRange => "cannot sample empty range"

/-- A computation that may abort. -/
abbrev Checked (α : Type) := Except Fault α

/-- The sum of two words, or an overflow fault when it does not fit. -/
def UInt64.addChecked (a b : UInt64) : Checked UInt64 :=
  if a.toNat + b.toNat < UInt64.size then .ok (a + b) else .error (.overflow .add)

/-- The product of two words, or an overflow fault when it does not fit. -/
def UInt64.mulChecked (a b : UInt64) : Checked UInt64 :=
  if a.toNat * b.toNat < UInt64.size then .ok (a * b) else .error (.overflow .mul)

/-- The sum of a list of words, added left to right; the first partial sum
that leaves the range aborts. -/
def UInt64.sumChecked (xs : List UInt64) : Checked UInt64 :=
  xs.foldlM UInt64.addChecked 0

/-- The exact sum of a list of words, as a natural number. -/
def UInt64.natSum : List UInt64 → Nat
  | [] => 0
  | x :: xs => x.toNat + UInt64.natSum xs

/-- Adding checks the exact sum against the range. -/
theorem UInt64.addChecked_eq_ok_iff (a b c : UInt64) :
    UInt64.addChecked a b = .ok c ↔ a.toNat + b.toNat < UInt64.size ∧ c = a + b := by
  unfold UInt64.addChecked
  by_cases h : a.toNat + b.toNat < UInt64.size
  · simp only [h, if_true, Except.ok.injEq, true_and]
    exact ⟨fun e => e.symm, fun e => e.symm⟩
  · simp [h]

/-- Folding checked additions from `acc` succeeds exactly when the whole exact
sum fits, and then gives it. -/
theorem UInt64.foldlM_addChecked (xs : List UInt64) (acc : UInt64) (r : UInt64) :
    xs.foldlM UInt64.addChecked acc = .ok r ↔
      acc.toNat + UInt64.natSum xs < UInt64.size ∧ r.toNat = acc.toNat + UInt64.natSum xs := by
  induction xs generalizing acc with
  | nil =>
    simp only [List.foldlM_nil, UInt64.natSum, Nat.add_zero]
    constructor
    · intro h
      cases h
      exact ⟨UInt64.toNat_lt_size _, rfl⟩
    · intro ⟨_, h⟩
      have : r = acc := UInt64.toNat_inj.mp h
      rw [this]
      rfl
  | cons x xs ih =>
    simp only [List.foldlM_cons, UInt64.natSum]
    unfold UInt64.addChecked
    by_cases h : acc.toNat + x.toNat < UInt64.size
    · simp only [h, if_true]
      change xs.foldlM UInt64.addChecked (acc + x) = .ok r ↔ _
      rw [ih]
      have hx : (acc + x).toNat = acc.toNat + x.toNat := by
        rw [UInt64.toNat_add]
        exact Nat.mod_eq_of_lt h
      rw [hx]
      constructor
      · intro ⟨h1, h2⟩
        exact ⟨by omega, by omega⟩
      · intro ⟨h1, h2⟩
        exact ⟨by omega, by omega⟩
    · simp only [h, if_false]
      constructor
      · intro e
        cases e
      · intro ⟨h1, _⟩
        exfalso
        have : 0 ≤ UInt64.natSum xs := Nat.zero_le _
        omega

/-- A checked sum succeeds exactly when the exact sum fits in a word, and then
it is that sum. -/
theorem UInt64.sumChecked_eq_ok_iff (xs : List UInt64) (r : UInt64) :
    UInt64.sumChecked xs = .ok r ↔ UInt64.natSum xs < UInt64.size ∧ r.toNat = UInt64.natSum xs := by
  unfold UInt64.sumChecked
  rw [UInt64.foldlM_addChecked]
  simp

end ShmBench

/-!
# Rounding to binary64

A binary64 number carries a significand of 53 bits.  Every natural number below
`2^53` is one; a larger one is rounded to the nearest number with 53
significant bits, a tie going to the even significand.  That is the rounding of
a conversion from an integer and of a product, and the statistics use it to
turn a fraction of a sample count into an index.

* `Rounding.nearest` rounds a natural number to 53 significant bits;
* `Rounding.fraction num den` is the significand, over `2^53`, of the binary64
  number nearest `num / den` in `[1/2, 1)`;
* `Rounding.scaledFloor n m` is `⌊n · m·2⁻⁵³⌋` as binary64 arithmetic gives it:
  `n` converted, the product rounded, the result truncated.

Rounding moves a number to the truncation of its dropped bits or to the next
multiple of the unit they make up (`nearest_eq_or`); the error bounds built on
that stand with the statistics that use them.
-/

namespace ShmBench
namespace Rounding

/-- The number of significant bits of a binary64 number. -/
def precision : Nat := 53

/-- How many low bits of `a` rounding to 53 significant bits drops. -/
def dropped (a : Nat) : Nat := a.log2 + 1 - precision

/-- **`a` rounded to 53 significant bits**, to the nearest, a tie going to the
even significand. -/
def nearest (a : Nat) : Nat :=
  let unit := Nat.pow 2 (dropped a)
  let q := a / unit
  let r := a % unit
  (if 2 * r > unit || (2 * r == unit && q % 2 == 1) then q + 1 else q) * unit

/-- The significand, over `2^53`, of the binary64 number nearest `num / den`,
for a fraction in `[1/2, 1)`; a tie goes to the even significand. -/
def fraction (num den : Nat) : Nat :=
  let q := num * Nat.pow 2 53 / den
  let r := num * Nat.pow 2 53 % den
  if 2 * r > den || (2 * r == den && q % 2 == 1) then q + 1 else q

/-- **`⌊n · m·2⁻⁵³⌋` in binary64**: `n` converted, the product with the
fraction `m·2⁻⁵³` rounded, and the result truncated toward zero. -/
def scaledFloor (n m : Nat) : Nat := nearest (nearest n * m) / Nat.pow 2 53

/-- The rounded value is the truncation to a multiple of the dropped unit, or
the next multiple. -/
theorem nearest_eq_or (a : Nat) :
    nearest a = a / Nat.pow 2 (dropped a) * Nat.pow 2 (dropped a) ∨
      nearest a = (a / Nat.pow 2 (dropped a) + 1) * Nat.pow 2 (dropped a) := by
  unfold nearest
  dsimp only
  split
  · exact .inr rfl
  · exact .inl rfl

end Rounding
end ShmBench

/-!
# Rounding to binary64

The finite numbers of the format binary64 are the multiples of `2 ^ -1074` with at most 53
significant bits, up to a greatest one. They are handled as the integers that count those units.
A number is rounded to the nearest of them; of two that are equally near to the one whose last
significant bit is `0`.
-/

namespace WhileLang.Binary64

/-- The smallest positive number of the format is `2 ^ -places`. -/
def places : Nat := 1074

/-- The significant bits of the format. -/
def precision : Nat := 53

/-- The number one, in units. -/
def one : Nat := 1 <<< places

/-- Numbers that are rounded to this many units or more are out of range. -/
def bound : Nat := 1 <<< (1024 + places)

/-- The natural number with at most 53 significant bits that is nearest to a quotient. -/
def roundQuotient (num den : Nat) : Nat :=
  let whole := num / den
  let unit := if whole < 1 <<< precision then 1 else 1 <<< (whole.log2 + 1 - precision)
  let kept := num / (den * unit)
  let lost := num % (den * unit)
  if 2 * lost < den * unit ∨ (2 * lost = den * unit ∧ kept % 2 = 0) then kept * unit
  else (kept + 1) * unit

/-- The number nearest to `num / den` units, in units; nothing if it is out of range. -/
def nearest? (num : Int) (den : Nat) : Option Int :=
  let n := roundQuotient num.natAbs den
  if n < bound then some (if num < 0 then -(n : Int) else n) else none

end WhileLang.Binary64

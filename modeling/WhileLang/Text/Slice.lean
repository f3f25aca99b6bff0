/-!
# Cutting a list by a signed length

A negative length counts from the end: `-1` leaves out the last element.
-/

namespace WhileLang.Text

/-- The first `k` elements; for a negative `k`, all but the last `-k`. -/
def takeSigned {α : Type} (k : Int) (xs : List α) : List α :=
  if 0 ≤ k then xs.take k.toNat else xs.take (xs.length - k.natAbs)

end WhileLang.Text

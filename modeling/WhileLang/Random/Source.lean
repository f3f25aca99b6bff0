import WhileLang.Random.Mersenne

/-!
# Random choices

A `Source` gives random fractions and random numbers below a bound, whatever it makes them of; all
that is promised is the range. `Source.ofWords` makes them of random words. A number below a bound
is drawn by rejection: so many random bits as the bound has, until they are below it.
-/

namespace WhileLang.Random

/-- A supply of random choices that is carried along as a value of `σ`. -/
structure Source (σ : Type) where
  /-- The numerator of a fraction with the denominator `2 ^ 53`. -/
  fraction : σ → Nat × σ
  /-- A number below a positive bound. -/
  below : (bound : Nat) → σ → Nat × σ
  fraction_lt : ∀ g, (fraction g).1 < 1 <<< 53
  below_lt : ∀ n g, 0 < n → (below n g).1 < n

variable {σ : Type}

/-- A number of `k` bits, made of words; the first word is the least significant. -/
def bits (next : σ → UInt32 × σ) (k : Nat) (g : σ) : Nat × σ :=
  if k ≤ 32 then
    let (w, g) := next g
    (w.toNat >>> (32 - k), g)
  else
    let (w, g) := next g
    let (rest, g) := bits next (k - 32) g
    (w.toNat + rest <<< 32, g)

/-- How often a draw is repeated before its remainder is taken instead. Each draw is good with a
chance of at least one half. -/
def tries : Nat := 4096

/-- Draws until the result is below the bound. -/
def drawBelow (draw : σ → Nat × σ) (bound : Nat) : (tries : Nat) → σ → Nat × σ
  | 0, g =>
    let (r, g) := draw g
    (r % bound, g)
  | k + 1, g =>
    let (r, g) := draw g
    if r < bound then (r, g) else drawBelow draw bound k g

theorem drawBelow_lt (draw : σ → Nat × σ) {bound : Nat} (h : 0 < bound) (k : Nat) (g : σ) :
    (drawBelow draw bound k g).1 < bound := by
  induction k generalizing g with
  | zero => exact Nat.mod_lt _ h
  | succ k ih =>
    unfold drawBelow
    dsimp only
    split
    · assumption
    · exact ih _

/-- The number of binary digits. -/
def bitLength (n : Nat) : Nat := if n = 0 then 0 else n.log2 + 1

/-- Two words make a fraction: 27 bits of the first above 26 bits of the second. -/
def fractionOf (a b : UInt32) : Nat := (a.toNat >>> 5) <<< 26 + b.toNat >>> 6

theorem fractionOf_lt (a b : UInt32) : fractionOf a b < 1 <<< 53 := by
  have ha := a.toNat_lt
  have hb := b.toNat_lt
  unfold fractionOf
  omega

namespace Source

/-- The choices made of random words. -/
def ofWords (next : σ → UInt32 × σ) : Source σ where
  fraction g :=
    let (a, g) := next g
    let (b, g) := next g
    (fractionOf a b, g)
  below n g := drawBelow (bits next (bitLength n)) n tries g
  fraction_lt _ := fractionOf_lt _ _
  below_lt _ _ h := drawBelow_lt _ h _ _

/-- The choices of the Mersenne twister. -/
def mersenne : Source Mersenne := ofWords Mersenne.next

end Source

end WhileLang.Random

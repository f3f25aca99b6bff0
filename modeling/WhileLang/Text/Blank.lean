/-!
# Blank characters

Two sets of characters that are trimmed off a text. `isBlank` is the Unicode property White_Space
(25 characters); `isSpacing` adds the four information separators U+001C to U+001F.
-/

namespace WhileLang.Text

/-- The code point of `c` lies in one of the closed ranges. -/
def within (ranges : List (Nat × Nat)) (c : Char) : Bool :=
  ranges.any fun r => r.1 ≤ c.toNat && c.toNat ≤ r.2

/-- The property White_Space, as closed ranges of code points. -/
def blankRanges : List (Nat × Nat) :=
  [(0x09, 0x0D), (0x20, 0x20), (0x85, 0x85), (0xA0, 0xA0), (0x1680, 0x1680), (0x2000, 0x200A),
    (0x2028, 0x2029), (0x202F, 0x202F), (0x205F, 0x205F), (0x3000, 0x3000)]

def isBlank (c : Char) : Bool := within blankRanges c

/-- White space and the information separators. -/
def isSpacing (c : Char) : Bool := isBlank c || within [(0x1C, 0x1F)] c

/-- Removes the characters of a class from both ends. -/
def trim (p : Char → Bool) (cs : List Char) : List Char :=
  ((cs.dropWhile p).reverse.dropWhile p).reverse

/-- The text without white space and separators at its ends. -/
def strip (s : String) : String := String.ofList (trim isSpacing s.toList)

/-- A text that neither begins nor ends in the class is kept. -/
theorem trim_eq_self {p : Char → Bool} {cs : List Char} (h₁ : ∀ c, cs.head? = some c → p c = false)
    (h₂ : ∀ c, cs.getLast? = some c → p c = false) : trim p cs = cs := by
  have key : ∀ l : List Char, (∀ c, l.head? = some c → p c = false) → l.dropWhile p = l := by
    intro l hl
    cases l with
    | nil => rfl
    | cons c l => simp [List.dropWhile, hl c rfl]
  unfold trim
  rw [key cs h₁, key cs.reverse (by simpa using h₂), List.reverse_reverse]

end WhileLang.Text

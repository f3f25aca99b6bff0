import WhileLang.Text.Digit
import WhileLang.Text.Split

/-!
# Integers as text

Two readers of an integer. `readInt` takes what a person may type: blanks around it, a sign,
decimal digits of any script, single underscores between digits. `readLooseInt` takes the text
that a data format may use for an integer: it is first brought into the form of a plain numeral,
which has a minus sign at most and no zeros in front. Neither reads more than `maxDigits` digits, of
which a sign is none.
-/

namespace WhileLang.Text

/-! ## Typed integers -/

/-- The value of a run of digits in which single underscores may stand between two digits.
`afterDigit` tells whether a digit has just been read. -/
def readDigits (value : Nat) (afterDigit : Bool) : List Char → Option Nat
  | [] => if afterDigit then some value else none
  | c :: rest =>
    match decimalDigit? c with
    | some d => readDigits (10 * value + d) true rest
    | none => if c = '_' ∧ afterDigit then readDigits value false rest else none

/-- An optional sign, and a natural number read by `magnitude`. -/
def readSigned (magnitude : List Char → Option Nat) : List Char → Option Int
  | '-' :: rest => (magnitude rest).map fun n => -(n : Int)
  | '+' :: rest => (magnitude rest).map fun n => (n : Int)
  | cs => (magnitude cs).map fun n => (n : Int)

/-- The integer that a typed text writes, however long it is. -/
def typedInt? (s : String) : Option Int := readSigned (readDigits 0 false) (trim isBlank s.toList)

/-- How many of some characters are decimal digits. -/
def digitCount (cs : List Char) : Nat := cs.countP isDecimal

/-- Reads a typed integer. -/
def readInt (s : String) : Option Int :=
  if digitCount s.toList ≤ maxDigits then typedInt? s else none

/-! ## Integers in data -/

/-- The value of digits that do not begin with a zero, unless that is all. -/
def plainNat? (ds : List Char) : Option Nat :=
  match ds with
  | [] => none
  | '0' :: _ :: _ => none
  | ds => if ds.length ≤ maxDigits ∧ ds.all Char.isDigit then some (digitsValue ds) else none

/-- The integer that a plain numeral writes. -/
def plainInt? : List Char → Option Int
  | '-' :: ds => (plainNat? ds).map fun n : Nat => -(n : Int)
  | ds => (plainNat? ds).map fun n : Nat => (n : Int)

/-- The text behind zeros and underscores. The last of them is kept if nothing is left, or if a
fraction follows; it is `last` if the text has none. -/
def dropZeros (last : Char) : List Char → Option (List Char)
  | [] => some [last]
  | c :: cs =>
    if c = '0' ∨ c = '_' then dropZeros c cs
    else if c = '.' then some (last :: c :: cs)
    else if c = '-' ∨ c.isDigit then some (c :: cs)
    else none

/-- The text without zeros in front; among them, but not before them, underscores may stand. -/
def dropLeadingZeros : List Char → Option (List Char)
  | [] => none
  | c :: cs =>
    if c = '0' then dropZeros c cs
    else if c = '-' ∨ c.isDigit then some (c :: cs)
    else none

/-- A fraction that changes nothing: a point and zeros. -/
def isZeroFraction : List Char → Bool
  | '.' :: zeros => !zeros.isEmpty && zeros.all (· = '0')
  | _ => false

/-- The text without a fraction of zeros. -/
def dropZeroFraction (cs : List Char) : List Char :=
  if isZeroFraction (cs.dropWhile (· ≠ '.')) then cs.takeWhile (· ≠ '.') else cs

/-- The text without its underscores, if each of them stands alone between other characters. -/
def dropUnderscores (cs : List Char) : List Char :=
  if (pieces '_' cs).any List.isEmpty then cs else cs.filter (· ≠ '_')

/-- Brings a numeral into the plain form: without a plus sign, zeros in front, a fraction of zeros
and underscores. -/
def plain? (cs : List Char) : Option (List Char) :=
  let front := match cs with
    | '+' :: '-' :: _ => none
    | '+' :: cs => dropLeadingZeros cs
    | '-' :: cs => (dropLeadingZeros cs).map ('-' :: ·)
    | cs => dropLeadingZeros cs
  front.map fun cs => dropUnderscores (dropZeroFraction cs)

/-- Reads an integer that a data format holds as text. -/
def readLooseInt (s : String) : Option Int := (plain? (trim isBlank s.toList)).bind plainInt?

end WhileLang.Text

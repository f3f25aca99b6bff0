import WhileLang.Binary64
import WhileLang.Text.Digit

/-!
# JSON values

Numbers are kept as they are written: integers on the one hand, decimals (with a fraction or an
exponent) on the other. The members of an object keep their order. Two of them may share a name, and
then the later one counts.
-/

namespace WhileLang

/-- The number `mantissa * 10 ^ exponent`. -/
structure Decimal where
  mantissa : Int
  exponent : Int
deriving DecidableEq

namespace Decimal

/-- One more than the greatest power of ten that is not above the number. -/
def magnitude (d : Decimal) : Int := (Nat.toDigits 10 d.mantissa.natAbs).length + d.exponent

/-- The number rounded to binary64, in its units; nothing if it is out of range. -/
def nearest? (d : Decimal) : Option Int :=
  if d.mantissa = 0 then some 0
  else if d.magnitude > 400 then none
  else if d.magnitude < -400 then some 0
  else
    Binary64.nearest? (d.mantissa * Text.powerOfTen d.exponent.toNat * Binary64.one)
      (Text.powerOfTen (-d.exponent).toNat)

/-- The integer that the number is when it is rounded to binary64, if it is one and lies strictly
between `-2 ^ 63` and `2 ^ 63`. -/
def toInt? (d : Decimal) : Option Int :=
  match d.nearest? with
  | none => none
  | some n =>
    let i := n / Binary64.one
    if n % Binary64.one = 0 ∧ i.natAbs < 1 <<< 63 then some i else none

end Decimal

/-- What may stand for a number without being one. -/
inductive NonFinite where
  | nan
  | infinity
  | negativeInfinity
deriving DecidableEq

inductive Json where
  | null
  | bool (value : Bool)
  | int (value : Int)
  | decimal (value : Decimal)
  | nonFinite (value : NonFinite)
  | string (text : String)
  | array (elements : List Json)
  | object (members : List (String × Json))

namespace Json

instance : Inhabited Json := ⟨.null⟩

/-- The value of the last member with the given name. -/
def member? {α : Type} (name : String) (members : List (String × α)) : Option α :=
  (members.reverse.find? fun m => m.1 = name).map Prod.snd

/-- The value of a member of an object. -/
def field? (name : String) : Json → Option Json
  | object members => member? name members
  | _ => none

mutual

/-- All integers in the value are short enough to be written. -/
def isWritable : Json → Bool
  | int i => Text.isWritable i
  | array xs => elementsWritable xs
  | object ms => membersWritable ms
  | _ => true

def elementsWritable : List Json → Bool
  | [] => true
  | x :: xs => x.isWritable && elementsWritable xs

def membersWritable : List (String × Json) → Bool
  | [] => true
  | (_, value) :: ms => value.isWritable && membersWritable ms

end

mutual

/-- How many arrays and objects lie in one another at most; empty ones do not count. -/
def nesting : Json → Nat
  | array xs => elementsNesting xs
  | object ms => membersNesting ms
  | _ => 0

def elementsNesting : List Json → Nat
  | [] => 0
  | x :: xs => max (x.nesting + 1) (elementsNesting xs)

def membersNesting : List (String × Json) → Nat
  | [] => 0
  | (_, value) :: ms => max (value.nesting + 1) (membersNesting ms)

end

end Json

end WhileLang

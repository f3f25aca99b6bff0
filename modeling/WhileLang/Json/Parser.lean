import WhileLang.Json
import WhileLang.Text.Digit

/-!
# Reading JSON

`Json.parse?` reads a text that is exactly one JSON value between white space, as the standard
asks: no trailing commas, no leading zeros, no raw control characters in a string, no half of a
surrogate pair without the other. Beyond the standard, `NaN`, `Infinity` and `-Infinity` may stand
for a number. There are two limits: a number has no more than `Text.maxDigits` digits in front of
its point, and no more than `Json.maxNesting` arrays and objects lie in one another.

The functions work on the characters that are left and return what they leave in turn. They are
given a bound on their recursion, for which the length of the text is always enough.
-/

namespace WhileLang.Json.Parser

/-- What was read, and the characters behind it. -/
abbrev Result (α : Type) := Option (α × List Char)

def isSpace (c : Char) : Bool := c = ' ' || c = '\t' || c = '\n' || c = '\r'

def skipSpaces (cs : List Char) : List Char := cs.dropWhile isSpace

/-- Takes a word off the front. -/
def word (w cs : List Char) : Option (List Char) :=
  match w, cs with
  | [], cs => some cs
  | a :: w, c :: cs => if a = c then word w cs else none
  | _ :: _, [] => none

/-! ## Strings -/

/-- The number that four hexadecimal digits write. -/
def hexUnit? (a b c d : Char) : Option Nat := do
  let a ← Text.hexDigit? a
  let b ← Text.hexDigit? b
  let c ← Text.hexDigit? c
  let d ← Text.hexDigit? d
  return ((a * 16 + b) * 16 + c) * 16 + d

def isHighSurrogate (n : Nat) : Bool := 0xD800 ≤ n && n < 0xDC00

def isLowSurrogate (n : Nat) : Bool := 0xDC00 ≤ n && n < 0xE000

/-- The character of a surrogate pair. -/
def pairChar (high low : Nat) : Char :=
  Char.ofNat (0x10000 + (high - 0xD800) * 0x400 + (low - 0xDC00))

/-- The character that a letter stands for behind a backslash. -/
def escapeChar? (c : Char) : Option Char :=
  if c = Char.ofNat 34 ∨ c = Char.ofNat 92 ∨ c = '/' then some c
  else if c = 'n' then some '\n'
  else if c = 'r' then some '\r'
  else if c = 't' then some '\t'
  else if c = 'b' then some (Char.ofNat 8)
  else if c = 'f' then some (Char.ofNat 12)
  else none

/-- Puts a character in front of what was read. -/
def consChar (c : Char) : Result (List Char) → Result (List Char)
  | some (text, rest) => some (c :: text, rest)
  | none => none

/-- A string behind its opening quotation mark; `length` bounds the characters that are left. -/
def stringBody : (length : Nat) → List Char → Result (List Char)
  | 0, _ => none
  | _ + 1, [] => none
  | n + 1, c :: cs =>
    if c = Char.ofNat 34 then some ([], cs)
    else if c.toNat < 32 then none
    else if c ≠ Char.ofNat 92 then consChar c (stringBody n cs)
    else
      match cs with
      | 'u' :: a :: b :: c :: d :: cs =>
        match hexUnit? a b c d with
        | none => none
        | some high =>
          if isLowSurrogate high then none
          else if !isHighSurrogate high then consChar (Char.ofNat high) (stringBody n cs)
          else
            match cs with
            | slash :: 'u' :: a :: b :: c :: d :: cs =>
              match hexUnit? a b c d with
              | none => none
              | some low =>
                if slash = Char.ofNat 92 ∧ isLowSurrogate low then
                  consChar (pairChar high low) (stringBody n cs)
                else none
            | _ => none
      | e :: cs =>
        match escapeChar? e with
        | some c => consChar c (stringBody n cs)
        | none => none
      | [] => none

/-- A string with its quotation marks. -/
def string : List Char → Result String
  | [] => none
  | c :: cs =>
    if c = Char.ofNat 34 then
      (stringBody (cs.length + 1) cs).map fun r => (String.ofList r.1, r.2)
    else none

/-! ## Numbers -/

/-- A run of digits, perhaps empty. -/
def digits (cs : List Char) : List Char × List Char :=
  (cs.takeWhile Char.isDigit, cs.dropWhile Char.isDigit)

/-- A run of digits that is not empty. -/
def someDigits (cs : List Char) : Result (List Char) :=
  match digits cs with
  | ([], _) => none
  | (ds, rest) => some (ds, rest)

/-- The digits in front of the point: a single zero, or a run that does not begin with one. -/
def wholePart (cs : List Char) : Result (List Char) :=
  match someDigits cs with
  | none => none
  | some ('0' :: _ :: _, _) => none
  | some r => some r

/-- The digits behind the point, if there is a point. -/
def fractionPart : List Char → Result (Option (List Char))
  | '.' :: cs => (someDigits cs).map fun r => (some r.1, r.2)
  | cs => some (none, cs)

/-- A sign that may be left out. -/
def signPart : List Char → Bool × List Char
  | '-' :: cs => (true, cs)
  | '+' :: cs => (false, cs)
  | cs => (false, cs)

/-- The exponent, if there is one. -/
def exponentPart : List Char → Result (Option Int)
  | 'e' :: cs | 'E' :: cs =>
    let (negative, cs) := signPart cs
    (someDigits cs).map fun r =>
      (some (if negative then -(Text.digitsValue r.1 : Int) else Text.digitsValue r.1), r.2)
  | cs => some (none, cs)

/-- The number made of its parts. Without fraction and exponent it is an integer. -/
def assemble (negative : Bool) (whole : List Char) (fraction : Option (List Char))
    (exponent : Option Int) : Json :=
  let signed (n : Nat) : Int := if negative then -(n : Int) else n
  match fraction, exponent with
  | none, none => .int (signed (Text.digitsValue whole))
  | _, _ =>
    let places := fraction.getD []
    .decimal ⟨signed (Text.digitsValue (whole ++ places)), exponent.getD 0 - places.length⟩

/-- The word `Infinity` behind its first letter. -/
def infinityTail : List Char := ['n', 'f', 'i', 'n', 'i', 't', 'y']

/-- A number behind its sign, if it has one. -/
def unsignedNumber (negative : Bool) (cs : List Char) : Result Json :=
  match wholePart cs with
  | none => none
  | some (whole, cs) =>
    if Text.maxDigits < whole.length then none
    else
      match fractionPart cs with
      | none => none
      | some (fraction, cs) =>
        match exponentPart cs with
        | none => none
        | some (exponent, cs) => some (assemble negative whole fraction exponent, cs)

/-- What a number's place may hold. -/
def number : List Char → Result Json
  | 'N' :: cs => (word ['a', 'N'] cs).map fun rest => (.nonFinite .nan, rest)
  | 'I' :: cs => (word infinityTail cs).map fun rest => (.nonFinite .infinity, rest)
  | '-' :: 'I' :: cs => (word infinityTail cs).map fun rest => (.nonFinite .negativeInfinity, rest)
  | '-' :: cs => unsignedNumber true cs
  | cs => unsignedNumber false cs

/-! ## Values -/

mutual

/-- A value, without the spaces around it. -/
def value : (depth : Nat) → List Char → Result Json
  | 0, _ => none
  | depth + 1, cs =>
    match cs with
    | [] => none
    | '[' :: cs =>
      match skipSpaces cs with
      | ']' :: rest => some (.array [], rest)
      | cs => (elements depth cs).map fun r => (.array r.1, r.2)
    | '\x7b' :: cs =>
      match skipSpaces cs with
      | '\x7d' :: rest => some (.object [], rest)
      | cs => (members depth cs).map fun r => (.object r.1, r.2)
    | 'n' :: cs => (word ['u', 'l', 'l'] cs).map fun rest => (.null, rest)
    | 't' :: cs => (word ['r', 'u', 'e'] cs).map fun rest => (.bool true, rest)
    | 'f' :: cs => (word ['a', 'l', 's', 'e'] cs).map fun rest => (.bool false, rest)
    | c :: cs =>
      if c = Char.ofNat 34 then (string (c :: cs)).map fun r => (.string r.1, r.2)
      else number (c :: cs)

/-- The elements of an array up to its closing bracket; there is at least one. -/
def elements : (depth : Nat) → List Char → Result (List Json)
  | 0, _ => none
  | depth + 1, cs =>
    match value depth cs with
    | none => none
    | some (x, cs) =>
      match skipSpaces cs with
      | ',' :: cs => (elements depth (skipSpaces cs)).map fun r => (x :: r.1, r.2)
      | ']' :: cs => some ([x], cs)
      | _ => none

/-- The members of an object up to its closing bracket; there is at least one. -/
def members : (depth : Nat) → List Char → Result (List (String × Json))
  | 0, _ => none
  | depth + 1, cs =>
    match string cs with
    | none => none
    | some (name, cs) =>
      match skipSpaces cs with
      | ':' :: cs =>
        match value depth (skipSpaces cs) with
        | none => none
        | some (x, cs) =>
          match skipSpaces cs with
          | ',' :: cs => (members depth (skipSpaces cs)).map fun r => ((name, x) :: r.1, r.2)
          | '\x7d' :: cs => some ([(name, x)], cs)
          | _ => none
      | _ => none

end

end Parser

/-- The value that a text writes, however deeply it is nested. -/
def read? (text : String) : Option Json :=
  let cs := Parser.skipSpaces text.toList
  match Parser.value (cs.length + 1) cs with
  | none => none
  | some (j, rest) => if (Parser.skipSpaces rest).isEmpty then some j else none

/-- The most arrays and objects that may lie in one another. -/
def maxNesting : Nat := 200

/-- The value that a text writes. -/
def parse? (text : String) : Option Json :=
  (read? text).filter fun j => j.nesting ≤ maxNesting

end WhileLang.Json

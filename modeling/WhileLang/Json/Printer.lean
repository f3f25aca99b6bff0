import WhileLang.Json

/-!
# Writing JSON

`Json.compact` writes a value without any space. `Json.pretty` gives every element and member a
line of its own, indented by two spaces for each level. Characters beyond ASCII stand for
themselves.
-/

namespace WhileLang.Json

/-- A hexadecimal digit. -/
def hexDigit (n : Nat) : Char := Nat.digitChar (n % 16)

/-- One character of a string. -/
def writeChar (c : Char) : List Char :=
  if c = Char.ofNat 34 then [Char.ofNat 92, c]
  else if c = Char.ofNat 92 then [c, c]
  else if c = '\n' then [Char.ofNat 92, 'n']
  else if c = '\r' then [Char.ofNat 92, 'r']
  else if c = '\t' then [Char.ofNat 92, 't']
  else if c = Char.ofNat 8 then [Char.ofNat 92, 'b']
  else if c = Char.ofNat 12 then [Char.ofNat 92, 'f']
  else if c.toNat < 32 then
    [Char.ofNat 92, 'u', '0', '0', hexDigit (c.toNat / 16), hexDigit c.toNat]
  else [c]

/-- A string with its quotation marks. -/
def writeString (s : String) : String :=
  String.ofList (Char.ofNat 34 :: (s.toList.flatMap writeChar ++ [Char.ofNat 34]))

/-- A decimal, as its mantissa and the power of ten. -/
def writeDecimal (d : Decimal) : String := toString d.mantissa ++ "e" ++ toString d.exponent

/-- The word for what is no number. -/
def writeNonFinite : NonFinite → String
  | .nan => "NaN"
  | .infinity => "Infinity"
  | .negativeInfinity => "-Infinity"

mutual

def compact : Json → String
  | null => "null"
  | bool b => if b then "true" else "false"
  | int i => toString i
  | decimal d => writeDecimal d
  | nonFinite x => writeNonFinite x
  | string s => writeString s
  | array xs => "[" ++ ",".intercalate (compactElements xs) ++ "]"
  | object ms => "\x7b" ++ ",".intercalate (compactMembers ms) ++ "\x7d"

def compactElements : List Json → List String
  | [] => []
  | x :: xs => x.compact :: compactElements xs

def compactMembers : List (String × Json) → List String
  | [] => []
  | (name, value) :: ms => (writeString name ++ ":" ++ value.compact) :: compactMembers ms

end

/-- A line break, and the indentation of the line that follows. -/
def lineBreak (depth : Nat) : String := "\n" ++ String.ofList (List.replicate (2 * depth) ' ')

/-- Items on lines of their own between two brackets; without items the brackets touch. -/
def bracketLines (opening closing : String) (depth : Nat) (items : List String) : String :=
  if items.isEmpty then opening ++ closing
  else
    opening ++ lineBreak (depth + 1) ++ ("," ++ lineBreak (depth + 1)).intercalate items ++
      lineBreak depth ++ closing

mutual

/-- The value on several lines, where the line it starts on has the given depth. -/
def prettyAt (depth : Nat) : Json → String
  | null => "null"
  | bool b => if b then "true" else "false"
  | int i => toString i
  | decimal d => writeDecimal d
  | nonFinite x => writeNonFinite x
  | string s => writeString s
  | array xs => bracketLines "[" "]" depth (prettyElements (depth + 1) xs)
  | object ms => bracketLines "\x7b" "\x7d" depth (prettyMembers (depth + 1) ms)

def prettyElements (depth : Nat) : List Json → List String
  | [] => []
  | x :: xs => x.prettyAt depth :: prettyElements depth xs

def prettyMembers (depth : Nat) : List (String × Json) → List String
  | [] => []
  | (name, value) :: ms =>
    (writeString name ++ ": " ++ value.prettyAt depth) :: prettyMembers depth ms

end

def pretty (j : Json) : String := j.prettyAt 0

end WhileLang.Json

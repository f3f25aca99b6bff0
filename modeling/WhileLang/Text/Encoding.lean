import WhileLang.Text.Split

/-!
# Encodings

An encoding is known by several names and has some of the characters of Unicode. Its characters are
written down as in a bracket of a pattern: a dash between two characters stands for all from the
one to the other. `Encoding.restrict` is a text as it comes out of a terminal of that encoding.
-/

namespace WhileLang.Text

/-- Whether a character is among those listed, where `a-z` lists all from `a` to `z`. -/
def listed (c : Char) : List Char → Bool
  | a :: '-' :: z :: rest => (a ≤ c && c ≤ z) || listed c rest
  | a :: rest => a == c || listed c rest
  | [] => false

structure Encoding where
  /-- All names, written as `foldName` leaves them. -/
  names : List String
  /-- Lists of the characters that it has. -/
  characters : List String
  /-- Characters that have a code which stands for another one when it is read. -/
  readAs : List (Char × Char)

namespace Encoding

/-- The name of an encoding as it is compared: in small letters, with one underscore for all that
stands between letters and digits. -/
def foldName (name : String) : String :=
  let cs := name.toList.map fun c => if c.isAlphanum then c.toLower else '_'
  "_".intercalate ((split '_' (String.ofList cs)).filter (· ≠ ""))

def has (e : Encoding) (c : Char) : Bool := e.characters.any fun cs => listed c cs.toList

/-- The character that is read where this one was written; a question mark is written for one that
the encoding lacks. -/
def readBack (e : Encoding) (c : Char) : Char :=
  if e.has c then (e.readAs.lookup c).getD c else '?'

/-- A text that the encoding has is left as it is, any other is written and read back. -/
def restrict (e : Encoding) (s : String) : String :=
  if s.toList.all e.has then s else String.ofList (s.toList.map e.readBack)

end Encoding

end WhileLang.Text

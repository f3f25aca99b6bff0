import WhileLang.Text.Blank
import WhileLang.Text.Encoding.CodePages
import WhileLang.Text.Encoding.EastAsian
import WhileLang.Text.Slice

/-!
# Text for a terminal

A terminal shows the characters of its encoding; a question mark stands for every other one.
`shorten` fits a text into a cell of a table.
-/

namespace WhileLang.Text

/-- The characters that a terminal shows. -/
inductive Charset where
  | only (e : Encoding)
  | unicode

/-- The character set of the encoding with the given name; if it is not in the lists, all of
Unicode. -/
def Charset.ofName (name : String) : Charset :=
  let known := Encoding.codePages ++ Encoding.eastAsian
  match known.find? fun e => Encoding.foldName name ∈ e.names with
  | some e => .only e
  | none => .unicode

def Charset.restrict : Charset → String → String
  | .only e, s => e.restrict s
  | .unicode, s => s

/-- The text on one line, stripped, and cut to the given length if it is longer. Three dots take
the place of the last three characters; for a length below three the cut counts from the end. -/
def shorten (limit : Int) (s : String) : String :=
  let line := trim isSpacing (s.toList.map fun c => if c = '\n' then ' ' else c)
  if (line.length : Int) ≤ limit then String.ofList line
  else String.ofList (takeSigned (limit - 3) line) ++ "..."

@[simp] theorem Charset.restrict_unicode (s : String) : Charset.unicode.restrict s = s := rfl

end WhileLang.Text

import WhileLang.Text.Printable

/-!
# Quoted text

How a text is quoted inside a message: between apostrophes, or between quotation marks if it holds
an apostrophe and no quotation mark. The quote in use and the backslash are escaped by a backslash;
line feed, carriage return and tab have a letter; every other character that is not printable is
written by its code in two, four or eight hexadecimal digits.
-/

namespace WhileLang.Text

def apostrophe : Char := Char.ofNat 39

def quotationMark : Char := Char.ofNat 34

def backslash : Char := Char.ofNat 92

/-- The hexadecimal digits of `n`, padded with zeros to the given width. -/
def hex (width n : Nat) : List Char :=
  let digits := Nat.toDigits 16 n
  List.replicate (width - digits.length) '0' ++ digits

/-- The code of a character that cannot be shown, in the shortest of the three forms. -/
def codeEscape (c : Char) : List Char :=
  if c.toNat < 0x100 then backslash :: 'x' :: hex 2 c.toNat
  else if c.toNat < 0x10000 then backslash :: 'u' :: hex 4 c.toNat
  else backslash :: 'U' :: hex 8 c.toNat

/-- One character of a text between two quotes `q`. -/
def escape (q c : Char) : List Char :=
  if c = q ∨ c = backslash then [backslash, c]
  else if c = '\n' then [backslash, 'n']
  else if c = '\r' then [backslash, 'r']
  else if c = '\t' then [backslash, 't']
  else if isPrintable c then [c]
  else codeEscape c

/-- The quote for a text: the apostrophe, unless it occurs and the quotation mark does not. -/
def quoteFor (cs : List Char) : Char :=
  if apostrophe ∈ cs ∧ quotationMark ∉ cs then quotationMark else apostrophe

def quoted (s : String) : String :=
  let q := quoteFor s.toList
  String.ofList (q :: (s.toList.flatMap (escape q) ++ [q]))

end WhileLang.Text

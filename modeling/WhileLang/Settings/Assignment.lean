import WhileLang.Text.Blank

/-!
# Assignments

A file of settings holds assignments `name=value`, one a line. A name may stand between apostrophes
and behind the word `export`. A value may be quoted; then it can run over several lines, and
backslashes have a meaning in it. A number sign starts a remark at the beginning of a line, behind a
quoted value, and behind a blank in any other value. A line that does not fit is passed over.

Inside a value, `${name}` stands for the value of a variable, and `${name:-text}` does so with a
text that is taken if there is no such variable. Variables that the file has assigned before count
before those of the environment.
-/

namespace WhileLang

/-- A variable is given a value, or loses the one that it had. -/
structure Assignment where
  name : String
  value : Option String
deriving DecidableEq

namespace Assignment

/-! ## Characters and lines -/

def apostrophe : Char := Char.ofNat 39

def quotationMark : Char := Char.ofNat 34

def backslash : Char := Char.ofNat 92

/-- The text with a single line feed at every end of a line. -/
def unifyLines : List Char → List Char
  | '\r' :: '\n' :: cs => '\n' :: unifyLines cs
  | '\r' :: cs => '\n' :: unifyLines cs
  | c :: cs => c :: unifyLines cs
  | [] => []

/-- Blank, but not the end of a line. -/
def isInnerBlank (c : Char) : Bool := Text.isSpacing c && c ≠ '\n'

def skipBlanks (cs : List Char) : List Char := cs.dropWhile isInnerBlank

/-- What is left behind the end of the line. -/
def skipLine (cs : List Char) : List Char := (cs.dropWhile (· ≠ '\n')).drop 1

/-- Passes over a remark and the blanks in front of it, if there is a remark. -/
def skipRemark (cs : List Char) : List Char :=
  match skipBlanks cs with
  | '#' :: rest => rest.dropWhile (· ≠ '\n')
  | _ => cs

/-- Passes over the word `export` and the blanks behind it, if there are any. -/
def skipExport (cs : List Char) : List Char :=
  let rest := cs.drop 6
  if cs.take 6 = "export".toList ∧ rest.head?.any isInnerBlank then skipBlanks rest else cs

/-! ## Names and values -/

/-- What was read and what is left, or what was left where it did not fit. -/
abbrev Result (α : Type) := Except (List Char) (α × List Char)

/-- A character that may be in a name without quotes. -/
def isNameChar (c : Char) : Bool := c ≠ '=' && c ≠ '#' && !Text.isSpacing c

/-- The name of a variable; a line with only a remark has none. -/
def readName : List Char → Result (Option String)
  | [] => .error []
  | c :: cs =>
    if c = '#' then .ok (none, c :: cs)
    else if c = apostrophe then
      match cs.takeWhile (· ≠ apostrophe), cs.dropWhile (· ≠ apostrophe) with
      | n :: ame, _ :: rest => .ok (some (String.ofList (n :: ame)), rest)
      | _, _ => .error (c :: cs)
    else
      match (c :: cs).takeWhile isNameChar with
      | [] => .error (c :: cs)
      | name => .ok (some (String.ofList name), (c :: cs).dropWhile isNameChar)

/-- The text up to the quote `q`. A quote behind a backslash belongs to the text, unless no other
quote follows. -/
def quotedText (q : Char) : List Char → Option (List Char × List Char)
  | [] => none
  | c :: cs =>
    if c = q then some ([], cs)
    else if c = backslash then
      match cs with
      | [] => none
      | d :: rest =>
        if d = q then
          match quotedText q rest with
          | some (text, left) => some (c :: d :: text, left)
          | none => some ([c], rest)
        else (quotedText q (d :: rest)).map fun r => (c :: r.1, r.2)
    else (quotedText q cs).map fun r => (c :: r.1, r.2)

/-- What a backslash and a character stand for between the quotes `q`. -/
def escaped? (q c : Char) : Option Char :=
  if c = backslash ∨ c = apostrophe then some c
  else if q = apostrophe then none
  else if c = quotationMark then some c
  else
    match c with
    | 'a' => some (Char.ofNat 7)
    | 'b' => some (Char.ofNat 8)
    | 't' => some '\t'
    | 'n' => some '\n'
    | 'v' => some (Char.ofNat 11)
    | 'f' => some (Char.ofNat 12)
    | 'r' => some '\r'
    | _ => none

/-- The text with every escaped character in the place of its two characters. -/
def unescape (q : Char) : List Char → List Char
  | [] => []
  | [c] => [c]
  | c :: d :: cs =>
    if c = backslash then
      match escaped? q d with
      | some e => e :: unescape q cs
      | none => c :: unescape q (d :: cs)
    else c :: unescape q (d :: cs)

/-- A text without the blanks at its end. -/
def trimEnd (cs : List Char) : List Char := (cs.reverse.dropWhile Text.isSpacing).reverse

/-- Cuts a value off before a remark, which starts with a number sign behind a blank. -/
def cutRemark (afterBlank : Bool) : List Char → List Char
  | [] => []
  | c :: cs => if c = '#' ∧ afterBlank then [] else c :: cutRemark (Text.isSpacing c) cs

/-- The value behind the equals sign and the blanks that follow it. -/
def readValue : List Char → Result String
  | [] => .ok ("", [])
  | c :: cs =>
    if c = '\n' then .ok ("", c :: cs)
    else if c = apostrophe ∨ c = quotationMark then
      match quotedText c cs with
      | some (text, rest) => .ok (String.ofList (unescape c text), rest)
      | none => .error (c :: cs)
    else
      let line := (c :: cs).takeWhile (· ≠ '\n')
      .ok (String.ofList (trimEnd (cutRemark false line)), (c :: cs).dropWhile (· ≠ '\n'))

/-! ## Files -/

/-- The end of a line behind a remark; only the two may be left. -/
def readLineEnd (cs : List Char) : Result Unit :=
  match skipBlanks (skipRemark cs) with
  | [] => .ok ((), [])
  | c :: rest => if c = '\n' then .ok ((), rest) else .error cs

/-- A line that begins with a character other than a blank. -/
def readLine (cs : List Char) : Except (List Char) (Option Assignment × List Char) := do
  let (name, cs) ← readName (skipExport cs)
  let cs := skipBlanks cs
  let (value, cs) ← match cs with
    | '=' :: rest => (readValue (skipBlanks rest)).map fun r => (some r.1, r.2)
    | _ => .ok (none, cs)
  let ((), cs) ← readLineEnd cs
  return (name.map (⟨·, value⟩), cs)

/-- The assignments of a text, of which `length` bounds the characters. -/
def readLines : (length : Nat) → List Char → List Assignment
  | 0, _ => []
  | n + 1, cs =>
    match cs.dropWhile Text.isSpacing with
    | [] => []
    | cs =>
      match readLine cs with
      | .ok (some a, rest) => a :: readLines n rest
      | .ok (none, rest) => readLines n rest
      | .error rest => readLines n (skipLine rest)

/-- The mark of the byte order, which may stand in front of a file. -/
def orderMark : Char := Char.ofNat 0xFEFF

/-- The assignments of a file, as they are written. -/
def readFile (text : String) : List Assignment :=
  let cs := unifyLines text.toList
  readLines (cs.length + 1) (if cs.head? = some orderMark then cs.tail else cs)

/-! ## References -/

/-- A piece of a value: a character, or a reference to a variable with what is taken if there is no
such variable. -/
inductive Piece where
  | char (c : Char)
  | reference (name : String) (default : List Char)

/-- The reference whose inside begins here, and what is left behind its closing brace. -/
def reference? (cs : List Char) : Option (Piece × List Char) :=
  let name := String.ofList (cs.takeWhile fun c => c ≠ '\x7d' && c ≠ ':')
  match cs.dropWhile fun c => c ≠ '\x7d' && c ≠ ':' with
  | '\x7d' :: rest => some (.reference name [], rest)
  | ':' :: '-' :: rest =>
    match rest.dropWhile (· ≠ '\x7d') with
    | _ :: left => some (.reference name (rest.takeWhile (· ≠ '\x7d')), left)
    | [] => none
  | _ => none

/-- The pieces of a value, of which `length` bounds the characters. -/
def piecesFrom : (length : Nat) → List Char → List Piece
  | 0, _ => []
  | _ + 1, [] => []
  | n + 1, c :: cs =>
    match c, cs with
    | '$', '\x7b' :: inside =>
      match reference? inside with
      | some (p, rest) => p :: piecesFrom n rest
      | none => .char c :: piecesFrom n cs
    | _, _ => .char c :: piecesFrom n cs

def pieces (value : String) : List Piece := piecesFrom (value.length + 1) value.toList

/-- The variables that the values of a file refer to. -/
def references (as : List Assignment) : List String :=
  (as.flatMap fun a => pieces (a.value.getD "")).filterMap fun
    | .char _ => none
    | .reference name _ => some name

/-- The characters that a piece stands for, where `find?` knows the variables. -/
def Piece.expand (find? : String → Option String) : Piece → List Char
  | .char c => [c]
  | .reference name default =>
    match find? name with
    | some value => value.toList
    | none => default

/-- The value with every reference replaced. -/
def expand (find? : String → Option String) (value : String) : String :=
  String.ofList ((pieces value).flatMap (Piece.expand find?))

/-- Assigns where a variable stands, or at the end. -/
def set (a : Assignment) : List Assignment → List Assignment
  | [] => [a]
  | b :: rest => if b.name = a.name then a :: rest else b :: set a rest

/-- What a variable stands for behind the assignments `done`; one that has lost its value stands for
nothing. -/
def lookUp (environment : List (String × String)) (done : List Assignment) (name : String) :
    Option String :=
  match done.find? fun a => a.name = name with
  | some a => some (a.value.getD "")
  | none => (environment.reverse.find? fun v => v.1 = name).map Prod.snd

/-- The assignments that are left of a list: one for each variable, its last, with all references
replaced. -/
def resolve (environment : List (String × String)) (as : List Assignment) : List Assignment :=
  as.foldl
    (fun done a => set ⟨a.name, a.value.map (expand (lookUp environment done))⟩ done) []

end Assignment

end WhileLang

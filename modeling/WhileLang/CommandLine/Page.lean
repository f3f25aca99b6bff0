import WhileLang.Text.Split

/-!
# Pages

What a command prints: lines, and tables whose layout is left to whoever shows them.
-/

namespace WhileLang.CommandLine

/-- A piece of output. -/
inductive Block where
  | line (text : String)
  | table (title : String) (headers : Option (List String)) (rows : List (List String))
deriving DecidableEq

/-- A text as lines. -/
def Block.lines (text : String) : List Block :=
  (Text.split '\n' text).map .line

/-- What a command has to say, and how it ends. -/
structure Page where
  blocks : List Block
  /-- Nonzero if a comparison went wrong. -/
  exit : Nat

end WhileLang.CommandLine

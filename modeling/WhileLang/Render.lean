import WhileLang.Error
import WhileLang.Names
import WhileLang.State

/-!
# The text of programs

How expressions, commands and states are shown. Sums and differences are read from the left, so
only a compound right operand has brackets; a conjunction has them around each side that is a
conjunction itself; a sequence has none. `Command.inline` writes a command on one line and
`Command.block` on several, with the bodies of branches and loops indented.

An integer is not written if it has more than `Text.maxDigits` digits. What it stands in has no text
then, and showing it fails.
-/

namespace WhileLang

/-- The text of an integer. -/
def Text.ofInt (i : Int) : Except Error String :=
  if isWritable i then .ok (toString i) else .error .numberTooLong

/-- The text of a variable. Its key is a part of it if it has no name. -/
def Names.text (names : Names) (x : Ident) : Except Error String :=
  if (names.get? x).isSome ∨ Text.isWritable x then .ok (names.display x)
  else .error .numberTooLong

/-- Puts a text in brackets if asked to. -/
def bracketIf (needed : Bool) (text : String) : String :=
  if needed then "(" ++ text ++ ")" else text

def AExp.render (names : Names) : AExp → Except Error String
  | number v => Text.ofInt v
  | var x => names.text x
  | plus l r => do
    return (← l.render names) ++ " + " ++ bracketIf r.isCompound (← r.render names)
  | minus l r => do
    return (← l.render names) ++ " - " ++ bracketIf r.isCompound (← r.render names)

def BExp.render (names : Names) : BExp → Except Error String
  | tt => .ok "true"
  | ff => .ok "false"
  | equal l r => do return (← l.render names) ++ " = " ++ (← r.render names)
  | lessEqual l r => do return (← l.render names) ++ " <= " ++ (← r.render names)
  | neg b => do return "!(" ++ (← b.render names) ++ ")"
  | conj l r => do
    return bracketIf l.isConj (← l.render names) ++ " && " ++ bracketIf r.isConj (← r.render names)

namespace Command

/-- The command on one line. -/
def inline (names : Names) : Command → Except Error String
  | skip => .ok "skip"
  | assign x e => do return (← names.text x) ++ " := " ++ (← e.render names)
  | seq c₁ c₂ => do return (← c₁.inline names) ++ "; " ++ (← c₂.inline names)
  | branch b c₁ c₂ => do
    return "if " ++ (← b.render names) ++ " then \x7b " ++ (← c₁.inline names) ++
      " \x7d else \x7b " ++ (← c₂.inline names) ++ " \x7d"
  | loop b c => do
    return "while " ++ (← b.render names) ++ " do \x7b " ++ (← c.inline names) ++ " \x7d"

/-- The spaces in front of a line at the given depth. -/
def indent (depth : Nat) : String := String.ofList (List.replicate (2 * depth) ' ')

/-- Ends the last line with a semicolon. -/
def closeLast : List String → List String
  | [] => []
  | [line] => [line ++ ";"]
  | line :: rest => line :: closeLast rest

/-- The lines of a command at the given depth. -/
def blockLines (names : Names) (depth : Nat) : Command → Except Error (List String)
  | skip => .ok [indent depth ++ "skip"]
  | assign x e => do return [indent depth ++ (← (assign x e).inline names)]
  | seq c₁ c₂ => do
    return closeLast (← c₁.blockLines names depth) ++ (← c₂.blockLines names depth)
  | branch b c₁ c₂ => do
    let cond ← b.render names
    let lines₁ ← c₁.blockLines names (depth + 1)
    let lines₂ ← c₂.blockLines names (depth + 1)
    return (indent depth ++ "if " ++ cond ++ " then \x7b") :: (lines₁ ++
      (indent depth ++ "\x7d else \x7b") :: (lines₂ ++ [indent depth ++ "\x7d"]))
  | loop b c => do
    let cond ← b.render names
    let lines ← c.blockLines names (depth + 1)
    return (indent depth ++ "while " ++ cond ++ " do \x7b") :: (lines ++ [indent depth ++ "\x7d"])

/-- The command on several lines. -/
def block (names : Names) (c : Command) : Except Error String :=
  (c.blockLines names 0).map "\n".intercalate

end Command

/-- A variable and its value. -/
def Binding.render (names : Names) (b : Ident × Int) : Except Error String := do
  return (← names.text b.1) ++ " = " ++ (← Text.ofInt b.2)

/-- The variables whose value is not `0`, with their values. -/
def State.render (names : Names) (s : State) : Except Error String := do
  return "\x7b" ++ ", ".intercalate (← s.bindings.mapM (Binding.render names)) ++ "\x7d"

end WhileLang

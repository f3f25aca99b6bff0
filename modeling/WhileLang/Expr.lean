/-!
# Expressions

Arithmetic expressions `AExp` are integers, variables, sums and differences; boolean expressions
`BExp` compare two arithmetic ones and combine the results. Both are trees without sharing or
effects, so evaluation (`WhileLang.Evaluator`) is a total function of a state.
-/

namespace WhileLang

/-- The key of a variable. Every integer is one; the text shown for it is up to `Names`. -/
abbrev Ident := Int

/-- Arithmetic expressions. -/
inductive AExp where
  | number (value : Int)
  | var (ident : Ident)
  | plus (left right : AExp)
  | minus (left right : AExp)
deriving DecidableEq

/-- Boolean expressions. -/
inductive BExp where
  | tt
  | ff
  | equal (left right : AExp)
  | lessEqual (left right : AExp)
  | neg (operand : BExp)
  | conj (left right : BExp)
deriving DecidableEq

namespace AExp

instance : Inhabited AExp := ⟨.number 0⟩

/-- Sums and differences: the expressions that need brackets as a right operand. -/
def isCompound : AExp → Bool
  | plus .. | minus .. => true
  | number _ | var _ => false

/-- The number of nodes of the tree. -/
def size : AExp → Nat
  | number _ | var _ => 1
  | plus l r | minus l r => l.size + r.size + 1

/-- The variable `x` is read somewhere in the expression. -/
def Mentions (x : Ident) : AExp → Prop
  | number _ => False
  | var y => x = y
  | plus l r | minus l r => l.Mentions x ∨ r.Mentions x

end AExp

namespace BExp

instance : Inhabited BExp := ⟨.tt⟩

/-- Conjunctions: the conditions that need brackets inside a conjunction. -/
def isConj : BExp → Bool
  | conj .. => true
  | _ => false

/-- The number of nodes of the tree, those of the compared expressions included. -/
def size : BExp → Nat
  | tt | ff => 1
  | equal l r | lessEqual l r => l.size + r.size + 1
  | neg b => b.size + 1
  | conj l r => l.size + r.size + 1

/-- The variable `x` is read somewhere in the condition. -/
def Mentions (x : Ident) : BExp → Prop
  | tt | ff => False
  | equal l r | lessEqual l r => l.Mentions x ∨ r.Mentions x
  | neg b => b.Mentions x
  | conj l r => l.Mentions x ∨ r.Mentions x

end BExp

end WhileLang

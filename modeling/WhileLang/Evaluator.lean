import WhileLang.State

/-!
# Evaluating expressions

`AExp.eval` and `BExp.eval` are the values of expressions in a state. The semantics of commands
take an `Evaluator` as a parameter, so that what holds of them for every evaluator can be told
from what needs the standard one.
-/

namespace WhileLang

namespace AExp

/-- The value of an expression when `add` is used for sums. -/
def evalWith (add : Int → Int → Int) (s : State) : AExp → Int
  | number v => v
  | var x => s.lookup x
  | plus l r => add (l.evalWith add s) (r.evalWith add s)
  | minus l r => l.evalWith add s - r.evalWith add s

/-- The value of an expression in a state. -/
def eval (s : State) : AExp → Int
  | number v => v
  | var x => s.lookup x
  | plus l r => l.eval s + r.eval s
  | minus l r => l.eval s - r.eval s

end AExp

namespace BExp

/-- The truth of a condition when `value` gives the values of the compared expressions. -/
def evalWith (value : AExp → Int) : BExp → Bool
  | tt => true
  | ff => false
  | equal l r => value l = value r
  | lessEqual l r => value l ≤ value r
  | neg b => !b.evalWith value
  | conj l r => l.evalWith value && r.evalWith value

/-- The truth of a condition in a state. -/
def eval (s : State) (b : BExp) : Bool := b.evalWith (AExp.eval s)

end BExp

/-- Values for the expressions of the language; any two total functions will do. -/
structure Evaluator where
  aexp : State → AExp → Int
  bexp : State → BExp → Bool

namespace Evaluator

/-- The evaluator of the language. -/
def standard : Evaluator := ⟨AExp.eval, BExp.eval⟩

instance : Inhabited Evaluator := ⟨standard⟩

/-- An evaluator that is wrong by one at every sum, within nested expressions too. -/
def offByOne : Evaluator where
  aexp := AExp.evalWith fun a b => a + b + 1
  bexp s b := b.evalWith (AExp.evalWith (fun a b => a + b + 1) s)

@[simp] theorem standard_aexp (s : State) (e : AExp) : standard.aexp s e = e.eval s := rfl

@[simp] theorem standard_bexp (s : State) (b : BExp) : standard.bexp s b = b.eval s := rfl

end Evaluator

end WhileLang

import WhileLang.Evaluator
import WhileLang.Names

/-!
# Explained evaluation

The value of an expression together with one line for each computation, operands first and the
left one before the right one. Numbers and the truth constants are no computation. Both sides of
a conjunction are always shown.
-/

namespace WhileLang

/-- A value and the lines that lead to it. -/
structure Explanation (α : Type) where
  value : α
  steps : List String
deriving DecidableEq

/-- The same lines for another value. -/
def Explanation.map {α β : Type} (f : α → β) (e : Explanation α) : Explanation β :=
  ⟨f e.value, e.steps⟩

/-- The text of a truth value. -/
def truthText (b : Bool) : String := if b then "true" else "false"

/-- The line for an operation with an integer result. -/
def arithmeticLine (a : Int) (op : String) (b result : Int) : String :=
  toString a ++ " " ++ op ++ " " ++ toString b ++ " = " ++ toString result

/-- The line for a comparison. -/
def comparisonLine (a : Int) (op : String) (b : Int) (result : Bool) : String :=
  toString a ++ " " ++ op ++ " " ++ toString b ++ " is " ++ truthText result

/-- The line for a negation. -/
def negationLine (value : Bool) : String :=
  "not " ++ truthText value ++ " is " ++ truthText (!value)

/-- The line for a conjunction. -/
def conjunctionLine (a b result : Bool) : String :=
  truthText a ++ " and " ++ truthText b ++ " is " ++ truthText result

def AExp.explain (s : State) : AExp → Explanation Int
  | number v => ⟨v, []⟩
  | var x => ⟨s.lookup x, [(∅ : Names).display x ++ " = " ++ toString (s.lookup x)]⟩
  | plus l r =>
    let a := l.explain s
    let b := r.explain s
    let result := a.value + b.value
    ⟨result, a.steps ++ b.steps ++ [arithmeticLine a.value "+" b.value result]⟩
  | minus l r =>
    let a := l.explain s
    let b := r.explain s
    let result := a.value - b.value
    ⟨result, a.steps ++ b.steps ++ [arithmeticLine a.value "-" b.value result]⟩

def BExp.explain (s : State) : BExp → Explanation Bool
  | tt => ⟨true, []⟩
  | ff => ⟨false, []⟩
  | equal l r =>
    let a := l.explain s
    let b := r.explain s
    let result : Bool := a.value = b.value
    ⟨result, a.steps ++ b.steps ++ [comparisonLine a.value "=" b.value result]⟩
  | lessEqual l r =>
    let a := l.explain s
    let b := r.explain s
    let result : Bool := a.value ≤ b.value
    ⟨result, a.steps ++ b.steps ++ [comparisonLine a.value "<=" b.value result]⟩
  | neg c =>
    let a := c.explain s
    ⟨!a.value, a.steps ++ [negationLine a.value]⟩
  | conj l r =>
    let a := l.explain s
    let b := r.explain s
    let result := a.value && b.value
    ⟨result, a.steps ++ b.steps ++ [conjunctionLine a.value b.value result]⟩

/-! ## Numbers on the lines -/

/-- The integers that the lines of an explanation show. -/
def AExp.shown (s : State) : AExp → List Int
  | number _ => []
  | var x => [x, s.lookup x]
  | plus l r => l.shown s ++ r.shown s ++ [l.eval s, r.eval s, (plus l r).eval s]
  | minus l r => l.shown s ++ r.shown s ++ [l.eval s, r.eval s, (minus l r).eval s]

def BExp.shown (s : State) : BExp → List Int
  | tt | ff => []
  | equal l r | lessEqual l r => l.shown s ++ r.shown s ++ [l.eval s, r.eval s]
  | neg b => b.shown s
  | conj l r => l.shown s ++ r.shown s

end WhileLang

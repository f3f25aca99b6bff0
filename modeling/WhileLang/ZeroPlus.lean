import WhileLang.Command

/-!
# Dropping sums with zero

`dropZeroPlus` replaces every sum `0 + e` by `e`, in expressions, in conditions and in commands.
The literal zero is looked for before the left operand is simplified itself, so a zero that
appears on the left only then stays, and another pass may find more to do. `ZeroPlusFree` says
that nothing is left to do.
-/

namespace WhileLang

namespace AExp

def dropZeroPlus : AExp → AExp
  | number v => number v
  | var x => var x
  | plus l r =>
    if l = number 0 then r.dropZeroPlus else plus l.dropZeroPlus r.dropZeroPlus
  | minus l r => minus l.dropZeroPlus r.dropZeroPlus

/-- No sum has the literal zero on its left. -/
def ZeroPlusFree : AExp → Prop
  | number _ | var _ => True
  | plus l r => l ≠ number 0 ∧ l.ZeroPlusFree ∧ r.ZeroPlusFree
  | minus l r => l.ZeroPlusFree ∧ r.ZeroPlusFree

end AExp

namespace BExp

def dropZeroPlus : BExp → BExp
  | tt => tt
  | ff => ff
  | equal l r => equal l.dropZeroPlus r.dropZeroPlus
  | lessEqual l r => lessEqual l.dropZeroPlus r.dropZeroPlus
  | neg b => neg b.dropZeroPlus
  | conj l r => conj l.dropZeroPlus r.dropZeroPlus

def ZeroPlusFree : BExp → Prop
  | tt | ff => True
  | equal l r | lessEqual l r => l.ZeroPlusFree ∧ r.ZeroPlusFree
  | neg b => b.ZeroPlusFree
  | conj l r => l.ZeroPlusFree ∧ r.ZeroPlusFree

end BExp

namespace Command

def dropZeroPlus : Command → Command
  | skip => skip
  | assign x e => assign x e.dropZeroPlus
  | seq c₁ c₂ => seq c₁.dropZeroPlus c₂.dropZeroPlus
  | branch b c₁ c₂ => branch b.dropZeroPlus c₁.dropZeroPlus c₂.dropZeroPlus
  | loop b c => loop b.dropZeroPlus c.dropZeroPlus

def ZeroPlusFree : Command → Prop
  | skip => True
  | assign _ e => e.ZeroPlusFree
  | seq c₁ c₂ => c₁.ZeroPlusFree ∧ c₂.ZeroPlusFree
  | branch b c₁ c₂ => b.ZeroPlusFree ∧ c₁.ZeroPlusFree ∧ c₂.ZeroPlusFree
  | loop b c => b.ZeroPlusFree ∧ c.ZeroPlusFree

end Command

end WhileLang

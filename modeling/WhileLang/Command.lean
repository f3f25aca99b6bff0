import WhileLang.Expr

/-!
# Commands

The five command forms of the language, and `Command.inOrder`, which joins a list of commands
into one sequence that is nested to the right.
-/

namespace WhileLang

/-- Commands: do nothing, assign, run two in order, choose by a condition, repeat while it holds. -/
inductive Command where
  | skip
  | assign (ident : Ident) (expr : AExp)
  | seq (first second : Command)
  | branch (cond : BExp) (thenBranch elseBranch : Command)
  | loop (cond : BExp) (body : Command)
deriving DecidableEq

namespace Command

instance : Inhabited Command := ⟨.skip⟩

/-- The outermost form of a command, without its parts. -/
inductive Form where
  | skip
  | assign
  | seq
  | branch
  | loop
deriving DecidableEq

/-- The word for a form, in messages and in the written tree. -/
def Form.tag : Form → String
  | .skip => "skip"
  | .assign => "assign"
  | .seq => "seq"
  | .branch => "if"
  | .loop => "while"

def form : Command → Form
  | skip => .skip
  | assign .. => .assign
  | seq .. => .seq
  | branch .. => .branch
  | loop .. => .loop

/-- The command that is done; every other command has a next step. -/
def isSkip (c : Command) : Bool := c.form = .skip

/-- `c₁; c₂; …; cₙ`, nested to the right; no command at all is `skip`. -/
def inOrder : List Command → Command
  | [] => skip
  | [c] => c
  | c :: rest => seq c (inOrder rest)

/-- The number of nodes of the tree, those of its expressions included. -/
def size : Command → Nat
  | skip => 1
  | assign _ e => e.size + 1
  | seq c₁ c₂ => c₁.size + c₂.size + 1
  | branch b c₁ c₂ => b.size + c₁.size + c₂.size + 1
  | loop b c => b.size + c.size + 1

/-- The variable `x` occurs in the command, read or assigned. -/
def Mentions (x : Ident) : Command → Prop
  | skip => False
  | assign y e => x = y ∨ e.Mentions x
  | seq c₁ c₂ => c₁.Mentions x ∨ c₂.Mentions x
  | branch b c₁ c₂ => b.Mentions x ∨ c₁.Mentions x ∨ c₂.Mentions x
  | loop b c => b.Mentions x ∨ c.Mentions x

/-- The variable `x` is the target of an assignment of the command. -/
def Assigns (x : Ident) : Command → Prop
  | skip => False
  | assign y _ => x = y
  | seq c₁ c₂ => c₁.Assigns x ∨ c₂.Assigns x
  | branch _ c₁ c₂ => c₁.Assigns x ∨ c₂.Assigns x
  | loop _ c => c.Assigns x

instance decidableAssigns (x : Ident) : (c : Command) → Decidable (c.Assigns x)
  | skip => inferInstanceAs (Decidable False)
  | assign y _ => inferInstanceAs (Decidable (x = y))
  | seq c₁ c₂ | branch _ c₁ c₂ =>
    have := decidableAssigns x c₁
    have := decidableAssigns x c₂
    inferInstanceAs (Decidable (c₁.Assigns x ∨ c₂.Assigns x))
  | loop _ c => decidableAssigns x c

@[simp] theorem isSkip_iff {c : Command} : c.isSkip = true ↔ c = skip := by
  cases c <;> simp [isSkip, form]

end Command

end WhileLang

import WhileLang.Derivation
import WhileLang.Interpreter

/-!
# Building derivations

`Command.derive` builds the derivation of a run on a budget, which it spends as the interpreter
does. What it builds is a proof of its own conclusion.

A loop is run turn by turn, each turn on what is left of the budget (`Derivation.unroll`). Its node
is known only when the loop has ended, so the turns are kept, the latest first, and the nodes are
put around the last one afterwards (`Derivation.wind`).
-/

namespace WhileLang

namespace Derivation

/-- The derivation of a loop from the node at its end and the turns before it: each has the state
it started in and the derivation of the body. The latest turn comes first. -/
def wind (b : BExp) (c : Command) (turns : List (State × Derivation)) (last : Derivation) :
    Derivation :=
  turns.foldl (fun d turn => ⟨.loopTrue, .loop b c, turn.1, d.post, [turn.2, d]⟩) last

/-- Runs a loop from `s` after some turns; `body` derives the body on a budget. -/
def unroll (ev : Evaluator) (b : BExp) (c : Command)
    (body : (budget : Nat) → State → Option Derivation) :
    (budget : Nat) → List (State × Derivation) → State → Option Derivation
  | 0, _, _ => none
  | k + 1, turns, s =>
    if ev.bexp s b then
      match body k s with
      | none => none
      | some d => unroll ev b c body k ((s, d) :: turns) d.post
    else some (wind b c turns ⟨.loopFalse, .loop b c, s, s, []⟩)

end Derivation

/-- The derivation of a command from a state, if the budget suffices. -/
def Command.derive (ev : Evaluator) : (budget : Nat) → State → Command → Option Derivation
  | 0, _, _ => none
  | _ + 1, s, skip => some ⟨.skip, skip, s, s, []⟩
  | _ + 1, s, assign x e => some ⟨.assign, assign x e, s, s.update x (ev.aexp s e), []⟩
  | k + 1, s, seq c₁ c₂ =>
    match derive ev k s c₁ with
    | none => none
    | some d₁ =>
      match derive ev k d₁.post c₂ with
      | none => none
      | some d₂ => some ⟨.seq, seq c₁ c₂, s, d₂.post, [d₁, d₂]⟩
  | k + 1, s, branch b c₁ c₂ =>
    if ev.bexp s b then
      match derive ev k s c₁ with
      | none => none
      | some d => some ⟨.branchTrue, branch b c₁ c₂, s, d.post, [d]⟩
    else
      match derive ev k s c₂ with
      | none => none
      | some d => some ⟨.branchFalse, branch b c₁ c₂, s, d.post, [d]⟩
  | k + 1, s, loop b c =>
    Derivation.unroll ev b c (fun budget s => derive ev budget s c) (k + 1) [] s
termination_by structural _ _ c => c

namespace Derivation

/-- The derivation at a budget that may turn out to be negative. -/
def build (ev : Evaluator) (b : Int) (s : State) (c : Command) :
    Except Error (Option Derivation) :=
  (budget? b).map fun k => c.derive ev k s

@[simp] theorem build_natCast (ev : Evaluator) (n : Nat) (s : State) (c : Command) :
    build ev n s c = .ok (c.derive ev n s) := by
  simp [build, Except.map]

theorem build_eq_ok_iff {ev : Evaluator} {b : Int} {s : State} {c : Command}
    {r : Option Derivation} : build ev b s c = .ok r ↔ ∃ k : Nat, b = k ∧ c.derive ev k s = r := by
  simp only [build, map_eq_ok_iff, budget?_eq_ok_iff]

/-- The final state of the derivation that a budget allows. -/
def finalState (ev : Evaluator) (s : State) (c : Command) (b : Int) :
    Except Error (Option State) :=
  (build ev b s c).map fun d => d.map (·.post)

/-- The command leads from `s` to `t`, and the budget is enough to derive it. -/
def relates (ev : Evaluator) (s : State) (c : Command) (t : State) (b : Int) :
    Except Error Bool :=
  (finalState ev s c b).map fun r => r = some t

/-- The tree with another conclusion: the value of `x` in its final state is one too large. -/
def forgePost (x : Ident) (d : Derivation) : Derivation := { d with post := d.post.bump x }

end Derivation

end WhileLang

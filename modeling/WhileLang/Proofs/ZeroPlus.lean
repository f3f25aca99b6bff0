import WhileLang.Proofs.Rewriting
import WhileLang.Proofs.Step.Run
import WhileLang.ZeroPlus

/-!
# Dropping sums with zero is sound

A sum with zero has the value of its other operand, so `dropZeroPlus` keeps the value of every
expression and condition: it is a rewriting (`Rewriting.zeroPlus`). What a command does in any of
the semantics is therefore the same before and after (`dropZeroPlus_lockStep`).
-/

namespace WhileLang

theorem AExp.eval_dropZeroPlus (s : State) (e : AExp) : e.dropZeroPlus.eval s = e.eval s := by
  induction e with
  | number v => rfl
  | var x => rfl
  | plus l r ihl ihr =>
    rw [dropZeroPlus]
    split
    · rename_i hl
      rw [ihr, hl, eval, eval, Int.zero_add]
    · rw [eval, eval, ihl, ihr]
  | minus l r ihl ihr => rw [dropZeroPlus, eval, eval, ihl, ihr]

theorem BExp.eval_dropZeroPlus (s : State) (b : BExp) : b.dropZeroPlus.eval s = b.eval s := by
  unfold eval
  induction b with
  | tt => rfl
  | ff => rfl
  | equal l r => simp only [dropZeroPlus, evalWith, AExp.eval_dropZeroPlus]
  | lessEqual l r => simp only [dropZeroPlus, evalWith, AExp.eval_dropZeroPlus]
  | neg b ih => simp only [dropZeroPlus, evalWith, ih]
  | conj l r ihl ihr => simp only [dropZeroPlus, evalWith, ihl, ihr]

namespace Rewriting

/-- Dropping sums with zero, as a rewriting. -/
def zeroPlus : Rewriting .standard where
  aexp := AExp.dropZeroPlus
  bexp := BExp.dropZeroPlus
  aexp_eq := AExp.eval_dropZeroPlus
  bexp_eq := BExp.eval_dropZeroPlus

theorem command_zeroPlus (c : Command) : zeroPlus.command c = c.dropZeroPlus := by
  induction c with
  | skip => rfl
  | assign x e => rfl
  | seq c₁ c₂ ih₁ ih₂ => rw [command, ih₁, ih₂, Command.dropZeroPlus]
  | branch b c₁ c₂ ih₁ ih₂ =>
    rw [command, ih₁, ih₂, Command.dropZeroPlus]
    rfl
  | loop b c ih =>
    rw [command, ih, Command.dropZeroPlus]
    rfl

end Rewriting

/-- **Dropping sums with zero is a lock-step simulation.** The simplified command has the
simplified successors, its traces are as long and pass through the same states, and it has the
results, the least budgets and, simplified, the derivations of the original. -/
theorem dropZeroPlus_lockStep (c : Command) (s : State) :
    Stepper.standard .standard ⟨c.dropZeroPlus, s⟩ =
      (Stepper.standard .standard ⟨c, s⟩).map (fun a => ⟨a.command.dropZeroPlus, a.state⟩) ∧
    (∀ (record : Bool) (limit : Nat), ∃ tr tr',
      (Stepper.standard .standard).trace record ⟨c, s⟩ limit = .ok tr ∧
        (Stepper.standard .standard).trace record ⟨c.dropZeroPlus, s⟩ limit = .ok tr' ∧
        tr'.steps = tr.steps ∧ tr'.terminated = tr.terminated ∧
        tr'.configurations.map (·.state) = tr.configurations.map (·.state) ∧
        tr'.final.state = tr.final.state) ∧
    (∀ budget : Int, Interpreter.standard .standard budget c.dropZeroPlus s =
      Interpreter.standard .standard budget c s) ∧
    (∀ budget : Int, Derivation.build .standard budget s c.dropZeroPlus =
      (Derivation.build .standard budget s c).map (Option.map (·.mapCommand .dropZeroPlus))) ∧
    ∀ ceiling upper : Int,
      Denotation.leastBudget (.standard .standard ceiling) s c.dropZeroPlus upper =
        Denotation.leastBudget (.standard .standard ceiling) s c upper := by
  have hcommand : Rewriting.zeroPlus.command = Command.dropZeroPlus :=
    funext Rewriting.command_zeroPlus
  rw [← hcommand]
  refine ⟨Rewriting.zeroPlus.successors_command c s, fun record limit => ?_,
    fun budget => Rewriting.zeroPlus.interpreter_command budget c s,
    fun budget => Rewriting.zeroPlus.build_command budget s c,
    fun ceiling upper => Rewriting.zeroPlus.leastBudget_command ceiling upper s c⟩
  obtain ⟨tr, htr, -⟩ := Stepper.exists_trace_eq .standard record ⟨c, s⟩ limit
  refine ⟨tr, _, htr, Rewriting.zeroPlus.trace_command htr, rfl, rfl, ?_, rfl⟩
  rw [List.map_map]
  rfl

end WhileLang

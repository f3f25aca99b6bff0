import WhileLang.Proofs.Derivation.Construction
import WhileLang.Proofs.Step.LockStep
import WhileLang.Denotation

/-!
# Rewriting expressions

A `Rewriting` replaces expressions and conditions by others that have the same value in every
state. Applied throughout a command it cannot be noticed from outside: the rewritten command makes
the same steps through the same states (`Rewriting.lockStep`), has the derivation of the
original with its commands rewritten (`Rewriting.derive_command`), and has the same result on
every budget.

A loop makes new commands while it runs, but only from parts of itself, so the commands of a run
are rewritten ones all along.
-/

namespace WhileLang

variable {ev : Evaluator}

/-- Expressions and conditions to be put in the place of others, without a change of value. -/
structure Rewriting (ev : Evaluator) where
  aexp : AExp → AExp
  bexp : BExp → BExp
  aexp_eq (s : State) (e : AExp) : ev.aexp s (aexp e) = ev.aexp s e
  bexp_eq (s : State) (b : BExp) : ev.bexp s (bexp b) = ev.bexp s b

namespace Rewriting

variable (r : Rewriting ev)

/-- The command with all its expressions and conditions rewritten. -/
def command : Command → Command
  | .skip => .skip
  | .assign x e => .assign x (r.aexp e)
  | .seq c₁ c₂ => .seq (command c₁) (command c₂)
  | .branch b c₁ c₂ => .branch (r.bexp b) (command c₁) (command c₂)
  | .loop b c => .loop (r.bexp b) (command c)

def configuration (a : Configuration) : Configuration := ⟨r.command a.command, a.state⟩

/-! ## Steps -/

@[simp] theorem form_command (c : Command) : (r.command c).form = c.form := by
  cases c <;> rfl

@[simp] theorem isSkip_command (c : Command) : (r.command c).isSkip = c.isSkip := by
  rw [Command.isSkip, Command.isSkip, form_command]

/-- **The next step is rewritten.** -/
theorem successors_command (c : Command) (s : State) :
    (r.command c).successors ev s = (c.successors ev s).map r.configuration := by
  induction c with
  | skip => rfl
  | assign x e =>
    simp only [command, Command.successors, r.aexp_eq]
    rfl
  | seq c₁ c₂ ih _ =>
    simp only [command, Command.successors, ih, isSkip_command, List.map_append, List.map_map]
    congr 1
    split <;> rfl
  | branch b c₁ c₂ =>
    simp only [command, Command.successors, r.bexp_eq]
    split <;> rfl
  | loop b c =>
    simp only [command, Command.successors, r.bexp_eq]
    split <;> rfl

/-- **Lock step.** A configuration and its rewriting make the same steps. -/
theorem lockStep : (Stepper.standard ev).LockStep fun a b => r.configuration a = b where
  form_eq := by
    rintro a b rfl
    exact r.form_command a.command
  successors := by
    rintro a b rfl
    show List.Forall₂ _ (a.command.successors ev a.state)
      ((r.command a.command).successors ev a.state)
    rw [successors_command, List.forall₂_map_right_iff]
    exact List.forall₂_same.2 fun _ _ => rfl

/-- The trace of a rewritten command is the rewritten trace. -/
theorem trace_command {c : Command} {s : State} {record : Bool} {limit : Int} {tr : Trace}
    (htr : (Stepper.standard ev).trace record ⟨c, s⟩ limit = .ok tr) :
    (Stepper.standard ev).trace record ⟨r.command c, s⟩ limit =
      .ok ⟨tr.configurations.map r.configuration, tr.steps, tr.terminated,
        r.configuration tr.final⟩ := by
  obtain ⟨tr', htr', hsteps, hterminated, hconfigurations, hfinal⟩ :=
    r.lockStep.exists_trace_eq rfl htr
  rw [← List.forall₂_map_left_iff (R := Eq), List.forall₂_eq_eq_eq] at hconfigurations
  rw [hconfigurations, hfinal, ← hsteps, ← hterminated]
  exact htr'

/-! ## Derivations and results -/

/-- **The derivation is rewritten.** -/
theorem derive_command (k : Nat) (s : State) (c : Command) :
    (r.command c).derive ev k s = (c.derive ev k s).map (·.mapCommand r.command) := by
  induction k generalizing s c with
  | zero => simp
  | succ k ih =>
    cases c with
    | skip => simp [command]
    | assign x e => simp [command, r.aexp_eq]
    | seq c₁ c₂ =>
      simp only [command, Command.derive_seq, ih, Option.bind_map, Option.map_bind,
        Function.comp_def, Option.map_map]
      simp [command]
    | branch b c₁ c₂ =>
      simp only [command, Command.derive_branch, ih, r.bexp_eq]
      split <;> simp [Function.comp_def, command]
    | loop b c =>
      have hloop (s : State) : (Command.loop (r.bexp b) (r.command c)).derive ev k s =
          ((Command.loop b c).derive ev k s).map (·.mapCommand r.command) := ih s (.loop b c)
      simp only [command, Command.derive_loop, ih, hloop, r.bexp_eq]
      split
      · simp [Option.map_bind, Option.bind_map, Function.comp_def, command]
      · simp [command]

theorem interp_command (k : Nat) (c : Command) (s : State) :
    (r.command c).interp ev k s = c.interp ev k s := by
  rw [Command.interp_eq_map_derive, derive_command, Option.map_map,
    Command.interp_eq_map_derive]
  simp [Function.comp_def]

theorem build_command (budget : Int) (s : State) (c : Command) :
    Derivation.build ev budget s (r.command c) =
      (Derivation.build ev budget s c).map (Option.map (·.mapCommand r.command)) := by
  simp only [Derivation.build, derive_command]
  cases budget? budget <;> rfl

theorem interpreter_command (budget : Int) (c : Command) (s : State) :
    Interpreter.standard ev budget (r.command c) s = Interpreter.standard ev budget c s := by
  simp only [Interpreter.standard, Interpreter.ofPartial, interp_command]

theorem leastBudget_command (ceiling upper : Int) (s : State) (c : Command) :
    Denotation.leastBudget (.standard ev ceiling) s (r.command c) upper =
      Denotation.leastBudget (.standard ev ceiling) s c upper := by
  have hfinished : Denotation.finished (.standard ev ceiling) s (r.command c) =
      Denotation.finished (.standard ev ceiling) s c := by
    funext k
    simp only [interpreter_command, Denotation.finished, Denotation.standard]
  unfold Denotation.leastBudget
  rw [hfinished]
  simp only [interpreter_command, Denotation.standard]

end Rewriting

end WhileLang

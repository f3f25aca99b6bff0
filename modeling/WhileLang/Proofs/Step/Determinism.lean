import WhileLang.Agreement
import WhileLang.Proofs.Step.Run

/-!
# The next step is determined

`Stepper.checkDeterminism` looks at a single configuration. A stepper that passes it in every
configuration has no use for the errors of `Stepper.step` and `Stepper.trace`: every step is
found, and a trace is cut off by its limit or ends in `skip` (`exists_trace_of_checkDeterminism`).

The transition rules of the language pass it (`checkDeterminism_standard`). Two rules are tried for
a sequence, and two for a branch or a loop; that exactly one of them applies, and none to `skip`
alone, is one induction on the command (`Command.exists_successors_eq`).
-/

namespace WhileLang

variable {ev : Evaluator}

namespace Stepper

variable {st : Stepper} {a : Configuration} {record : Bool}

/-! ## What the check promises -/

/-- A step is found if there is at most one successor. -/
theorem step_eq_ok_iff {next : Option Configuration} :
    st.step a = .ok next ↔ st a = next.toList := by
  unfold step
  match st a with
  | [] => cases next <;> simp
  | [b] => cases next <;> simp
  | b :: c :: rest => cases next <;> simp

/-- The check passes a configuration with one successor, and an ended one without any. -/
theorem checkDeterminism_eq_nil_iff :
    st.checkDeterminism a = [] ↔ (∃ b, st a = [b]) ∨ st a = [] ∧ a.command = .skip := by
  unfold checkDeterminism
  match st a with
  | [] => simp
  | [b] => simp
  | b :: c :: rest => simp

/-- A configuration that passes the check has a next step or has ended. -/
theorem exists_step_of_checkDeterminism (h : st.checkDeterminism a = []) :
    ∃ next, st.step a = .ok next ∧ (next = none → a.command = .skip) := by
  rcases checkDeterminism_eq_nil_iff.1 h with ⟨b, hb⟩ | ⟨hnil, hskip⟩
  · exact ⟨some b, step_eq_ok_iff.2 hb, fun hnone => absurd hnone (Option.some_ne_none b)⟩
  · exact ⟨none, step_eq_ok_iff.2 hnil, fun _ => hskip⟩

theorem exists_walk_of_checkDeterminism (h : ∀ b, st.checkDeterminism b = []) (limit : Nat)
    (w : Walk) : ∃ w', st.walk record limit w = .ok w' := by
  induction limit generalizing w with
  | zero => exact ⟨w, rfl⟩
  | succ limit ih =>
    obtain ⟨next, hnext, hend⟩ := exists_step_of_checkDeterminism (h w.current)
    cases next with
    | none =>
      refine ⟨w, ?_⟩
      simp only [walk, hnext]
      exact if_pos (Command.isSkip_iff.2 (hend rfl))
    | some b =>
      obtain ⟨w', hw'⟩ := ih (w.advance record b)
      refine ⟨w', ?_⟩
      simp only [walk, hnext]
      exact hw'

/-- **No trace gets stuck** that follows a stepper which passes the check everywhere. -/
theorem exists_trace_of_checkDeterminism (h : ∀ b, st.checkDeterminism b = []) (a : Configuration)
    (limit : Nat) : ∃ tr, st.trace record a limit = .ok tr := by
  obtain ⟨w, hw⟩ := exists_walk_of_checkDeterminism h limit ⟨a, 0, if record then [a] else []⟩
  refine ⟨w.toTrace, ?_⟩
  rw [trace_natCast, hw]
  rfl

/-! ## The rules of the language -/

theorem checkDeterminism_standard (ev : Evaluator) (a : Configuration) :
    (standard ev).checkDeterminism a = [] := by
  rw [checkDeterminism_eq_nil_iff]
  by_cases hskip : a.command = .skip
  · refine .inr ⟨?_, hskip⟩
    rw [standard, hskip, Command.successors_skip]
  · exact .inl (Command.exists_successors_eq hskip a.state)

theorem length_standard (ev : Evaluator) (a : Configuration) :
    (standard ev a).length = if a.command = .skip then 0 else 1 := by
  split
  · rename_i hskip
    rw [standard, hskip, Command.successors_skip, List.length_nil]
  · rename_i hskip
    obtain ⟨b, hb⟩ : ∃ b, standard ev a = [b] := Command.exists_successors_eq hskip a.state
    rw [hb, List.length_singleton]

end Stepper

/-- **Determinism and progress.** A configuration has exactly one successor, or none if its command
is `skip`. So its next step is found, whatever rules are tried for it, its traces are found under
all limits, and the check has nothing to report, of it or of a configuration that they pass. -/
theorem next_step_is_determined (ev : Evaluator) (a : Configuration) :
    (Stepper.standard ev a).length = (if a.command = .skip then 0 else 1) ∧
    (Stepper.standard ev).step a = .ok (Stepper.standard ev a).head? ∧
    (Stepper.standard ev).checkDeterminism a = [] ∧
    ∀ (record : Bool) (limit : Nat),
      ∃ tr, (Stepper.standard ev).trace record a limit = .ok tr ∧
        ∀ b ∈ tr.configurations, (Stepper.standard ev).checkDeterminism b = [] := by
  have hcheck : ∀ b, (Stepper.standard ev).checkDeterminism b = [] :=
    Stepper.checkDeterminism_standard ev
  refine ⟨Stepper.length_standard ev a, ?_, hcheck a, fun record limit => ?_⟩
  · obtain ⟨next, hnext, -⟩ := Stepper.exists_step_of_checkDeterminism (hcheck a)
    have hlist : Stepper.standard ev a = next.toList := Stepper.step_eq_ok_iff.1 hnext
    rw [hnext, hlist]
    cases next <;> rfl
  · obtain ⟨tr, htr⟩ := Stepper.exists_trace_of_checkDeterminism hcheck a limit
    exact ⟨tr, htr, fun b _ => hcheck b⟩

/-- In `(skip; x₀ := 1); while true do skip` the rule that drops `skip` applies below another
sequence, and then the rule for that sequence. The loop does not end, and is found determined. -/
theorem next_step_is_determined_nested :
    let rest : Command := .loop .tt .skip
    let a : Configuration := ⟨.seq (.seq .skip (.assign 0 (.number 1))) rest, .initial⟩
    let b : Configuration := ⟨.seq .skip rest, .ofList [(0, 1)]⟩
    (Stepper.standard .standard a).length = 1 ∧
      ∃ tr, (Stepper.standard .standard).trace true a 4 = .ok tr ∧ b ∈ tr.configurations ∧
        (Stepper.standard .standard).checkDeterminism b = [] := by
  intro rest a b
  obtain ⟨hlength, -, -, htrace⟩ := next_step_is_determined .standard a
  obtain ⟨tr, htr, hvisited⟩ := htrace true 4
  have hb : b ∈ tr.configurations := by
    have hrun : (Stepper.standard .standard).trace true a 4 =
        .ok ⟨[a, ⟨.seq (.assign 0 (.number 1)) rest, .initial⟩, b, ⟨rest, .ofList [(0, 1)]⟩,
          ⟨.seq .skip rest, .ofList [(0, 1)]⟩], 4, false, b⟩ := by rfl
    rw [← Except.ok.inj (hrun.symm.trans htr)]
    simp
  exact ⟨hlength, tr, htr, hb, hvisited b hb⟩

end WhileLang

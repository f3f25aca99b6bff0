import WhileLang.Proofs.LeastBudget
import WhileLang.Proofs.Step.Derived

/-!
# What a derivation costs

The two sizes of a derivation are the two prices of running its command: the interpreter and the
construction of derivations need its height for a budget, and the small steps it takes are its
`stepCount`. Neither price is an estimate (`resource_law`). Every node but one with the rule for
`skip` takes a step of its own, so the height is at most one more than the number of steps.
-/

namespace WhileLang

open WhileLang.Derivation

variable {ev : Evaluator}

/-- A path of a derivation may end in `skip`, and has a step for each of its other nodes. -/
theorem Derivation.Proof.height_le_stepCount {d : Derivation} (h : Proof ev d) :
    d.height ≤ d.stepCount + 1 := by
  induction h with
  | skip s => simp
  | assign x e s => simp
  | seq h₁ h₂ hs ih₁ ih₂ =>
    rw [height_mk, stepCount_mk]
    simp only [heights_cons, heights_nil, stepCounts_cons, stepCounts_nil, Rule.stepCost]
    omega
  | branchTrue c₂ h hb ih => simpa [Rule.stepCost] using ih
  | branchFalse c₁ h hb ih => simpa [Rule.stepCost] using ih
  | loopFalse c hb => simp
  | loopTrue h₁ h₂ hb hc hs ih₁ ih₂ =>
    rw [height_mk, stepCount_mk]
    simp only [heights_cons, heights_nil, stepCounts_cons, stepCounts_nil, Rule.stepCost]
    omega

/-- Running the command of `d` from its initial state to its final state needs the budget `budget`
and takes `steps` small steps. -/
structure Derivation.Costs (ev : Evaluator) (d : Derivation) (budget steps : Nat) : Prop where
  interp (k : Nat) : Interpreter.standard ev k d.command d.pre =
    .ok (if budget ≤ k then some d.post else none)
  build (k : Nat) : Derivation.build ev k d.pre d.command =
    .ok (if budget ≤ k then some d else none)
  trace (record : Bool) (limit : Nat) :
    ∃ tr, (Stepper.standard ev).trace record ⟨d.command, d.pre⟩ limit = .ok tr ∧
      (tr.terminated = true ↔ steps ≤ limit) ∧
      (tr.terminated = true → tr.steps = steps ∧ tr.final.state = d.post)
  leastBudget (ceiling : Int) (upper : Nat) :
    Denotation.leastBudget (.standard ev ceiling) d.pre d.command upper =
      .ok (if budget ≤ upper then some budget else none)

theorem Derivation.Proof.costs {d : Derivation} (h : Proof ev d) :
    d.Costs ev d.height d.stepCount where
  interp k := by rw [Interpreter.standard_natCast, h.interp_eq]
  build k := by rw [build_natCast, h.derive_eq]
  trace := h.exists_trace_eq
  leastBudget := h.leastBudget_eq

/-- A command that ends in `n` steps ends on the budget `n + 1`. -/
theorem Trace.Follows.interp_eq {c : Command} {s : State} {limit : Nat} {tr : Trace}
    (h : tr.Follows ev ⟨c, s⟩ limit) (ht : tr.terminated = true) :
    c.interp ev (tr.steps + 1) s = some tr.final.state := by
  obtain ⟨d, p, rfl, rfl, hpost, hsteps⟩ := h.exists_proof ht
  rw [p.interp_eq, ← hsteps, ← hpost, if_pos p.height_le_stepCount]

/-- **The resource law.** A valid derivation costs its height and its number of steps, and a
program that takes `n` steps needs no larger budget than `n + 1`. -/
theorem resource_law (ev : Evaluator) :
    (∀ d : Derivation, d.verify ev = [] →
      d.Costs ev d.height d.stepCount ∧ d.height ≤ d.stepCount + 1) ∧
    ∀ (c : Command) (s : State) (record : Bool) (limit : Int) (tr : Trace),
      (Stepper.standard ev).trace record ⟨c, s⟩ limit = .ok tr → tr.terminated = true →
        Interpreter.standard ev (tr.steps + 1 : Nat) c s = .ok (some tr.final.state) := by
  constructor
  · intro d h
    rw [verify_eq_nil_iff] at h
    exact ⟨h.costs, h.height_le_stepCount⟩
  · intro c s record limit tr htr ht
    rw [Interpreter.standard_natCast, (Stepper.follows_of_trace_eq htr).interp_eq ht]

/-- One turn of `while 1 ≤ x₀ do x₀ := 0` costs a budget of 2 and takes 4 steps. -/
theorem resource_law_turn :
    let b : BExp := .lessEqual (.number 1) (.var 0)
    let c : Command := .assign 0 (.number 0)
    let s : State := .ofList [(0, 1)]
    let d : Derivation := ⟨.loopTrue, .loop b c, s, .initial,
      [⟨.assign, c, s, .initial, []⟩, ⟨.loopFalse, .loop b c, .initial, .initial, []⟩]⟩
    d.verify .standard = [] ∧ d.Costs .standard 2 4 := by
  intro b c s d
  have h : d.verify .standard = [] := by decide
  exact ⟨h, ((resource_law .standard).1 d h).1⟩

end WhileLang

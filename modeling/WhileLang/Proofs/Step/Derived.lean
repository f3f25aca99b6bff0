import WhileLang.Proofs.Derivation.Validity
import WhileLang.Proofs.Step.Run

/-!
# Small steps and derivations

A valid derivation takes `stepCount` small steps from its command to `skip`, and every run to
`skip` is the run of a valid derivation (`steps_skip_iff`).

The runs of the premises are joined as the rule joins its premises: a run of the first part of a
sequence is one of the sequence (`Steps.seq`), one more step drops the `skip` that is left of it,
and a loop adds a step for the test of its condition. For the converse a run of a sequence is cut at
that `skip` (`Steps.of_seq`), and the induction is on the length of the run, since a loop goes on
with a command that is no part of it.
-/

namespace WhileLang

open WhileLang.Derivation

variable {ev : Evaluator}

namespace Steps

variable {n : Nat} {a b : Configuration} {s t : State}

/-! ## Sequences -/

theorem seq (h : Steps ev n a b) (c₂ : Command) :
    Steps ev n ⟨.seq a.command c₂, a.state⟩ ⟨.seq b.command c₂, b.state⟩ := by
  induction h with
  | refl a => exact .refl _
  | head first _ ih => exact .head (Command.successors_seq first c₂) ih

/-- A run of the first part to `skip` and a run of the second part, with the step between them. -/
theorem seq_trans {m : Nat} {c₁ c₂ : Command} {u : State} (h₁ : Steps ev m ⟨c₁, s⟩ ⟨.skip, u⟩)
    (h₂ : Steps ev n ⟨c₂, u⟩ b) : Steps ev (m + n + 1) ⟨.seq c₁ c₂, s⟩ b :=
  (h₁.seq c₂).trans (.head (Command.successors_skip_seq c₂ u) h₂)

/-- A run of a sequence to `skip` is a run of each part to `skip`, and the step between them. -/
theorem of_seq {c₁ c₂ : Command} (h : Steps ev n ⟨.seq c₁ c₂, s⟩ ⟨.skip, t⟩) :
    ∃ n₁ n₂ u, n = n₁ + n₂ + 1 ∧ Steps ev n₁ ⟨c₁, s⟩ ⟨.skip, u⟩ ∧
      Steps ev n₂ ⟨c₂, u⟩ ⟨.skip, t⟩ := by
  induction n generalizing c₁ s with
  | zero => cases h.eq_of_zero
  | succ n ih =>
    cases h with
    | head first rest =>
      by_cases h₁ : c₁ = .skip
      · subst h₁
        obtain rfl := (List.cons.inj first).1
        exact ⟨0, n, s, by omega, .refl _, rest⟩
      · obtain ⟨next, hnext⟩ : ∃ next, c₁.successors ev s = [next] :=
          Command.exists_successors_eq h₁ s
        rw [Command.successors_seq hnext] at first
        obtain rfl := (List.cons.inj first).1
        obtain ⟨n₁, n₂, u, rfl, hn₁, hn₂⟩ := ih rest
        exact ⟨n₁ + 1, n₂, u, by omega, .head hnext hn₁, hn₂⟩

end Steps

/-! ## From derivations to runs -/

/-- **The run of a derivation.** -/
theorem Derivation.Proof.steps {d : Derivation} (h : Proof ev d) :
    Steps ev d.stepCount ⟨d.command, d.pre⟩ ⟨.skip, d.post⟩ := by
  induction h with
  | skip s =>
    rw [stepCount_mk]
    exact .refl _
  | assign x e s =>
    rw [stepCount_mk]
    exact .single rfl
  | @seq d₁ d₂ h₁ h₂ hs ih₁ ih₂ =>
    rw [hs] at ih₂
    have h := ih₁.seq_trans ih₂
    simpa [Rule.stepCost] using h
  | @branchTrue d b c₂ h hb ih =>
    have first : (Command.branch b d.command c₂).successors ev d.pre = [⟨d.command, d.pre⟩] := by
      rw [Command.successors_branch, if_pos hb]
    simpa [Rule.stepCost] using ih.head first
  | @branchFalse d b c₁ h hb ih =>
    have first : (Command.branch b c₁ d.command).successors ev d.pre = [⟨d.command, d.pre⟩] := by
      rw [Command.successors_branch, if_neg (ne_true_of_eq_false hb)]
    simpa [Rule.stepCost] using ih.head first
  | @loopFalse b c s hb =>
    have first : (Command.loop b c).successors ev s = [⟨.skip, s⟩] := by
      rw [Command.successors_loop, if_neg (ne_true_of_eq_false hb)]
    simpa [Rule.stepCost] using Steps.single first
  | @loopTrue d₁ d₂ b h₁ h₂ hb hc hs ih₁ ih₂ =>
    have first : (Command.loop b d₁.command).successors ev d₁.pre =
        [⟨.seq d₁.command (.loop b d₁.command), d₁.pre⟩] := by
      rw [Command.successors_loop, if_pos hb]
    rw [hs, hc] at ih₂
    have h : Steps ev _ ⟨.loop b d₁.command, d₁.pre⟩ ⟨.skip, d₂.post⟩ :=
      .head first (ih₁.seq_trans ih₂)
    simpa [Rule.stepCost] using h

/-! ## From runs to derivations -/

/-- The derivation of a run. -/
theorem Steps.exists_proof {n : Nat} {c : Command} {s t : State}
    (h : Steps ev n ⟨c, s⟩ ⟨.skip, t⟩) :
    ∃ d, Proof ev d ∧ d.command = c ∧ d.pre = s ∧ d.post = t := by
  induction n using Nat.strongRecOn generalizing c s t with
  | ind n ih =>
    cases c with
    | skip =>
      obtain ⟨-, h⟩ := h.of_skip
      cases h
      exact ⟨_, .skip s, rfl, rfl, rfl⟩
    | assign x e =>
      cases h with
      | head first rest =>
        obtain rfl := (List.cons.inj first).1
        obtain ⟨-, h⟩ := rest.of_skip
        cases h
        exact ⟨_, .assign x e s, rfl, rfl, rfl⟩
    | seq c₁ c₂ =>
      obtain ⟨n₁, n₂, u, rfl, h₁, h₂⟩ := h.of_seq
      obtain ⟨d₁, p₁, rfl, rfl, rfl⟩ := ih n₁ (by omega) h₁
      obtain ⟨d₂, p₂, rfl, hs, rfl⟩ := ih n₂ (by omega) h₂
      exact ⟨_, p₁.seq p₂ hs, rfl, rfl, rfl⟩
    | branch b c₁ c₂ =>
      cases h with
      | @head n _ _ _ first rest =>
        rw [Command.successors_branch] at first
        obtain rfl := (List.cons.inj first).1
        obtain ⟨d, p, hc, rfl, rfl⟩ := ih n (by omega) rest
        cases hb : ev.bexp d.pre b with
        | true =>
          obtain rfl : d.command = c₁ := by rw [hc, if_pos hb]
          exact ⟨_, p.branchTrue c₂ hb, rfl, rfl, rfl⟩
        | false =>
          obtain rfl : d.command = c₂ := by rw [hc, if_neg (ne_true_of_eq_false hb)]
          exact ⟨_, p.branchFalse c₁ hb, rfl, rfl, rfl⟩
    | loop b c =>
      cases h with
      | @head n _ _ _ first rest =>
        rw [Command.successors_loop] at first
        obtain rfl := (List.cons.inj first).1
        cases hb : ev.bexp s b with
        | true =>
          rw [if_pos hb] at rest
          obtain ⟨n₁, n₂, u, rfl, h₁, h₂⟩ := rest.of_seq
          obtain ⟨d₁, p₁, rfl, rfl, rfl⟩ := ih n₁ (by omega) h₁
          obtain ⟨d₂, p₂, hc, hs, rfl⟩ := ih n₂ (by omega) h₂
          exact ⟨_, p₁.loopTrue p₂ hb hc hs, rfl, rfl, rfl⟩
        | false =>
          rw [if_neg (ne_true_of_eq_false hb)] at rest
          obtain ⟨-, h⟩ := rest.of_skip
          cases h
          exact ⟨_, .loopFalse c hb, rfl, rfl, rfl⟩

/-- **Small steps are derivations.** A run ends in `skip` after `n` steps if and only if it is the
run of a valid derivation with `n` for its number of steps. -/
theorem steps_skip_iff {n : Nat} {c : Command} {s t : State} :
    Steps ev n ⟨c, s⟩ ⟨.skip, t⟩ ↔
      ∃ d, Proof ev d ∧ d.command = c ∧ d.pre = s ∧ d.post = t ∧ d.stepCount = n := by
  constructor
  · intro h
    obtain ⟨d, p, rfl, rfl, rfl⟩ := h.exists_proof
    exact ⟨d, p, rfl, rfl, rfl, (p.steps.skip_unique h).1⟩
  · rintro ⟨d, p, rfl, rfl, rfl, rfl⟩
    exact p.steps

/-! ## Traces of derived commands -/

namespace Trace.Follows

variable {c : Command} {s : State} {limit : Nat} {tr : Trace}

/-- A trace that has ended is the run of a derivation. -/
theorem exists_proof (h : tr.Follows ev ⟨c, s⟩ limit) (ht : tr.terminated = true) :
    ∃ d, Proof ev d ∧ d.command = c ∧ d.pre = s ∧ d.post = tr.final.state ∧
      d.stepCount = tr.steps := by
  have hrun := h.run
  rw [h.final_eq ht] at hrun
  exact steps_skip_iff.1 hrun

end Trace.Follows

/-- **The steps that a derivation takes.** The trace of a derived command ends if its limit allows
for the steps of the derivation, and then takes just those, to its final state. -/
theorem Derivation.Proof.exists_trace_eq {d : Derivation} (h : Proof ev d) (record : Bool)
    (limit : Nat) :
    ∃ tr, (Stepper.standard ev).trace record ⟨d.command, d.pre⟩ limit = .ok tr ∧
      (tr.terminated = true ↔ d.stepCount ≤ limit) ∧
      (tr.terminated = true → tr.steps = d.stepCount ∧ tr.final.state = d.post) := by
  obtain ⟨tr, htr, hf⟩ := Stepper.exists_trace_eq ev record ⟨d.command, d.pre⟩ limit
  exact ⟨tr, htr, hf.terminated_iff_le h.steps, hf.eq_of_terminated h.steps⟩

end WhileLang

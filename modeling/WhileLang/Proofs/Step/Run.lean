import WhileLang.Step

/-!
# Runs of small steps

A command that is not `skip` has exactly one next step (`exists_successors_eq`), so what a
configuration reaches in a given number of steps is determined. `Steps ev n a b` says that `n`
steps lead from `a` to `b`. Of two runs from one configuration the shorter is a part of the longer,
and a run that ends in `skip` is the longest (`Steps.prefix_of_skip`).

`Stepper.trace` follows the steps up to a limit. It never fails and stops before the limit only at
`skip` (`Stepper.exists_trace_eq`), so it ends if and only if the limit is at least the length of
the run to `skip` (`Trace.Follows.terminated_iff_le`).
-/

namespace WhileLang

variable {ev : Evaluator}

/-! ## The next step -/

namespace Command

@[simp] theorem successors_skip (s : State) : skip.successors ev s = [] := rfl

theorem successors_skip_seq (c₂ : Command) (s : State) :
    (seq skip c₂).successors ev s = [⟨c₂, s⟩] := rfl

theorem successors_seq {c₁ : Command} {s : State} {next : Configuration}
    (h : c₁.successors ev s = [next]) (c₂ : Command) :
    (seq c₁ c₂).successors ev s = [⟨seq next.command c₂, next.state⟩] := by
  have hne : ¬ c₁.isSkip = true := by
    rw [isSkip_iff]
    rintro rfl
    cases h
  rw [successors, h, if_neg hne]
  rfl

theorem successors_branch (b : BExp) (c₁ c₂ : Command) (s : State) :
    (branch b c₁ c₂).successors ev s = [⟨if ev.bexp s b then c₁ else c₂, s⟩] := by
  rw [successors]
  split <;> rfl

theorem successors_loop (b : BExp) (c : Command) (s : State) :
    (loop b c).successors ev s = [⟨if ev.bexp s b then seq c (loop b c) else skip, s⟩] := by
  rw [successors]
  split <;> rfl

/-- **Progress and determinism.** A command that is not `skip` has exactly one next step. -/
theorem exists_successors_eq {c : Command} (h : c ≠ skip) (s : State) :
    ∃ next, c.successors ev s = [next] := by
  induction c with
  | skip => exact absurd rfl h
  | assign x e => exact ⟨_, rfl⟩
  | seq c₁ c₂ ih _ =>
    by_cases h₁ : c₁ = skip
    · subst h₁
      exact ⟨_, successors_skip_seq c₂ s⟩
    · obtain ⟨next, hnext⟩ := ih h₁
      exact ⟨_, successors_seq hnext c₂⟩
  | branch b c₁ c₂ => exact ⟨_, successors_branch b c₁ c₂ s⟩
  | loop b c => exact ⟨_, successors_loop b c s⟩

end Command

/-! ## Runs -/

/-- `n` small steps lead from one configuration to the other. -/
inductive Steps (ev : Evaluator) : (n : Nat) → Configuration → Configuration → Prop
  | refl (a : Configuration) : Steps ev 0 a a
  | head {n : Nat} {a b c : Configuration} (first : a.command.successors ev a.state = [b])
      (rest : Steps ev n b c) : Steps ev (n + 1) a c

namespace Steps

variable {m n : Nat} {a b c : Configuration} {s t u : State}

theorem single (h : a.command.successors ev a.state = [b]) : Steps ev 1 a b := .head h (.refl b)

theorem eq_of_zero (h : Steps ev 0 a b) : a = b := by
  cases h
  rfl

theorem trans (h₁ : Steps ev m a b) (h₂ : Steps ev n b c) : Steps ev (m + n) a c := by
  induction h₁ with
  | refl a => rwa [Nat.zero_add]
  | head first _ ih =>
    rw [Nat.add_right_comm]
    exact .head first (ih h₂)

/-- Nothing follows `skip`. -/
theorem of_skip (h : Steps ev n ⟨.skip, s⟩ b) : n = 0 ∧ b = ⟨.skip, s⟩ := by
  cases h with
  | refl => exact ⟨rfl, rfl⟩
  | head first _ => cases first

/-- A run to `skip` goes through every configuration that is reached at all. -/
theorem prefix_of_skip (h₁ : Steps ev m a b) (h₂ : Steps ev n a ⟨.skip, t⟩) :
    ∃ k, n = m + k ∧ Steps ev k b ⟨.skip, t⟩ := by
  induction h₁ generalizing n with
  | refl a => exact ⟨n, (Nat.zero_add n).symm, h₂⟩
  | head first _ ih =>
    cases h₂ with
    | refl => cases first
    | head first' rest' =>
      obtain rfl : _ = _ := (List.cons.inj (first.symm.trans first')).1
      obtain ⟨k, rfl, hk⟩ := ih rest'
      exact ⟨k, by omega, hk⟩

/-- The length and the end of a run to `skip` are determined. -/
theorem skip_unique (h₁ : Steps ev m a ⟨.skip, s⟩) (h₂ : Steps ev n a ⟨.skip, t⟩) :
    m = n ∧ s = t := by
  obtain ⟨k, rfl, hk⟩ := h₁.prefix_of_skip h₂
  obtain ⟨rfl, hst⟩ := of_skip hk
  cases hst
  exact ⟨rfl, rfl⟩

end Steps

/-! ## Traces -/

/-- A walk follows the steps, and stops early only at `skip`. -/
theorem Stepper.exists_walk_eq (ev : Evaluator) (record : Bool) (limit : Nat) (w : Walk) :
    ∃ n w', (standard ev).walk record limit w = .ok w' ∧ Steps ev n w.current w'.current ∧
      w'.steps = w.steps + n ∧ n ≤ limit ∧ (n < limit → w'.current.command = .skip) := by
  induction limit generalizing w with
  | zero => exact ⟨0, w, rfl, .refl _, rfl, Nat.le_refl 0, fun h => absurd h (Nat.lt_irrefl 0)⟩
  | succ limit ih =>
    by_cases hskip : w.current.command = .skip
    · have hstep : (standard ev).step w.current = .ok none := by
        simp [step, standard, hskip]
      refine ⟨0, w, ?_, .refl _, rfl, Nat.zero_le _, fun _ => hskip⟩
      simp [walk, hstep, hskip]
    · obtain ⟨next, hnext⟩ : ∃ next, w.current.command.successors ev w.current.state = [next] :=
        Command.exists_successors_eq hskip _
      have hstep : (standard ev).step w.current = .ok (some next) := by
        simp [step, standard, hnext]
      obtain ⟨n, w', hw', hrun, hsteps, hle, hend⟩ := ih (w.advance record next)
      refine ⟨n + 1, w', ?_, .head hnext hrun, ?_, by omega, fun h => hend (by omega)⟩
      · simpa [walk, hstep] using hw'
      · rw [hsteps]
        show w.steps + 1 + n = w.steps + (n + 1)
        omega

theorem Stepper.trace_natCast (st : Stepper) (record : Bool) (a : Configuration) (limit : Nat) :
    st.trace record a limit =
      (st.walk record limit ⟨a, 0, if record then [a] else []⟩).map Walk.toTrace := by
  rw [trace, if_neg (Int.not_lt.2 (Int.natCast_nonneg limit)), Int.toNat_natCast]

/-- What a trace from `a` of at most `limit` steps says about the steps of the language. -/
structure Trace.Follows (ev : Evaluator) (a : Configuration) (limit : Nat) (tr : Trace) :
    Prop where
  run : Steps ev tr.steps a tr.final
  steps_le : tr.steps ≤ limit
  skip_of_lt : tr.steps < limit → tr.final.command = .skip
  terminated_iff : tr.terminated = true ↔ tr.final.command = .skip

/-- **Tracing succeeds.** A trace is found under every limit. -/
theorem Stepper.exists_trace_eq (ev : Evaluator) (record : Bool) (a : Configuration)
    (limit : Nat) : ∃ tr, (standard ev).trace record a limit = .ok tr ∧ tr.Follows ev a limit := by
  obtain ⟨n, w, hw, hrun, hsteps, hle, hend⟩ :=
    exists_walk_eq ev record limit ⟨a, 0, if record then [a] else []⟩
  obtain rfl : w.steps = n := by rw [hsteps, Nat.zero_add]
  refine ⟨w.toTrace, ?_, hrun, hle, hend, Command.isSkip_iff⟩
  rw [trace_natCast, hw]
  rfl

/-- Only a negative limit is refused. -/
theorem Stepper.nonneg_of_trace_eq {st : Stepper} {record : Bool} {a : Configuration}
    {limit : Int} {tr : Trace} (h : st.trace record a limit = .ok tr) : 0 ≤ limit := by
  by_cases hneg : limit < 0
  · rw [trace, if_pos hneg] at h
    cases h
  · exact Int.not_lt.1 hneg

theorem Stepper.follows_of_trace_eq {record : Bool} {a : Configuration} {limit : Int} {tr : Trace}
    (h : (standard ev).trace record a limit = .ok tr) : tr.Follows ev a limit.toNat := by
  obtain ⟨tr', htr', hf⟩ := exists_trace_eq ev record a limit.toNat
  rw [Int.toNat_of_nonneg (nonneg_of_trace_eq h)] at htr'
  rwa [Except.ok.inj (h.symm.trans htr')]

namespace Trace.Follows

variable {a : Configuration} {limit n : Nat} {tr : Trace} {t : State}

theorem final_eq (h : tr.Follows ev a limit) (ht : tr.terminated = true) :
    tr.final = ⟨.skip, tr.final.state⟩ := by
  rw [← h.terminated_iff.1 ht]

/-- A trace that has ended has made the run to `skip`. -/
theorem eq_of_terminated (h : tr.Follows ev a limit) (hn : Steps ev n a ⟨.skip, t⟩)
    (ht : tr.terminated = true) : tr.steps = n ∧ tr.final.state = t := by
  have hrun := h.run
  rw [h.final_eq ht] at hrun
  exact hrun.skip_unique hn

/-- A trace ends if and only if its limit allows for the whole run. -/
theorem terminated_iff_le (h : tr.Follows ev a limit) (hn : Steps ev n a ⟨.skip, t⟩) :
    tr.terminated = true ↔ n ≤ limit := by
  constructor
  · intro ht
    rw [← (h.eq_of_terminated hn ht).1]
    exact h.steps_le
  · intro hle
    rw [h.terminated_iff]
    obtain ⟨k, rfl, hk⟩ := h.run.prefix_of_skip hn
    by_cases hk0 : k = 0
    · subst hk0
      rw [hk.eq_of_zero]
    · exact h.skip_of_lt (by omega)

end Trace.Follows

end WhileLang

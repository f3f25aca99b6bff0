import WhileLang.Agreement
import WhileLang.Proofs.Costs

/-!
# Comparisons of the semantics

`Engines.compare` runs a program under four limits that count different things: small steps, a
budget, the ceiling of the denotation and the bound on the search for the least budget. Each limit
may cut the run off on its own, so outcomes may differ, but every final state among them is a
result of the interpreter on some budget, and there is only one such state
(`Command.interp_unique`). What is left to report is that some semantics ended and some did not
(`Engines.exists_consistent`).
-/

namespace WhileLang

variable {ev : Evaluator}

/-! ## Outcomes and what is reported about them -/

namespace Outcomes

variable {o : Outcomes}

/-- Every semantics has ended. -/
def AllEnded (o : Outcomes) : Prop := ∀ p ∈ o.toList, p.2.state?.isSome = true

/-- No semantics has ended. -/
def NoneEnded (o : Outcomes) : Prop := ∀ p ∈ o.toList, p.2.state? = none

theorem mem_terminated_iff {name : Semantics} {t : State} :
    (name, t) ∈ o.terminated ↔ (name, .terminated t) ∈ o.toList := by
  rw [terminated, List.mem_filterMap]
  constructor
  · rintro ⟨⟨name', outcome⟩, hmem, hstate⟩
    obtain ⟨s, hs, heq⟩ := Option.map_eq_some_iff.1 hstate
    cases heq
    rwa [← Outcome.state?_eq_some_iff.1 hs]
  · intro h
    exact ⟨_, h, rfl⟩

theorem terminated_eq_nil_iff : o.terminated = [] ↔ o.NoneEnded := by
  simp [terminated, NoneEnded, List.filterMap_eq_nil_iff]

theorem undetermined_eq_nil_iff : o.undetermined = [] ↔ o.AllEnded := by
  simp [undetermined, AllEnded, List.filterMap_eq_nil_iff, Option.isSome_iff_ne_none]

/-- No mismatch is reported if and only if all final states are the same. -/
theorem stateMismatches_eq_nil_iff :
    o.stateMismatches = [] ↔ ∀ p ∈ o.terminated, ∀ q ∈ o.terminated, p.2 = q.2 := by
  rw [stateMismatches]
  cases o.terminated with
  | nil => simp
  | cons first rest =>
    rw [List.filterMap_eq_nil_iff]
    constructor
    · intro h
      have hfirst : ∀ p ∈ first :: rest, p.2 = first.2 := by
        intro p hp
        cases hp with
        | head => rfl
        | tail _ hp => simpa using h p hp
      intro p hp q hq
      rw [hfirst p hp, hfirst q hq]
    · intro h p hp
      exact if_pos (h p (.tail _ hp) first (.head _))

/-- No other issue comes from the limits. -/
theorem eq_of_mem_budgetMismatches {i : Issue} (h : i ∈ o.budgetMismatches) :
    i = .budgetMismatch o.undetermined (o.terminated.map Prod.fst) := by
  rw [budgetMismatches] at h
  split at h
  · cases h
  · exact List.mem_singleton.1 h

theorem budgetMismatches_eq_nil (h : o.AllEnded ∨ o.NoneEnded) : o.budgetMismatches = [] := by
  rw [← undetermined_eq_nil_iff, ← terminated_eq_nil_iff] at h
  rw [budgetMismatches, if_pos]
  rcases h with h | h <;> simp [h]

theorem budgetMismatches_eq_singleton (h : ¬ (o.AllEnded ∨ o.NoneEnded)) :
    o.budgetMismatches = [.budgetMismatch o.undetermined (o.terminated.map Prod.fst)] := by
  rw [← undetermined_eq_nil_iff, ← terminated_eq_nil_iff, not_or] at h
  rw [budgetMismatches, if_neg]
  simp [h.1, h.2]

end Outcomes

/-! ## Comparisons of the language's own semantics -/

namespace Outcomes

/-- The outcomes of a program whose small steps have left the trace `tr`. -/
def ofTrace (ev : Evaluator) (ceiling budget maxSteps : Nat) (c : Command) (s : State)
    (tr : Trace) : Outcomes where
  smallStep := tr.outcome maxSteps
  bigStep := .ofResult budget (c.interp ev budget s)
  interpreter := .ofResult budget (c.interp ev budget s)
  denoted := .ofResult ceiling (c.interp ev ceiling s)

variable {ceiling budget maxSteps : Nat} {c : Command} {s : State} {tr : Trace}

/-- Every final state is a result of the interpreter. -/
theorem exists_interp_eq (hf : tr.Follows ev ⟨c, s⟩ maxSteps) {p : Semantics × State}
    (hp : p ∈ (ofTrace ev ceiling budget maxSteps c s tr).terminated) :
    ∃ k, c.interp ev k s = some p.2 := by
  obtain ⟨name, t⟩ := p
  rw [mem_terminated_iff] at hp
  simp only [toList, ofTrace, List.mem_cons, List.not_mem_nil, or_false, Prod.mk.injEq] at hp
  rcases hp with ⟨-, h⟩ | ⟨-, h⟩ | ⟨-, h⟩ | ⟨-, h⟩
  · obtain ⟨ht, rfl⟩ := Trace.outcome_eq_terminated_iff.1 h.symm
    exact ⟨_, hf.interp_eq ht⟩
  all_goals exact ⟨_, Outcome.ofResult_eq_terminated_iff.1 h.symm⟩

/-- The semantics of the language never end in different states. -/
theorem stateMismatches_ofTrace (ceiling budget : Nat) (hf : tr.Follows ev ⟨c, s⟩ maxSteps) :
    (ofTrace ev ceiling budget maxSteps c s tr).stateMismatches = [] := by
  refine stateMismatches_eq_nil_iff.2 fun p hp q hq => ?_
  obtain ⟨j, hj⟩ := exists_interp_eq hf hp
  obtain ⟨k, hk⟩ := exists_interp_eq hf hq
  exact Command.interp_unique hj hk

/-- Limits above the number of steps let every semantics end. -/
theorem ofTrace_eq_terminated (hf : tr.Follows ev ⟨c, s⟩ maxSteps) {t : State}
    (ht : tr.outcome maxSteps = .terminated t) (hb : tr.steps < budget) (hB : tr.steps < ceiling) :
    ∀ p ∈ (ofTrace ev ceiling budget maxSteps c s tr).toList, p.2 = .terminated t := by
  obtain ⟨hend, hfinal⟩ := Trace.outcome_eq_terminated_iff.1 ht
  have hinterp : c.interp ev (tr.steps + 1) s = some t := by
    rw [hf.interp_eq hend, hfinal]
  intro p hp
  simp only [toList, ofTrace, ht, Command.interp_mono hb hinterp, Command.interp_mono hB hinterp,
    Outcome.ofResult, List.mem_cons, List.not_mem_nil, or_false] at hp
  rcases hp with rfl | rfl | rfl | rfl <;> rfl

end Outcomes

/-- What a report promises that was made under a ceiling and a budget: its only issue is that
limits were reached. -/
structure Report.Consistent (r : Report) (ceiling budget : Nat) : Prop where
  agree : r.agree = true
  code_ne (i : Issue) (hi : i ∈ r.issues) :
    i.code ≠ "STATE_MISMATCH" ∧ i.code ≠ "INVALID_DERIVATION"
  bigStep_eq : r.outcomes.bigStep = r.outcomes.interpreter
  issues_eq_nil (h : r.outcomes.AllEnded ∨ r.outcomes.NoneEnded) : r.issues = []
  issues_eq_singleton (h : ¬ (r.outcomes.AllEnded ∨ r.outcomes.NoneEnded)) :
    r.issues = [.budgetMismatch r.outcomes.undetermined (r.outcomes.terminated.map Prod.fst)]
  leastBudget_isSome : r.leastBudget.isSome = true ↔ r.outcomes.denoted.state?.isSome = true
  leastBudget_le (m : Nat) (hm : r.leastBudget = some m) :
    r.outcomes.interpreter.state?.isSome = true ↔ m ≤ budget
  all_terminated (t : State) (ht : r.outcomes.smallStep = .terminated t) (hb : r.steps < budget)
    (hB : r.steps < ceiling) : r.issues = [] ∧ ∀ p ∈ r.outcomes.toList, p.2 = .terminated t

namespace Engines

theorem derivationIssues_derive (ev : Evaluator) (ceiling : Int) (k : Nat) (s : State)
    (c : Command) : (standard ev ceiling).derivationIssues (c.derive ev k s) = [] := by
  cases h : c.derive ev k s with
  | none => rfl
  | some d =>
    have hd : (standard ev ceiling).faults d = [] :=
      Derivation.faults_eq_nil_iff.2 (Command.derives_of_derive h).proof
    simp [derivationIssues, hd]

/-- What a comparison of the language's own semantics consists of. -/
theorem exists_compare_eq (ev : Evaluator) (ceiling budget maxSteps : Nat) (c : Command)
    (s : State) :
    ∃ tr least, tr.Follows ev ⟨c, s⟩ maxSteps ∧ IsLeastBudget ev s c ceiling least ∧
      (standard ev ceiling).compare c s budget maxSteps =
        .ok ⟨s, .ofTrace ev ceiling budget maxSteps c s tr, tr.steps, least,
          (Outcomes.ofTrace ev ceiling budget maxSteps c s tr).budgetMismatches⟩ := by
  obtain ⟨tr, htr, hf⟩ := Stepper.exists_trace_eq ev false ⟨c, s⟩ maxSteps
  obtain ⟨least, hleast, hspec⟩ := Denotation.exists_leastBudget_eq ev ceiling s c ceiling
  have hderive : (standard ev ceiling).derive budget s c = .ok (c.derive ev budget s) :=
    Derivation.build_natCast ev budget s c
  have hrun : (standard ev ceiling).run c s budget =
      .ok (.ofResult budget (c.interp ev budget s)) :=
    Interpreter.run_standard_natCast ev c s budget
  have hdenote : (standard ev ceiling).denote s c =
      .ok (.ofResult ceiling (c.interp ev ceiling s)) :=
    Interpreter.run_standard_natCast ev c s ceiling
  refine ⟨tr, least, hf, hspec, ?_⟩
  simp only [compare, bind_eq_ok_iff]
  refine ⟨tr, htr, _, hderive, _, hrun, _, hdenote, least, hleast, ?_⟩
  rw [← Command.interp_eq_map_derive, derivationIssues_derive]
  have hmismatch := Outcomes.stateMismatches_ofTrace ceiling budget hf
  rw [Outcomes.ofTrace] at hmismatch ⊢
  rw [hmismatch]
  rfl

/-- **Comparisons are sound.** A comparison of the language's own semantics ends with a consistent
report, whatever the limits. -/
theorem exists_consistent (ev : Evaluator) (ceiling budget maxSteps : Nat) (c : Command)
    (s : State) :
    ∃ r, (standard ev ceiling).compare c s budget maxSteps = .ok r ∧
      r.Consistent ceiling budget := by
  obtain ⟨tr, least, hf, hleast, hcompare⟩ := exists_compare_eq ev ceiling budget maxSteps c s
  refine ⟨_, hcompare, ?_⟩
  constructor
  case agree =>
    refine List.all_eq_true.2 fun i hi => ?_
    rw [Outcomes.eq_of_mem_budgetMismatches hi]
    rfl
  case code_ne =>
    intro i hi
    rw [Outcomes.eq_of_mem_budgetMismatches hi]
    simp [Issue.code]
  case bigStep_eq => rfl
  case issues_eq_nil => exact Outcomes.budgetMismatches_eq_nil
  case issues_eq_singleton => exact Outcomes.budgetMismatches_eq_singleton
  case leastBudget_isSome =>
    rw [hleast.isSome_iff]
    show _ ↔ (Outcome.ofResult ceiling (c.interp ev ceiling s)).state?.isSome = true
    rw [Outcome.state?_ofResult]
  case leastBudget_le =>
    intro m hm
    show (Outcome.ofResult budget (c.interp ev budget s)).state?.isSome = true ↔ m ≤ budget
    rw [Outcome.state?_ofResult]
    exact hleast.interp_isSome_iff m hm budget
  case all_terminated =>
    intro t ht hb hB
    have hall := Outcomes.ofTrace_eq_terminated hf ht hb hB
    refine ⟨Outcomes.budgetMismatches_eq_nil (.inl fun p hp => ?_), hall⟩
    rw [hall p hp]
    rfl

/-- No limit of a comparison that succeeds is negative, so its report is consistent. -/
theorem agree_of_compare_eq {ceiling budget maxSteps : Int} {c : Command} {s : State} {r : Report}
    (h : (standard ev ceiling).compare c s budget maxSteps = .ok r) : r.agree = true := by
  have hstages := h
  simp only [compare, bind_eq_ok_iff] at hstages
  obtain ⟨tr, htr, d, hd, -, -, o, ho, -⟩ := hstages
  obtain ⟨n, rfl⟩ := Int.eq_ofNat_of_zero_le (Stepper.nonneg_of_trace_eq htr)
  obtain ⟨k, rfl, -⟩ := Derivation.build_eq_ok_iff.1 hd
  obtain ⟨_, hceiling, -⟩ := map_eq_ok_iff.1 ho
  obtain ⟨B, rfl, -⟩ := Interpreter.standard_eq_ok_iff.1 hceiling
  obtain ⟨r', hr', hcons⟩ := exists_consistent ev B k n c s
  obtain rfl : r' = r := Except.ok.inj (hr'.symm.trans h)
  exact hcons.agree

end Engines

end WhileLang

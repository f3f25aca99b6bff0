import WhileLang.Tampering
import WhileLang.Proofs.Comparison

/-!
# What a comparison detects

`Engines.compare` trusts none of its engines. Whatever they return, its report is exact
(`Engines.Returns.exact`): it names the final states that differ from the first one, and no others,
although it only ever compares with the first.

With the engines of the language, of which one is broken, it depends on the budget alone whether
the fault shows: the derivation and the interpreter spend it in the same way, so each of them has
the other as a witness. The number of steps and the ceiling of the denotation do not matter.
-/

namespace WhileLang

variable {ev : Evaluator}

/-! ## Reports about arbitrary engines -/

/-- The issues of a report that have the given code. -/
def Report.coded (r : Report) (code : String) : List Issue := r.issues.filter fun i => i.code = code

theorem Report.agree_eq_false_iff {r : Report} :
    r.agree = false ↔ ∃ i ∈ r.issues, i.severity = .error := by
  simp [agree]

/-- What a report says about its outcomes and about the problems of the derivation that was built,
no more and no less. -/
structure Report.Exact (r : Report) (problems : List (List Nat × Fault)) : Prop where
  agree_iff : r.agree = false ↔
    problems ≠ [] ∨ ∃ p ∈ r.outcomes.terminated, ∃ q ∈ r.outcomes.terminated, p.2 ≠ q.2
  invalidDerivation : r.coded "INVALID_DERIVATION" =
    (problems.head?.map fun f => Issue.invalidDerivation problems.length f.2).toList
  stateMismatch (first : Semantics × State) (h : r.outcomes.terminated.head? = some first) :
    r.coded "STATE_MISMATCH" = (r.outcomes.terminated.filter fun p => p.2 ≠ first.2).map fun p =>
      .stateMismatch p.1 first.1
  stateMismatch_nil (h : r.outcomes.terminated = []) : r.coded "STATE_MISMATCH" = []
  budgetMismatch : r.coded "BUDGET_MISMATCH" ≠ [] ↔
    (∃ p ∈ r.outcomes.toList, p.2.state?.isSome = true) ∧
      ∃ p ∈ r.outcomes.toList, p.2.state? = none

namespace Outcomes

variable {o : Outcomes} {i : Issue}

theorem stateMismatches_eq {first : Semantics × State} (h : o.terminated.head? = some first) :
    o.stateMismatches = (o.terminated.filter fun p => p.2 ≠ first.2).map fun p =>
      .stateMismatch p.1 first.1 := by
  obtain ⟨rest, hrest⟩ := List.head?_eq_some_iff.1 h
  rw [stateMismatches, hrest, List.filter_cons_of_neg (by simp)]
  clear h hrest
  induction rest with
  | nil => rfl
  | cons p rest ih => by_cases hp : p.2 = first.2 <;> simp [hp, ih]

theorem stateMismatches_eq_nil (h : o.terminated = []) : o.stateMismatches = [] := by
  rw [stateMismatches, h]

theorem eq_of_mem_stateMismatches (h : i ∈ o.stateMismatches) :
    ∃ found reference, i = .stateMismatch found reference := by
  cases hfirst : o.terminated.head? with
  | none => simp [stateMismatches_eq_nil (List.head?_eq_none_iff.1 hfirst)] at h
  | some first =>
    rw [stateMismatches_eq hfirst] at h
    obtain ⟨p, -, rfl⟩ := List.mem_map.1 h
    exact ⟨_, _, rfl⟩

theorem budgetMismatches_ne_nil_iff : o.budgetMismatches ≠ [] ↔
    (∃ p ∈ o.toList, p.2.state?.isSome = true) ∧ ∃ p ∈ o.toList, p.2.state? = none := by
  have hsome : (∃ p ∈ o.toList, p.2.state?.isSome = true) ↔ ¬ o.NoneEnded := by
    simp [NoneEnded, Option.isSome_iff_ne_none]
  have hnone : (∃ p ∈ o.toList, p.2.state? = none) ↔ ¬ o.AllEnded := by
    simp [AllEnded]
  rw [hsome, hnone]
  constructor
  · intro h
    exact ⟨fun hn => h (budgetMismatches_eq_nil (.inr hn)),
      fun ha => h (budgetMismatches_eq_nil (.inl ha))⟩
  · rintro ⟨hn, ha⟩
    rw [budgetMismatches_eq_singleton (not_or.2 ⟨ha, hn⟩)]
    exact List.cons_ne_nil _ _

end Outcomes

namespace Engines

variable {en : Engines} {c : Command} {s : State} {budget maxSteps : Int}

/-- What the checker of some engines finds in a derivation, if there is one. -/
def problems (en : Engines) (d : Option Derivation) : List (List Nat × Fault) := d.elim [] en.faults

theorem derivationIssues_eq (en : Engines) (d : Option Derivation) :
    en.derivationIssues d = ((en.problems d).head?.map fun f =>
      Issue.invalidDerivation (en.problems d).length f.2).toList := by
  cases d with
  | none => rfl
  | some d => cases h : en.faults d <;> simp [derivationIssues, problems, h]

theorem eq_of_mem_derivationIssues {d : Option Derivation} {i : Issue}
    (h : i ∈ en.derivationIssues d) : ∃ count first, i = .invalidDerivation count first := by
  rw [derivationIssues_eq, Option.mem_toList, Option.map_eq_some_iff] at h
  obtain ⟨f, -, rfl⟩ := h
  exact ⟨_, _, rfl⟩

/-- The calls of a comparison all return normally, with these results. -/
structure Returns (en : Engines) (c : Command) (s : State) (budget maxSteps : Int) where
  trace : Trace
  derivation : Option Derivation
  interpreted : Outcome
  denoted : Outcome
  least : Option Nat
  trace_eq : en.trace ⟨c, s⟩ maxSteps = .ok trace
  derive_eq : en.derive budget s c = .ok derivation
  run_eq : en.run c s budget = .ok interpreted
  denote_eq : en.denote s c = .ok denoted
  leastBudget_eq : en.leastBudget s c = .ok least

namespace Returns

variable (x : en.Returns c s budget maxSteps)

def outcomes : Outcomes :=
  ⟨x.trace.outcome maxSteps, .ofResult budget (x.derivation.map (·.post)), x.interpreted, x.denoted⟩

def report : Report where
  initial := s
  outcomes := x.outcomes
  steps := x.trace.steps
  leastBudget := x.least
  issues := en.derivationIssues x.derivation ++ x.outcomes.stateMismatches ++
    x.outcomes.budgetMismatches

theorem compare_eq : en.compare c s budget maxSteps = .ok x.report := by
  simp only [compare, bind_eq_ok_iff]
  exact ⟨_, x.trace_eq, _, x.derive_eq, _, x.run_eq, _, x.denote_eq, _, x.leastBudget_eq, rfl⟩

@[simp] theorem outcomes_report : x.report.outcomes = x.outcomes := rfl

/-- Each part of the issues has its own code. -/
theorem coded_report (code : String) : x.report.coded code =
    (if code = "INVALID_DERIVATION" then en.derivationIssues x.derivation else []) ++
      (if code = "STATE_MISMATCH" then x.outcomes.stateMismatches else []) ++
      (if code = "BUDGET_MISMATCH" then x.outcomes.budgetMismatches else []) := by
  have hfilter {is : List Issue} {code' : String} (h : ∀ i ∈ is, i.code = code') :
      (is.filter fun i => i.code = code) = if code = code' then is else [] := by
    split
    · exact List.filter_eq_self.2 fun i hi => by simp_all
    · rename_i hne
      exact List.filter_eq_nil_iff.2 fun i hi => by simp [h i hi, Ne.symm hne]
  rw [Report.coded, report, List.filter_append, List.filter_append]
  congr 1
  congr 1
  · refine hfilter fun i hi => ?_
    obtain ⟨_, _, rfl⟩ := eq_of_mem_derivationIssues hi
    rfl
  · refine hfilter fun i hi => ?_
    obtain ⟨_, _, rfl⟩ := Outcomes.eq_of_mem_stateMismatches hi
    rfl
  · refine hfilter fun i hi => ?_
    rw [Outcomes.eq_of_mem_budgetMismatches hi]
    rfl

/-- Mismatching limits alone are no disagreement. -/
theorem agree_report_eq_false_iff : x.report.agree = false ↔
    en.derivationIssues x.derivation ≠ [] ∨ x.outcomes.stateMismatches ≠ [] := by
  rw [Report.agree_eq_false_iff]
  constructor
  · rintro ⟨i, hi, herror⟩
    rw [report, List.mem_append, List.mem_append] at hi
    rcases hi with (hi | hi) | hi
    · exact .inl (List.ne_nil_of_mem hi)
    · exact .inr (List.ne_nil_of_mem hi)
    · rw [Outcomes.eq_of_mem_budgetMismatches hi] at herror
      cases herror
  · rintro (h | h)
    all_goals obtain ⟨i, hi⟩ := List.exists_mem_of_ne_nil _ h
    all_goals refine ⟨i, by simp [report, hi], ?_⟩
    · obtain ⟨_, _, rfl⟩ := eq_of_mem_derivationIssues hi
      rfl
    · obtain ⟨_, _, rfl⟩ := Outcomes.eq_of_mem_stateMismatches hi
      rfl

/-- **Reports are exact.** -/
theorem exact : x.report.Exact (en.problems x.derivation) := by
  constructor
  case agree_iff =>
    have hinvalid : en.derivationIssues x.derivation = [] ↔ en.problems x.derivation = [] := by
      simp [derivationIssues_eq]
    have hmismatch : x.outcomes.stateMismatches = [] ↔
        ¬ ∃ p ∈ x.outcomes.terminated, ∃ q ∈ x.outcomes.terminated, p.2 ≠ q.2 := by
      simp [Outcomes.stateMismatches_eq_nil_iff]
    rw [agree_report_eq_false_iff, ne_eq, hinvalid, ne_eq, hmismatch, Decidable.not_not,
      outcomes_report]
  case invalidDerivation => simp [coded_report, derivationIssues_eq]
  case stateMismatch =>
    intro first h
    simpa [coded_report] using Outcomes.stateMismatches_eq h
  case stateMismatch_nil =>
    intro h
    simpa [coded_report] using Outcomes.stateMismatches_eq_nil h
  case budgetMismatch => simpa [coded_report] using Outcomes.budgetMismatches_ne_nil_iff

end Returns

end Engines

/-! ## One fault among the engines of the language -/

/-- Another final state at the root of a proof tree is a fault, whatever the rule, and the only
one. -/
theorem Derivation.Proof.faults_of_post_ne {d : Derivation} (h : Proof ev d) {t : State}
    (ht : t ≠ d.post) :
    { d with post := t }.faults ev = [([], .conclusionState d.rule)] := by
  obtain ⟨hroot, hpremises⟩ := proof_iff.1 h
  have hfaults : { d with post := t }.rootFaults ev = [.conclusionState d.rule] := by
    cases hroot <;> simp_all [rootFaults, faultUnless, linkFaults]
  rw [faults, faultsFrom, hfaults, (premiseFaultsFrom_eq_nil_iff [] 0 d.premises).2 hpremises]
  rfl

/-- A changed result of the interpreter is the one final state that differs from the first. -/
theorem Outcomes.stateMismatches_eq_interpreter {o : Outcomes} {t u : State} (hne : u ≠ t)
    (hsmall : ∀ v, o.smallStep = .terminated v → v = t) (hbig : o.bigStep = .terminated t)
    (hrun : o.interpreter = .terminated u) (hdenoted : ∀ v, o.denoted = .terminated v → v = t) :
    ∃ reference, o.stateMismatches = [.stateMismatch .interpreter reference] := by
  obtain ⟨small, big, run, denoted⟩ := o
  cases hbig
  cases hrun
  cases small with
  | terminated v =>
    obtain rfl := hsmall v rfl
    cases denoted with
    | terminated w =>
      simp [stateMismatches, terminated, toList, Outcome.state?, hne, hdenoted w rfl]
    | undetermined _ => simp [stateMismatches, terminated, toList, Outcome.state?, hne]
  | undetermined _ =>
    cases denoted with
    | terminated w =>
      simp [stateMismatches, terminated, toList, Outcome.state?, hne, hdenoted w rfl]
    | undetermined _ => simp [stateMismatches, terminated, toList, Outcome.state?, hne]

/-- So it is among the outcomes of the language. -/
theorem Outcomes.stateMismatches_ofTrace_altered (ceiling : Nat) {budget maxSteps : Nat}
    {c : Command} {s t u : State} {tr : Trace} (hf : tr.Follows ev ⟨c, s⟩ maxSteps)
    (ht : c.interp ev budget s = some t) (hne : u ≠ t) : ∃ reference,
      stateMismatches { ofTrace ev ceiling budget maxSteps c s tr with
        interpreter := .terminated u } = [.stateMismatch .interpreter reference] := by
  have hsame (name : Semantics) (v : State)
      (hv : (name, .terminated v) ∈ (ofTrace ev ceiling budget maxSteps c s tr).toList) :
      v = t := by
    obtain ⟨k, hk⟩ := exists_interp_eq hf (mem_terminated_iff.2 hv)
    exact Command.interp_unique hk ht
  refine stateMismatches_eq_interpreter hne (fun v hv => ?_) ?_ rfl fun v hv => ?_
  · exact hsame .smallStep v (by simp [toList, ← hv])
  · rw [ofTrace, ht]
    rfl
  · exact hsame .denotational v (by simp [toList, ← hv])

/-- The outcome with another final state, if there is one. -/
def Outcome.alter (f : State → State) : Outcome → Outcome
  | terminated t => terminated (f t)
  | undetermined limit => undetermined limit

/-- The derivation with another final state at its root. -/
def Derivation.forge (f : Derivation → State) (d : Derivation) : Derivation :=
  { d with post := f d }

namespace Engines

/-- The engines, but every derivation that is built has its final state replaced. -/
def forging (en : Engines) (f : Derivation → State) : Engines :=
  { en with derive := fun b s c => (en.derive b s c).map (Option.map (.forge f)) }

/-- The engines, but every run of the interpreter that ends has its final state replaced. -/
def altering (en : Engines) (f : State → State) : Engines :=
  { en with run := fun c s b => (en.run c s b).map (.alter f) }

namespace Returns

variable {en : Engines} {c : Command} {s : State} {budget maxSteps : Int}

def forging (x : en.Returns c s budget maxSteps) (f : Derivation → State) :
    (en.forging f).Returns c s budget maxSteps :=
  ⟨x.trace, x.derivation.map (.forge f), x.interpreted, x.denoted, x.least, x.trace_eq,
    map_eq_ok_iff.2 ⟨_, x.derive_eq, rfl⟩, x.run_eq, x.denote_eq, x.leastBudget_eq⟩

def altering (x : en.Returns c s budget maxSteps) (f : State → State) :
    (en.altering f).Returns c s budget maxSteps :=
  ⟨x.trace, x.derivation, x.interpreted.alter f, x.denoted, x.least, x.trace_eq, x.derive_eq,
    map_eq_ok_iff.2 ⟨_, x.run_eq, rfl⟩, x.denote_eq, x.leastBudget_eq⟩

section Changed

variable (x : en.Returns c s budget maxSteps)

theorem derivation_forging (f : Derivation → State) :
    (x.forging f).derivation = x.derivation.map (.forge f) := rfl

/-- Where there is no derivation, none is forged. -/
theorem outcomes_forging (f : Derivation → State) (h : x.derivation = none) :
    (x.forging f).outcomes = x.outcomes := by
  simp [outcomes, forging, h]

theorem outcomes_altering (f : State → State) : (x.altering f).outcomes =
    { x.outcomes with interpreter := x.outcomes.interpreter.alter f } := rfl

end Changed

end Returns

variable {ceiling budget maxSteps : Nat} {c : Command} {s : State}

/-- The calls of a comparison of the language's own semantics all return. -/
theorem exists_returns (ev : Evaluator) (ceiling budget maxSteps : Nat) (c : Command) (s : State) :
    ∃ (x : (standard ev ceiling).Returns c s budget maxSteps) (tr : Trace),
      x.derivation = c.derive ev budget s ∧ tr.Follows ev ⟨c, s⟩ maxSteps ∧
      x.outcomes = .ofTrace ev ceiling budget maxSteps c s tr := by
  obtain ⟨tr, htr, hf⟩ := Stepper.exists_trace_eq ev false ⟨c, s⟩ maxSteps
  obtain ⟨least, hleast, -⟩ := Denotation.exists_leastBudget_eq ev ceiling s c ceiling
  refine ⟨⟨tr, _, _, _, least, htr, Derivation.build_natCast ev budget s c,
    Interpreter.run_standard_natCast ev c s budget, Interpreter.run_standard_natCast ev c s ceiling,
    hleast⟩, tr, rfl, hf, ?_⟩
  simp only [Returns.outcomes, Outcomes.ofTrace, Command.interp_eq_map_derive]

/-- **A forged derivation is found** if and only if there is one, and it has one fault. -/
theorem exists_compare_forging (ev : Evaluator) (ceiling budget maxSteps : Nat) (c : Command)
    (s : State) {f : Derivation → State} (hf : ∀ d, c.derive ev budget s = some d → f d ≠ d.post) :
    ∃ r, ((standard ev ceiling).forging f).compare c s budget maxSteps = .ok r ∧
      (r.agree = false ↔ (c.interp ev budget s).isSome = true) ∧
      ∀ d, c.derive ev budget s = some d →
        (d.forge f).verify ev = [.derivationFault [] (.conclusionState d.rule)] ∧
        r.coded "INVALID_DERIVATION" = [.invalidDerivation 1 (.conclusionState d.rule)] := by
  obtain ⟨x, tr, hderivation, hfollows, houtcomes⟩ :=
    exists_returns ev ceiling budget maxSteps c s
  have hfaults (d : Derivation) (hd : c.derive ev budget s = some d) :
      (d.forge f).faults ev = [([], .conclusionState d.rule)] :=
    (Command.derives_of_derive hd).proof.faults_of_post_ne (hf d hd)
  have hissues (d : Derivation) (hd : c.derive ev budget s = some d) :
      ((standard ev ceiling).forging f).derivationIssues (x.forging f).derivation =
        [.invalidDerivation 1 (.conclusionState d.rule)] := by
    have hproblems : ((standard ev ceiling).forging f).problems (some (d.forge f)) =
        [([], .conclusionState d.rule)] := hfaults d hd
    rw [Returns.derivation_forging, hderivation, hd, Option.map_some, derivationIssues_eq,
      hproblems]
    rfl
  refine ⟨_, (x.forging f).compare_eq, ?_, fun d hd => ⟨?_, ?_⟩⟩
  · rw [Returns.agree_report_eq_false_iff, Command.interp_eq_map_derive]
    cases hd : c.derive ev budget s with
    | some d => simp [hissues d hd]
    | none =>
      have hnone : x.derivation = none := hderivation.trans hd
      have hmismatch : (x.forging f).outcomes.stateMismatches = [] := by
        rw [Returns.outcomes_forging x f hnone, houtcomes,
          Outcomes.stateMismatches_ofTrace ceiling budget hfollows]
      simp [hmismatch, Returns.derivation_forging, hnone, derivationIssues]
  · rw [Derivation.verify, hfaults d hd, List.map_singleton]
  · simp [Returns.coded_report, hissues d hd]

/-- **A changed result of the interpreter is found** if and only if there is one, by one
mismatch. -/
theorem exists_compare_altering (ev : Evaluator) (ceiling budget maxSteps : Nat) (c : Command)
    (s : State) {f : State → State} (hf : ∀ t, c.interp ev budget s = some t → f t ≠ t) :
    ∃ r, ((standard ev ceiling).altering f).compare c s budget maxSteps = .ok r ∧
      (r.agree = false ↔ (c.interp ev budget s).isSome = true) ∧
      ∀ t, c.interp ev budget s = some t → r.outcomes.interpreter = .terminated (f t) ∧
        ∃ reference, r.coded "STATE_MISMATCH" = [.stateMismatch .interpreter reference] := by
  obtain ⟨x, tr, hderivation, hfollows, houtcomes⟩ :=
    exists_returns ev ceiling budget maxSteps c s
  have hissues : ((standard ev ceiling).altering f).derivationIssues (x.altering f).derivation =
      [] := by
    show (standard ev ceiling).derivationIssues x.derivation = []
    rw [hderivation, derivationIssues_derive]
  have hinterpreter (t : State) (ht : c.interp ev budget s = some t) :
      (x.altering f).outcomes.interpreter = .terminated (f t) := by
    rw [Returns.outcomes_altering, houtcomes, Outcomes.ofTrace, ht]
    rfl
  have hmismatch (t : State) (ht : c.interp ev budget s = some t) : ∃ reference,
      (x.altering f).outcomes.stateMismatches = [.stateMismatch .interpreter reference] := by
    have hchanged : (x.altering f).outcomes =
        { x.outcomes with interpreter := .terminated (f t) } := by
      rw [← hinterpreter t ht, Returns.outcomes_altering]
    rw [hchanged, houtcomes]
    exact Outcomes.stateMismatches_ofTrace_altered ceiling hfollows ht (hf t ht)
  refine ⟨_, (x.altering f).compare_eq, ?_, fun t ht => ⟨hinterpreter t ht, ?_⟩⟩
  · rw [Returns.agree_report_eq_false_iff, hissues]
    cases ht : c.interp ev budget s with
    | some t =>
      obtain ⟨reference, hreference⟩ := hmismatch t ht
      simp [hreference]
    | none =>
      -- Nothing was changed, so the outcomes are those of the language.
      have hrun : x.outcomes.interpreter.alter f = x.outcomes.interpreter := by
        rw [houtcomes, Outcomes.ofTrace, ht]
        rfl
      have hmismatch : (x.altering f).outcomes.stateMismatches = [] := by
        rw [Returns.outcomes_altering, hrun, houtcomes]
        exact Outcomes.stateMismatches_ofTrace ceiling budget hfollows
      simp [hmismatch]
  · obtain ⟨reference, hreference⟩ := hmismatch t ht
    exact ⟨reference, by simp [Returns.coded_report, hreference]⟩

end Engines

theorem State.bump_ne (s : State) (x : Ident) : s.bump x ≠ s := by
  intro h
  have hx : s.lookup x + 1 = s.lookup x := by
    rw [← State.lookup_update_self s x (s.lookup x + 1), ← State.bump, h]
  omega

namespace Tampering

theorem build_eq {t : Tampering} (h : t.forgePost = none) :
    t.build = Derivation.build t.evaluator := by
  funext b s c
  rw [build, h]
  cases Derivation.build t.evaluator b s c <;> rfl

theorem run_eq {t : Tampering} (h : t.runBump = none) : t.run = t.interpreter.run := by
  funext c s b
  rw [run, h]
  rcases t.interpreter.run c s b with _ | _ | _ <;> rfl

theorem engines_forgePost (x : Ident) (ceiling : Int) :
    ({ forgePost := some x } : Tampering).engines ceiling =
      (Engines.standard .standard ceiling).forging fun d => d.post.bump x := by
  rw [engines, run_eq rfl]
  rfl

theorem engines_runBump (x : Ident) (ceiling : Int) :
    ({ runBump := some x } : Tampering).engines ceiling =
      (Engines.standard .standard ceiling).altering fun t => t.bump x := by
  rw [engines, build_eq rfl]
  refine congrArg (fun run => Engines.assemble _ _ _ run _) ?_
  funext c s b
  rcases (Interpreter.standard .standard).run c s b with _ | _ | _ <;> rfl

end Tampering

/-- **Comparisons are exact.** Whatever the engines return, the report names what is wrong with the
derivation and with the final states, and nothing else. Among the engines of the language, under any
limits, a derivation with another final state at its root and an interpreter with another final
state are found if and only if the interpreter ends within the budget. -/
theorem comparison_is_exact :
    (∀ (en : Engines) (c : Command) (s : State) (budget maxSteps : Int)
      (x : en.Returns c s budget maxSteps),
      ∃ r, en.compare c s budget maxSteps = .ok r ∧ r.outcomes = x.outcomes ∧
        r.Exact (en.problems x.derivation)) ∧
    (∀ (ev : Evaluator) (ceiling budget maxSteps : Nat) (c : Command) (s : State)
      (f : Derivation → State), (∀ d, c.derive ev budget s = some d → f d ≠ d.post) →
      ∃ r, ((Engines.standard ev ceiling).forging f).compare c s budget maxSteps = .ok r ∧
        (r.agree = false ↔ (c.interp ev budget s).isSome = true) ∧
        ∀ d, c.derive ev budget s = some d →
          (d.forge f).verify ev = [.derivationFault [] (.conclusionState d.rule)] ∧
          r.coded "INVALID_DERIVATION" = [.invalidDerivation 1 (.conclusionState d.rule)]) ∧
    ∀ (ev : Evaluator) (ceiling budget maxSteps : Nat) (c : Command) (s : State)
      (f : State → State), (∀ t, c.interp ev budget s = some t → f t ≠ t) →
      ∃ r, ((Engines.standard ev ceiling).altering f).compare c s budget maxSteps = .ok r ∧
        (r.agree = false ↔ (c.interp ev budget s).isSome = true) ∧
        ∀ t, c.interp ev budget s = some t → r.outcomes.interpreter = .terminated (f t) ∧
          ∃ reference, r.coded "STATE_MISMATCH" = [.stateMismatch .interpreter reference] :=
  ⟨fun _ _ _ _ _ x => ⟨x.report, x.compare_eq, rfl, x.exact⟩,
    fun ev ceiling budget maxSteps c s _ =>
      Engines.exists_compare_forging ev ceiling budget maxSteps c s,
    fun ev ceiling budget maxSteps c s _ =>
      Engines.exists_compare_altering ev ceiling budget maxSteps c s⟩

/-- A loop of two turns and an assignment behind it. The trace is cut off after four steps; still, a
forged root above the derivation of the sequence and a changed result are both found. -/
theorem comparison_is_exact_bump :
    let c : Command := .seq
      (.loop (.lessEqual (.number 1) (.var 0))
        (.seq (.assign 1 (.plus (.var 1) (.var 0))) (.assign 0 (.minus (.var 0) (.number 1)))))
      (.assign 2 (.var 1))
    let s : State := .ofList [(0, 2), (1, 5)]
    (∃ r,
      (({ forgePost := some 1 } : Tampering).engines 9).compare c s (5 : Nat) (4 : Nat) = .ok r ∧
      r.agree = false ∧
        r.coded "INVALID_DERIVATION" = [.invalidDerivation 1 (.conclusionState .seq)]) ∧
    ∃ r, (({ runBump := some 3 } : Tampering).engines 9).compare c s (5 : Nat) (4 : Nat) = .ok r ∧
      r.agree = false ∧ r.outcomes.interpreter = .terminated (.ofList [(1, 8), (2, 8), (3, 1)]) ∧
        ∃ reference, r.coded "STATE_MISMATCH" = [.stateMismatch .interpreter reference] := by
  intro c s
  have hinterp : c.interp .standard 5 s = some (.ofList [(1, 8), (2, 8)]) := by decide +kernel
  have hends : (c.interp .standard 5 s).isSome = true := by rw [hinterp]; rfl
  constructor
  · obtain ⟨d, hd, hrule⟩ : ∃ d, c.derive .standard 5 s = some d ∧ d.rule = .seq :=
      ⟨_, rfl, rfl⟩
    obtain ⟨r, hr, hagree, hfound⟩ := comparison_is_exact.2.1 .standard 9 5 4 c s
      (fun d => d.post.bump 1) fun d _ => d.post.bump_ne 1
    exact ⟨r, Tampering.engines_forgePost 1 9 ▸ hr, hagree.2 hends, hrule ▸ (hfound d hd).2⟩
  · obtain ⟨r, hr, hagree, hmismatch⟩ := comparison_is_exact.2.2 .standard 9 5 4 c s
      (fun t => t.bump 3) fun t _ => t.bump_ne 3
    obtain ⟨hchanged, hreference⟩ := hmismatch _ hinterp
    have hbump : (State.ofList [(1, 8), (2, 8)]).bump 3 = .ofList [(1, 8), (2, 8), (3, 1)] := by
      decide +kernel
    exact ⟨r, Tampering.engines_runBump 3 9 ▸ hr, hagree.2 hends, hbump ▸ hchanged, hreference⟩

end WhileLang

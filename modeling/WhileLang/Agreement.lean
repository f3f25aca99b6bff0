import WhileLang.Denotation
import WhileLang.Derivation.Build
import WhileLang.Issue
import WhileLang.Step
import WhileLang.ZeroPlus

/-!
# Agreement of the semantics

Checks of what the parts of the library promise each other, for any parts: steppers, interpreters,
evaluators and denotations are parameters, and may be wrong. `Engines.compare` runs a program in
all four semantics. Two semantics that end in different states are an error; one that ends where
another does not is a warning, since their limits count different things.
-/

namespace WhileLang

/-- A configuration must have one successor, or none if its command is `skip`. -/
def Stepper.checkDeterminism (st : Stepper) (c : Configuration) : List Issue :=
  match st c with
  | [] => if c.command.isSkip then [] else [.stuck c.command.form]
  | [_] => []
  | found => [.nondeterministic found.length]

namespace Interpreter

/-- The budgets of a list whose result differs from that of the first budget that had one. -/
def monotonicityFrom (g : Interpreter) (c : Command) (s : State) :
    (first : Option (Int × State)) → List Int → Except Error (List Issue)
  | _, [] => .ok []
  | none, b :: budgets =>
    match g b c s with
    | .error e => .error e
    | .ok result => monotonicityFrom g c s (result.map fun t => (b, t)) budgets
  | some (b₀, t), b :: budgets => do
    if (← g b c s) = some t then
      monotonicityFrom g c s (some (b₀, t)) budgets
    else
      let issue ← (Issue.monotonicity b₀ b).worded
      return issue :: (← monotonicityFrom g c s (some (b₀, t)) budgets)

/-- A result that a budget had must be the result of every larger one in the list. -/
def checkMonotonicity (g : Interpreter) (c : Command) (s : State) (budgets : List Int) :
    Except Error (List Issue) :=
  monotonicityFrom g c s none (budgets.mergeSort fun a b => decide (a ≤ b))

end Interpreter

/-- Dropping sums with zero must not change the value of an expression in any of the states. -/
def Evaluator.checkOptimizer (ev : Evaluator) (e : AExp) (states : List State) :
    Except Error (List Issue) :=
  (states.zipIdx.filterMap fun (s, i) =>
    let before := ev.aexp s e
    let after := ev.aexp s e.dropZeroPlus
    if before = after then none else some (Issue.unsoundOptimizer i before after)).mapM Issue.worded

/-- A solution of the equation of a loop must have the value of the loop where the loop ends. -/
def Denotation.checkFixpoint (den : Denotation) (b : BExp) (c : Command) (f : StateFn)
    (states : List State) : Except Error (List Issue) :=
  match den.isFixpoint b c f states with
  | .error e => .error e
  | .ok false => .ok [.notAFixpoint]
  | .ok true =>
    (den.agreesWith b c f states).map fun agrees => if agrees then [] else [.fixpointDisagrees]

/-- What the four semantics made of a program. -/
structure Outcomes where
  smallStep : Outcome
  bigStep : Outcome
  interpreter : Outcome
  denoted : Outcome
deriving DecidableEq

namespace Outcomes

def toList (o : Outcomes) : List (Semantics × Outcome) :=
  [(.smallStep, o.smallStep), (.bigStep, o.bigStep), (.interpreter, o.interpreter),
    (.denotational, o.denoted)]

/-- The semantics that ended, with their final states. -/
def terminated (o : Outcomes) : List (Semantics × State) :=
  o.toList.filterMap fun (name, outcome) => outcome.state?.map fun s => (name, s)

/-- The semantics that did not end. -/
def undetermined (o : Outcomes) : List Semantics :=
  o.toList.filterMap fun (name, outcome) => if outcome.state?.isNone then some name else none

/-- Every semantics whose final state differs from the first one. -/
def stateMismatches (o : Outcomes) : List Issue :=
  match o.terminated with
  | [] => []
  | (reference, s) :: rest =>
    rest.filterMap fun (name, t) => if t = s then none else some (.stateMismatch name reference)

/-- A warning, if some semantics ended and some did not. -/
def budgetMismatches (o : Outcomes) : List Issue :=
  if o.terminated.isEmpty || o.undetermined.isEmpty then []
  else [.budgetMismatch o.undetermined (o.terminated.map Prod.fst)]

end Outcomes

/-- The outcomes of a program in all semantics, and what is wrong with them. -/
structure Report where
  initial : State
  outcomes : Outcomes
  steps : Nat
  leastBudget : Option Nat
  issues : List Issue
deriving DecidableEq

/-- No issue is an error. -/
def Report.agree (r : Report) : Bool := r.issues.all fun i => i.severity ≠ .error

/-- The parts that a comparison runs. -/
structure Engines where
  trace : Configuration → (limit : Int) → Except Error Trace
  derive : (budget : Int) → State → Command → Except Error (Option Derivation)
  faults : Derivation → List (List Nat × Fault)
  run : Command → State → (budget : Int) → Except Error Outcome
  denote : State → Command → Except Error Outcome
  leastBudget : State → Command → Except Error (Option Nat)

namespace Engines

/-- The engines made of an evaluator that checks derivations, a stepper, a way to build derivations,
a way to run commands, and a denotation with its ceiling. -/
def assemble (ev : Evaluator) (st : Stepper)
    (build : (budget : Int) → State → Command → Except Error (Option Derivation))
    (run : Command → State → (budget : Int) → Except Error Outcome) (den : Denotation) :
    Engines where
  trace := st.trace false
  derive := build
  faults := Derivation.faults ev
  run := run
  denote := den.denote
  leastBudget s c := den.leastBudget s c den.ceiling

/-- The engines of the language, with the given ceiling for its denotation. -/
def standard (ev : Evaluator) (ceiling : Int) : Engines :=
  assemble ev (.standard ev) (Derivation.build ev) (Interpreter.standard ev).run
    (.standard ev ceiling)

/-- An error, if a derivation does not check. -/
def derivationIssues (en : Engines) (d : Option Derivation) : List Issue :=
  match d with
  | none => []
  | some d =>
    match en.faults d with
    | [] => []
    | f :: fs => [.invalidDerivation (fs.length + 1) f.2]

/-- Runs a program in all semantics. -/
def compare (en : Engines) (c : Command) (s : State) (budget maxSteps : Int) :
    Except Error Report := do
  let t ← en.trace ⟨c, s⟩ maxSteps
  let d ← en.derive budget s c
  let interpreter ← en.run c s budget
  let denoted ← en.denote s c
  let least ← en.leastBudget s c
  let outcomes : Outcomes :=
    ⟨t.outcome maxSteps, .ofResult budget (d.map (·.post)), interpreter, denoted⟩
  return ⟨s, outcomes, t.steps, least,
    en.derivationIssues d ++ outcomes.stateMismatches ++ outcomes.budgetMismatches⟩

end Engines

end WhileLang

import WhileLang.Derivation.Check
import WhileLang.Error

/-!
# Issues

What the checks of the library report. An issue is kept by its cause; severity, code, wording and
place are functions of it. Issues are findings, not errors: a check that reports some has still
done its work.
-/

namespace WhileLang

/-- The four semantics, in the order in which they are reported. -/
inductive Semantics where
  | smallStep
  | bigStep
  | interpreter
  | denotational
deriving DecidableEq

/-- The name of a semantics in a report. -/
def Semantics.tag : Semantics → String
  | .smallStep => "small_step"
  | .bigStep => "big_step"
  | .interpreter => "interpreter"
  | .denotational => "denotation"

inductive Severity where
  | error
  | warning
deriving DecidableEq

def Severity.tag : Severity → String
  | .error => "error"
  | .warning => "warning"

/-- A finding of one of the checks. -/
inductive Issue where
  /-- A configuration has several successors. -/
  | nondeterministic (count : Nat)
  /-- A command other than `skip` has no successor. -/
  | stuck (form : Command.Form)
  /-- A larger budget has lost or changed the result of a smaller one. -/
  | monotonicity (first budget : Int)
  /-- An optimised expression has another value in the state at `index`. -/
  | unsoundOptimizer (index : Nat) (before after : Int)
  /-- A function does not satisfy the equation of a loop. -/
  | notAFixpoint
  /-- A solution of the equation of a loop differs from the loop. -/
  | fixpointDisagrees
  /-- A derivation that was built does not check; `first` is the first of its faults. -/
  | invalidDerivation (count : Nat) (first : Fault)
  /-- Two semantics end in different states. -/
  | stateMismatch (found reference : Semantics)
  /-- Some semantics ended within their limits and some did not. -/
  | budgetMismatch (undetermined terminated : List Semantics)
  /-- A node of a derivation is no instance of its rule. -/
  | derivationFault (path : List Nat) (fault : Fault)
deriving DecidableEq

namespace Issue

instance : Inhabited Issue := ⟨.notAFixpoint⟩

def severity : Issue → Severity
  | notAFixpoint | budgetMismatch .. => .warning
  | _ => .error

def code : Issue → String
  | nondeterministic _ => "NONDETERMINISTIC_STEP"
  | stuck _ => "STUCK_CONFIGURATION"
  | monotonicity .. => "MONOTONICITY_VIOLATION"
  | unsoundOptimizer .. => "OPTIMIZER_UNSOUND"
  | notAFixpoint => "NOT_A_FIXPOINT"
  | fixpointDisagrees => "FIXPOINT_DISAGREES"
  | invalidDerivation .. => "INVALID_DERIVATION"
  | stateMismatch .. => "STATE_MISMATCH"
  | budgetMismatch .. => "BUDGET_MISMATCH"
  | derivationFault _ f => f.code

/-- The names of some semantics, separated by commas. -/
def semanticsText (ss : List Semantics) : String := ", ".intercalate (ss.map Semantics.tag)

def message : Issue → String
  | nondeterministic n => "Konfiguracja ma " ++ toString n ++ " następników."
  | stuck f => "Komenda " ++ Text.quoted f.tag ++ " nie ma następnika."
  | monotonicity first b =>
    "Budżet " ++ toString first ++ " dał stan końcowy, a budżet " ++ toString b ++
      " dał inny wynik."
  | unsoundOptimizer _ before after =>
    "Wartość zmieniona z " ++ toString before ++ " na " ++ toString after ++ "."
  | notAFixpoint => "Funkcja nie spełnia równania pętli na podanych stanach."
  | fixpointDisagrees => "Punkt stały różni się od denotacji tam, gdzie ta się kończy."
  | invalidDerivation n first => "Wyprowadzenie ma " ++ toString n ++ " błędów: " ++ first.message
  | stateMismatch found reference =>
    found.tag ++ " i " ++ reference.tag ++ " zakończyły się w różnych stanach."
  | budgetMismatch undetermined terminated =>
    "Nieustalone w swoim budżecie: " ++ semanticsText undetermined ++ "; zakończone: " ++
      semanticsText terminated ++ "."
  | derivationFault _ f => f.message

/-- The integers in the text of an issue that may be of any size. -/
def shown : Issue → List Int
  | monotonicity first b => [first, b]
  | unsoundOptimizer _ before after => [before, after]
  | _ => []

/-- An issue is put into words when it is found, so its integers must be short enough to be
written. -/
def worded (i : Issue) : Except Error Issue :=
  if i.shown.all Text.isWritable then .ok i else .error .numberTooLong

/-- Where the issue was found. -/
def place? : Issue → Option String
  | nondeterministic _ | stuck _ => some "command"
  | monotonicity _ b => some ("budget=" ++ toString b)
  | unsoundOptimizer i .. => some ("states[" ++ toString i ++ "]")
  | notAFixpoint | fixpointDisagrees | budgetMismatch .. => none
  | invalidDerivation .. => some Semantics.bigStep.tag
  | stateMismatch found _ => some found.tag
  | derivationFault path _ => some (Derivation.pathText path)

end Issue

namespace Derivation

/-- The faults of a derivation as issues. -/
def verify (ev : Evaluator) (d : Derivation) : List Issue :=
  (d.faults ev).map fun f => .derivationFault f.1 f.2

/-- The derivation has no fault. -/
def holds (ev : Evaluator) (d : Derivation) : Bool := (d.faults ev).isEmpty

end Derivation

end WhileLang

import WhileLang.Settings.Assignment
import WhileLang.Text.IntLiteral

/-!
# Settings

Default limits and their bounds, taken from environment variables and from a file of assignments;
a variable of the environment counts before one of the file. The names of variables begin with
`IMPSEM_` and are compared without regard to case.
-/

namespace WhileLang

structure Settings where
  /-- The budget of a run that gives none. -/
  defaultBudget : Int := 1000
  /-- The greatest budget that may be asked for, and the ceiling of the denotation. -/
  maxBudget : Int := 10000
  /-- The greatest number of steps that may be asked for, and the default. -/
  maxSteps : Int := 100000
  version : String := "0.1.0"
deriving DecidableEq

namespace Settings

instance : Inhabited Settings := ⟨{}⟩

/-- Variables with their values. -/
abbrev Variables := List (String × String)

/-- A name as it is compared. -/
def foldName (s : String) : String := String.ofList (s.toList.map Char.toLower)

/-- Where settings come from. -/
structure Sources where
  environment : Variables
  file : List Assignment

/-- The value of the setting `name`. Of two variables for it the later one counts, also if it has no
value. -/
def Sources.find? (src : Sources) (name : String) : Option String :=
  let names (v : String) : Bool := foldName v = "impsem_" ++ name
  match src.environment.reverse.find? fun v => names v.1 with
  | some v => some v.2
  | none => (src.file.reverse.find? fun a => names a.name).bind (·.value)

/-- An integer setting; a value that is no integer is an error. -/
def Sources.integer? (src : Sources) (name : String) (default : Int) : Option Int :=
  match src.find? name with
  | none => some default
  | some text => Text.readLooseInt text

/-- The settings that the sources give, if all values can be read. -/
def ofSources? (src : Sources) : Option Settings := do
  let st : Settings := {}
  return {
    defaultBudget := ← src.integer? "default_budget" st.defaultBudget
    maxBudget := ← src.integer? "max_budget" st.maxBudget
    maxSteps := ← src.integer? "max_steps" st.maxSteps
    version := (src.find? "app_version").getD st.version }

/-- The settings of an environment together with a file, if there is one. -/
def load? (environment : Variables) (file : Option String) : Option Settings :=
  let assignments := (file.map Assignment.readFile).getD []
  ofSources? ⟨environment, Assignment.resolve environment assignments⟩

end Settings

end WhileLang

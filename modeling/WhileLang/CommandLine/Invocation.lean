import WhileLang.CommandLine.Arguments
import WhileLang.Error

/-!
# Invocations

The subcommands with their arguments. `parseInvocation` reads a command line; a subcommand has to
be named in full, and the value of a numeric option has to be an integer.
-/

namespace WhileLang.CommandLine

/-- The value of a numeric option. -/
inductive Amount where
  /-- The option was not given. -/
  | unset
  /-- The option was given without a number. -/
  | missing
  | number (n : Int)
deriving DecidableEq

/-- The number, or the default if the option was not given. -/
def Amount.get (use : NumberUse) (default : Int) : Amount → Except Error Int
  | unset => .ok default
  | missing => .error (.missingNumber use)
  | number n => .ok n

/-- A program, and what its initial state is to be changed to. -/
structure Target where
  /-- A name of the catalogue or a path. -/
  program : String
  /-- Bindings of variables, as they were typed; one may be missing. -/
  bindings : List (Option String)

/-- What a command line asks for. -/
inductive Invocation where
  | programs
  | display (program : String) (json : Bool)
  | run (t : Target) (budget : Amount)
  | trace (t : Target) (maxSteps : Amount) (rows : Int)
  | derive (t : Target) (budget : Amount)
  | denote (t : Target) (maxBudget : Amount)
  | check (t : Target) (budget : Amount)
  | fuzz (count seed budget : Amount) (bounded : Bool)
  | optimize (program : String)

/-- The program that is asked for, by a name of the catalogue or a path. -/
def Invocation.program? : Invocation → Option String
  | .display program _ | .optimize program => some program
  | .run t _ | .trace t _ _ | .derive t _ | .denote t _ | .check t _ => some t.program
  | .programs | .fuzz .. => none

/-! ## Options -/

def setOption : OptionSpec := ⟨"set", some 's', .text⟩

def budgetOption : OptionSpec := ⟨"budget", some 'b', .integer⟩

def maxStepsOption : OptionSpec := ⟨"max-steps", none, .integer⟩

def maxBudgetOption : OptionSpec := ⟨"max-budget", none, .integer⟩

def showOption : OptionSpec := ⟨"show", none, .integer⟩

def countOption : OptionSpec := ⟨"count", none, .integer⟩

def seedOption : OptionSpec := ⟨"seed", none, .integer⟩

def jsonFlag : OptionSpec := ⟨"json", none, .nothing⟩

def boundedFlag : OptionSpec := ⟨"bounded", none, .nothing⟩

/-- What the subcommand with the given name takes. -/
def usage? (name : String) : Option Usage :=
  match name with
  | "programs" => some ⟨false, []⟩
  | "show" => some ⟨true, [jsonFlag]⟩
  | "run" | "derive" | "check" => some ⟨true, [setOption, budgetOption]⟩
  | "trace" => some ⟨true, [setOption, maxStepsOption, showOption]⟩
  | "denote" => some ⟨true, [setOption, maxBudgetOption]⟩
  | "fuzz" => some ⟨false, [countOption, seedOption, budgetOption, boundedFlag]⟩
  | "optimize" => some ⟨true, []⟩
  | _ => none

/-! ## Reading -/

/-- The value of a numeric option, as it was given last. -/
def amount (p : Parsed) (name : String) : Amount :=
  match p.last? name with
  | none => .unset
  | some value =>
    match value.bind Text.readInt with
    | none => .missing
    | some n => .number n

/-- How many configurations are to be shown; without a number all of them. -/
def rows (p : Parsed) : Int :=
  match amount p "show" with
  | .unset => 50
  | .missing => 0
  | .number n => n

/-- The invocation of a subcommand whose arguments have been read. -/
def invocation? (name : String) (p : Parsed) : Option Invocation :=
  let program := p.positional.getD ""
  let target : Target := ⟨program, p.all "set"⟩
  match name with
  | "programs" => some .programs
  | "show" => some (.display program (p.has "json"))
  | "run" => some (.run target (amount p "budget"))
  | "trace" => some (.trace target (amount p "max-steps") (rows p))
  | "derive" => some (.derive target (amount p "budget"))
  | "denote" => some (.denote target (amount p "max-budget"))
  | "check" => some (.check target (amount p "budget"))
  | "fuzz" =>
    some (.fuzz (amount p "count") (amount p "seed") (amount p "budget") (p.has "bounded"))
  | "optimize" => some (.optimize program)
  | _ => none

/-- Reads the arguments of a subcommand. -/
def parseSubcommand (name : String) (args : List String) : Except Stop Invocation :=
  match usage? name with
  | none => .error .misuse
  | some u =>
    match parse u args with
    | .error s => .error s
    | .ok p =>
      match invocation? name p with
      | some i => .ok i
      | none => .error .misuse

/-- Reads a command line up to the name of the subcommand. What is no option there is left over, so
that only a wish for help can still be granted. -/
def readCommandLine (leftOver : Bool) : List String → Except Stop Invocation
  | [] => .error .misuse
  | arg :: args =>
    match token [helpOption] arg with
    | .plain name =>
      match parseSubcommand name args with
      | .error s => .error s
      | .ok i => if leftOver then .error .misuse else .ok i
    | .unknown => readCommandLine true args
    | .option _ none => .error .help
    | .cluster _ letters => .error (if clusterFits [helpOption] [] letters then .help else .misuse)
    | _ => .error .misuse

/-- Reads a command line. -/
def parseInvocation (args : List String) : Except Stop Invocation := readCommandLine false args

end WhileLang.CommandLine

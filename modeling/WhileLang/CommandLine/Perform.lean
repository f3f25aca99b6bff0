import WhileLang.Agreement
import WhileLang.CommandLine.Binding
import WhileLang.CommandLine.Folder
import WhileLang.CommandLine.Invocation
import WhileLang.CommandLine.Page
import WhileLang.Derivation.Outline
import WhileLang.Generator
import WhileLang.Json.Printer
import WhileLang.Json.Writing
import WhileLang.Settings
import WhileLang.Text.Charset

/-!
# Commands

What each subcommand prints. Cells of tables without headers, derivations and shortened texts are
shown in the character set of the terminal; the rest is not.
-/

namespace WhileLang.CommandLine

/-- What a command works with. -/
structure Surroundings where
  settings : Settings
  folder : Folder
  charset : Text.Charset

/-- A text shortened for a cell. -/
def Surroundings.short (env : Surroundings) (limit : Int) (s : String) : String :=
  Text.shorten limit (env.charset.restrict s)

/-- A table of keys and values. -/
def Surroundings.pairs (env : Surroundings) (title : String) (rows : List (String × String)) :
    Block :=
  .table title none (rows.map fun r => [env.charset.restrict r.1, env.charset.restrict r.2])

def outcomeText (names : Names) : Outcome → Except Error String
  | .terminated s => (s.render names).map ("terminated " ++ ·)
  | .undetermined b => .ok ("undetermined (budżet " ++ toString b ++ ")")

/-- The text of a truth value in a line of output. -/
def flagText (b : Bool) : String := if b then "True" else "False"

/-- A number, or another text in its place. -/
def numberOr (otherwise : String) : Option Nat → String
  | some n => toString n
  | none => otherwise

/-- The program of a target and the state to start it in. -/
def Target.resolve (t : Target) (dir : Folder) : Except Error (Program × State) := do
  let p ← dir.load t.program
  return (p, ← initialState p t.bindings)

/-! ## Subcommands -/

def listPrograms (env : Surroundings) : Except Error Page := do
  let row (p : Program) : Except Error (List String) := do
    return [p.name, env.short 60 p.description, ← p.initial.render p.names]
  return ⟨[.table "Programy" (some ["Name", "Description", "Initial state"])
    (← Catalog.programs.mapM row)], 0⟩

def displayProgram (env : Surroundings) (program : String) (json : Bool) : Except Error Page := do
  let p ← env.folder.load program
  if json then return ⟨Block.lines p.command.toJson.pretty, 0⟩
  let head := Block.lines ("# " ++ p.name ++ ": " ++ p.description)
  let start := Block.lines ("# start: " ++ (← p.initial.render p.names))
  return ⟨head ++ start ++ Block.lines (← p.command.block p.names), 0⟩

/-- The table of a final state. -/
def stateTable (names : Names) (s : State) : Except Error Block := do
  let row (b : Ident × Int) : Except Error (List String) := do
    return [← names.text b.1, ← Text.ofInt b.1, ← Text.ofInt b.2]
  return .table "Final state" (some ["Var", "Ident", "Value"]) (← s.bindings.mapM row)

def runProgram (env : Surroundings) (t : Target) (budget : Amount) : Except Error Page := do
  let (p, s) ← t.resolve env.folder
  let b ← budget.get .bound env.settings.defaultBudget
  let o ← (Interpreter.standard .standard).run p.command s b
  let summary := env.pairs ("run " ++ p.name)
    [("budget", toString b), ("result", ← outcomeText p.names o)]
  match o with
  | .terminated s => return ⟨[summary, ← stateTable p.names s], 0⟩
  | .undetermined _ => return ⟨[summary], 0⟩

/-- The configurations that are shown: all of them for `0`. -/
def shownRows (rows : Int) (cs : List Configuration) : List Configuration :=
  if rows = 0 then cs else Text.takeSigned rows cs

def traceProgram (env : Surroundings) (t : Target) (maxSteps : Amount) (rows : Int) :
    Except Error Page := do
  let (p, s) ← t.resolve env.folder
  let limit ← maxSteps.get .bound env.settings.maxSteps
  let tr ← (Stepper.standard .standard).trace true ⟨p.command, s⟩ limit
  let shown := shownRows rows tr.configurations
  let left := tr.configurations.length - shown.length
  let row (c : Configuration × Nat) : Except Error (List String) := do
    return [toString c.2, env.short 72 (← c.1.command.inline p.names),
      ← c.1.state.render p.names]
  let omitted : List Block :=
    if left = 0 then [] else [.line ("... pominięto " ++ toString left ++ " konfiguracji")]
  let title := "trace " ++ p.name ++ " [" ++ toString tr.steps ++ " kroków]"
  let table : Block := .table title (some ["#", "Command", "State"]) (← shown.zipIdx.mapM row)
  return ⟨table :: omitted ++ [.line ("terminated: " ++ flagText tr.terminated)], 0⟩

/-- The line of an issue with its place. -/
def faultLine (i : Issue) : String :=
  "  [" ++ i.severity.tag ++ "] " ++ i.code ++ " @ " ++ i.place?.getD "None" ++ ": " ++ i.message

def deriveProgram (env : Surroundings) (t : Target) (budget : Amount) : Except Error Page := do
  let (p, s) ← t.resolve env.folder
  let b ← budget.get .bound env.settings.defaultBudget
  match ← Derivation.build .standard b s p.command with
  | none => return ⟨[.line ("Brak wyprowadzenia w budżecie " ++ toString b ++ ".")], 0⟩
  | some d =>
    let outline := (← d.outline p.names).flatMap fun l => Block.lines (env.charset.restrict l)
    let verdict : Block := .line ("valid: " ++ flagText (d.holds .standard))
    let faults := (d.verify .standard).flatMap fun i => Block.lines (faultLine i)
    return ⟨outline ++ verdict :: faults, 0⟩

/-- The powers of two from `b` on that are below a limit. -/
def doublings (b limit : Nat) : List Nat :=
  if 0 < b ∧ b < limit then b :: doublings (2 * b) limit else []
termination_by limit - b
decreasing_by omega

/-- The budgets at which a denotation is shown. -/
def sampleBudgets (limit : Int) : List Int :=
  0 :: (doublings 1 limit.toNat).map Int.ofNat ++ [limit]

def denoteProgram (env : Surroundings) (t : Target) (maxBudget : Amount) :
    Except Error Page := do
  let (p, s) ← t.resolve env.folder
  let limit ← maxBudget.get .ceiling env.settings.maxBudget
  let den := Denotation.standard .standard limit
  let approximations ← den.approximations s p.command (sampleBudgets limit)
  let least ← den.leastBudget s p.command limit
  let o ← den.denote s p.command
  let row (a : Approximation) : Except Error (List String) :=
    match a.result with
    | some t => (t.render p.names).map fun text => [toString a.budget, text]
    | none => .ok [toString a.budget, "-"]
  let table : Block :=
    .table ("interp(budget, " ++ p.name ++ ")") (some ["Budget", "Result"])
      (← approximations.mapM row)
  let summary := env.pairs ("denote " ++ p.name)
    [("denotation", ← outcomeText p.names o),
      ("least budget", numberOr ("> " ++ toString limit) least)]
  return ⟨[table, summary], 0⟩

/-- The engines under the given settings. -/
def engines (st : Settings) : Engines := .standard .standard st.maxBudget

/-- The budget of a comparison, which is looked at after the limit on its steps. -/
def comparisonBudget (st : Settings) (default : Int) (budget : Amount) : Except Error Int := do
  if st.maxSteps < 0 then throw (.negativeStepLimit st.maxSteps)
  budget.get .bound default

/-- The answer to whether the semantics agree. -/
def agreeText (r : Report) : String := if r.agree then "yes" else "NO"

def checkProgram (env : Surroundings) (t : Target) (budget : Amount) : Except Error Page := do
  let (p, s) ← t.resolve env.folder
  let b ← comparisonBudget env.settings env.settings.defaultBudget budget
  let r ← (engines env.settings).compare p.command s b env.settings.maxSteps
  let text := outcomeText p.names
  let issueLine (i : Issue) : String :=
    "  [" ++ i.severity.tag ++ "] " ++ i.code ++ ": " ++ i.message
  let table := env.pairs ("check " ++ p.name)
    [("small-step", ← text r.outcomes.smallStep), ("steps", toString r.steps),
      ("big-step", ← text r.outcomes.bigStep), ("interpreter", ← text r.outcomes.interpreter),
      ("denotation", ← text r.outcomes.denoted), ("least budget", numberOr "-" r.leastBudget),
      ("agree", agreeText r)]
  return ⟨table :: r.issues.map fun i => .line (issueLine i), if r.agree then 0 else 2⟩

/-- Compares random programs, each in a random state; a failing draw gives `skip`. -/
def fuzzReports {σ : Type} (gen : Generator σ) (en : Engines) (bounded : Bool)
    (budget maxSteps : Int) : (count : Nat) → Generator.Progress σ → Except Error (List Report)
  | 0, _ => .ok []
  | n + 1, g =>
    let drawing : Generator.Draw σ (Command × State) := do
      return (← gen.command bounded gen.config.maxCommandDepth.toNat, ← gen.state)
    let (drawn, g) := drawing.run g
    match drawn with
    | .error _ => fuzzReports gen en bounded budget maxSteps n g
    | .ok (c, s) =>
      match en.compare c s budget maxSteps with
      | .error e => .error e
      | .ok r => (fuzzReports gen en bounded budget maxSteps n g).map (r :: ·)

/-- Without programs to compare, the budget is not looked at. -/
def fuzz (env : Surroundings) (count seed budget : Amount) (bounded : Bool) :
    Except Error Page := do
  let gen := Generator.mersenne {}
  let seed ← seed.get .seed 0
  let count ← count.get .count 20
  let budget ← if 0 < count then comparisonBudget env.settings 200 budget else pure 0
  let reports ← fuzzReports gen (engines env.settings) bounded budget env.settings.maxSteps
    count.toNat (gen.start (.ofSeed seed))
  let disagreements := (reports.filter fun r => !r.agree).length
  let row (r : Report × Nat) : List String :=
    [toString r.2, r.1.outcomes.interpreter.tag, toString r.1.steps,
      numberOr "-" r.1.leastBudget, agreeText r.1]
  let title := "fuzz seed=" ++ toString seed ++ " count=" ++ toString count
  let table : Block :=
    .table title (some ["#", "Outcome", "Steps", "Least budget", "Agree"])
      (reports.zipIdx.map row)
  return ⟨[table, .line ("disagreements: " ++ toString disagreements)],
    if disagreements = 0 then 0 else 2⟩

def optimizeProgram (env : Surroundings) (program : String) : Except Error Page := do
  let p ← env.folder.load program
  let c := p.command.dropZeroPlus
  let before := Block.line "# przed" :: Block.lines (← p.command.block p.names)
  let after := Block.line "# po" :: Block.lines (← c.block p.names)
  return ⟨before ++ after ++ [.line ("changed: " ++ flagText (c ≠ p.command))], 0⟩

/-- Does what a command line asks for. -/
def perform (env : Surroundings) : Invocation → Except Error Page
  | .programs => listPrograms env
  | .display program json => displayProgram env program json
  | .run t budget => runProgram env t budget
  | .trace t maxSteps rows => traceProgram env t maxSteps rows
  | .derive t budget => deriveProgram env t budget
  | .denote t maxBudget => denoteProgram env t maxBudget
  | .check t budget => checkProgram env t budget
  | .fuzz count seed budget bounded => fuzz env count seed budget bounded
  | .optimize program => optimizeProgram env program

/-- How a command line ends. -/
inductive Ending where
  /-- The settings cannot be read. -/
  | badSettings
  | help
  | misuse
  | page (p : Page)
  | failed (e : Error)
  /-- By an error that the command line does not speak of. -/
  | broken (e : Error)

/-- The status that a command line leaves; `2` also tells that a comparison went wrong. -/
def Ending.status : Ending → Nat
  | .help => 0
  | .misuse => 2
  | .badSettings | .failed _ | .broken _ => 1
  | .page p => p.exit

/-- The text of the file with settings, if there is one. -/
def settingsFile? (dir : Folder) : Option String :=
  match dir.find (.ofString ".env") with
  | .text content => some content
  | .absent _ => none

/-- Runs a command line in a folder, under an environment. -/
def execute (args : List String) (environment : Settings.Variables) (dir : Folder)
    (charset : Text.Charset) : Ending :=
  match parseInvocation args with
  | .error .misuse => .misuse
  | .error .help => .help
  | .ok invocation =>
    match Settings.load? environment (settingsFile? dir) with
    | none => .badSettings
    | some settings =>
      match perform ⟨settings, dir, charset⟩ invocation with
      | .ok p => .page p
      | .error e => if e.category = .wrongType then .broken e else .failed e

/-- What is printed about an error. -/
def failureText (e : Error) : String := "Błąd: " ++ e.message

end WhileLang.CommandLine

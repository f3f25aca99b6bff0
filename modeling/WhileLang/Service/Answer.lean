import WhileLang.Agreement
import WhileLang.Derivation.Outline
import WhileLang.Service.Request
import WhileLang.Service.Response
import WhileLang.Settings

/-!
# Answering requests

`Service.answer` answers a request under given settings. A limit that a request asks for must not
exceed the one that the settings allow; this is looked at before the program is. A request that
asks for no limit gets the default, which is not held to that bound.
-/

namespace WhileLang.Service

/-- The limit that a request asks for, or the default. -/
def boundedLimit (field : String) (default limit : Int) : Option Int → Except Refusal Int
  | none => .ok default
  | some value => if limit < value then .error (.overLimit field value limit) else .ok value

/-- The budget of a request. -/
def budgetOf (st : Settings) (asked : Option Int) : Except Refusal Int :=
  boundedLimit "budget" st.defaultBudget st.maxBudget asked

/-- The step limit of a request. -/
def stepLimitOf (st : Settings) (asked : Option Int) : Except Refusal Int :=
  boundedLimit "max_steps" st.maxSteps st.maxSteps asked

/-- Every budget of a list is held to the bound, in order. -/
def checkBudgets (limit : Int) : List Int → Except Refusal Unit
  | [] => .ok ()
  | b :: bs =>
    if limit < b then .error (.overLimit "budgets" b limit) else checkBudgets limit bs

def resolve (r : ProgramRequest) : Except Refusal Program := Refusal.ofError r.resolve

def health (st : Settings) : Health := ⟨st.version, Catalog.programs.length⟩

def programs : List ProgramSummary :=
  Catalog.programs.map fun p => ⟨p, p.initial.render p.names⟩

def program (name : String) : Except Refusal ProgramDetail := do
  let p ← Refusal.ofError (Catalog.find name)
  return ⟨p, p.command.block p.names⟩

def run (st : Settings) (r : ProgramRequest) (asked : Option Int) : Except Refusal RunResponse := do
  let budget ← budgetOf st asked
  let p ← resolve r
  let o ← Refusal.ofError ((Interpreter.standard .standard).run p.command p.initial budget)
  return ⟨o, budget, o.state?.mapM (·.render p.names)⟩

def step (r : ProgramRequest) : Except Refusal StepResponse := do
  let p ← resolve r
  let c : Configuration := ⟨p.command, p.initial⟩
  let next ← Refusal.ofError ((Stepper.standard .standard).step c)
  return ⟨c, next, next.mapM (·.render p.names)⟩

def trace (st : Settings) (r : ProgramRequest) (asked : Option Int) (record : Bool) :
    Except Refusal TraceResponse := do
  let limit ← stepLimitOf st asked
  let p ← resolve r
  let t ← Refusal.ofError
    ((Stepper.standard .standard).trace record ⟨p.command, p.initial⟩ limit)
  return ⟨t, t.outcome limit, t.configurations.mapM (·.render p.names)⟩

def derive (st : Settings) (r : ProgramRequest) (asked : Option Int) :
    Except Refusal DeriveResponse := do
  let budget ← budgetOf st asked
  let p ← resolve r
  match ← Refusal.ofError (Derivation.build .standard budget p.initial p.command) with
  | none => return ⟨none, false, [], .ok []⟩
  | some d =>
    return ⟨some d.flatten, d.holds .standard, d.verify .standard, d.outline p.names⟩

def verify (nodes : List FlatNode) (names : Names) : Except Refusal VerifyResponse := do
  let d ← Refusal.ofError (Derivation.unflatten nodes)
  return ⟨d.holds .standard, d.verify .standard, d.outline names⟩

def denote (st : Settings) (r : ProgramRequest) (budgets : List Int) :
    Except Refusal DenoteResponse := do
  checkBudgets st.maxBudget budgets
  let p ← resolve r
  let den := Denotation.standard .standard st.maxBudget
  let o ← Refusal.ofError (den.denote p.initial p.command)
  let least ← Refusal.ofError (den.leastBudget p.initial p.command den.ceiling)
  let approximations ← Refusal.ofError (den.approximations p.initial p.command budgets)
  return ⟨o, least, den.ceiling, approximations⟩

def equivalence (st : Settings) (r : ProgramRequest) (askedBudget askedSteps : Option Int) :
    Except Refusal Report := do
  let budget ← budgetOf st askedBudget
  let maxSteps ← stepLimitOf st askedSteps
  let p ← resolve r
  Refusal.ofError
    ((Engines.standard .standard st.maxBudget).compare p.command p.initial budget maxSteps)

def optimize (r : ProgramRequest) : Except Refusal OptimizeResponse := do
  let p ← resolve r
  let c := p.command.dropZeroPlus
  return ⟨c, c ≠ p.command, p.command.block p.names, c.block p.names⟩

def eval (e : Phrase) (s : State) : Except Refusal EvalResponse := do
  let r ← Refusal.ofError (e.explain s)
  let simplified := match e with
    | .aexp e => some e.dropZeroPlus
    | _ => none
  return ⟨r.value, r.steps, simplified⟩

/-- The response to a request. -/
def answer (st : Settings) : Request → Except Refusal Response
  | .health => .ok (.health (health st))
  | .programs => .ok (.programs programs)
  | .program name => (program name).map .program
  | .run p budget => (run st p budget).map .run
  | .step p => (step p).map .step
  | .trace p maxSteps record => (trace st p maxSteps record).map .trace
  | .derive p budget => (derive st p budget).map .derive
  | .verify nodes names => (verify nodes names).map .verify
  | .denote p budgets => (denote st p budgets).map .denote
  | .equivalence p budget maxSteps => (equivalence st p budget maxSteps).map .equivalence
  | .optimize p => (optimize p).map .optimize
  | .eval e s => (eval e s).map .eval

end WhileLang.Service

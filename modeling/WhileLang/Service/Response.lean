import WhileLang.Json.Writing
import WhileLang.Phrase

/-!
# Responses of the service

One record for each kind of request, and how it is written. The texts in a record are the results
of showing something, which may have failed; a response with such a text in it cannot be written.
-/

namespace WhileLang.Service

structure Health where
  version : String
  programs : Nat

/-- A program of the catalogue in a list. -/
structure ProgramSummary where
  program : Program
  /-- The initial state as text. -/
  start : Except Error String

/-- A program of the catalogue with its text. -/
structure ProgramDetail where
  program : Program
  source : Except Error String

structure RunResponse where
  outcome : Outcome
  /-- The budget that the program was run on. -/
  budget : Int
  /-- The final state as text, if there is one. -/
  final : Except Error (Option String)

structure StepResponse where
  configuration : Configuration
  successor : Option Configuration
  /-- The successor as text, if there is one. -/
  rendered : Except Error (Option String)

structure TraceResponse where
  trace : Trace
  outcome : Outcome
  rendered : Except Error (List String)

structure DeriveResponse where
  /-- The flat derivation, if the budget sufficed. -/
  nodes : Option (List FlatNode)
  valid : Bool
  issues : List Issue
  lines : Except Error (List String)

structure VerifyResponse where
  valid : Bool
  issues : List Issue
  lines : Except Error (List String)

structure DenoteResponse where
  outcome : Outcome
  leastBudget : Option Nat
  ceiling : Int
  approximations : List Approximation

structure OptimizeResponse where
  command : Command
  changed : Bool
  before : Except Error String
  after : Except Error String

structure EvalResponse where
  value : Phrase.Value
  steps : List String
  /-- The simplified expression; conditions are not simplified. -/
  simplified : Option AExp

inductive Response where
  | health (r : Health)
  | programs (r : List ProgramSummary)
  | program (r : ProgramDetail)
  | run (r : RunResponse)
  | step (r : StepResponse)
  | trace (r : TraceResponse)
  | derive (r : DeriveResponse)
  | verify (r : VerifyResponse)
  | denote (r : DenoteResponse)
  | equivalence (r : Report)
  | optimize (r : OptimizeResponse)
  | eval (r : EvalResponse)

/-- Texts as an array. -/
def textsJson (ts : List String) : Json := .array (ts.map .string)

def issuesJson (is : List Issue) : Json := .array (is.map Issue.toJson)

def valueJson : Phrase.Value → Json
  | .number v => .int v
  | .truth b => .bool b

def ProgramSummary.toJson (r : ProgramSummary) : Except Error Json := do
  return .object [("name", .string r.program.name),
    ("description", .string r.program.description), ("initial", r.program.initial.toJson),
    ("rendered_initial", .string (← r.start))]

def DenoteResponse.toJson (r : DenoteResponse) : Json :=
  .object [("outcome", r.outcome.toJson), ("least_budget", .ofNat? r.leastBudget),
    ("max_budget", .int r.ceiling),
    ("approximations", .array (r.approximations.map Approximation.toJson))]

namespace Response

/-- The response as JSON, if all its texts are there. -/
def toJson : Response → Except Error Json
  | health r =>
    .ok (.object [("status", .string "ok"), ("version", .string r.version),
      ("programs", .int r.programs)])
  | programs rs => (rs.mapM ProgramSummary.toJson).map .array
  | program r => do
    return .object [("entry", r.program.toJson), ("source", .string (← r.source))]
  | run r => do
    return .object [("outcome", r.outcome.toJson), ("budget", .int r.budget),
      ("rendered_state", .ofText? (← r.final))]
  | step r => do
    return .object [("configuration", r.configuration.toJson),
      ("successor", match r.successor with
        | some c => c.toJson
        | none => .null),
      ("terminal", .bool r.successor.isNone), ("rendered", .ofText? (← r.rendered))]
  | trace r => do
    return .object [("trace", r.trace.toJson), ("outcome", r.outcome.toJson),
      ("rendered", textsJson (← r.rendered))]
  | derive r => do
    return .object [("nodes", match r.nodes with
        | some ns => .array (ns.map FlatNode.toJson)
        | none => .null),
      ("valid", .bool r.valid), ("issues", issuesJson r.issues), ("lines", textsJson (← r.lines))]
  | verify r => do
    return .object [("valid", .bool r.valid), ("issues", issuesJson r.issues),
      ("lines", textsJson (← r.lines))]
  | denote r => .ok r.toJson
  | equivalence r => .ok r.toJson
  | optimize r => do
    return .object [("command", r.command.toJson), ("changed", .bool r.changed),
      ("before", .string (← r.before)), ("after", .string (← r.after))]
  | eval r =>
    .ok (.object [("value", valueJson r.value), ("steps", textsJson r.steps),
      ("simplified", match r.simplified with
        | some e => e.toJson
        | none => .null)])

/-- The response as it is sent. The numbers in it have to be short enough to be written, like those
in its texts. -/
def written (r : Response) : Except Error Json := do
  let j ← r.toJson
  if j.isWritable then return j else throw .numberTooLong

end Response

end WhileLang.Service

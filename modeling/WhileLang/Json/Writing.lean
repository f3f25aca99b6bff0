import WhileLang.Agreement
import WhileLang.Derivation.Flat
import WhileLang.Json
import WhileLang.Program

/-!
# Writing phrases and records as JSON

Every phrase is an object whose first member `node_type` names its form; the fields follow in
their order. What is written here is what `Json.readings` and the readers of records read.
-/

namespace WhileLang

/-- A form with its fields. -/
def Json.node (tag : String) (fields : List (String × Json)) : Json :=
  .object (("node_type", .string tag) :: fields)

/-- A text that may be missing. -/
def Json.ofText? : Option String → Json
  | some s => .string s
  | none => .null

/-- A number that may be missing. -/
def Json.ofNat? : Option Nat → Json
  | some n => .int n
  | none => .null

/-! ## Phrases -/

def AExp.toJson : AExp → Json
  | number v => .node "number" [("value", .int v)]
  | var x => .node "variable" [("ident", .int x)]
  | plus l r => .node "plus" [("left", l.toJson), ("right", r.toJson)]
  | minus l r => .node "minus" [("left", l.toJson), ("right", r.toJson)]

def BExp.toJson : BExp → Json
  | tt => .node "true" []
  | ff => .node "false" []
  | equal l r => .node "equal" [("left", l.toJson), ("right", r.toJson)]
  | lessEqual l r => .node "less_equal" [("left", l.toJson), ("right", r.toJson)]
  | neg b => .node "not" [("operand", b.toJson)]
  | conj l r => .node "and" [("left", l.toJson), ("right", r.toJson)]

def Command.toJson : Command → Json
  | skip => .node "skip" []
  | assign x e => .node "assign" [("ident", .int x), ("expr", e.toJson)]
  | seq c₁ c₂ => .node "seq" [("first", c₁.toJson), ("second", c₂.toJson)]
  | branch b c₁ c₂ =>
    .node "if" [("cond", b.toJson), ("then_branch", c₁.toJson), ("else_branch", c₂.toJson)]
  | loop b c => .node "while" [("cond", b.toJson), ("body", c.toJson)]

/-! ## Records -/

def State.toJson (s : State) : Json :=
  .object [("bindings", .object (s.bindings.map fun b => (toString b.1, .int b.2)))]

def Outcome.toJson : Outcome → Json
  | terminated s => .object [("outcome", .string "terminated"), ("state", s.toJson)]
  | undetermined n => .object [("outcome", .string "undetermined"), ("budget", .int n)]

def Configuration.toJson (c : Configuration) : Json :=
  .object [("command", c.command.toJson), ("state", c.state.toJson)]

def Trace.toJson (t : Trace) : Json :=
  .object [("configurations", .array (t.configurations.map Configuration.toJson)),
    ("steps", .int t.steps), ("terminated", .bool t.terminated), ("final", t.final.toJson)]

def FlatNode.toJson (n : FlatNode) : Json :=
  .object [("rule", .string n.rule.tag), ("command", n.command.toJson), ("pre", n.pre.toJson),
    ("post", n.post.toJson), ("premises", .array (n.premises.map .int))]

namespace Derivation

mutual

def toJson : Derivation → Json
  | ⟨r, c, s, t, ps⟩ =>
    .object [("rule", .string r.tag), ("command", c.toJson), ("pre", s.toJson),
      ("post", t.toJson), ("premises", .array (toJsons ps))]

def toJsons : List Derivation → List Json
  | [] => []
  | d :: ds => d.toJson :: toJsons ds

end

end Derivation

def Names.toJson (names : Names) : Json :=
  .object (names.entries.map fun e => (toString e.1, .string e.2))

def Program.toJson (p : Program) : Json :=
  .object [("name", .string p.name), ("description", .string p.description),
    ("command", p.command.toJson), ("names", p.names.toJson), ("initial", p.initial.toJson)]

def Issue.toJson (i : Issue) : Json :=
  .object [("severity", .string i.severity.tag), ("code", .string i.code),
    ("message", .string i.message), ("field_path", .ofText? i.place?)]

def Approximation.toJson (a : Approximation) : Json :=
  .object [("budget", .int a.budget),
    ("state", match a.result with
      | some s => s.toJson
      | none => .null)]

def Report.toJson (r : Report) : Json :=
  .object [("initial", r.initial.toJson), ("small_step", r.outcomes.smallStep.toJson),
    ("steps_taken", .int r.steps), ("big_step", r.outcomes.bigStep.toJson),
    ("interpreter", r.outcomes.interpreter.toJson),
    ("denotation", r.outcomes.denoted.toJson), ("least_budget", .ofNat? r.leastBudget),
    ("agree", .bool r.agree), ("issues", .array (r.issues.map Issue.toJson))]

end WhileLang

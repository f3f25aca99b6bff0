import WhileLang.Evaluator
import WhileLang.Command

/-!
# Derivations of the natural semantics

A derivation is a tree of inference steps `pre --command--> post`, each labelled with one of seven
rules. Any tree can be written down; `Follows` says what it takes for a node to be an instance of
the rule it is labelled with, and `Proof` that all nodes of a tree are.

`height` and `stepCount` are the two sizes of a derivation that matter for running the command:
the budget it needs and the number of small steps it takes.
-/

namespace WhileLang

/-- The inference rules: one for each form of command, two where a condition decides. -/
inductive Rule where
  | skip
  | assign
  | seq
  | branchTrue
  | branchFalse
  | loopFalse
  | loopTrue
deriving DecidableEq

namespace Rule

instance : Inhabited Rule := ⟨.skip⟩

def all : List Rule := [skip, assign, seq, branchTrue, branchFalse, loopFalse, loopTrue]

/-- The name of a rule. -/
def tag : Rule → String
  | skip => "skip"
  | assign => "assign"
  | seq => "seq"
  | branchTrue => "if_true"
  | branchFalse => "if_false"
  | loopFalse => "while_false"
  | loopTrue => "while_true"

/-- The form of the commands that a rule is about. -/
def form : Rule → Command.Form
  | skip => .skip
  | assign => .assign
  | seq => .seq
  | branchTrue | branchFalse => .branch
  | loopFalse | loopTrue => .loop

/-- The number of premises of a rule. -/
def arity : Rule → Nat
  | skip | assign | loopFalse => 0
  | branchTrue | branchFalse => 1
  | seq | loopTrue => 2

/-- The small steps that a rule adds to those of its premises. -/
def stepCost : Rule → Nat
  | skip => 0
  | assign | loopFalse | seq | branchTrue | branchFalse => 1
  | loopTrue => 2

/-- The rule with the given name. -/
def ofTag? (t : String) : Option Rule := all.find? fun r => r.tag = t

end Rule

/-- A tree of inference steps. -/
structure Derivation where
  rule : Rule
  command : Command
  pre : State
  post : State
  premises : List Derivation

namespace Derivation

instance : Inhabited Derivation := ⟨⟨.skip, .skip, .initial, .initial, []⟩⟩

mutual

/-- The number of nodes. -/
def size : Derivation → Nat
  | ⟨_, _, _, _, ps⟩ => sizes ps + 1

/-- The number of nodes of several trees. -/
def sizes : List Derivation → Nat
  | [] => 0
  | d :: ds => d.size + sizes ds

end

mutual

/-- The number of nodes on a longest path from the root. -/
def height : Derivation → Nat
  | ⟨_, _, _, _, ps⟩ => heights ps + 1

/-- The greatest height of several trees. -/
def heights : List Derivation → Nat
  | [] => 0
  | d :: ds => max d.height (heights ds)

end

@[simp] theorem height_mk (r : Rule) (c : Command) (s t : State) (ps : List Derivation) :
    height ⟨r, c, s, t, ps⟩ = heights ps + 1 := by rw [height]

@[simp] theorem heights_nil : heights [] = 0 := by rw [heights]

@[simp] theorem heights_cons (d : Derivation) (ds : List Derivation) :
    heights (d :: ds) = max d.height (heights ds) := by rw [heights]

mutual

/-- The number of small steps that the derived command takes. -/
def stepCount : Derivation → Nat
  | ⟨r, _, _, _, ps⟩ => stepCounts ps + r.stepCost

def stepCounts : List Derivation → Nat
  | [] => 0
  | d :: ds => d.stepCount + stepCounts ds

end

@[simp] theorem stepCount_mk (r : Rule) (c : Command) (s t : State) (ps : List Derivation) :
    stepCount ⟨r, c, s, t, ps⟩ = stepCounts ps + r.stepCost := by rw [stepCount]

@[simp] theorem stepCounts_nil : stepCounts [] = 0 := by rw [stepCounts]

@[simp] theorem stepCounts_cons (d : Derivation) (ds : List Derivation) :
    stepCounts (d :: ds) = d.stepCount + stepCounts ds := by rw [stepCounts]

mutual

/-- Replaces the command of every node. -/
def mapCommand (f : Command → Command) : Derivation → Derivation
  | ⟨r, c, s, t, ps⟩ => ⟨r, f c, s, t, mapCommands f ps⟩

def mapCommands (f : Command → Command) : List Derivation → List Derivation
  | [] => []
  | d :: ds => d.mapCommand f :: mapCommands f ds

end

@[simp] theorem mapCommand_mk (f : Command → Command) (r : Rule) (c : Command) (s t : State)
    (ps : List Derivation) :
    mapCommand f ⟨r, c, s, t, ps⟩ = ⟨r, f c, s, t, mapCommands f ps⟩ := by rw [mapCommand]

@[simp] theorem mapCommands_nil (f : Command → Command) : mapCommands f [] = [] := by
  rw [mapCommands]

@[simp] theorem mapCommands_cons (f : Command → Command) (d : Derivation)
    (ds : List Derivation) :
    mapCommands f (d :: ds) = d.mapCommand f :: mapCommands f ds := by rw [mapCommands]

@[simp] theorem post_mapCommand (f : Command → Command) (d : Derivation) :
    (d.mapCommand f).post = d.post := by
  cases d
  rw [mapCommand_mk]

/-- The node is an instance of the rule it is labelled with. -/
inductive Follows (ev : Evaluator) : Derivation → Prop
  | skip (s : State) : Follows ev ⟨.skip, .skip, s, s, []⟩
  | assign (x : Ident) (e : AExp) (s : State) :
      Follows ev ⟨.assign, .assign x e, s, s.update x (ev.aexp s e), []⟩
  | seq (d₁ d₂ : Derivation) (h : d₂.pre = d₁.post) :
      Follows ev ⟨.seq, .seq d₁.command d₂.command, d₁.pre, d₂.post, [d₁, d₂]⟩
  | branchTrue (b : BExp) (c₂ : Command) (d : Derivation) (h : ev.bexp d.pre b = true) :
      Follows ev ⟨.branchTrue, .branch b d.command c₂, d.pre, d.post, [d]⟩
  | branchFalse (b : BExp) (c₁ : Command) (d : Derivation) (h : ev.bexp d.pre b = false) :
      Follows ev ⟨.branchFalse, .branch b c₁ d.command, d.pre, d.post, [d]⟩
  | loopFalse (b : BExp) (c : Command) (s : State) (h : ev.bexp s b = false) :
      Follows ev ⟨.loopFalse, .loop b c, s, s, []⟩
  | loopTrue (b : BExp) (d₁ d₂ : Derivation) (h : ev.bexp d₁.pre b = true)
      (hc : d₂.command = .loop b d₁.command) (hs : d₂.pre = d₁.post) :
      Follows ev ⟨.loopTrue, .loop b d₁.command, d₁.pre, d₂.post, [d₁, d₂]⟩

/-- Every node of the tree follows by its rule. -/
inductive Proof (ev : Evaluator) : Derivation → Prop
  | intro {d : Derivation} (root : Follows ev d) (premises : ∀ p ∈ d.premises, Proof ev p) :
      Proof ev d

/-- The subtree at a path: each number picks a premise. -/
def at? (d : Derivation) : List Nat → Option Derivation
  | [] => some d
  | i :: path =>
    match d.premises[i]? with
    | some p => p.at? path
    | none => none

end Derivation

end WhileLang

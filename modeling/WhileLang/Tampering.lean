import WhileLang.Agreement

/-!
# Tampering

Ways to break single engines on purpose, to see what the checks make of it. Any combination can be
chosen; without a choice all engines are those of the language.
-/

namespace WhileLang

/-- Which engines are broken, and how. -/
structure Tampering where
  /-- Every sum is one too large. -/
  plusOffByOne : Bool := false
  /-- The interpreter ends with one more in this variable. -/
  runBump : Option Ident := none
  /-- The interpreter loses its result above this budget. -/
  forgetAbove : Option Int := none
  /-- The interpreter changes its result above this budget. -/
  bumpAbove : Option Int := none
  /-- Every configuration has two successors. -/
  fork : Bool := false
  /-- No configuration has a successor. -/
  stuck : Bool := false
  /-- A derivation that is built ends with one more in this variable. -/
  forgePost : Option Ident := none

namespace Tampering

def evaluator (t : Tampering) : Evaluator := if t.plusOffByOne then .offByOne else .standard

def stepper (t : Tampering) : Stepper :=
  if t.fork then .forked else if t.stuck then .halted else .standard t.evaluator

def interpreter (t : Tampering) : Interpreter :=
  let g := Interpreter.standard t.evaluator
  let g := match t.bumpAbove with
    | some limit => g.bumpAbove limit
    | none => g
  match t.forgetAbove with
  | some limit => g.forgetAbove limit
  | none => g

/-- The outcome of a run, which unlike a result at a budget may be bumped. -/
def run (t : Tampering) (c : Command) (s : State) (b : Int) : Except Error Outcome :=
  (t.interpreter.run c s b).map fun
    | .terminated s =>
      .terminated (match t.runBump with
        | some x => s.bump x
        | none => s)
    | .undetermined b => .undetermined b

def build (t : Tampering) (b : Int) (s : State) (c : Command) :
    Except Error (Option Derivation) :=
  (Derivation.build t.evaluator b s c).map fun d =>
    match t.forgePost with
    | some x => d.map (·.forgePost x)
    | none => d

def meanings (t : Tampering) (ceiling : Int) : Denotation :=
  ⟨t.evaluator, t.interpreter, ceiling⟩

def engines (t : Tampering) (ceiling : Int) : Engines :=
  .assemble t.evaluator t.stepper t.build t.run (t.meanings ceiling)

end Tampering

end WhileLang

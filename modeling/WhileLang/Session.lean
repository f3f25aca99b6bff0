import WhileLang.Catalog
import WhileLang.Phrase

/-!
# Sessions

A session works on one configuration: its command can be run, simplified and built upon, its state
can be changed, and questions can be asked about it. Every change can be undone; a question
changes nothing, and neither does an action that fails.
-/

namespace WhileLang

/-- The configuration at work, and those it has replaced, the latest first. -/
structure Session where
  current : Configuration
  history : List Configuration

namespace Session

/-- What can be asked of a session. -/
inductive Action where
  /-- Follow the transition rules for a limited number of steps. -/
  | step (limit : Int)
  /-- Run the command on a budget, and keep the result if there is one. -/
  | interp (budget : Int)
  /-- Change the value of a variable. -/
  | set (x : Ident) (v : Int)
  | optimize
  /-- Put a command in front. -/
  | prepend (c : Command)
  /-- Put commands behind. -/
  | append (cs : List Command)
  /-- Repeat the command while a condition holds. -/
  | loop (b : BExp)
  /-- Run the command if a condition holds, and another one otherwise. -/
  | branch (b : BExp) (c : Command)
  /-- Replace the command by one of the catalogue. -/
  | load (name : String)
  | undo
  /-- The least budget that suffices. -/
  | least (upper : Option Int)
  /-- The final state that can be derived on a budget. -/
  | finalState (budget : Int)
  /-- Whether a final state can be derived on a budget. -/
  | relates (budget : Int) (t : State)
  /-- The denotation, and the right-hand side of its equation. -/
  | denote
  | lookup (x : Ident)
  | successors

/-- What a session answers. -/
inductive Answer where
  | done
  | progress (steps : Nat) (terminated : Bool)
  | outcome (o : Outcome)
  | least (budget : Option Nat)
  | state (s : Option State)
  | truth (b : Bool)
  | equation (left right : Outcome)
  | value (v : Int)
  | configurations (cs : List Configuration)

/-- The ceiling of the denotation in a session. -/
def ceiling : Int := 300

/-- Goes on to a configuration and remembers the one before. -/
def goTo (s : Session) (c : Configuration) : Session := ⟨c, s.current :: s.history⟩

/-- Goes on to another command in the same state. -/
def goToCommand (s : Session) (c : Command) : Session := s.goTo ⟨c, s.current.state⟩

/-- Takes back the last change, if there is one. -/
def undo (s : Session) : Session :=
  match s.history with
  | [] => s
  | c :: history => ⟨c, history⟩

/-- The answer to an action, and the session after it. -/
def perform (s : Session) (action : Action) : Except Error (Answer × Session) :=
  let c := s.current.command
  let st := s.current.state
  let den := Denotation.standard .standard ceiling
  match action with
  | .step limit => do
    let t ← (Stepper.standard .standard).trace false s.current limit
    return (.progress t.steps t.terminated, s.goTo t.final)
  | .interp b => do
    match ← (Interpreter.standard .standard).run c st b with
    | .terminated t => return (.outcome (.terminated t), s.goTo ⟨.skip, t⟩)
    | .undetermined b => return (.outcome (.undetermined b), s)
  | .set x v => .ok (.done, s.goTo ⟨c, st.update x v⟩)
  | .optimize => .ok (.done, s.goToCommand c.dropZeroPlus)
  | .prepend c₁ => .ok (.done, s.goToCommand (.seq c₁ c))
  | .append cs => .ok (.done, s.goToCommand (.inOrder (c :: cs)))
  | .loop b => .ok (.done, s.goToCommand (.loop b c))
  | .branch b c₂ => .ok (.done, s.goToCommand (.branch b c c₂))
  | .load name => do return (.done, s.goToCommand (← Catalog.find name).command)
  | .undo => .ok (.done, s.undo)
  | .least upper => do return (.least (← den.leastBudget st c (upper.getD ceiling)), s)
  | .finalState b => do return (.state (← Derivation.finalState .standard st c b), s)
  | .relates b t => do return (.truth (← Derivation.relates .standard st c t b), s)
  | .denote => do return (.equation (← den.denote st c) (← den.unfold st c), s)
  | .lookup x => .ok (.value (st.lookup x), s)
  | .successors => .ok (.configurations (Stepper.standard .standard s.current), s)

end Session

end WhileLang

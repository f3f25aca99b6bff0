import WhileLang.Error
import WhileLang.Evaluator
import WhileLang.Outcome
import WhileLang.Render

/-!
# Small steps

A configuration is a command that is still to be run and the state it is run in. The transition
rules are

- `x := e` assigns and leaves `skip`;
- a sequence takes a step of its first part, or drops the first part if that is `skip`;
- a branch goes on with the side that its condition chooses;
- a loop goes on with its body followed by itself, or with `skip`.

`successors` lists the result of *every* rule that applies, and does not assume that there is at
most one. A `Stepper` is any such list-valued function; `Stepper.trace` follows it for a limited
number of steps and stops with an error where the next step is not determined.
-/

namespace WhileLang

/-- A command to be run, and the state to run it in. -/
structure Configuration where
  command : Command
  state : State
deriving DecidableEq

namespace Configuration

instance : Inhabited Configuration := ⟨⟨.skip, .initial⟩⟩

def render (names : Names) (c : Configuration) : Except Error String := do
  return "<" ++ (← c.command.inline names) ++ ", " ++ (← c.state.render names) ++ ">"

end Configuration

/-- The configurations that some rule reaches in one step. -/
def Command.successors (ev : Evaluator) : Command → State → List Configuration
  | skip, _ => []
  | assign x e, s => [⟨skip, s.update x (ev.aexp s e)⟩]
  | seq c₁ c₂, s =>
    (c₁.successors ev s).map (fun next => ⟨seq next.command c₂, next.state⟩) ++
      if c₁.isSkip then [⟨c₂, s⟩] else []
  | branch b c₁ c₂, s =>
    (if ev.bexp s b then [⟨c₁, s⟩] else []) ++ if ev.bexp s b then [] else [⟨c₂, s⟩]
  | loop b c, s =>
    (if ev.bexp s b then [⟨seq c (loop b c), s⟩] else []) ++
      if ev.bexp s b then [] else [⟨skip, s⟩]

/-- A transition relation, given by the list of the successors of each configuration. -/
abbrev Stepper := Configuration → List Configuration

/-- What following a stepper came to. -/
structure Trace where
  /-- The configurations passed through, the first one included; empty if not recorded. -/
  configurations : List Configuration
  steps : Nat
  terminated : Bool
  final : Configuration
deriving DecidableEq

/-- The outcome of a trace that was cut off at `limit`. -/
def Trace.outcome (t : Trace) (limit : Int) : Outcome :=
  if t.terminated then .terminated t.final.state else .undetermined limit

theorem Trace.outcome_eq_terminated_iff {tr : Trace} {limit : Int} {t : State} :
    tr.outcome limit = .terminated t ↔ tr.terminated = true ∧ tr.final.state = t := by
  rw [outcome]
  split <;> rename_i h <;> simp [h]

namespace Stepper

/-- The transition rules of the language. -/
def standard (ev : Evaluator) : Stepper := fun c => c.command.successors ev c.state

/-- Every configuration has itself as a successor, twice. -/
def forked : Stepper := fun c => [c, c]

/-- No configuration has a successor. -/
def halted : Stepper := fun _ => []

/-- The next configuration, if there is one; it is an error if there are several. -/
def step (st : Stepper) (c : Configuration) : Except Error (Option Configuration) :=
  match st c with
  | [] => .ok none
  | [next] => .ok (some next)
  | found => .error (.severalSuccessors found.length c.command.form)

/-- A run under way: where it is, how far it came, and what it passed, the latest first. -/
structure Walk where
  current : Configuration
  steps : Nat
  visited : List Configuration

/-- The run one step further. -/
def Walk.advance (record : Bool) (w : Walk) (next : Configuration) : Walk :=
  ⟨next, w.steps + 1, if record then next :: w.visited else w.visited⟩

/-- At most `limit` further steps. A run ends early at `skip`, and only there. -/
def walk (st : Stepper) (record : Bool) : (limit : Nat) → Walk → Except Error Walk
  | 0, w => .ok w
  | limit + 1, w =>
    match st.step w.current with
    | .error e => .error e
    | .ok none =>
      if w.current.command.isSkip then .ok w else .error (.noSuccessor w.current.command.form)
    | .ok (some next) => walk st record limit (w.advance record next)

/-- The trace that a run has left. -/
def Walk.toTrace (w : Walk) : Trace :=
  ⟨w.visited.reverse, w.steps, w.current.command.isSkip, w.current⟩

/-- Follows the stepper from `c` for at most `limit` steps. -/
def trace (st : Stepper) (record : Bool) (c : Configuration) (limit : Int) : Except Error Trace :=
  if limit < 0 then .error (.negativeStepLimit limit)
  else (walk st record limit.toNat ⟨c, 0, if record then [c] else []⟩).map Walk.toTrace

/-- The outcome of following the stepper for at most `limit` steps. -/
def run (st : Stepper) (c : Configuration) (limit : Int) : Except Error Outcome :=
  (st.trace false c limit).map (·.outcome limit)

end Stepper

end WhileLang

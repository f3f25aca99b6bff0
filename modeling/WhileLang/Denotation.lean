import WhileLang.Interpreter

/-!
# Denotation

What a command means is the state at which its results settle as the budget grows. A `Denotation`
looks at the budgets up to a ceiling: `meaning` is the result at the ceiling, `leastBudget` the
budget from which on it is there, found by bisection. `unfold` is the right-hand side of the
equation that a meaning satisfies, with the meanings of the parts. For a loop that equation asks
for a fixed point of `loopFunctional`, and `kleene` runs through the approximations of the least
one.
-/

namespace WhileLang

/-- A partial function on states that may fail. -/
abbrev StateFn := State → Except Error (Option State)

namespace StateFn

/-- Defined nowhere. -/
def bottom : StateFn := fun _ => .ok none

def identity : StateFn := fun s => .ok (some s)

/-- Gives `x` the value `v`. -/
def assign (x : Ident) (v : Int) : StateFn := fun s => .ok (some (s.update x v))

/-- A partial function that never fails. -/
def ofPartial (f : State → Option State) : StateFn := fun s => .ok (f s)

/-- `g` after `f`, where `f` is defined. -/
def andThen (f g : StateFn) : StateFn := fun s =>
  match f s with
  | .error e => .error e
  | .ok none => .ok none
  | .ok (some t) => g t

end StateFn

/-- A result, and the budget it was found at. -/
structure Approximation where
  budget : Int
  result : Option State
deriving DecidableEq

/-- Meanings as far as an interpreter finds them below a ceiling. -/
structure Denotation where
  evaluator : Evaluator
  interpreter : Interpreter
  ceiling : Int

/-- The least place of `lo + 1`, …, `hi` from which on `finished` holds, if it holds at `hi` and
never ceases to hold. -/
def bisect (finished : Nat → Except Error Bool) (lo hi : Nat) : Except Error Nat :=
  if lo + 1 < hi then
    match finished ((lo + hi) / 2) with
    | .error e => .error e
    | .ok true => bisect finished lo ((lo + hi) / 2)
    | .ok false => bisect finished ((lo + hi) / 2) hi
  else .ok hi
termination_by hi - lo
decreasing_by all_goals omega

namespace Denotation

/-- The denotation of the language with the given ceiling. -/
def standard (ev : Evaluator) (ceiling : Int) : Denotation := ⟨ev, .standard ev, ceiling⟩

/-- The result of a command at the ceiling. -/
def meaning (den : Denotation) (c : Command) : StateFn := fun s =>
  den.interpreter den.ceiling c s

def denote (den : Denotation) (s : State) (c : Command) : Except Error Outcome :=
  (den.meaning c s).map (Outcome.ofResult den.ceiling)

/-- The results at the given budgets. -/
def approximations (den : Denotation) (s : State) (c : Command) (budgets : List Int) :
    Except Error (List Approximation) :=
  budgets.mapM fun b => (den.interpreter b c s).map fun r => ⟨b, r⟩

/-- Whether there is a result at a budget. -/
def finished (den : Denotation) (s : State) (c : Command) (k : Nat) : Except Error Bool :=
  (den.interpreter k c s).map Option.isSome

/-- The least budget that suffices, among those up to `upper`. -/
def leastBudget (den : Denotation) (s : State) (c : Command) (upper : Int) :
    Except Error (Option Nat) :=
  match den.interpreter upper c s with
  | .error e => .error e
  | .ok none => .ok none
  | .ok (some _) => (bisect (den.finished s c) 0 upper.toNat).map some

/-- One turn of a loop, after which `f` takes over. -/
def loopFunctional (den : Denotation) (b : BExp) (c : Command) (f : StateFn) : StateFn := fun s =>
  if den.evaluator.bexp s b then (den.meaning c).andThen f s else .ok (some s)

/-- The right-hand side of the equation for the meaning of a command. -/
def unfold (den : Denotation) (s : State) : Command → Except Error Outcome
  | .skip => .ok (.terminated s)
  | .assign x e => .ok (.terminated (s.update x (den.evaluator.aexp s e)))
  | .seq c₁ c₂ =>
    ((den.meaning c₁).andThen (den.meaning c₂) s).map (Outcome.ofResult den.ceiling)
  | .branch b c₁ c₂ =>
    (den.meaning (if den.evaluator.bexp s b then c₁ else c₂) s).map
      (Outcome.ofResult den.ceiling)
  | .loop b c =>
    (den.loopFunctional b c (den.meaning (.loop b c)) s).map (Outcome.ofResult den.ceiling)

/-- The function of a loop that may take fewer than `n` turns. -/
def approximant (den : Denotation) (b : BExp) (c : Command) : (n : Nat) → StateFn
  | 0 => .bottom
  | n + 1 => den.loopFunctional b c (approximant den b c n)

/-- The approximants of a loop by an integer, which must not be negative. -/
def kleene (den : Denotation) (b : BExp) (c : Command) (n : Int) : Except Error StateFn :=
  if n < 0 then .error (.negativeTurns n) else .ok (den.approximant b c n.toNat)

/-- `f` satisfies the equation of the loop in every state of the list. -/
def isFixpoint (den : Denotation) (b : BExp) (c : Command) (f : StateFn) :
    List State → Except Error Bool
  | [] => .ok true
  | s :: rest =>
    match f s with
    | .error e => .error e
    | .ok value =>
      match den.loopFunctional b c f s with
      | .error e => .error e
      | .ok unrolled =>
        if value = unrolled then isFixpoint den b c f rest else .ok false

/-- `f` has the value of the loop in every state of the list in which the loop ends. -/
def agreesWith (den : Denotation) (b : BExp) (c : Command) (f : StateFn) :
    List State → Except Error Bool
  | [] => .ok true
  | s :: rest =>
    match den.meaning (.loop b c) s with
    | .error e => .error e
    | .ok none => agreesWith den b c f rest
    | .ok (some t) =>
      match f s with
      | .error e => .error e
      | .ok value => if value = some t then agreesWith den b c f rest else .ok false

end Denotation

end WhileLang

import WhileLang.Error
import WhileLang.Evaluator
import WhileLang.Outcome

/-!
# Running commands on a budget

`Command.interp` runs a command on a budget. One unit is spent on entering a command; what is left
is handed undivided to each part that is run next, so the budget bounds the depth of a run and not
its length. On an empty budget there is no result, whatever the command, and no result means no
more than that: the budget may have been too small.

An `Interpreter` is any function of a budget, a command and a state. The library's checks take one
as a parameter. It is up to the interpreter what to make of a negative budget; that of the language
refuses it.
-/

namespace WhileLang

/-- Runs a command on a budget; there is no result if the budget does not suffice. -/
def Command.interp (ev : Evaluator) : (budget : Nat) → Command → State → Option State
  | 0, _, _ => none
  | _ + 1, skip, s => some s
  | _ + 1, assign x e, s => some (s.update x (ev.aexp s e))
  | k + 1, seq c₁ c₂, s =>
    match interp ev k c₁ s with
    | none => none
    | some t => interp ev k c₂ t
  | k + 1, branch b c₁ c₂, s => if ev.bexp s b then interp ev k c₁ s else interp ev k c₂ s
  | k + 1, loop b c, s =>
    if ev.bexp s b then
      match interp ev k c s with
      | none => none
      | some t => interp ev k (loop b c) t
    else some s

namespace Command

variable {ev : Evaluator}

@[simp] theorem interp_zero (c : Command) (s : State) : c.interp ev 0 s = none := by
  cases c <;> rfl

@[simp] theorem interp_skip (k : Nat) (s : State) : skip.interp ev (k + 1) s = some s := rfl

@[simp] theorem interp_assign (k : Nat) (x : Ident) (e : AExp) (s : State) :
    (assign x e).interp ev (k + 1) s = some (s.update x (ev.aexp s e)) := rfl

theorem interp_seq (k : Nat) (c₁ c₂ : Command) (s : State) :
    (seq c₁ c₂).interp ev (k + 1) s = (c₁.interp ev k s).bind fun t => c₂.interp ev k t := by
  rw [interp]
  cases c₁.interp ev k s <;> rfl

theorem interp_branch (k : Nat) (b : BExp) (c₁ c₂ : Command) (s : State) :
    (branch b c₁ c₂).interp ev (k + 1) s =
      if ev.bexp s b then c₁.interp ev k s else c₂.interp ev k s := rfl

theorem interp_loop (k : Nat) (b : BExp) (c : Command) (s : State) :
    (loop b c).interp ev (k + 1) s =
      if ev.bexp s b then (c.interp ev k s).bind fun t => (loop b c).interp ev k t
      else some s := by
  rw [interp]
  cases c.interp ev k s <;> rfl

end Command

/-- A way to run commands on budgets, which may be refused. -/
abbrev Interpreter := (budget : Int) → Command → State → Except Error (Option State)

/-- A budget as callers give it: an integer that must not be negative. -/
def budget? (b : Int) : Except Error Nat :=
  if b < 0 then .error (.negativeBudget b) else .ok b.toNat

@[simp] theorem budget?_natCast (n : Nat) : budget? n = .ok n := by
  simp [budget?, Int.not_lt.2 (Int.natCast_nonneg n)]

theorem budget?_eq_ok_iff {b : Int} {n : Nat} : budget? b = .ok n ↔ b = n := by
  constructor
  · intro h
    by_cases hneg : b < 0
    · rw [budget?, if_pos hneg] at h
      cases h
    · rw [budget?, if_neg hneg] at h
      rw [← Except.ok.inj h]
      omega
  · rintro rfl
    exact budget?_natCast n

/-- A line for the log. -/
structure LogLine where
  source : String
  level : String
  text : String
deriving DecidableEq

namespace Interpreter

/-- Runs commands by a function, and refuses negative budgets. -/
def ofPartial (f : (budget : Nat) → Command → State → Option State) : Interpreter := fun b c s =>
  (budget? b).map fun k => f k c s

/-- The interpreter of the language. -/
def standard (ev : Evaluator) : Interpreter := ofPartial (Command.interp ev)

/-- The outcome at a budget. -/
def run (g : Interpreter) (c : Command) (s : State) (b : Int) : Except Error Outcome :=
  (g b c s).map (Outcome.ofResult b)

@[simp] theorem ofPartial_natCast (f : (budget : Nat) → Command → State → Option State) (n : Nat)
    (c : Command) (s : State) : ofPartial f n c s = .ok (f n c s) := by
  simp [ofPartial, Except.map]

@[simp] theorem standard_natCast (ev : Evaluator) (n : Nat) (c : Command) (s : State) :
    standard ev n c s = .ok (c.interp ev n s) := by
  rw [standard, ofPartial_natCast]

@[simp] theorem run_standard_natCast (ev : Evaluator) (c : Command) (s : State) (n : Nat) :
    (standard ev).run c s n = .ok (.ofResult n (c.interp ev n s)) := by
  rw [run, standard_natCast]
  rfl

/-- The interpreter fails on negative budgets only. -/
theorem standard_eq_ok_iff {ev : Evaluator} {b : Int} {c : Command} {s : State}
    {r : Option State} : standard ev b c s = .ok r ↔ ∃ k : Nat, b = k ∧ c.interp ev k s = r := by
  simp only [standard, ofPartial, map_eq_ok_iff, budget?_eq_ok_iff]

/-- What is logged about an outcome: an exhausted budget is worth a warning. -/
def logLine? : Outcome → Option LogLine
  | .terminated _ => none
  | .undetermined b =>
    some ⟨"impsem.interpreter", "WARNING",
      "Budżet " ++ toString b ++ " wyczerpany, wynik nieustalony."⟩

/-- Has no result at a budget above `limit`, and does not look at the command then. -/
def forgetAbove (limit : Int) (g : Interpreter) : Interpreter := fun b c s =>
  if limit < b then .ok none else g b c s

/-- Adds one to the variable `0` of every result at a budget above `limit`. -/
def bumpAbove (limit : Int) (g : Interpreter) : Interpreter := fun b c s =>
  (g b c s).map fun r => if limit < b then r.map (·.bump 0) else r

end Interpreter

end WhileLang

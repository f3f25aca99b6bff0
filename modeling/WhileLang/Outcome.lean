import WhileLang.State

/-!
# Outcomes

The result of running a command under a limit: a final state, or the limit at which it was still
running. The latter is no statement about divergence.
-/

namespace WhileLang

inductive Outcome where
  | terminated (state : State)
  | undetermined (limit : Int)
deriving DecidableEq

namespace Outcome

instance : Inhabited Outcome := ⟨.undetermined 0⟩

/-- The outcome of a run that gave `result` at the given limit. -/
def ofResult (limit : Int) : Option State → Outcome
  | some s => terminated s
  | none => undetermined limit

/-- The final state, if there is one. -/
def state? : Outcome → Option State
  | terminated s => some s
  | undetermined _ => none

/-- The word for the form of an outcome. -/
def tag : Outcome → String
  | terminated _ => "terminated"
  | undetermined _ => "undetermined"

@[simp] theorem state?_ofResult (limit : Int) (r : Option State) :
    (ofResult limit r).state? = r := by
  cases r <;> rfl

theorem state?_eq_some_iff {o : Outcome} {t : State} : o.state? = some t ↔ o = terminated t := by
  cases o <;> simp [state?]

@[simp] theorem ofResult_eq_terminated_iff {limit : Int} {r : Option State} {t : State} :
    ofResult limit r = terminated t ↔ r = some t := by
  rw [← state?_eq_some_iff, state?_ofResult]

end Outcome

end WhileLang

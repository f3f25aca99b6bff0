import WhileLang.Agreement
import WhileLang.Proofs.Derivation.Construction

/-!
# Loops are least fixed points

The equation of a loop has many solutions: where the loop runs for ever, a solution may have any
value that it keeps from turn to turn. Where the loop ends, the equation leaves no choice, and
every solution has the value of the loop (`eq_some_of_interp_eq_some`). It is enough that the
equation holds in states that the body does not leave, so `checkFixpoint` never reports that a
solution on such a list disagrees with the loop (`least_fixpoint`).

The equation runs the body at the ceiling of the denotation, while the interpreter leaves a late
turn less than that. The induction is therefore on the budget of the loop, and a result of the
body is taken from there to the ceiling (`Command.interp_mono`).
-/

namespace WhileLang

namespace Denotation

variable {ev : Evaluator} {B : Nat} {b : BExp} {c : Command} {f : State → Option State}

/-- `f` satisfies the equation of the loop in the state `s`; the body is run on the budget `B`. -/
def Solves (ev : Evaluator) (B : Nat) (b : BExp) (c : Command) (f : State → Option State)
    (s : State) : Prop :=
  f s = if ev.bexp s b then (c.interp ev B s).bind f else some s

instance (s : State) : Decidable (Solves ev B b c f s) := inferInstanceAs (Decidable (_ = _))

/-- The body of the loop, run at the ceiling, leads from states of the list to states of the list
only. -/
def IsClosed (den : Denotation) (b : BExp) (c : Command) (states : List State) : Prop :=
  ∀ s ∈ states, den.evaluator.bexp s b = true → ∀ t, den.meaning c s = .ok (some t) → t ∈ states

/-! ## What the checks compare -/

@[simp] theorem evaluator_standard (B : Int) : (standard ev B).evaluator = ev := rfl

@[simp] theorem meaning_standard (c : Command) (s : State) :
    (standard ev B).meaning c s = .ok (c.interp ev B s) :=
  Interpreter.standard_natCast ev B c s

theorem denote_standard (B : Nat) (s : State) (c : Command) :
    (standard ev B).denote s c = .ok (.ofResult B (c.interp ev B s)) := by
  rw [denote, meaning_standard]
  rfl

theorem denote_eq_terminated_iff {s t : State} :
    (standard ev B).denote s c = .ok (.terminated t) ↔ c.interp ev B s = some t := by
  rw [denote_standard, Except.ok.injEq, Outcome.ofResult_eq_terminated_iff]

theorem loopFunctional_standard (s : State) :
    (standard ev B).loopFunctional b c (.ofPartial f) s =
      .ok (if ev.bexp s b then (c.interp ev B s).bind f else some s) := by
  simp only [loopFunctional, StateFn.andThen, meaning_standard, evaluator_standard]
  split
  · cases c.interp ev B s <;> rfl
  · rfl

theorem isFixpoint_standard (states : List State) :
    (standard ev B).isFixpoint b c (.ofPartial f) states =
      .ok (decide (∀ s ∈ states, Solves ev B b c f s)) := by
  induction states with
  | nil => simp [isFixpoint]
  | cons s rest ih =>
    have hstep : (standard ev B).isFixpoint b c (.ofPartial f) (s :: rest) =
        if Solves ev B b c f s then (standard ev B).isFixpoint b c (.ofPartial f) rest
        else .ok false := by
      simp only [isFixpoint, loopFunctional_standard]
      rfl
    rw [hstep, ih]
    by_cases hs : Solves ev B b c f s <;> simp [hs]

theorem agreesWith_eq_true_iff {states : List State} :
    (standard ev B).agreesWith b c (.ofPartial f) states = .ok true ↔
      ∀ s ∈ states, ∀ t, (Command.loop b c).interp ev B s = some t → f s = some t := by
  induction states with
  | nil => simp [agreesWith]
  | cons s rest ih =>
    rw [agreesWith, meaning_standard, List.forall_mem_cons, ← ih]
    cases (Command.loop b c).interp ev B s with
    | none => simp
    | some t => by_cases hs : f s = some t <;> simp [StateFn.ofPartial, hs]

/-! ## The least solution -/

/-- **Solutions have the values of the loop.** In a state from which the body never leaves the
states `S`, a solution on `S` has every result that the loop has there. -/
theorem eq_some_of_interp_eq_some {S : State → Prop}
    (hclosed : ∀ s, S s → ev.bexp s b = true → ∀ t, c.interp ev B s = some t → S t)
    (hf : ∀ s, S s → Solves ev B b c f s) {k : Nat} (hk : k ≤ B) {s t : State} (hs : S s)
    (h : (Command.loop b c).interp ev k s = some t) : f s = some t := by
  induction k generalizing s with
  | zero => simp at h
  | succ k ih =>
    have heq : f s = _ := hf s hs
    rw [Command.interp_loop] at h
    split at h
    · rename_i hb
      obtain ⟨u, hu, ht⟩ := Option.bind_eq_some_iff.1 h
      have hu' : c.interp ev B s = some u := Command.interp_mono (by omega) hu
      rw [heq, if_pos hb, hu', Option.bind_some]
      exact ih (by omega) (hclosed s hs hb u hu') ht
    · rename_i hb
      rw [heq, if_neg hb]
      exact h

theorem agreesWith_of_isFixpoint {states : List State}
    (hclosed : (standard ev B).IsClosed b c states)
    (h : (standard ev B).isFixpoint b c (.ofPartial f) states = .ok true) :
    (standard ev B).agreesWith b c (.ofPartial f) states = .ok true := by
  rw [isFixpoint_standard, Except.ok.injEq, decide_eq_true_iff] at h
  refine agreesWith_eq_true_iff.2 fun s hs t ht => ?_
  refine eq_some_of_interp_eq_some (fun s hs hb t ht => ?_) h (Nat.le_refl B) hs ht
  exact hclosed s hs hb t (by rw [meaning_standard, ht])

/-- On a closed list the only finding is that the function is no solution. -/
theorem checkFixpoint_standard {states : List State}
    (hclosed : (standard ev B).IsClosed b c states) :
    (standard ev B).checkFixpoint b c (.ofPartial f) states =
      .ok (if ∀ s ∈ states, Solves ev B b c f s then [] else [.notAFixpoint]) := by
  have hfix : (standard ev B).isFixpoint b c (.ofPartial f) states = .ok (decide _) :=
    isFixpoint_standard states
  by_cases h : ∀ s ∈ states, Solves ev B b c f s
  · rw [decide_eq_true h] at hfix
    rw [checkFixpoint, hfix, agreesWith_of_isFixpoint hclosed hfix, if_pos h]
    rfl
  · rw [decide_eq_false h] at hfix
    rw [checkFixpoint, hfix, if_neg h]

/-- **The least fixed point.** On a list of states that the body does not leave, a solution of the
equation of a loop agrees with the loop, so the check of a function never finds a solution that
does not; and a solution in all states has the value of the loop wherever the loop has one. -/
theorem least_fixpoint (ev : Evaluator) (B : Nat) (b : BExp) (c : Command)
    (f : State → Option State) :
    (∀ states, (standard ev B).IsClosed b c states →
      ((standard ev B).isFixpoint b c (.ofPartial f) states = .ok true →
        (standard ev B).agreesWith b c (.ofPartial f) states = .ok true) ∧
      ∃ issues, (standard ev B).checkFixpoint b c (.ofPartial f) states = .ok issues ∧
        ∀ i ∈ issues, i.code ≠ "FIXPOINT_DISAGREES") ∧
    ((∀ s, StateFn.ofPartial f s = (standard ev B).loopFunctional b c (.ofPartial f) s) →
      ∀ s t, (standard ev B).denote s (.loop b c) = .ok (.terminated t) → f s = some t) := by
  refine ⟨fun states hclosed => ⟨agreesWith_of_isFixpoint hclosed, _,
    checkFixpoint_standard hclosed, fun i hi => ?_⟩, fun hf s t ht => ?_⟩
  · split at hi
    · cases hi
    · rw [List.mem_singleton.1 hi]
      decide
  · have hsolves (s : State) (_ : True) : Solves ev B b c f s := by
      have hs := hf s
      rw [loopFunctional_standard] at hs
      exact Except.ok.inj hs
    obtain ⟨r, hr, heq⟩ := map_eq_ok_iff.1 ht
    rw [meaning_standard] at hr
    obtain rfl := Except.ok.inj hr
    exact eq_some_of_interp_eq_some (S := fun _ => True) (fun _ _ _ _ _ => trivial) hsolves
      (Nat.le_refl B) trivial (Outcome.ofResult_eq_terminated_iff.1 heq)

/-- The loop `while ¬(x₀ = 0) do if x₀ = 1 then x₀ := 0 else skip` does not end from `x₀ = 2`. A
solution may have a value there. -/
theorem least_fixpoint_beyond_loop :
    let b : BExp := .neg (.equal (.var 0) (.number 0))
    let c : Command := .branch (.equal (.var 0) (.number 1)) (.assign 0 (.number 0)) .skip
    let states : List State := [.ofList [(0, 2)], .ofList [(0, 1)], .initial]
    let f : State → Option State := fun s => some (s.update 0 0)
    (standard .standard 9).IsClosed b c states ∧
      (standard .standard 9).isFixpoint b c (.ofPartial f) states = .ok true ∧
      (standard .standard 9).meaning (.loop b c) (.ofList [(0, 2)]) = .ok none ∧
      (standard .standard 9).agreesWith b c (.ofPartial f) states = .ok true := by
  intro b c states f
  have hmem : ∀ s ∈ states, ∀ t ∈ c.interp .standard 9 s, t ∈ states := by decide
  have hclosed : (standard .standard 9).IsClosed b c states := fun s hs _ t ht =>
    hmem s hs t (Except.ok.inj ((meaning_standard c s).symm.trans ht))
  have hfix : (standard .standard 9).isFixpoint b c (.ofPartial f) states = .ok true := by rfl
  exact ⟨hclosed, hfix, by rfl,
    ((least_fixpoint .standard 9 b c f).1 states hclosed).1 hfix⟩

end Denotation

end WhileLang

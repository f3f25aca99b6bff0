import WhileLang.Proofs.Denotation.Fixpoint

/-!
# Approximations of a loop

There are two ways to cut a loop short. `Denotation.kleene` counts its turns and runs every turn at
the ceiling `B`; the interpreter has one budget, which shrinks from turn to turn. `turns` is what
the first way computes, and the two bracket each other: what `n` turns find is the result of the
loop on the budget `B + n` (`interp_of_turns`), and what the loop finds on a budget `k` up to
`B + 1` is found by `k` turns (`turns_of_interp`). So the approximations agree with the denotation
wherever both are defined, though each may be defined where the other is not.

Every solution of the equation of the loop extends all approximations (`solution_of_turns`).
-/

namespace WhileLang

namespace Denotation

variable {ev : Evaluator} {B : Nat} {b : BExp} {c : Command}

/-- The result of a loop that takes fewer than `n` turns, each of them on the budget `B`. -/
def turns (ev : Evaluator) (B : Nat) (b : BExp) (c : Command) : (n : Nat) → State → Option State
  | 0, _ => none
  | n + 1, s => if ev.bexp s b then (c.interp ev B s).bind (turns ev B b c n) else some s

theorem approximant_standard (n : Nat) :
    (standard ev B).approximant b c n = .ofPartial (turns ev B b c n) := by
  induction n with
  | zero => rfl
  | succ n ih =>
    funext s
    rw [approximant, ih, loopFunctional_standard]
    rfl

theorem kleene_standard (n : Nat) :
    (standard ev B).kleene b c n = .ok (.ofPartial (turns ev B b c n)) := by
  have hn : ¬ (n : Int) < 0 := Int.not_lt.2 (Int.natCast_nonneg n)
  rw [kleene, if_neg hn, Int.toNat_natCast, approximant_standard]

/-- A turn that is made, and the turns that follow it. -/
theorem turns_succ_eq_some_iff {n : Nat} {s t : State} :
    turns ev B b c (n + 1) s = some t ↔
      (ev.bexp s b = true ∧ ∃ u, c.interp ev B s = some u ∧ turns ev B b c n u = some t) ∨
        (ev.bexp s b = false ∧ s = t) := by
  rw [turns]
  by_cases hb : ev.bexp s b = true
  · simp [hb, Option.bind_eq_some_iff]
  · simp [hb]

theorem turns_mono {n m : Nat} (hnm : n ≤ m) {s t : State} (h : turns ev B b c n s = some t) :
    turns ev B b c m s = some t := by
  induction n generalizing m s with
  | zero => cases h
  | succ n ih =>
    obtain ⟨m, rfl⟩ : ∃ k, m = k + 1 := ⟨m - 1, by omega⟩
    rw [turns_succ_eq_some_iff] at h ⊢
    rcases h with ⟨hb, u, hu, ht⟩ | hend
    · exact .inl ⟨hb, u, hu, ih (by omega) ht⟩
    · exact .inr hend

/-- **Turns within a budget.** The interpreter needs one unit for each turn on top of the budget on
which the turns are made. -/
theorem interp_of_turns {n : Nat} {s t : State} (h : turns ev B b c n s = some t) :
    (Command.loop b c).interp ev (B + n) s = some t := by
  induction n generalizing s with
  | zero => cases h
  | succ n ih =>
    rw [← Nat.add_assoc, Command.interp_loop]
    rcases turns_succ_eq_some_iff.1 h with ⟨hb, u, hu, ht⟩ | ⟨hb, rfl⟩
    · have hu' : c.interp ev (B + n) s = some u := Command.interp_mono (by omega) hu
      rw [if_pos hb, hu', Option.bind_some]
      exact ih ht
    · rw [if_neg (ne_true_of_eq_false hb)]

/-- **A budget within turns.** A budget is used up by as many turns, and each of them has less than
the budget for itself. -/
theorem turns_of_interp {k : Nat} (hk : k ≤ B + 1) {s t : State}
    (h : (Command.loop b c).interp ev k s = some t) : turns ev B b c k s = some t := by
  induction k generalizing s with
  | zero => simp at h
  | succ k ih =>
    rw [Command.interp_loop] at h
    rw [turns_succ_eq_some_iff]
    by_cases hb : ev.bexp s b = true
    · rw [if_pos hb] at h
      obtain ⟨u, hu, ht⟩ := Option.bind_eq_some_iff.1 h
      have hu' : c.interp ev B s = some u := Command.interp_mono (by omega) hu
      exact .inl ⟨hb, u, hu', ih (by omega) ht⟩
    · rw [if_neg hb] at h
      exact .inr ⟨eq_false_of_ne_true hb, Option.some.inj h⟩

/-- A solution has the values of every approximation. It may fail where there is none. -/
theorem solution_of_turns {g : StateFn} (hg : ∀ s, g s = (standard ev B).loopFunctional b c g s)
    {n : Nat} {s t : State} (h : turns ev B b c n s = some t) : g s = .ok (some t) := by
  induction n generalizing s with
  | zero => cases h
  | succ n ih =>
    rw [hg s, loopFunctional, evaluator_standard]
    rcases turns_succ_eq_some_iff.1 h with ⟨hb, u, hu, ht⟩ | ⟨hb, rfl⟩
    · rw [if_pos hb, StateFn.andThen, meaning_standard, hu]
      exact ih ht
    · rw [if_neg (ne_true_of_eq_false hb)]

/-- **The approximations bracket the interpreter.** They are found for every number of turns and
grow with it; a value of one is the result of the loop on a budget above the ceiling, and the value
of every solution; and the results of the loop on budgets up to one above the ceiling are values of
theirs. So they never contradict the denotation, and the one of as many turns as the ceiling says
all that the denotation does. -/
theorem kleene_brackets (ev : Evaluator) (B : Nat) (b : BExp) (c : Command) (n : Nat) (s : State) :
    (standard ev B).kleene b c n = .ok (.ofPartial (turns ev B b c n)) ∧
    (∀ t, turns ev B b c n s = some t →
      (∀ m, n ≤ m → turns ev B b c m s = some t) ∧
      Interpreter.standard ev (B + n : Nat) (.loop b c) s = .ok (some t) ∧
      ∀ g : StateFn, (∀ u, g u = (standard ev B).loopFunctional b c g u) →
        g s = .ok (some t)) ∧
    (∀ k t, k ≤ B + 1 → Interpreter.standard ev k (.loop b c) s = .ok (some t) →
      turns ev B b c k s = some t) ∧
    ∀ t, (standard ev B).denote s (.loop b c) = .ok (.terminated t) →
      turns ev B b c B s = some t ∧ ∀ u, turns ev B b c n s = some u → u = t := by
  refine ⟨kleene_standard n, fun t ht => ⟨fun m hm => turns_mono hm ht, ?_, fun g hg =>
    solution_of_turns hg ht⟩, fun k t hk h => ?_, fun t h => ?_⟩
  · rw [Interpreter.standard_natCast, interp_of_turns ht]
  · obtain ⟨j, hj, hinterp⟩ := Interpreter.standard_eq_ok_iff.1 h
    obtain rfl : k = j := by omega
    exact turns_of_interp hk hinterp
  · rw [denote_eq_terminated_iff] at h
    exact ⟨turns_of_interp (Nat.le_succ B) h, fun u hu =>
      Command.interp_unique (interp_of_turns hu) h⟩

/-- Two turns of `while ¬(x₀ = 0) do if x₀ = 1 then x₀ := 0 else skip` end from `x₀ = 1`. From
`x₀ = 2` the loop does not end; the solution that sets `x₀` to `0` extends the approximations. -/
theorem kleene_brackets_two_turns :
    let b : BExp := .neg (.equal (.var 0) (.number 0))
    let c : Command := .branch (.equal (.var 0) (.number 1)) (.assign 0 (.number 0)) .skip
    let s : State := .ofList [(0, 1)]
    let g : StateFn := .ofPartial fun u => some (u.update 0 0)
    turns .standard 2 b c 2 s = some .initial ∧ turns .standard 2 b c 7 s = some .initial ∧
      Interpreter.standard .standard (2 + 2 : Nat) (.loop b c) s = .ok (some .initial) ∧
      Interpreter.standard .standard 3 (.loop b c) s = .ok (some .initial) ∧
      turns .standard 2 b c 3 s = some .initial ∧ g s = .ok (some .initial) ∧
      (standard .standard 2).denote .initial (.loop b c) = .ok (.terminated .initial) ∧
      turns .standard 2 b c 2 .initial = some .initial := by
  intro b c s g
  have hturns : turns .standard 2 b c 2 s = some .initial := by decide
  have hinterp : Interpreter.standard .standard 3 (.loop b c) s = .ok (some .initial) := by rfl
  have hdenote : (standard .standard 2).denote .initial (.loop b c) =
      .ok (.terminated .initial) := by rfl
  have hg (u : State) : g u = (standard .standard 2).loopFunctional b c g u := by
    refine Eq.trans ?_ (loopFunctional_standard (B := 2) u).symm
    show Except.ok (some (u.update 0 0)) = _
    by_cases h0 : u.lookup 0 = 0
    · simp [b, BExp.eval, BExp.evalWith, AExp.eval, h0, State.update_eq_self h0]
    · by_cases h1 : u.lookup 0 = 1
      · simp [b, c, BExp.eval, BExp.evalWith, AExp.eval, Command.interp, h1]
      · simp [b, c, BExp.eval, BExp.evalWith, AExp.eval, Command.interp, h0, h1]
  obtain ⟨-, hgrow, hback, -⟩ := kleene_brackets .standard 2 b c 2 s
  obtain ⟨hmono, hbudget, hsol⟩ := hgrow .initial hturns
  obtain ⟨-, -, -, hden⟩ := kleene_brackets .standard 2 b c 2 .initial
  exact ⟨hturns, hmono 7 (by decide), hbudget, hinterp, hback 3 .initial (by decide) hinterp,
    hsol g hg, hdenote, (hden .initial hdenote).1⟩

end Denotation

end WhileLang

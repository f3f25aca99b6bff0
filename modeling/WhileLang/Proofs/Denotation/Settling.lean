import WhileLang.Proofs.LeastBudget

/-!
# Results settle

As the budget grows, a command gets a result at most once and then keeps it. If it has no valid
derivation there is no result on any budget, and otherwise there is one from the height of the
derivation on (`Command.interp_settles`).

`Denotation.approximations` lists the results on given budgets. If the budgets ascend, the list
shows the one change that there is: a part without results is followed by a part with the same
result throughout (`Denotation.exists_approximations_eq_append`).
-/

namespace WhileLang

variable {ev : Evaluator} {c : Command} {s : State}

/-- **Results settle.** A command has no result on any budget, or the same result from some budget
on and none below. -/
theorem Command.interp_settles (ev : Evaluator) (c : Command) (s : State) :
    (∀ k, c.interp ev k s = none) ∨
      ∃ least t, 0 < least ∧ ∀ k, c.interp ev k s = if least ≤ k then some t else none := by
  by_cases h : ∃ k t, c.interp ev k s = some t
  · obtain ⟨k, t, ht⟩ := h
    obtain ⟨d, ⟨p, rfl, rfl, -⟩, -⟩ := Command.interp_eq_some_iff.1 ht
    exact .inr ⟨d.height, d.post, d.height_pos, p.interp_eq⟩
  · exact .inl fun k => Option.eq_none_iff_forall_ne_some.2 fun t ht => h ⟨k, t, ht⟩

namespace Denotation

variable {ceiling : Int} {budgets : List Int}

/-- Budgets that are not negative are not refused. -/
theorem approximations_eq (h : ∀ b ∈ budgets, 0 ≤ b) :
    (standard ev ceiling).approximations s c budgets =
      .ok (budgets.map fun b => ⟨b, c.interp ev b.toNat s⟩) := by
  induction budgets with
  | nil => rfl
  | cons b rest ih =>
    obtain ⟨hb, hrest⟩ := List.forall_mem_cons.1 h
    obtain ⟨k, rfl⟩ := Int.eq_ofNat_of_zero_le hb
    have hk : (standard ev ceiling).interpreter k c s = .ok (c.interp ev k s) :=
      Interpreter.standard_natCast ev k c s
    have ih := ih hrest
    unfold approximations at ih ⊢
    rw [List.mapM_cons, hk, ih]
    rfl

/-- Ascending budgets are cut in two by any bound. -/
theorem exists_eq_append_of_ascending (h : budgets.Pairwise (· ≤ ·)) (bound : Int) :
    ∃ low high, budgets = low ++ high ∧ (∀ b ∈ low, b < bound) ∧ ∀ b ∈ high, bound ≤ b := by
  induction h with
  | nil => exact ⟨[], [], rfl, by simp, by simp⟩
  | @cons b rest hb _ ih =>
    by_cases hlt : b < bound
    · obtain ⟨low, high, rfl, hlow, hhigh⟩ := ih
      exact ⟨b :: low, high, rfl, List.forall_mem_cons.2 ⟨hlt, hlow⟩, hhigh⟩
    · have hle : bound ≤ b := Int.not_lt.1 hlt
      refine ⟨[], b :: rest, rfl, by simp, List.forall_mem_cons.2 ⟨hle, fun b' hb' => ?_⟩⟩
      exact Int.le_trans hle (hb b' hb')

/-- **Approximations in two parts.** On ascending budgets there are no results up to some place,
and behind it the same result throughout. -/
theorem exists_approximations_eq_append (ev : Evaluator) (ceiling : Int) (c : Command) (s : State)
    (hasc : budgets.Pairwise (· ≤ ·)) (h : ∀ b ∈ budgets, 0 ≤ b) :
    ∃ low high t, budgets = low ++ high ∧
      (standard ev ceiling).approximations s c budgets =
        .ok ((low.map fun b => ⟨b, none⟩) ++ high.map fun b => ⟨b, some t⟩) := by
  rw [approximations_eq h]
  rcases Command.interp_settles ev c s with hnone | ⟨least, t, hpos, hleast⟩
  · refine ⟨budgets, [], s, (List.append_nil _).symm, ?_⟩
    simp [hnone]
  · obtain ⟨low, high, rfl, hlow, hhigh⟩ := exists_eq_append_of_ascending hasc least
    refine ⟨low, high, t, rfl, ?_⟩
    rw [List.map_append]
    congr 2
    · refine List.map_congr_left fun b hb => ?_
      have hlt : b < least := hlow b hb
      rw [hleast, if_neg (by omega)]
    · refine List.map_congr_left fun b hb => ?_
      have hle : least ≤ b := hhigh b hb
      rw [hleast, if_pos (by omega)]

end Denotation

/-- **The budget is a bound and nothing else.** A result is kept on every larger budget, so the
results of a command on growing budgets are nothing for ever, or nothing up to some budget and one
state from there on; and a list of approximations on ascending budgets is cut in two accordingly. -/
theorem results_settle (ev : Evaluator) (ceiling : Int) (c : Command) (s : State) :
    (∀ (i j : Int) (t : State), i ≤ j → Interpreter.standard ev i c s = .ok (some t) →
      Interpreter.standard ev j c s = .ok (some t)) ∧
    ((∀ k : Nat, Interpreter.standard ev k c s = .ok none) ∨
      ∃ (least : Nat) (t : State), ∀ k : Nat,
        Interpreter.standard ev k c s = .ok (if least ≤ k then some t else none)) ∧
    ∀ budgets : List Int, budgets.Pairwise (· ≤ ·) → (∀ b ∈ budgets, 0 ≤ b) →
      ∃ low high t, budgets = low ++ high ∧
        Denotation.approximations (.standard ev ceiling) s c budgets =
          .ok ((low.map fun b => ⟨b, none⟩) ++ high.map fun b => ⟨b, some t⟩) := by
  refine ⟨fun i j t hij h => ?_, ?_, fun budgets hasc h =>
    Denotation.exists_approximations_eq_append ev ceiling c s hasc h⟩
  · obtain ⟨k, rfl, hk⟩ := Interpreter.standard_eq_ok_iff.1 h
    obtain ⟨m, rfl⟩ : ∃ m : Nat, j = m := ⟨j.toNat, by omega⟩
    rw [Interpreter.standard_natCast, Command.interp_mono (by omega) hk]
  · simp only [Interpreter.standard_natCast, Except.ok.injEq]
    rcases Command.interp_settles ev c s with hnone | ⟨least, t, -, hleast⟩
    · exact .inl hnone
    · exact .inr ⟨least, t, hleast⟩

/-- The loop `while 1 ≤ x₀ do x₀ := x₀ - 1` has a result from the budget 3 on if it starts with
`x₀ = 2`. -/
theorem results_settle_countdown :
    let c : Command := .loop (.lessEqual (.number 1) (.var 0))
      (.assign 0 (.minus (.var 0) (.number 1)))
    let s : State := .ofList [(0, 2)]
    Interpreter.standard .standard 3 c s = .ok (some .initial) ∧
      Interpreter.standard .standard 500 c s = .ok (some .initial) ∧
      ∃ low high t, [0, 2, 3, 3, 8] = low ++ high ∧
        Denotation.approximations (.standard .standard 9) s c [0, 2, 3, 3, 8] =
          .ok ((low.map fun b => ⟨b, none⟩) ++ high.map fun b => ⟨b, some t⟩) := by
  intro c s
  have h : Interpreter.standard .standard 3 c s = .ok (some .initial) := by rfl
  obtain ⟨hkept, -, happroximations⟩ := results_settle .standard 9 c s
  exact ⟨h, hkept 3 500 .initial (by decide) h,
    happroximations [0, 2, 3, 3, 8] (by decide) (by decide)⟩

end WhileLang

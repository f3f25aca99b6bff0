import WhileLang.Proofs.Denotation.Bisection

/-!
# Least budgets

`Denotation.leastBudget` looks for the budget from which on a command has a result. What bisection
finds is the least budget with a result (`Denotation.exists_leastBudget_isFirst`), and a command
with a valid derivation has results from the height of the derivation on, so the least budget is
this height (`Derivation.Proof.leastBudget_eq`).
-/

namespace WhileLang

variable {ev : Evaluator}

/-- If there are results from `m` on, then `m` is the least budget with one. -/
theorem Results.IsFirst.eq_ite {f : Results} {upper m : Nat} {least : Option Nat}
    (h : f.IsFirst upper least) (hf : ∀ k, f k ≠ none ↔ m ≤ k) :
    least = if m ≤ upper then some m else none := by
  cases hleast : least with
  | none =>
    have hupper : f upper = none := h.eq_none hleast upper (Nat.le_refl upper)
    rw [if_neg fun hle => (hf upper).2 hle hupper]
  | some m' =>
    obtain ⟨hle, hm', hlowest⟩ := h.isLeast m' hleast
    obtain rfl : m' = m :=
      Nat.le_antisymm (hlowest ((hf m).2 (Nat.le_refl m))) ((hf m').1 hm')
    rw [if_pos hle]

namespace Derivation

theorem height_pos (d : Derivation) : 0 < d.height := by
  cases d with
  | mk r c s t ps =>
    rw [height_mk]
    exact Nat.succ_pos _

/-- A derived command has results from the height of its derivation on. -/
theorem Proof.results_ne_none_iff {d : Derivation} (h : d.Proof ev) (k : Nat) :
    d.command.results ev d.pre k ≠ none ↔ d.height ≤ k := by
  rw [Command.results, h.interp_eq]
  by_cases hk : d.height ≤ k <;> simp [hk]

/-- **The least budget.** It is the height of the derivation, if that is within the bound. -/
theorem Proof.leastBudget_eq {d : Derivation} (h : d.Proof ev) (B : Int) (upper : Nat) :
    Denotation.leastBudget (.standard ev B) d.pre d.command upper =
      .ok (if d.height ≤ upper then some d.height else none) := by
  obtain ⟨least, hleast, hfirst⟩ :=
    Denotation.exists_leastBudget_isFirst ev B d.pre d.command upper
  rw [hleast, hfirst.eq_ite h.results_ne_none_iff]

end Derivation

/-- `least` is the least budget at which the command has a result, and is missing if that is more
than `upper`. -/
structure IsLeastBudget (ev : Evaluator) (s : State) (c : Command) (upper : Nat)
    (least : Option Nat) : Prop where
  isSome_iff : least.isSome = true ↔ (c.interp ev upper s).isSome = true
  interp_isSome_iff (m : Nat) (hm : least = some m) (k : Nat) :
    (c.interp ev k s).isSome = true ↔ m ≤ k

/-- Up to the bound of the search, the budgets with a result are those from the least one on. -/
theorem IsLeastBudget.interp_isSome_iff_exists {s : State} {c : Command} {upper k : Nat}
    {least : Option Nat} (h : IsLeastBudget ev s c upper least) (hk : k ≤ upper) :
    (c.interp ev k s).isSome = true ↔ ∃ m, least = some m ∧ m ≤ k := by
  constructor
  · intro hsome
    obtain ⟨t, ht⟩ := Option.isSome_iff_exists.1 hsome
    have hupper : (c.interp ev upper s).isSome = true := by
      rw [Command.interp_mono hk ht]
      rfl
    obtain ⟨m, hm⟩ := Option.isSome_iff_exists.1 (h.isSome_iff.2 hupper)
    exact ⟨m, hm, (h.interp_isSome_iff m hm k).1 hsome⟩
  · rintro ⟨m, hm, hle⟩
    exact (h.interp_isSome_iff m hm k).2 hle

/-- The search for the least budget succeeds. -/
theorem Denotation.exists_leastBudget_eq (ev : Evaluator) (B : Int) (s : State) (c : Command)
    (upper : Nat) :
    ∃ least, (standard ev B).leastBudget s c upper = .ok least ∧
      IsLeastBudget ev s c upper least := by
  obtain ⟨least, hleast, hfirst⟩ := exists_leastBudget_isFirst ev B s c upper
  have hkept : (c.results ev s).Kept := Command.kept_results ev c s
  have hsome {m k : Nat} (hm : least = some m) : (c.interp ev k s).isSome = true ↔ m ≤ k := by
    obtain ⟨-, hresult, hlowest⟩ := hfirst.isLeast m hm
    rw [Option.isSome_iff_ne_none]
    exact ⟨fun hk => hlowest hk, fun hle hnone => hresult (hkept.eq_none_of_le hnone hle)⟩
  refine ⟨least, hleast, ⟨?_, fun m hm k => hsome hm⟩⟩
  cases hl : least with
  | none =>
    have hupper : c.interp ev upper s = none := hfirst.eq_none hl upper (Nat.le_refl upper)
    simp [hupper]
  | some m => simp [(hsome hl).2 (hfirst.isLeast m hl).1]

end WhileLang

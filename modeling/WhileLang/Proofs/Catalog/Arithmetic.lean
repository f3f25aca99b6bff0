import Mathlib.Data.Nat.Factorial.Basic
import Mathlib.Tactic.Ring
import WhileLang.Catalog
import WhileLang.Proofs.Loops

/-!
# The factorial and the sum

Both programs count `n` down to `0`, and so does the multiplication in `factorial` with its own
counter. `ensures_countingDown` is the rule for such loops: only the rest of the body has to keep
the invariant, and the counter ends at `0`, or where it was if that is less.

The invariants say what is still to come. In `summation` it is the sum of the numbers up to `n`, in
`multiply` it is `acc` once for each turn that is left, and in `factorial` it is the factorial of
`n` as a factor of `acc`. When the counter is down, nothing is to come (`factorial_and_sum`).
-/

namespace WhileLang.Catalog

variable {u : State} {v w : Ident} {Q : State → Prop}

/-! ## Counting down -/

theorem ensures_addTo_iff :
    (addTo v w).Ensures .standard u Q ↔ Q (u.update v (u.lookup v + u.lookup w)) :=
  Command.ensures_assign_iff

theorem ensures_decrement_iff :
    (decrement v).Ensures .standard u Q ↔ Q (u.update v (u.lookup v - 1)) :=
  Command.ensures_assign_iff

/-- **Loops that count down.** The rest of the body leaves the counter alone, and together with its
decrement keeps the invariant. -/
theorem ensures_countingDown {body : Command} {s : State} {I : State → Prop}
    (hv : ¬ body.Assigns v)
    (turn : ∀ u, 0 < u.lookup v → I u →
      body.Ensures .standard u fun t => I (t.update v (u.lookup v - 1)))
    (hs : I s) :
    (Command.loop (positive v) (.seq body (decrement v))).Ensures .standard s fun t =>
      I t ∧ t.lookup v = min (s.lookup v) 0 := by
  have step (u : State) (hu : I u ∧ min (u.lookup v) 0 = min (s.lookup v) 0)
      (hb : Evaluator.standard.bexp u (positive v) = true) :
      (Command.seq body (decrement v)).Ensures .standard u fun t =>
        (I t ∧ min (t.lookup v) 0 = min (s.lookup v) 0) ∧
          (t.lookup v).toNat < (u.lookup v).toNat := by
    have hpos : 1 ≤ u.lookup v := of_decide_eq_true hb
    rw [Command.ensures_seq_iff]
    refine (turn u hpos hu.1).frame.mono ?_
    rintro t ⟨ht, hframe⟩
    rw [ensures_decrement_iff, hframe v hv, State.lookup_update_self]
    exact ⟨⟨ht, by omega⟩, by omega⟩
  refine (Command.ensures_loop _ step ⟨hs, rfl⟩).mono ?_
  rintro t ⟨⟨ht, hmin⟩, hend⟩
  have hstop : ¬ 1 ≤ t.lookup v := of_decide_eq_false hend
  exact ⟨ht, by omega⟩

/-- Before `n` is counted down, another variable is set to where it starts from. -/
theorem ensures_accumulating {body : Command} {s : State} {I : State → Prop} {i : Int}
    (hne : n ≠ v) (hn : ¬ body.Assigns n)
    (turn : ∀ u, 0 < u.lookup n → I u →
      body.Ensures .standard u fun t => I (t.update n (u.lookup n - 1)))
    (hs : I (s.update v i)) :
    (Command.seq (.assign v (.number i)) (.loop (positive n) (.seq body (decrement n)))).Ensures
      .standard s fun t => I t ∧ t.lookup n = min (s.lookup n) 0 := by
  have hcounter : (s.update v i).lookup n = s.lookup n := s.lookup_update_of_ne i hne
  rw [Command.ensures_seq_iff, Command.ensures_assign_iff, ← hcounter]
  exact ensures_countingDown hn turn hs

/-! ## The sum -/

/-- `s` is the sum of the numbers up to `n`, which has been counted down. -/
structure SumOf (s t : State) : Prop where
  sum_of_nonneg (h : 0 ≤ s.lookup n) : t.lookup Catalog.s = s.lookup n * (s.lookup n + 1) / 2
  sum_of_neg (h : s.lookup n < 0) : t.lookup Catalog.s = 0
  counter : t.lookup n = min (s.lookup n) 0
  frame (z : Ident) (hz : z ∉ [n, Catalog.s]) : t.lookup z = s.lookup z

/-- Twice the sum of the numbers up to `i`. -/
def doubleSum (i : Int) : Int := max i 0 * (max i 0 + 1)

theorem doubleSum_of_pos {i : Int} (h : 0 < i) : doubleSum i = 2 * i + doubleSum (i - 1) := by
  rw [doubleSum, doubleSum, max_eq_left h.le, max_eq_left (by omega)]
  ring

theorem doubleSum_of_nonneg {i : Int} (h : 0 ≤ i) : doubleSum i = i * (i + 1) := by
  rw [doubleSum, max_eq_left h]

theorem doubleSum_of_nonpos {i : Int} (h : i ≤ 0) : doubleSum i = 0 := by
  rw [doubleSum, max_eq_right h, Int.zero_mul]

/-- What has been added up and what is to come, twice. -/
def SumsTo (total : Int) (u : State) : Prop :=
  2 * u.lookup s + doubleSum (u.lookup n) = total

theorem SumsTo.turn {total : Int} (hu : SumsTo total u) (hpos : 0 < u.lookup n) :
    (addTo s n).Ensures .standard u fun t => SumsTo total (t.update n (u.lookup n - 1)) := by
  rw [SumsTo, doubleSum_of_pos hpos] at hu
  rw [ensures_addTo_iff, SumsTo, State.lookup_update_of_ne _ _ (by decide),
    State.lookup_update_self, State.lookup_update_self]
  omega

theorem mem_of_assigns_summation {z : Ident} (h : summation.Assigns z) : z ∈ [n, s] := by
  rcases h with rfl | rfl | rfl <;> decide

theorem ensures_summation (s : State) : summation.Ensures .standard s (SumOf s) := by
  have hstart : SumsTo (doubleSum (s.lookup n)) (s.update Catalog.s 0) := by
    rw [SumsTo, State.lookup_update_self, State.lookup_update_of_ne _ _ (by decide), Int.mul_zero,
      Int.zero_add]
  have hsum : summation.Ensures .standard s fun t =>
      SumsTo (doubleSum (s.lookup n)) t ∧ t.lookup n = min (s.lookup n) 0 :=
    ensures_accumulating (by decide) (by decide) (fun u hpos hu => hu.turn hpos) hstart
  refine hsum.frame.mono ?_
  rintro t ⟨⟨hsums, hcounter⟩, hframe⟩
  rw [SumsTo, hcounter, doubleSum_of_nonpos (Int.min_le_right _ _)] at hsums
  refine ⟨fun h => ?_, fun h => ?_, hcounter, fun z hz => hframe z (hz ∘ mem_of_assigns_summation)⟩
  · rw [← doubleSum_of_nonneg h]
    omega
  · rw [doubleSum_of_nonpos h.le] at hsums
    omega

/-! ## The factorial -/

/-- `acc` is the factorial of `n`, which has been counted down. -/
structure FactorialOf (s t : State) : Prop where
  factorial_of_nonneg (h : 0 ≤ s.lookup n) : t.lookup acc = (s.lookup n).toNat.factorial
  factorial_of_neg (h : s.lookup n < 0) : t.lookup acc = 1
  counter : t.lookup n = min (s.lookup n) 0
  frame (z : Ident) (hz : z ∉ [n, acc, tmp, c]) : t.lookup z = s.lookup z

/-- `tmp`, and `factor` once for each turn that is left. -/
def MultipliesTo (factor product : Int) (u : State) : Prop :=
  u.lookup acc = factor ∧ u.lookup tmp + factor * max (u.lookup c) 0 = product

theorem MultipliesTo.turn {factor product : Int} (hu : MultipliesTo factor product u)
    (hpos : 0 < u.lookup c) :
    (addTo tmp acc).Ensures .standard u fun t =>
      MultipliesTo factor product (t.update c (u.lookup c - 1)) := by
  obtain ⟨hacc, htmp⟩ := hu
  rw [ensures_addTo_iff]
  refine ⟨?_, ?_⟩
  · rwa [State.lookup_update_of_ne _ _ (by decide), State.lookup_update_of_ne _ _ (by decide)]
  · rw [State.lookup_update_of_ne _ _ (by decide), State.lookup_update_self,
      State.lookup_update_self, max_eq_left (by omega), hacc, ← htmp, max_eq_left hpos.le]
    ring

theorem ensures_multiply (u : State) :
    multiply.Ensures .standard u fun t => t.lookup acc = u.lookup acc * max (u.lookup n) 0 := by
  have heq : multiply = .seq (.assign tmp (.number 0)) (.seq (.assign c (.var n))
    (.seq (.loop (positive c) (.seq (addTo tmp acc) (decrement c))) (.assign acc (.var tmp)))) :=
  rfl
  have hstart : MultipliesTo (u.lookup acc) (u.lookup acc * max (u.lookup n) 0)
      ((u.update tmp 0).update c (u.lookup n)) := by
    constructor
    · rw [State.lookup_update_of_ne _ _ (by decide), State.lookup_update_of_ne _ _ (by decide)]
    · rw [State.lookup_update_of_ne _ _ (by decide), State.lookup_update_self,
        State.lookup_update_self, Int.zero_add]
  have hn : Evaluator.standard.aexp (u.update tmp 0) (.var n) = u.lookup n :=
    u.lookup_update_of_ne 0 (by decide)
  rw [heq, Command.ensures_seq_iff, Command.ensures_assign_iff, Command.ensures_seq_iff,
    Command.ensures_assign_iff, Command.ensures_seq_iff]
  rw [Evaluator.standard_aexp, AExp.eval, hn]
  refine (ensures_countingDown (by decide) (fun u hpos hu => hu.turn hpos) hstart).mono ?_
  rintro t ⟨⟨-, hproduct⟩, hcounter⟩
  rw [Command.ensures_assign_iff, State.lookup_update_self, ← hproduct, hcounter,
    max_eq_right (Int.min_le_right _ _), Int.mul_zero, Int.add_zero]
  rfl

/-- `acc`, with the factorial of `n` as a factor that is to come. -/
def FactorsTo (total : Int) (u : State) : Prop :=
  u.lookup acc * (u.lookup n).toNat.factorial = total

theorem FactorsTo.turn {total : Int} (hu : FactorsTo total u) (hpos : 0 < u.lookup n) :
    multiply.Ensures .standard u fun t => FactorsTo total (t.update n (u.lookup n - 1)) := by
  obtain ⟨i, hi⟩ : ∃ i : Nat, u.lookup n = i + 1 := ⟨(u.lookup n - 1).toNat, by omega⟩
  rw [FactorsTo, hi] at hu
  refine (ensures_multiply u).mono ?_
  intro t hacc
  rw [FactorsTo, State.lookup_update_of_ne _ _ (by decide), State.lookup_update_self, hacc,
    max_eq_left hpos.le, ← hu, hi, Int.add_sub_cancel, Int.toNat_natCast,
    show ((i : Int) + 1).toNat = i + 1 from rfl, Nat.factorial_succ]
  push_cast
  ring

theorem mem_of_assigns_factorial {z : Ident} (h : factorial.Assigns z) :
    z ∈ [n, acc, tmp, c] := by
  rcases h with rfl | (rfl | rfl | (rfl | rfl) | rfl) | rfl <;> decide

theorem ensures_factorial (s : State) : factorial.Ensures .standard s (FactorialOf s) := by
  have hstart : FactorsTo (s.lookup n).toNat.factorial (s.update acc 1) := by
    rw [FactorsTo, State.lookup_update_self, State.lookup_update_of_ne _ _ (by decide), Int.one_mul]
  have hproduct : factorial.Ensures .standard s fun t =>
      FactorsTo (s.lookup n).toNat.factorial t ∧ t.lookup n = min (s.lookup n) 0 :=
    ensures_accumulating (by decide) (by decide) (fun u hpos hu => hu.turn hpos) hstart
  refine hproduct.frame.mono ?_
  rintro t ⟨⟨hfactors, hcounter⟩, hframe⟩
  have hacc : t.lookup acc = (s.lookup n).toNat.factorial := by
    rwa [FactorsTo, hcounter, Int.toNat_of_nonpos (Int.min_le_right _ _), Nat.factorial_zero,
      Nat.cast_one, Int.mul_one] at hfactors
  refine ⟨fun _ => hacc, fun h => ?_, hcounter,
    fun z hz => hframe z (hz ∘ mem_of_assigns_factorial)⟩
  rw [hacc, Int.toNat_of_nonpos h.le, Nat.factorial_zero, Nat.cast_one]

/-- **The factorial and the sum.** Both programs end from every state: `factorial` with the
factorial of `n` in `acc`, `summation` with the sum of the numbers up to `n` in `s`. A negative `n`
counts as `0`, but keeps its value. -/
theorem factorial_and_sum (s : State) :
    (∃ t budget steps, factorial.Ends .standard s t budget steps ∧ FactorialOf s t) ∧
    ∃ t budget steps, summation.Ends .standard s t budget steps ∧ SumOf s t :=
  ⟨Command.ensures_iff_ends.1 (ensures_factorial s),
    Command.ensures_iff_ends.1 (ensures_summation s)⟩

end WhileLang.Catalog

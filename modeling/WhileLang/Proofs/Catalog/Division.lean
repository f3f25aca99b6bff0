import Mathlib.Tactic.Ring
import WhileLang.Catalog
import WhileLang.Proofs.Loops

/-!
# Division by repeated subtraction

`euclid` takes `y` off `x` as long as it can, and counts how often. What it has taken off and what
is left make up `x` at every turn (`PartlyDivided`), so when it stops, `q` and `r` are a quotient
and a remainder (`Divided`).

It stops if `y` is positive, because every turn lowers `r` then, or if `x` is less than `y` from the
start. Otherwise `y` is not positive, and taking it off never brings `r` below it
(`euclid_divides`).
-/

namespace WhileLang.Catalog

variable {s t u : State} {Q : State → Prop}

/-! ## A turn -/

/-- What the loop of `euclid` repeats. -/
def takeOff : Command :=
  .seq (.assign r (.minus (.var r) (.var y))) (.assign q (.plus (.var q) (.number 1)))

/-- The loop of `euclid`. -/
def takingOff : Command := .loop (.lessEqual (.var y) (.var r)) takeOff

/-- The state in which the loop starts. -/
def undivided (s : State) : State := (s.update r (s.lookup x)).update q 0

/-- The state after a turn. -/
def afterTurn (u : State) : State :=
  (u.update r (u.lookup r - u.lookup y)).update q (u.lookup q + 1)

theorem ensures_euclid_iff :
    euclid.Ensures .standard s Q ↔ takingOff.Ensures .standard (undivided s) Q := by
  have heq : euclid = .seq (.assign r (.var x)) (.seq (.assign q (.number 0)) takingOff) := rfl
  rw [heq, Command.ensures_seq_iff, Command.ensures_assign_iff, Command.ensures_seq_iff,
    Command.ensures_assign_iff]
  rfl

theorem ensures_takeOff_iff : takeOff.Ensures .standard u Q ↔ Q (afterTurn u) := by
  have hq : ((u.update r (u.lookup r - u.lookup y)).lookup q) = u.lookup q :=
    u.lookup_update_of_ne _ (by decide)
  rw [takeOff, Command.ensures_seq_iff, Command.ensures_assign_iff, Command.ensures_assign_iff,
    afterTurn, ← hq]
  rfl

@[simp] theorem lookup_q_undivided (s : State) : (undivided s).lookup q = 0 :=
  State.lookup_update_self ..

@[simp] theorem lookup_r_undivided (s : State) : (undivided s).lookup r = s.lookup x := by
  rw [undivided, State.lookup_update_of_ne _ _ (by decide), State.lookup_update_self]

theorem lookup_undivided_of_ne {z : Ident} (hr : z ≠ r) (hq : z ≠ q) :
    (undivided s).lookup z = s.lookup z := by
  rw [undivided, State.lookup_update_of_ne _ _ hq, State.lookup_update_of_ne _ _ hr]

@[simp] theorem lookup_q_afterTurn (u : State) : (afterTurn u).lookup q = u.lookup q + 1 :=
  State.lookup_update_self ..

@[simp] theorem lookup_r_afterTurn (u : State) :
    (afterTurn u).lookup r = u.lookup r - u.lookup y := by
  rw [afterTurn, State.lookup_update_of_ne _ _ (by decide), State.lookup_update_self]

theorem lookup_afterTurn_of_ne {z : Ident} (hr : z ≠ r) (hq : z ≠ q) :
    (afterTurn u).lookup z = u.lookup z := by
  rw [afterTurn, State.lookup_update_of_ne _ _ hq, State.lookup_update_of_ne _ _ hr]

@[simp] theorem lookup_y_afterTurn (u : State) : (afterTurn u).lookup y = u.lookup y :=
  lookup_afterTurn_of_ne (by decide) (by decide)

/-! ## Quotient and remainder -/

/-- From `s` on, `q` times `y` has been taken off `x`, and `r` is left. -/
structure PartlyDivided (s t : State) : Prop where
  frame (z : Ident) (hr : z ≠ r) (hq : z ≠ q) : t.lookup z = s.lookup z
  quotient_nonneg : 0 ≤ t.lookup q
  quotient_mul_add : t.lookup q * s.lookup y + t.lookup r = s.lookup x
  remainder_nonneg (hx : 0 ≤ s.lookup x) (hy : 0 < s.lookup y) : 0 ≤ t.lookup r

/-- `q` and `r` are the quotient and the remainder of the division of `x` by `y`, and no other
variable has changed. -/
structure Divided (s t : State) : Prop extends PartlyDivided s t where
  remainder_lt : t.lookup r < s.lookup y

namespace PartlyDivided

theorem undivided (s : State) : PartlyDivided s (undivided s) where
  frame _ hr hq := lookup_undivided_of_ne hr hq
  quotient_nonneg := by rw [lookup_q_undivided]
  quotient_mul_add := by
    rw [lookup_q_undivided, lookup_r_undivided]
    ring
  remainder_nonneg hx _ := by rwa [lookup_r_undivided]

theorem lookup_y (h : PartlyDivided s u) : u.lookup y = s.lookup y :=
  h.frame y (by decide) (by decide)

/-- **A turn of the division.** -/
theorem afterTurn (h : PartlyDivided s u) (hle : u.lookup y ≤ u.lookup r) :
    PartlyDivided s (afterTurn u) where
  frame z hr hq := by rw [lookup_afterTurn_of_ne hr hq, h.frame z hr hq]
  quotient_nonneg := by
    rw [lookup_q_afterTurn]
    exact Int.le_add_one h.quotient_nonneg
  quotient_mul_add := by
    rw [lookup_q_afterTurn, lookup_r_afterTurn, h.lookup_y, ← h.quotient_mul_add]
    ring
  remainder_nonneg _ _ := by
    rw [lookup_r_afterTurn]
    exact Int.sub_nonneg_of_le hle

/-- The loop stops where the remainder is less than the divisor. -/
theorem divided (h : PartlyDivided s t)
    (hend : BExp.eval t (.lessEqual (.var y) (.var r)) = false) : Divided s t := by
  have hlt : ¬ t.lookup y ≤ t.lookup r := of_decide_eq_false hend
  rw [h.lookup_y] at hlt
  exact ⟨h, Int.not_le.1 hlt⟩

end PartlyDivided

/-! ## The loop -/

/-- With a positive divisor every turn lowers the remainder, which is positive before it. -/
theorem ensures_takingOff_of_pos (hy : 0 < s.lookup y) (hu : PartlyDivided s u) :
    takingOff.Ensures .standard u (Divided s) := by
  have turn (v : State) (hv : PartlyDivided s v)
      (hb : Evaluator.standard.bexp v (.lessEqual (.var y) (.var r)) = true) :
      takeOff.Ensures .standard v fun w =>
        PartlyDivided s w ∧ (w.lookup r).toNat < (v.lookup r).toNat := by
    have hle : v.lookup y ≤ v.lookup r := of_decide_eq_true hb
    have hdivisor : v.lookup y = s.lookup y := hv.lookup_y
    rw [ensures_takeOff_iff, lookup_r_afterTurn]
    exact ⟨hv.afterTurn hle, by omega⟩
  refine (Command.ensures_loop _ turn hu).mono ?_
  rintro t ⟨ht, hend⟩
  exact ht.divided hend

/-- If the divisor is greater than the dividend, there is no turn. -/
theorem ensures_takingOff_of_lt (hlt : s.lookup x < s.lookup y) :
    takingOff.Ensures .standard (undivided s) (Divided s) := by
  have hend : ¬ (undivided s).lookup y ≤ (undivided s).lookup r := by
    rwa [lookup_r_undivided, (PartlyDivided.undivided s).lookup_y, Int.not_le]
  have hb : BExp.eval (undivided s) (.lessEqual (.var y) (.var r)) = false :=
    decide_eq_false hend
  exact (Command.ensures_loop_of_false hb).2 ((PartlyDivided.undivided s).divided hb)

/-- Taking off a number that is not positive does not bring the remainder below it. -/
theorem not_ensures_takingOff (hy : u.lookup y ≤ 0) (hle : u.lookup y ≤ u.lookup r) :
    ¬ takingOff.Ensures .standard u Q := by
  have turn (v : State) (hv : v.lookup y ≤ 0 ∧ v.lookup y ≤ v.lookup r) :
      Evaluator.standard.bexp v (.lessEqual (.var y) (.var r)) = true ∧
        takeOff.Ensures .standard v fun w => w.lookup y ≤ 0 ∧ w.lookup y ≤ w.lookup r := by
    refine ⟨decide_eq_true hv.2, ?_⟩
    rw [ensures_takeOff_iff, lookup_y_afterTurn, lookup_r_afterTurn]
    omega
  exact Command.not_ensures_loop turn ⟨hy, hle⟩

theorem ensures_euclid (h : 0 < s.lookup y ∨ s.lookup x < s.lookup y) :
    euclid.Ensures .standard s (Divided s) := by
  rw [ensures_euclid_iff]
  rcases h with hy | hlt
  · exact ensures_takingOff_of_pos hy (.undivided s)
  · exact ensures_takingOff_of_lt hlt

theorem not_ensures_euclid (h : ¬ (0 < s.lookup y ∨ s.lookup x < s.lookup y)) :
    ¬ euclid.Ensures .standard s Q := by
  have hy : (undivided s).lookup y = s.lookup y := (PartlyDivided.undivided s).lookup_y
  rw [ensures_euclid_iff]
  refine not_ensures_takingOff ?_ ?_
  · rw [hy]
    omega
  · rw [hy, lookup_r_undivided]
    omega

/-- **Division with remainder.** `euclid` ends, with the quotient and the remainder of `x` by `y`,
if `y` is positive or greater than `x`; in all other states it diverges. -/
theorem euclid_divides (s : State) :
    ((∃ t budget steps, euclid.Ends .standard s t budget steps ∧ Divided s t) ↔
      0 < s.lookup y ∨ s.lookup x < s.lookup y) ∧
    (euclid.Diverges .standard s ↔ ¬ (0 < s.lookup y ∨ s.lookup x < s.lookup y)) := by
  rw [← Command.ensures_iff_ends, Command.diverges_iff_not_ensures]
  refine ⟨⟨fun h => ?_, ensures_euclid⟩, ⟨fun h hends => ?_, not_ensures_euclid⟩⟩
  · exact not_not.1 fun hnot => not_ensures_euclid hnot h
  · exact h ((ensures_euclid hends).mono fun _ _ => trivial)

end WhileLang.Catalog

import Mathlib
import WhileLang.Generator

/-!
# Hoare triples for draws

Each function that draws from a source gets one specification: what it promises about its result,
and what becomes of the next counter, whatever choices the source makes. A request that fails has
a promise to keep as well, since its generator can be asked again.

Expressions, states and assignments leave the counter as it is (`keeps`); only a counted loop takes
one (`freshCounter_spec`). `Draw.of_triple` leads from a triple back to a run.
-/

namespace WhileLang.Generator

open Std.Do

set_option mvcgen.warning false

variable {σ α β : Type} (gen : Generator σ)

/-- Assertions about the progress, and about the failure of a request. -/
abbrev Draw.Shape (σ : Type) : PostShape := .except Failure (.arg (Progress σ) .pure)

/-- The next counted loop gets the variable `i`. -/
abbrev counterIs (i : Ident) : Assertion (Draw.Shape σ) := fun p => ⌜p.nextCounter = i⌝

/-- The next counter is still `i`, after a failure too, and a result has the property. -/
abbrev keeps (i : Ident) (P : α → Prop) : PostCond α (Draw.Shape σ) :=
  post⟨fun a p => ⌜p.nextCounter = i ∧ P a⌝, fun _ p => ⌜p.nextCounter = i⌝⟩

namespace Draw

/-- The weakest precondition looks at the result of the run and the progress after it. -/
theorem wp_apply (x : Draw σ α) (Q : PostCond α (Shape σ)) (p : Progress σ) :
    wp⟦x⟧ Q p = match x.run p with
      | (.ok a, q) => Q.1 a q
      | (.error e, q) => Q.2.1 e q := by
  have hrun : (x.run.run p).run = x.run p := rfl
  simp only [WP.wp, PredTrans.apply_pushExcept, PredTrans.apply_pushArg,
    PredTrans.apply_Pure_pure, hrun]
  rcases x.run p with ⟨a | e, q⟩ <;> rfl

/-- **From a triple to a run.** -/
theorem of_triple {x : Draw σ α} {pre fails : Progress σ → Prop} {returns : α → Progress σ → Prop}
    (h : ⦃fun p => ⌜pre p⌝⦄ x ⦃post⟨fun a p => ⌜returns a p⌝, fun _ p => ⌜fails p⌝⟩⦄)
    {p q : Progress σ} {r : Except Failure α} (hrun : x.run p = (r, q)) (hp : pre p) :
    match r with
    | .ok a => returns a q
    | .error _ => fails q := by
  have hwp := h p hp
  rw [wp_apply, hrun] at hwp
  cases r with
  | ok a => exact hwp
  | error e => exact hwp

/-- A draw that keeps the counter does so in each run. -/
theorem nextCounter_of_keeps {x : Draw σ α} {P : α → Prop}
    (h : ∀ i, ⦃counterIs i⦄ x ⦃keeps i P⦄) (p : Progress σ) :
    (x.run p).2.nextCounter = p.nextCounter := by
  rcases hrun : x.run p with ⟨a | e, q⟩
  · exact of_triple (h p.nextCounter) hrun rfl
  · exact (of_triple (h p.nextCounter) hrun rfl).1

end Draw

/-! ## Choices -/

@[spec]
theorem draw_spec (choice : σ → α × σ) (i : Ident) :
    ⦃counterIs i⦄ draw choice ⦃keeps i fun a => ∃ g, (choice g).1 = a⦄ := by
  mvcgen [draw]
  case vc1 p hp => exact ⟨hp, p.source, rfl⟩

@[spec]
theorem freshCounter_spec (i : Ident) :
    ⦃counterIs i⦄ (freshCounter : Draw σ Ident)
    ⦃post⟨fun x p => ⌜x = i ∧ p.nextCounter = i + 1⌝, fun _ p => ⌜p.nextCounter = i⌝⟩⦄ := by
  mvcgen [freshCounter]
  case vc1 p hp => exact ⟨hp, congrArg (· + 1) hp⟩

@[spec]
theorem ofExcept_spec (x : Except Failure α) (i : Ident) :
    ⦃counterIs i⦄ (MonadExcept.ofExcept x : Draw σ α) ⦃keeps i fun a => x = .ok a⦄ := by
  cases x <;> mvcgen [MonadExcept.ofExcept]

theorem mapM_spec (f : α → Draw σ β) (P : β → Prop)
    (h : ∀ a i, ⦃counterIs i⦄ f a ⦃keeps i P⦄) (xs : List α) (i : Ident) :
    ⦃counterIs i⦄ xs.mapM f ⦃keeps i fun bs => ∀ b ∈ bs, P b⦄ := by
  induction xs generalizing i with
  | nil =>
    rw [List.mapM_nil]
    mvcgen
    all_goals grind
  | cons x xs ih =>
    rw [List.mapM_cons]
    mvcgen [h, ih]
    all_goals grind

@[spec]
theorem roll_spec (i : Ident) : ⦃counterIs i⦄ gen.roll ⦃keeps i fun _ => True⦄ := by
  mvcgen [roll]
  all_goals grind

@[spec]
theorem happens_spec (c : Chance) (i : Ident) :
    ⦃counterIs i⦄ gen.happens c ⦃keeps i fun _ => True⦄ := by
  mvcgen [happens]
  all_goals grind

@[spec]
theorem choose_spec (xs : List α) (i : Ident) :
    ⦃counterIs i⦄ gen.choose xs ⦃keeps i (· ∈ xs)⦄ := by
  mvcgen [choose]
  case vc2.isFalse.post.success.h_1 hne p hp k x hx q hq =>
    exact ⟨hq.1.trans hp, List.mem_of_getElem? hx⟩
  all_goals grind

@[spec]
theorem between_spec (a b : Int) (i : Ident) :
    ⦃counterIs i⦄ gen.between a b ⦃keeps i fun v => a ≤ v ∧ v ≤ b⦄ := by
  mvcgen [between]
  case vc2.isFalse.post.success hab p hp n q hq =>
    obtain ⟨hq, g, rfl⟩ := hq
    have hlt := gen.source.below_lt (b - a + 1).toNat g (by omega)
    exact ⟨hq.trans hp, by omega, by omega⟩
  all_goals grind

@[spec]
theorem chooseWeighted_spec (xs : List (α × Weight)) (i : Ident) :
    ⦃counterIs i⦄ gen.chooseWeighted xs ⦃keeps i fun a => ∃ w, (a, w) ∈ xs⦄ := by
  mvcgen [chooseWeighted]
  all_goals grind

/-! ## Expressions -/

@[spec]
theorem constant_spec (i : Ident) :
    ⦃counterIs i⦄ gen.constant
    ⦃keeps i fun v => gen.config.minConst ≤ v ∧ v ≤ gen.config.maxConst⦄ :=
  gen.between_spec _ _ i

@[spec]
theorem ident_spec (i : Ident) : ⦃counterIs i⦄ gen.ident ⦃keeps i (· ∈ gen.config.idents)⦄ :=
  gen.choose_spec _ i

@[spec]
theorem atom_spec (i : Ident) : ⦃counterIs i⦄ gen.atom ⦃keeps i fun _ => True⦄ := by
  mvcgen [atom]
  all_goals grind

@[spec]
theorem aexp_spec (depth : Nat) (i : Ident) :
    ⦃counterIs i⦄ gen.aexp depth ⦃keeps i fun _ => True⦄ := by
  induction depth generalizing i with
  | zero => exact gen.atom_spec i
  | succ depth ih =>
    mvcgen [aexp, ih]
    all_goals grind

@[spec]
theorem bexp_spec (depth : Nat) (i : Ident) :
    ⦃counterIs i⦄ gen.bexp depth ⦃keeps i fun _ => True⦄ := by
  induction depth generalizing i with
  | zero =>
    mvcgen [bexp]
    all_goals grind
  | succ depth ih =>
    mvcgen [bexp, ih]
    all_goals grind

@[spec]
theorem state_spec (i : Ident) : ⦃counterIs i⦄ gen.state ⦃keeps i fun _ => True⦄ := by
  have hpair (x j : Ident) :
      ⦃counterIs j⦄ (do return (x, ← gen.constant) : Draw σ (Ident × Int))
      ⦃keeps j fun _ => True⦄ := by
    mvcgen
    all_goals grind
  have hpairs := mapM_spec _ _ hpair gen.config.idents
  mvcgen [state, hpairs]
  all_goals grind

/-! ## Assignments -/

@[spec]
theorem assignment_spec (i : Ident) :
    ⦃counterIs i⦄ gen.assignment
    ⦃keeps i fun c => ∃ x ∈ gen.config.idents, ∃ e, c = .assign x e⦄ := by
  mvcgen [assignment, anyAExp]
  all_goals grind

end WhileLang.Generator

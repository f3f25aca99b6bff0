import WhileLang.Interpreter
import WhileLang.Proofs.Generator.Counted
import WhileLang.Proofs.Generator.Drawing

/-!
# Bounded programs end

A bounded command is `Counted` by the counters that were handed out for it (`command_spec`). A
generator only ever hands out counters in ascending order, whatever it is asked for
(`counterBase_le_after`), so none of them is a variable of the programs when these come before the
first counter. Then `Counted.endsWithin` gives a budget that suffices in every state
(`bounded_programs_end`).
-/

namespace WhileLang.Generator

open Std.Do

set_option mvcgen.warning false

variable {σ : Type} (gen : Generator σ)

/-- **Commands take counters in order.** The command has the counters from `i` up to the next one
after it, and counted loops only if it is to be bounded. -/
theorem command_spec (bounded : Bool) (depth : Nat) (i : Ident) :
    ⦃counterIs i⦄ gen.command bounded depth
    ⦃post⟨fun c p => ⌜i ≤ p.nextCounter ∧ (bounded = true →
        c.Counted gen.config.idents gen.config.maxLoopCount.toNat depth i p.nextCounter)⌝,
      fun _ p => ⌜i ≤ p.nextCounter⌝⟩⦄ := by
  induction depth generalizing i with
  | zero =>
    mvcgen [command]
    case vc1 => grind [Command.Counted.skip]
    case vc2 => grind [Command.Counted.assign]
    all_goals grind
  | succ depth ih =>
    mvcgen [command, anyBExp, ih]
    case vc1 => grind [Command.Counted.skip]
    case vc2 => grind [Command.Counted.assign]
    -- The second of two commands begins with the counter at which the first one ends.
    case vc4 => grind [Command.Counted.seq]
    case vc7 => grind [Command.Counted.branch]
    -- A counted loop, with and without a stricter condition: its counter is handed out first.
    case vc11 => grind [Command.Counted.loop]
    case vc13 => grind [Command.Counted.loop]
    -- What is left are loops that need not be bounded, and failures.
    all_goals grind

/-! ## Requests -/

/-- What a generator can be asked for. -/
inductive Request where
  | aexp (depth : Nat)
  | bexp (depth : Nat)
  | state
  | command (bounded : Bool) (depth : Nat)

/-- The progress after a request, also if it fails. -/
def Request.progress (p : Progress σ) : Request → Progress σ
  | aexp depth => ((gen.aexp depth).run p).2
  | bexp depth => ((gen.bexp depth).run p).2
  | state => (gen.state.run p).2
  | command bounded depth => ((gen.command bounded depth).run p).2

/-- The progress after a list of requests, the first one first. -/
def after (requests : List Request) (p : Progress σ) : Progress σ :=
  requests.foldl (Request.progress gen) p

theorem Request.nextCounter_le_progress (p : Progress σ) (request : Request) :
    p.nextCounter ≤ (request.progress gen p).nextCounter := by
  cases request with
  | aexp depth => exact Int.le_of_eq (Draw.nextCounter_of_keeps (gen.aexp_spec depth) p).symm
  | bexp depth => exact Int.le_of_eq (Draw.nextCounter_of_keeps (gen.bexp_spec depth) p).symm
  | state => exact Int.le_of_eq (Draw.nextCounter_of_keeps gen.state_spec p).symm
  | command bounded depth =>
    rcases hrun : (gen.command bounded depth).run p with ⟨c | e, q⟩
    · rw [progress, hrun]
      exact Draw.of_triple (gen.command_spec bounded depth p.nextCounter) hrun rfl
    · rw [progress, hrun]
      exact (Draw.of_triple (gen.command_spec bounded depth p.nextCounter) hrun rfl).1

/-- **Counters ascend.** No request sets the next counter back. -/
theorem nextCounter_le_after (requests : List Request) (p : Progress σ) :
    p.nextCounter ≤ (gen.after requests p).nextCounter := by
  induction requests generalizing p with
  | nil => exact Int.le_refl _
  | cons request rest ih =>
    exact Int.le_trans (request.nextCounter_le_progress gen p) (ih (request.progress gen p))

/-! ## Budgets -/

/-- **Bounded programs end**, and the depth says within which budget. The variables of the programs
are to come before all counters; whatever the generator was asked for earlier does not matter. -/
theorem bounded_programs_end (hcount : 0 ≤ gen.config.maxLoopCount)
    (hidents : ∀ x ∈ gen.config.idents, x < gen.config.counterBase) (g : σ)
    (earlier : List Request) (d : Int) {c : Command} {q : Progress σ}
    (hdrawn : (gen.command true d.toNat).run (gen.after earlier (gen.start g)) = (.ok c, q))
    (s : State) :
    ∃ t, Interpreter.standard .standard (1 + max d 0 * (gen.config.maxLoopCount + 2)) c s =
      .ok (some t) := by
  set i := (gen.after earlier (gen.start g)).nextCounter with hi
  have hbase : gen.config.counterBase ≤ i := gen.nextCounter_le_after earlier (gen.start g)
  have hcounted : c.Counted gen.config.idents gen.config.maxLoopCount.toNat d.toNat i
      q.nextCounter := (Draw.of_triple (gen.command_spec true d.toNat i) hdrawn hi.symm).2 rfl
  have hbefore : ∀ x ∈ gen.config.idents, x < i := by
    intro x hx
    exact Int.lt_of_lt_of_le (hidents x hx) hbase
  obtain ⟨t, ht⟩ := hcounted.endsWithin hbefore s
  have hbudget : 1 + max d 0 * (gen.config.maxLoopCount + 2) =
      (Command.Counted.budget gen.config.maxLoopCount.toNat d.toNat : Nat) := by
    rw [Command.Counted.budget]
    push_cast
    rw [Int.toNat_of_nonneg hcount, Int.toNat_eq_max]
  refine ⟨t, ?_⟩
  rw [hbudget, Interpreter.standard_natCast, ht]

/-- Draws loops, and always takes the last of a list and the greatest number of a range. Chances of
one half and more come true. -/
def lastChoice : Generator Unit where
  source :=
    { fraction := fun _ => (1 <<< 52 - 1, ())
      below := fun n _ => (n - 1, ())
      fraction_lt := by decide
      below_lt := fun n _ h => Nat.sub_lt h Nat.one_pos }
  config := { maxExprDepth := 0, weights := [(.loop, .whole 1)] }

/-- What it draws at depth 2, when the counter 100 went to an earlier loop. -/
def twoLoops : Command :=
  countedLoop 101 4 (some (.conj .tt .tt))
    (countedLoop 102 4 (some (.conj .tt .tt)) (.assign 2 (.number 5)))

theorem bounded_programs_end_nested :
    ((lastChoice.command true 2).run
      (lastChoice.after [.command true 1] (lastChoice.start ()))).1 = .ok twoLoops ∧
    ∀ s, ∃ t, Interpreter.standard .standard (1 + max 2 0 * (4 + 2)) twoLoops s = .ok (some t) := by
  have hdrawn : ((lastChoice.command true (2 : Int).toNat).run
      (lastChoice.after [.command true 1] (lastChoice.start ()))).1 = .ok twoLoops := by
    decide +kernel
  refine ⟨hdrawn, ?_⟩
  intro s
  rcases hrun : (lastChoice.command true (2 : Int).toNat).run
      (lastChoice.after [.command true 1] (lastChoice.start ())) with ⟨r, q⟩
  rw [hrun] at hdrawn
  obtain rfl : r = .ok twoLoops := hdrawn
  exact lastChoice.bounded_programs_end (by decide) (by decide) () [.command true 1] 2 hrun s

end WhileLang.Generator

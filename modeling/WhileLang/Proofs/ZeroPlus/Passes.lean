import WhileLang.Proofs.Nodes
import WhileLang.Proofs.ZeroPlus
import WhileLang.Service.Answer
import Mathlib.Logic.Function.Iterate

/-!
# What a pass leaves behind

A pass over a phrase drops the sums `0 + e` that it finds, each with two nodes
(`Phrase.size_dropZeroPlus`), and changes nothing if there are none
(`Phrase.dropZeroPlus_eq_self_iff`).

It looks for the literal zero before it simplifies the left operand, so a left operand such as
`0 + 0`, which only becomes zero, makes a new sum with zero. The sums `0 + e` that are left are
those and no others (`Phrase.one_pass_leaves_hidden_zeros`). Since every pass that finds something
makes the tree smaller, repeated passes come to an end (`passes_end`).
-/

namespace WhileLang

/-! ## Sums with zero among the nodes -/

/-- Zero with or without sums around it: `0`, `0 + 0`, `0 + (0 + 0)` and so on. -/
def AExp.isZeroChain : AExp → Bool
  | number v => v = 0
  | plus l r => l = number 0 && r.isZeroChain
  | var _ | minus .. => false

theorem AExp.dropZeroPlus_eq_zero_iff {e : AExp} :
    e.dropZeroPlus = number 0 ↔ e.isZeroChain = true := by
  induction e with
  | number v => simp [dropZeroPlus, isZeroChain]
  | var x => simp [dropZeroPlus, isZeroChain]
  | plus l r _ ihr => by_cases hl : l = number 0 <;> simp [dropZeroPlus, isZeroChain, hl, ihr]
  | minus l r => simp [dropZeroPlus, isZeroChain]

/-- A last element that does not satisfy the predicate is not counted. -/
theorem countP_concat {α : Type} {p : α → Bool} {xs : List α} {x : α} (h : p x = false) :
    (xs ++ [x]).countP p = xs.countP p := by
  simp [h]

namespace Phrase

/-- A sum whose left operand is the literal zero. -/
def isZeroPlus : Phrase → Bool
  | aexp (.plus l _) => l = .number 0
  | _ => false

/-- A sum whose left operand is zero, but written as a sum itself. -/
def hidesZeroPlus : Phrase → Bool
  | aexp (.plus l _) => l ≠ .number 0 && l.isZeroChain
  | _ => false

def dropZeroPlus : Phrase → Phrase
  | aexp e => aexp e.dropZeroPlus
  | bexp b => bexp b.dropZeroPlus
  | command c => command c.dropZeroPlus

/-- No sum has the literal zero on its left. -/
def ZeroPlusFree : Phrase → Prop
  | aexp e => e.ZeroPlusFree
  | bexp b => b.ZeroPlusFree
  | command c => c.ZeroPlusFree

end Phrase

/-! ## Expressions -/

namespace AExp

theorem zeroPlusFree_iff {e : AExp} :
    e.ZeroPlusFree ↔ e.nodes.countP Phrase.isZeroPlus = 0 := by
  induction e with
  | number v => simp [ZeroPlusFree, nodes, Phrase.isZeroPlus]
  | var x => simp [ZeroPlusFree, nodes, Phrase.isZeroPlus]
  | plus l r ihl ihr =>
    by_cases hl : l = number 0 <;> simp [ZeroPlusFree, nodes, Phrase.isZeroPlus, hl, ihl, ihr]
  | minus l r ihl ihr => simp [ZeroPlusFree, nodes, Phrase.isZeroPlus, ihl, ihr]

theorem dropZeroPlus_eq_self {e : AExp} (h : e.ZeroPlusFree) : e.dropZeroPlus = e := by
  induction e with
  | number v => rfl
  | var x => rfl
  | plus l r ihl ihr => rw [dropZeroPlus, if_neg h.1, ihl h.2.1, ihr h.2.2]
  | minus l r ihl ihr => rw [dropZeroPlus, ihl h.1, ihr h.2]

theorem size_dropZeroPlus (e : AExp) :
    e.dropZeroPlus.size + 2 * e.nodes.countP Phrase.isZeroPlus = e.size := by
  induction e with
  | number v => rfl
  | var x => rfl
  | plus l r ihl ihr =>
    by_cases hl : l = number 0
    · have hcount : (plus l r).nodes.countP Phrase.isZeroPlus =
          r.nodes.countP Phrase.isZeroPlus + 1 := by
        simp [nodes, Phrase.isZeroPlus, hl]
      rw [dropZeroPlus, if_pos hl, hcount, size, hl, size]
      omega
    · have hcount : (plus l r).nodes.countP Phrase.isZeroPlus =
          l.nodes.countP Phrase.isZeroPlus + r.nodes.countP Phrase.isZeroPlus := by
        simp [nodes, Phrase.isZeroPlus, hl]
      rw [dropZeroPlus, if_neg hl, hcount, size, size]
      omega
  | minus l r ihl ihr =>
    rw [dropZeroPlus, size, size, nodes, countP_concat rfl, List.countP_append]
    omega

theorem countP_dropZeroPlus (e : AExp) :
    e.dropZeroPlus.nodes.countP Phrase.isZeroPlus = e.nodes.countP Phrase.hidesZeroPlus := by
  induction e with
  | number v => rfl
  | var x => rfl
  | plus l r ihl ihr =>
    by_cases hl : l = number 0
    · subst hl
      simp [dropZeroPlus, nodes, Phrase.hidesZeroPlus, ihr]
    · simp [dropZeroPlus, nodes, Phrase.isZeroPlus, Phrase.hidesZeroPlus, hl,
        dropZeroPlus_eq_zero_iff, ihl, ihr]
  | minus l r ihl ihr =>
    simp [dropZeroPlus, nodes, Phrase.isZeroPlus, Phrase.hidesZeroPlus, ihl, ihr]

end AExp

/-! ## Conditions -/

namespace BExp

theorem zeroPlusFree_iff {b : BExp} :
    b.ZeroPlusFree ↔ b.nodes.countP Phrase.isZeroPlus = 0 := by
  induction b with
  | tt => simp [ZeroPlusFree, nodes, Phrase.isZeroPlus]
  | ff => simp [ZeroPlusFree, nodes, Phrase.isZeroPlus]
  | equal l r => simp [ZeroPlusFree, nodes, Phrase.isZeroPlus, AExp.zeroPlusFree_iff]
  | lessEqual l r => simp [ZeroPlusFree, nodes, Phrase.isZeroPlus, AExp.zeroPlusFree_iff]
  | neg b ih => simp [ZeroPlusFree, nodes, Phrase.isZeroPlus, ih]
  | conj l r ihl ihr => simp [ZeroPlusFree, nodes, Phrase.isZeroPlus, ihl, ihr]

theorem dropZeroPlus_eq_self {b : BExp} (h : b.ZeroPlusFree) : b.dropZeroPlus = b := by
  induction b with
  | tt => rfl
  | ff => rfl
  | equal l r => rw [dropZeroPlus, AExp.dropZeroPlus_eq_self h.1, AExp.dropZeroPlus_eq_self h.2]
  | lessEqual l r => rw [dropZeroPlus, AExp.dropZeroPlus_eq_self h.1, AExp.dropZeroPlus_eq_self h.2]
  | neg b ih => rw [dropZeroPlus, ih h]
  | conj l r ihl ihr => rw [dropZeroPlus, ihl h.1, ihr h.2]

theorem size_dropZeroPlus (b : BExp) :
    b.dropZeroPlus.size + 2 * b.nodes.countP Phrase.isZeroPlus = b.size := by
  induction b with
  | tt => rfl
  | ff => rfl
  | equal l r =>
    have hl := l.size_dropZeroPlus
    have hr := r.size_dropZeroPlus
    rw [dropZeroPlus, size, size, nodes, countP_concat rfl, List.countP_append]
    omega
  | lessEqual l r =>
    have hl := l.size_dropZeroPlus
    have hr := r.size_dropZeroPlus
    rw [dropZeroPlus, size, size, nodes, countP_concat rfl, List.countP_append]
    omega
  | neg b ih =>
    rw [dropZeroPlus, size, size, nodes, countP_concat rfl]
    omega
  | conj l r ihl ihr =>
    rw [dropZeroPlus, size, size, nodes, countP_concat rfl, List.countP_append]
    omega

theorem countP_dropZeroPlus (b : BExp) :
    b.dropZeroPlus.nodes.countP Phrase.isZeroPlus = b.nodes.countP Phrase.hidesZeroPlus := by
  induction b with
  | tt => rfl
  | ff => rfl
  | equal l r =>
    simp [dropZeroPlus, nodes, Phrase.isZeroPlus, Phrase.hidesZeroPlus, AExp.countP_dropZeroPlus]
  | lessEqual l r =>
    simp [dropZeroPlus, nodes, Phrase.isZeroPlus, Phrase.hidesZeroPlus, AExp.countP_dropZeroPlus]
  | neg b ih => simp [dropZeroPlus, nodes, Phrase.isZeroPlus, Phrase.hidesZeroPlus, ih]
  | conj l r ihl ihr =>
    simp [dropZeroPlus, nodes, Phrase.isZeroPlus, Phrase.hidesZeroPlus, ihl, ihr]

end BExp

/-! ## Commands -/

namespace Command

theorem zeroPlusFree_iff {c : Command} :
    c.ZeroPlusFree ↔ c.nodes.countP Phrase.isZeroPlus = 0 := by
  induction c with
  | skip => simp [ZeroPlusFree, nodes, Phrase.isZeroPlus]
  | assign x e => simp [ZeroPlusFree, nodes, Phrase.isZeroPlus, AExp.zeroPlusFree_iff]
  | seq c₁ c₂ ih₁ ih₂ => simp [ZeroPlusFree, nodes, Phrase.isZeroPlus, ih₁, ih₂]
  | branch b c₁ c₂ ih₁ ih₂ =>
    simp [ZeroPlusFree, nodes, Phrase.isZeroPlus, BExp.zeroPlusFree_iff, ih₁, ih₂]
  | loop b c ih => simp [ZeroPlusFree, nodes, Phrase.isZeroPlus, BExp.zeroPlusFree_iff, ih]

theorem dropZeroPlus_eq_self {c : Command} (h : c.ZeroPlusFree) : c.dropZeroPlus = c := by
  induction c with
  | skip => rfl
  | assign x e => rw [dropZeroPlus, AExp.dropZeroPlus_eq_self h]
  | seq c₁ c₂ ih₁ ih₂ => rw [dropZeroPlus, ih₁ h.1, ih₂ h.2]
  | branch b c₁ c₂ ih₁ ih₂ =>
    rw [dropZeroPlus, BExp.dropZeroPlus_eq_self h.1, ih₁ h.2.1, ih₂ h.2.2]
  | loop b c ih => rw [dropZeroPlus, BExp.dropZeroPlus_eq_self h.1, ih h.2]

theorem size_dropZeroPlus (c : Command) :
    c.dropZeroPlus.size + 2 * c.nodes.countP Phrase.isZeroPlus = c.size := by
  induction c with
  | skip => rfl
  | assign x e =>
    have he := e.size_dropZeroPlus
    rw [dropZeroPlus, size, size, nodes, countP_concat rfl]
    omega
  | seq c₁ c₂ ih₁ ih₂ =>
    rw [dropZeroPlus, size, size, nodes, countP_concat rfl, List.countP_append]
    omega
  | branch b c₁ c₂ ih₁ ih₂ =>
    have hb := b.size_dropZeroPlus
    rw [dropZeroPlus, size, size, nodes, countP_concat rfl, List.countP_append, List.countP_append]
    omega
  | loop b c ih =>
    have hb := b.size_dropZeroPlus
    rw [dropZeroPlus, size, size, nodes, countP_concat rfl, List.countP_append]
    omega

theorem countP_dropZeroPlus (c : Command) :
    c.dropZeroPlus.nodes.countP Phrase.isZeroPlus = c.nodes.countP Phrase.hidesZeroPlus := by
  induction c with
  | skip => rfl
  | assign x e =>
    simp [dropZeroPlus, nodes, Phrase.isZeroPlus, Phrase.hidesZeroPlus, AExp.countP_dropZeroPlus]
  | seq c₁ c₂ ih₁ ih₂ =>
    simp [dropZeroPlus, nodes, Phrase.isZeroPlus, Phrase.hidesZeroPlus, ih₁, ih₂]
  | branch b c₁ c₂ ih₁ ih₂ =>
    simp [dropZeroPlus, nodes, Phrase.isZeroPlus, Phrase.hidesZeroPlus, BExp.countP_dropZeroPlus,
      ih₁, ih₂]
  | loop b c ih =>
    simp [dropZeroPlus, nodes, Phrase.isZeroPlus, Phrase.hidesZeroPlus, BExp.countP_dropZeroPlus,
      ih]

theorem size_pos (c : Command) : 0 < c.size := by
  cases c <;> exact Nat.succ_pos _

end Command

/-! ## One pass -/

namespace Phrase

theorem zeroPlusFree_iff {p : Phrase} : p.ZeroPlusFree ↔ p.nodes.countP isZeroPlus = 0 := by
  cases p with
  | aexp e => exact AExp.zeroPlusFree_iff
  | bexp b => exact BExp.zeroPlusFree_iff
  | command c => exact Command.zeroPlusFree_iff

/-- **A pass drops two nodes for each sum with zero.** -/
theorem size_dropZeroPlus (p : Phrase) :
    p.dropZeroPlus.size + 2 * p.nodes.countP isZeroPlus = p.size := by
  cases p with
  | aexp e => exact e.size_dropZeroPlus
  | bexp b => exact b.size_dropZeroPlus
  | command c => exact c.size_dropZeroPlus

/-- **A pass leaves as many sums with zero as were hidden.** -/
theorem countP_dropZeroPlus (p : Phrase) :
    p.dropZeroPlus.nodes.countP isZeroPlus = p.nodes.countP hidesZeroPlus := by
  cases p with
  | aexp e => exact e.countP_dropZeroPlus
  | bexp b => exact b.countP_dropZeroPlus
  | command c => exact c.countP_dropZeroPlus

/-- **A pass changes a phrase exactly if there is something to drop.** -/
theorem dropZeroPlus_eq_self_iff {p : Phrase} : p.dropZeroPlus = p ↔ p.ZeroPlusFree := by
  constructor
  · intro h
    have hsize := p.size_dropZeroPlus
    rw [h] at hsize
    exact zeroPlusFree_iff.2 (by omega)
  · intro h
    cases p with
    | aexp e => exact congrArg aexp (AExp.dropZeroPlus_eq_self h)
    | bexp b => exact congrArg bexp (BExp.dropZeroPlus_eq_self h)
    | command c => exact congrArg command (Command.dropZeroPlus_eq_self h)

/-- **What one pass leaves.** The sums `0 + e` of the simplified phrase are as many as there are
sums in the phrase whose left operand is zero, but written as a sum. So none are left exactly if
there are no such sums, and this is also when a second pass changes nothing. -/
theorem one_pass_leaves_hidden_zeros (p : Phrase) :
    p.dropZeroPlus.nodes.countP isZeroPlus = p.nodes.countP hidesZeroPlus ∧
    (p.dropZeroPlus.ZeroPlusFree ↔ p.nodes.any hidesZeroPlus = false) ∧
    (p.dropZeroPlus.ZeroPlusFree ↔ p.dropZeroPlus.dropZeroPlus = p.dropZeroPlus) := by
  refine ⟨p.countP_dropZeroPlus, ?_, dropZeroPlus_eq_self_iff.symm⟩
  rw [zeroPlusFree_iff, countP_dropZeroPlus, List.countP_eq_zero]
  simp

end Phrase

/-- The left operand `0 + 0` is zero only after the pass, which leaves `0 + 1`. -/
theorem zero_appears_on_the_left :
    let c : Command := .assign 0 (.plus (.plus (.number 0) (.number 0)) (.number 1))
    c.dropZeroPlus = .assign 0 (.plus (.number 0) (.number 1)) ∧ ¬ c.dropZeroPlus.ZeroPlusFree ∧
      c.dropZeroPlus.dropZeroPlus = .assign 0 (.number 1) := by
  intro c
  have hpass : c.dropZeroPlus = .assign 0 (.plus (.number 0) (.number 1)) := rfl
  refine ⟨hpass, fun h => ?_, rfl⟩
  rw [hpass] at h
  exact h.1 rfl

/-! ## Repeated passes -/

namespace Command

theorem dropZeroPlus_eq_self_iff {c : Command} : c.dropZeroPlus = c ↔ c.ZeroPlusFree := by
  rw [← Phrase.command.injEq]
  exact Phrase.dropZeroPlus_eq_self_iff (p := .command c)

/-- The sums with zero cost two nodes each. -/
theorem size_dropZeroPlus_le {c : Command} (h : ¬ c.ZeroPlusFree) :
    c.dropZeroPlus.size + 2 ≤ c.size := by
  have hcount : c.nodes.countP Phrase.isZeroPlus ≠ 0 := fun hcount => h (zeroPlusFree_iff.2 hcount)
  have hsize := c.size_dropZeroPlus
  omega

/-- **Passes come to an end**, after less than half as many of them as there are nodes. -/
theorem exists_iterate_zeroPlusFree (c : Command) :
    ∃ n, 2 * n < c.size ∧ (dropZeroPlus^[n] c).ZeroPlusFree := by
  -- The induction is on the size: a pass that finds something leaves a smaller command.
  induction hsize : c.size using Nat.strongRecOn generalizing c with
  | _ size ih =>
    subst hsize
    by_cases hfree : c.ZeroPlusFree
    · exact ⟨0, c.size_pos, hfree⟩
    · have hdrop := size_dropZeroPlus_le hfree
      obtain ⟨n, hn, hend⟩ := ih c.dropZeroPlus.size (by omega) c.dropZeroPlus rfl
      exact ⟨n + 1, by omega, hend⟩

/-- No number of passes changes a result. -/
theorem interpreter_iterate_dropZeroPlus (n : Nat) (c : Command) (budget : Int) (s : State) :
    Interpreter.standard .standard budget (dropZeroPlus^[n] c) s =
      Interpreter.standard .standard budget c s := by
  induction n generalizing c with
  | zero => rfl
  | succ n ih =>
    rw [Function.iterate_succ_apply, ih, ← Rewriting.command_zeroPlus,
      Rewriting.zeroPlus.interpreter_command]

end Command

namespace Service

/-- **The flag of an answer is exact.** -/
theorem optimize_eq {r : ProgramRequest} {p : Program} (h : r.resolve = .ok p) :
    ∃ o, optimize r = .ok o ∧ o.command = p.command.dropZeroPlus ∧
      (o.changed = true ↔ p.command.dropZeroPlus ≠ p.command) := by
  refine ⟨⟨p.command.dropZeroPlus, p.command.dropZeroPlus ≠ p.command, p.command.block p.names,
    p.command.dropZeroPlus.block p.names⟩, ?_, rfl, decide_eq_true_iff⟩
  rw [optimize, resolve, h]
  rfl

end Service

/-- **The flag of a change is exact, and repeated passes come to an end.** A pass changes a command
exactly if some sum has the literal zero on its left, and then at least two nodes go; the service
says which. After less than half as many passes as there are nodes no such sum is left, and the
command that is then reached has the results of the original on every budget. -/
theorem passes_end (c : Command) :
    (c.dropZeroPlus = c ↔ c.ZeroPlusFree) ∧
    (¬ c.ZeroPlusFree → c.dropZeroPlus.size + 2 ≤ c.size) ∧
    (∃ n, 2 * n < c.size ∧ (Command.dropZeroPlus^[n] c).ZeroPlusFree ∧
      ∀ (budget : Int) (s : State),
        Interpreter.standard .standard budget (Command.dropZeroPlus^[n] c) s =
          Interpreter.standard .standard budget c s) ∧
    ∀ (r : Service.ProgramRequest) (p : Program), r.resolve = .ok p → p.command = c →
      ∃ o, Service.optimize r = .ok o ∧ o.command = c.dropZeroPlus ∧
        (o.changed = true ↔ ¬ c.ZeroPlusFree) := by
  refine ⟨Command.dropZeroPlus_eq_self_iff, Command.size_dropZeroPlus_le, ?_, ?_⟩
  · obtain ⟨n, hn, hfree⟩ := c.exists_iterate_zeroPlusFree
    exact ⟨n, hn, hfree, c.interpreter_iterate_dropZeroPlus n⟩
  · rintro r p hp rfl
    obtain ⟨o, ho, hcommand, hchanged⟩ := Service.optimize_eq hp
    exact ⟨o, ho, hcommand, hchanged.trans (not_congr Command.dropZeroPlus_eq_self_iff)⟩

/-- A sum with zero that only appears in the first pass: the second pass drops it too. -/
theorem passes_end_hidden_zero :
    let c : Command := .loop (.lessEqual (.number 1) (.plus (.number 0) (.var 0)))
      (.assign 0 (.minus (.plus (.plus (.number 0) (.number 0)) (.var 0)) (.number 1)))
    let d : Command := .loop (.lessEqual (.number 1) (.var 0))
      (.assign 0 (.minus (.var 0) (.number 1)))
    ¬ c.ZeroPlusFree ∧ c.dropZeroPlus.size + 2 ≤ c.size ∧
      (∃ o, Service.optimize ⟨.given c, none⟩ = .ok o ∧ o.changed = true) ∧
      (Command.dropZeroPlus^[2] c = d ∧ d.ZeroPlusFree) ∧
      ∃ n, 2 * n < 14 ∧ (Command.dropZeroPlus^[n] c).ZeroPlusFree ∧
        Interpreter.standard .standard 3 (Command.dropZeroPlus^[n] c) (.ofList [(0, 2)]) =
          Interpreter.standard .standard 3 c (.ofList [(0, 2)]) := by
  intro c d
  have hpasses := passes_end c
  have hfree : ¬ c.ZeroPlusFree := fun h => h.1.2.1 rfl
  obtain ⟨o, ho, -, hchanged⟩ := hpasses.2.2.2 ⟨.given c, none⟩ _ rfl rfl
  obtain ⟨n, hn, hend, hresults⟩ := hpasses.2.2.1
  have hd : d.ZeroPlusFree := by
    simp [d, Command.ZeroPlusFree, BExp.ZeroPlusFree, AExp.ZeroPlusFree]
  exact ⟨hfree, hpasses.2.1 hfree, ⟨o, ho, hchanged.2 hfree⟩, ⟨rfl, hd⟩, n, hn, hend,
    hresults 3 _⟩

end WhileLang

import WhileLang.Proofs.Nodes
import WhileLang.Proofs.Text.Numeral
import WhileLang.Service.Answer

/-!
# What an explanation shows

Every node of an expression that is no literal is a computation. `Phrase.line?` is the line for it,
made of the values that the evaluator gives to its operands and to itself. An explanation consists
of the value of the expression and of these lines for all its nodes in post-order
(`AExp.explain_eq`, `BExp.explain_eq`), so no computation is left out, not even on the side of a
conjunction that cannot change its truth.

It can be shown unless one of the integers on the lines is too long to be written
(`explanation_shows_every_computation`).
-/

namespace WhileLang

variable {s : State}

namespace Phrase

/-- Expressions and conditions that are no literals. -/
def isComputation : Phrase → Bool
  | aexp (.number _) | bexp .tt | bexp .ff | command _ => false
  | aexp _ | bexp _ => true

/-- The line for a computation: the values of the operands, and the value of the whole. -/
def line? (s : State) : Phrase → Option String
  | aexp (.var x) => some ((∅ : Names).display x ++ " = " ++ toString ((AExp.var x).eval s))
  | aexp (.plus l r) =>
    some (arithmeticLine (l.eval s) "+" (r.eval s) ((AExp.plus l r).eval s))
  | aexp (.minus l r) =>
    some (arithmeticLine (l.eval s) "-" (r.eval s) ((AExp.minus l r).eval s))
  | bexp (.equal l r) =>
    some (comparisonLine (l.eval s) "=" (r.eval s) ((BExp.equal l r).eval s))
  | bexp (.lessEqual l r) =>
    some (comparisonLine (l.eval s) "<=" (r.eval s) ((BExp.lessEqual l r).eval s))
  | bexp (.neg b) =>
    some ("not " ++ truthText (b.eval s) ++ " is " ++ truthText ((BExp.neg b).eval s))
  | bexp (.conj l r) => some (conjunctionLine (l.eval s) (r.eval s) ((BExp.conj l r).eval s))
  | aexp (.number _) | bexp .tt | bexp .ff | command _ => none

/-- The integers on that line. -/
def numbers (s : State) : Phrase → List Int
  | aexp (.var x) => [x, s.lookup x]
  | aexp (.plus l r) => [l.eval s, r.eval s, (AExp.plus l r).eval s]
  | aexp (.minus l r) => [l.eval s, r.eval s, (AExp.minus l r).eval s]
  | bexp (.equal l r) | bexp (.lessEqual l r) => [l.eval s, r.eval s]
  | _ => []

/-- The lines for all computations of a phrase, in post-order. -/
def lines (s : State) (p : Phrase) : List String := p.nodes.filterMap (line? s)

theorem isSome_line? (p : Phrase) : (p.line? s).isSome = p.isComputation := by
  cases p with
  | aexp e => cases e <;> rfl
  | bexp b => cases b <;> rfl
  | command c => rfl

/-- **One line for each computation.** -/
theorem length_lines (p : Phrase) : (p.lines s).length = p.nodes.countP isComputation := by
  rw [lines, List.length_filterMap_eq_countP]
  simp only [isSome_line?]

/-- The lines for a part of a phrase stand together. -/
theorem infix_lines {p q : Phrase} (h : q ∈ p.nodes) : q.lines s <:+: p.lines s :=
  (infix_nodes h).filterMap (line? s)

end Phrase

theorem AExp.explain_eq (s : State) (e : AExp) :
    e.explain s = ⟨e.eval s, (Phrase.aexp e).lines s⟩ := by
  induction e with
  | number v => rfl
  | var x => rfl
  | plus l r ihl ihr =>
    simp [explain, ihl, ihr, Phrase.lines, Phrase.nodes, nodes, Phrase.line?, eval]
  | minus l r ihl ihr =>
    simp [explain, ihl, ihr, Phrase.lines, Phrase.nodes, nodes, Phrase.line?, eval]

theorem BExp.explain_eq (s : State) (b : BExp) :
    b.explain s = ⟨b.eval s, (Phrase.bexp b).lines s⟩ := by
  induction b with
  | tt => rfl
  | ff => rfl
  | equal l r =>
    simp [explain, AExp.explain_eq, Phrase.lines, Phrase.nodes, nodes, Phrase.line?, eval, evalWith]
  | lessEqual l r =>
    simp [explain, AExp.explain_eq, Phrase.lines, Phrase.nodes, nodes, Phrase.line?, eval, evalWith]
  | neg b ih =>
    simp [explain, ih, Phrase.lines, Phrase.nodes, nodes, Phrase.line?, eval, evalWith,
      negationLine]
  | conj l r ihl ihr =>
    simp [explain, ihl, ihr, Phrase.lines, Phrase.nodes, nodes, Phrase.line?, eval, evalWith]

theorem AExp.shown_eq (s : State) (e : AExp) : e.shown s = e.nodes.flatMap (Phrase.numbers s) := by
  induction e with
  | number v => rfl
  | var x => rfl
  | plus l r ihl ihr => simp [shown, nodes, ihl, ihr, Phrase.numbers]
  | minus l r ihl ihr => simp [shown, nodes, ihl, ihr, Phrase.numbers]

theorem BExp.shown_eq (s : State) (b : BExp) : b.shown s = b.nodes.flatMap (Phrase.numbers s) := by
  induction b with
  | tt => rfl
  | ff => rfl
  | equal l r => simp [shown, nodes, AExp.shown_eq, Phrase.numbers]
  | lessEqual l r => simp [shown, nodes, AExp.shown_eq, Phrase.numbers]
  | neg b ih => simp [shown, nodes, ih, Phrase.numbers]
  | conj l r ihl ihr => simp [shown, nodes, ihl, ihr, Phrase.numbers]

/-! ## Explanations -/

/-- What an explanation of a phrase with the value `v` has to be. -/
structure Phrase.Explained (s : State) (p : Phrase) (v : Value) : Prop where
  /-- It is the value with the lines in post-order, unless an integer on them is too long. -/
  explain_eq : p.explain s =
    if (p.nodes.flatMap (numbers s)).all Text.isWritable then .ok ⟨v, p.lines s⟩
    else .error .numberTooLong
  length_nodes : p.nodes.length = p.size
  length_lines : (p.lines s).length = p.nodes.countP isComputation
  infix_lines (q : Phrase) (h : q ∈ p.nodes) : q.lines s <:+: p.lines s
  /-- Both sides of a conjunction are listed, the left one first. -/
  conj (l r : BExp) (h : bexp (.conj l r) ∈ p.nodes) :
    (bexp l).lines s ++ (bexp r).lines s ++
      [conjunctionLine (l.eval s) (r.eval s) ((BExp.conj l r).eval s)] <:+: p.lines s

theorem Phrase.Explained.of_explain_eq {p : Phrase} {v : Phrase.Value}
    (h : p.explain s =
      if (p.nodes.flatMap (numbers s)).all Text.isWritable then .ok ⟨v, p.lines s⟩
      else .error .numberTooLong) : p.Explained s v where
  explain_eq := h
  length_nodes := p.length_nodes
  length_lines := p.length_lines
  infix_lines _ := Phrase.infix_lines
  conj l r hq := by
    have hlines : (bexp (.conj l r)).lines s = (bexp l).lines s ++ (bexp r).lines s ++
        [conjunctionLine (l.eval s) (r.eval s) ((BExp.conj l r).eval s)] := by
      simp [lines, nodes, BExp.nodes, line?]
    exact hlines ▸ Phrase.infix_lines hq

theorem Phrase.explain_aexp (s : State) (e : AExp) : (aexp e).explain s =
    if (e.nodes.flatMap (numbers s)).all Text.isWritable then
      .ok ⟨.number (e.eval s), (aexp e).lines s⟩
    else .error .numberTooLong := by
  rw [explain, ifWritable, e.shown_eq, e.explain_eq]
  rfl

theorem Phrase.explain_bexp (s : State) (b : BExp) : (bexp b).explain s =
    if (b.nodes.flatMap (numbers s)).all Text.isWritable then
      .ok ⟨.truth (b.eval s), (bexp b).lines s⟩
    else .error .numberTooLong := by
  show ifWritable (b.shown s) ((b.explain s).map .truth) = _
  rw [ifWritable, b.shown_eq, b.explain_eq]
  rfl

/-- **An explanation agrees with the evaluator and shows every computation once.** It has the value
that the evaluator gives, and one line for each variable, each operation and each comparison, in
post-order, on which the evaluator's values of the operands and of the whole stand; literals have no
line. Only an integer that is too long to be written keeps it from being given. -/
theorem explanation_shows_every_computation (s : State) :
    (∀ e : AExp, (Phrase.aexp e).Explained s (.number (e.eval s))) ∧
    ∀ b : BExp, (Phrase.bexp b).Explained s (.truth (b.eval s)) :=
  ⟨fun e => .of_explain_eq (Phrase.explain_aexp s e),
    fun b => .of_explain_eq (Phrase.explain_bexp s b)⟩

example : (Phrase.bexp (.conj .ff (.equal (.var 0) (.number 1)))).lines .initial =
    ["x0 = 0", "0 = 1 is false", "false and false is false"] := by
  decide +kernel

/-- A doubled number that is too long to be written has no line, so what it is compared with does
not matter. -/
theorem explain_doubled {v : Int} (hv : Text.isWritable (v + v) = false) :
    let b : BExp := .equal (.plus (.number v) (.number v)) (.number 1)
    b.eval s = false ∧ (Phrase.bexp b).explain s = .error .numberTooLong ∧
      Service.eval (.bexp b) s = .error (.failed .numberTooLong) := by
  intro b
  have hexplain : (Phrase.bexp b).explain s = .error .numberTooLong := by
    have hlong : (b.nodes.flatMap (Phrase.numbers s)).all Text.isWritable = false := by
      simp [b, BExp.nodes, AExp.nodes, Phrase.numbers, AExp.eval, hv]
    rw [Phrase.explain_bexp, hlong]
    rfl
  have hne : v + v ≠ 1 := by omega
  refine ⟨decide_eq_false hne, hexplain, ?_⟩
  unfold Service.eval
  rw [hexplain]
  rfl

/-- The sum of two numbers has a digit more than they have. The comparison of it with `1` is false,
but there is no explanation of that. -/
theorem explanation_is_too_long :
    let v : Int := 5 * Text.powerOfTen 4299
    let b : BExp := .equal (.plus (.number v) (.number v)) (.number 1)
    Text.isWritable v = true ∧ b.eval .initial = false ∧
      (Phrase.bexp b).explain .initial = .error .numberTooLong ∧
      Service.eval (.bexp b) .initial = .error (.failed .numberTooLong) := by
  intro v b
  have hhalf := Text.isWritable_half (n := 4299) rfl
  exact ⟨hhalf.1, explain_doubled hhalf.2⟩

end WhileLang

import WhileLang.Phrase

/-!
# The nodes of a phrase

Every node of the tree of a phrase is given by the phrase whose root it is. The nodes are listed in
post-order: those of the operands from left to right, then the root. A phrase that occurs twice in
the tree is listed twice, so the list is as long as the tree is large (`Phrase.length_nodes`), and
what belongs to one node stands together in it (`Phrase.infix_nodes`).
-/

namespace WhileLang

def AExp.nodes : AExp → List Phrase
  | number v => [.aexp (number v)]
  | var x => [.aexp (var x)]
  | plus l r => l.nodes ++ r.nodes ++ [.aexp (plus l r)]
  | minus l r => l.nodes ++ r.nodes ++ [.aexp (minus l r)]

def BExp.nodes : BExp → List Phrase
  | tt => [.bexp tt]
  | ff => [.bexp ff]
  | equal l r => l.nodes ++ r.nodes ++ [.bexp (equal l r)]
  | lessEqual l r => l.nodes ++ r.nodes ++ [.bexp (lessEqual l r)]
  | neg b => b.nodes ++ [.bexp (neg b)]
  | conj l r => l.nodes ++ r.nodes ++ [.bexp (conj l r)]

def Command.nodes : Command → List Phrase
  | skip => [.command skip]
  | assign x e => e.nodes ++ [.command (assign x e)]
  | seq c₁ c₂ => c₁.nodes ++ c₂.nodes ++ [.command (seq c₁ c₂)]
  | branch b c₁ c₂ => b.nodes ++ c₁.nodes ++ c₂.nodes ++ [.command (branch b c₁ c₂)]
  | loop b c => b.nodes ++ c.nodes ++ [.command (loop b c)]

theorem AExp.length_nodes (e : AExp) : e.nodes.length = e.size := by
  induction e with
  | number v => rfl
  | var x => rfl
  | plus l r ihl ihr => simp [nodes, size, ihl, ihr, Nat.add_assoc]
  | minus l r ihl ihr => simp [nodes, size, ihl, ihr, Nat.add_assoc]

theorem BExp.length_nodes (b : BExp) : b.nodes.length = b.size := by
  induction b with
  | tt => rfl
  | ff => rfl
  | equal l r => simp [nodes, size, AExp.length_nodes, Nat.add_assoc]
  | lessEqual l r => simp [nodes, size, AExp.length_nodes, Nat.add_assoc]
  | neg b ih => simp [nodes, size, ih]
  | conj l r ihl ihr => simp [nodes, size, ihl, ihr, Nat.add_assoc]

theorem Command.length_nodes (c : Command) : c.nodes.length = c.size := by
  induction c with
  | skip => rfl
  | assign x e => simp [nodes, size, AExp.length_nodes]
  | seq c₁ c₂ ih₁ ih₂ => simp [nodes, size, ih₁, ih₂, Nat.add_assoc]
  | branch b c₁ c₂ ih₁ ih₂ => simp [nodes, size, BExp.length_nodes, ih₁, ih₂, Nat.add_assoc]
  | loop b c ih => simp [nodes, size, BExp.length_nodes, ih, Nat.add_assoc]

namespace Phrase

def nodes : Phrase → List Phrase
  | aexp e => e.nodes
  | bexp b => b.nodes
  | command c => c.nodes

/-- The number of nodes of the tree. -/
def size : Phrase → Nat
  | aexp e => e.size
  | bexp b => b.size
  | command c => c.size

/-- **Every node is listed once.** -/
theorem length_nodes (p : Phrase) : p.nodes.length = p.size := by
  cases p with
  | aexp e => exact e.length_nodes
  | bexp b => exact b.length_nodes
  | command c => exact c.length_nodes

/-! ## Nodes of nodes -/

/-- The nodes below any phrase of the list stand together in it. -/
def Together (ps : List Phrase) : Prop := ∀ q ∈ ps, q.nodes <:+: ps

namespace Together

variable {ps qs : List Phrase}

theorem append (hps : Together ps) (hqs : Together qs) : Together (ps ++ qs) := by
  intro q hq
  rcases List.mem_append.1 hq with hq | hq
  · exact (hps q hq).trans (List.prefix_append ps qs).isInfix
  · exact (hqs q hq).trans (List.suffix_append ps qs).isInfix

/-- A root behind all that is below it. -/
theorem root {p : Phrase} (hps : Together ps) (hp : p.nodes = ps ++ [p]) :
    Together (ps ++ [p]) := by
  intro q hq
  rcases List.mem_append.1 hq with hq | hq
  · exact (hps q hq).trans (List.prefix_append ps [p]).isInfix
  · obtain rfl := List.mem_singleton.1 hq
    exact hp ▸ List.infix_refl _

theorem leaf {p : Phrase} (hp : p.nodes = [p]) : Together [p] := by
  intro q hq
  obtain rfl := List.mem_singleton.1 hq
  exact hp ▸ List.infix_refl _

end Together

end Phrase

theorem AExp.together_nodes (e : AExp) : Phrase.Together e.nodes := by
  induction e with
  | number v => exact .leaf rfl
  | var x => exact .leaf rfl
  | plus l r ihl ihr => exact (ihl.append ihr).root rfl
  | minus l r ihl ihr => exact (ihl.append ihr).root rfl

theorem BExp.together_nodes (b : BExp) : Phrase.Together b.nodes := by
  induction b with
  | tt => exact .leaf rfl
  | ff => exact .leaf rfl
  | equal l r => exact (l.together_nodes.append r.together_nodes).root rfl
  | lessEqual l r => exact (l.together_nodes.append r.together_nodes).root rfl
  | neg b ih => exact ih.root rfl
  | conj l r ihl ihr => exact (ihl.append ihr).root rfl

theorem Command.together_nodes (c : Command) : Phrase.Together c.nodes := by
  induction c with
  | skip => exact .leaf rfl
  | assign x e => exact e.together_nodes.root rfl
  | seq c₁ c₂ ih₁ ih₂ => exact (ih₁.append ih₂).root rfl
  | branch b c₁ c₂ ih₁ ih₂ => exact ((b.together_nodes.append ih₁).append ih₂).root rfl
  | loop b c ih => exact (b.together_nodes.append ih).root rfl

/-- **The nodes below a node stand together**, in their own order. -/
theorem Phrase.infix_nodes {p q : Phrase} (h : q ∈ p.nodes) : q.nodes <:+: p.nodes := by
  cases p with
  | aexp e => exact e.together_nodes q h
  | bexp b => exact b.together_nodes q h
  | command c => exact c.together_nodes q h

end WhileLang

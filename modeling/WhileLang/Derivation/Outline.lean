import WhileLang.Derivation
import WhileLang.Render

/-!
# Derivations as text

An outline has one line for each node; the premises of a node follow it in order, one level
deeper.
-/

namespace WhileLang.Derivation

mutual

/-- The nodes with their depths, each before its premises. -/
def preorder (depth : Nat) : Derivation → List (Nat × Derivation)
  | ⟨r, c, s, t, ps⟩ => (depth, ⟨r, c, s, t, ps⟩) :: preorders (depth + 1) ps

def preorders (depth : Nat) : List Derivation → List (Nat × Derivation)
  | [] => []
  | d :: ds => d.preorder depth ++ preorders depth ds

end

/-- The line of one node. -/
def line (names : Names) (depth : Nat) (d : Derivation) : Except Error String := do
  return Command.indent depth ++ "[" ++ d.rule.tag ++ "] " ++ (← d.pre.render names) ++ " -- " ++
    (← d.command.inline names) ++ " --> " ++ (← d.post.render names)

/-- All lines of a derivation. -/
def outline (names : Names) (d : Derivation) : Except Error (List String) :=
  (d.preorder 0).mapM fun n => line names n.1 n.2

end WhileLang.Derivation

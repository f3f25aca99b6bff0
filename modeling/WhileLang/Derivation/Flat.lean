import WhileLang.Derivation
import WhileLang.Error

/-!
# Flat derivations

A derivation as a list of nodes: the root comes first, and every node tells the places of its
premises. `flatten` lists a tree level by level. `unflatten` accepts every list in which each
premise stands behind the node that uses it and each node but the first is a premise exactly once,
whatever the order of the levels.
-/

namespace WhileLang

/-- A node of a flat derivation; its premises are places in the list. -/
structure FlatNode where
  rule : Rule
  command : Command
  pre : State
  post : State
  premises : List Int
deriving DecidableEq

namespace Derivation

/-- The places `next`, `next + 1`, … of so many premises. -/
def places (next count : Nat) : List Int := (List.range' next count).map Int.ofNat

theorem size_eq (d : Derivation) : d.size = sizes d.premises + 1 := by
  cases d; rw [size]

theorem sizes_append (ds es : List Derivation) : sizes (ds ++ es) = sizes ds + sizes es := by
  induction ds with
  | nil => simp [sizes]
  | cons d ds ih => simp [sizes, ih, Nat.add_assoc]

/-- Lists the trees of a queue level by level; `next` is the first place not yet given away. -/
def flattenQueue (next : Nat) : List Derivation → List FlatNode
  | [] => []
  | d :: queue =>
    ⟨d.rule, d.command, d.pre, d.post, places next d.premises.length⟩ ::
      flattenQueue (next + d.premises.length) (queue ++ d.premises)
termination_by queue => sizes queue
decreasing_by simp only [sizes_append, sizes, size_eq d]; omega

/-- The nodes of a tree, level by level. -/
def flatten (d : Derivation) : List FlatNode := flattenQueue 1 [d]

/-- Trees still to be used as premises; a tree that has been used leaves its place empty. -/
abbrev Pool := List (Option Derivation)

/-- Takes the tree at place `j` out of the pool of the places behind `i`. -/
def takePremise (i : Nat) (j : Int) (pool : Pool) : Except Error (Derivation × Pool) :=
  if j ≤ i then .error (.premiseOutOfRange i j)
  else
    match pool[(j - (i + 1)).toNat]? with
    | none => .error (.premiseOutOfRange i j)
    | some none => .error (.premiseShared j.toNat)
    | some (some d) => .ok (d, pool.set (j - (i + 1)).toNat none)

/-- Takes the trees at several places, in the given order. -/
def takePremises (i : Nat) : List Int → Pool → Except Error (List Derivation × Pool)
  | [], pool => .ok ([], pool)
  | j :: js, pool =>
    match takePremise i j pool with
    | .error e => .error e
    | .ok (d, pool) =>
      match takePremises i js pool with
      | .error e => .error e
      | .ok (ds, pool) => .ok (d :: ds, pool)

/-- Builds the trees of the nodes from place `i` on, starting with the last one. -/
def rebuild (i : Nat) : List FlatNode → Except Error Pool
  | [] => .ok []
  | n :: nodes =>
    match rebuild (i + 1) nodes with
    | .error e => .error e
    | .ok pool =>
      match takePremises i n.premises pool with
      | .error e => .error e
      | .ok (ps, pool) => .ok (some ⟨n.rule, n.command, n.pre, n.post, ps⟩ :: pool)

/-- The places from `i` on whose tree has not been used. -/
def unused (i : Nat) : Pool → List Nat
  | [] => []
  | none :: pool => unused (i + 1) pool
  | some _ :: pool => i :: unused (i + 1) pool

/-- The tree that a list of nodes describes. -/
def unflatten (nodes : List FlatNode) : Except Error Derivation :=
  match rebuild 0 nodes with
  | .error e => .error e
  | .ok (some root :: pool) =>
    match unused 1 pool with
    | [] => .ok root
    | js => .error (.unreachable js)
  | .ok _ => .error .noNodes

end Derivation

end WhileLang

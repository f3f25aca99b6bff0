import Mathlib.Data.List.Nodup
import Mathlib.Logic.Relation
import WhileLang.Derivation.Flat

/-!
# Which lists of nodes are flat derivations

`Derivation.unflatten` goes through the nodes from the last one to the first and never looks for a
path from the root. It does not have to: if premises stand behind the nodes that use them, and
every node but the first is a premise exactly once, then all nodes hang on the root. Such a list
is `Linked`, these lists are accepted (`exists_unflatten_eq_iff`), and every other list is refused
for a defect that it has (`hasDefect_of_unflatten_eq`).

What the recursion keeps is a pool of trees that no node has used yet (`Rebuilt`): a place behind
`i` holds a tree if and only if it is no premise of the nodes from `i` on, and the trees of the
pool have as many nodes as have been read.
-/

namespace WhileLang

namespace Derivation

/-- The premises of all nodes, node by node. -/
def links (nodes : List FlatNode) : List Int := nodes.flatMap (·.premises)

@[simp] theorem links_nil : links [] = [] := rfl

@[simp] theorem links_cons (n : FlatNode) (nodes : List FlatNode) :
    links (n :: nodes) = n.premises ++ links nodes := rfl

theorem mem_links_iff {nodes : List FlatNode} {j : Int} :
    j ∈ links nodes ↔ ∃ (k : Nat) (n : FlatNode), nodes[k]? = some n ∧ j ∈ n.premises := by
  rw [links, List.mem_flatMap]
  constructor
  · rintro ⟨n, hn, hj⟩
    obtain ⟨k, hk⟩ := List.mem_iff_getElem?.1 hn
    exact ⟨k, n, hk, hj⟩
  · rintro ⟨k, n, hk, hj⟩
    exact ⟨n, List.mem_of_getElem? hk, hj⟩

/-- Premises stand behind the nodes that use them, and each node but the first is one once. -/
structure Linked (nodes : List FlatNode) : Prop where
  ne_nil : nodes ≠ []
  in_range (i : Nat) (n : FlatNode) (hn : nodes[i]? = some n) (j : Int) (hj : j ∈ n.premises) :
    i < j ∧ j < nodes.length
  once (j : Nat) (hpos : 0 < j) (hlt : j < nodes.length) : (links nodes).count (j : Int) = 1

/-- The list has the defect that the error names. -/
def HasDefect (nodes : List FlatNode) : Error → Prop
  | .noNodes => nodes = []
  | .premiseOutOfRange i j =>
    ∃ n, nodes[i]? = some n ∧ j ∈ n.premises ∧ ¬ (i < j ∧ j < nodes.length)
  | .premiseShared j => 1 < (links nodes).count (j : Int)
  | .unreachable js =>
    js ≠ [] ∧ ∀ j, j ∈ js ↔ 0 < j ∧ j < nodes.length ∧ (j : Int) ∉ links nodes
  | _ => False

/-- The node at the place `i` uses the one at the place `j`. -/
def IsPremise (nodes : List FlatNode) (i j : Nat) : Prop :=
  ∃ n, nodes[i]? = some n ∧ (j : Int) ∈ n.premises

/-! ## The trees of a pool -/

/-- The pool of the places from `first` on holds a tree at the place `j`. -/
def Pool.Holds (first : Nat) (pool : Pool) (j : Int) : Prop :=
  ∃ (k : Nat) (d : Derivation), j = first + k ∧ pool[k]? = some (some d)

/-- The trees that have not been used. -/
def Pool.trees : Pool → List Derivation
  | [] => []
  | none :: pool => trees pool
  | some d :: pool => d :: trees pool

namespace Pool

variable {first k : Nat} {pool : Pool} {j : Int} {d : Derivation}

theorem not_holds_nil : ¬ Holds first [] j := by
  rintro ⟨k, d, -, hk⟩
  cases hk

theorem holds_cons {o : Option Derivation} :
    Holds first (o :: pool) j ↔ (j = first ∧ o.isSome = true) ∨ Holds (first + 1) pool j := by
  constructor
  · rintro ⟨k, d, rfl, hk⟩
    cases k with
    | zero =>
      obtain rfl : o = some d := Option.some.inj hk
      exact .inl ⟨by simp, rfl⟩
    | succ k => exact .inr ⟨k, d, by omega, hk⟩
  · rintro (⟨rfl, ho⟩ | ⟨k, d, rfl, hk⟩)
    · obtain ⟨d, rfl⟩ := Option.isSome_iff_exists.1 ho
      exact ⟨0, d, by simp, rfl⟩
    · exact ⟨k + 1, d, by omega, hk⟩

theorem holds_set : Holds first (pool.set k none) j ↔ Holds first pool j ∧ j ≠ first + k := by
  constructor
  · rintro ⟨l, d, rfl, hl⟩
    rw [List.getElem?_set] at hl
    split at hl
    · split at hl <;> cases hl
    · exact ⟨⟨l, d, rfl, hl⟩, by omega⟩
  · rintro ⟨⟨l, d, rfl, hl⟩, hne⟩
    refine ⟨l, d, rfl, ?_⟩
    rwa [List.getElem?_set_ne (by omega)]

theorem sizes_trees_set (h : pool[k]? = some (some d)) :
    d.size + sizes (trees (pool.set k none)) = sizes (trees pool) := by
  induction pool generalizing k with
  | nil => simp at h
  | cons o pool ih =>
    cases k with
    | zero =>
      obtain rfl : o = some d := Option.some.inj h
      simp [trees, sizes]
    | succ k =>
      have hrest := ih (k := k) h
      cases o with
      | none => exact hrest
      | some e =>
        simp only [List.set_cons_succ, trees, sizes]
        omega

end Pool

/-! ## Taking premises -/

variable {i : Nat} {j : Int} {js : List Int} {pool rest : Pool} {d : Derivation}
  {ds : List Derivation} {nodes : List FlatNode} {e : Error}

theorem takePremise_add (i k : Nat) (pool : Pool) :
    takePremise i (i + 1 + k) pool =
      match pool[k]? with
      | none => .error (.premiseOutOfRange i (i + 1 + k))
      | some none => .error (.premiseShared (i + 1 + k))
      | some (some d) => .ok (d, pool.set k none) := by
  have hbehind : ¬ (i : Int) + 1 + k ≤ i := by omega
  have hindex : ((i : Int) + 1 + k - (i + 1)).toNat = k := by omega
  have hplace : ((i : Int) + 1 + k).toNat = i + 1 + k := by omega
  rcases hk : pool[k]? with _ | _ | d <;>
    simp only [takePremise, if_neg hbehind, hindex, hplace, hk]

/-- Each place stands up to the node `i` or behind it. -/
theorem le_or_exists_eq_add (i : Nat) (j : Int) : j ≤ i ∨ ∃ k : Nat, j = i + 1 + k := by
  by_cases h : j ≤ i
  · exact .inl h
  · exact .inr ⟨(j - (i + 1)).toNat, by omega⟩

theorem exists_of_takePremise_eq (h : takePremise i j pool = .ok (d, rest)) :
    ∃ k : Nat, j = i + 1 + k ∧ pool[k]? = some (some d) ∧ rest = pool.set k none := by
  rcases le_or_exists_eq_add i j with hj | ⟨k, rfl⟩
  · rw [takePremise, if_pos hj] at h
    cases h
  · rw [takePremise_add] at h
    split at h
    · cases h
    · cases h
    · rename_i hk
      cases h
      exact ⟨k, rfl, hk, rfl⟩

/-- What has been taken, and what is left. -/
structure Taken (i : Nat) (js : List Int) (pool : Pool) (ds : List Derivation) (rest : Pool) :
    Prop where
  nodup : js.Nodup
  holds (j : Int) (hj : j ∈ js) : pool.Holds (i + 1) j
  holds_rest_iff (j : Int) : rest.Holds (i + 1) j ↔ pool.Holds (i + 1) j ∧ j ∉ js
  length_eq : rest.length = pool.length
  sizes_eq : sizes ds + sizes rest.trees = sizes pool.trees

theorem taken_of_takePremises_eq (h : takePremises i js pool = .ok (ds, rest)) :
    Taken i js pool ds rest := by
  induction js generalizing pool ds with
  | nil =>
    cases h
    exact ⟨.nil, by simp, by simp, rfl, by simp [sizes]⟩
  | cons j js ih =>
    rw [takePremises] at h
    split at h
    · cases h
    · rename_i d pool' hd
      split at h
      · cases h
      · rename_i ds rest hrest
        cases h
        obtain ⟨hnodup, hholds, hiff, hlength, hsizes⟩ := ih hrest
        obtain ⟨k, rfl, hk, rfl⟩ := exists_of_takePremise_eq hd
        have hplace : ((i + 1 : Nat) : Int) + k = i + 1 + k := by omega
        simp only [Pool.holds_set, hplace] at hholds hiff
        constructor
        case nodup =>
          exact List.nodup_cons.2 ⟨fun hmem => (hholds _ hmem).2 rfl, hnodup⟩
        case holds =>
          intro j hj
          cases hj with
          | head => exact ⟨k, d, hplace.symm, hk⟩
          | tail _ hj => exact (hholds j hj).1
        case holds_rest_iff =>
          intro j
          rw [hiff, List.mem_cons, not_or, and_assoc]
        case length_eq => rw [hlength, List.length_set]
        case sizes_eq =>
          rw [sizes, Nat.add_assoc, hsizes, Pool.sizes_trees_set hk]

/-- A premise is refused that does not stand behind the node or has been used. -/
theorem takePremise_eq_error (h : takePremise i j pool = .error e) :
    (e = .premiseOutOfRange i j ∧ ¬ (i < j ∧ j < i + 1 + pool.length)) ∨
      ∃ k : Nat, j = k ∧ e = .premiseShared k ∧ i < k ∧ k < i + 1 + pool.length ∧
        ¬ pool.Holds (i + 1) k := by
  rcases le_or_exists_eq_add i j with hj | ⟨k, rfl⟩
  · rw [takePremise, if_pos hj] at h
    cases h
    exact .inl ⟨rfl, by omega⟩
  · rw [takePremise_add] at h
    split at h
    · rename_i hk
      cases h
      rw [List.getElem?_eq_none_iff] at hk
      exact .inl ⟨rfl, by omega⟩
    · rename_i hk
      cases h
      have hlt : k < pool.length := (List.getElem?_eq_some_iff.1 hk).1
      refine .inr ⟨i + 1 + k, by omega, rfl, by omega, by omega, ?_⟩
      rintro ⟨l, d, hl, hd⟩
      obtain rfl : l = k := by omega
      rw [hk] at hd
      cases hd
    · cases h

theorem takePremises_eq_error (h : takePremises i js pool = .error e) :
    (∃ j ∈ js, e = .premiseOutOfRange i j ∧ ¬ (i < j ∧ j < i + 1 + pool.length)) ∨
      ∃ k : Nat, (k : Int) ∈ js ∧ e = .premiseShared k ∧ i < k ∧ k < i + 1 + pool.length ∧
        (pool.Holds (i + 1) k → 1 < js.count (k : Int)) := by
  induction js generalizing pool with
  | nil => cases h
  | cons j js ih =>
    rw [takePremises] at h
    split at h
    · rename_i e' hj
      cases h
      rcases takePremise_eq_error hj with ⟨rfl, hout⟩ | ⟨k, rfl, rfl, hlt, hlt', hused⟩
      · exact .inl ⟨j, List.mem_cons_self, rfl, hout⟩
      · exact .inr ⟨k, List.mem_cons_self, rfl, hlt, hlt', fun hk => absurd hk hused⟩
    · rename_i d pool' hd
      split at h
      · rename_i e' hrest
        cases h
        obtain ⟨l, rfl, hl, rfl⟩ := exists_of_takePremise_eq hd
        have hfail := ih hrest
        rw [List.length_set] at hfail
        rcases hfail with ⟨j, hj, rfl, hout⟩ | ⟨k, hk, rfl, hlt, hlt', hcount⟩
        · exact .inl ⟨j, List.mem_cons_of_mem _ hj, rfl, hout⟩
        · refine .inr ⟨k, List.mem_cons_of_mem _ hk, rfl, hlt, hlt', fun hholds => ?_⟩
          -- The tree was there at first: either this very premise took it, or a later one did.
          by_cases hkl : (k : Int) = i + 1 + l
          · have hpos := List.count_pos_iff.2 hk
            rw [hkl] at hpos ⊢
            rw [List.count_cons_self]
            omega
          · have hmany := hcount (Pool.holds_set.2 ⟨hholds, by omega⟩)
            exact Nat.lt_of_lt_of_le hmany List.count_le_count_cons
      · cases h

/-! ## Rebuilding -/

/-- What the trees of the nodes from place `i` on have in common, when all of them have been
built. -/
structure Rebuilt (i : Nat) (nodes : List FlatNode) (pool : Pool) : Prop where
  in_range (k : Nat) (n : FlatNode) (hn : nodes[k]? = some n) (j : Int) (hj : j ∈ n.premises) :
    (i + k : Nat) < j ∧ j < (i + nodes.length : Nat)
  nodup : (links nodes).Nodup
  holds_iff (j : Int) :
    pool.Holds i j ↔ i ≤ j ∧ j < (i + nodes.length : Nat) ∧ j ∉ links nodes
  length_eq : pool.length = nodes.length
  sizes_eq : sizes pool.trees = nodes.length

theorem exists_of_rebuild_cons_eq {n : FlatNode} (h : rebuild i (n :: nodes) = .ok pool) :
    ∃ pool' ps rest, rebuild (i + 1) nodes = .ok pool' ∧
      takePremises i n.premises pool' = .ok (ps, rest) ∧
      pool = some ⟨n.rule, n.command, n.pre, n.post, ps⟩ :: rest := by
  rw [rebuild] at h
  split at h
  · cases h
  · rename_i pool' hpool'
    split at h
    · cases h
    · rename_i ps rest hps
      exact ⟨pool', ps, rest, hpool', hps, (Except.ok.inj h).symm⟩

/-- The premises of the nodes stand behind the first of them. -/
theorem Rebuilt.lt_of_mem_links (h : Rebuilt i nodes pool) (hj : j ∈ links nodes) : i < j := by
  obtain ⟨k, n, hn, hj⟩ := mem_links_iff.1 hj
  have hrange := h.in_range k n hn j hj
  omega

/-- One more node, whose premises have been taken, leaves what all trees have in common. -/
theorem Rebuilt.cons {n : FlatNode} (h : Rebuilt (i + 1) nodes pool)
    (htaken : Taken i n.premises pool ds rest) :
    Rebuilt i (n :: nodes) (some ⟨n.rule, n.command, n.pre, n.post, ds⟩ :: rest) := by
  have hpremise (j : Int) (hj : j ∈ n.premises) := (h.holds_iff j).1 (htaken.holds j hj)
  constructor
  case in_range =>
    intro k n' hn' j hj
    rw [List.length_cons]
    cases k with
    | zero =>
      obtain rfl : n = n' := Option.some.inj hn'
      have := hpremise j hj
      omega
    | succ k =>
      have := h.in_range k n' hn' j hj
      omega
  case nodup =>
    refine List.nodup_append.2 ⟨htaken.nodup, h.nodup, fun j hj j' hj' => ?_⟩
    rintro rfl
    exact (hpremise j hj).2.2 hj'
  case holds_iff =>
    intro j
    rw [Pool.holds_cons, htaken.holds_rest_iff, h.holds_iff, links_cons, List.mem_append,
      List.length_cons]
    constructor
    · rintro (⟨rfl, -⟩ | ⟨⟨hle, hlt, hnot⟩, hnot'⟩)
      · refine ⟨Int.le_refl _, by omega, ?_⟩
        rintro (hj | hj)
        · have := hpremise _ hj
          omega
        · have := h.lt_of_mem_links hj
          omega
      · exact ⟨by omega, by omega, not_or.2 ⟨hnot', hnot⟩⟩
    · rintro ⟨hle, hlt, hnot⟩
      rw [not_or] at hnot
      by_cases hj : j = i
      · exact .inl ⟨hj, rfl⟩
      · exact .inr ⟨⟨by omega, by omega, hnot.2⟩, hnot.1⟩
  case length_eq => rw [List.length_cons, List.length_cons, htaken.length_eq, h.length_eq]
  case sizes_eq =>
    rw [Pool.trees, sizes, size, List.length_cons, Nat.add_right_comm, htaken.sizes_eq,
      h.sizes_eq]

theorem rebuilt_of_rebuild_eq (h : rebuild i nodes = .ok pool) : Rebuilt i nodes pool := by
  induction nodes generalizing i pool with
  | nil =>
    cases h
    refine ⟨by simp, .nil, fun j => ⟨fun hj => absurd hj Pool.not_holds_nil, ?_⟩, rfl, rfl⟩
    rintro ⟨hle, hlt, -⟩
    exact absurd hlt (Int.not_lt.2 hle)
  | cons n nodes ih =>
    obtain ⟨pool, ps, rest, hpool, hps, rfl⟩ := exists_of_rebuild_cons_eq h
    exact (ih hpool).cons (taken_of_takePremises_eq hps)

/-- Rebuilding fails at a premise that is out of place or that is one a second time. -/
theorem rebuild_eq_error (h : rebuild i nodes = .error e) :
    (∃ (k : Nat) (n : FlatNode) (j : Int), nodes[k]? = some n ∧ j ∈ n.premises ∧
        e = .premiseOutOfRange (i + k) j ∧
        ¬ ((i + k : Nat) < j ∧ j < (i + nodes.length : Nat))) ∨
      ∃ j : Nat, e = .premiseShared j ∧ 1 < (links nodes).count (j : Int) := by
  induction nodes generalizing i with
  | nil => cases h
  | cons n nodes ih =>
    rw [rebuild] at h
    split at h
    · rename_i e' he
      cases h
      rcases ih he with ⟨k, n', j, hn', hj, rfl, hout⟩ | ⟨j, rfl, hcount⟩
      · refine .inl ⟨k + 1, n', j, hn', hj, by rw [Nat.add_right_comm]; rfl, ?_⟩
        rw [List.length_cons]
        omega
      · refine .inr ⟨j, rfl, ?_⟩
        rw [links_cons, List.count_append]
        omega
    · rename_i pool hpool
      have hrebuilt := rebuilt_of_rebuild_eq hpool
      split at h
      · rename_i e' he
        cases h
        have hfail := takePremises_eq_error he
        rw [hrebuilt.length_eq] at hfail
        rcases hfail with ⟨j, hj, rfl, hout⟩ | ⟨j, hj, rfl, hlt, hlt', hcount⟩
        · refine .inl ⟨0, n, j, rfl, hj, rfl, ?_⟩
          rw [List.length_cons]
          omega
        · refine .inr ⟨j, rfl, ?_⟩
          rw [links_cons, List.count_append]
          by_cases hused : (j : Int) ∈ links nodes
          · have := List.count_pos_iff.2 hj
            have := List.count_pos_iff.2 hused
            omega
          · have := hcount ((hrebuilt.holds_iff j).2 ⟨by omega, by omega, hused⟩)
            omega
      · cases h

/-! ## Unused trees -/

theorem mem_unused_iff {k : Nat} : k ∈ unused i pool ↔ pool.Holds i k := by
  induction pool generalizing i with
  | nil => simp [unused, Pool.not_holds_nil]
  | cons o pool ih =>
    rw [Pool.holds_cons, ← ih]
    cases o with
    | none => simp [unused]
    | some d => simp only [unused, List.mem_cons, Int.natCast_inj, Option.isSome_some, and_true]

/-- Unused are the nodes behind the first one that are no premise. -/
theorem mem_unused_iff_of_rebuild_eq {o : Option Derivation} {k : Nat}
    (h : rebuild 0 nodes = .ok (o :: pool)) :
    k ∈ unused 1 pool ↔ 0 < k ∧ k < nodes.length ∧ (k : Int) ∉ links nodes := by
  have hholds := (rebuilt_of_rebuild_eq h).holds_iff k
  rw [Pool.holds_cons] at hholds
  rw [mem_unused_iff]
  constructor
  · intro hk
    have hbounds := hholds.1 (.inr hk)
    obtain ⟨l, d, hl, -⟩ := hk
    exact ⟨by omega, by omega, hbounds.2.2⟩
  · rintro ⟨hpos, hlt, hnot⟩
    rcases hholds.2 ⟨by omega, by omega, hnot⟩ with ⟨hzero, -⟩ | hk
    · omega
    · exact hk

theorem trees_eq_nil_of_unused_eq_nil (h : unused i pool = []) : pool.trees = [] := by
  induction pool generalizing i with
  | nil => rfl
  | cons o pool ih =>
    cases o with
    | none => exact ih h
    | some d => cases h

/-! ## Acceptance -/

theorem exists_of_unflatten_eq (h : unflatten nodes = .ok d) :
    ∃ pool, rebuild 0 nodes = .ok (some d :: pool) ∧ unused 1 pool = [] := by
  rw [unflatten] at h
  split at h
  · cases h
  · rename_i root pool hpool
    split at h
    · rename_i hunused
      cases h
      exact ⟨pool, hpool, hunused⟩
    · cases h
  · cases h

/-- **Accepted lists are linked.** -/
theorem linked_of_unflatten_eq (h : unflatten nodes = .ok d) : Linked nodes := by
  obtain ⟨pool, hpool, hunused⟩ := exists_of_unflatten_eq h
  obtain ⟨hrange, hnodup, -, hlength, -⟩ := rebuilt_of_rebuild_eq hpool
  constructor
  case ne_nil =>
    rintro rfl
    cases hlength
  case in_range =>
    intro i n hn j hj
    have := hrange i n hn j hj
    omega
  case once =>
    intro j hpos hlt
    refine List.count_eq_one_of_mem hnodup ?_
    by_contra hnot
    have hj := (mem_unused_iff_of_rebuild_eq hpool).2 ⟨hpos, hlt, hnot⟩
    rw [hunused] at hj
    cases hj

/-- The tree has a node for each entry of the list. -/
theorem size_of_unflatten_eq (h : unflatten nodes = .ok d) : d.size = nodes.length := by
  obtain ⟨pool, hpool, hunused⟩ := exists_of_unflatten_eq h
  have hsizes := (rebuilt_of_rebuild_eq hpool).sizes_eq
  rw [Pool.trees, trees_eq_nil_of_unused_eq_nil hunused] at hsizes
  simpa [sizes] using hsizes

/-- **Refused lists have a defect**, which the error names. -/
theorem hasDefect_of_unflatten_eq (h : unflatten nodes = .error e) : HasDefect nodes e := by
  rw [unflatten] at h
  split at h
  · rename_i e' he
    cases h
    rcases rebuild_eq_error he with ⟨k, n, j, hn, hj, rfl, hout⟩ | ⟨j, rfl, hcount⟩
    · rw [Nat.zero_add] at hout ⊢
      exact ⟨n, hn, hj, by omega⟩
    · exact hcount
  · rename_i root pool hpool
    split at h
    · cases h
    · rename_i js hunused
      cases h
      exact ⟨hunused, fun j => mem_unused_iff_of_rebuild_eq hpool⟩
  · rename_i pool hnot hpool
    cases h
    cases nodes with
    | nil => rfl
    | cons n nodes =>
      obtain ⟨pool', ps, rest, -, -, rfl⟩ := exists_of_rebuild_cons_eq hpool
      exact absurd rfl (hnot _ _)

/-- A defect of the list is a bad value. -/
theorem HasDefect.category_eq (h : HasDefect nodes e) : e.category = .invalidValue := by
  unfold HasDefect at h
  split at h
  case h_5 => exact h.elim
  all_goals rfl

namespace Linked

theorem not_hasDefect (h : Linked nodes) : ¬ HasDefect nodes e := by
  intro hdefect
  unfold HasDefect at hdefect
  split at hdefect
  · exact h.ne_nil hdefect
  · obtain ⟨n, hn, hj, hout⟩ := hdefect
    exact hout (h.in_range _ n hn _ hj)
  · rename_i j
    have hmem : (j : Int) ∈ links nodes := List.count_pos_iff.1 (by omega)
    obtain ⟨i, n, hn, hj⟩ := mem_links_iff.1 hmem
    have hrange := h.in_range i n hn j hj
    have honce := h.once j (by omega) (by omega)
    omega
  · rename_i js
    obtain ⟨hne, hmem⟩ := hdefect
    obtain ⟨j, hj⟩ := List.exists_mem_of_ne_nil js hne
    obtain ⟨hpos, hlt, hnot⟩ := (hmem j).1 hj
    have honce := h.once j hpos hlt
    rw [List.count_eq_zero_of_not_mem hnot] at honce
    cases honce
  · exact hdefect

/-- **All nodes hang on the root.** -/
theorem reachable (h : Linked nodes) {j : Nat} (hlt : j < nodes.length) :
    Relation.ReflTransGen (IsPremise nodes) 0 j := by
  induction j using Nat.strongRecOn with
  | ind j ih =>
    by_cases hj : j = 0
    · rw [hj]
    · have hmem : (j : Int) ∈ links nodes := by
        rw [← List.count_pos_iff, h.once j (by omega) hlt]
        exact Nat.one_pos
      obtain ⟨i, n, hn, hj⟩ := mem_links_iff.1 hmem
      have hrange := h.in_range i n hn j hj
      exact (ih i (by omega) (by omega)).tail ⟨n, hn, hj⟩

end Linked

/-- **Which lists are accepted.** -/
theorem exists_unflatten_eq_iff : (∃ d, unflatten nodes = .ok d) ↔ Linked nodes := by
  constructor
  · rintro ⟨d, hd⟩
    exact linked_of_unflatten_eq hd
  · intro h
    cases hd : unflatten nodes with
    | error e => exact absurd (hasDefect_of_unflatten_eq hd) h.not_hasDefect
    | ok d => exact ⟨d, rfl⟩

/-- **Which lists are refused.** -/
theorem exists_unflatten_eq_error_iff : (∃ e, unflatten nodes = .error e) ↔ ¬ Linked nodes := by
  rw [← exists_unflatten_eq_iff]
  cases unflatten nodes <;> simp

end Derivation

end WhileLang

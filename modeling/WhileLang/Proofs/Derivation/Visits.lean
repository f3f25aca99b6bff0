import WhileLang.Derivation.Flat
import WhileLang.Issue

/-!
# Visiting the nodes of a tree

`visitAll` goes through trees by a stack of those that are still to be visited, each with the path
to it. The tree on top is taken, and its premises are put on the stack, so that the last one is on
top.

Every node that is to be visited has a path that begins with one on the stack (`mem_visitAll_iff`).
No path on the stack begins with another one (`Apart`), which is kept when a tree is replaced by its
premises (`Apart.push`), so no path is visited twice (`nodup_visitAll`). A single tree is a stack
that is apart: its nodes are visited once each (`mem_visits_iff`, `nodup_visits`).

`Derivation.faults` lists the faults of the nodes in the order of the visits (`verify_eq_flatMap`).
-/

namespace WhileLang

namespace Derivation

/-- A node of a tree, and the path to it. -/
abbrev Visit := List Nat × Derivation

/-- The premises of a node that stands at a path. -/
def premisesAt (path : List Nat) (d : Derivation) : List Visit :=
  d.premises.zipIdx.map fun (p, i) => (path ++ [i], p)

theorem mem_premisesAt_iff {path q : List Nat} {d p : Derivation} :
    (q, p) ∈ d.premisesAt path ↔ ∃ i, d.premises[i]? = some p ∧ q = path ++ [i] := by
  rw [premisesAt, List.mem_map]
  constructor
  · rintro ⟨⟨p', i⟩, hmem, heq⟩
    cases heq
    exact ⟨i, List.mk_mem_zipIdx_iff_getElem?.1 hmem, rfl⟩
  · rintro ⟨i, hi, rfl⟩
    exact ⟨(p, i), List.mk_mem_zipIdx_iff_getElem?.2 hi, rfl⟩

theorem sizes_reverse (ds : List Derivation) : sizes ds.reverse = sizes ds := by
  induction ds with
  | nil => rfl
  | cons d ds ih => rw [List.reverse_cons, sizes_append, ih, sizes, sizes, sizes, Nat.add_comm]; rfl

theorem map_snd_premisesAt (path : List Nat) (d : Derivation) :
    (d.premisesAt path).map Prod.snd = d.premises := by
  rw [premisesAt, List.map_map]
  exact List.zipIdx_map_fst 0 d.premises

/-- The visits that a stack leads to. -/
def visitAll : (stack : List Visit) → List Visit
  | [] => []
  | (path, d) :: stack => (path, d) :: visitAll ((d.premisesAt path).reverse ++ stack)
termination_by stack => sizes (stack.map Prod.snd)
decreasing_by
  rw [List.map_append, List.map_reverse, map_snd_premisesAt, sizes_append, sizes_reverse,
    List.map_cons, sizes, size_eq d]
  omega

/-- The nodes of a tree in the order of their visits. -/
def visits (d : Derivation) : List Visit := visitAll [([], d)]

/-! ## Every node is visited -/

theorem at?_cons (d : Derivation) (i : Nat) (path : List Nat) :
    d.at? (i :: path) = d.premises[i]?.bind fun p => p.at? path := by
  rw [at?]
  cases d.premises[i]? <;> rfl

/-- The nodes that are visited are those below the trees on the stack. -/
theorem mem_visitAll_iff {stack : List Visit} {path : List Nat} {n : Derivation} :
    (path, n) ∈ visitAll stack ↔
      ∃ q d rest, (q, d) ∈ stack ∧ path = q ++ rest ∧ d.at? rest = some n := by
  fun_induction visitAll stack with
  | case1 => simp
  | case2 q d stack ih =>
    rw [List.mem_cons, ih]
    constructor
    · rintro (heq | ⟨q', d', rest, hmem, rfl, hat⟩)
      · cases heq
        exact ⟨path, n, [], .head _, (List.append_nil path).symm, rfl⟩
      · rcases List.mem_append.1 hmem with hpush | hmem
        · obtain ⟨i, hi, rfl⟩ := mem_premisesAt_iff.1 (List.mem_reverse.1 hpush)
          refine ⟨q, d, i :: rest, .head _, List.append_assoc q [i] rest, ?_⟩
          rw [at?_cons, hi, Option.bind_some, hat]
        · exact ⟨q', d', rest, .tail _ hmem, rfl, hat⟩
    · rintro ⟨q', d', rest, hmem, rfl, hat⟩
      rcases List.mem_cons.1 hmem with heq | hmem
      · cases heq
        cases rest with
        | nil =>
          cases hat
          exact .inl (by rw [List.append_nil])
        | cons i rest =>
          rw [at?_cons] at hat
          obtain ⟨p, hi, hat⟩ := Option.bind_eq_some_iff.1 hat
          have hpush : (q ++ [i], p) ∈ (d.premisesAt q).reverse ++ stack :=
            List.mem_append_left _ (List.mem_reverse.2 (mem_premisesAt_iff.2 ⟨i, hi, rfl⟩))
          exact .inr ⟨q ++ [i], p, rest, hpush, (List.append_assoc q [i] rest).symm, hat⟩
      · exact .inr ⟨q', d', rest, List.mem_append_right _ hmem, rfl, hat⟩

theorem mem_visits_iff {d n : Derivation} {path : List Nat} :
    (path, n) ∈ d.visits ↔ d.at? path = some n := by
  rw [visits, mem_visitAll_iff]
  constructor
  · rintro ⟨q, d', rest, hmem, rfl, hat⟩
    cases List.mem_singleton.1 hmem
    exact hat
  · intro hat
    exact ⟨[], d, path, .head _, rfl, hat⟩

/-! ## No node is visited twice -/

/-- No path on the stack begins with another one. -/
def Apart (stack : List Visit) : Prop := stack.Pairwise fun v w => ¬ v.1 <+: w.1 ∧ ¬ w.1 <+: v.1

/-- Paths that differ in their last number are not the beginning of one another. -/
theorem not_concat_prefix_concat (path : List Nat) {i j : Nat} (h : i ≠ j) :
    ¬ path ++ [i] <+: path ++ [j] := by
  rw [List.prefix_append_right_inj]
  intro hprefix
  exact h (List.cons_prefix_cons.1 hprefix).1

theorem apart_premisesAt (path : List Nat) (d : Derivation) :
    Apart (d.premisesAt path).reverse := by
  have hindices : d.premises.zipIdx.Pairwise fun v w => v.2 ≠ w.2 := by
    have hnodup : (d.premises.zipIdx.map Prod.snd).Nodup := by
      rw [List.zipIdx_map_snd]
      exact List.nodup_range'
    exact List.pairwise_map.1 hnodup
  rw [Apart, premisesAt, List.pairwise_reverse, List.pairwise_map]
  exact hindices.imp fun h =>
    ⟨not_concat_prefix_concat path h.symm, not_concat_prefix_concat path h⟩

/-- The premises of a tree may take its place. -/
theorem Apart.push {path : List Nat} {d : Derivation} {stack : List Visit}
    (h : Apart ((path, d) :: stack)) : Apart ((d.premisesAt path).reverse ++ stack) := by
  obtain ⟨hhead, hstack⟩ := List.pairwise_cons.1 h
  refine List.pairwise_append.2 ⟨apart_premisesAt path d, hstack, fun v hv w hw => ?_⟩
  obtain ⟨i, -, hpath⟩ := mem_premisesAt_iff.1 (List.mem_reverse.1 hv)
  obtain ⟨hbelow, habove⟩ := hhead w hw
  have hbegin : path <+: v.1 := hpath ▸ List.prefix_append path [i]
  refine ⟨fun hvw => hbelow (hbegin.trans hvw), fun hwv => ?_⟩
  rw [hpath, List.prefix_concat_iff] at hwv
  rcases hwv with heq | hwv
  · exact hbelow (heq ▸ List.prefix_append path [i])
  · exact habove hwv

/-- **No path twice.** -/
theorem nodup_visitAll {stack : List Visit} (h : Apart stack) :
    ((visitAll stack).map Prod.fst).Nodup := by
  fun_induction visitAll stack with
  | case1 => exact .nil
  | case2 path d stack ih =>
    rw [List.map_cons, List.nodup_cons]
    refine ⟨fun hmem => ?_, ih h.push⟩
    -- What is visited later is below a premise, or below another tree of the stack.
    obtain ⟨⟨_, n⟩, hmem, rfl⟩ := List.mem_map.1 hmem
    obtain ⟨q, d', rest, hmem, hpath, -⟩ := mem_visitAll_iff.1 hmem
    rcases List.mem_append.1 hmem with hpush | hmem
    · obtain ⟨i, -, rfl⟩ := mem_premisesAt_iff.1 (List.mem_reverse.1 hpush)
      have hlength := congrArg List.length hpath
      simp only [List.length_append, List.length_singleton] at hlength
      omega
    · obtain ⟨-, habove⟩ := (List.pairwise_cons.1 h).1 (q, d') hmem
      exact habove (hpath ▸ List.prefix_append q rest)

theorem nodup_visits (d : Derivation) : (d.visits.map Prod.fst).Nodup :=
  nodup_visitAll (List.pairwise_singleton _ _)

/-! ## The faults in the order of the visits -/

theorem premiseFaultsFrom_eq_flatMap (ev : Evaluator) (up : List Nat) (i : Nat)
    (ps : List Derivation) :
    premiseFaultsFrom ev up i ps =
      (ps.zipIdx i).reverse.flatMap fun v => faultsFrom ev (v.2 :: up) v.1 := by
  induction ps generalizing i with
  | nil => rfl
  | cons p ps ih =>
    rw [premiseFaultsFrom, ih, List.zipIdx_cons, List.reverse_cons, List.flatMap_append]
    simp

theorem flatMap_visitAll (ev : Evaluator) (stack : List Visit) :
    ((visitAll stack).flatMap fun v => (v.2.rootFaults ev).map fun f => (v.1, f)) =
      stack.flatMap fun v => faultsFrom ev v.1.reverse v.2 := by
  fun_induction visitAll stack with
  | case1 => rfl
  | case2 path d stack ih =>
    have hpush : ((d.premisesAt path).reverse.flatMap fun v => faultsFrom ev v.1.reverse v.2) =
        premiseFaultsFrom ev path.reverse 0 d.premises := by
      rw [premiseFaultsFrom_eq_flatMap, premisesAt, ← List.map_reverse, List.flatMap_map]
      simp
    rw [List.flatMap_cons, ih, List.flatMap_append, hpush, List.flatMap_cons, ← List.append_assoc]
    congr 1
    cases d
    rw [faultsFrom, List.reverse_reverse]

/-- **The check goes by the visits.** -/
theorem verify_eq_flatMap (ev : Evaluator) (d : Derivation) :
    d.verify ev =
      d.visits.flatMap fun v => (v.2.rootFaults ev).map fun f => .derivationFault v.1 f := by
  have hfaults : d.faults ev =
      d.visits.flatMap fun v => (v.2.rootFaults ev).map fun f => (v.1, f) := by
    rw [visits, flatMap_visitAll, List.flatMap_cons, List.flatMap_nil, List.append_nil]
    rfl
  rw [verify, hfaults, List.map_flatMap]
  simp only [List.map_map]
  rfl

end Derivation

end WhileLang

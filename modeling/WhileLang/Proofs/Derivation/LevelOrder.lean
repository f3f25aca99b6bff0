import WhileLang.Proofs.Derivation.Linked

/-!
# Trees level by level

`Derivation.flatten` gives places away in the order in which they are asked for, so the premises of
its nodes, read one after the other, are the places 1, 2, 3, … (`links_flatten`). Among the lists
that `Derivation.unflatten` accepts, this order marks those that `flatten` makes
(`flatten_eq_iff`); and no tree is lost on the way there and back (`unflatten_flatten`).

Both directions follow the queue. When the nodes from place `i` on are read, the trees at the front
of the pool are the queue that `flatten` had at that place, and all places behind them have been
used.
-/

namespace WhileLang

namespace Derivation

theorem mk_eta (d : Derivation) : ⟨d.rule, d.command, d.pre, d.post, d.premises⟩ = d := by
  cases d
  rfl

/-! ## Places in a row -/

@[simp] theorem length_places (next count : Nat) : (places next count).length = count := by
  rw [places, List.length_map, List.length_range']

@[simp] theorem places_zero (next : Nat) : places next 0 = [] := rfl

theorem places_succ (next count : Nat) :
    places next (count + 1) = (next : Int) :: places (next + 1) count := rfl

theorem places_add (next m n : Nat) :
    places next (m + n) = places next m ++ places (next + m) n := by
  rw [places, places, places, ← List.map_append, List.range'_append_1]

/-- A beginning of places in a row is one, and so is what is left. -/
theorem places_eq_append {next count : Nat} {xs ys : List Int}
    (h : places next count = xs ++ ys) :
    count = xs.length + ys.length ∧ xs = places next xs.length ∧
      ys = places (next + xs.length) ys.length := by
  have hcount : count = xs.length + ys.length := by
    rw [← List.length_append, ← h, length_places]
  rw [hcount, places_add] at h
  obtain ⟨hxs, hys⟩ := List.append_inj h (length_places _ _)
  exact ⟨hcount, hxs.symm, hys.symm⟩

/-! ## What is below the roots of a queue -/

/-- The number of nodes below the roots. -/
def descendants (queue : List Derivation) : Nat := sizes (queue.flatMap (·.premises))

theorem descendants_cons (d : Derivation) (queue : List Derivation) :
    descendants (d :: queue) = sizes d.premises + descendants queue := by
  rw [descendants, List.flatMap_cons, sizes_append, descendants]

theorem descendants_append (queue queue' : List Derivation) :
    descendants (queue ++ queue') = descendants queue + descendants queue' := by
  rw [descendants, List.flatMap_append, sizes_append, descendants, descendants]

theorem sizes_eq_length_add_descendants (queue : List Derivation) :
    sizes queue = queue.length + descendants queue := by
  induction queue with
  | nil => rfl
  | cons d queue ih =>
    rw [sizes, size_eq, ih, descendants_cons, List.length_cons]
    omega

/-- What is below the first tree of a queue are its premises and what is below them. -/
theorem descendants_cons_eq (d : Derivation) (queue : List Derivation) :
    descendants (d :: queue) = d.premises.length + descendants (queue ++ d.premises) := by
  rw [descendants_cons, descendants_append, sizes_eq_length_add_descendants]
  omega

/-! ## Flattening -/

theorem length_flattenQueue (next : Nat) (queue : List Derivation) :
    (flattenQueue next queue).length = sizes queue := by
  fun_induction flattenQueue next queue with
  | case1 next => rfl
  | case2 next d queue ih =>
    rw [List.length_cons, ih, sizes_append, sizes, size_eq]
    omega

theorem links_flattenQueue (next : Nat) (queue : List Derivation) :
    links (flattenQueue next queue) = places next (descendants queue) := by
  fun_induction flattenQueue next queue with
  | case1 next => rfl
  | case2 next d queue ih => rw [links_cons, ih, ← places_add, ← descendants_cons_eq]

theorem length_flatten (d : Derivation) : (flatten d).length = d.size := by
  rw [flatten, length_flattenQueue, sizes, sizes, Nat.add_zero]

theorem links_flatten (d : Derivation) : links (flatten d) = places 1 (d.size - 1) := by
  rw [flatten, links_flattenQueue, descendants_cons, size_eq]
  rfl

/-! ## There and back -/

variable {i next : Nat} {nodes : List FlatNode} {pool : Pool}

/-- Premises in a row are taken from where they stand. -/
theorem takePremises_places (i : Nat) (front : Pool) (ds : List Derivation) (back : Pool) :
    takePremises i (places (i + 1 + front.length) ds.length) (front ++ ds.map some ++ back) =
      .ok (ds, front ++ List.replicate ds.length none ++ back) := by
  induction ds generalizing front with
  | nil => simp [takePremises]
  | cons d ds ih =>
    have hplace : ((i + 1 + front.length : Nat) : Int) = i + 1 + front.length := by omega
    have hfirst : takePremise i (i + 1 + front.length : Nat)
        (front ++ (d :: ds).map some ++ back) =
          .ok (d, (front ++ [none]) ++ ds.map some ++ back) := by
      rw [hplace, takePremise_add]
      simp
    have hrest := ih (front ++ [none])
    rw [List.length_append, List.length_singleton, ← Nat.add_assoc] at hrest
    rw [List.length_cons, places_succ, takePremises, hfirst]
    simp only [hrest]
    simp [List.replicate_succ]

theorem rebuild_flattenQueue {queue : List Derivation} (hnext : next = i + queue.length) :
    rebuild i (flattenQueue next queue) =
      .ok (queue.map some ++ List.replicate (descendants queue) none) := by
  fun_induction flattenQueue next queue generalizing i with
  | case1 next => rfl
  | case2 next d queue ih =>
    rw [List.length_cons] at hnext
    have hrest := ih (i := i + 1) (by rw [List.length_append]; omega)
    -- The premises of the root stand behind the rest of the queue.
    have htake := takePremises_places i (queue.map some) d.premises
      (List.replicate (descendants (queue ++ d.premises)) none)
    rw [List.length_map, show i + 1 + queue.length = next by omega, ← List.map_append] at htake
    rw [rebuild, hrest]
    simp only [htake]
    rw [descendants_cons_eq, List.append_assoc, List.replicate_append_replicate, mk_eta]
    rfl

theorem unused_replicate (i n : Nat) : unused i (List.replicate n none) = [] := by
  induction n generalizing i with
  | zero => rfl
  | succ n ih =>
    rw [List.replicate_succ, unused]
    exact ih (i + 1)

/-- **No tree is lost.** -/
theorem unflatten_flatten (d : Derivation) : unflatten (flatten d) = .ok d := by
  have hrebuild : rebuild 0 (flatten d) =
      .ok (some d :: List.replicate (descendants [d]) none) := rebuild_flattenQueue rfl
  rw [unflatten, hrebuild]
  simp only [unused_replicate]

/-- Premises in a row up to the end of a queue are taken from its back. -/
theorem exists_front_of_takePremises_places {queue ds : List Derivation} {back rest : Pool}
    {count : Nat} (hend : next + count = i + 1 + queue.length)
    (h : takePremises i (places next count) (queue.map some ++ back) = .ok (ds, rest)) :
    ∃ front, queue = front ++ ds ∧ ds.length = count ∧
      rest = front.map some ++ List.replicate count none ++ back := by
  -- The first premise stands behind the node, so the queue is long enough to hold them all.
  have hlong : count ≤ queue.length := by
    cases count with
    | zero => exact Nat.zero_le _
    | succ count =>
      obtain ⟨k, d, hk, -⟩ := (taken_of_takePremises_eq h).holds next List.mem_cons_self
      omega
  obtain ⟨front, ds', rfl, hds⟩ : ∃ front ds', queue = front ++ ds' ∧ ds'.length = count :=
    ⟨queue.take (queue.length - count), queue.drop (queue.length - count),
      (List.take_append_drop _ _).symm, by rw [List.length_drop]; omega⟩
  rw [List.length_append] at hend
  have htake := takePremises_places i (front.map some) ds' back
  rw [List.length_map, show i + 1 + front.length = next by omega, hds, ← List.map_append,
    h] at htake
  obtain ⟨rfl, rfl⟩ := Prod.mk.inj (Except.ok.inj htake)
  exact ⟨front, rfl, hds, rfl⟩

/-- If the premises are places in a row, the nodes are those of a queue. -/
theorem exists_queue_of_rebuild_eq {count : Nat} (h : rebuild i nodes = .ok pool)
    (hlinks : links nodes = places next count) (hnext : next + count = i + nodes.length) :
    ∃ queue, pool = queue.map some ++ List.replicate count none ∧ next = i + queue.length ∧
      flattenQueue next queue = nodes := by
  induction nodes generalizing i next count pool with
  | nil =>
    cases h
    obtain rfl : count = 0 := by simpa using congrArg List.length hlinks.symm
    exact ⟨[], rfl, hnext, by rw [flattenQueue]⟩
  | cons n nodes ih =>
    obtain ⟨pool, ps, rest, hpool, hps, rfl⟩ := exists_of_rebuild_cons_eq h
    rw [links_cons] at hlinks
    obtain ⟨hcount, hpremises, hlinks'⟩ := places_eq_append hlinks.symm
    rw [List.length_cons] at hnext
    obtain ⟨queue, rfl, hqueue, hflat⟩ := ih hpool hlinks' (by omega)
    rw [hpremises] at hps
    obtain ⟨front, rfl, hds, rfl⟩ := exists_front_of_takePremises_places hqueue hps
    rw [List.length_append] at hqueue
    refine ⟨⟨n.rule, n.command, n.pre, n.post, ps⟩ :: front, ?_, ?_, ?_⟩
    · rw [hcount, ← List.replicate_append_replicate, ← List.append_assoc]
      rfl
    · rw [List.length_cons]
      omega
    · rw [flattenQueue]
      simp only [hds, hflat, ← hpremises]

/-- **Level order.** Of the lists that are accepted, those are made from trees whose premises, in
the order of the nodes, are all places behind the first. -/
theorem flatten_eq_iff {d : Derivation} (h : unflatten nodes = .ok d) :
    flatten d = nodes ↔ links nodes = places 1 (nodes.length - 1) := by
  constructor
  · rintro rfl
    rw [links_flatten, length_flatten]
  · intro hlinks
    obtain ⟨pool, hpool, -⟩ := exists_of_unflatten_eq h
    have hlength := (rebuilt_of_rebuild_eq hpool).length_eq
    rw [List.length_cons] at hlength
    obtain ⟨queue, hqueue, hone, hflat⟩ :=
      exists_queue_of_rebuild_eq hpool hlinks (by omega)
    obtain ⟨root, rfl⟩ : ∃ root, queue = [root] := List.length_eq_one_iff.1 (by omega)
    obtain rfl : d = root := Option.some.inj (List.cons.inj hqueue).1
    exact hflat

/-- **Flat forms.** Flattening loses no tree, and the premises of its nodes are places in a row. A
list is accepted if and only if it is linked; then all its nodes hang on the root, the tree has as
many, and flattening makes the list again exactly if its premises are places in a row. Every other
list is refused for a defect that it has. -/
theorem flat_forms :
    (∀ d : Derivation, unflatten (flatten d) = .ok d ∧ (flatten d).length = d.size ∧
      links (flatten d) = places 1 ((flatten d).length - 1)) ∧
    ∀ nodes : List FlatNode,
      ((∃ d, unflatten nodes = .ok d) ↔ Linked nodes) ∧
      (¬ Linked nodes →
        ∃ e, unflatten nodes = .error e ∧ HasDefect nodes e ∧ e.category = .invalidValue) ∧
      ∀ d, unflatten nodes = .ok d →
        (∀ j < nodes.length, Relation.ReflTransGen (IsPremise nodes) 0 j) ∧
        d.size = nodes.length ∧
        (flatten d = nodes ↔ links nodes = places 1 (nodes.length - 1)) := by
  refine ⟨fun d => ⟨unflatten_flatten d, length_flatten d, ?_⟩, fun nodes =>
    ⟨exists_unflatten_eq_iff, fun hnot => ?_, fun d hd => ⟨fun j hj => ?_,
      size_of_unflatten_eq hd, flatten_eq_iff hd⟩⟩⟩
  · rw [links_flatten, length_flatten]
  · obtain ⟨e, he⟩ := exists_unflatten_eq_error_iff.2 hnot
    have hdefect := hasDefect_of_unflatten_eq he
    exact ⟨e, he, hdefect, hdefect.category_eq⟩
  · exact (linked_of_unflatten_eq hd).reachable hj

/-- Premises out of order are accepted, and flattening puts them in order. -/
theorem flat_forms_out_of_order :
    let c : Command := .seq .skip (.assign 0 (.number 1))
    let t : State := .ofList [(0, 1)]
    let first : FlatNode := ⟨.skip, .skip, .initial, .initial, []⟩
    let second : FlatNode := ⟨.assign, .assign 0 (.number 1), .initial, t, []⟩
    let nodes : List FlatNode := [⟨.seq, c, .initial, t, [2, 1]⟩, second, first]
    ∃ d, unflatten nodes = .ok d ∧ d.size = 3 ∧ flatten d ≠ nodes := by
  intro c t first second nodes
  obtain ⟨d, hd⟩ : ∃ d, unflatten nodes = .ok d := ⟨_, rfl⟩
  obtain ⟨-, hsize, horder⟩ := (flat_forms.2 nodes).2.2 d hd
  exact ⟨d, hd, hsize, fun h => absurd (horder.1 h) (by decide)⟩

end Derivation

end WhileLang

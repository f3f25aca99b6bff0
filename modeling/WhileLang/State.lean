import WhileLang.Expr

/-!
# States

A state gives every variable an integer, `0` unless it was given another one. It is kept as the
list of the variables whose value is not `0`, in ascending order of their keys. That list is
determined by the values (`State.ext_lookup`), so two states that agree on every variable are
equal, whatever updates led to them.

`lookup_update` is the law of `update` on which everything else about states rests.
-/

namespace WhileLang

namespace Binding

/-- The value bound to `x`, or `0`. -/
def lookup (x : Ident) : List (Ident × Int) → Int
  | [] => 0
  | (y, v) :: rest => if x = y then v else lookup x rest

/-- Puts `x` in its place with the value `v`; the value `0` takes it out. -/
def set (x : Ident) (v : Int) : List (Ident × Int) → List (Ident × Int)
  | [] => if v = 0 then [] else [(x, v)]
  | (y, w) :: rest =>
    if x < y then (if v = 0 then (y, w) :: rest else (x, v) :: (y, w) :: rest)
    else if x = y then (if v = 0 then rest else (x, v) :: rest)
    else (y, w) :: set x v rest

/-- Keys ascend strictly. -/
abbrev Sorted (bs : List (Ident × Int)) : Prop := bs.Pairwise fun a b => a.1 < b.1

/-- No entry repeats the value that an absent key has anyway. -/
abbrev NonZero (bs : List (Ident × Int)) : Prop := ∀ b ∈ bs, b.2 ≠ 0

theorem mem_set {x : Ident} {v : Int} {bs : List (Ident × Int)} {b : Ident × Int}
    (h : b ∈ set x v bs) : (b = (x, v) ∧ v ≠ 0) ∨ b ∈ bs := by
  induction bs with
  | nil =>
    unfold set at h
    split at h
    · exact Or.inr h
    · rename_i hv; exact Or.inl ⟨List.mem_singleton.1 h, hv⟩
  | cons a rest ih =>
    obtain ⟨y, w⟩ := a
    unfold set at h
    split at h
    · split at h
      · exact Or.inr h
      · rename_i hv; exact (List.mem_cons.1 h).imp_left fun h => ⟨h, hv⟩
    · split at h
      · split at h
        · exact Or.inr (List.mem_cons_of_mem _ h)
        · rename_i hv
          exact (List.mem_cons.1 h).imp (fun h => ⟨h, hv⟩) (List.mem_cons_of_mem _)
      · rcases List.mem_cons.1 h with h | h
        · exact Or.inr (h ▸ List.mem_cons_self ..)
        · exact (ih h).imp_right (List.mem_cons_of_mem _)

theorem sorted_set {bs : List (Ident × Int)} (h : Sorted bs) (x : Ident) (v : Int) :
    Sorted (set x v bs) := by
  induction bs with
  | nil => unfold set; split <;> simp
  | cons a rest ih =>
    obtain ⟨y, w⟩ := a
    obtain ⟨hy, hrest⟩ := List.pairwise_cons.1 h
    unfold set
    split
    · rename_i hlt
      split
      · exact h
      · refine List.pairwise_cons.2 ⟨fun b hb => ?_, h⟩
        rcases List.mem_cons.1 hb with rfl | hb
        · exact hlt
        · exact Int.lt_trans hlt (hy b hb)
    · split
      · rename_i heq
        split
        · exact hrest
        · exact List.pairwise_cons.2 ⟨fun b hb => heq ▸ hy b hb, hrest⟩
      · rename_i hle hne
        refine List.pairwise_cons.2 ⟨fun b hb => ?_, ih hrest⟩
        rcases mem_set hb with ⟨rfl, -⟩ | hb
        · exact Int.lt_iff_le_and_ne.2 ⟨Int.not_lt.1 hle, Ne.symm hne⟩
        · exact hy b hb

theorem nonZero_set {bs : List (Ident × Int)} (h : NonZero bs) (x : Ident) (v : Int) :
    NonZero (set x v bs) := fun b hb => by
  rcases mem_set hb with ⟨rfl, hv⟩ | hb
  · exact hv
  · exact h b hb

theorem lookup_eq_zero {x : Ident} {bs : List (Ident × Int)} (h : ∀ b ∈ bs, b.1 ≠ x) :
    lookup x bs = 0 := by
  induction bs with
  | nil => rfl
  | cons a rest ih =>
    have ha := h a (List.mem_cons_self ..)
    simp [lookup, Ne.symm ha, ih fun b hb => h b (List.mem_cons_of_mem _ hb)]

/-- Nothing behind the first entry is bound to a key up to the first one. -/
theorem lookup_tail {x y : Ident} {w : Int} {rest : List (Ident × Int)}
    (h : Sorted ((y, w) :: rest)) (hx : x ≤ y) : lookup x rest = 0 :=
  lookup_eq_zero fun b hb =>
    Int.ne_of_gt (Int.lt_of_le_of_lt hx ((List.pairwise_cons.1 h).1 b hb))

theorem lookup_set {bs : List (Ident × Int)} (h : Sorted bs) (x z : Ident) (v : Int) :
    lookup z (set x v bs) = if z = x then v else lookup z bs := by
  induction bs with
  | nil => unfold set; split <;> by_cases hz : z = x <;> simp_all [lookup]
  | cons a rest ih =>
    obtain ⟨y, w⟩ := a
    have hrest := (List.pairwise_cons.1 h).2
    unfold set
    split
    · rename_i hlt
      have hx := lookup_tail h (Int.le_of_lt hlt)
      have hne := Int.ne_of_lt hlt
      split <;> by_cases hz : z = x <;> simp_all [lookup]
    · split
      · rename_i heq
        have hx := lookup_tail h (Int.le_of_eq heq)
        split <;> by_cases hz : z = x <;> simp_all [lookup]
      · have := ih hrest
        by_cases hz : z = x <;> by_cases hzy : z = y <;> simp_all [lookup]

/-- In a sorted list without zeros, an entry is what its key looks up. -/
theorem mem_iff_lookup {bs : List (Ident × Int)} (hs : Sorted bs) (hn : NonZero bs) (x : Ident)
    (v : Int) : (x, v) ∈ bs ↔ lookup x bs = v ∧ v ≠ 0 := by
  induction bs with
  | nil =>
    simp only [List.not_mem_nil, lookup, false_iff, not_and]
    exact fun h hv => hv h.symm
  | cons a rest ih =>
    obtain ⟨y, w⟩ := a
    obtain ⟨hy, hrest⟩ := List.pairwise_cons.1 hs
    have hw : w ≠ 0 := hn (y, w) (List.mem_cons_self ..)
    have ih := ih hrest fun b hb => hn b (List.mem_cons_of_mem _ hb)
    by_cases hxy : x = y
    · subst hxy
      have : (x, v) ∉ rest := fun hm => Int.lt_irrefl x (hy (x, v) hm)
      simp only [List.mem_cons, Prod.mk.injEq, true_and, this, or_false, lookup, if_pos]
      constructor
      · rintro rfl; exact ⟨rfl, hw⟩
      · rintro ⟨rfl, -⟩; rfl
    · simp [lookup, hxy, ih]

/-- A sorted list is determined by its entries. -/
theorem eq_of_mem_iff {as bs : List (Ident × Int)} (ha : Sorted as) (hb : Sorted bs)
    (h : ∀ p, p ∈ as ↔ p ∈ bs) : as = bs := by
  induction as generalizing bs with
  | nil =>
    cases bs with
    | nil => rfl
    | cons b bs => exact absurd ((h b).2 (List.mem_cons_self ..)) List.not_mem_nil
  | cons a as ih =>
    cases bs with
    | nil => exact absurd ((h a).1 (List.mem_cons_self ..)) List.not_mem_nil
    | cons b bs =>
      obtain ⟨ha1, ha2⟩ := List.pairwise_cons.1 ha
      obtain ⟨hb1, hb2⟩ := List.pairwise_cons.1 hb
      have hab : a = b := by
        rcases List.mem_cons.1 ((h a).1 (List.mem_cons_self ..)) with h1 | h1
        · exact h1
        · rcases List.mem_cons.1 ((h b).2 (List.mem_cons_self ..)) with h2 | h2
          · exact h2.symm
          · exact absurd (Int.lt_trans (hb1 a h1) (ha1 b h2)) (Int.lt_irrefl _)
      subst hab
      congr 1
      refine ih ha2 hb2 fun p => ?_
      have hp := h p
      simp only [List.mem_cons] at hp
      constructor
      · intro hm
        rcases hp.1 (Or.inr hm) with rfl | h'
        · exact absurd (ha1 p hm) (Int.lt_irrefl _)
        · exact h'
      · intro hm
        rcases hp.2 (Or.inr hm) with rfl | h'
        · exact absurd (hb1 p hm) (Int.lt_irrefl _)
        · exact h'

end Binding

/-- A total map from variables to integers that is `0` almost everywhere. -/
structure State where
  /-- The variables whose value is not `0`, by ascending key. -/
  bindings : List (Ident × Int)
  sorted : Binding.Sorted bindings
  nonZero : Binding.NonZero bindings
deriving DecidableEq

namespace State

/-- Every variable is `0`. -/
def initial : State := ⟨[], List.Pairwise.nil, fun _ h => absurd h List.not_mem_nil⟩

instance : Inhabited State := ⟨initial⟩

def lookup (s : State) (x : Ident) : Int := Binding.lookup x s.bindings

/-- The state equal to `s` everywhere but at `x`, where it is `v`. -/
def update (s : State) (x : Ident) (v : Int) : State :=
  ⟨Binding.set x v s.bindings, Binding.sorted_set s.sorted x v, Binding.nonZero_set s.nonZero x v⟩

/-- The state of a list of bindings; of two bindings of one variable the later counts. -/
def ofList (bs : List (Ident × Int)) : State := bs.foldl (fun s b => s.update b.1 b.2) initial

/-- The state with the value of `x` increased by one. -/
def bump (s : State) (x : Ident) : State := s.update x (s.lookup x + 1)

@[simp] theorem lookup_initial (x : Ident) : initial.lookup x = 0 := rfl

theorem lookup_update (s : State) (x z : Ident) (v : Int) :
    (s.update x v).lookup z = if z = x then v else s.lookup z :=
  Binding.lookup_set s.sorted x z v

@[simp] theorem lookup_update_self (s : State) (x : Ident) (v : Int) :
    (s.update x v).lookup x = v := by simp [lookup_update]

theorem lookup_update_of_ne (s : State) {x z : Ident} (v : Int) (h : z ≠ x) :
    (s.update x v).lookup z = s.lookup z := by simp [lookup_update, h]

/-- The list of bindings determines the state. -/
theorem ext_bindings {s t : State} (h : s.bindings = t.bindings) : s = t := by
  cases s; cases t; cases h; rfl

/-- The values determine the state. -/
theorem ext_lookup {s t : State} (h : ∀ x, s.lookup x = t.lookup x) : s = t := by
  refine ext_bindings (Binding.eq_of_mem_iff s.sorted t.sorted fun p => ?_)
  rw [Binding.mem_iff_lookup s.sorted s.nonZero, Binding.mem_iff_lookup t.sorted t.nonZero]
  have hp : Binding.lookup p.1 s.bindings = Binding.lookup p.1 t.bindings := h p.1
  rw [hp]

/-- The later of two updates of one variable counts. -/
@[simp] theorem update_update (s : State) (x : Ident) (v w : Int) :
    (s.update x v).update x w = s.update x w := by
  refine ext_lookup fun z => ?_
  simp only [lookup_update]
  split <;> rfl

/-- Giving a variable the value that it has changes nothing. -/
theorem update_eq_self {s : State} {x : Ident} {v : Int} (h : s.lookup x = v) :
    s.update x v = s := by
  refine ext_lookup fun z => ?_
  rw [lookup_update]
  split
  · rename_i hz
    rw [hz, h]
  · rfl

end State

end WhileLang

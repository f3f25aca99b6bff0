import WhileLang.Generator
import WhileLang.Proofs.Locality

/-!
# Counted loops end

A bounded generator draws loops of one shape only: a counter is set, and the loop goes on while the
counter is positive, if it does not stop before that, and lowers it by one in each turn. Such a
loop ends if its body does and leaves the counter alone (`EndsWithin.countedLoop`).

`Command.Counted` describes what is drawn: every loop is of that shape, the counters are numbered
in the order in which the loops begin, so that the counters within a body come after that of its
loop, and all other assignments are to given variables. If these come before all counters, no body
assigns the counter of a loop around it (`Counted.not_assigns`), and a budget that grows with the
depth suffices (`Counted.endsWithin`).
-/

namespace WhileLang

open Generator (countedLoop)

namespace Command

variable {ev : Evaluator} {c c₁ c₂ : Command} {s t : State} {j k m : Nat} {x : Ident}

/-! ## Sufficient budgets -/

/-- The budget suffices in every state. -/
def EndsWithin (ev : Evaluator) (k : Nat) (c : Command) : Prop :=
  ∀ s, ∃ t, c.interp ev k s = some t

namespace EndsWithin

theorem mono (h : c.EndsWithin ev j) (hjk : j ≤ k) : c.EndsWithin ev k := by
  intro s
  obtain ⟨t, ht⟩ := h s
  exact ⟨t, interp_mono hjk ht⟩

theorem exists_eq_succ (h : c.EndsWithin ev k) : ∃ j, k = j + 1 := by
  obtain ⟨t, ht⟩ := h .initial
  exact exists_eq_succ_of_interp ht

theorem seq (h₁ : c₁.EndsWithin ev k) (h₂ : c₂.EndsWithin ev k) :
    (seq c₁ c₂).EndsWithin ev (k + 1) := by
  intro s
  obtain ⟨u, hu⟩ := h₁ s
  obtain ⟨t, ht⟩ := h₂ u
  refine ⟨t, ?_⟩
  rw [interp_seq, hu, Option.bind_some, ht]

theorem branch (b : BExp) (h₁ : c₁.EndsWithin ev k) (h₂ : c₂.EndsWithin ev k) :
    (branch b c₁ c₂).EndsWithin ev (k + 1) := by
  intro s
  rw [interp_branch]
  split
  · exact h₁ s
  · exact h₂ s

/-- **A loop with a variant.** The condition asks that `x` is positive and the body lowers `x`, so
the loop takes no more turns than `x` says. Each turn leaves one unit less to the next one. -/
theorem exists_interp_loop (hc : c.EndsWithin ev m) {b : BExp}
    (hb : ∀ s, ev.bexp s b = true → 1 ≤ s.lookup x)
    (hdown : ∀ k s t, c.interp ev k s = some t → t.lookup x < s.lookup x) (n : Nat) (s : State)
    (hs : s.lookup x ≤ n) : ∃ t, (loop b c).interp ev (m + n) s = some t := by
  induction n generalizing s with
  | zero =>
    obtain ⟨k, rfl⟩ := hc.exists_eq_succ
    have hend : ¬ ev.bexp s b = true := fun h => by
      have := hb s h
      omega
    exact ⟨s, by rw [Nat.add_zero, interp_loop, if_neg hend]⟩
  | succ n ih =>
    rw [← Nat.add_assoc, interp_loop]
    split
    · obtain ⟨u, hu⟩ := hc.mono (Nat.le_add_right m n) s
      have hless : u.lookup x < s.lookup x := hdown (m + n) s u hu
      rw [hu, Option.bind_some]
      exact ih u (by omega)
    · exact ⟨s, rfl⟩

end EndsWithin

/-! ## Counted loops -/

/-- What a counted loop repeats. -/
def turn (x : Ident) (c : Command) : Command := .seq c (.assign x (.minus (.var x) (.number 1)))

/-- What a counted loop consists of. The condition may be stricter than that of the counter. -/
theorem exists_countedLoop_eq (x : Ident) (n : Int) (extra : Option BExp) (c : Command) :
    ∃ b : BExp, (∀ s, b.eval s = true → 1 ≤ s.lookup x) ∧
      countedLoop x n extra c = .seq (.assign x (.number n)) (.loop b (c.turn x)) := by
  cases extra with
  | none =>
    refine ⟨_, ?_, rfl⟩
    intro s h
    exact of_decide_eq_true h
  | some b =>
    refine ⟨_, ?_, rfl⟩
    intro s h
    exact of_decide_eq_true (Bool.and_eq_true_iff.1 h).1

theorem assigns_countedLoop {y : Ident} {n : Int} {extra : Option BExp} :
    (countedLoop x n extra c).Assigns y ↔ y = x ∨ c.Assigns y := by
  obtain ⟨b, -, heq⟩ := exists_countedLoop_eq x n extra c
  rw [heq]
  simp only [turn, Assigns]
  tauto

theorem EndsWithin.turn (hc : c.EndsWithin ev m) (x : Ident) :
    (c.turn x).EndsWithin ev (m + 1) := by
  obtain ⟨k, rfl⟩ := hc.exists_eq_succ
  exact hc.seq fun s => ⟨_, interp_assign ..⟩

/-- Each turn lowers the counter, if the body leaves it alone. -/
theorem lookup_of_interp_turn (hx : ¬ c.Assigns x)
    (h : (c.turn x).interp .standard k s = some t) : t.lookup x = s.lookup x - 1 := by
  obtain ⟨k, rfl⟩ := exists_eq_succ_of_interp h
  rw [turn, interp_seq] at h
  obtain ⟨u, hu, ht⟩ := Option.bind_eq_some_iff.1 h
  obtain ⟨k, rfl⟩ := exists_eq_succ_of_interp hu
  obtain rfl := Option.some.inj ht
  rw [State.lookup_update_self, Evaluator.standard_aexp, AExp.eval, AExp.eval, AExp.eval,
    lookup_of_interp hu hx]

/-- **A counted loop ends** if its body ends and does not assign the counter. -/
theorem EndsWithin.countedLoop (hc : c.EndsWithin .standard m) (hx : ¬ c.Assigns x) {n : Int}
    {turns : Nat} (hn : n ≤ turns) (extra : Option BExp) :
    (countedLoop x n extra c).EndsWithin .standard (m + turns + 2) := by
  obtain ⟨b, hb, heq⟩ := exists_countedLoop_eq x n extra c
  have hdown (k : Nat) (s t : State) (h : (c.turn x).interp .standard k s = some t) :
      t.lookup x < s.lookup x := by
    rw [lookup_of_interp_turn hx h]
    omega
  intro s
  have hstart : (s.update x n).lookup x ≤ turns := by rwa [State.lookup_update_self]
  obtain ⟨t, ht⟩ := (hc.turn x).exists_interp_loop hb hdown turns (s.update x n) hstart
  refine ⟨t, ?_⟩
  rw [heq, show m + turns + 2 = (m + turns + 1) + 1 from rfl, interp_seq, interp_assign,
    Option.bind_some, ← ht]
  congr 1
  omega

end Command

/-! ## Commands with counted loops only -/

/-- Every loop of the command is a counted one. `depth` bounds the nesting, `turns` the turns of
each loop; the counters are those from `first` up to `next`, which is not included, in the order
in which their loops begin; everything else that is assigned is in `idents`. -/
inductive Command.Counted (idents : List Ident) (turns : Nat) :
    (depth : Nat) → (first next : Ident) → Command → Prop
  | skip (d : Nat) (i : Ident) : Counted idents turns d i i .skip
  | assign (d : Nat) (i : Ident) {x : Ident} (hx : x ∈ idents) (e : AExp) :
      Counted idents turns d i i (.assign x e)
  | seq {d : Nat} {i j k : Ident} {c₁ c₂ : Command} (h₁ : Counted idents turns d i j c₁)
      (h₂ : Counted idents turns d j k c₂) : Counted idents turns (d + 1) i k (.seq c₁ c₂)
  | branch {d : Nat} {i j k : Ident} (b : BExp) {c₁ c₂ : Command}
      (h₁ : Counted idents turns d i j c₁) (h₂ : Counted idents turns d j k c₂) :
      Counted idents turns (d + 1) i k (.branch b c₁ c₂)
  | loop {d : Nat} {i k : Ident} {n : Int} (hn : n ≤ turns) (extra : Option BExp) {c : Command}
      (h : Counted idents turns d (i + 1) k c) :
      Counted idents turns (d + 1) i k (countedLoop i n extra c)

namespace Command.Counted

variable {idents : List Ident} {turns depth : Nat} {first next : Ident} {c : Command}

theorem first_le_next (h : Counted idents turns depth first next c) : first ≤ next := by
  induction h with
  | skip d i => exact Int.le_refl i
  | assign d i hx e => exact Int.le_refl i
  | seq h₁ h₂ ih₁ ih₂ => exact Int.le_trans ih₁ ih₂
  | branch b h₁ h₂ ih₁ ih₂ => exact Int.le_trans ih₁ ih₂
  | loop hn extra h ih => exact Int.le_trans (Int.le_add_one (Int.le_refl _)) ih

theorem lt_next (h : Counted idents turns depth first next c) (hidents : ∀ x ∈ idents, x < first) :
    ∀ x ∈ idents, x < next := by
  intro x hx
  exact Int.lt_of_lt_of_le (hidents x hx) h.first_le_next

/-- Only the given variables and the counters are assigned. -/
theorem of_assigns (h : Counted idents turns depth first next c) {x : Ident} (hx : c.Assigns x) :
    x ∈ idents ∨ first ≤ x ∧ x < next := by
  induction h with
  | skip d i => exact hx.elim
  | assign d i hmem e =>
    obtain rfl : x = _ := hx
    exact .inl hmem
  | seq h₁ h₂ ih₁ ih₂ =>
    rcases hx with hx | hx
    · exact (ih₁ hx).imp_right fun h => ⟨h.1, Int.lt_of_lt_of_le h.2 h₂.first_le_next⟩
    · exact (ih₂ hx).imp_right fun h => ⟨Int.le_trans h₁.first_le_next h.1, h.2⟩
  | branch b h₁ h₂ ih₁ ih₂ =>
    rcases hx with hx | hx
    · exact (ih₁ hx).imp_right fun h => ⟨h.1, Int.lt_of_lt_of_le h.2 h₂.first_le_next⟩
    · exact (ih₂ hx).imp_right fun h => ⟨Int.le_trans h₁.first_le_next h.1, h.2⟩
  | loop hn extra h ih =>
    rcases assigns_countedLoop.1 hx with rfl | hx
    · exact .inr ⟨Int.le_refl _, Int.lt_of_lt_of_le (Int.lt_succ _) h.first_le_next⟩
    · exact (ih hx).imp_right fun h => ⟨Int.le_of_lt h.1, h.2⟩

/-- **Counters are fresh.** A variable below the counters is not assigned unless it is given. -/
theorem not_assigns (h : Counted idents turns depth first next c) {x : Ident} (hx : x ∉ idents)
    (hlt : x < first) : ¬ c.Assigns x := by
  intro hassigns
  rcases h.of_assigns hassigns with hmem | ⟨hle, -⟩
  · exact hx hmem
  · exact Int.not_le.2 hlt hle

/-- The budget for a nesting of at most `depth` levels. -/
def budget (turns depth : Nat) : Nat := 1 + depth * (turns + 2)

theorem budget_succ (turns depth : Nat) :
    budget turns (depth + 1) = budget turns depth + turns + 2 := by
  rw [budget, budget, Nat.succ_mul]
  omega

/-- **Commands with counted loops end.** -/
theorem endsWithin (h : Counted idents turns depth first next c)
    (hidents : ∀ x ∈ idents, x < first) : c.EndsWithin .standard (budget turns depth) := by
  induction h with
  | skip d i =>
    rw [budget, Nat.add_comm]
    exact fun s => ⟨s, interp_skip ..⟩
  | assign d i hx e =>
    rw [budget, Nat.add_comm]
    exact fun s => ⟨_, interp_assign ..⟩
  | seq h₁ h₂ ih₁ ih₂ =>
    rw [budget_succ]
    exact ((ih₁ hidents).seq (ih₂ (h₁.lt_next hidents))).mono (by omega)
  | branch b h₁ h₂ ih₁ ih₂ =>
    rw [budget_succ]
    exact (EndsWithin.branch b (ih₁ hidents) (ih₂ (h₁.lt_next hidents))).mono (by omega)
  | @loop d i k n hn extra c h ih =>
    -- The body's counters come after that of the loop, and the variables come before it.
    have hi : i ∉ idents := fun hmem => Int.lt_irrefl i (hidents i hmem)
    have hbody : c.EndsWithin .standard (budget turns d) :=
      ih fun x hx => Int.lt_trans (hidents x hx) (Int.lt_succ i)
    rw [budget_succ]
    exact hbody.countedLoop (h.not_assigns hi (Int.lt_succ i)) hn extra

end Command.Counted

end WhileLang

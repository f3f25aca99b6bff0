import WhileLang.Derivation.Build
import WhileLang.Proofs.Derivation.Uniqueness

/-!
# Which derivations are built

`Command.derive` finds a derivation on a budget, and this file says which: the valid one, if no
path of it has more nodes than the budget (`derive_eq_some_iff`). The interpreter spends the budget
in the same way, so its result is the final state of that derivation (`interp_eq_some_iff`).

A loop is derived turn by turn, and its nodes are put together from the last turn backwards.
`unroll_eq_map_wind` carries the turns already taken through the recursion; it gives `derive_loop`,
the equation that the interpreter's loop has too.

A budget that suffices is then a height (`Proof.derive_eq`, `Proof.interp_eq`), and what holds on
a budget holds on every larger one (`interp_mono`).
-/

namespace WhileLang

variable {ev : Evaluator}

/-! ## Equations of the construction -/

/-- The turns already taken are put around what an unrolling from the same state gives. -/
theorem Derivation.unroll_eq_map_wind (b : BExp) (c : Command)
    (body : Nat → State → Option Derivation) (k : Nat) (turns : List (State × Derivation))
    (s : State) :
    unroll ev b c body k turns s = (unroll ev b c body k [] s).map (wind b c turns) := by
  induction k generalizing turns s with
  | zero => rfl
  | succ k ih =>
    simp only [unroll]
    split
    · cases body k s with
      | none => rfl
      | some d =>
        show unroll ev b c body k ((s, d) :: turns) d.post =
          (unroll ev b c body k [(s, d)] d.post).map (wind b c turns)
        rw [ih ((s, d) :: turns), ih [(s, d)], Option.map_map]
        rfl
    · rfl

namespace Command

@[simp] theorem derive_zero (s : State) (c : Command) : c.derive ev 0 s = none := by
  rw [derive]

@[simp] theorem derive_skip (k : Nat) (s : State) :
    skip.derive ev (k + 1) s = some ⟨.skip, skip, s, s, []⟩ := by
  rw [derive]

@[simp] theorem derive_assign (k : Nat) (s : State) (x : Ident) (e : AExp) :
    (assign x e).derive ev (k + 1) s =
      some ⟨.assign, assign x e, s, s.update x (ev.aexp s e), []⟩ := by
  rw [derive]

theorem derive_seq (k : Nat) (s : State) (c₁ c₂ : Command) :
    (seq c₁ c₂).derive ev (k + 1) s =
      (c₁.derive ev k s).bind fun d₁ =>
        (c₂.derive ev k d₁.post).map fun d₂ => ⟨.seq, seq c₁ c₂, s, d₂.post, [d₁, d₂]⟩ := by
  rw [derive]
  cases c₁.derive ev k s with
  | none => rfl
  | some d₁ => cases h : c₂.derive ev k d₁.post <;> simp [h]

theorem derive_branch (k : Nat) (s : State) (b : BExp) (c₁ c₂ : Command) :
    (branch b c₁ c₂).derive ev (k + 1) s =
      if ev.bexp s b then
        (c₁.derive ev k s).map fun d => ⟨.branchTrue, branch b c₁ c₂, s, d.post, [d]⟩
      else (c₂.derive ev k s).map fun d => ⟨.branchFalse, branch b c₁ c₂, s, d.post, [d]⟩ := by
  rw [derive]
  split
  · cases c₁.derive ev k s <;> rfl
  · cases c₂.derive ev k s <;> rfl

theorem derive_loop (k : Nat) (s : State) (b : BExp) (c : Command) :
    (loop b c).derive ev (k + 1) s =
      if ev.bexp s b then
        (c.derive ev k s).bind fun d₁ =>
          ((loop b c).derive ev k d₁.post).map fun d₂ =>
            ⟨.loopTrue, loop b c, s, d₂.post, [d₁, d₂]⟩
      else some ⟨.loopFalse, loop b c, s, s, []⟩ := by
  -- What is left of the budget after the first turn goes to the same unrolling.
  have hrest (j : Nat) (t : State) : (loop b c).derive ev j t =
      Derivation.unroll ev b c (fun budget s => c.derive ev budget s) j [] t := by
    cases j with
    | zero => rw [derive_zero, Derivation.unroll]
    | succ j => rw [derive]
  rw [hrest, Derivation.unroll]
  split
  · cases c.derive ev k s with
    | none => rfl
    | some d₁ =>
      show Derivation.unroll ev b c _ k [(s, d₁)] d₁.post = _
      rw [Derivation.unroll_eq_map_wind, ← hrest]
      rfl
  · rfl

/-! ## Soundness and completeness -/

/-- `d` is a valid derivation of `c` from `s`, and at most `k` nodes high. -/
structure Derives (ev : Evaluator) (k : Nat) (s : State) (c : Command) (d : Derivation) :
    Prop where
  proof : d.Proof ev
  command : d.command = c
  pre : d.pre = s
  height_le : d.height ≤ k

theorem derives_of_derive {k : Nat} {s : State} {c : Command} {d : Derivation}
    (h : c.derive ev k s = some d) : Derives ev k s c d := by
  induction k generalizing s c d with
  | zero => simp at h
  | succ k ih =>
    cases c with
    | skip =>
      obtain rfl := Option.some.inj h
      exact ⟨.skip s, rfl, rfl, by simp⟩
    | assign x e =>
      obtain rfl := Option.some.inj h
      exact ⟨.assign x e s, rfl, rfl, by simp⟩
    | seq c₁ c₂ =>
      simp only [derive_seq, Option.bind_eq_some_iff, Option.map_eq_some_iff] at h
      obtain ⟨d₁, h₁, d₂, h₂, rfl⟩ := h
      obtain ⟨p₁, rfl, rfl, hk₁⟩ := ih h₁
      obtain ⟨p₂, rfl, hs, hk₂⟩ := ih h₂
      exact ⟨.seq p₁ p₂ hs, rfl, rfl, by simp; omega⟩
    | branch b c₁ c₂ =>
      rw [derive_branch] at h
      split at h
      · rename_i hb
        obtain ⟨d, hd, rfl⟩ := Option.map_eq_some_iff.1 h
        obtain ⟨p, rfl, rfl, hk⟩ := ih hd
        exact ⟨.branchTrue c₂ p hb, rfl, rfl, by simp [hk]⟩
      · rename_i hb
        obtain ⟨d, hd, rfl⟩ := Option.map_eq_some_iff.1 h
        obtain ⟨p, rfl, rfl, hk⟩ := ih hd
        exact ⟨.branchFalse c₁ p (eq_false_of_ne_true hb), rfl, rfl, by simp [hk]⟩
    | loop b c =>
      rw [derive_loop] at h
      split at h
      · rename_i hb
        simp only [Option.bind_eq_some_iff, Option.map_eq_some_iff] at h
        obtain ⟨d₁, h₁, d₂, h₂, rfl⟩ := h
        obtain ⟨p₁, rfl, rfl, hk₁⟩ := ih h₁
        obtain ⟨p₂, hc, hs, hk₂⟩ := ih h₂
        exact ⟨.loopTrue p₁ p₂ hb hc hs, rfl, rfl, by simp; omega⟩
      · rename_i hb
        obtain rfl := Option.some.inj h
        exact ⟨.loopFalse c (eq_false_of_ne_true hb), rfl, rfl, by simp⟩

/-- A budget that reaches the height of a tree can be spent on entering its root. -/
theorem exists_of_height_le {d : Derivation} {k : Nat} (hk : d.height ≤ k) :
    ∃ j, k = j + 1 ∧ Derivation.heights d.premises ≤ j := by
  obtain ⟨r, c, s, t, ps⟩ := d
  rw [Derivation.height_mk] at hk
  exact ⟨k - 1, by omega, by dsimp only; omega⟩

/-- A valid derivation is found on every budget that reaches its height. -/
theorem derive_of_proof {d : Derivation} (h : d.Proof ev) {k : Nat} (hk : d.height ≤ k) :
    d.command.derive ev k d.pre = some d := by
  induction h generalizing k with
  | skip s =>
    obtain ⟨k, rfl, -⟩ := exists_of_height_le hk
    exact derive_skip k s
  | assign x e s =>
    obtain ⟨k, rfl, -⟩ := exists_of_height_le hk
    exact derive_assign k s x e
  | seq h₁ h₂ hs ih₁ ih₂ =>
    obtain ⟨k, rfl, hps⟩ := exists_of_height_le hk
    simp only [Derivation.heights_cons, Derivation.heights_nil] at hps
    rw [derive_seq, ih₁ (by omega), Option.bind_some, ← hs, ih₂ (by omega), Option.map_some]
  | branchTrue c₂ h hb ih =>
    obtain ⟨k, rfl, hps⟩ := exists_of_height_le hk
    simp only [Derivation.heights_cons, Derivation.heights_nil] at hps
    rw [derive_branch, if_pos hb, ih (by omega), Option.map_some]
  | branchFalse c₁ h hb ih =>
    obtain ⟨k, rfl, hps⟩ := exists_of_height_le hk
    simp only [Derivation.heights_cons, Derivation.heights_nil] at hps
    rw [derive_branch, if_neg (ne_true_of_eq_false hb), ih (by omega), Option.map_some]
  | loopFalse c hb =>
    obtain ⟨k, rfl, -⟩ := exists_of_height_le hk
    rw [derive_loop, if_neg (ne_true_of_eq_false hb)]
  | loopTrue h₁ h₂ hb hc hs ih₁ ih₂ =>
    obtain ⟨k, rfl, hps⟩ := exists_of_height_le hk
    simp only [Derivation.heights_cons, Derivation.heights_nil] at hps
    rw [derive_loop, if_pos hb, ih₁ (by omega), Option.bind_some, ← hs, ← hc, ih₂ (by omega),
      Option.map_some]

/-- **What is built.** A derivation is found on a budget if and only if it is valid and no path of
it is longer than the budget. -/
theorem derive_eq_some_iff {k : Nat} {s : State} {c : Command} {d : Derivation} :
    c.derive ev k s = some d ↔ Derives ev k s c d := by
  refine ⟨derives_of_derive, ?_⟩
  rintro ⟨h, rfl, rfl, hk⟩
  exact derive_of_proof h hk

/-- The interpreter and the construction of derivations go through a command in the same way. -/
theorem interp_eq_map_derive (k : Nat) (c : Command) (s : State) :
    c.interp ev k s = (c.derive ev k s).map (·.post) := by
  induction k generalizing c s with
  | zero => simp
  | succ k ih =>
    cases c with
    | skip => simp
    | assign x e => simp
    | seq c₁ c₂ =>
      rw [interp_seq, derive_seq, ih, Option.map_bind, Option.bind_map]
      congr 1
      funext d₁
      simp only [Function.comp_apply, ih, Option.map_map]
      rfl
    | branch b c₁ c₂ =>
      rw [interp_branch, derive_branch, ih, ih]
      split <;> rw [Option.map_map] <;> rfl
    | loop b c =>
      rw [interp_loop, derive_loop, ih]
      split
      · rw [Option.map_bind, Option.bind_map]
        congr 1
        funext d₁
        simp only [Function.comp_apply, ih, Option.map_map]
        rfl
      · rfl

/-- **What is computed.** The interpreter ends in `t` on a budget if and only if a valid derivation
that is not higher than the budget does. -/
theorem interp_eq_some_iff {k : Nat} {c : Command} {s t : State} :
    c.interp ev k s = some t ↔ ∃ d, Derives ev k s c d ∧ d.post = t := by
  simp only [interp_eq_map_derive, Option.map_eq_some_iff, derive_eq_some_iff]

/-- Nothing ends on an empty budget. -/
theorem exists_eq_succ_of_interp {k : Nat} {c : Command} {s t : State}
    (h : c.interp ev k s = some t) : ∃ j, k = j + 1 := by
  cases k with
  | zero =>
    rw [interp_zero] at h
    cases h
  | succ j => exact ⟨j, rfl⟩

/-- A larger budget keeps a result. -/
theorem interp_mono {j k : Nat} (hjk : j ≤ k) {c : Command} {s t : State}
    (h : c.interp ev j s = some t) : c.interp ev k s = some t := by
  obtain ⟨d, ⟨p, hc, hs, hj⟩, ht⟩ := interp_eq_some_iff.1 h
  exact interp_eq_some_iff.2 ⟨d, ⟨p, hc, hs, Nat.le_trans hj hjk⟩, ht⟩

/-- Budgets do not change a result. -/
theorem interp_unique {j k : Nat} {c : Command} {s t u : State}
    (h₁ : c.interp ev j s = some t) (h₂ : c.interp ev k s = some u) : t = u := by
  obtain ⟨d₁, ⟨p₁, hc₁, hs₁, -⟩, rfl⟩ := interp_eq_some_iff.1 h₁
  obtain ⟨d₂, ⟨p₂, hc₂, hs₂, -⟩, rfl⟩ := interp_eq_some_iff.1 h₂
  rw [p₁.unique p₂ (hc₁.trans hc₂.symm) (hs₁.trans hs₂.symm)]

end Command

namespace Derivation.Proof

/-- **The budget that a derivation needs.** It is found from its height on, and on no smaller
budget is anything found. -/
theorem derive_eq {d : Derivation} (h : d.Proof ev) (k : Nat) :
    d.command.derive ev k d.pre = if d.height ≤ k then some d else none := by
  split
  · rename_i hk
    exact Command.derive_of_proof h hk
  · rename_i hk
    refine Option.eq_none_iff_forall_ne_some.2 fun d' hd' => hk ?_
    obtain ⟨h', hc, hs, hk'⟩ := Command.derives_of_derive hd'
    rwa [← h'.unique h hc hs]

theorem interp_eq {d : Derivation} (h : d.Proof ev) (k : Nat) :
    d.command.interp ev k d.pre = if d.height ≤ k then some d.post else none := by
  rw [Command.interp_eq_map_derive, h.derive_eq]
  split <;> rfl

end Derivation.Proof

end WhileLang

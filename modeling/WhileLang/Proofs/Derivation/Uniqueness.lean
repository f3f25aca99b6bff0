import WhileLang.Proofs.Derivation.Validity

/-!
# Valid derivations are unique

A command and the state it starts in leave no choice to a valid derivation: the condition decides
between the rules of a branch or a loop, the first premise of a sequence or a loop is about a part
of the command and starts where the node starts, and the second one starts where the first one
ends. `Proof.unique` is the induction; its step is `Follows.unique`, on the root alone.

**Theorem (`verify_eq_nil_iff_eq`).** Of the trees with the command and the initial state of a
valid derivation, that derivation is the only one without issues.
-/

namespace WhileLang

namespace Derivation

variable {ev : Evaluator}

/-- A condition does not have both values in one state. -/
theorem guard_clash {b : BExp} {s t : State} (h : ev.bexp s b = true) (h' : ev.bexp t b = false)
    (hs : s = t) : False := by
  rw [hs, h'] at h
  cases h

/-- Two nodes about one command in one state are the same, if premises with the same command and
initial state are. -/
theorem Follows.unique {d₁ d₂ : Derivation} (h₁ : Follows ev d₁) (h₂ : Follows ev d₂)
    (hc : d₁.command = d₂.command) (hs : d₁.pre = d₂.pre)
    (hp : ∀ p ∈ d₁.premises, ∀ q ∈ d₂.premises,
      p.command = q.command → p.pre = q.pre → p = q) : d₁ = d₂ := by
  cases h₁ with
  | skip s =>
    cases h₂ <;> cases hc
    cases hs
    rfl
  | assign x e s =>
    cases h₂ <;> cases hc
    cases hs
    rfl
  | seq p₁ p₂ h =>
    cases h₂ with
    | seq q₁ q₂ h' =>
      obtain ⟨hc₁, hc₂⟩ := Command.seq.inj hc
      obtain rfl : p₁ = q₁ := hp p₁ (by simp) q₁ (by simp) hc₁ hs
      obtain rfl : p₂ = q₂ := hp p₂ (by simp) q₂ (by simp) hc₂ (h.trans h'.symm)
      rfl
    | _ => cases hc
  | branchTrue b c₂ p h =>
    cases h₂ with
    | branchTrue b' c₂' q h' =>
      obtain ⟨rfl, hc₁, rfl⟩ := Command.branch.inj hc
      obtain rfl : p = q := hp p (by simp) q (by simp) hc₁ hs
      rfl
    | branchFalse b' c₁ q h' =>
      obtain ⟨rfl, -, -⟩ := Command.branch.inj hc
      exact (guard_clash h h' hs).elim
    | _ => cases hc
  | branchFalse b c₁ p h =>
    cases h₂ with
    | branchTrue b' c₂ q h' =>
      obtain ⟨rfl, -, -⟩ := Command.branch.inj hc
      exact (guard_clash h' h hs.symm).elim
    | branchFalse b' c₁' q h' =>
      obtain ⟨rfl, rfl, hc₂⟩ := Command.branch.inj hc
      obtain rfl : p = q := hp p (by simp) q (by simp) hc₂ hs
      rfl
    | _ => cases hc
  | loopFalse b c s h =>
    cases h₂ with
    | loopFalse b' c' s' h' =>
      cases hc
      cases hs
      rfl
    | loopTrue b' q₁ q₂ h' _ _ =>
      obtain ⟨rfl, -⟩ := Command.loop.inj hc
      exact (guard_clash h' h hs.symm).elim
    | _ => cases hc
  | loopTrue b p₁ p₂ h hc₂ hs₂ =>
    cases h₂ with
    | loopFalse b' c' s' h' =>
      obtain ⟨rfl, -⟩ := Command.loop.inj hc
      exact (guard_clash h h' hs).elim
    | loopTrue b' q₁ q₂ h' hc₂' hs₂' =>
      obtain ⟨rfl, hc₁⟩ := Command.loop.inj hc
      obtain rfl : p₁ = q₁ := hp p₁ (by simp) q₁ (by simp) hc₁ hs
      obtain rfl : p₂ = q₂ :=
        hp p₂ (by simp) q₂ (by simp) (hc₂.trans hc₂'.symm) (hs₂.trans hs₂'.symm)
      rfl
    | _ => cases hc

/-- **Determinism.** A command and an initial state have at most one proof tree. -/
theorem Proof.unique {d₁ d₂ : Derivation} (h₁ : Proof ev d₁) (h₂ : Proof ev d₂)
    (hc : d₁.command = d₂.command) (hs : d₁.pre = d₂.pre) : d₁ = d₂ := by
  induction h₁ using Proof.rec generalizing d₂ with
  | intro root _ ih =>
    obtain ⟨root', premises'⟩ := h₂
    exact root.unique root' hc hs fun p hp q hq => ih p hp (premises' q hq)

/-- **A valid derivation cannot be forged.** A tree with the same command and initial state has no
issues only if it is that derivation, node by node; a change anywhere below the root is found as
one of the conclusion is. -/
theorem verify_eq_nil_iff_eq {d d' : Derivation} (h : d.verify ev = [])
    (hc : d'.command = d.command) (hs : d'.pre = d.pre) : d'.verify ev = [] ↔ d' = d := by
  rw [verify_eq_nil_iff] at h ⊢
  constructor
  · intro h'
    exact h'.unique h hc hs
  · rintro rfl
    exact h

/-- In the derivation of `x₀ := 1; skip`, the first premise must not end with `x₀ = 2`. -/
theorem verify_forged_premise :
    let c : Command := .assign 0 (.number 1)
    let t : State := .ofList [(0, 1)]
    let d : Derivation := ⟨.seq, .seq c .skip, .initial, t,
      [⟨.assign, c, .initial, t, []⟩, ⟨.skip, .skip, t, t, []⟩]⟩
    let d' : Derivation := ⟨.seq, .seq c .skip, .initial, t,
      [⟨.assign, c, .initial, .ofList [(0, 2)], []⟩, ⟨.skip, .skip, t, t, []⟩]⟩
    d.verify .standard = [] ∧ d'.verify .standard ≠ [] := by
  intro c t d d'
  have h : d.verify .standard = [] := by decide
  have hne : (d'.premises.map post).head? ≠ (d.premises.map post).head? := by decide
  have hiff : d'.verify .standard = [] ↔ d' = d := verify_eq_nil_iff_eq h rfl rfl
  refine ⟨h, fun h' => hne ?_⟩
  rw [hiff.1 h']

end Derivation

end WhileLang

import WhileLang.Issue

/-!
# Valid derivations

`Derivation.verify` looks at one node after the other and compares it with its premises. This file
says what a tree without faults is: a proof tree of the natural semantics, in which every node is
an instance of its rule (`verify_eq_nil_iff`).

`Proof.byRule` is the induction that this gives: a valid derivation ends in one of the seven
rules, and its premises are valid derivations that meet the side conditions of the rule.
-/

namespace WhileLang

namespace Derivation

variable {ev : Evaluator}

/-! ## The faults of a node -/

@[simp] theorem faultUnless_eq_nil_iff {b : Bool} {f : Fault} :
    faultUnless b f = [] ↔ b = true := by
  cases b <;> simp [faultUnless]

@[simp] theorem linkFaults_eq_nil_iff {p : Derivation} {c : Command} {s : State} :
    linkFaults p c s = [] ↔ p.command = c ∧ p.pre = s := by
  simp [linkFaults]

theorem follows_of_rootFaults {d : Derivation} (h : d.rootFaults ev = []) : Follows ev d := by
  obtain ⟨r, c, s, t, ps⟩ := d
  simp only [rootFaults] at h
  split at h
  -- No rule has the label with this command and so many premises.
  case h_8 => split at h <;> cases h
  all_goals
    simp only [List.append_eq_nil_iff, linkFaults_eq_nil_iff, faultUnless_eq_nil_iff,
      decide_eq_true_eq, Bool.not_eq_true'] at h
  case h_1 =>
    subst h
    exact .skip t
  case h_2 x e =>
    subst h
    exact .assign x e s
  case h_3 c₁ c₂ p₁ p₂ =>
    obtain ⟨⟨⟨rfl, rfl⟩, rfl, hs⟩, rfl⟩ := h
    exact .seq p₁ p₂ hs
  case h_4 b c₁ c₂ p =>
    obtain ⟨⟨hb, rfl, rfl⟩, rfl⟩ := h
    exact .branchTrue b c₂ p hb
  case h_5 b c₁ c₂ p =>
    obtain ⟨⟨hb, rfl, rfl⟩, rfl⟩ := h
    exact .branchFalse b c₁ p hb
  case h_6 b c =>
    obtain ⟨hb, rfl⟩ := h
    exact .loopFalse b c t hb
  case h_7 b c p₁ p₂ =>
    obtain ⟨⟨⟨hb, rfl, rfl⟩, hc, hs⟩, rfl⟩ := h
    exact .loopTrue b p₁ p₂ hb hc hs

/-- **The check of a node is exact.** -/
theorem rootFaults_eq_nil_iff {d : Derivation} : d.rootFaults ev = [] ↔ Follows ev d := by
  refine ⟨follows_of_rootFaults, fun h => ?_⟩
  cases h <;> simp [rootFaults, *]

/-! ## The faults of a tree -/

theorem proof_iff {d : Derivation} :
    Proof ev d ↔ Follows ev d ∧ ∀ p ∈ d.premises, Proof ev p :=
  ⟨fun ⟨root, premises⟩ => ⟨root, premises⟩, fun ⟨root, premises⟩ => ⟨root, premises⟩⟩

mutual

theorem faultsFrom_eq_nil_iff (up : List Nat) (d : Derivation) :
    d.faultsFrom ev up = [] ↔ Proof ev d := by
  match d with
  | ⟨r, c, s, t, ps⟩ =>
    rw [faultsFrom, List.append_eq_nil_iff, List.map_eq_nil_iff, rootFaults_eq_nil_iff,
      premiseFaultsFrom_eq_nil_iff up 0 ps, proof_iff]

theorem premiseFaultsFrom_eq_nil_iff (up : List Nat) (i : Nat) (ps : List Derivation) :
    premiseFaultsFrom ev up i ps = [] ↔ ∀ p ∈ ps, Proof ev p := by
  match ps with
  | [] => simp [premiseFaultsFrom]
  | p :: ps =>
    rw [premiseFaultsFrom, List.append_eq_nil_iff, premiseFaultsFrom_eq_nil_iff up (i + 1) ps,
      faultsFrom_eq_nil_iff (i :: up) p, List.forall_mem_cons, and_comm]

end

theorem faults_eq_nil_iff {d : Derivation} : d.faults ev = [] ↔ Proof ev d :=
  faultsFrom_eq_nil_iff [] d

/-- **A tree without issues is a proof tree.** -/
theorem verify_eq_nil_iff {d : Derivation} : d.verify ev = [] ↔ Proof ev d := by
  rw [verify, List.map_eq_nil_iff, faults_eq_nil_iff]

/-! ## Proof trees, rule by rule -/

namespace Proof

variable {d d₁ d₂ : Derivation} {b : BExp}

theorem skip (s : State) : Proof ev ⟨.skip, .skip, s, s, []⟩ :=
  ⟨.skip s, by simp⟩

theorem assign (x : Ident) (e : AExp) (s : State) :
    Proof ev ⟨.assign, .assign x e, s, s.update x (ev.aexp s e), []⟩ :=
  ⟨.assign x e s, by simp⟩

theorem seq (h₁ : Proof ev d₁) (h₂ : Proof ev d₂) (hs : d₂.pre = d₁.post) :
    Proof ev ⟨.seq, .seq d₁.command d₂.command, d₁.pre, d₂.post, [d₁, d₂]⟩ :=
  ⟨.seq d₁ d₂ hs, by simp [h₁, h₂]⟩

theorem branchTrue (c₂ : Command) (h : Proof ev d) (hb : ev.bexp d.pre b = true) :
    Proof ev ⟨.branchTrue, .branch b d.command c₂, d.pre, d.post, [d]⟩ :=
  ⟨.branchTrue b c₂ d hb, by simp [h]⟩

theorem branchFalse (c₁ : Command) (h : Proof ev d) (hb : ev.bexp d.pre b = false) :
    Proof ev ⟨.branchFalse, .branch b c₁ d.command, d.pre, d.post, [d]⟩ :=
  ⟨.branchFalse b c₁ d hb, by simp [h]⟩

theorem loopFalse (c : Command) {s : State} (hb : ev.bexp s b = false) :
    Proof ev ⟨.loopFalse, .loop b c, s, s, []⟩ :=
  ⟨.loopFalse b c s hb, by simp⟩

theorem loopTrue (h₁ : Proof ev d₁) (h₂ : Proof ev d₂) (hb : ev.bexp d₁.pre b = true)
    (hc : d₂.command = .loop b d₁.command) (hs : d₂.pre = d₁.post) :
    Proof ev ⟨.loopTrue, .loop b d₁.command, d₁.pre, d₂.post, [d₁, d₂]⟩ :=
  ⟨.loopTrue b d₁ d₂ hb hc hs, by simp [h₁, h₂]⟩

/-- Induction on valid derivations, with a case for each rule. -/
@[elab_as_elim, induction_eliminator]
theorem byRule {motive : (d : Derivation) → Proof ev d → Prop}
    (skip : ∀ s, motive _ (skip s))
    (assign : ∀ x e s, motive _ (assign x e s))
    (seq : ∀ {d₁ d₂ : Derivation} (h₁ : Proof ev d₁) (h₂ : Proof ev d₂)
      (hs : d₂.pre = d₁.post), motive d₁ h₁ → motive d₂ h₂ → motive _ (seq h₁ h₂ hs))
    (branchTrue : ∀ {d : Derivation} {b : BExp} (c₂ : Command) (h : Proof ev d)
      (hb : ev.bexp d.pre b = true), motive d h → motive _ (branchTrue c₂ h hb))
    (branchFalse : ∀ {d : Derivation} {b : BExp} (c₁ : Command) (h : Proof ev d)
      (hb : ev.bexp d.pre b = false), motive d h → motive _ (branchFalse c₁ h hb))
    (loopFalse : ∀ {b : BExp} (c : Command) {s : State} (hb : ev.bexp s b = false),
      motive _ (loopFalse c hb))
    (loopTrue : ∀ {d₁ d₂ : Derivation} {b : BExp} (h₁ : Proof ev d₁) (h₂ : Proof ev d₂)
      (hb : ev.bexp d₁.pre b = true) (hc : d₂.command = .loop b d₁.command)
      (hs : d₂.pre = d₁.post), motive d₁ h₁ → motive d₂ h₂ →
      motive _ (loopTrue h₁ h₂ hb hc hs))
    {d : Derivation} (h : Proof ev d) : motive d h := by
  induction h using Proof.rec with
  | intro root premises ih =>
    cases root with
    | skip s => exact skip s
    | assign x e s => exact assign x e s
    | seq d₁ d₂ hs =>
      exact seq (premises d₁ (by simp)) (premises d₂ (by simp)) hs (ih d₁ (by simp))
        (ih d₂ (by simp))
    | branchTrue b c₂ d hb => exact branchTrue c₂ (premises d (by simp)) hb (ih d (by simp))
    | branchFalse b c₁ d hb => exact branchFalse c₁ (premises d (by simp)) hb (ih d (by simp))
    | loopFalse b c s hb => exact loopFalse c hb
    | loopTrue b d₁ d₂ hb hc hs =>
      exact loopTrue (premises d₁ (by simp)) (premises d₂ (by simp)) hb hc hs (ih d₁ (by simp))
        (ih d₂ (by simp))

end Proof

end Derivation

end WhileLang

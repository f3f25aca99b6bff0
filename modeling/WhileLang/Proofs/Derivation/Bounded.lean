import WhileLang.Proofs.Derivation.Construction

/-!
# Derivability on a budget

Whether a command leads from one state to another is not decidable, but whether it does so by a
derivation of a given height is: `Command.derive` builds that derivation or there is none. It gives
up on just the budgets on which the interpreter gives up (`Command.derive_eq_none_iff`), a tree
that has been built is built on every larger budget (`Command.derive_mono`), and
`Derivation.relates` is the decision (`Derivation.exists_relates_eq`).
-/

namespace WhileLang

variable {ev : Evaluator} {k : Nat} {s : State} {c : Command}

namespace Command

theorem derive_eq_none_iff : c.derive ev k s = none ↔ c.interp ev k s = none := by
  rw [interp_eq_map_derive, Option.map_eq_none_iff]

theorem derive_mono {j : Nat} (hjk : j ≤ k) {d : Derivation} (h : c.derive ev j s = some d) :
    c.derive ev k s = some d := by
  obtain ⟨p, hc, hs, hj⟩ := derives_of_derive h
  exact derive_eq_some_iff.2 ⟨p, hc, hs, Nat.le_trans hj hjk⟩

/-- **Bounded derivability.** The interpreter decides whether a valid derivation of at most `k`
nodes on each path ends in `t`. -/
theorem interp_eq_some_iff_exists_verify {t : State} :
    c.interp ev k s = some t ↔ ∃ d : Derivation, d.verify ev = [] ∧ d.command = c ∧ d.pre = s ∧
      d.post = t ∧ d.height ≤ k := by
  rw [interp_eq_some_iff]
  constructor
  · rintro ⟨d, ⟨p, hc, hs, hk⟩, ht⟩
    exact ⟨d, Derivation.verify_eq_nil_iff.2 p, hc, hs, ht, hk⟩
  · rintro ⟨d, hd, hc, hs, ht, hk⟩
    exact ⟨d, ⟨Derivation.verify_eq_nil_iff.1 hd, hc, hs, hk⟩, ht⟩

end Command

namespace Derivation

theorem finalState_natCast (ev : Evaluator) (s : State) (c : Command) (k : Nat) :
    finalState ev s c k = .ok (c.interp ev k s) := by
  rw [finalState, build_natCast, Command.interp_eq_map_derive]
  rfl

/-- The decision is made on every budget. -/
theorem exists_relates_eq (ev : Evaluator) (s : State) (c : Command) (t : State) (k : Nat) :
    ∃ related, relates ev s c t k = .ok related ∧
      (related = true ↔ ∃ d : Derivation, d.verify ev = [] ∧ d.command = c ∧ d.pre = s ∧
        d.post = t ∧ d.height ≤ k) := by
  refine ⟨decide (c.interp ev k s = some t), ?_, ?_⟩
  · rw [relates, finalState_natCast]
    rfl
  · rw [decide_eq_true_iff, Command.interp_eq_some_iff_exists_verify]

/-- **The construction follows the interpreter.** On every budget it gives up or builds a valid
derivation of the interpreter's result, which larger budgets do not change; so it finds whatever
is derivable within the budget. -/
theorem build_follows_interp (ev : Evaluator) (k : Nat) (s : State) (c : Command) :
    (∃ r, build ev k s c = .ok r) ∧
    (build ev k s c = .ok none ↔ Interpreter.standard ev k c s = .ok none) ∧
    (∀ d, build ev k s c = .ok (some d) →
      d.pre = s ∧ d.command = c ∧ Interpreter.standard ev k c s = .ok (some d.post) ∧
        d.verify ev = [] ∧ ∀ j : Nat, k ≤ j → build ev j s c = .ok (some d)) ∧
    ∀ t : State, ∃ related, relates ev s c t k = .ok related ∧
      (related = true ↔ ∃ d : Derivation, d.verify ev = [] ∧ d.command = c ∧ d.pre = s ∧
        d.post = t ∧ d.height ≤ k) := by
  refine ⟨⟨_, build_natCast ev k s c⟩, ?_, fun d hd => ?_, fun t => exists_relates_eq ev s c t k⟩
  · rw [build_natCast, Interpreter.standard_natCast, Except.ok.injEq, Except.ok.injEq,
      Command.derive_eq_none_iff]
  · rw [build_natCast] at hd
    have h : c.derive ev k s = some d := Except.ok.inj hd
    obtain ⟨p, hc, hs, -⟩ := Command.derives_of_derive h
    refine ⟨hs, hc, ?_, verify_eq_nil_iff.2 p, fun j hj => ?_⟩
    · rw [Interpreter.standard_natCast, Command.interp_eq_map_derive, h, Option.map_some]
    · rw [build_natCast, Command.derive_mono hj h]

/-- Two turns of `while 1 ≤ x₀ do x₀ := x₀ - 1` are derivable on the budget 3, with the turns in
the order in which they are made. -/
theorem build_two_turns :
    let b : BExp := .lessEqual (.number 1) (.var 0)
    let body : Command := .assign 0 (.minus (.var 0) (.number 1))
    let s (n : Int) : State := .ofList [(0, n)]
    let turn (n : Int) (rest : Derivation) : Derivation :=
      ⟨.loopTrue, .loop b body, s n, .initial,
        [⟨.assign, body, s n, s (n - 1), []⟩, rest]⟩
    let d := turn 2 (turn 1 ⟨.loopFalse, .loop b body, .initial, .initial, []⟩)
    build .standard 3 (s 2) (.loop b body) = .ok (some d) ∧ d.verify .standard = [] ∧
      ∀ j : Nat, 3 ≤ j → build .standard j (s 2) (.loop b body) = .ok (some d) := by
  intro b body s turn d
  have h : build .standard 3 (s 2) (.loop b body) = .ok (some d) := by rfl
  obtain ⟨-, -, -, hverify, hlarger⟩ :=
    (build_follows_interp .standard 3 (s 2) (.loop b body)).2.2.1 d h
  exact ⟨h, hverify, hlarger⟩

end Derivation

end WhileLang

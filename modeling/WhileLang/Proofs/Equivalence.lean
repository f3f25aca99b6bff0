import WhileLang.Proofs.Derivation.Construction
import WhileLang.Proofs.Step.Derived

/-!
# The three semantics are one

A command leads from one state to another by small steps, by a valid derivation or by the
interpreter on a sufficient budget, and it is the same whichever is asked (`semantics_agree`). The
derivations stand in the middle: runs to `skip` are theirs (`steps_skip_iff`), and so are the
results of the interpreter (`Command.interp_eq_some_iff`).

None of the three ever fails on a limit that is not negative, so a command that has no final state
is cut off by every limit on steps and by every budget.
-/

namespace WhileLang

open WhileLang.Derivation

variable {ev : Evaluator} {record : Bool} {c : Command} {s t : State}

theorem exists_trace_iff :
    (∃ (limit : Int) (tr : Trace), (Stepper.standard ev).trace record ⟨c, s⟩ limit = .ok tr ∧
        tr.terminated = true ∧ tr.final.state = t) ↔
      ∃ d : Derivation, d.command = c ∧ d.pre = s ∧ d.post = t ∧ d.verify ev = [] := by
  constructor
  · rintro ⟨limit, tr, htr, ht, rfl⟩
    obtain ⟨d, p, hc, hs, hpost, -⟩ := (Stepper.follows_of_trace_eq htr).exists_proof ht
    exact ⟨d, hc, hs, hpost, verify_eq_nil_iff.2 p⟩
  · rintro ⟨d, rfl, rfl, rfl, hd⟩
    obtain ⟨tr, htr, hterm, hend⟩ :=
      (verify_eq_nil_iff.1 hd).exists_trace_eq record d.stepCount
    have ht : tr.terminated = true := hterm.2 (Nat.le_refl _)
    exact ⟨d.stepCount, tr, htr, ht, (hend ht).2⟩

theorem exists_interp_iff :
    (∃ budget : Int, Interpreter.standard ev budget c s = .ok (some t)) ↔
      ∃ d : Derivation, d.command = c ∧ d.pre = s ∧ d.post = t ∧ d.verify ev = [] := by
  constructor
  · rintro ⟨budget, h⟩
    obtain ⟨k, -, hk⟩ := Interpreter.standard_eq_ok_iff.1 h
    obtain ⟨d, ⟨p, hc, hs, -⟩, hpost⟩ := Command.interp_eq_some_iff.1 hk
    exact ⟨d, hc, hs, hpost, verify_eq_nil_iff.2 p⟩
  · rintro ⟨d, rfl, rfl, rfl, hd⟩
    refine ⟨d.height, ?_⟩
    rw [Interpreter.standard_natCast, (verify_eq_nil_iff.1 hd).interp_eq,
      if_pos (Nat.le_refl _)]

/-! ## Divergence -/

/-- A command without a derivation is cut off by every limit on its steps, and no other is. -/
theorem forall_trace_iff :
    (∀ limit : Nat, ∃ tr, (Stepper.standard ev).trace record ⟨c, s⟩ limit = .ok tr ∧
        tr.terminated = false) ↔
      ∀ d : Derivation, d.command = c → d.pre = s → d.verify ev ≠ [] := by
  constructor
  · rintro h d rfl rfl hd
    obtain ⟨tr, htr, hterm, -⟩ :=
      (verify_eq_nil_iff.1 hd).exists_trace_eq record d.stepCount
    obtain ⟨tr', htr', hnot⟩ := h d.stepCount
    obtain rfl := Except.ok.inj (htr.symm.trans htr')
    rw [hterm.2 (Nat.le_refl _)] at hnot
    cases hnot
  · intro h limit
    obtain ⟨tr, htr, hf⟩ := Stepper.exists_trace_eq ev record ⟨c, s⟩ limit
    refine ⟨tr, htr, eq_false_of_ne_true fun ht => ?_⟩
    obtain ⟨d, p, hc, hs, -⟩ := hf.exists_proof ht
    exact h d hc hs (verify_eq_nil_iff.2 p)

/-- A command without a derivation exhausts every budget, and no other does. -/
theorem forall_interp_iff :
    (∀ budget : Nat, Interpreter.standard ev budget c s = .ok none) ↔
      ∀ d : Derivation, d.command = c → d.pre = s → d.verify ev ≠ [] := by
  constructor
  · rintro h d rfl rfl hd
    have hnone := h d.height
    rw [Interpreter.standard_natCast, (verify_eq_nil_iff.1 hd).interp_eq,
      if_pos (Nat.le_refl _)] at hnone
    cases hnone
  · intro h budget
    rw [Interpreter.standard_natCast]
    congr 1
    refine Option.eq_none_iff_forall_ne_some.2 fun t ht => ?_
    obtain ⟨d, ⟨p, hc, hs, -⟩, -⟩ := Command.interp_eq_some_iff.1 ht
    exact h d hc hs (verify_eq_nil_iff.2 p)

/-- **Agreement.** A final state is reached by small steps if and only if a valid derivation has
it, and if and only if the interpreter finds it; and a command that diverges in one of the three
semantics diverges in the others. -/
theorem semantics_agree (ev : Evaluator) (record : Bool) (c : Command) (s : State) :
    (∀ t : State,
      ((∃ (limit : Int) (tr : Trace), (Stepper.standard ev).trace record ⟨c, s⟩ limit = .ok tr ∧
          tr.terminated = true ∧ tr.final.state = t) ↔
        ∃ d : Derivation, d.command = c ∧ d.pre = s ∧ d.post = t ∧ d.verify ev = []) ∧
      ((∃ d : Derivation, d.command = c ∧ d.pre = s ∧ d.post = t ∧ d.verify ev = []) ↔
        ∃ budget : Int, Interpreter.standard ev budget c s = .ok (some t))) ∧
    ((∀ limit : Nat, ∃ tr, (Stepper.standard ev).trace record ⟨c, s⟩ limit = .ok tr ∧
        tr.terminated = false) ↔
      ∀ d : Derivation, d.command = c → d.pre = s → d.verify ev ≠ []) ∧
    ((∀ d : Derivation, d.command = c → d.pre = s → d.verify ev ≠ []) ↔
      ∀ budget : Nat, Interpreter.standard ev budget c s = .ok none) :=
  ⟨fun _ => ⟨exists_trace_iff, exists_interp_iff.symm⟩, forall_trace_iff, forall_interp_iff.symm⟩

end WhileLang

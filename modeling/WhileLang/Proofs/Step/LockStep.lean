import Mathlib.Data.List.Forall2
import WhileLang.Proofs.Step.Run

/-!
# Runs in lock step

A stepper keeps two configurations in lock step if their commands have the same form and their
successors are, one by one, in lock step again. Traces from such configurations go the same way
under every limit: they take equally many steps, end or are cut off together, and pass through
configurations that correspond (`LockStep.exists_trace_eq`).
-/

namespace WhileLang

variable {R : Configuration → Configuration → Prop}

/-- Two traces that went the same way. -/
structure Trace.Related (R : Configuration → Configuration → Prop) (tr tr' : Trace) : Prop where
  steps_eq : tr'.steps = tr.steps
  terminated_eq : tr'.terminated = tr.terminated
  configurations : List.Forall₂ R tr.configurations tr'.configurations
  final : R tr.final tr'.final

/-- What related configurations have in common, related lists have throughout. -/
theorem map_eq_of_forall₂ {α : Type} {f : Configuration → α} {as bs : List Configuration}
    (h : List.Forall₂ R as bs) (hf : ∀ a b, R a b → f b = f a) : bs.map f = as.map f := by
  induction h with
  | nil => rfl
  | cons hab _ ih => rw [List.map_cons, List.map_cons, hf _ _ hab, ih]

namespace Stepper

variable {st : Stepper} {record : Bool}

/-- Two runs under way that went the same way. -/
structure Walk.Related (R : Configuration → Configuration → Prop) (w w' : Walk) : Prop where
  current : R w.current w'.current
  steps_eq : w'.steps = w.steps
  visited : List.Forall₂ R w.visited w'.visited

theorem Walk.Related.advance {w w' : Walk} {a b : Configuration} (h : w.Related R w')
    (hab : R a b) : (w.advance record a).Related R (w'.advance record b) := by
  obtain ⟨-, hsteps, hvisited⟩ := h
  refine ⟨hab, congrArg (· + 1) hsteps, ?_⟩
  cases record with
  | true => exact .cons hab hvisited
  | false => exact hvisited

/-- Configurations related by `R` have commands of one form, and successors related by `R`. -/
structure LockStep (st : Stepper) (R : Configuration → Configuration → Prop) : Prop where
  form_eq {a b : Configuration} (h : R a b) : b.command.form = a.command.form
  successors {a b : Configuration} (h : R a b) : List.Forall₂ R (st a) (st b)

namespace LockStep

theorem isSkip_eq (hst : st.LockStep R) {a b : Configuration} (h : R a b) :
    b.command.isSkip = a.command.isSkip := by
  rw [Command.isSkip, Command.isSkip, hst.form_eq h]

theorem exists_walk_eq (hst : st.LockStep R) {limit : Nat} {w w' v : Walk} (h : w.Related R w')
    (hv : st.walk record limit w = .ok v) :
    ∃ v', st.walk record limit w' = .ok v' ∧ v.Related R v' := by
  induction limit generalizing w w' with
  | zero =>
    obtain rfl := Except.ok.inj hv
    exact ⟨w', rfl, h⟩
  | succ limit ih =>
    have hnext := hst.successors h.current
    simp only [walk, step] at hv ⊢
    cases hw : st w.current with
    | nil =>
      rw [hw, List.forall₂_nil_left_iff] at hnext
      simp only [hw] at hv
      simp only [hnext, hst.isSkip_eq h.current]
      split at hv
      · rename_i hskip
        obtain rfl := Except.ok.inj hv
        exact ⟨w', if_pos hskip, h⟩
      · cases hv
    | cons a found =>
      rw [hw] at hnext
      obtain ⟨b, found', hab, hfound, hw'⟩ := List.forall₂_cons_left_iff.1 hnext
      simp only [hw] at hv
      simp only [hw']
      cases hfound with
      | nil => exact ih (h.advance hab) hv
      | cons => cases hv

/-- **Traces in lock step.** A trace from one of two related configurations is found from the
other one too. -/
theorem exists_trace_eq (hst : st.LockStep R) {a b : Configuration} (h : R a b) {limit : Int}
    {tr : Trace} (htr : st.trace record a limit = .ok tr) :
    ∃ tr', st.trace record b limit = .ok tr' ∧ tr.Related R tr' := by
  rw [trace] at htr
  split at htr
  · cases htr
  · rename_i hlimit
    obtain ⟨v, hv, rfl⟩ := map_eq_ok_iff.1 htr
    have hstart : Walk.Related R ⟨a, 0, if record then [a] else []⟩
        ⟨b, 0, if record then [b] else []⟩ := by
      refine ⟨h, rfl, ?_⟩
      cases record with
      | true => exact .cons h .nil
      | false => exact .nil
    obtain ⟨v', hv', hcurrent, hsteps, hvisited⟩ := hst.exists_walk_eq hstart hv
    refine ⟨v'.toTrace, ?_, hsteps, hst.isSkip_eq hcurrent, ?_, hcurrent⟩
    · rw [trace, if_neg hlimit, hv']
      rfl
    · exact List.forall₂_reverse_iff.2 hvisited

/-- The steps of the language can be followed from both configurations. -/
theorem exists_traces_eq {ev : Evaluator} (hst : (standard ev).LockStep R) {a b : Configuration}
    (h : R a b) (record : Bool) (limit : Nat) :
    ∃ tr tr', (standard ev).trace record a limit = .ok tr ∧
      (standard ev).trace record b limit = .ok tr' ∧ tr.Related R tr' := by
  obtain ⟨tr, htr, -⟩ := Stepper.exists_trace_eq ev record a limit
  obtain ⟨tr', htr', hrelated⟩ := hst.exists_trace_eq h htr
  exact ⟨tr, tr', htr, htr', hrelated⟩

end LockStep

end Stepper

end WhileLang

import Mathlib.Data.List.Chain
import WhileLang.Proofs.Step.Run

/-!
# Traces that are cut and resumed

A trace of at most `m + n` steps is a trace of at most `m` steps, followed by one of at most `n`
steps from where the first one stopped (`Stepper.trace_add`). Why the first one stopped does not
matter: if its limit was reached, the second one goes on, and if there was no step left, the
second one makes none (`Stepper.walk_of_ended`). The equation holds of every stepper, and includes
the errors.

The second trace begins with the configuration that the first one ends with, and counts its steps
from zero. It is compared with the rest of the long trace by `Stepper.walk_map`: a walk goes by the
current configuration alone, so it can be moved along any function that keeps this one.

What a trace records is a chain of single steps (`Trace.Records`). This is an invariant of the walk:
each step puts one configuration in front (`Stepper.Walk.Records.advance`).
-/

namespace WhileLang

namespace Stepper

variable {st : Stepper} {record : Bool}

/-! ## Walks in two parts -/

/-- A walk that has ended stays where it is. -/
theorem walk_of_ended {w : Walk} (hstep : st.step w.current = .ok none)
    (hskip : w.current.command.isSkip = true) (limit : Nat) : st.walk record limit w = .ok w := by
  cases limit with
  | zero => rfl
  | succ limit => simp only [walk, hstep, if_pos hskip]

theorem walk_add (m n : Nat) (w : Walk) :
    st.walk record (m + n) w = st.walk record m w >>= st.walk record n := by
  induction m generalizing w with
  | zero =>
    rw [Nat.zero_add]
    rfl
  | succ m ih =>
    rw [Nat.add_right_comm]
    simp only [walk]
    cases hstep : st.step w.current with
    | error e => rfl
    | ok next =>
      cases next with
      | some b => exact ih (w.advance record b)
      | none =>
        by_cases hskip : w.current.command.isSkip = true
        · simp only [if_pos hskip]
          exact (walk_of_ended hstep hskip n).symm
        · simp only [if_neg hskip]
          rfl

/-- Walks go by where they are: a function of walks that keeps the current configuration, and that
commutes with single steps, commutes with all steps. -/
theorem walk_map {record' : Bool} {f : Walk → Walk} (hcurrent : ∀ w, (f w).current = w.current)
    (hadvance : ∀ w b, (f w).advance record' b = f (w.advance record b)) (limit : Nat) (w : Walk) :
    st.walk record' limit (f w) = (st.walk record limit w).map f := by
  induction limit generalizing w with
  | zero => rfl
  | succ limit ih =>
    simp only [walk, hcurrent]
    cases st.step w.current with
    | error e => rfl
    | ok next =>
      cases next with
      | some b =>
        simp only [hadvance]
        exact ih (w.advance record b)
      | none =>
        by_cases hskip : w.current.command.isSkip = true
        · simp only [if_pos hskip]
          rfl
        · simp only [if_neg hskip]
          rfl

/-- A walk that has made no step and recorded nothing. -/
def Walk.fresh (a : Configuration) : Walk := ⟨a, 0, []⟩

/-- The walk `v`, with `w` before it. -/
def Walk.after (w v : Walk) : Walk := ⟨v.current, w.steps + v.steps, v.visited ++ w.visited⟩

/-- The walk without its record. -/
def Walk.forget (w : Walk) : Walk := ⟨w.current, w.steps, []⟩

/-- What comes before a walk is neither looked at nor changed. -/
theorem walk_eq_map_after (limit : Nat) (w : Walk) :
    st.walk record limit w = (st.walk record limit (.fresh w.current)).map w.after := by
  have hadvance (v : Walk) (b : Configuration) :
      (w.after v).advance record b = w.after (v.advance record b) := by
    cases record <;> rfl
  exact walk_map (f := w.after) (fun _ => rfl) hadvance limit (.fresh w.current)

theorem walk_forget (limit : Nat) (w : Walk) :
    st.walk false limit w.forget = (st.walk record limit w).map Walk.forget :=
  walk_map (f := Walk.forget) (fun _ => rfl) (fun _ _ => rfl) limit w

end Stepper

/-! ## Traces in two parts -/

/-- One trace and then another, which begins where the first one ends. -/
def Trace.append (tr tr' : Trace) : Trace :=
  ⟨tr.configurations ++ tr'.configurations.tail, tr.steps + tr'.steps, tr'.terminated, tr'.final⟩

namespace Stepper

theorem Walk.toTrace_after (w v : Walk) :
    (w.after v).toTrace =
      w.toTrace.append (Walk.after ⟨w.current, 0, [w.current]⟩ v).toTrace := by
  simp [toTrace, after, Trace.append]

/-- **Resuming.** A trace may be cut anywhere. -/
theorem trace_add (st : Stepper) (a : Configuration) (m n : Nat) :
    st.trace true a (m + n) = (do
      let tr ← st.trace true a m
      let tr' ← st.trace true tr.final n
      return tr.append tr') := by
  rw [← Int.natCast_add, trace_natCast, trace_natCast, walk_add]
  cases hw : st.walk true m ⟨a, 0, if true then [a] else []⟩ with
  | error e => rfl
  | ok w =>
    show (st.walk true n w).map Walk.toTrace =
      (st.trace true w.current n).map fun tr' => w.toTrace.append tr'
    rw [trace_natCast, walk_eq_map_after, walk_eq_map_after n ⟨w.current, 0, _⟩]
    cases st.walk true n (.fresh w.current) with
    | error e => rfl
    | ok v => exact congrArg Except.ok (w.toTrace_after v)

/-- Without its record a trace is the same. -/
theorem trace_false (st : Stepper) (a : Configuration) (limit : Int) :
    st.trace false a limit =
      (st.trace true a limit).map fun tr => { tr with configurations := [] } := by
  rw [trace, trace]
  by_cases hlimit : limit < 0
  · rw [if_pos hlimit, if_pos hlimit]
    rfl
  · rw [if_neg hlimit, if_neg hlimit]
    have h : st.walk false limit.toNat (Walk.forget ⟨a, 0, [a]⟩) =
        (st.walk true limit.toNat ⟨a, 0, [a]⟩).map Walk.forget := walk_forget _ _
    simp only [Bool.false_eq_true, if_false, if_true]
    rw [show (⟨a, 0, []⟩ : Walk) = Walk.forget ⟨a, 0, [a]⟩ from rfl, h]
    cases st.walk true limit.toNat ⟨a, 0, [a]⟩ <;> rfl

end Stepper

/-! ## What is recorded -/

/-- The trace has recorded every step of a run from `a`. -/
structure Trace.Records (st : Stepper) (a : Configuration) (tr : Trace) : Prop where
  head : tr.configurations.head? = some a
  last : tr.configurations.getLast? = some tr.final
  length : tr.configurations.length = tr.steps + 1
  chain : tr.configurations.IsChain fun b c => st.step b = .ok (some c)

namespace Stepper

variable {st : Stepper} {a : Configuration}

/-- The walk has recorded every step of a run from `a`, the latest first. -/
structure Walk.Records (st : Stepper) (a : Configuration) (w : Walk) : Prop where
  head : w.visited.head? = some w.current
  last : w.visited.getLast? = some a
  length : w.visited.length = w.steps + 1
  chain : w.visited.IsChain fun c b => st.step b = .ok (some c)

namespace Walk.Records

variable {w : Walk}

theorem advance (h : w.Records st a) {b : Configuration}
    (hb : st.step w.current = .ok (some b)) : (w.advance true b).Records st a where
  head := rfl
  last := by
    have hne : w.visited ≠ [] := List.ne_nil_of_mem (List.mem_of_head? h.head)
    show (b :: w.visited).getLast? = some a
    rw [List.getLast?_cons_of_ne_nil hne, h.last]
  length := congrArg (· + 1) h.length
  chain := by
    refine List.isChain_cons.2 ⟨fun c hc => ?_, h.chain⟩
    rw [h.head] at hc
    rwa [← Option.some.inj hc]

theorem walk (h : w.Records st a) {limit : Nat} {w' : Walk}
    (hw : st.walk true limit w = .ok w') : w'.Records st a := by
  induction limit generalizing w with
  | zero => exact Except.ok.inj hw ▸ h
  | succ limit ih =>
    simp only [Stepper.walk] at hw
    cases hstep : st.step w.current with
    | error e =>
      rw [hstep] at hw
      cases hw
    | ok next =>
      rw [hstep] at hw
      cases next with
      | some b => exact ih (h.advance hstep) hw
      | none =>
        by_cases hskip : w.current.command.isSkip = true
        · simp only [if_pos hskip] at hw
          exact Except.ok.inj hw ▸ h
        · simp only [if_neg hskip] at hw
          cases hw

theorem toTrace (h : w.Records st a) : w.toTrace.Records st a where
  head := List.head?_reverse.trans h.last
  last := List.getLast?_reverse.trans h.head
  length := List.length_reverse.trans h.length
  chain := List.isChain_reverse.2 h.chain

end Walk.Records

/-- **Records.** A trace that is recorded shows the run step by step. -/
theorem records_of_trace_eq {limit : Nat} {tr : Trace} (h : st.trace true a limit = .ok tr) :
    tr.Records st a := by
  rw [trace_natCast] at h
  obtain ⟨w, hw, rfl⟩ := map_eq_ok_iff.1 h
  have hstart : Walk.Records st a ⟨a, 0, [a]⟩ := ⟨rfl, rfl, rfl, .singleton a⟩
  exact (hstart.walk hw).toTrace

end Stepper

/-- **Traces can be cut and resumed anywhere.** The trace of at most `m + n` steps ends as the trace
of at most `n` steps does that starts where the trace of at most `m` steps has stopped; the steps of
the two are added, and of their records the second one is put behind the first, without the
configuration in which they meet. A record goes from the first to the final configuration step by
step. Ending means to be at `skip`, and only a trace that has ended stays below its limit; and
whether there is a record makes no other difference. -/
theorem traces_resume (ev : Evaluator) (a : Configuration) (m n : Nat) :
    ∃ tr tr' whole : Trace,
      (Stepper.standard ev).trace true a m = .ok tr ∧
      (Stepper.standard ev).trace true tr.final n = .ok tr' ∧
      (Stepper.standard ev).trace true a (m + n) = .ok whole ∧
      whole.final = tr'.final ∧ whole.terminated = tr'.terminated ∧
      whole.steps = tr.steps + tr'.steps ∧
      whole.configurations = tr.configurations ++ tr'.configurations.tail ∧
      tr.Records (Stepper.standard ev) a ∧
      (tr.terminated = true ↔ tr.final.command = .skip) ∧
      tr.steps ≤ m ∧ (tr.steps < m → tr.terminated = true) ∧
      (Stepper.standard ev).trace false a m = .ok { tr with configurations := [] } := by
  obtain ⟨tr, htr, hf⟩ := Stepper.exists_trace_eq ev true a m
  obtain ⟨tr', htr', -⟩ := Stepper.exists_trace_eq ev true tr.final n
  refine ⟨tr, tr', tr.append tr', htr, htr', ?_, rfl, rfl, rfl, rfl,
    Stepper.records_of_trace_eq htr, hf.terminated_iff, hf.steps_le,
    fun hlt => hf.terminated_iff.2 (hf.skip_of_lt hlt), ?_⟩
  · rw [Stepper.trace_add, htr]
    simp only [bind, Except.bind, htr']
    rfl
  · rw [Stepper.trace_false, htr]
    rfl

end WhileLang

import WhileLang.Proofs.Costs
import WhileLang.Proofs.Locality

/-!
# What a command ensures

`c.Ensures ev s Q` is total correctness: from `s` the command ends, in a state with the property
`Q`. What a straight-line command ensures can be computed (`ensures_assign_iff`,
`ensures_seq_iff`). A loop has two rules, one for each of the things it may do: if its turns keep an
invariant and lower a variant, it ends (`ensures_loop`), and if they keep an invariant under which
its condition holds, it does not (`not_ensures_loop`).

A command ends in all semantics or in none of them. `Ends` and `Diverges` say what that means for
every budget and every limit on the number of steps; a command that ensures something is of the
first kind, and one that ensures nothing is of the second (`ensures_iff_ends`,
`diverges_iff_not_ensures`).
-/

namespace WhileLang

namespace Command

variable {ev : Evaluator} {c c₁ c₂ : Command} {s t : State} {b : BExp} {P Q I : State → Prop}

/-- The command ends, on some budget, in a state with the property `Q`. -/
def Ensures (ev : Evaluator) (c : Command) (s : State) (Q : State → Prop) : Prop :=
  ∃ (k : Nat) (t : State), c.interp ev k s = some t ∧ Q t

theorem Ensures.mono (h : c.Ensures ev s P) (hPQ : ∀ t, P t → Q t) : c.Ensures ev s Q := by
  obtain ⟨k, t, hk, ht⟩ := h
  exact ⟨k, t, hk, hPQ t ht⟩

/-- There is only one state that a command may end in. -/
theorem Ensures.of_interp (h : c.Ensures ev s Q) {k : Nat} (hk : c.interp ev k s = some t) :
    Q t := by
  obtain ⟨j, u, hj, hu⟩ := h
  rwa [interp_unique hk hj]

/-- Variables that the command does not assign keep their values. -/
theorem Ensures.frame (h : c.Ensures ev s Q) :
    c.Ensures ev s fun t => Q t ∧ ∀ x, ¬ c.Assigns x → t.lookup x = s.lookup x := by
  obtain ⟨k, t, hk, ht⟩ := h
  exact ⟨k, t, hk, ht, fun x hx => lookup_of_interp hk hx⟩

/-! ## Straight-line commands -/

theorem ensures_skip_iff : skip.Ensures ev s Q ↔ Q s :=
  ⟨fun h => h.of_interp (interp_skip 0 s), fun h => ⟨1, s, interp_skip 0 s, h⟩⟩

theorem ensures_assign_iff {x : Ident} {e : AExp} :
    (assign x e).Ensures ev s Q ↔ Q (s.update x (ev.aexp s e)) := by
  constructor
  · intro h
    exact h.of_interp (interp_assign 0 x e s)
  · intro h
    exact ⟨1, _, interp_assign 0 x e s, h⟩

theorem ensures_seq_iff :
    (seq c₁ c₂).Ensures ev s Q ↔ c₁.Ensures ev s fun u => c₂.Ensures ev u Q := by
  constructor
  · rintro ⟨k, t, hk, ht⟩
    obtain ⟨k, rfl⟩ := exists_eq_succ_of_interp hk
    rw [interp_seq] at hk
    obtain ⟨u, hu, hk⟩ := Option.bind_eq_some_iff.1 hk
    exact ⟨k, u, hu, k, t, hk, ht⟩
  · rintro ⟨j, u, hj, k, t, hk, ht⟩
    refine ⟨max j k + 1, t, ?_, ht⟩
    rw [interp_seq, interp_mono (Nat.le_max_left j k) hj, Option.bind_some,
      interp_mono (Nat.le_max_right j k) hk]

/-! ## Loops -/

theorem ensures_loop_of_false (hb : ev.bexp s b = false) :
    (loop b c).Ensures ev s Q ↔ Q s := by
  have hend : (loop b c).interp ev 1 s = some s := by
    rw [interp_loop, if_neg (ne_true_of_eq_false hb)]
  exact ⟨fun h => h.of_interp hend, fun h => ⟨1, s, hend, h⟩⟩

/-- A turn is paid for like a sequence. -/
theorem interp_loop_of_true (hb : ev.bexp s b = true) (k : Nat) :
    (loop b c).interp ev k s = (seq c (loop b c)).interp ev k s := by
  cases k with
  | zero => rw [interp_zero, interp_zero]
  | succ k => rw [interp_loop, if_pos hb, interp_seq]

theorem ensures_loop_of_true (hb : ev.bexp s b = true) :
    (loop b c).Ensures ev s Q ↔ c.Ensures ev s fun u => (loop b c).Ensures ev u Q := by
  rw [← ensures_seq_iff]
  simp only [Ensures, interp_loop_of_true hb]

/-- **Loops that end.** Each turn keeps the invariant and lowers the variant. -/
theorem ensures_loop (variant : State → Nat)
    (turn : ∀ u, I u → ev.bexp u b = true → c.Ensures ev u fun t => I t ∧ variant t < variant u)
    (hs : I s) : (loop b c).Ensures ev s fun t => I t ∧ ev.bexp t b = false := by
  induction hn : variant s using Nat.strongRecOn generalizing s with
  | ind n ih =>
    cases hb : ev.bexp s b with
    | false => exact (ensures_loop_of_false hb).2 ⟨hs, hb⟩
    | true =>
      rw [ensures_loop_of_true hb]
      refine (turn s hs hb).mono ?_
      rintro t ⟨ht, hless⟩
      exact ih (variant t) (hn ▸ hless) ht rfl

/-- **Loops that do not end.** Each turn keeps the invariant, and the condition holds under it. -/
theorem not_ensures_loop (turn : ∀ u, I u → ev.bexp u b = true ∧ c.Ensures ev u I) (hs : I s) :
    ¬ (loop b c).Ensures ev s Q := by
  rintro ⟨k, t, hk, -⟩
  -- The next turn starts with less of the budget.
  induction k generalizing s with
  | zero =>
    rw [interp_zero] at hk
    cases hk
  | succ k ih =>
    obtain ⟨hb, hc⟩ := turn s hs
    rw [interp_loop, if_pos hb] at hk
    obtain ⟨u, hu, hk⟩ := Option.bind_eq_some_iff.1 hk
    exact ih (hc.of_interp hu) hk

/-! ## All semantics -/

/-- From `s` the command ends in `t`, whichever semantics is asked: it needs the budget `budget` and
takes `steps` small steps. -/
def Ends (ev : Evaluator) (c : Command) (s t : State) (budget steps : Nat) : Prop :=
  ∃ d : Derivation, d.command = c ∧ d.pre = s ∧ d.post = t ∧ d.Costs ev budget steps

/-- From `s` no budget suffices, and the command takes as many small steps as it is allowed to. -/
structure Diverges (ev : Evaluator) (c : Command) (s : State) : Prop where
  interp (k : Nat) : Interpreter.standard ev k c s = .ok none
  build (k : Nat) : Derivation.build ev k s c = .ok none
  trace (record : Bool) (limit : Nat) : ∃ tr : Trace,
    (Stepper.standard ev).trace record ⟨c, s⟩ limit = .ok tr ∧ tr.terminated = false ∧
      tr.steps = limit

/-- What a derivation shows to be the end. -/
theorem Ends.of_proof {d : Derivation} (h : d.Proof ev) :
    d.command.Ends ev d.pre d.post d.height d.stepCount :=
  ⟨d, rfl, rfl, rfl, h.costs⟩

theorem Ends.interp_eq {budget steps : Nat} (h : c.Ends ev s t budget steps) :
    c.interp ev budget s = some t := by
  obtain ⟨d, rfl, rfl, rfl, hcosts⟩ := h
  have hinterp := hcosts.interp budget
  rw [Interpreter.standard_natCast, if_pos (Nat.le_refl budget)] at hinterp
  exact Except.ok.inj hinterp

/-- **What is ensured is so in all semantics.** -/
theorem ensures_iff_ends :
    c.Ensures ev s Q ↔ ∃ t budget steps, c.Ends ev s t budget steps ∧ Q t := by
  constructor
  · rintro ⟨k, t, hk, ht⟩
    obtain ⟨d, ⟨p, hc, hs, -⟩, hpost⟩ := interp_eq_some_iff.1 hk
    refine ⟨t, d.height, d.stepCount, ?_, ht⟩
    rw [← hc, ← hs, ← hpost]
    exact .of_proof p
  · rintro ⟨t, budget, steps, h, ht⟩
    exact ⟨budget, t, h.interp_eq, ht⟩

/-- **A command diverges in all semantics** if it does not end in one of them. -/
theorem diverges_iff_not_ensures : c.Diverges ev s ↔ ¬ c.Ensures ev s fun _ => True := by
  constructor
  · rintro h ⟨k, t, hk, -⟩
    have hnone := h.interp k
    rw [Interpreter.standard_natCast, hk] at hnone
    cases hnone
  · intro h
    have hnone (k : Nat) : c.interp ev k s = none :=
      Option.eq_none_iff_forall_ne_some.2 fun t ht => h ⟨k, t, ht, trivial⟩
    refine ⟨fun k => ?interp, fun k => ?build, fun record limit => ?trace⟩
    case interp => rw [Interpreter.standard_natCast, hnone]
    case build =>
      have hderive := hnone k
      rw [interp_eq_map_derive, Option.map_eq_none_iff] at hderive
      rw [Derivation.build_natCast, hderive]
    case trace =>
      obtain ⟨tr, htr, hf⟩ := Stepper.exists_trace_eq ev record ⟨c, s⟩ limit
      have hrunning : ¬ tr.terminated = true := fun ht => h ⟨_, _, hf.interp_eq ht, trivial⟩
      refine ⟨tr, htr, eq_false_of_ne_true hrunning, Nat.le_antisymm hf.steps_le ?_⟩
      exact Nat.not_lt.1 fun hlt => hrunning (hf.terminated_iff.2 (hf.skip_of_lt hlt))

end Command

end WhileLang

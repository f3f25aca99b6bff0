import WhileLang.Proofs.Printing.Block
import WhileLang.Proofs.Printing.Decomposition

/-!
# What a text determines

Where no variable has a name, the text of a command determines it up to the grouping of its
sequences, whether it is written on one line or on several (`Command.sameText_inline_iff`,
`Command.sameText_block_iff`), the text of a state determines the state (`State.sameText_iff`), and
the text of a configuration determines both (`Configuration.sameText_iff`). There is a text unless
one of the integers is too long to be written.

Regrouped configurations run in lock step, so a text also determines how a run goes on
(`Configuration.Reassoc.sameRun`): under every limit, traces from configurations with one text take
equally many steps, end or are cut off together and show the same texts.
-/

namespace WhileLang

open Token

/-! ## Commands -/

namespace Command

variable {c d : Command}

theorem sameText_inline_iff : SameText (c.inline ∅) (d.inline ∅) ↔
    c.Reassoc d ∧ c.integers.all Text.isWritable = true := by
  rw [inline_eq, inline_eq, Token.sameText_iff c.spaced_tokens d.spaced_tokens,
    all_isWritable_tokens]
  refine and_congr_left fun _ => ⟨fun h => ?_, Reassoc.tokens_eq⟩
  have htokens : c.tokens ++ [] = d.tokens ++ [] := by rw [h]
  exact (tokens_append_inj (by simp) (by simp) htokens).1

theorem inline_eq_error (h : ¬ c.integers.all Text.isWritable) :
    c.inline ∅ = .error .numberTooLong := by
  rw [inline_eq, texts_empty, all_isWritable_tokens, if_neg h]

theorem blockLines_eq_error (h : ¬ c.integers.all Text.isWritable) :
    c.blockLines ∅ 0 = .error .numberTooLong := by
  have hinline := inline_eq_error h
  rw [inline_eq_map_blockLines c 0] at hinline
  cases hlines : c.blockLines ∅ 0 with
  | error e =>
    rw [hlines] at hinline
    exact congrArg _ (Except.error.inj hinline)
  | ok lines =>
    rw [hlines] at hinline
    cases hinline

theorem block_eq_error (h : ¬ c.integers.all Text.isWritable) :
    c.block ∅ = .error .numberTooLong := by
  rw [block, blockLines_eq_error h]
  rfl

theorem sameText_block_iff : SameText (c.block ∅) (d.block ∅) ↔
    c.Reassoc d ∧ c.integers.all Text.isWritable = true := by
  refine ⟨fun h => sameText_inline_iff.1 (sameText_inline_of_block h), fun h => ?_⟩
  obtain ⟨text, hc, -⟩ := sameText_inline_iff.2 h
  rw [inline_eq_map_blockLines c 0] at hc
  obtain ⟨lines, hlines, -⟩ := map_eq_ok_iff.1 hc
  have hblock : c.block ∅ = .ok ("\n".intercalate lines) := by
    rw [block, hlines]
    rfl
  refine ⟨_, hblock, ?_⟩
  rw [block, ← h.1.blockLines_eq]
  exact hblock

end Command

/-! ## States -/

namespace State

theorem sameText_iff {s t : State} : SameText (s.render ∅) (t.render ∅) ↔
    s = t ∧ s.integers.all Text.isWritable = true := by
  rw [render_eq, render_eq, Token.sameText_iff s.spaced_tokens t.spaced_tokens,
    all_isWritable_tokens]
  refine and_congr_left fun _ => ⟨fun h => ?_, congrArg tokens⟩
  exact ext_bindings (Binding.tokens_append_inj (List.cons.inj h).2).1

theorem render_eq_error {s : State} (h : ¬ s.integers.all Text.isWritable) :
    s.render ∅ = .error .numberTooLong := by
  rw [render_eq, texts_empty, all_isWritable_tokens, if_neg h]

theorem mem_integers_update (s : State) (x : Ident) {v : Int} (hv : v ≠ 0) :
    v ∈ (s.update x v).integers := by
  have hbound : (x, v) ∈ (s.update x v).bindings :=
    (Binding.mem_iff_lookup (s.update x v).sorted (s.update x v).nonZero x v).2
      ⟨s.lookup_update_self x v, hv⟩
  exact List.mem_flatMap.2 ⟨_, hbound, by simp⟩

/-- A state that binds a number that is too long has none. -/
theorem not_all_isWritable_update (s : State) (x : Ident) {v : Int}
    (hv : Text.isWritable v = false) : ¬ (s.update x v).integers.all Text.isWritable := by
  have hzero : v ≠ 0 := by
    rintro rfl
    exact absurd hv (by decide +kernel)
  intro h
  rw [List.all_eq_true.1 h v (s.mem_integers_update x hzero)] at hv
  cases hv

end State

/-! ## Configurations -/

namespace Configuration

variable {a b : Configuration}

theorem sameText_iff : SameText (a.render ∅) (b.render ∅) ↔
    a.Reassoc b ∧ a.integers.all Text.isWritable = true := by
  rw [render_eq, render_eq, Token.sameText_iff a.spaced_tokens b.spaced_tokens,
    all_isWritable_tokens]
  exact and_congr_left fun _ => ⟨reassoc_of_tokens_eq, Reassoc.tokens_eq⟩

theorem render_eq_error (h : ¬ a.integers.all Text.isWritable) :
    a.render ∅ = .error .numberTooLong := by
  rw [render_eq, texts_empty, all_isWritable_tokens, if_neg h]

theorem Reassoc.map_render_eq {as bs : List Configuration} (h : List.Forall₂ Reassoc as bs)
    (names : Names) : bs.map (·.render names) = as.map (·.render names) := by
  refine map_eq_of_forall₂ h fun a b hab => ?_
  rw [render_eq, render_eq, hab.tokens_eq]

/-- **Regrouped configurations go the same way.** A trace is found from both of them. -/
theorem Reassoc.sameRun (h : a.Reassoc b) (ev : Evaluator) (record : Bool) (limit : Nat) :
    ∃ tr tr', (Stepper.standard ev).trace record a limit = .ok tr ∧
      (Stepper.standard ev).trace record b limit = .ok tr' ∧ tr.Related Reassoc tr' :=
  (Command.Reassoc.lockStep ev).exists_traces_eq h record limit

end Configuration

/-! ## The text of a program -/

/-- **The printed program determines its behaviour.** Commands have one text, on one line or on
several, exactly if they differ in the grouping of sequences only and their integers are short
enough to be written, and configurations have one text exactly if in addition their states are
equal; where an integer is too long, there is none. From configurations with one text all traces
take equally many steps and end alike, and whatever the variables are called, they show the same
texts or fail to do so at the same places. A negative limit is refused for both. -/
theorem text_determines_behaviour :
    (∀ c d : Command,
      (SameText (c.inline ∅) (d.inline ∅) ↔ SameText (c.block ∅) (d.block ∅)) ∧
      (SameText (c.block ∅) (d.block ∅) ↔
        c.Reassoc d ∧ c.integers.all Text.isWritable = true)) ∧
    (∀ a b : Configuration, SameText (a.render ∅) (b.render ∅) ↔
      a.state = b.state ∧ a.command.Reassoc b.command ∧
        a.integers.all Text.isWritable = true) ∧
    ((∀ c : Command, ¬ c.integers.all Text.isWritable →
        c.inline ∅ = .error .numberTooLong ∧ c.block ∅ = .error .numberTooLong) ∧
      ∀ a : Configuration, ¬ a.integers.all Text.isWritable →
        a.render ∅ = .error .numberTooLong) ∧
    ∀ a b : Configuration, SameText (a.render ∅) (b.render ∅) → ∀ (ev : Evaluator) (record : Bool),
      (∀ limit : Nat, ∃ tr tr', (Stepper.standard ev).trace record a limit = .ok tr ∧
        (Stepper.standard ev).trace record b limit = .ok tr' ∧ tr'.steps = tr.steps ∧
        tr'.terminated = tr.terminated ∧ ∀ names : Names,
          tr'.configurations.map (·.render names) = tr.configurations.map (·.render names)) ∧
      ∀ limit < 0, (Stepper.standard ev).trace record a limit = .error (.negativeStepLimit limit) ∧
        (Stepper.standard ev).trace record b limit = .error (.negativeStepLimit limit) := by
  refine ⟨fun c d => ⟨?_, Command.sameText_block_iff⟩, fun a b => ?_,
    ⟨fun c h => ⟨Command.inline_eq_error h, Command.block_eq_error h⟩,
      fun a => Configuration.render_eq_error⟩,
    fun a b h ev record => ⟨fun limit => ?_, fun limit hlimit => ⟨if_pos hlimit, if_pos hlimit⟩⟩⟩
  · rw [Command.sameText_inline_iff, Command.sameText_block_iff]
  · rw [Configuration.sameText_iff]
    exact ⟨fun h => ⟨h.1.state, h.1.command, h.2⟩, fun h => ⟨⟨h.2.1, h.1⟩, h.2.2⟩⟩
  · have hab : a.Reassoc b := (Configuration.sameText_iff.1 h).1
    obtain ⟨tr, tr', htr, htr', hrelated⟩ := hab.sameRun ev record limit
    exact ⟨tr, tr', htr, htr', hrelated.steps_eq, hrelated.terminated_eq,
      Configuration.Reassoc.map_render_eq hrelated.configurations⟩

/-- Two groupings around a loop: the commands differ, their texts do not, and seven steps of each
show the same texts. -/
theorem text_determines_behaviour_groupings :
    let body : Command := .loop (.lessEqual (.var 0) (.number 1)) (.assign 0 (.number 2))
    let a : Configuration := ⟨.seq (.seq (.assign 0 (.number (-1))) body) .skip, .initial⟩
    let b : Configuration := ⟨.seq (.assign 0 (.number (-1))) (.seq body .skip), .initial⟩
    a.command ≠ b.command ∧ SameText (a.render ∅) (b.render ∅) ∧
      ∃ tr tr', (Stepper.standard .standard).trace true a (7 : Nat) = .ok tr ∧
        (Stepper.standard .standard).trace true b (7 : Nat) = .ok tr' ∧ tr'.steps = tr.steps ∧
        tr'.terminated = tr.terminated ∧ ∀ names : Names,
          tr'.configurations.map (·.render names) = tr.configurations.map (·.render names) := by
  intro body a b
  have htext : SameText (a.render ∅) (b.render ∅) :=
    (text_determines_behaviour.2.1 a b).2 ⟨rfl, .assoc .., by decide +kernel⟩
  exact ⟨by decide, htext, (text_determines_behaviour.2.2.2 a b htext .standard true).1 7⟩

/-- A run that doubles `v` and then forgets it starts with a text, but passes a state that has
none. -/
theorem exists_trace_forgetting {v : Int} (hv : Text.isWritable v = true)
    (hsum : Text.isWritable (v + v) = false) :
    let a : Configuration :=
      ⟨.seq (.assign 0 (.plus (.number v) (.number v))) (.assign 0 (.number 0)), .initial⟩
    SameText (a.render ∅) (a.render ∅) ∧
      ∃ tr, (Stepper.standard .standard).trace true a (3 : Nat) = .ok tr ∧
        .error .numberTooLong ∈ tr.configurations.map (·.render ∅) := by
  intro a
  let forget : Command := .assign 0 (.number 0)
  let doubled : State := State.initial.update 0 (v + v)
  have hzero : Text.isWritable 0 = true := by decide +kernel
  have hshort : a.integers.all Text.isWritable = true := by
    simp [a, Configuration.integers, Command.integers, AExp.integers, State.integers,
      State.initial, hv, hzero]
  have hlong : ¬ (Configuration.mk forget doubled).integers.all Text.isWritable := by
    rw [Configuration.integers, List.all_append, Bool.and_eq_true]
    exact fun h => State.initial.not_all_isWritable_update 0 hsum h.2
  refine ⟨Configuration.sameText_iff.2 ⟨.refl a, hshort⟩, ⟨[_, ⟨.seq .skip forget, doubled⟩,
    ⟨forget, doubled⟩, _], 3, true, ⟨.skip, doubled.update 0 0⟩⟩, rfl, ?_⟩
  rw [← Configuration.render_eq_error hlong]
  exact List.mem_map_of_mem (by simp)

/-- A command with an integer that is too long has no text, although it is the same as itself. A
configuration with a text may pass one that has none: the sum has a digit more than the numbers. -/
theorem equal_programs_without_text :
    let c : Command := .assign 0 (.number Text.numeralBound)
    let v : Int := 5 * Text.powerOfTen 4299
    let a : Configuration :=
      ⟨.seq (.assign 0 (.plus (.number v) (.number v))) (.assign 0 (.number 0)), .initial⟩
    (c.Reassoc c ∧ ¬ SameText (c.inline ∅) (c.inline ∅)) ∧ SameText (a.render ∅) (a.render ∅) ∧
      ∃ tr, (Stepper.standard .standard).trace true a (3 : Nat) = .ok tr ∧
        .error .numberTooLong ∈ tr.configurations.map (·.render ∅) := by
  intro c v a
  have hhalf := Text.isWritable_half (n := 4299) rfl
  refine ⟨⟨.refl c, fun h => ?_⟩, exists_trace_forgetting hhalf.1 hhalf.2⟩
  have hshort : Text.isWritable Text.numeralBound = true :=
    List.all_eq_true.1 (Command.sameText_inline_iff.1 h).2 _
      (List.mem_cons_of_mem _ (List.mem_cons_self ..))
  exact absurd hshort (ne_true_of_eq_false Text.isWritable_numeralBound)

end WhileLang

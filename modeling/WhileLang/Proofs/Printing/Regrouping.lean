import WhileLang.Proofs.Printing.Text
import WhileLang.Proofs.Step.LockStep
import WhileLang.Proofs.Step.Run

/-!
# Commands up to the grouping of sequences

`c₁; c₂; c₃` can be grouped in two ways. Commands that differ only in such groupings, at any depth,
are `Reassoc`. They have the same texts, and they run in lock step: their next steps differ only in
groupings again (`Command.Reassoc.lockStep`).

Every command is `Reassoc` to the one that joins its parts to the right, where the parts are the
commands between the semicolons (`Command.Reassoc.inOrder_parts`).
-/

namespace WhileLang

namespace Command

/-- Equal up to the grouping of sequences, at any depth. -/
inductive Reassoc : Command → Command → Prop
  | refl (c : Command) : Reassoc c c
  | symm {c d : Command} (h : Reassoc c d) : Reassoc d c
  | trans {c d e : Command} (h₁ : Reassoc c d) (h₂ : Reassoc d e) : Reassoc c e
  | assoc (c₁ c₂ c₃ : Command) : Reassoc (seq (seq c₁ c₂) c₃) (seq c₁ (seq c₂ c₃))
  | seq {c₁ c₂ d₁ d₂ : Command} (h₁ : Reassoc c₁ d₁) (h₂ : Reassoc c₂ d₂) :
    Reassoc (seq c₁ c₂) (seq d₁ d₂)
  | branch (b : BExp) {c₁ c₂ d₁ d₂ : Command} (h₁ : Reassoc c₁ d₁) (h₂ : Reassoc c₂ d₂) :
    Reassoc (branch b c₁ c₂) (branch b d₁ d₂)
  | loop (b : BExp) {c d : Command} (h : Reassoc c d) : Reassoc (loop b c) (loop b d)

/-- The commands between the semicolons. -/
def parts : Command → List Command
  | seq c₁ c₂ => c₁.parts ++ c₂.parts
  | c => [c]

theorem parts_ne_nil (c : Command) : c.parts ≠ [] := by
  induction c with
  | seq c₁ c₂ ih₁ _ =>
    intro h
    exact ih₁ (List.append_eq_nil_iff.1 h).1
  | _ => exact List.cons_ne_nil _ _

/-- A part is no sequence. -/
theorem form_ne_seq_of_mem_parts {c p : Command} (h : p ∈ c.parts) : p.form ≠ .seq := by
  induction c with
  | seq c₁ c₂ ih₁ ih₂ => exact (List.mem_append.1 h).elim ih₁ ih₂
  | _ =>
    rw [List.mem_singleton.1 h]
    intro hform
    cases hform

theorem inOrder_cons {c : Command} {cs : List Command} (h : cs ≠ []) :
    inOrder (c :: cs) = .seq c (inOrder cs) := by
  cases cs with
  | nil => exact absurd rfl h
  | cons d cs => rfl

namespace Reassoc

variable {c d : Command}

theorem inOrder_append {cs ds : List Command} (hcs : cs ≠ []) (hds : ds ≠ []) :
    Reassoc (inOrder (cs ++ ds)) (.seq (inOrder cs) (inOrder ds)) := by
  induction cs with
  | nil => exact absurd rfl hcs
  | cons c cs ih =>
    by_cases hnil : cs = []
    · subst hnil
      rw [List.cons_append, List.nil_append, inOrder_cons hds]
      exact refl _
    · rw [List.cons_append, inOrder_cons (List.append_ne_nil_of_left_ne_nil hnil _),
        inOrder_cons hnil]
      exact ((refl c).seq (ih hnil)).trans (assoc ..).symm

/-- **A command and its parts.** -/
theorem inOrder_parts (c : Command) : Reassoc c (inOrder c.parts) := by
  induction c with
  | seq c₁ c₂ ih₁ ih₂ =>
    exact (ih₁.seq ih₂).trans (inOrder_append c₁.parts_ne_nil c₂.parts_ne_nil).symm
  | _ => exact refl _

end Reassoc

/-! ## Texts -/

theorem closeLast_ne_nil {lines : List String} (h : lines ≠ []) : closeLast lines ≠ [] := by
  cases lines with
  | nil => exact absurd rfl h
  | cons line rest => cases rest <;> exact List.cons_ne_nil _ _

theorem closeLast_append (xs : List String) {ys : List String} (h : ys ≠ []) :
    closeLast (xs ++ ys) = xs ++ closeLast ys := by
  induction xs with
  | nil => rfl
  | cons x xs ih =>
    have hne : xs ++ ys ≠ [] := List.append_ne_nil_of_right_ne_nil xs h
    rw [List.cons_append, List.cons_append, ← ih]
    cases hxs : xs ++ ys with
    | nil => exact absurd hxs hne
    | cons y rest => rfl

theorem blockLines_ne_nil {names : Names} {depth : Nat} {c : Command} {lines : List String}
    (h : c.blockLines names depth = .ok lines) : lines ≠ [] := by
  induction c generalizing depth lines with
  | skip =>
    cases h
    exact List.cons_ne_nil _ _
  | assign x e =>
    obtain ⟨text, -, hlines⟩ := bind_eq_ok_iff.1 h
    cases hlines
    exact List.cons_ne_nil _ _
  | seq c₁ c₂ ih₁ _ =>
    obtain ⟨lines₁, h₁, h⟩ := bind_eq_ok_iff.1 h
    obtain ⟨lines₂, -, hlines⟩ := bind_eq_ok_iff.1 h
    cases hlines
    exact List.append_ne_nil_of_left_ne_nil (closeLast_ne_nil (ih₁ h₁)) _
  | branch b c₁ c₂ _ _ =>
    obtain ⟨cond, -, h⟩ := bind_eq_ok_iff.1 h
    obtain ⟨lines₁, -, h⟩ := bind_eq_ok_iff.1 h
    obtain ⟨lines₂, -, hlines⟩ := bind_eq_ok_iff.1 h
    cases hlines
    exact List.cons_ne_nil _ _
  | loop b c _ =>
    obtain ⟨cond, -, h⟩ := bind_eq_ok_iff.1 h
    obtain ⟨lines, -, hlines⟩ := bind_eq_ok_iff.1 h
    cases hlines
    exact List.cons_ne_nil _ _

namespace Reassoc

theorem tokens_eq (h : Reassoc c d) : c.tokens = d.tokens := by
  induction h with
  | refl c => rfl
  | symm _ ih => exact ih.symm
  | trans _ _ ih₁ ih₂ => exact ih₁.trans ih₂
  | assoc c₁ c₂ c₃ => simp only [tokens, List.append_assoc, List.cons_append]
  | seq _ _ ih₁ ih₂ => rw [tokens, tokens, ih₁, ih₂]
  | branch b _ _ ih₁ ih₂ => rw [tokens, tokens, ih₁, ih₂]
  | loop b _ ih => rw [tokens, tokens, ih]

theorem blockLines_eq (h : Reassoc c d) (names : Names) (depth : Nat) :
    c.blockLines names depth = d.blockLines names depth := by
  induction h generalizing depth with
  | refl c => rfl
  | symm _ ih => exact (ih depth).symm
  | trans _ _ ih₁ ih₂ => exact (ih₁ depth).trans (ih₂ depth)
  | assoc c₁ c₂ c₃ =>
    simp only [blockLines, bind_assoc, pure_bind]
    refine bind_congr fun lines₁ => ?_
    cases h₂ : c₂.blockLines names depth with
    | error e => rfl
    | ok lines₂ =>
      show (do return closeLast (closeLast lines₁ ++ lines₂) ++ (← c₃.blockLines names depth)) =
        (do return closeLast lines₁ ++ (closeLast lines₂ ++ (← c₃.blockLines names depth)))
      simp only [closeLast_append _ (blockLines_ne_nil h₂), List.append_assoc]
  | seq _ _ ih₁ ih₂ => rw [blockLines, blockLines, ih₁, ih₂]
  | branch b _ _ ih₁ ih₂ => rw [blockLines, blockLines, ih₁, ih₂]
  | loop b _ ih => rw [blockLines, blockLines, ih]

end Reassoc

end Command

/-! ## Steps -/

/-- The same state, and a command that differs in the grouping of sequences. -/
structure Configuration.Reassoc (a b : Configuration) : Prop where
  command : a.command.Reassoc b.command
  state : a.state = b.state

namespace Configuration.Reassoc

variable {a b c : Configuration}

theorem refl (a : Configuration) : Reassoc a a := ⟨.refl _, rfl⟩

theorem symm (h : Reassoc a b) : Reassoc b a := ⟨h.command.symm, h.state.symm⟩

theorem trans (h₁ : Reassoc a b) (h₂ : Reassoc b c) : Reassoc a c :=
  ⟨h₁.command.trans h₂.command, h₁.state.trans h₂.state⟩

theorem forall₂_symm {as bs : List Configuration} (h : List.Forall₂ Reassoc as bs) :
    List.Forall₂ Reassoc bs as :=
  (h.imp fun _ _ => symm).flip

theorem forall₂_trans {as bs cs : List Configuration} (h₁ : List.Forall₂ Reassoc as bs)
    (h₂ : List.Forall₂ Reassoc bs cs) : List.Forall₂ Reassoc as cs := by
  induction h₁ generalizing cs with
  | nil => exact h₂
  | cons hab _ ih =>
    cases h₂ with
    | cons hbc h₂ => exact .cons (hab.trans hbc) (ih h₂)

theorem tokens_eq (h : Reassoc a b) : a.tokens = b.tokens := by
  rw [tokens, tokens, h.command.tokens_eq, h.state]

end Configuration.Reassoc

namespace Command.Reassoc

variable {c d : Command} {ev : Evaluator}

theorem form_eq (h : Reassoc c d) : d.form = c.form := by
  induction h with
  | symm _ ih => exact ih.symm
  | trans _ _ ih₁ ih₂ => exact ih₂.trans ih₁
  | _ => rfl

theorem isSkip_eq (h : Reassoc c d) : d.isSkip = c.isSkip := by
  rw [isSkip, isSkip, h.form_eq]

/-- **Next steps up to grouping.** A loop goes on with a sequence, which is grouped with what
follows the loop; all other commands of a step are parts of the ones before. -/
theorem successors (h : Reassoc c d) (s : State) :
    List.Forall₂ Configuration.Reassoc (c.successors ev s) (d.successors ev s) := by
  induction h generalizing s with
  | refl c => exact List.forall₂_same.2 fun a _ => .refl a
  | symm _ ih => exact Configuration.Reassoc.forall₂_symm (ih s)
  | trans _ _ ih₁ ih₂ => exact Configuration.Reassoc.forall₂_trans (ih₁ s) (ih₂ s)
  | assoc c₁ c₂ c₃ =>
    by_cases hskip : c₁ = skip
    · subst hskip
      rw [successors_seq (successors_skip_seq c₂ s), successors_skip_seq]
      exact .cons (.refl _) .nil
    · obtain ⟨next, hnext⟩ : ∃ next, c₁.successors ev s = [next] := exists_successors_eq hskip s
      rw [successors_seq (successors_seq hnext c₂), successors_seq hnext]
      exact .cons ⟨assoc .., rfl⟩ .nil
  | @seq c₁ c₂ d₁ d₂ h₁ h₂ ih₁ ih₂ =>
    by_cases hskip : c₁ = skip
    · obtain rfl : d₁ = skip := by rw [← isSkip_iff, h₁.isSkip_eq, isSkip_iff, hskip]
      rw [hskip, successors_skip_seq, successors_skip_seq]
      exact .cons ⟨h₂, rfl⟩ .nil
    · have hskip' : d₁ ≠ skip := by rwa [Ne, ← isSkip_iff, h₁.isSkip_eq, isSkip_iff]
      obtain ⟨next, hnext⟩ : ∃ next, c₁.successors ev s = [next] := exists_successors_eq hskip s
      obtain ⟨next', hnext'⟩ : ∃ next', d₁.successors ev s = [next'] :=
        exists_successors_eq hskip' s
      have hrelated := ih₁ s
      rw [hnext, hnext', List.forall₂_cons] at hrelated
      rw [successors_seq hnext, successors_seq hnext']
      exact .cons ⟨hrelated.1.command.seq h₂, hrelated.1.state⟩ .nil
  | branch b h₁ h₂ =>
    simp only [Command.successors]
    split
    · exact .cons ⟨h₁, rfl⟩ .nil
    · exact .cons ⟨h₂, rfl⟩ .nil
  | loop b h =>
    simp only [Command.successors]
    split
    · exact .cons ⟨h.seq (h.loop b), rfl⟩ .nil
    · exact .cons ⟨.refl _, rfl⟩ .nil

/-- **Lock step.** Regrouped configurations make the same steps, up to grouping. -/
theorem lockStep (ev : Evaluator) : (Stepper.standard ev).LockStep Configuration.Reassoc where
  form_eq h := h.command.form_eq
  successors {a b} h := by
    show List.Forall₂ _ (a.command.successors ev a.state) (b.command.successors ev b.state)
    rw [← h.state]
    exact h.command.successors a.state

end Command.Reassoc

end WhileLang

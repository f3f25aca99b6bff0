import WhileLang.Proofs.Printing.Regrouping
import WhileLang.Proofs.Printing.Text

/-!
# Blocks and lines

The text of a command on several lines and the text on one line differ in blanks only: with the
spaces in front of its lines taken away, and with a space for each line break, a block is the text
on one line, and there is a block exactly if there is such a text (`inline_eq_map_blockLines`). No
line of a block holds a line break, so a block determines its lines and with them the text on one
line (`sameText_inline_of_block`).
-/

namespace WhileLang

open Token

namespace Command

/-- The line without the spaces in front. -/
def unindent (line : String) : String := String.ofList (line.toList.dropWhile (· = ' '))

/-! ## Lines joined by spaces -/

theorem unindent_indent (depth : Nat) {text : String} (h : ∀ c ∈ text.toList.head?, c ≠ ' ') :
    unindent (indent depth ++ text) = text := by
  have hspaces : ∀ d ∈ List.replicate (2 * depth) ' ', decide (d = ' ') = true := by
    intro d hd
    rw [List.eq_of_mem_replicate hd]
    rfl
  have hkeep : text.toList.dropWhile (· = ' ') = text.toList := by
    cases htext : text.toList with
    | nil => rfl
    | cons c cs =>
      have hc : c ≠ ' ' := h c (by rw [htext]; rfl)
      rw [List.dropWhile_cons, decide_eq_false hc, if_neg Bool.false_ne_true]
  rw [unindent, indent, String.toList_append, String.toList_ofList,
    List.dropWhile_append_of_pos hspaces, hkeep, String.ofList_toList]

/-- A line of three parts, the first of which begins with no space. -/
theorem unindent_indent_append (depth : Nat) (a b c : String)
    (h : ∀ d ∈ (a ++ b ++ c).toList.head?, d ≠ ' ') :
    unindent (indent depth ++ a ++ b ++ c) = a ++ b ++ c := by
  have hassoc : indent depth ++ a ++ b ++ c = indent depth ++ (a ++ b ++ c) := by
    simp only [String.append_assoc]
  rw [hassoc, unindent_indent depth h]

theorem unindent_append_semicolon (line : String) :
    unindent (line ++ ";") = unindent line ++ ";" := by
  have hdrop (cs : List Char) :
      (cs ++ [';']).dropWhile (· = ' ') = cs.dropWhile (· = ' ') ++ [';'] := by
    induction cs with
    | nil => rfl
    | cons c cs ih =>
      by_cases hc : c = ' '
      · simp [hc, ih]
      · simp [hc]
  rw [unindent, unindent, String.toList_append, show ";".toList = [';'] from rfl, hdrop,
    String.ofList_append]

/-- The lines without the spaces in front of them, joined by single spaces. -/
def joined (lines : List String) : String := " ".intercalate (lines.map unindent)

theorem joined_cons (line : String) {rest : List String} (h : rest ≠ []) :
    joined (line :: rest) = unindent line ++ " " ++ joined rest := by
  rw [joined, List.map_cons, String.intercalate_cons_of_ne_nil (by simpa using h), joined]

theorem joined_append {lines rest : List String} (h : lines ≠ []) (h' : rest ≠ []) :
    joined (lines ++ rest) = joined lines ++ " " ++ joined rest := by
  rw [joined, List.map_append, String.intercalate_append_of_ne_nil (by simpa using h)
    (by simpa using h'), joined, joined]

theorem joined_closeLast {lines : List String} (h : lines ≠ []) :
    joined (closeLast lines) = joined lines ++ ";" := by
  induction lines with
  | nil => exact absurd rfl h
  | cons line rest ih =>
    cases rest with
    | nil => simp [joined, closeLast, unindent_append_semicolon]
    | cons line' rest =>
      have hne : line' :: rest ≠ [] := List.cons_ne_nil _ _
      rw [closeLast, joined_cons line (closeLast_ne_nil hne), ih hne, joined_cons line hne]
      · simp only [String.append_assoc]
      · exact hne

theorem joined_indent (depth : Nat) {text : String} (h : ∀ d ∈ text.toList.head?, d ≠ ' ') :
    joined [indent depth ++ text] = text := by
  rw [joined, List.map_singleton, String.intercalate_singleton, unindent_indent depth h]

theorem joined_seq {lines₁ lines₂ : List String} (h₁ : lines₁ ≠ []) (h₂ : lines₂ ≠ []) :
    joined (closeLast lines₁ ++ lines₂) = joined lines₁ ++ "; " ++ joined lines₂ := by
  rw [joined_append (closeLast_ne_nil h₁) h₂, joined_closeLast h₁]
  simp [← String.toList_inj]

theorem joined_loop (depth : Nat) (cond : String) {lines : List String} (h : lines ≠ []) :
    joined ((indent depth ++ "while " ++ cond ++ " do \x7b") ::
      (lines ++ [indent depth ++ "\x7d"])) =
        "while " ++ cond ++ " do \x7b " ++ joined lines ++ " \x7d" := by
  rw [joined_cons _ (by simp), joined_append h (by simp), joined_indent depth (by simp),
    unindent_indent_append depth _ _ _ (by simp)]
  simp [← String.toList_inj]

theorem joined_branch (depth : Nat) (cond : String) {lines₁ lines₂ : List String}
    (h₁ : lines₁ ≠ []) (h₂ : lines₂ ≠ []) :
    joined ((indent depth ++ "if " ++ cond ++ " then \x7b") :: (lines₁ ++
      (indent depth ++ "\x7d else \x7b") :: (lines₂ ++ [indent depth ++ "\x7d"]))) =
        "if " ++ cond ++ " then \x7b " ++ joined lines₁ ++ " \x7d else \x7b " ++ joined lines₂ ++
          " \x7d" := by
  rw [joined_cons _ (by simp), joined_append h₁ (by simp), joined_cons _ (by simp),
    joined_append h₂ (by simp), joined_indent depth (by simp),
    unindent_indent_append depth _ _ _ (by simp), unindent_indent depth (by simp)]
  simp [← String.toList_inj]

/-- **A block without its blanks.** -/
theorem inline_eq_map_blockLines (c : Command) (depth : Nat) :
    c.inline ∅ = (c.blockLines ∅ depth).map joined := by
  induction c generalizing depth with
  | skip => exact congrArg Except.ok (joined_indent depth (by simp)).symm
  | assign x e =>
    rw [blockLines]
    cases h : (assign x e).inline ∅ with
    | error error => rfl
    | ok text =>
      have htext : text.toList = write (assign x e).tokens :=
        toList_of_texts_eq ((inline_eq ∅ _).symm.trans h)
      refine congrArg Except.ok (joined_indent depth ?_).symm
      simp [htext, tokens, chars]
  | seq c₁ c₂ ih₁ ih₂ =>
    rw [inline, blockLines, ih₁ depth, ih₂ depth]
    cases h₁ : c₁.blockLines ∅ depth with
    | error e => rfl
    | ok lines₁ =>
      cases h₂ : c₂.blockLines ∅ depth with
      | error e => rfl
      | ok lines₂ =>
        exact congrArg Except.ok (joined_seq (blockLines_ne_nil h₁) (blockLines_ne_nil h₂)).symm
  | branch b c₁ c₂ ih₁ ih₂ =>
    rw [inline, blockLines, ih₁ (depth + 1), ih₂ (depth + 1)]
    cases b.render ∅ with
    | error e => rfl
    | ok cond =>
      cases h₁ : c₁.blockLines ∅ (depth + 1) with
      | error e => rfl
      | ok lines₁ =>
        cases h₂ : c₂.blockLines ∅ (depth + 1) with
        | error e => rfl
        | ok lines₂ =>
          exact congrArg Except.ok
            (joined_branch depth cond (blockLines_ne_nil h₁) (blockLines_ne_nil h₂)).symm
  | loop b c ih =>
    rw [inline, blockLines, ih (depth + 1)]
    cases b.render ∅ with
    | error e => rfl
    | ok cond =>
      cases h : c.blockLines ∅ (depth + 1) with
      | error e => rfl
      | ok lines => exact congrArg Except.ok (joined_loop depth cond (blockLines_ne_nil h)).symm

/-! ## Line breaks -/

theorem newline_not_mem_write (ts : List Token) : '\n' ∉ write ts := by
  have hnumeral (v : Int) : '\n' ∉ Text.numeral v := by
    intro h
    rcases Text.mem_numeral h with h | h <;> exact absurd h (by decide)
  induction ts with
  | nil => exact List.not_mem_nil
  | cons t ts ih =>
    rw [write_cons, List.mem_append, not_or]
    refine ⟨?_, ih⟩
    cases t with
    | sign s => cases s <;> decide
    | number v => exact hnumeral v
    | var x =>
      rw [chars, List.mem_cons, not_or]
      exact ⟨by decide, hnumeral x⟩

theorem newline_not_mem_indent (depth : Nat) : '\n' ∉ (indent depth).toList := by
  rw [indent, String.toList_ofList, List.mem_replicate]
  exact fun h => absurd h.2 (by decide)

theorem newline_not_mem_closeLast {lines : List String}
    (h : ∀ line ∈ lines, '\n' ∉ line.toList) : ∀ line ∈ closeLast lines, '\n' ∉ line.toList := by
  induction lines with
  | nil => exact h
  | cons line rest ih =>
    obtain ⟨hline, hrest⟩ := List.forall_mem_cons.1 h
    cases rest with
    | nil =>
      refine List.forall_mem_singleton.2 ?_
      rw [String.toList_append, List.mem_append, not_or]
      exact ⟨hline, by decide⟩
    | cons line' rest => exact List.forall_mem_cons.2 ⟨hline, ih hrest⟩

theorem newline_not_mem_of_texts_eq {ts : List Token} {text : String}
    (h : texts ∅ ts = .ok text) : '\n' ∉ text.toList := by
  rw [toList_of_texts_eq h]
  exact newline_not_mem_write ts

theorem newline_not_mem_blockLines {c : Command} {depth : Nat} {lines : List String}
    (h : c.blockLines ∅ depth = .ok lines) : ∀ line ∈ lines, '\n' ∉ line.toList := by
  have hcond {b : BExp} {cond : String} (h : b.render ∅ = .ok cond) : '\n' ∉ cond.toList :=
    newline_not_mem_of_texts_eq ((b.render_eq ∅).symm.trans h)
  have hindent := newline_not_mem_indent depth
  induction c generalizing depth lines with
  | skip =>
    cases h
    refine List.forall_mem_singleton.2 ?_
    simp [hindent]
  | assign x e =>
    obtain ⟨text, htext, hlines⟩ := bind_eq_ok_iff.1 h
    cases hlines
    have hnone := newline_not_mem_of_texts_eq ((inline_eq ∅ _).symm.trans htext)
    refine List.forall_mem_singleton.2 ?_
    simp [hindent, hnone]
  | seq c₁ c₂ ih₁ ih₂ =>
    obtain ⟨lines₁, h₁, h⟩ := bind_eq_ok_iff.1 h
    obtain ⟨lines₂, h₂, hlines⟩ := bind_eq_ok_iff.1 h
    cases hlines
    exact List.forall_mem_append.2 ⟨newline_not_mem_closeLast (ih₁ h₁ hindent), ih₂ h₂ hindent⟩
  | branch b c₁ c₂ ih₁ ih₂ =>
    obtain ⟨cond, hb, h⟩ := bind_eq_ok_iff.1 h
    obtain ⟨lines₁, h₁, h⟩ := bind_eq_ok_iff.1 h
    obtain ⟨lines₂, h₂, hlines⟩ := bind_eq_ok_iff.1 h
    cases hlines
    have hinner := newline_not_mem_indent (depth + 1)
    simp only [List.forall_mem_cons, List.forall_mem_append]
    refine ⟨?_, ih₁ h₁ hinner, ?_, ih₂ h₂ hinner, ?_⟩ <;> simp [hindent, hcond hb]
  | loop b c ih =>
    obtain ⟨cond, hb, h⟩ := bind_eq_ok_iff.1 h
    obtain ⟨lines, hc, hlines⟩ := bind_eq_ok_iff.1 h
    cases hlines
    have hinner := newline_not_mem_indent (depth + 1)
    simp only [List.forall_mem_cons, List.forall_mem_append]
    refine ⟨?_, ih hc hinner, ?_⟩ <;> simp [hindent, hcond hb]

/-- **The block determines the line.** -/
theorem sameText_inline_of_block {c d : Command} (h : SameText (c.block ∅) (d.block ∅)) :
    SameText (c.inline ∅) (d.inline ∅) := by
  obtain ⟨text, hc, hd⟩ := h
  have hsplit {c : Command} (h : c.block ∅ = .ok text) : ∃ lines, c.blockLines ∅ 0 = .ok lines ∧
      text.toList.splitOn '\n' = lines.map String.toList := by
    obtain ⟨lines, hlines, rfl⟩ := map_eq_ok_iff.1 h
    refine ⟨lines, hlines, ?_⟩
    rw [String.toList_intercalate]
    refine List.splitOn_intercalate '\n' ?_ ?_
    · intro l hl
      obtain ⟨line, hline, rfl⟩ := List.mem_map.1 hl
      exact newline_not_mem_blockLines hlines line hline
    · rw [Ne, List.map_eq_nil_iff]
      exact blockLines_ne_nil hlines
  obtain ⟨lines, hc, hlines⟩ := hsplit hc
  obtain ⟨lines', hd, hlines'⟩ := hsplit hd
  obtain rfl : lines = lines' :=
    List.map_injective_iff.2 (fun _ _ => String.toList_inj.1) (hlines.symm.trans hlines')
  refine ⟨joined lines, ?_, ?_⟩
  · rw [inline_eq_map_blockLines c 0, hc]
    rfl
  · rw [inline_eq_map_blockLines d 0, hd]
    rfl

end Command

end WhileLang

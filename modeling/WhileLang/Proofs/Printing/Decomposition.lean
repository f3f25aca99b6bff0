import WhileLang.Proofs.Printing.Regrouping
import WhileLang.Proofs.Printing.Text

/-!
# Reading tokens in one way

Where the tokens of two expressions, or of two conditions, begin one list of tokens, the expressions
are the same and so is what follows them, if neither is followed by a sign that could continue it
(`AExp.tokens_append_inj`, `BExp.tokens_append_inj`). The same holds of commands up to the grouping
of their sequences (`Command.tokens_append_inj`), which leaves no trace in the tokens.

Sums and differences are nested to the left and sequences in any way, so their tokens do not tell at
once where the first part ends. An expression is therefore compared together with the operands that
are still to come (`AExp.operands`), and a command as the list of its parts (`Command.parts`).
-/

namespace WhileLang

open Token

/-- The list does not go on with one of the signs. -/
def Token.Avoids (signs : List Sign) (ts : List Token) : Prop :=
  ∀ s ∈ signs, ts.head? ≠ some (sign s)

@[simp] theorem Token.avoids_nil (signs : List Sign) : Avoids signs [] := fun _ _ h => by cases h

@[simp] theorem Token.avoids_sign {signs : List Sign} {s : Sign} {ts : List Token} :
    Avoids signs (sign s :: ts) ↔ s ∉ signs := by
  constructor
  · intro h hs
    exact h s hs rfl
  · intro h t ht heq
    obtain rfl : s = t := by simpa using heq
    exact h ht

theorem Token.Avoids.mono {signs signs' : List Sign} {ts : List Token} (h : Avoids signs ts)
    (hsub : signs' ⊆ signs) : Avoids signs' ts := fun s hs => h s (hsub hs)

/-! ## Expressions -/

namespace AExp

/-- The operators between operands. -/
inductive Operator where
  | plus
  | minus

def Operator.sign : Operator → Sign
  | plus => .plus
  | minus => .minus

def Operator.apply : Operator → AExp → AExp → AExp
  | plus => .plus
  | minus => .minus

/-- The signs that continue an expression. -/
abbrev operators : List Sign := [.plus, .minus]

theorem Operator.sign_mem (o : Operator) : o.sign ∈ operators := by
  cases o <;> decide

theorem Operator.sign_inj {o o' : Operator} (h : o.sign = o'.sign) : o = o' := by
  cases o <;> cases o' <;> first | rfl | cases h

/-- An expression as the right operand of an operator. -/
def operand (e : AExp) : List Token := enclose e.isCompound e.tokens

/-- The operators and right operands that follow an expression. -/
def operands (w : List (Operator × AExp)) : List Token :=
  w.flatMap fun p => sign p.1.sign :: p.2.operand

/-- The expression that `e` becomes with the operands that follow it. -/
def continued (e : AExp) (w : List (Operator × AExp)) : AExp :=
  w.foldl (fun l p => p.1.apply l p.2) e

/-- Tokens that begin with those of `e` as an operand have no other operand at their front. -/
def OperandDetermined (e : AExp) : Prop :=
  ∀ e' q q', e.operand ++ q = e'.operand ++ q' → e = e' ∧ q = q'

/-- Tokens that begin with those of `e` and operands behind it make one expression only. -/
def Determined (e : AExp) : Prop :=
  ∀ w, (∀ p ∈ w, OperandDetermined p.2) → ∀ e' w' q q', Avoids operators q → Avoids operators q' →
    e.tokens ++ (operands w ++ q) = e'.tokens ++ (operands w' ++ q') →
      continued e w = continued e' w' ∧ q = q'

@[simp] theorem operands_cons (p : Operator × AExp) (w : List (Operator × AExp)) :
    operands (p :: w) = sign p.1.sign :: (p.2.operand ++ operands w) :=
  List.flatMap_cons

theorem tokens_apply (o : Operator) (l r : AExp) (w : List (Operator × AExp)) (q : List Token) :
    (o.apply l r).tokens ++ (operands w ++ q) = l.tokens ++ (operands ((o, r) :: w) ++ q) := by
  cases o <;> simp [Operator.apply, Operator.sign, tokens, operand]

/-- An expression does not begin with a sign. -/
@[simp] theorem tokens_append_ne_sign (e : AExp) (s : Sign) (p q : List Token) :
    e.tokens ++ p ≠ sign s :: q := by
  induction e generalizing p with
  | number v => simp [tokens]
  | var x => simp [tokens]
  | plus l r ih => exact fun h => ih _ ((tokens_apply .plus l r [] p).symm.trans h)
  | minus l r ih => exact fun h => ih _ ((tokens_apply .minus l r [] p).symm.trans h)

@[simp] theorem sign_ne_tokens_append (e : AExp) (s : Sign) (p q : List Token) :
    sign s :: q ≠ e.tokens ++ p :=
  (e.tokens_append_ne_sign s p q).symm

theorem atom_append_inj {e e' : AExp} (he : e.isCompound = false) (he' : e'.isCompound = false)
    {q q' : List Token} (h : e.tokens ++ q = e'.tokens ++ q') : e = e' ∧ q = q' := by
  cases e <;> cases e' <;> simp_all [tokens, isCompound]

/-- What follows an expression is cut at its operators in one way. -/
theorem operands_append_inj {w w' : List (Operator × AExp)} {q q' : List Token}
    (hw : ∀ p ∈ w, OperandDetermined p.2) (hq : Avoids operators q) (hq' : Avoids operators q')
    (h : operands w ++ q = operands w' ++ q') : w = w' ∧ q = q' := by
  have hstop (p : Operator × AExp) (w : List (Operator × AExp)) (q q' : List Token)
      (hq : Avoids operators q) : q ≠ operands (p :: w) ++ q' := by
    rintro rfl
    exact hq _ p.1.sign_mem rfl
  induction w generalizing w' with
  | nil =>
    cases w' with
    | nil => exact ⟨rfl, h⟩
    | cons p' w' => exact absurd h (hstop p' w' q q' hq)
  | cons p w ih =>
    cases w' with
    | nil => exact absurd h.symm (hstop p w q' q hq')
    | cons p' w' =>
      obtain ⟨o, r⟩ := p
      obtain ⟨o', r'⟩ := p'
      simp only [operands_cons, List.cons_append, List.append_assoc, List.cons.injEq,
        Token.sign.injEq] at h
      obtain ⟨hsign, hrest⟩ := h
      obtain rfl := Operator.sign_inj hsign
      have hr : OperandDetermined r := hw (o, r) (List.mem_cons_self ..)
      obtain ⟨rfl, htail⟩ := hr r' _ _ hrest
      obtain ⟨rfl, rfl⟩ := ih (fun p hp => hw p (List.mem_cons_of_mem _ hp)) htail
      exact ⟨rfl, rfl⟩

theorem continued_eq_of_atoms {e e' : AExp} (he : e.isCompound = false)
    (he' : e'.isCompound = false) {w w' : List (Operator × AExp)} {q q' : List Token}
    (hw : ∀ p ∈ w, OperandDetermined p.2) (hq : Avoids operators q) (hq' : Avoids operators q')
    (h : e.tokens ++ (operands w ++ q) = e'.tokens ++ (operands w' ++ q')) :
    continued e w = continued e' w' ∧ q = q' := by
  obtain ⟨rfl, hrest⟩ := atom_append_inj he he' h
  obtain ⟨rfl, rfl⟩ := operands_append_inj hw hq hq' hrest
  exact ⟨rfl, rfl⟩

/-- The case of an integer or a variable. The induction goes down the left operands of the other
expression. -/
theorem determined_of_atom {e : AExp} (he : e.isCompound = false) : Determined e := by
  intro w hw e' w' q q' hq hq' h
  induction e' generalizing w' with
  | number v => exact continued_eq_of_atoms he rfl hw hq hq' h
  | var x => exact continued_eq_of_atoms he rfl hw hq hq' h
  | plus l r ih => exact ih ((.plus, r) :: w') (h.trans (tokens_apply .plus l r w' q'))
  | minus l r ih => exact ih ((.minus, r) :: w') (h.trans (tokens_apply .minus l r w' q'))

/-- An expression in brackets is an operand, and so is an expression that needs none. -/
theorem Determined.operand {e : AExp} (h : Determined e) : OperandDetermined e := by
  intro e' q q' heq
  rw [AExp.operand, AExp.operand] at heq
  cases he : e.isCompound with
  | false =>
    cases he' : e'.isCompound with
    | false =>
      simp only [he, he', enclose, Bool.false_eq_true, if_false] at heq
      exact atom_append_inj he he' heq
    | true =>
      simp only [he, he', enclose, Bool.false_eq_true, if_false, if_true] at heq
      exact absurd heq (tokens_append_ne_sign _ _ _ _)
  | true =>
    cases he' : e'.isCompound with
    | false =>
      simp only [he, he', enclose, Bool.false_eq_true, if_false, if_true] at heq
      exact absurd heq.symm (tokens_append_ne_sign _ _ _ _)
    | true =>
      simp only [he, he', enclose, if_true, List.cons_append, List.append_assoc,
        List.nil_append, List.cons.injEq, true_and] at heq
      obtain ⟨hee', hrest⟩ := h [] (fun _ hp => by cases hp) e' [] _ _ (by simp) (by simp) heq
      exact ⟨hee', (List.cons.inj hrest).2⟩

theorem determined (e : AExp) : Determined e := by
  have hcons {w : List (Operator × AExp)} (hw : ∀ p ∈ w, OperandDetermined p.2) (o : Operator)
      {r : AExp} (hr : Determined r) : ∀ p ∈ (o, r) :: w, OperandDetermined p.2 := by
    intro p hp
    rcases List.mem_cons.1 hp with rfl | hp
    · exact hr.operand
    · exact hw p hp
  -- The right operand of a sum joins those still to come, and the left one is taken up with them.
  induction e with
  | number v => exact determined_of_atom rfl
  | var x => exact determined_of_atom rfl
  | plus l r ihl ihr =>
    intro w hw e' w' q q' hq hq' h
    exact ihl _ (hcons hw .plus ihr) e' w' q q' hq hq' ((tokens_apply .plus l r w q).symm.trans h)
  | minus l r ihl ihr =>
    intro w hw e' w' q q' hq hq' h
    exact ihl _ (hcons hw .minus ihr) e' w' q q' hq hq'
      ((tokens_apply .minus l r w q).symm.trans h)

/-- **Expressions are read in one way.** -/
theorem tokens_append_inj {e e' : AExp} {q q' : List Token} (hq : Avoids operators q)
    (hq' : Avoids operators q') (h : e.tokens ++ q = e'.tokens ++ q') : e = e' ∧ q = q' :=
  e.determined [] (fun _ hp => by cases hp) e' [] q q' hq hq' h

end AExp

/-! ## Conditions -/

namespace BExp

/-- The signs that continue a condition. -/
abbrev continuations : List Sign := .conj :: AExp.operators

/-- A condition as a side of a conjunction. -/
def side (b : BExp) : List Token := enclose b.isConj b.tokens

/-- Tokens that begin with those of `b` as a side have no other side at their front. -/
def SideDetermined (b : BExp) : Prop :=
  ∀ b' q q', Avoids AExp.operators q → Avoids AExp.operators q' →
    b.side ++ q = b'.side ++ q' → b = b' ∧ q = q'

/-- Tokens that begin with those of `b` have no other condition at their front. -/
def Determined (b : BExp) : Prop :=
  ∀ b' q q', Avoids continuations q → Avoids continuations q' →
    b.tokens ++ q = b'.tokens ++ q' → b = b' ∧ q = q'

theorem side_of_not_isConj {b : BExp} (hb : b.isConj = false) : b.side = b.tokens := by
  rw [side, hb]
  rfl

theorem side_conj (l r : BExp) :
    (conj l r).side = sign .opening :: ((conj l r).tokens ++ [sign .closing]) := rfl

theorem tokens_conj (l r : BExp) : (conj l r).tokens = l.side ++ sign .conj :: r.side := rfl

/-- Only conjunctions may begin with an opening bracket. -/
theorem tokens_append_ne_opening {b : BExp} (hb : b.isConj = false) (p q : List Token) :
    b.tokens ++ p ≠ sign .opening :: q := by
  cases b with
  | tt | ff | neg b => simp [tokens]
  | equal l r | lessEqual l r =>
    rw [tokens, List.append_assoc]
    exact l.tokens_append_ne_sign _ _ _
  | conj l r => cases hb

/-- Two comparisons. -/
theorem compare_append_inj {l r l' r' : AExp} {s s' : Sign} {q q' : List Token}
    (hs : s ∉ AExp.operators) (hs' : s' ∉ AExp.operators) (hq : Avoids AExp.operators q)
    (hq' : Avoids AExp.operators q')
    (h : l.tokens ++ sign s :: (r.tokens ++ q) = l'.tokens ++ sign s' :: (r'.tokens ++ q')) :
    l = l' ∧ s = s' ∧ r = r' ∧ q = q' := by
  obtain ⟨hl, hrest⟩ := AExp.tokens_append_inj (avoids_sign.2 hs) (avoids_sign.2 hs') h
  obtain ⟨hsign, hrest⟩ := List.cons.inj hrest
  obtain ⟨hr, hrest⟩ := AExp.tokens_append_inj hq hq' hrest
  exact ⟨hl, Token.sign.inj hsign, hr, hrest⟩

/-- What begins with a comparison is no other condition that is no conjunction. -/
theorem eq_of_compare_append_eq {l r : AExp} {s : Sign} (hs : s ∉ AExp.operators) {b : BExp}
    (hb : b.isConj = false) {q q' : List Token} (hq : Avoids AExp.operators q)
    (hq' : Avoids AExp.operators q')
    (h : l.tokens ++ sign s :: (r.tokens ++ q) = b.tokens ++ q') :
    (s = .equal ∧ b = equal l r ∨ s = .lessEqual ∧ b = lessEqual l r) ∧ q = q' := by
  cases b with
  | equal l' r' =>
    simp only [tokens, List.append_assoc, List.cons_append] at h
    obtain ⟨rfl, rfl, rfl, rfl⟩ := compare_append_inj hs (by decide) hq hq' h
    exact ⟨.inl ⟨rfl, rfl⟩, rfl⟩
  | lessEqual l' r' =>
    simp only [tokens, List.append_assoc, List.cons_append] at h
    obtain ⟨rfl, rfl, rfl, rfl⟩ := compare_append_inj hs (by decide) hq hq' h
    exact ⟨.inr ⟨rfl, rfl⟩, rfl⟩
  | conj l' r' => cases hb
  | _ => simp [tokens] at h

/-- Conditions that are no conjunctions. A negated condition has brackets of its own. -/
theorem simple_append_inj {b b' : BExp} (hb : b.isConj = false) (hb' : b'.isConj = false)
    (hneg : ∀ c, b = neg c → Determined c) {q q' : List Token} (hq : Avoids AExp.operators q)
    (hq' : Avoids AExp.operators q') (h : b.tokens ++ q = b'.tokens ++ q') : b = b' ∧ q = q' := by
  cases b with
  | tt | ff => cases b' <;> simp_all [tokens, isConj]
  | equal l r =>
    rw [tokens, List.append_assoc, List.cons_append] at h
    obtain ⟨⟨-, rfl⟩ | ⟨hs, -⟩, rfl⟩ := eq_of_compare_append_eq (by decide) hb' hq hq' h
    · exact ⟨rfl, rfl⟩
    · cases hs
  | lessEqual l r =>
    rw [tokens, List.append_assoc, List.cons_append] at h
    obtain ⟨⟨hs, -⟩ | ⟨-, rfl⟩, rfl⟩ := eq_of_compare_append_eq (by decide) hb' hq hq' h
    · cases hs
    · exact ⟨rfl, rfl⟩
  | neg c =>
    cases b' with
    | neg c' =>
      simp only [tokens, List.append_assoc, List.cons_append, List.nil_append, List.cons.injEq,
        true_and] at h
      obtain ⟨rfl, hrest⟩ := hneg c rfl c' _ _ (by simp) (by simp) h
      exact ⟨rfl, (List.cons.inj hrest).2⟩
    | conj l' r' => cases hb'
    | _ => simp [tokens] at h
  | conj l r => cases hb

theorem sideDetermined_of_not_isConj {b : BExp} (hb : b.isConj = false)
    (hneg : ∀ c, b = neg c → Determined c) : SideDetermined b := by
  intro b' q q' hq hq' h
  rw [side_of_not_isConj hb] at h
  cases hb' : b'.isConj with
  | false =>
    rw [side_of_not_isConj hb'] at h
    exact simple_append_inj hb hb' hneg hq hq' h
  | true =>
    rw [side, hb', enclose, if_pos rfl] at h
    exact absurd h (tokens_append_ne_opening hb _ _)

/-- A condition that is no conjunction may still be the side of one. -/
theorem SideDetermined.determined {b : BExp} (hb : b.isConj = false) (h : SideDetermined b) :
    Determined b := by
  intro b' q q' hq hq' heq
  rw [← side_of_not_isConj hb] at heq
  cases b' with
  | conj l' r' =>
    rw [tokens_conj, List.append_assoc] at heq
    obtain ⟨-, rfl⟩ := h l' _ _ (hq.mono (List.subset_cons_self ..)) (by simp) heq
    exact absurd hq (by simp)
  | _ =>
    exact h _ q q' (hq.mono (List.subset_cons_self ..)) (hq'.mono (List.subset_cons_self ..)) heq

theorem determined_conj {l r : BExp} (hl : SideDetermined l) (hr : SideDetermined r) :
    Determined (conj l r) := by
  intro b' q q' hq hq' h
  rw [tokens_conj, List.append_assoc] at h
  cases hb' : b'.isConj with
  | false =>
    rw [← side_of_not_isConj hb'] at h
    obtain ⟨-, rfl⟩ := hl b' _ _ (by simp) (hq'.mono (List.subset_cons_self ..)) h
    exact absurd hq' (by simp)
  | true =>
    cases b' with
    | conj l' r' =>
      rw [tokens_conj, List.append_assoc] at h
      obtain ⟨rfl, hrest⟩ := hl l' _ _ (by simp) (by simp) h
      obtain ⟨rfl, rfl⟩ := hr r' _ _ (hq.mono (List.subset_cons_self ..))
        (hq'.mono (List.subset_cons_self ..)) (List.cons.inj hrest).2
      exact ⟨rfl, rfl⟩
    | _ => cases hb'

/-- A conjunction as a side has brackets around it. -/
theorem Determined.side_conj {l r : BExp} (h : Determined (conj l r)) :
    SideDetermined (conj l r) := by
  intro b' q q' hq hq' heq
  rw [BExp.side_conj] at heq
  cases hb' : b'.isConj with
  | false =>
    rw [side_of_not_isConj hb'] at heq
    exact absurd heq.symm (tokens_append_ne_opening hb' _ _)
  | true =>
    rw [side, hb', enclose, if_pos rfl] at heq
    simp only [List.cons_append, List.append_assoc, List.nil_append, List.cons.injEq,
      true_and] at heq
    obtain ⟨hbb', hrest⟩ := h b' _ _ (by simp) (by simp) heq
    exact ⟨hbb', (List.cons.inj hrest).2⟩

theorem sideDetermined_and_determined (b : BExp) : SideDetermined b ∧ Determined b := by
  have hsimple {b : BExp} (hb : b.isConj = false) (hneg : ∀ c, b = neg c → Determined c) :
      SideDetermined b ∧ Determined b :=
    ⟨sideDetermined_of_not_isConj hb hneg, (sideDetermined_of_not_isConj hb hneg).determined hb⟩
  induction b with
  | neg b ih =>
    refine hsimple rfl fun c hc => ?_
    cases hc
    exact ih.2
  | conj l r ihl ihr =>
    have hconj : Determined (conj l r) := determined_conj ihl.1 ihr.1
    exact ⟨hconj.side_conj, hconj⟩
  | _ => exact hsimple rfl fun c hc => by cases hc

/-- **Conditions are read in one way.** -/
theorem tokens_append_inj {b b' : BExp} {q q' : List Token} (hq : Avoids continuations q)
    (hq' : Avoids continuations q') (h : b.tokens ++ q = b'.tokens ++ q') : b = b' ∧ q = q' :=
  b.sideDetermined_and_determined.2 b' q q' hq hq' h

end BExp

/-! ## Commands -/

namespace Command

/-- The signs that continue a command. -/
abbrev continuations : List Sign := .semicolon :: AExp.operators

/-- Tokens that begin with those of `p` have no other part at their front, up to grouping. -/
def PartDetermined (p : Command) : Prop :=
  ∀ p' q q', p'.form ≠ .seq → Avoids AExp.operators q → Avoids AExp.operators q' →
    p.tokens ++ q = p'.tokens ++ q' → Reassoc p p' ∧ q = q'

/-- Tokens that begin with those of `c` have no other command at their front, up to grouping. -/
def Determined (c : Command) : Prop :=
  ∀ c' q q', Avoids continuations q → Avoids continuations q' →
    c.tokens ++ q = c'.tokens ++ q' → Reassoc c c' ∧ q = q'

theorem tokens_inOrder_cons (p : Command) {ps : List Command} (hps : ps ≠ []) :
    (inOrder (p :: ps)).tokens = p.tokens ++ sign .semicolon :: (inOrder ps).tokens := by
  rw [inOrder_cons hps, tokens]

/-- A text is cut at the semicolons between parts in one way. -/
theorem inOrder_append_inj {ps ps' : List Command} {q q' : List Token} (hne : ps ≠ [])
    (hne' : ps' ≠ []) (hps : ∀ p ∈ ps, PartDetermined p) (hps' : ∀ p ∈ ps', p.form ≠ .seq)
    (hq : Avoids continuations q) (hq' : Avoids continuations q')
    (h : (inOrder ps).tokens ++ q = (inOrder ps').tokens ++ q') :
    Reassoc (inOrder ps) (inOrder ps') ∧ q = q' := by
  have hops {q : List Token} (hq : Avoids continuations q) : Avoids AExp.operators q :=
    hq.mono (List.subset_cons_self ..)
  induction ps generalizing ps' with
  | nil => exact absurd rfl hne
  | cons p ps ih =>
    cases ps' with
    | nil => exact absurd rfl hne'
    | cons p' ps' =>
      have hp : PartDetermined p := hps p (List.mem_cons_self ..)
      have hp' : p'.form ≠ .seq := hps' p' (List.mem_cons_self ..)
      by_cases hnil : ps = []
      · subst hnil
        by_cases hnil' : ps' = []
        · subst hnil'
          exact hp p' q q' hp' (hops hq) (hops hq') h
        · rw [tokens_inOrder_cons p' hnil', List.append_assoc] at h
          obtain ⟨-, rfl⟩ := hp p' _ _ hp' (hops hq) (by simp) h
          exact absurd hq (by simp)
      · rw [tokens_inOrder_cons p hnil, List.append_assoc] at h
        by_cases hnil' : ps' = []
        · subst hnil'
          obtain ⟨-, rfl⟩ := hp p' _ _ hp' (by simp) (hops hq') h
          exact absurd hq' (by simp)
        · rw [tokens_inOrder_cons p' hnil', List.append_assoc] at h
          obtain ⟨hpp', hrest⟩ := hp p' _ _ hp' (by simp) (by simp) h
          obtain ⟨hparts, rfl⟩ := ih hnil hnil' (fun p hp => hps p (List.mem_cons_of_mem _ hp))
            (fun p hp => hps' p (List.mem_cons_of_mem _ hp)) (List.cons.inj hrest).2
          rw [inOrder_cons hnil, inOrder_cons hnil']
          exact ⟨hpp'.seq hparts, rfl⟩

theorem determined_of_parts {c : Command} (h : ∀ p ∈ c.parts, PartDetermined p) :
    Determined c := by
  intro c' q q' hq hq' heq
  have hc : Reassoc c (inOrder c.parts) := .inOrder_parts c
  have hc' : Reassoc c' (inOrder c'.parts) := .inOrder_parts c'
  rw [hc.tokens_eq, hc'.tokens_eq] at heq
  obtain ⟨hparts, hrest⟩ := inOrder_append_inj c.parts_ne_nil c'.parts_ne_nil h
    (fun _ => form_ne_seq_of_mem_parts) hq hq' heq
  exact ⟨(hc.trans hparts).trans hc'.symm, hrest⟩

theorem partDetermined_skip : PartDetermined skip := by
  intro p' q q' hp' hq hq' h
  cases p' with
  | skip => exact ⟨.refl _, (List.cons.inj h).2⟩
  | seq c₁ c₂ => exact absurd rfl hp'
  | _ => simp [tokens] at h

theorem partDetermined_assign (x : Ident) (e : AExp) : PartDetermined (assign x e) := by
  intro p' q q' hp' hq hq' h
  cases p' with
  | assign y e' =>
    simp only [tokens, List.cons_append, List.cons.injEq, Token.var.injEq, true_and] at h
    obtain ⟨rfl, hrest⟩ := h
    obtain ⟨rfl, rfl⟩ := AExp.tokens_append_inj hq hq' hrest
    exact ⟨.refl _, rfl⟩
  | seq c₁ c₂ => exact absurd rfl hp'
  | _ => simp [tokens] at h

theorem partDetermined_branch (b : BExp) {c₁ c₂ : Command} (h₁ : Determined c₁)
    (h₂ : Determined c₂) : PartDetermined (branch b c₁ c₂) := by
  intro p' q q' hp' hq hq' h
  cases p' with
  | branch b' d₁ d₂ =>
    simp only [tokens, List.cons_append, List.append_assoc, List.nil_append, List.cons.injEq,
      true_and] at h
    obtain ⟨rfl, hthen⟩ := BExp.tokens_append_inj (by simp) (by simp) h
    obtain ⟨hd₁, helse⟩ := h₁ d₁ _ _ (by simp) (by simp) (List.cons.inj hthen).2
    simp only [List.cons.injEq, true_and] at helse
    obtain ⟨hd₂, hend⟩ := h₂ d₂ _ _ (by simp) (by simp) helse
    exact ⟨hd₁.branch b hd₂, (List.cons.inj hend).2⟩
  | seq c₁ c₂ => exact absurd rfl hp'
  | _ => simp [tokens] at h

theorem partDetermined_loop (b : BExp) {c : Command} (hc : Determined c) :
    PartDetermined (loop b c) := by
  intro p' q q' hp' hq hq' h
  cases p' with
  | loop b' d =>
    simp only [tokens, List.cons_append, List.append_assoc, List.nil_append, List.cons.injEq,
      true_and] at h
    obtain ⟨rfl, hdo⟩ := BExp.tokens_append_inj (by simp) (by simp) h
    obtain ⟨hd, hend⟩ := hc d _ _ (by simp) (by simp) (List.cons.inj hdo).2
    exact ⟨hd.loop b, (List.cons.inj hend).2⟩
  | seq c₁ c₂ => exact absurd rfl hp'
  | _ => simp [tokens] at h

theorem partDetermined_of_mem_parts (c : Command) : ∀ p ∈ c.parts, PartDetermined p := by
  have hsingle {c : Command} (h : PartDetermined c) : ∀ p ∈ [c], PartDetermined p :=
    List.forall_mem_singleton.2 h
  induction c with
  | skip => exact hsingle partDetermined_skip
  | assign x e => exact hsingle (partDetermined_assign x e)
  | seq c₁ c₂ ih₁ ih₂ => exact List.forall_mem_append.2 ⟨ih₁, ih₂⟩
  | branch b c₁ c₂ ih₁ ih₂ =>
    exact hsingle (partDetermined_branch b (determined_of_parts ih₁) (determined_of_parts ih₂))
  | loop b c ih => exact hsingle (partDetermined_loop b (determined_of_parts ih))

/-- **Commands are read in one way, up to grouping.** -/
theorem tokens_append_inj {c c' : Command} {q q' : List Token} (hq : Avoids continuations q)
    (hq' : Avoids continuations q') (h : c.tokens ++ q = c'.tokens ++ q') :
    Reassoc c c' ∧ q = q' :=
  determined_of_parts c.partDetermined_of_mem_parts c' q q' hq hq' h

end Command

/-! ## States and configurations -/

/-- Bindings are read in one way. -/
theorem Binding.tokens_append_inj {bs bs' : List (Ident × Int)} {q q' : List Token}
    (h : Binding.tokens bs ++ sign .closeState :: q =
      Binding.tokens bs' ++ sign .closeState :: q') : bs = bs' ∧ q = q' := by
  induction bs generalizing bs' with
  | nil =>
    cases bs' with
    | nil => exact ⟨rfl, (List.cons.inj h).2⟩
    | cons b' bs' => cases bs' <;> simp [tokens] at h
  | cons b bs ih =>
    obtain ⟨x, v⟩ := b
    cases bs' with
    | nil => cases bs <;> simp [tokens] at h
    | cons b' bs' =>
      obtain ⟨x', v'⟩ := b'
      cases bs with
      | nil =>
        cases bs' with
        | nil => simp_all [tokens]
        | cons b' bs' => simp [tokens] at h
      | cons b bs =>
        cases bs' with
        | nil => simp [tokens] at h
        | cons b' bs' =>
          simp only [tokens, List.cons_append, List.cons.injEq, Token.var.injEq,
            Token.number.injEq, true_and] at h
          obtain ⟨rfl, rfl, hrest⟩ := h
          obtain ⟨heq, hq⟩ := ih hrest
          exact ⟨by rw [heq], hq⟩

/-- **Configurations are read in one way, up to grouping.** -/
theorem Configuration.reassoc_of_tokens_eq {a b : Configuration} (h : a.tokens = b.tokens) :
    a.Reassoc b := by
  rw [tokens, tokens] at h
  obtain ⟨hcommand, hrest⟩ := Command.tokens_append_inj (by simp) (by simp) (List.cons.inj h).2
  simp only [State.tokens, List.cons_append, List.append_assoc, List.nil_append, List.cons.injEq,
    true_and] at hrest
  exact ⟨hcommand, State.ext_bindings (Binding.tokens_append_inj hrest).1⟩

end WhileLang

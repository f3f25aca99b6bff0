import WhileLang.Proofs.Printing.Token

/-!
# Programs as tokens

The tokens of expressions, conditions, commands, states and configurations. Their text is the text
on one line, whatever the variables are called (`Command.inline_eq`, `Configuration.render_eq`),
they are spaced, and the integers among them are those of the program
(`Configuration.all_isWritable_tokens`).
-/

namespace WhileLang

open Token

/-! ## The tokens -/

/-- Puts tokens in brackets if asked to. -/
def Token.enclose (needed : Bool) (ts : List Token) : List Token :=
  if needed then sign .opening :: (ts ++ [sign .closing]) else ts

def AExp.tokens : AExp → List Token
  | number v => [.number v]
  | var x => [.var x]
  | plus l r => l.tokens ++ sign .plus :: enclose r.isCompound r.tokens
  | minus l r => l.tokens ++ sign .minus :: enclose r.isCompound r.tokens

def BExp.tokens : BExp → List Token
  | tt => [sign .tt]
  | ff => [sign .ff]
  | equal l r => l.tokens ++ sign .equal :: r.tokens
  | lessEqual l r => l.tokens ++ sign .lessEqual :: r.tokens
  | neg b => sign .negOpening :: (b.tokens ++ [sign .closing])
  | conj l r => enclose l.isConj l.tokens ++ sign .conj :: enclose r.isConj r.tokens

def Command.tokens : Command → List Token
  | skip => [sign .skip]
  | assign x e => .var x :: sign .assign :: e.tokens
  | seq c₁ c₂ => c₁.tokens ++ sign .semicolon :: c₂.tokens
  | branch b c₁ c₂ =>
    sign .ifWord :: (b.tokens ++ sign .thenWord :: (c₁.tokens ++ sign .endBody ::
      sign .elseWord :: (c₂.tokens ++ [sign .endBody])))
  | loop b c =>
    sign .whileWord :: (b.tokens ++ sign .doWord :: (c.tokens ++ [sign .endBody]))

/-- The values of a state, with commas between them. -/
def Binding.tokens : List (Ident × Int) → List Token
  | [] => []
  | [b] => [.var b.1, sign .equal, .number b.2]
  | b :: bs => .var b.1 :: sign .equal :: .number b.2 :: sign .comma :: Binding.tokens bs

def State.tokens (s : State) : List Token :=
  sign .openState :: (Binding.tokens s.bindings ++ [sign .closeState])

def Configuration.tokens (a : Configuration) : List Token :=
  sign .openPair :: (a.command.tokens ++ sign .comma :: (a.state.tokens ++ [sign .closePair]))

/-! ## Their texts -/

section

variable (names : Names)

theorem Token.texts_enclose (needed : Bool) (ts : List Token) :
    texts names (enclose needed ts) = do return bracketIf needed (← texts names ts) := by
  cases needed with
  | false => exact (bind_pure _).symm
  | true =>
    simp only [enclose, if_true, texts_sign, texts_append, texts_nil, bracketIf]
    cases texts names ts <;> rfl

theorem AExp.render_eq (e : AExp) : e.render names = texts names e.tokens := by
  induction e with
  | number v => exact (texts_single (.number v)).symm
  | var x => exact (texts_single (.var x)).symm
  | plus l r ihl ihr | minus l r ihl ihr =>
    simp only [render, tokens, texts_append, texts_sign, texts_enclose, ihl, ihr, Sign.text,
      bind_assoc, pure_bind, String.append_assoc]

theorem BExp.render_eq (b : BExp) : b.render names = texts names b.tokens := by
  induction b with
  | tt => rfl
  | ff => rfl
  | equal l r | lessEqual l r =>
    simp only [render, tokens, texts_append, texts_sign, AExp.render_eq, Sign.text, bind_assoc,
      pure_bind, String.append_assoc]
  | neg b ih =>
    simp only [render, tokens, texts_append, texts_sign, texts_nil, ih, Sign.text, bind_assoc,
      pure_bind, String.append_assoc]
    rfl
  | conj l r ihl ihr =>
    simp only [render, tokens, texts_append, texts_sign, texts_enclose, ihl, ihr, Sign.text,
      bind_assoc, pure_bind, String.append_assoc]

theorem Command.inline_eq (c : Command) : c.inline names = texts names c.tokens := by
  induction c with
  | skip => rfl
  | assign x e =>
    rw [tokens, texts, texts_sign]
    simp only [inline, text, AExp.render_eq, Sign.text, bind_assoc, pure_bind, String.append_assoc]
  | seq c₁ c₂ ih₁ ih₂ =>
    simp only [inline, tokens, texts_append, texts_sign, ih₁, ih₂, Sign.text, bind_assoc,
      pure_bind, String.append_assoc]
  | branch b c₁ c₂ ih₁ ih₂ =>
    simp only [inline, tokens, texts_append, texts_sign, texts_nil, BExp.render_eq, ih₁, ih₂,
      Sign.text, bind_assoc, pure_bind, String.append_assoc]
    rfl
  | loop b c ih =>
    simp only [inline, tokens, texts_append, texts_sign, texts_nil, BExp.render_eq, ih, Sign.text,
      bind_assoc, pure_bind, String.append_assoc]
    rfl

theorem Binding.render_eq (b : Ident × Int) :
    Binding.render names b = texts names [.var b.1, sign .equal, .number b.2] := by
  rw [texts, texts_sign, texts_single]
  simp only [render, text, Sign.text, bind_assoc, pure_bind, String.append_assoc]

theorem Binding.texts_tokens (bs : List (Ident × Int)) : texts names (Binding.tokens bs) =
    do return ", ".intercalate (← bs.mapM (Binding.render names)) := by
  induction bs with
  | nil => rfl
  | cons b bs ih =>
    cases bs with
    | nil =>
      simp only [List.mapM_cons, List.mapM_nil, bind_assoc, pure_bind, String.intercalate_singleton,
        bind_pure]
      exact (Binding.render_eq names b).symm
    | cons b' bs =>
      have hsplit : Binding.tokens (b :: b' :: bs) =
          [.var b.1, sign .equal, .number b.2] ++ sign .comma :: Binding.tokens (b' :: bs) := rfl
      rw [hsplit, texts_append, texts_sign, ih, ← Binding.render_eq]
      simp only [List.mapM_cons, Sign.text, bind_assoc, pure_bind, String.intercalate_cons_cons,
        String.append_assoc]

theorem State.render_eq (s : State) : s.render names = texts names s.tokens := by
  simp only [render, tokens, texts_append, texts_sign, texts_nil, Binding.texts_tokens, Sign.text,
    bind_assoc, pure_bind, String.append_assoc]
  rfl

theorem Configuration.render_eq (a : Configuration) : a.render names = texts names a.tokens := by
  simp only [render, tokens, texts_append, texts_sign, texts_nil, Command.inline_eq,
    State.render_eq, Sign.text, bind_assoc, pure_bind, String.append_assoc]
  rfl

/-! ### What can fail -/

theorem Command.inline_failsOnlyWith (c : Command) :
    FailsOnlyWith .numberTooLong (c.inline names) := by
  rw [inline_eq]
  exact texts_failsOnlyWith names c.tokens

theorem State.render_failsOnlyWith (s : State) : FailsOnlyWith .numberTooLong (s.render names) := by
  rw [render_eq]
  exact texts_failsOnlyWith names s.tokens

theorem Configuration.render_failsOnlyWith (a : Configuration) :
    FailsOnlyWith .numberTooLong (a.render names) := by
  rw [render_eq]
  exact texts_failsOnlyWith names a.tokens

theorem Command.blockLines_failsOnlyWith (c : Command) (depth : Nat) :
    FailsOnlyWith .numberTooLong (c.blockLines names depth) := by
  have hcond (b : BExp) : FailsOnlyWith .numberTooLong (b.render names) := by
    rw [b.render_eq]
    exact texts_failsOnlyWith names b.tokens
  induction c generalizing depth with
  | skip => exact .ok _
  | assign x e => exact (inline_failsOnlyWith names (assign x e)).bind fun _ => .ok _
  | seq c₁ c₂ ih₁ ih₂ => exact (ih₁ depth).bind fun _ => (ih₂ depth).bind fun _ => .ok _
  | branch b c₁ c₂ ih₁ ih₂ =>
    exact (hcond b).bind fun _ => (ih₁ _).bind fun _ => (ih₂ _).bind fun _ => .ok _
  | loop b c ih => exact (hcond b).bind fun _ => (ih _).bind fun _ => .ok _

theorem Command.block_failsOnlyWith (c : Command) : FailsOnlyWith .numberTooLong (c.block names) :=
  (c.blockLines_failsOnlyWith names 0).map

end

/-! ## How they are spaced -/

theorem spaced_enclose {ts : List Token} (h : Spaced ts) (needed : Bool) :
    Spaced (enclose needed ts) := by
  cases needed with
  | true => simp [enclose, h]
  | false => exact h

theorem AExp.spaced_tokens (e : AExp) : Spaced e.tokens := by
  induction e with
  | number v => simp [tokens]
  | var x => simp [tokens]
  | plus l r ihl ihr => simp [tokens, ihl, spaced_enclose ihr]
  | minus l r ihl ihr => simp [tokens, ihl, spaced_enclose ihr]

theorem BExp.spaced_tokens (b : BExp) : Spaced b.tokens := by
  induction b with
  | tt => simp [tokens]
  | ff => simp [tokens]
  | equal l r => simp [tokens, AExp.spaced_tokens]
  | lessEqual l r => simp [tokens, AExp.spaced_tokens]
  | neg b ih => simp [tokens, ih]
  | conj l r ihl ihr => simp [tokens, spaced_enclose ihl, spaced_enclose ihr]

theorem Command.spaced_tokens (c : Command) : Spaced c.tokens := by
  induction c with
  | skip => simp [tokens]
  | assign x e => simp [tokens, AExp.spaced_tokens]
  | seq c₁ c₂ ih₁ ih₂ => simp [tokens, ih₁, ih₂]
  | branch b c₁ c₂ ih₁ ih₂ => simp [tokens, BExp.spaced_tokens, ih₁, ih₂]
  | loop b c ih => simp [tokens, BExp.spaced_tokens, ih]

theorem Binding.spaced_tokens (bs : List (Ident × Int)) : Spaced (Binding.tokens bs) := by
  induction bs with
  | nil => simp [tokens]
  | cons b bs ih =>
    cases bs with
    | nil => simp [tokens]
    | cons b' bs => simp [tokens, ih]

theorem State.spaced_tokens (s : State) : Spaced s.tokens := by
  simp [tokens, Binding.spaced_tokens]

theorem Configuration.spaced_tokens (a : Configuration) : Spaced a.tokens := by
  simp [tokens, Command.spaced_tokens, State.spaced_tokens]

/-! ## The integers in a text -/

/-- The constants of the expression and the keys of its variables. -/
def AExp.integers : AExp → List Int
  | number v => [v]
  | var x => [x]
  | plus l r | minus l r => l.integers ++ r.integers

def BExp.integers : BExp → List Int
  | tt | ff => []
  | equal l r | lessEqual l r => l.integers ++ r.integers
  | neg b => b.integers
  | conj l r => l.integers ++ r.integers

def Command.integers : Command → List Int
  | skip => []
  | assign x e => x :: e.integers
  | seq c₁ c₂ => c₁.integers ++ c₂.integers
  | branch b c₁ c₂ => b.integers ++ (c₁.integers ++ c₂.integers)
  | loop b c => b.integers ++ c.integers

/-- The keys of the variables that are not `0`, and their values. -/
def State.integers (s : State) : List Int := s.bindings.flatMap fun b => [b.1, b.2]

def Configuration.integers (a : Configuration) : List Int :=
  a.command.integers ++ a.state.integers

@[simp] theorem Token.all_isWritable_enclose (needed : Bool) (ts : List Token) :
    (enclose needed ts).all isWritable = ts.all isWritable := by
  cases needed with
  | false => rfl
  | true => simp [enclose, isWritable]

theorem AExp.all_isWritable_tokens (e : AExp) :
    e.tokens.all isWritable = e.integers.all Text.isWritable := by
  induction e with
  | number v | var x => simp [tokens, integers, isWritable]
  | plus l r ihl ihr | minus l r ihl ihr => simp [tokens, integers, ihl, ihr, isWritable]

theorem BExp.all_isWritable_tokens (b : BExp) :
    b.tokens.all isWritable = b.integers.all Text.isWritable := by
  induction b with
  | tt | ff => rfl
  | equal l r | lessEqual l r =>
    simp [tokens, integers, AExp.all_isWritable_tokens, isWritable]
  | neg b ih => simp [tokens, integers, ih, isWritable]
  | conj l r ihl ihr => simp [tokens, integers, ihl, ihr, isWritable]

theorem Command.all_isWritable_tokens (c : Command) :
    c.tokens.all isWritable = c.integers.all Text.isWritable := by
  induction c with
  | skip => rfl
  | assign x e => simp [tokens, integers, AExp.all_isWritable_tokens, isWritable]
  | seq c₁ c₂ ih₁ ih₂ => simp [tokens, integers, ih₁, ih₂, isWritable]
  | branch b c₁ c₂ ih₁ ih₂ =>
    simp [tokens, integers, BExp.all_isWritable_tokens, ih₁, ih₂, isWritable]
  | loop b c ih => simp [tokens, integers, BExp.all_isWritable_tokens, ih, isWritable]

theorem Binding.all_isWritable_tokens (bs : List (Ident × Int)) :
    (Binding.tokens bs).all isWritable =
      (bs.flatMap fun b => [b.1, b.2]).all Text.isWritable := by
  induction bs with
  | nil => rfl
  | cons b bs ih =>
    cases bs with
    | nil => simp [tokens, isWritable]
    | cons b' bs =>
      rw [tokens, List.flatMap_cons, List.all_append, ← ih]
      · simp [isWritable, Bool.and_assoc]
      · exact List.cons_ne_nil _ _

theorem State.all_isWritable_tokens (s : State) :
    s.tokens.all isWritable = s.integers.all Text.isWritable := by
  simp [tokens, integers, Binding.all_isWritable_tokens, isWritable]

theorem Configuration.all_isWritable_tokens (a : Configuration) :
    a.tokens.all isWritable = a.integers.all Text.isWritable := by
  simp [tokens, integers, Command.all_isWritable_tokens, State.all_isWritable_tokens, isWritable]

end WhileLang

import WhileLang.Proofs.Text.Numeral
import WhileLang.Step

/-!
# The tokens of a printed program

A program on one line is a list of tokens, written one after the other: words and signs with the
spaces that belong to them, integers, and variables. No sign is the beginning of another one, so a
text falls into tokens in one way only (`write_inj`), provided that no integer or variable is
followed by an integer, whose digits could be taken for its own (`Token.Spaced`).

The text of a list of tokens is the texts of all of them in order, and there is none if one of them
has none. Where no variable has a name, it exists exactly if all integers are short enough to be
written (`Token.texts_empty`), and tokens with one text are the same (`Token.sameText_iff`).
-/

namespace WhileLang

/-- Both computations give one and the same text. -/
def SameText (x y : Except Error String) : Prop := ∃ text, x = .ok text ∧ y = .ok text

/-- The words and signs of printed programs. -/
inductive Sign where
  | plus
  | minus
  | equal
  | lessEqual
  | conj
  | opening
  | closing
  | negOpening
  | tt
  | ff
  | skip
  | assign
  | semicolon
  | ifWord
  | thenWord
  | elseWord
  | endBody
  | whileWord
  | doWord
  | comma
  | openState
  | closeState
  | openPair
  | closePair
deriving DecidableEq

namespace Sign

def text : Sign → String
  | plus => " + "
  | minus => " - "
  | equal => " = "
  | lessEqual => " <= "
  | conj => " && "
  | opening => "("
  | closing => ")"
  | negOpening => "!("
  | tt => "true"
  | ff => "false"
  | skip => "skip"
  | assign => " := "
  | semicolon => "; "
  | ifWord => "if "
  | thenWord => " then \x7b "
  | elseWord => " else \x7b "
  | endBody => " \x7d"
  | whileWord => "while "
  | doWord => " do \x7b "
  | comma => ", "
  | openState => "\x7b"
  | closeState => "\x7d"
  | openPair => "<"
  | closePair => ">"

def all : List Sign :=
  [plus, minus, equal, lessEqual, conj, opening, closing, negOpening, tt, ff, skip, assign,
    semicolon, ifWord, thenWord, elseWord, endBody, whileWord, doWord, comma, openState,
    closeState, openPair, closePair]

/-- The first sign of the list that a text begins with. -/
def front? (cs : List Char) : Option Sign := all.find? fun s => s.text.toList.isPrefixOf cs

/-- No sign is the beginning of another one. -/
theorem front?_append (s : Sign) (cs : List Char) : front? (s.text.toList ++ cs) = some s := by
  cases s <;> rfl

theorem append_inj {s t : Sign} {p q : List Char}
    (h : s.text.toList ++ p = t.text.toList ++ q) : s = t ∧ p = q := by
  have hst : some s = some t := by rw [← front?_append s p, h, front?_append]
  obtain rfl := Option.some.inj hst
  exact ⟨rfl, List.append_cancel_left h⟩

/-- How a sign begins: not like an integer, and not like a variable. -/
theorem exists_text_eq_cons (s : Sign) :
    ∃ c cs, s.text.toList = c :: cs ∧ c.isDigit = false ∧ c ≠ '-' ∧ c ≠ 'x' := by
  cases s <;> exact ⟨_, _, rfl, by decide⟩

end Sign

inductive Token where
  | sign (s : Sign)
  | number (v : Int)
  | var (x : Ident)
deriving DecidableEq

namespace Token

def chars : Token → List Char
  | sign s => s.text.toList
  | number v => Text.numeral v
  | var x => 'x' :: Text.numeral x

/-- A list that goes on with a sign, or ends. -/
def BeginsWithSign (ts : List Token) : Prop := ∀ t ∈ ts.head?, ∃ s, t = sign s

/-- Integers and variables are followed by signs. -/
def Spaced : List Token → Prop
  | [] => True
  | sign _ :: ts => Spaced ts
  | number _ :: ts | var _ :: ts => BeginsWithSign ts ∧ Spaced ts

/-- What tokens write. -/
def write (ts : List Token) : List Char := ts.flatMap chars

@[simp] theorem write_nil : write [] = [] := rfl

@[simp] theorem write_cons (t : Token) (ts : List Token) : write (t :: ts) = t.chars ++ write ts :=
  List.flatMap_cons

@[simp] theorem beginsWithSign_nil : BeginsWithSign [] := fun _ h => by cases h

@[simp] theorem beginsWithSign_sign (s : Sign) (ts : List Token) :
    BeginsWithSign (sign s :: ts) := by
  simp [BeginsWithSign]

@[simp] theorem spaced_nil : Spaced [] := trivial

@[simp] theorem spaced_sign {s : Sign} {ts : List Token} : Spaced (sign s :: ts) ↔ Spaced ts :=
  Iff.rfl

@[simp] theorem spaced_number {v : Int} {ts : List Token} :
    Spaced (number v :: ts) ↔ BeginsWithSign ts ∧ Spaced ts := Iff.rfl

@[simp] theorem spaced_var {x : Ident} {ts : List Token} :
    Spaced (var x :: ts) ↔ BeginsWithSign ts ∧ Spaced ts := Iff.rfl

/-- A sign keeps what stands on its two sides apart. -/
@[simp] theorem spaced_append_sign {ts us : List Token} {s : Sign} :
    Spaced (ts ++ sign s :: us) ↔ Spaced ts ∧ Spaced us := by
  induction ts with
  | nil => simp
  | cons t ts ih =>
    have hbegins : BeginsWithSign (ts ++ sign s :: us) ↔ BeginsWithSign ts := by
      cases ts <;> simp [BeginsWithSign]
    cases t <;> simp [ih, hbegins, and_assoc]

theorem endsDigits_write {ts : List Token} (h : BeginsWithSign ts) :
    Text.EndsDigits (write ts) := by
  cases ts with
  | nil => exact Text.endsDigits_nil
  | cons t ts =>
    obtain ⟨s, rfl⟩ := h t rfl
    obtain ⟨c, cs, hs, hc, -⟩ := s.exists_text_eq_cons
    rw [write_cons, chars, hs]
    exact Text.endsDigits_cons.2 hc

/-- How a token begins tells its kind. -/
theorem kind_eq {t u : Token} {p q : List Char} (h : t.chars ++ p = u.chars ++ q) :
    (∃ s s', t = sign s ∧ u = sign s') ∨ (∃ v w, t = number v ∧ u = number w) ∨
      ∃ x y, t = var x ∧ u = var y := by
  have hsign (s : Sign) (v : Int) (p q : List Char) :
      s.text.toList ++ p ≠ Text.numeral v ++ q := by
    obtain ⟨c, cs, hs, hc, hminus, -⟩ := s.exists_text_eq_cons
    obtain ⟨d, ds, hv, hd⟩ := Text.exists_numeral_eq_cons v
    rw [hs, hv]
    intro h
    obtain rfl : c = d := (List.cons.inj h).1
    rcases hd with hd | hd
    · rw [hc] at hd
      cases hd
    · exact hminus hd
  have hsign' (s : Sign) (cs p q : List Char) : s.text.toList ++ p ≠ ('x' :: cs) ++ q := by
    obtain ⟨c, ds, hs, -, -, hx⟩ := s.exists_text_eq_cons
    rw [hs]
    intro h
    exact hx (List.cons.inj h).1
  have hnumber (v : Int) (cs p q : List Char) : Text.numeral v ++ p ≠ ('x' :: cs) ++ q := by
    obtain ⟨d, ds, hv, hd⟩ := Text.exists_numeral_eq_cons v
    rw [hv]
    intro h
    obtain rfl : d = 'x' := (List.cons.inj h).1
    simp at hd
  cases t with
  | sign s =>
    cases u with
    | sign s' => exact .inl ⟨s, s', rfl, rfl⟩
    | number w => exact absurd h (hsign s w p q)
    | var y => exact absurd h (hsign' s _ p q)
  | number v =>
    cases u with
    | sign s' => exact absurd h.symm (hsign s' v q p)
    | number w => exact .inr (.inl ⟨v, w, rfl, rfl⟩)
    | var y => exact absurd h (hnumber v _ p q)
  | var x =>
    cases u with
    | sign s' => exact absurd h.symm (hsign' s' _ q p)
    | number w => exact absurd h.symm (hnumber w _ q p)
    | var y => exact .inr (.inr ⟨x, y, rfl, rfl⟩)

theorem chars_ne_nil (t : Token) : t.chars ≠ [] := by
  cases t with
  | sign s =>
    obtain ⟨c, cs, hs, -⟩ := s.exists_text_eq_cons
    simp [chars, hs]
  | number v =>
    obtain ⟨c, cs, hv, -⟩ := Text.exists_numeral_eq_cons v
    simp [chars, hv]
  | var x => simp [chars]

/-- **A text falls into tokens in one way.** -/
theorem write_inj {ts us : List Token} (hts : Spaced ts) (hus : Spaced us)
    (h : write ts = write us) : ts = us := by
  induction ts generalizing us with
  | nil =>
    cases us with
    | nil => rfl
    | cons u us => exact absurd (List.append_eq_nil_iff.1 h.symm).1 u.chars_ne_nil
  | cons t ts ih =>
    cases us with
    | nil => exact absurd (List.append_eq_nil_iff.1 h).1 t.chars_ne_nil
    | cons u us =>
      rw [write_cons, write_cons] at h
      rcases kind_eq h with ⟨s, s', rfl, rfl⟩ | ⟨v, w, rfl, rfl⟩ | ⟨x, y, rfl, rfl⟩
      · obtain ⟨rfl, hrest⟩ := Sign.append_inj h
        rw [ih (spaced_sign.1 hts) (spaced_sign.1 hus) hrest]
      · obtain ⟨rfl, hrest⟩ :=
          Text.numeral_append_inj (endsDigits_write hts.1) (endsDigits_write hus.1) h
        rw [ih hts.2 hus.2 hrest]
      · obtain ⟨rfl, hrest⟩ := Text.numeral_append_inj (endsDigits_write hts.1)
          (endsDigits_write hus.1) (List.cons.inj h).2
        rw [ih hts.2 hus.2 hrest]

/-! ## The texts of tokens -/

/-- The text of a token, or the failure to write its integer. -/
def text (names : Names) : Token → Except Error String
  | sign s => .ok s.text
  | number v => Text.ofInt v
  | var x => names.text x

/-- The texts of tokens, one after the other. -/
def texts (names : Names) : List Token → Except Error String
  | [] => .ok ""
  | t :: ts => do return (← t.text names) ++ (← texts names ts)

/-- The integer of the token, if there is one, is short enough to be written. -/
def isWritable : Token → Bool
  | sign _ => true
  | number v => Text.isWritable v
  | var x => Text.isWritable x

variable {names : Names} {ts us : List Token} {text : String}

@[simp] theorem texts_nil : texts names [] = .ok "" := rfl

@[simp] theorem texts_sign (s : Sign) (ts : List Token) :
    texts names (sign s :: ts) = do return s.text ++ (← texts names ts) := rfl

@[simp] theorem texts_append (ts us : List Token) :
    texts names (ts ++ us) = do return (← texts names ts) ++ (← texts names us) := by
  induction ts with
  | nil =>
    simp only [List.nil_append, texts_nil]
    cases texts names us <;> rfl
  | cons t ts ih =>
    simp only [List.cons_append, texts, ih, bind_assoc, pure_bind, String.append_assoc]

theorem texts_single (t : Token) : texts names [t] = t.text names := by
  rw [texts]
  cases t.text names with
  | error e => rfl
  | ok text => exact congrArg Except.ok String.append_empty

/-- Only an integer that is too long keeps tokens from being written. -/
theorem texts_failsOnlyWith (names : Names) (ts : List Token) :
    FailsOnlyWith .numberTooLong (texts names ts) := by
  have htext (t : Token) : FailsOnlyWith .numberTooLong (t.text names) := by
    cases t with
    | sign s => exact .ok _
    | number v =>
      rw [Token.text, Text.ofInt]
      exact .ite _ _
    | var x =>
      rw [Token.text, Names.text]
      exact .ite _ _
  induction ts with
  | nil => exact .ok _
  | cons t ts ih => exact (htext t).bind fun _ => ih.bind fun _ => .ok _

theorem text_empty (t : Token) : t.text ∅ =
    if t.isWritable then .ok (String.ofList t.chars) else .error .numberTooLong := by
  cases t with
  | sign s => exact congrArg Except.ok String.ofList_toList.symm
  | number v =>
    rw [Token.text, Text.ofInt, chars, isWritable, Text.numeral, String.ofList_toList]
  | var x =>
    have hx : ('x' :: Text.numeral x) = ("x" ++ toString x).toList := by
      rw [String.toList_append]
      rfl
    have hnone : (((∅ : Names).get? x).isSome = true ∨ Text.isWritable x = true) ↔
        Text.isWritable x = true := or_iff_right Bool.false_ne_true
    rw [chars, hx, String.ofList_toList, Token.text, Names.text, if_congr hnone rfl rfl,
      Names.display_empty, isWritable]

/-- **Tokens without names** have a text exactly if their integers are short enough. -/
theorem texts_empty (ts : List Token) : texts ∅ ts =
    if ts.all isWritable then .ok (String.ofList (write ts)) else .error .numberTooLong := by
  induction ts with
  | nil => rfl
  | cons t ts ih =>
    rw [texts, ih, text_empty, List.all_cons, write_cons]
    cases t.isWritable with
    | false => rfl
    | true =>
      cases ts.all isWritable with
      | false => rfl
      | true => exact congrArg Except.ok String.ofList_append.symm

theorem toList_of_texts_eq (h : texts ∅ ts = .ok text) : text.toList = write ts := by
  rw [texts_empty] at h
  split at h
  · rw [← Except.ok.inj h, String.toList_ofList]
  · cases h

/-- **Tokens with one text are the same.** -/
theorem sameText_iff (hts : Spaced ts) (hus : Spaced us) :
    SameText (texts ∅ ts) (texts ∅ us) ↔ ts = us ∧ ts.all isWritable = true := by
  constructor
  · rintro ⟨text, h₁, h₂⟩
    have hwrite : write ts = write us := by
      rw [← toList_of_texts_eq h₁, toList_of_texts_eq h₂]
    refine ⟨write_inj hts hus hwrite, ?_⟩
    by_contra hlong
    rw [texts_empty, if_neg hlong] at h₁
    cases h₁
  · rintro ⟨rfl, hwritable⟩
    have htext : texts ∅ ts = .ok (String.ofList (write ts)) := by
      rw [texts_empty, if_pos hwritable]
    exact ⟨_, htext, htext⟩

end Token

end WhileLang

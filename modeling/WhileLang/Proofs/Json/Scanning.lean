import WhileLang.Proofs.Json.Layout

/-!
# Reading what was written: spaces, strings and numbers

Each reader takes off the front of a text what the writer put there and leaves the rest. A string
ends by itself. A number goes on as long as it can, so the rest must not continue it
(`EndsNumber`); it is refused if it has too many digits.
-/

namespace WhileLang.Json.Parser

/-! ## Spaces -/

/-- The text does not begin with a space. -/
def NoSpace (cs : List Char) : Prop := ∀ c ∈ cs.head?, isSpace c = false

@[simp] theorem noSpace_cons {c : Char} {cs : List Char} :
    NoSpace (c :: cs) ↔ isSpace c = false := by
  simp [NoSpace]

theorem skipSpaces_eq_self {cs : List Char} (h : NoSpace cs) : skipSpaces cs = cs := by
  cases cs with
  | nil => rfl
  | cons c cs => rw [skipSpaces, List.dropWhile_cons, noSpace_cons.1 h, if_neg Bool.false_ne_true]

theorem skipSpaces_cons {c : Char} (hc : isSpace c = false) (cs : List Char) :
    skipSpaces (c :: cs) = c :: cs :=
  skipSpaces_eq_self (noSpace_cons.2 hc)

theorem skipSpaces_append {spaces cs : List Char} (hspaces : ∀ c ∈ spaces, isSpace c = true)
    (hcs : NoSpace cs) : skipSpaces (spaces ++ cs) = cs := by
  rw [skipSpaces, List.dropWhile_append_of_pos hspaces]
  exact skipSpaces_eq_self hcs

/-! ## Strings -/

theorem hexDigit?_hexDigit (n : Nat) : Text.hexDigit? (hexDigit n) = some (n % 16) := by
  have hall : ∀ d < 16, Text.hexDigit? (Nat.digitChar d) = some d := by decide
  exact hall _ (Nat.mod_lt _ (by decide))

theorem hexUnit?_hexDigit {n : Nat} (h : n < 256) :
    hexUnit? '0' '0' (hexDigit (n / 16)) (hexDigit n) = some n := by
  have hzero : Text.hexDigit? '0' = some 0 := by decide
  simp only [hexUnit?, hzero, hexDigit?_hexDigit, Option.bind_eq_bind, Option.bind_some,
    Option.pure_def, Option.some.injEq]
  omega

/-- A character behind a backslash. -/
theorem stringBody_escape {e c : Char} (he : escapeChar? e = some c) (n : Nat) (cs : List Char) :
    stringBody (n + 1) (Char.ofNat 92 :: e :: cs) = consChar c (stringBody n cs) := by
  have hu : e ≠ 'u' := by
    rintro rfl
    cases he
  rw [stringBody, if_neg (by decide), if_neg (by decide), if_neg (by decide), he]
  exact fun _ _ _ _ _ h _ => hu h

/-- A control character, given by its number. -/
theorem stringBody_unit {c : Char} (hc : c.toNat < 32) (n : Nat) (cs : List Char) :
    stringBody (n + 1) ([Char.ofNat 92, 'u', '0', '0', hexDigit (c.toNat / 16),
      hexDigit c.toNat] ++ cs) = consChar c (stringBody n cs) := by
  have hlow : isLowSurrogate c.toNat = false := by
    simp [isLowSurrogate]
    omega
  have hhigh : isHighSurrogate c.toNat = false := by
    simp [isHighSurrogate]
    omega
  simp only [List.cons_append, List.nil_append]
  rw [stringBody, if_neg (by decide), if_neg (by decide), if_neg (by decide)]
  simp only [hexUnit?_hexDigit (Nat.lt_trans hc (by decide : 32 < 256)), hlow, hhigh,
    Bool.false_eq_true, if_false, Bool.not_false, if_true, Char.ofNat_toNat]

theorem stringBody_writeChar (c : Char) (n : Nat) (cs : List Char) :
    stringBody (n + 1) (writeChar c ++ cs) = consChar c (stringBody n cs) := by
  unfold writeChar
  split_ifs with hquote hslash hn hr ht hb hf hcontrol
  · subst hquote
    exact stringBody_escape (by decide) n cs
  · subst hslash
    exact stringBody_escape (by decide) n cs
  · subst hn
    exact stringBody_escape (by decide) n cs
  · subst hr
    exact stringBody_escape (by decide) n cs
  · subst ht
    exact stringBody_escape (by decide) n cs
  · subst hb
    exact stringBody_escape (by decide) n cs
  · subst hf
    exact stringBody_escape (by decide) n cs
  · exact stringBody_unit hcontrol n cs
  · rw [List.singleton_append, stringBody.eq_def]
    simp only [if_neg hquote, if_neg hcontrol, if_pos hslash]

theorem stringBody_flatMap_writeChar (text : List Char) (rest : List Char) {n : Nat}
    (hn : text.length < n) :
    stringBody n (text.flatMap writeChar ++ Char.ofNat 34 :: rest) = some (text, rest) := by
  induction text generalizing n with
  | nil =>
    obtain ⟨n, rfl⟩ := Nat.exists_eq_add_one.2 hn
    rfl
  | cons c text ih =>
    obtain ⟨n, rfl⟩ := Nat.exists_eq_add_one.2 (Nat.zero_lt_of_lt hn)
    rw [List.flatMap_cons, List.append_assoc, stringBody_writeChar, ih (by simpa using hn)]
    rfl

theorem length_le_length_flatMap_writeChar (text : List Char) :
    text.length ≤ (text.flatMap writeChar).length := by
  have hpos (c : Char) : 0 < (writeChar c).length := by
    unfold writeChar
    split_ifs <;> exact Nat.succ_pos _
  induction text with
  | nil => exact Nat.le_refl 0
  | cons c text ih =>
    have hc := hpos c
    rw [List.flatMap_cons, List.length_cons, List.length_append]
    omega

/-- **A string is read back.** -/
theorem string_writeString (s : String) (rest : List Char) :
    string ((writeString s).toList ++ rest) = some (s, rest) := by
  have hfuel : s.toList.length <
      (s.toList.flatMap writeChar ++ Char.ofNat 34 :: rest).length + 1 := by
    have hlength := length_le_length_flatMap_writeChar s.toList
    rw [List.length_append]
    omega
  rw [writeString, String.toList_ofList, List.cons_append, List.append_assoc, string, if_pos rfl,
    List.singleton_append, stringBody_flatMap_writeChar _ _ hfuel]
  simp

/-! ## Numbers -/

/-- The text does not go on with a character that continues a number. -/
def EndsNumber (cs : List Char) : Prop :=
  ∀ c ∈ cs.head?, c.isDigit = false ∧ c ≠ '.' ∧ c ≠ 'e' ∧ c ≠ 'E'

theorem EndsNumber.endsDigits {cs : List Char} (h : EndsNumber cs) : Text.EndsDigits cs :=
  fun c hc => (h c hc).1

theorem EndsNumber.fractionPart {cs : List Char} (h : EndsNumber cs) :
    fractionPart cs = some (none, cs) := by
  unfold Parser.fractionPart
  split
  · exact absurd rfl (h '.' rfl).2.1
  · rfl

theorem EndsNumber.exponentPart {cs : List Char} (h : EndsNumber cs) :
    exponentPart cs = some (none, cs) := by
  unfold Parser.exponentPart
  split
  · exact absurd rfl (h 'e' rfl).2.2.1
  · exact absurd rfl (h 'E' rfl).2.2.2
  · rfl

theorem someDigits_toDigits (n : Nat) {rest : List Char} (h : Text.EndsDigits rest) :
    someDigits (Nat.toDigits 10 n ++ rest) = some (Nat.toDigits 10 n, rest) := by
  have hdigits : ∀ c ∈ Nat.toDigits 10 n, c.isDigit = true :=
    fun _ => Text.isDigit_of_mem_toDigits
  rw [someDigits, digits, Text.takeWhile_digits hdigits h, Text.dropWhile_digits hdigits h]
  split
  · rename_i heq
    exact absurd (Prod.mk.inj heq).1 Nat.toDigits_ne_nil
  · rename_i heq
    cases heq
    rfl

theorem wholePart_toDigits (n : Nat) {rest : List Char} (h : Text.EndsDigits rest) :
    wholePart (Nat.toDigits 10 n ++ rest) = some (Nat.toDigits 10 n, rest) := by
  rw [wholePart, someDigits_toDigits n h]
  rcases Text.toDigits_cases n with ⟨-, hn⟩ | ⟨c, cs, hn, -, hne⟩
  · rw [hn]
    rfl
  · simp [hn, hne]

/-- A run of digits does not begin with a sign or a letter. -/
theorem toDigits_append_ne_cons {c : Char} (hc : c.isDigit = false) (n : Nat)
    (rest cs : List Char) : Nat.toDigits 10 n ++ rest ≠ c :: cs := by
  rcases Text.toDigits_cases n with ⟨-, hn⟩ | ⟨d, ds, hn, hd, -⟩ <;> rw [hn, List.cons_append]
  · rintro heq
    rw [← (List.cons.inj heq).1] at hc
    cases hc
  · rintro heq
    rw [(List.cons.inj heq).1, hc] at hd
    cases hd

theorem signPart_toDigits (n : Nat) (rest : List Char) :
    signPart (Nat.toDigits 10 n ++ rest) = (false, Nat.toDigits 10 n ++ rest) := by
  rw [signPart]
  · exact fun cs => toDigits_append_ne_cons (by decide) n rest cs
  · exact fun cs => toDigits_append_ne_cons (by decide) n rest cs

theorem exponentPart_numeral (e : Int) {rest : List Char} (h : Text.EndsDigits rest) :
    exponentPart ('e' :: (Text.numeral e ++ rest)) = some (some e, rest) := by
  rw [exponentPart]
  rcases Text.numeral_cases e with ⟨n, rfl, he⟩ | ⟨n, -, rfl, he⟩ <;> rw [he]
  · rw [signPart_toDigits]
    simp [someDigits_toDigits n h, Text.digitsValue_toDigits]
  · rw [List.cons_append, signPart]
    simp [someDigits_toDigits n h, Text.digitsValue_toDigits]

/-- An integer, or a decimal if there is an exponent. -/
def wholeNumber (i : Int) : Option Int → Json
  | none => .int i
  | some e => .decimal ⟨i, e⟩

theorem assemble_toDigits (negative : Bool) (n : Nat) (exponent : Option Int) :
    assemble negative (Nat.toDigits 10 n) none exponent =
      wholeNumber (if negative then -n else n) exponent := by
  cases exponent <;> simp [assemble, wholeNumber, Text.digitsValue_toDigits]

section

variable {tail rest : List Char} {exponent : Option Int}

theorem unsignedNumber_toDigits (negative : Bool) (n : Nat) (htail : Text.EndsDigits tail)
    (hfraction : fractionPart tail = some (none, tail))
    (hexponent : exponentPart tail = some (exponent, rest)) :
    unsignedNumber negative (Nat.toDigits 10 n ++ tail) =
      if n < Text.numeralBound then
        some (wholeNumber (if negative then -n else n) exponent, rest)
      else none := by
  have hlong : Text.maxDigits < (Nat.toDigits 10 n).length ↔ ¬n < Text.numeralBound := by
    rw [← Nat.not_le, Text.length_toDigits_le_maxDigits]
  simp only [unsignedNumber, wholePart_toDigits n htail, hfraction, hexponent, assemble_toDigits,
    hlong, ite_not]

/-- A numeral, and an exponent if there is one. -/
theorem number_numeral_append (i : Int) (htail : Text.EndsDigits tail)
    (hfraction : fractionPart tail = some (none, tail))
    (hexponent : exponentPart tail = some (exponent, rest)) :
    number (Text.numeral i ++ tail) =
      if Text.isWritable i then some (wholeNumber i exponent, rest) else none := by
  rcases Text.numeral_cases i with ⟨n, rfl, hi⟩ | ⟨n, -, rfl, hi⟩ <;> rw [hi]
  · rw [number, unsignedNumber_toDigits false n htail hfraction hexponent]
    · simp
    all_goals exact fun _ => toDigits_append_ne_cons (by decide) n _ _
  · rw [List.cons_append, number, unsignedNumber_toDigits true n htail hfraction hexponent]
    · simp
    · exact fun _ => toDigits_append_ne_cons (by decide) n _ _

end

/-- **An integer is read back**, unless it has too many digits. -/
theorem number_int (i : Int) {rest : List Char} (h : EndsNumber rest) :
    number (Text.numeral i ++ rest) =
      if Text.isWritable i then some (.int i, rest) else none := by
  rw [number_numeral_append i h.endsDigits h.fractionPart h.exponentPart, wholeNumber]

/-- **A decimal is read back**, unless its mantissa has too many digits. -/
theorem number_decimal (d : Decimal) {rest : List Char} (h : EndsNumber rest) :
    number (Text.numeral d.mantissa ++ 'e' :: (Text.numeral d.exponent ++ rest)) =
      if Text.isWritable d.mantissa then some (.decimal d, rest) else none := by
  rw [number_numeral_append d.mantissa (Text.endsDigits_cons.2 rfl) rfl
    (exponentPart_numeral d.exponent h.endsDigits), wholeNumber]

end WhileLang.Json.Parser

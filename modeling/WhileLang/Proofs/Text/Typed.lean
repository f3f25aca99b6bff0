import WhileLang.Proofs.Text.Numeral

/-!
# Typed numerals

What a person types for an integer may have blanks around it, a plus sign, digits of any script and
underscores. The numeral of an integer is one such text, and `readInt` reads it back unless it has
too many digits (`readInt_toString`). A key that is given in digits is read in the same way, but a
numeral consists of digits only if the integer is not negative (`allDigits_numeral`).
-/

namespace WhileLang.Text

/-! ## Digits -/

theorem decimalDigit?_of_isDigit {c : Char} (h : c.isDigit = true) :
    decimalDigit? c = some (c.toNat - 48) := by
  have hrange : (48 ≤ c.toNat && c.toNat ≤ 48 + 9) = true := by
    simpa using toNat_of_isDigit h
  have hzero : decimalZeros.find? (fun z => z ≤ c.toNat && c.toNat ≤ z + 9) = some 48 :=
    List.find?_cons_of_pos hrange
  rw [decimalDigit?, hzero, Option.map_some]

theorem isDecimal_of_isDigit {c : Char} (h : c.isDigit = true) : isDecimal c = true := by
  rw [isDecimal, decimalDigit?_of_isDigit h]
  rfl

theorem not_isSpacing_of_mem_numeral {i : Int} {c : Char} (h : c ∈ numeral i) :
    isSpacing c = false := by
  rw [isSpacing, not_isBlank_of_mem_numeral h, Bool.false_or]
  rcases mem_numeral h with h | rfl
  · have hrange := toNat_of_isDigit h
    simp only [within, List.any_cons, List.any_nil]
    simp
    omega
  · decide

theorem strip_toString (i : Int) : strip (toString i) = toString i := by
  rw [strip, ← numeral, trim_numeral fun _ => not_isSpacing_of_mem_numeral, numeral,
    String.ofList_toList]

/-! ## Runs of digits -/

/-- Digits are read on top of the value that they follow. -/
theorem readDigits_eq_foldl {ds : List Char} (h : ∀ c ∈ ds, c.isDigit = true) (value : Nat) :
    readDigits value true ds = some (ds.foldl (fun n c => 10 * n + (c.toNat - 48)) value) := by
  induction ds generalizing value with
  | nil => rfl
  | cons c ds ih =>
    obtain ⟨hc, hds⟩ := List.forall_mem_cons.1 h
    rw [readDigits, decimalDigit?_of_isDigit hc, List.foldl_cons]
    exact ih hds _

theorem readDigits_toDigits (n : Nat) : readDigits 0 false (Nat.toDigits 10 n) = some n := by
  have hdigits : ∀ c ∈ Nat.toDigits 10 n, c.isDigit = true := fun _ => isDigit_of_mem_toDigits
  have hvalue := digitsValue_toDigits n
  cases hn : Nat.toDigits 10 n with
  | nil => exact absurd hn Nat.toDigits_ne_nil
  | cons c ds =>
    rw [hn] at hdigits hvalue
    obtain ⟨hc, hds⟩ := List.forall_mem_cons.1 hdigits
    rw [readDigits, decimalDigit?_of_isDigit hc]
    exact (readDigits_eq_foldl hds _).trans (congrArg some hvalue)

theorem digitCount_toDigits (n : Nat) :
    digitCount (Nat.toDigits 10 n) = (Nat.toDigits 10 n).length :=
  List.countP_eq_length.2 fun _ hc => isDecimal_of_isDigit (isDigit_of_mem_toDigits hc)

/-! ## Reading numerals -/

/-- The minus sign does not count as a digit. -/
theorem digitCount_numeral (i : Int) :
    digitCount (numeral i) = (Nat.toDigits 10 i.natAbs).length := by
  rcases numeral_cases i with ⟨n, rfl, hi⟩ | ⟨n, -, rfl, hi⟩ <;> rw [hi]
  · exact digitCount_toDigits n
  · rw [digitCount, List.countP_cons_of_neg (by decide), Int.natAbs_neg]
    exact digitCount_toDigits n

theorem digitCount_numeral_le (i : Int) :
    digitCount (numeral i) ≤ maxDigits ↔ isWritable i = true := by
  have hpos : 0 < maxDigits := by decide
  rw [digitCount_numeral, length_toDigits_le hpos, isWritable, numeralBound, decide_eq_true_eq]

theorem typedInt?_toString (i : Int) : typedInt? (toString i) = some i := by
  rw [typedInt?, ← numeral, trim_numeral fun _ => not_isBlank_of_mem_numeral]
  rcases numeral_cases i with ⟨n, rfl, hi⟩ | ⟨n, -, rfl, hi⟩ <;> rw [hi]
  · have hread := readDigits_toDigits n
    rcases toDigits_cases n with ⟨-, h⟩ | ⟨c, cs, h, hc, -⟩ <;> rw [h] at hread ⊢
    · rw [readSigned, hread] <;> simp
    · have hsign : ∀ d : Char, d.isDigit = false → c ≠ d := by
        rintro d hd rfl
        rw [hc] at hd
        cases hd
      rw [readSigned, hread]
      · rfl
      · intro ds h
        exact hsign '-' (by decide) (List.cons.inj h).1
      · intro ds h
        exact hsign '+' (by decide) (List.cons.inj h).1
  · rw [readSigned, readDigits_toDigits]
    rfl

/-- **Reading a numeral that is typed.** It is read back, unless it has too many digits. -/
theorem readInt_toString (i : Int) :
    readInt (toString i) = if isWritable i then some i else none := by
  rw [readInt, ← numeral, typedInt?_toString]
  exact if_congr (digitCount_numeral_le i) rfl rfl

/-! ## Keys in digits -/

theorem allDigits_toDigits (n : Nat) : allDigits (Nat.toDigits 10 n) = true := by
  rw [allDigits, Bool.and_eq_true, List.all_eq_true]
  refine ⟨by simp [Nat.toDigits_ne_nil], fun c hc => ?_⟩
  rw [isDigit, isDecimal_of_isDigit (isDigit_of_mem_toDigits hc), Bool.true_or]

/-- Only the numeral of a negative integer has something else than digits. -/
theorem allDigits_numeral (i : Int) : allDigits (numeral i) = decide (0 ≤ i) := by
  rcases numeral_cases i with ⟨n, rfl, hi⟩ | ⟨n, hpos, rfl, hi⟩ <;> rw [hi]
  · rw [allDigits_toDigits, decide_eq_true (by omega)]
  · rw [decide_eq_false (by omega)]
    have hminus : isDigit '-' = false := by decide
    simp [allDigits, hminus]

end WhileLang.Text

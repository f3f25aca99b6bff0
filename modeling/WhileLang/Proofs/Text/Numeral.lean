import Mathlib.Data.List.TakeWhile
import WhileLang.Text.IntLiteral

/-!
# Numerals

The decimal text of an integer is a run of digits without a leading zero, behind a minus sign if the
integer is negative (`numeral_cases`). A run of digits has its end where something else follows, so
an integer is read off the front of a text that its numeral begins (`numeral_append_inj`).
`readLooseInt` reads a numeral back, unless it is too long (`readLooseInt_toString`), and what it
reads can always be written (`isWritable_of_readLooseInt_eq`).
-/

namespace WhileLang.Text

/-- The decimal text of an integer. -/
def numeral (i : Int) : List Char := (toString i).toList

@[simp] theorem toList_repr (i : Int) : i.repr.toList = numeral i := rfl

/-- The text goes on with something that is no digit, or it ends. -/
def EndsDigits (cs : List Char) : Prop := ∀ c ∈ cs.head?, c.isDigit = false

@[simp] theorem endsDigits_nil : EndsDigits [] := fun _ h => by cases h

@[simp] theorem endsDigits_cons {c : Char} {cs : List Char} :
    EndsDigits (c :: cs) ↔ c.isDigit = false := by
  simp [EndsDigits]

/-! ## Runs of digits -/

theorem isDigit_of_mem_toDigits {n : Nat} {c : Char} (h : c ∈ Nat.toDigits 10 n) :
    c.isDigit = true :=
  Nat.isDigit_of_mem_toDigits (by decide) (by decide) h

theorem all_isDigit_toDigits (n : Nat) : (Nat.toDigits 10 n).all Char.isDigit = true :=
  List.all_eq_true.2 fun _ => isDigit_of_mem_toDigits

theorem digitsValue_toDigits (n : Nat) : digitsValue (Nat.toDigits 10 n) = n :=
  Nat.ofDigitChars_ten_toDigits

theorem toDigits_inj {m n : Nat} (h : Nat.toDigits 10 m = Nat.toDigits 10 n) : m = n := by
  rw [← digitsValue_toDigits m, h, digitsValue_toDigits]

theorem length_toDigits_le {n k : Nat} (hk : 0 < k) :
    (Nat.toDigits 10 n).length ≤ k ↔ n < powerOfTen k :=
  Nat.length_toDigits_le_iff (by decide) hk

theorem powerOfTen_pos (n : Nat) : 0 < powerOfTen n := Nat.pow_pos (by decide)

theorem numeralBound_pos : 0 < numeralBound := powerOfTen_pos maxDigits

theorem length_toDigits_le_maxDigits (n : Nat) :
    (Nat.toDigits 10 n).length ≤ maxDigits ↔ n < numeralBound :=
  length_toDigits_le (by decide)

/-- The digits of a number do not begin with a zero, unless that is all. -/
theorem toDigits_cases (n : Nat) :
    (n = 0 ∧ Nat.toDigits 10 n = ['0']) ∨
      ∃ c cs, Nat.toDigits 10 n = c :: cs ∧ c.isDigit = true ∧ c ≠ '0' := by
  induction n using Nat.strongRecOn with
  | ind n ih =>
    by_cases hn : n < 10
    · have hdigit : ∀ m < 10, m = 0 ∨ m.digitChar.isDigit = true ∧ m.digitChar ≠ '0' := by decide
      rw [Nat.toDigits_of_lt_base hn]
      rcases hdigit n hn with rfl | hc
      · exact .inl ⟨rfl, rfl⟩
      · exact .inr ⟨_, [], rfl, hc⟩
    · rw [Nat.toDigits_of_base_le (by decide) (by omega)]
      rcases ih (n / 10) (by omega) with ⟨h0, -⟩ | ⟨c, cs, hcs, hc, hne⟩
      · omega
      · exact .inr ⟨c, cs ++ _, by rw [hcs]; rfl, hc, hne⟩

theorem takeWhile_digits {ds rest : List Char} (hds : ∀ c ∈ ds, c.isDigit = true)
    (hrest : EndsDigits rest) : (ds ++ rest).takeWhile Char.isDigit = ds := by
  have hnone : rest.takeWhile Char.isDigit = [] := by
    cases rest with
    | nil => rfl
    | cons c cs => rw [List.takeWhile_cons, endsDigits_cons.1 hrest, if_neg Bool.false_ne_true]
  rw [List.takeWhile_append_of_pos hds, hnone, List.append_nil]

theorem dropWhile_digits {ds rest : List Char} (hds : ∀ c ∈ ds, c.isDigit = true)
    (hrest : EndsDigits rest) : (ds ++ rest).dropWhile Char.isDigit = rest := by
  have hall : rest.dropWhile Char.isDigit = rest := by
    cases rest with
    | nil => rfl
    | cons c cs => rw [List.dropWhile_cons, endsDigits_cons.1 hrest, if_neg Bool.false_ne_true]
  rw [List.dropWhile_append_of_pos hds, hall]

theorem toDigits_append_inj {m n : Nat} {p q : List Char} (hp : EndsDigits p) (hq : EndsDigits q)
    (h : Nat.toDigits 10 m ++ p = Nat.toDigits 10 n ++ q) : m = n ∧ p = q := by
  have hdigits : Nat.toDigits 10 m = Nat.toDigits 10 n := by
    rw [← takeWhile_digits (fun _ => isDigit_of_mem_toDigits) hp, h,
      takeWhile_digits (fun _ => isDigit_of_mem_toDigits) hq]
  rw [hdigits, List.append_cancel_left_eq] at h
  exact ⟨toDigits_inj hdigits, h⟩

/-! ## Numerals of integers -/

@[simp] theorem isWritable_natCast (n : Nat) : isWritable n = decide (n < numeralBound) := rfl

@[simp] theorem isWritable_neg (i : Int) : isWritable (-i) = isWritable i := by
  rw [isWritable, isWritable, Int.natAbs_neg]

/-- The two forms of a numeral. -/
theorem numeral_cases (i : Int) :
    (∃ n : Nat, i = n ∧ numeral i = Nat.toDigits 10 n) ∨
      ∃ n : Nat, 0 < n ∧ i = -n ∧ numeral i = '-' :: Nat.toDigits 10 n := by
  rw [numeral, Int.toString_eq_repr, Int.repr_eq_if]
  split
  · exact .inl ⟨i.toNat, by omega, Nat.toList_repr⟩
  · refine .inr ⟨(-i).toNat, by omega, by omega, ?_⟩
    rw [String.toList_append, Nat.toList_repr]
    rfl

theorem numeral_natCast (n : Nat) : numeral n = Nat.toDigits 10 n := by
  rcases numeral_cases n with ⟨m, hm, h⟩ | ⟨m, hpos, hm, -⟩
  · rw [h, Int.ofNat_inj.1 hm]
  · omega

/-- A numeral begins with a digit or with a minus sign. -/
theorem exists_numeral_eq_cons (i : Int) :
    ∃ c cs, numeral i = c :: cs ∧ (c.isDigit = true ∨ c = '-') := by
  rcases numeral_cases i with ⟨n, -, h⟩ | ⟨n, -, -, h⟩
  · rw [h]
    cases hd : Nat.toDigits 10 n with
    | nil => exact absurd hd Nat.toDigits_ne_nil
    | cons c cs =>
      have hc : c ∈ Nat.toDigits 10 n := hd ▸ List.mem_cons_self ..
      exact ⟨c, cs, rfl, .inl (isDigit_of_mem_toDigits hc)⟩
  · exact ⟨'-', _, h, .inr rfl⟩

theorem mem_numeral {i : Int} {c : Char} (h : c ∈ numeral i) : c.isDigit = true ∨ c = '-' := by
  rcases numeral_cases i with ⟨n, -, hn⟩ | ⟨n, -, -, hn⟩ <;> rw [hn] at h
  · exact .inl (isDigit_of_mem_toDigits h)
  · rcases List.mem_cons.1 h with rfl | h
    · exact .inr rfl
    · exact .inl (isDigit_of_mem_toDigits h)

/-- **An integer at the front of a text.** -/
theorem numeral_append_inj {i j : Int} {p q : List Char} (hp : EndsDigits p) (hq : EndsDigits q)
    (h : numeral i ++ p = numeral j ++ q) : i = j ∧ p = q := by
  have hminus (n : Nat) (cs : List Char) (p : List Char) :
      Nat.toDigits 10 n ++ p ≠ '-' :: cs := by
    rcases toDigits_cases n with ⟨-, hn⟩ | ⟨c, ds, hn, hc, -⟩ <;> rw [hn]
    · simp
    · rw [List.cons_append]
      intro h
      rw [(List.cons.inj h).1] at hc
      exact absurd hc (by decide)
  rcases numeral_cases i with ⟨m, rfl, hi⟩ | ⟨m, -, rfl, hi⟩ <;>
    rcases numeral_cases j with ⟨n, rfl, hj⟩ | ⟨n, -, rfl, hj⟩ <;> rw [hi, hj] at h
  · obtain ⟨rfl, hpq⟩ := toDigits_append_inj hp hq h
    exact ⟨rfl, hpq⟩
  · exact absurd h (hminus _ _ _)
  · exact absurd h.symm (hminus _ _ _)
  · obtain ⟨rfl, hpq⟩ := toDigits_append_inj hp hq (List.cons.inj h).2
    exact ⟨rfl, hpq⟩

/-! ## Reading numerals -/

/-- A numeral has no characters but digits and a minus sign. -/
theorem ne_of_mem_numeral {i : Int} {c d : Char} (h : c ∈ numeral i) (hd : d.isDigit = false)
    (hminus : d ≠ '-') : c ≠ d := by
  rintro rfl
  rcases mem_numeral h with h | h
  · rw [hd] at h
    cases h
  · exact hminus h

theorem toNat_of_isDigit {c : Char} (h : c.isDigit = true) : 48 ≤ c.toNat ∧ c.toNat ≤ 57 := by
  simpa [Char.isDigit, Char.le_def, UInt32.le_iff_toNat_le] using h

theorem not_isBlank_of_mem_numeral {i : Int} {c : Char} (h : c ∈ numeral i) :
    isBlank c = false := by
  rcases mem_numeral h with h | rfl
  · have hrange := toNat_of_isDigit h
    simp only [isBlank, within, blankRanges, List.any_cons, List.any_nil]
    simp
    omega
  · decide

/-- Nothing is trimmed off a numeral. -/
theorem trim_numeral {p : Char → Bool} {i : Int} (h : ∀ c ∈ numeral i, p c = false) :
    trim p (numeral i) = numeral i :=
  trim_eq_self (fun _ hc => h _ (List.mem_of_mem_head? hc))
    fun _ hc => h _ (List.mem_of_mem_getLast? hc)

theorem dropZeroFraction_eq_self {cs : List Char} (h : ∀ c ∈ cs, c ≠ '.') :
    dropZeroFraction cs = cs := by
  have hnone : cs.dropWhile (· ≠ '.') = [] := by
    exact List.dropWhile_eq_nil_iff.2 fun c hc => decide_eq_true (h c hc)
  rw [dropZeroFraction, hnone]
  rfl

theorem dropUnderscores_eq_self {cs : List Char} (h : ∀ c ∈ cs, c ≠ '_') :
    dropUnderscores cs = cs := by
  rw [dropUnderscores]
  split
  · rfl
  · exact List.filter_eq_self.2 fun c hc => decide_eq_true (h c hc)

theorem dropLeadingZeros_toDigits (n : Nat) :
    dropLeadingZeros (Nat.toDigits 10 n) = some (Nat.toDigits 10 n) := by
  rcases toDigits_cases n with ⟨-, h⟩ | ⟨c, cs, h, hc, hne⟩ <;> rw [h]
  · rfl
  · rw [dropLeadingZeros, if_neg hne, if_pos (.inr hc)]

/-- A numeral is in the plain form. -/
theorem plain?_numeral (i : Int) : plain? (numeral i) = some (numeral i) := by
  have hkeep : dropUnderscores (dropZeroFraction (numeral i)) = numeral i := by
    rw [dropZeroFraction_eq_self fun _ hc => ne_of_mem_numeral hc (by decide) (by decide),
      dropUnderscores_eq_self fun _ hc => ne_of_mem_numeral hc (by decide) (by decide)]
  rcases numeral_cases i with ⟨n, -, hi⟩ | ⟨n, -, -, hi⟩
  · rcases toDigits_cases n with ⟨-, h⟩ | ⟨c, cs, h, hc, -⟩
    · rw [hi, h]
      rfl
    · have hfront : dropLeadingZeros (c :: cs) = some (c :: cs) := by
        rw [← h, dropLeadingZeros_toDigits]
      have hplus : c ≠ '+' := by
        rintro rfl
        cases hc
      have hminus : c ≠ '-' := by
        rintro rfl
        cases hc
      rw [hi, h] at hkeep ⊢
      rw [plain?, hfront, Option.map_some, hkeep]
      all_goals simp [hplus, hminus]
  · rw [hi] at hkeep ⊢
    simp only [plain?, dropLeadingZeros_toDigits, Option.map_some, hkeep]

theorem plainNat?_toDigits (n : Nat) :
    plainNat? (Nat.toDigits 10 n) = if n < numeralBound then some n else none := by
  have hvalue := digitsValue_toDigits n
  have hall := all_isDigit_toDigits n
  have hlength := length_toDigits_le_maxDigits n
  rcases toDigits_cases n with ⟨rfl, h⟩ | ⟨c, cs, h, hc, hne⟩
  · rw [if_pos numeralBound_pos]
    rfl
  · rw [h] at hvalue hall hlength ⊢
    rw [plainNat?]
    · simp only [hall, and_true, hvalue, hlength]
    · simp
    · simp [hne]

theorem plainInt?_numeral (i : Int) :
    plainInt? (numeral i) = if isWritable i then some i else none := by
  rcases numeral_cases i with ⟨n, rfl, hi⟩ | ⟨n, -, rfl, hi⟩ <;> rw [hi]
  · rcases toDigits_cases n with ⟨rfl, h⟩ | ⟨c, cs, h, hc, hne⟩
    · simp only [isWritable_natCast, numeralBound_pos, decide_true, if_true]
      rfl
    · have hminus : c ≠ '-' := by
        rintro rfl
        cases hc
      have hn := plainNat?_toDigits n
      rw [h] at hn ⊢
      rw [plainInt?, hn]
      · by_cases hshort : n < numeralBound <;> simp [hshort]
      · simp [hminus]
  · rw [plainInt?, plainNat?_toDigits]
    by_cases hshort : n < numeralBound <;> simp [hshort]

/-- **Reading a numeral.** It is read back, unless it has too many digits. -/
theorem readLooseInt_toString (i : Int) :
    readLooseInt (toString i) = if isWritable i then some i else none := by
  rw [readLooseInt, ← numeral, trim_numeral fun _ => not_isBlank_of_mem_numeral, plain?_numeral,
    Option.bind_some, plainInt?_numeral]

theorem isWritable_numeralBound : isWritable numeralBound = false := by
  rw [isWritable_natCast]
  exact decide_eq_false (Nat.lt_irrefl _)

/-- Half of the first number that is too long to be written. -/
theorem isWritable_half {n : Nat} (hn : numeralBound = powerOfTen (n + 1)) :
    isWritable (5 * powerOfTen n) = true ∧
      isWritable (5 * powerOfTen n + 5 * powerOfTen n) = false := by
  have hpos := powerOfTen_pos n
  have hbound : numeralBound = 10 * powerOfTen n := hn.trans Nat.pow_succ'
  simp only [isWritable, hbound, decide_eq_true_eq, decide_eq_false_iff_not]
  omega

/-! ## The size of what is read -/

theorem digitsValue_cons (c : Char) (ds : List Char) :
    digitsValue (c :: ds) = powerOfTen ds.length * (c.toNat - 48) + digitsValue ds :=
  Nat.ofDigitChars_cons.trans (Nat.ofDigitChars_eq_ofDigitChars_zero.trans
    (by rw [Nat.mul_zero, Nat.zero_add]; rfl))

theorem digitsValue_lt {ds : List Char} (h : ∀ c ∈ ds, c.isDigit = true) :
    digitsValue ds < powerOfTen ds.length := by
  induction ds with
  | nil => decide
  | cons c ds ih =>
    obtain ⟨hc, hds⟩ := List.forall_mem_cons.1 h
    have hrest : digitsValue ds < powerOfTen ds.length := ih hds
    have hdigit : c.toNat - 48 ≤ 9 := by
      have hrange := toNat_of_isDigit hc
      omega
    calc digitsValue (c :: ds) = powerOfTen ds.length * (c.toNat - 48) + digitsValue ds :=
          digitsValue_cons c ds
      _ < powerOfTen ds.length * 9 + powerOfTen ds.length :=
          Nat.add_lt_add_of_le_of_lt (Nat.mul_le_mul_left _ hdigit) hrest
      _ = powerOfTen ds.length * 10 := (Nat.mul_succ _ 9).symm
      _ = powerOfTen (c :: ds).length := (Nat.pow_succ _ _).symm

theorem powerOfTen_le_powerOfTen {m n : Nat} (h : m ≤ n) : powerOfTen m ≤ powerOfTen n :=
  Nat.pow_le_pow_right (Nat.succ_pos 9) h

theorem lt_of_plainNat?_eq {ds : List Char} {n : Nat} (h : plainNat? ds = some n) :
    n < numeralBound := by
  unfold plainNat? at h
  split at h
  · cases h
  · cases h
  · split at h
    · rename_i hds
      obtain rfl := Option.some.inj h
      exact Nat.lt_of_lt_of_le (digitsValue_lt (List.all_eq_true.1 hds.2))
        (powerOfTen_le_powerOfTen hds.1)
    · cases h

/-- What is read can be written. -/
theorem isWritable_of_plainInt?_eq {cs : List Char} {i : Int} (h : plainInt? cs = some i) :
    isWritable i = true := by
  unfold plainInt? at h
  split at h
  · obtain ⟨n, hn, rfl⟩ := Option.map_eq_some_iff.1 h
    rw [isWritable_neg]
    exact decide_eq_true (lt_of_plainNat?_eq hn)
  · obtain ⟨n, hn, rfl⟩ := Option.map_eq_some_iff.1 h
    exact decide_eq_true (lt_of_plainNat?_eq hn)

theorem isWritable_of_readLooseInt_eq {s : String} {i : Int} (h : readLooseInt s = some i) :
    isWritable i = true := by
  obtain ⟨cs, -, hcs⟩ := Option.bind_eq_some_iff.1 h
  exact isWritable_of_plainInt?_eq hcs

theorem isWritable_of_le {i j : Int} (h0 : 0 ≤ i) (hle : i ≤ j) (hj : isWritable j = true) :
    isWritable i = true := by
  simp only [isWritable, decide_eq_true_eq] at hj ⊢
  omega

end WhileLang.Text

import Mathlib.Data.List.Induction
import Mathlib.Data.List.Nodup
import WhileLang.CommandLine.Binding
import WhileLang.Proofs.Text.Typed

/-!
# Variables on the command line

A variable that is shown under some text can be set under this text, if the text can be told from
what else a binding may hold (`Names.Addresses`): it has no equals sign and no blanks at its ends,
and it is not the name of another variable. A text that is a name counts as such, so that a variable
named `x0` or `3` is set under its name. An unnamed variable is shown as `x` and its key, which
cannot be read back if the key is negative or has too many digits.

What a list of bindings makes of a state is what the last binding of each variable says
(`variables_are_set_as_shown`).
-/

namespace WhileLang

namespace Names

variable {ns : Names} {x y : Ident} {name : String}

/-- The text under which a variable is shown stands for it alone: it can be cut off at the equals
sign, it has no blanks at its ends, and it names no other variable. -/
structure Addresses (ns : Names) (x : Ident) : Prop where
  noEquals : '=' ∉ (ns.display x).toList
  stripped : Text.strip (ns.display x) = ns.display x
  unshared : ∀ y, y ≠ x → ns.get? y ≠ some (ns.display x)

/-- A variable without a name is given by its key: it must not be negative, nor too long. -/
def Typeable (ns : Names) (x : Ident) : Prop :=
  ns.get? x = none → 0 ≤ x ∧ Text.isWritable x = true

/-! ## From names to variables -/

theorem get?_eq_some_iff : ns.get? x = some name ↔ (x, name) ∈ ns.entries := by
  rw [get?, Option.map_eq_some_iff]
  constructor
  · rintro ⟨e, he, rfl⟩
    have hx : e.1 = x := by simpa using List.find?_some he
    exact hx ▸ List.mem_of_find?_eq_some he
  · intro h
    cases hfind : ns.entries.find? fun e => e.1 = x with
    | none => simpa using List.find?_eq_none.1 hfind _ h
    | some e =>
      have hx : e.1 = x := by simpa using List.find?_some hfind
      have he : e = (x, name) :=
        List.inj_on_of_nodup_map ns.distinct (List.mem_of_find?_eq_some hfind) h hx
      exact ⟨e, rfl, congrArg Prod.snd he⟩

theorem identOf?_eq_none_iff : ns.identOf? name = none ↔ ∀ y, ns.get? y ≠ some name := by
  rw [identOf?, Option.map_eq_none_iff, List.find?_eq_none]
  constructor
  · intro h y hy
    exact h (y, name) (List.mem_reverse.2 (get?_eq_some_iff.1 hy)) (decide_eq_true rfl)
  · rintro h ⟨y, n⟩ he hn
    obtain rfl : n = name := of_decide_eq_true hn
    exact h y (get?_eq_some_iff.2 (List.mem_reverse.1 he))

/-- A name stands for a variable that carries it. -/
theorem get?_of_identOf? (h : ns.identOf? name = some x) : ns.get? x = some name := by
  obtain ⟨e, he, rfl⟩ := Option.map_eq_some_iff.1 h
  obtain rfl : e.2 = name := by simpa using List.find?_some he
  exact get?_eq_some_iff.2 (List.mem_reverse.1 (List.mem_of_find?_eq_some he))

/-- Read back, the text of a variable stands for the variable if it is its name, and for none if the
variable has no name. -/
theorem Addresses.identOf? (h : ns.Addresses x) :
    ns.identOf? (ns.display x) = (ns.get? x).map fun _ => x := by
  cases hname : ns.get? x with
  | none =>
    refine identOf?_eq_none_iff.2 fun y hy => ?_
    have hne : y ≠ x := by
      rintro rfl
      rw [hname] at hy
      cases hy
    exact h.unshared y hne hy
  | some name =>
    cases hy : ns.identOf? (ns.display x) with
    | none =>
      exact absurd (display_of_get? hname ▸ hname) (identOf?_eq_none_iff.1 hy x)
    | some y =>
      have hyx : y = x := by_contra fun hne => h.unshared y hne (get?_of_identOf? hy)
      rw [hyx, Option.map_some]

instance : Decidable (ns.Addresses x) :=
  decidable_of_iff ('=' ∉ (ns.display x).toList ∧ Text.strip (ns.display x) = ns.display x ∧
      ∀ e ∈ ns.entries, e.2 = ns.display x → e.1 = x) <| by
    constructor
    · rintro ⟨hequals, hstrip, hentries⟩
      exact ⟨hequals, hstrip, fun y hne hy => hne (hentries _ (get?_eq_some_iff.1 hy) rfl)⟩
    · intro h
      refine ⟨h.noEquals, h.stripped, fun e he hname => by_contra fun hne => ?_⟩
      exact h.unshared e.1 hne (get?_eq_some_iff.2 (hname ▸ he))

/-- A name that looks like a key hides the variable with this key. -/
example : ¬ (Names.ofList [(5, "x0")]).Addresses 0 := by decide +kernel

instance : Decidable (ns.Typeable x) :=
  inferInstanceAs (Decidable (ns.get? x = none → 0 ≤ x ∧ Text.isWritable x = true))

end Names

namespace CommandLine

open Text (allDigits_numeral isWritable numeral readInt_toString)

variable {ns : Names} {x : Ident} {v : Int}

/-! ## One binding -/

/-- The binding that gives a variable a value under the text with which it is shown. -/
def bindingText (ns : Names) (x : Ident) (v : Int) : String := ns.display x ++ "=" ++ toString v

/-- The first equals sign ends the text of the variable. -/
theorem parseBinding_append {key : String} (hkey : '=' ∉ key.toList) (ns : Names)
    (value : String) :
    parseBinding ns (key ++ "=" ++ value) = (identOfKey ns (Text.strip key)).bind fun x =>
      (Text.readInt (Text.strip value)).elim (.error (.notAnInteger value))
        fun v => .ok (x, v) := by
  have hraw : (key ++ "=" ++ value).toList = key.toList ++ '=' :: value.toList := by
    simp [String.toList_append]
  have hkeep : ∀ c ∈ key.toList, (decide (c ≠ '=')) = true := fun c hc =>
    decide_eq_true (ne_of_mem_of_not_mem hc hkey)
  have hdrop : (key.toList ++ '=' :: value.toList).dropWhile (· ≠ '=') = '=' :: value.toList := by
    rw [List.dropWhile_append_of_pos hkeep, List.dropWhile_cons_of_neg (by decide)]
  have htake : (key.toList ++ '=' :: value.toList).takeWhile (· ≠ '=') = key.toList := by
    rw [List.takeWhile_append_of_pos hkeep, List.takeWhile_cons_of_neg (by decide),
      List.append_nil]
  rw [parseBinding, hraw, hdrop, htake]
  simp only [String.ofList_toList]
  cases Text.readInt (Text.strip value) <;> rfl

/-- A key in digits is read back, unless it has too many of them. -/
theorem identOfDigits_numeral (hx : 0 ≤ x) :
    identOfDigits (String.ofList (numeral x)) =
      if isWritable x then .ok x else .error (.tooManyDigits (numeral x).length) := by
  have hdecimal : ∀ c ∈ numeral x, Text.isDecimal c = true := by
    rw [← Int.toNat_of_nonneg hx, Text.numeral_natCast]
    exact fun c hc => Text.isDecimal_of_isDigit (Text.isDigit_of_mem_toDigits hc)
  have hcount : Text.digitCount (numeral x) = (numeral x).length :=
    List.countP_eq_length.2 hdecimal
  have hread : Text.typedInt? (String.ofList (numeral x)) = some x := by
    rw [numeral, String.ofList_toList, Text.typedInt?_toString]
  have hlong : Text.maxDigits < (numeral x).length ↔ ¬isWritable x = true := by
    rw [← Text.digitCount_numeral_le, hcount, Nat.not_le]
  rw [identOfDigits, String.toList_ofList, List.takeWhile_eq_self_iff.2 hdecimal, hread]
  by_cases hw : isWritable x = true
  · rw [if_neg (hlong.not.2 (not_not.2 hw)), if_pos hw]
  · rw [if_pos (hlong.2 hw), if_neg hw]

/-- What the text of a variable is read as: its name comes first, then `x` and its key. -/
theorem identOfKey_display (h : ns.Addresses x) :
    identOfKey ns (ns.display x) =
      if ns.Typeable x then .ok x
      else if 0 ≤ x then .error (.tooManyDigits (numeral x).length)
      else .error (.unknownVariable (ns.display x)) := by
  rw [identOfKey, h.identOf?]
  cases hname : ns.get? x with
  | some name =>
    have hx : ns.Typeable x := by simp [Names.Typeable, hname]
    rw [if_pos hx, Option.map_some]
  | none =>
    have hshown : (ns.display x).toList = 'x' :: numeral x := by
      simp only [Names.display, hname]
      rw [String.toList_append]
      rfl
    have hletter : Text.allDigits ('x' :: numeral x) = false := by
      have hx : Text.isDigit 'x' = false := by decide
      simp [Text.allDigits, hx]
    have htypeable : ns.Typeable x ↔ 0 ≤ x ∧ isWritable x = true := by
      simp [Names.Typeable, hname]
    simp only [Option.map_none, hshown, hletter, Bool.false_eq_true, if_false, allDigits_numeral,
      decide_eq_true_eq, htypeable]
    by_cases hx : 0 ≤ x
    · rw [if_pos hx, identOfDigits_numeral hx]
      simp only [hx, true_and, if_true]
    · simp only [hx, false_and, if_false]

/-- **The binding of a shown variable.** The variable is read before the value. -/
theorem parseBinding_bindingText (h : ns.Addresses x) (v : Int) :
    parseBinding ns (bindingText ns x v) =
      if ns.Typeable x then
        if isWritable v then .ok (x, v) else .error (.notAnInteger (toString v))
      else if 0 ≤ x then .error (.tooManyDigits (numeral x).length)
      else .error (.unknownVariable (ns.display x)) := by
  rw [bindingText, parseBinding_append h.noEquals, h.stripped, identOfKey_display h,
    Text.strip_toString, readInt_toString]
  split
  · cases isWritable v <;> rfl
  · split <;> rfl

theorem parseBinding_eq_ok_iff (h : ns.Addresses x) {b : Ident × Int} :
    parseBinding ns (bindingText ns x v) = .ok b ↔
      (ns.Typeable x ∧ isWritable v = true) ∧ (x, v) = b := by
  rw [parseBinding_bindingText h]
  split
  · rename_i hx
    cases isWritable v <;> simp [hx]
  · rename_i hx
    split <;> simp [hx]

/-! ## Refused bindings -/

theorem category_of_identOfDigits {text : String} {e : Error}
    (h : identOfDigits text = .error e) : e.category = .invalidValue := by
  simp only [identOfDigits] at h
  split at h
  · cases h
    rfl
  · split at h <;> cases h
    rfl

theorem category_of_identOfKey {key : String} {e : Error} (h : identOfKey ns key = .error e) :
    e.category = .invalidValue := by
  unfold identOfKey at h
  split at h
  · cases h
  · split at h
    · exact category_of_identOfDigits h
    · split at h
      · split at h
        · exact category_of_identOfDigits h
        · cases h
          rfl
      · cases h
        rfl

/-- A binding that is refused is an invalid value. -/
theorem category_of_parseBinding {raw : String} {e : Error} (h : parseBinding ns raw = .error e) :
    e.category = .invalidValue := by
  unfold parseBinding at h
  split at h
  · cases h
    rfl
  · rename_i value _
    rcases bind_eq_error_iff.1 h with hkey | ⟨x, -, hvalue⟩
    · exact category_of_identOfKey hkey
    · split at hvalue <;> cases hvalue
      rfl

theorem category_of_bindAll {raws : List (Option String)} {s : State} {e : Error}
    (h : bindAll ns s raws = .error e) : e.category = .invalidValue := by
  induction raws generalizing s with
  | nil => cases h
  | cons raw raws ih =>
    cases raw with
    | none =>
      cases h
      rfl
    | some raw =>
      rw [bindAll] at h
      split at h
      · rename_i hraw
        cases h
        exact category_of_parseBinding hraw
      · exact ih h

/-! ## Several bindings -/

/-- Of the updates of a variable the last one counts. -/
theorem lookup_foldl_update (bs : List (Ident × Int)) (s : State) (z : Ident) :
    (bs.foldl (fun s b => s.update b.1 b.2) s).lookup z =
      (bs.reverse.lookup z).getD (s.lookup z) := by
  induction bs using List.reverseRecOn with
  | nil => rfl
  | append_singleton bs b ih =>
    rw [List.foldl_append, List.foldl_cons, List.foldl_nil, State.lookup_update, ih,
      List.reverse_append, List.reverse_singleton, List.singleton_append, List.lookup_cons]
    by_cases hz : z = b.1
    · rw [if_pos hz, beq_iff_eq.2 hz]
      rfl
    · rw [if_neg hz, beq_eq_false_iff_ne.2 hz]

/-- Bindings of shown variables are taken if each of them is, and change the state in order. -/
theorem bindAll_eq_ok_iff {bs : List (Ident × Int)} (h : ∀ b ∈ bs, ns.Addresses b.1)
    {s t : State} :
    bindAll ns s (bs.map fun b => some (bindingText ns b.1 b.2)) = .ok t ↔
      (∀ b ∈ bs, ns.Typeable b.1 ∧ isWritable b.2 = true) ∧
        bs.foldl (fun s b => s.update b.1 b.2) s = t := by
  induction bs generalizing s with
  | nil => simp [bindAll]
  | cons b bs ih =>
    obtain ⟨hb, hbs⟩ := List.forall_mem_cons.1 h
    have hread {c : Ident × Int} := parseBinding_eq_ok_iff hb (v := b.2) (b := c)
    rw [List.map_cons, List.forall_mem_cons, List.foldl_cons, and_assoc, ← ih hbs, bindAll]
    cases hraw : parseBinding ns (bindingText ns b.1 b.2) with
    | ok c =>
      obtain ⟨hok, rfl⟩ := hread.1 hraw
      exact (and_iff_right hok).symm
    | error e =>
      have hfails : ¬(ns.Typeable b.1 ∧ isWritable b.2 = true) := fun hok => by
        rw [hread.2 ⟨hok, rfl⟩] at hraw
        cases hraw
      exact ⟨nofun, fun hok => absurd hok.1 hfails⟩

/-- **A variable is set under the text with which it is shown.** A variable whose text stands for
it alone is set under this text, unless it has no name and its key cannot be typed, or the value has
too many digits; then the binding is refused, and no other variable is set. In a list of such
bindings the last one of each variable counts, and what none of them sets is as it was initially. -/
theorem variables_are_set_as_shown :
    (∀ (ns : Names) (x : Ident) (v : Int), ns.Addresses x →
      parseBinding ns (bindingText ns x v) =
        if ns.Typeable x then
          if isWritable v then .ok (x, v) else .error (.notAnInteger (toString v))
        else if 0 ≤ x then .error (.tooManyDigits (numeral x).length)
        else .error (.unknownVariable (ns.display x))) ∧
    ∀ (p : Program) (bs : List (Ident × Int)), (∀ b ∈ bs, p.names.Addresses b.1) →
      ((∀ b ∈ bs, p.names.Typeable b.1 ∧ isWritable b.2 = true) →
        ∃ t, initialState p (bs.map fun b => some (bindingText p.names b.1 b.2)) = .ok t ∧
          ∀ z, t.lookup z = (bs.reverse.lookup z).getD (p.initial.lookup z)) ∧
      ((∃ b ∈ bs, ¬(p.names.Typeable b.1 ∧ isWritable b.2 = true)) →
        ∃ e, initialState p (bs.map fun b => some (bindingText p.names b.1 b.2)) = .error e ∧
          e.category = .invalidValue) := by
  refine ⟨fun ns x v h => parseBinding_bindingText h v, fun p bs h => ⟨fun hok => ?taken, ?refused⟩⟩
  case taken =>
    exact ⟨_, (bindAll_eq_ok_iff h).2 ⟨hok, rfl⟩, lookup_foldl_update bs p.initial⟩
  case refused =>
    rintro ⟨b, hb, hfails⟩
    cases hall : initialState p (bs.map fun b => some (bindingText p.names b.1 b.2)) with
    | ok t => exact absurd (((bindAll_eq_ok_iff h).1 hall).1 b hb) hfails
    | error e => exact ⟨e, rfl, category_of_bindAll hall⟩

/-- Names that look like keys: the last value of variable 5 counts, and variable 0, which is shown
as `x0` as well, keeps its own. An unnamed variable with a negative key is not set. -/
theorem variables_are_set_as_shown_captured :
    let p : Program :=
      { (default : Program) with
        names := .ofList [(5, "x0"), (7, "3"), (-2, "n")], initial := .ofList [(0, 1), (7, 9)] }
    (∃ t, initialState p [some "x0=4", some "3=-1", some "x12=5", some "x0=-6"] = .ok t ∧
      t.lookup 5 = -6 ∧ t.lookup 7 = -1 ∧ t.lookup 12 = 5 ∧ t.lookup 0 = 1) ∧
    parseBinding p.names "x-4=1" = .error (.unknownVariable "x-4") := by
  intro p
  obtain ⟨hone, hall⟩ := variables_are_set_as_shown
  obtain ⟨t, ht, hlookup⟩ := (hall p [(5, 4), (7, -1), (12, 5), (5, -6)] (by decide +kernel)).1
    (by decide +kernel)
  refine ⟨⟨t, ht, hlookup 5, hlookup 7, hlookup 12, hlookup 0⟩, ?_⟩
  exact hone p.names (-4) 1 (by decide +kernel)

/-- A value that has a digit too many is refused. -/
theorem overlong_value_is_refused :
    let v : Int := Text.numeralBound
    (∅ : Names).Addresses 0 ∧ (∅ : Names).Typeable 0 ∧
      parseBinding ∅ (bindingText ∅ 0 v) = .error (.notAnInteger (toString v)) ∧
      parseBinding ∅ (bindingText ∅ 0 v) ≠ .ok (0, v) := by
  intro v
  have haddresses : (∅ : Names).Addresses 0 := by decide +kernel
  have htypeable : (∅ : Names).Typeable 0 := by decide +kernel
  have hrefused : parseBinding ∅ (bindingText ∅ 0 v) = .error (.notAnInteger (toString v)) := by
    rw [parseBinding_bindingText haddresses, if_pos htypeable, Text.isWritable_numeralBound,
      if_neg Bool.false_ne_true]
  refine ⟨haddresses, htypeable, hrefused, fun htaken => ?_⟩
  rw [hrefused] at htaken
  cases htaken

end CommandLine

end WhileLang

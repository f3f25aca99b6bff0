import WhileLang.Proofs.Json.Scanning

/-!
# Reading what was written: values

A written value is read back exactly if its numbers are short enough (`isReadable`) and it is not
nested too deeply, whichever layout it was written in: `parse?_compact` and `parse?_pretty`. The
induction is on the value; the parser's bound on its recursion is above the length of the text that
is left, which the brackets and commas around each part keep true.
-/

namespace WhileLang.Json

mutual

/-- All numbers in the value are short enough to be read: what stands in front of an exponent has
no more than `Text.maxDigits` digits. -/
def isReadable : Json → Bool
  | int i => Text.isWritable i
  | decimal d => Text.isWritable d.mantissa
  | array xs => elementsReadable xs
  | object ms => membersReadable ms
  | _ => true

def elementsReadable : List Json → Bool
  | [] => true
  | x :: xs => x.isReadable && elementsReadable xs

def membersReadable : List (String × Json) → Bool
  | [] => true
  | (_, value) :: ms => value.isReadable && membersReadable ms

end

namespace Parser

/-! ## The first character -/

/-- A space, or a character behind an item, ends a number. -/
theorem endsNumber_cons {c : Char} (hc : isSpace c = true ∨ c ∈ [',', ']', '\x7d'])
    (rest : List Char) : EndsNumber (c :: rest) := by
  have hall : ∀ d ∈ [' ', '\t', '\n', '\r', ',', ']', '\x7d'],
      d.isDigit = false ∧ d ≠ '.' ∧ d ≠ 'e' ∧ d ≠ 'E' := by simp
  intro d hd
  obtain rfl : c = d := by simpa using hd
  rcases hc with hc | hc
  · have hspace : c ∈ [' ', '\t', '\n', '\r'] := by simpa [isSpace, or_assoc] using hc
    exact hall c (List.mem_append_left [',', ']', '\x7d'] hspace)
  · exact hall c (List.mem_append_right [' ', '\t', '\n', '\r'] hc)

theorem endsNumber_append {spaces : List Char} (hspaces : ∀ c ∈ spaces, isSpace c = true) {c : Char}
    (hc : c ∈ [',', ']', '\x7d']) (rest : List Char) : EndsNumber (spaces ++ c :: rest) := by
  cases spaces with
  | nil => exact endsNumber_cons (.inr hc) rest
  | cons d spaces => exact endsNumber_cons (.inl (hspaces d (List.mem_cons_self ..))) _

/-- A character that is neither a space nor special to values. -/
theorem mem_numeral_ne {i : Int} {c : Char} (h : c ∈ Text.numeral i) :
    isSpace c = false ∧ c ∉ ['[', ']', '\x7b', 'n', 't', 'f', Char.ofNat 34] := by
  have hne {d : Char} (hd : d.isDigit = false) (hminus : d ≠ '-') : c ≠ d :=
    Text.ne_of_mem_numeral h hd hminus
  constructor
  · simp only [isSpace, Bool.or_eq_false_iff, decide_eq_false_iff_not]
    exact ⟨⟨⟨hne (by decide) (by decide), hne (by decide) (by decide)⟩,
      hne (by decide) (by decide)⟩, hne (by decide) (by decide)⟩
  · intro hmem
    have hall : ∀ d ∈ ['[', ']', '\x7b', 'n', 't', 'f', Char.ofNat 34],
        d.isDigit = false ∧ d ≠ '-' := by simp
    exact hne (hall c hmem).1 (hall c hmem).2 rfl

/-- A value begins neither with a space nor with a closing bracket. -/
theorem exists_write_eq_cons (l : Layout) (depth : Nat) (j : Json) :
    ∃ c cs, l.write depth j = c :: cs ∧ isSpace c = false ∧ c ≠ ']' := by
  have hnumeral (i : Int) (tail : List Char) :
      ∃ c cs, Text.numeral i ++ tail = c :: cs ∧ isSpace c = false ∧ c ≠ ']' := by
    obtain ⟨c, cs, hi, -⟩ := Text.exists_numeral_eq_cons i
    have hc : c ∈ Text.numeral i := hi ▸ List.mem_cons_self ..
    refine ⟨c, cs ++ tail, by rw [hi, List.cons_append], (mem_numeral_ne hc).1, ?_⟩
    rintro rfl
    exact (mem_numeral_ne hc).2 (by decide)
  cases j with
  | null => exact ⟨'n', _, rfl, by decide, by decide⟩
  | bool b => cases b <;> exact ⟨_, _, rfl, by decide, by decide⟩
  | int i =>
    obtain ⟨c, cs, h, hc⟩ := hnumeral i []
    exact ⟨c, cs, by rw [Layout.write, ← h, List.append_nil], hc⟩
  | decimal d =>
    obtain ⟨c, cs, h, hc⟩ := hnumeral d.mantissa ('e' :: Text.numeral d.exponent)
    exact ⟨c, cs, by rw [Layout.write, h], hc⟩
  | nonFinite x => cases x <;> exact ⟨_, _, rfl, by decide, by decide⟩
  | string s =>
    exact ⟨Char.ofNat 34, _, by rw [Layout.write, writeString, String.toList_ofList], by decide,
      by decide⟩
  | array xs => cases xs <;> exact ⟨'[', _, by rw [Layout.write], by decide, by decide⟩
  | object ms => cases ms <;> exact ⟨'\x7b', _, by rw [Layout.write], by decide, by decide⟩

theorem noSpace_write_append (l : Layout) (depth : Nat) (j : Json) (rest : List Char) :
    NoSpace (l.write depth j ++ rest) := by
  obtain ⟨c, cs, hj, hc, -⟩ := exists_write_eq_cons l depth j
  rw [hj, List.cons_append, noSpace_cons]
  exact hc

/-! ## One value -/

theorem value_numeral_append (i : Int) (n : Nat) (tail : List Char) :
    value (n + 1) (Text.numeral i ++ tail) = number (Text.numeral i ++ tail) := by
  obtain ⟨c, cs, hi, -⟩ := Text.exists_numeral_eq_cons i
  have hc : c ∈ Text.numeral i := hi ▸ List.mem_cons_self ..
  have hspecial := (mem_numeral_ne hc).2
  simp only [List.mem_cons, List.not_mem_nil, or_false, not_or] at hspecial
  obtain ⟨hopen, -, hbrace, hn, ht, hf, hquote⟩ := hspecial
  rw [hi, List.cons_append, value, if_neg hquote]
  all_goals assumption

theorem value_nonFinite (x : NonFinite) (n : Nat) (rest : List Char) :
    value (n + 1) ((writeNonFinite x).toList ++ rest) = some (.nonFinite x, rest) := by
  cases x <;> rfl

theorem value_writeString (s : String) (n : Nat) (rest : List Char) :
    value (n + 1) ((writeString s).toList ++ rest) = some (.string s, rest) := by
  have hhead : ∃ cs, (writeString s).toList = Char.ofNat 34 :: cs :=
    ⟨_, by rw [writeString, String.toList_ofList]⟩
  obtain ⟨cs, hcs⟩ := hhead
  have hstring := string_writeString s rest
  rw [hcs, List.cons_append] at hstring ⊢
  rw [value, if_pos rfl, hstring]
  · rfl
  all_goals decide

/-- An array that is not closed at once. -/
theorem value_array {spaces cs : List Char} (hspaces : ∀ c ∈ spaces, isSpace c = true)
    (hcs : NoSpace cs) (hclose : ∀ rest, cs ≠ ']' :: rest) (n : Nat) :
    value (n + 1) ('[' :: (spaces ++ cs)) = (elements n cs).map fun r => (.array r.1, r.2) := by
  rw [value, skipSpaces_append hspaces hcs]
  split
  · exact absurd rfl (hclose _)
  · rfl

/-- An object that is not closed at once. -/
theorem value_object {spaces cs : List Char} (hspaces : ∀ c ∈ spaces, isSpace c = true)
    (hcs : NoSpace cs) (hclose : ∀ rest, cs ≠ '\x7d' :: rest) (n : Nat) :
    value (n + 1) ('\x7b' :: (spaces ++ cs)) =
      (members n cs).map fun r => (.object r.1, r.2) := by
  rw [value, skipSpaces_append hspaces hcs]
  split
  · exact absurd rfl (hclose _)
  · rfl

/-! ## Items -/

section

variable {spaces gap cs cs' rest : List Char} {x : Json} {n : Nat}

theorem elements_none (hx : value n cs = none) : elements (n + 1) cs = none := by
  simp only [elements, hx]

theorem elements_close (hx : value n cs = some (x, spaces ++ ']' :: rest))
    (hspaces : ∀ c ∈ spaces, isSpace c = true) : elements (n + 1) cs = some ([x], rest) := by
  have hclose : skipSpaces (spaces ++ ']' :: rest) = ']' :: rest :=
    skipSpaces_append hspaces (noSpace_cons.2 rfl)
  simp only [elements, hx, hclose]

theorem elements_comma (hx : value n cs = some (x, ',' :: (spaces ++ cs')))
    (hspaces : ∀ c ∈ spaces, isSpace c = true) (hcs' : NoSpace cs') :
    elements (n + 1) cs = (elements n cs').map fun r => (x :: r.1, r.2) := by
  have hcomma := skipSpaces_cons (show isSpace ',' = false from rfl) (spaces ++ cs')
  simp only [elements, hx, hcomma, skipSpaces_append hspaces hcs']

theorem members_none (name : String) (hgap : ∀ c ∈ gap, isSpace c = true) (hcs : NoSpace cs)
    (hx : value n cs = none) :
    members (n + 1) ((writeString name).toList ++ ':' :: (gap ++ cs)) = none := by
  have hcolon := skipSpaces_cons (show isSpace ':' = false from rfl) (gap ++ cs)
  simp only [members, string_writeString, hcolon, skipSpaces_append hgap hcs, hx]

theorem members_close (name : String) (hgap : ∀ c ∈ gap, isSpace c = true) (hcs : NoSpace cs)
    (hx : value n cs = some (x, spaces ++ '\x7d' :: rest))
    (hspaces : ∀ c ∈ spaces, isSpace c = true) :
    members (n + 1) ((writeString name).toList ++ ':' :: (gap ++ cs)) =
      some ([(name, x)], rest) := by
  have hcolon := skipSpaces_cons (show isSpace ':' = false from rfl) (gap ++ cs)
  have hclose : skipSpaces (spaces ++ '\x7d' :: rest) = '\x7d' :: rest :=
    skipSpaces_append hspaces (noSpace_cons.2 rfl)
  simp only [members, string_writeString, hcolon, skipSpaces_append hgap hcs, hx, hclose]

theorem members_comma (name : String) (hgap : ∀ c ∈ gap, isSpace c = true) (hcs : NoSpace cs)
    (hx : value n cs = some (x, ',' :: (spaces ++ cs')))
    (hspaces : ∀ c ∈ spaces, isSpace c = true) (hcs' : NoSpace cs') :
    members (n + 1) ((writeString name).toList ++ ':' :: (gap ++ cs)) =
      (members n cs').map fun r => ((name, x) :: r.1, r.2) := by
  have hcolon := skipSpaces_cons (show isSpace ':' = false from rfl) (gap ++ cs)
  have hcomma := skipSpaces_cons (show isSpace ',' = false from rfl) (spaces ++ cs')
  simp only [members, string_writeString, hcolon, skipSpaces_append hgap hcs, hx, hcomma,
    skipSpaces_append hspaces hcs']

end

/-! ## Values of any depth -/

variable (l : Layout)

theorem noSpace_writeElements_append (depth : Nat) (x : Json) (xs : List Json) (rest : List Char) :
    NoSpace (l.writeElements depth (x :: xs) ++ rest) := by
  cases xs <;> rw [Layout.writeElements, List.append_assoc] <;>
    exact noSpace_write_append l (depth + 1) x _

theorem writeElements_append_ne_close (depth : Nat) (x : Json) (xs : List Json)
    (rest cs : List Char) : l.writeElements depth (x :: xs) ++ rest ≠ ']' :: cs := by
  obtain ⟨c, ds, hx, -, hc⟩ := exists_write_eq_cons l (depth + 1) x
  cases xs <;> simp [Layout.writeElements, hx, hc]

theorem writeMembers_append_eq_quote (depth : Nat) (m : String × Json)
    (ms : List (String × Json)) (rest : List Char) :
    ∃ cs, l.writeMembers depth (m :: ms) ++ rest = Char.ofNat 34 :: cs := by
  obtain ⟨name, x⟩ := m
  have hname : (writeString name).toList =
      Char.ofNat 34 :: (name.toList.flatMap writeChar ++ [Char.ofNat 34]) := by
    rw [writeString, String.toList_ofList]
  cases ms <;> rw [Layout.writeMembers, hname] <;> exact ⟨_, rfl⟩

theorem noSpace_writeMembers_append (depth : Nat) (m : String × Json)
    (ms : List (String × Json)) (rest : List Char) :
    NoSpace (l.writeMembers depth (m :: ms) ++ rest) := by
  obtain ⟨cs, hcs⟩ := writeMembers_append_eq_quote l depth m ms rest
  rw [hcs, noSpace_cons]
  decide

theorem writeMembers_append_ne_close (depth : Nat) (m : String × Json)
    (ms : List (String × Json)) (rest cs : List Char) :
    l.writeMembers depth (m :: ms) ++ rest ≠ '\x7d' :: cs := by
  obtain ⟨ds, hds⟩ := writeMembers_append_eq_quote l depth m ms rest
  rw [hds]
  simp

-- Induction on the value that is written. The fuel `n` stays above the length of its text: the
-- bracket or the separator that is read pays for the step.
mutual

theorem value_write (depth : Nat) : ∀ (j : Json) (n : Nat) (rest : List Char),
    (l.write depth j).length ≤ n → EndsNumber rest →
      value (n + 1) (l.write depth j ++ rest) = if j.isReadable then some (j, rest) else none
  | .null | .bool true | .bool false => by
    intros
    simp [Layout.write, value, word, isReadable]
  | .int i => by
    intro _ _ _ hrest
    rw [Layout.write, value_numeral_append, number_int i hrest, isReadable]
  | .decimal d => by
    intro _ _ _ hrest
    rw [Layout.write, List.append_assoc, List.cons_append, value_numeral_append,
      number_decimal d hrest, isReadable]
  | .nonFinite x => by
    intros
    rw [Layout.write, value_nonFinite, isReadable, if_pos rfl]
    all_goals simp
  | .string s => by
    intros
    rw [Layout.write, value_writeString, isReadable, if_pos rfl]
    all_goals simp
  | .array [] | .object [] => by
    intros
    simp [Layout.write, value, skipSpaces, isSpace, isReadable, elementsReadable, membersReadable]
  | .array (x :: xs) => by
    intro n rest hn hrest
    rw [Layout.write, List.length_cons, List.length_append] at hn
    obtain ⟨n, rfl⟩ := Nat.exists_eq_add_one.2 (Nat.zero_lt_of_lt hn)
    rw [Layout.write, List.cons_append, List.append_assoc,
      value_array (l.isSpace_lineBreak _) (noSpace_writeElements_append l depth x xs rest)
        (writeElements_append_ne_close l depth x xs rest),
      elements_write depth (x :: xs) _ _ (List.cons_ne_nil _ _) (by omega), isReadable]
    split <;> rfl
  | .object (m :: ms) => by
    intro n rest hn hrest
    rw [Layout.write, List.length_cons, List.length_append] at hn
    obtain ⟨n, rfl⟩ := Nat.exists_eq_add_one.2 (Nat.zero_lt_of_lt hn)
    rw [Layout.write, List.cons_append, List.append_assoc,
      value_object (l.isSpace_lineBreak _) (noSpace_writeMembers_append l depth m ms rest)
        (writeMembers_append_ne_close l depth m ms rest),
      members_write depth (m :: ms) _ _ (List.cons_ne_nil _ _) (by omega), isReadable]
    split <;> rfl

theorem elements_write (depth : Nat) : ∀ (xs : List Json) (n : Nat) (rest : List Char),
    xs ≠ [] → (l.writeElements depth xs).length ≤ n →
      elements (n + 1) (l.writeElements depth xs ++ rest) =
        if elementsReadable xs then some (xs, rest) else none
  | [] => fun _ _ h => absurd rfl h
  | [x] => by
    intro n rest _ hn
    have hspaces := l.isSpace_lineBreak depth
    rw [Layout.writeElements, List.length_append, List.length_append, List.length_singleton] at hn
    obtain ⟨n, rfl⟩ := Nat.exists_eq_add_one.2 (show 0 < n by omega)
    have hx := value_write (depth + 1) x _ _ (show (l.write (depth + 1) x).length ≤ n by omega)
      (endsNumber_append hspaces (by decide : ']' ∈ _) rest)
    rw [Layout.writeElements, List.append_assoc, List.append_assoc, List.singleton_append,
      elementsReadable, elementsReadable, Bool.and_true]
    split <;> rename_i hreadable
    · rw [if_pos hreadable] at hx
      exact elements_close hx hspaces
    · rw [if_neg hreadable] at hx
      exact elements_none hx
  | x :: y :: xs => by
    intro n rest _ hn
    have hspaces := l.isSpace_lineBreak (depth + 1)
    rw [Layout.writeElements, List.length_append, List.length_cons, List.length_append] at hn
    obtain ⟨n, rfl⟩ := Nat.exists_eq_add_one.2 (show 0 < n by omega)
    have hx := value_write (depth + 1) x _ _ (show (l.write (depth + 1) x).length ≤ n by omega)
      (endsNumber_cons (.inr (by decide : ',' ∈ _))
        (l.lineBreak (depth + 1) ++ (l.writeElements depth (y :: xs) ++ rest)))
    rw [Layout.writeElements, List.append_assoc, List.cons_append, List.append_assoc,
      elementsReadable]
    -- A number that is too long stops the reader before it looks at the items behind it.
    cases hreadable : x.isReadable with
    | false =>
      rw [hreadable] at hx
      exact elements_none hx
    | true =>
      rw [hreadable] at hx
      rw [elements_comma hx hspaces (noSpace_writeElements_append l depth y xs rest),
        elements_write depth (y :: xs) _ _ (List.cons_ne_nil _ _) (by omega), Bool.true_and]
      split <;> rfl

theorem members_write (depth : Nat) : ∀ (ms : List (String × Json)) (n : Nat) (rest : List Char),
    ms ≠ [] → (l.writeMembers depth ms).length ≤ n →
      members (n + 1) (l.writeMembers depth ms ++ rest) =
        if membersReadable ms then some (ms, rest) else none
  | [] => fun _ _ h => absurd rfl h
  | [(name, x)] => by
    intro n rest _ hn
    have hspaces := l.isSpace_lineBreak depth
    have hgap := l.isSpace_gap
    rw [Layout.writeMembers] at hn
    simp only [List.length_append, List.length_cons, List.length_nil] at hn
    obtain ⟨n, rfl⟩ := Nat.exists_eq_add_one.2 (show 0 < n by omega)
    have hx := value_write (depth + 1) x _ _ (show (l.write (depth + 1) x).length ≤ n by omega)
      (endsNumber_append hspaces (by decide : '\x7d' ∈ _) rest)
    have hvalue := noSpace_write_append l (depth + 1) x (l.lineBreak depth ++ '\x7d' :: rest)
    simp only [Layout.writeMembers, List.append_assoc, List.cons_append, List.nil_append,
      membersReadable, Bool.and_true]
    split <;> rename_i hreadable
    · rw [if_pos hreadable] at hx
      exact members_close name hgap hvalue hx hspaces
    · rw [if_neg hreadable] at hx
      exact members_none name hgap hvalue hx
  | (name, x) :: m :: ms => by
    intro n rest _ hn
    have hspaces := l.isSpace_lineBreak (depth + 1)
    have hgap := l.isSpace_gap
    rw [Layout.writeMembers] at hn
    simp only [List.length_append, List.length_cons] at hn
    obtain ⟨n, rfl⟩ := Nat.exists_eq_add_one.2 (show 0 < n by omega)
    have hx := value_write (depth + 1) x _ _ (show (l.write (depth + 1) x).length ≤ n by omega)
      (endsNumber_cons (.inr (by decide : ',' ∈ _))
        (l.lineBreak (depth + 1) ++ (l.writeMembers depth (m :: ms) ++ rest)))
    have hvalue := noSpace_write_append l (depth + 1) x
      (',' :: (l.lineBreak (depth + 1) ++ (l.writeMembers depth (m :: ms) ++ rest)))
    rw [membersReadable]
    simp only [Layout.writeMembers, List.append_assoc, List.cons_append]
    cases hreadable : x.isReadable with
    | false =>
      rw [hreadable] at hx
      exact members_none name hgap hvalue hx
    | true =>
      rw [hreadable] at hx
      rw [members_comma name hgap hvalue hx hspaces (noSpace_writeMembers_append l depth m ms rest),
        members_write depth (m :: ms) _ _ (List.cons_ne_nil _ _) (by omega), Bool.true_and]
      split <;> rfl

end

end Parser

/-! ## Texts -/

theorem parse?_of_toList_eq {l : Layout} {depth : Nat} {j : Json} {text : String}
    (h : text.toList = l.write depth j) :
    parse? text = if j.isReadable ∧ j.nesting ≤ maxNesting then some j else none := by
  have hspace : Parser.skipSpaces (l.write depth j) = l.write depth j := by
    refine Parser.skipSpaces_eq_self ?_
    have hwrite := Parser.noSpace_write_append l depth j []
    rwa [List.append_nil] at hwrite
  have hvalue : Parser.value ((l.write depth j).length + 1) (l.write depth j) =
      if j.isReadable then some (j, []) else none := by
    have hwrite := Parser.value_write l depth j _ _ (Nat.le_refl _)
      (show Parser.EndsNumber [] from fun _ h => by cases h)
    rwa [List.append_nil] at hwrite
  have hread : read? text = if j.isReadable then some j else none := by
    simp only [read?, h, hspace, hvalue]
    cases j.isReadable <;> rfl
  rw [parse?, hread, ite_and]
  cases j.isReadable with
  | false => rfl
  | true => simp [Option.filter]

/-- **The compact text is read back**, unless a number in it is too long or the nesting too deep. -/
theorem parse?_compact (j : Json) :
    parse? j.compact = if j.isReadable ∧ j.nesting ≤ maxNesting then some j else none :=
  parse?_of_toList_eq (toList_compact 0 j)

/-- **So is the text on several lines.** -/
theorem parse?_pretty (j : Json) :
    parse? j.pretty = if j.isReadable ∧ j.nesting ≤ maxNesting then some j else none :=
  parse?_of_toList_eq (toList_prettyAt 0 j)

end WhileLang.Json

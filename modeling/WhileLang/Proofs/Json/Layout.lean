import WhileLang.Json.Parser
import WhileLang.Json.Printer
import WhileLang.Proofs.Text.Numeral

/-!
# One writer for both layouts

`Json.compact` and `Json.pretty` differ only in the spaces between the parts of a value.
`Layout.write` writes a value with such spaces as a parameter, on the list of its characters and
from the front to the back, as the parser reads it. Both writers are instances
(`toList_compact`, `toList_pretty`).
-/

namespace WhileLang.Json

/-- The spaces that a writer puts between the parts of a value. -/
structure Layout where
  /-- What stands in front of an item or a closing bracket at a depth. -/
  lineBreak : Nat → List Char
  /-- What stands behind a colon. -/
  gap : List Char
  isSpace_lineBreak : ∀ depth, ∀ c ∈ lineBreak depth, Parser.isSpace c = true
  isSpace_gap : ∀ c ∈ gap, Parser.isSpace c = true

namespace Layout

/-- Without spaces. -/
def dense : Layout where
  lineBreak _ := []
  gap := []
  isSpace_lineBreak _ _ h := by cases h
  isSpace_gap _ h := by cases h

/-- Each item on a line of its own. -/
def lines : Layout where
  lineBreak depth := (Json.lineBreak depth).toList
  gap := [' ']
  isSpace_lineBreak depth c hc := by
    rw [Json.lineBreak, String.toList_append] at hc
    rcases List.mem_append.1 hc with hc | hc
    · obtain rfl : c = '\n' := List.mem_singleton.1 hc
      rfl
    · obtain rfl : c = ' ' := List.eq_of_mem_replicate (String.toList_ofList ▸ hc)
      rfl
  isSpace_gap c hc := by
    rw [List.mem_singleton.1 hc]
    rfl

variable (l : Layout)

mutual

/-- The characters of a value. -/
def write (depth : Nat) : Json → List Char
  | null => ['n', 'u', 'l', 'l']
  | bool true => ['t', 'r', 'u', 'e']
  | bool false => ['f', 'a', 'l', 's', 'e']
  | int i => Text.numeral i
  | decimal d => Text.numeral d.mantissa ++ 'e' :: Text.numeral d.exponent
  | nonFinite x => (writeNonFinite x).toList
  | string s => (writeString s).toList
  | array [] => ['[', ']']
  | array (x :: xs) => '[' :: (l.lineBreak (depth + 1) ++ writeElements depth (x :: xs))
  | object [] => ['\x7b', '\x7d']
  | object (m :: ms) => '\x7b' :: (l.lineBreak (depth + 1) ++ writeMembers depth (m :: ms))

/-- The elements of an array with at least one, and its closing bracket. -/
def writeElements (depth : Nat) : List Json → List Char
  | [] => []
  | [x] => write (depth + 1) x ++ (l.lineBreak depth ++ [']'])
  | x :: y :: xs =>
    write (depth + 1) x ++ ',' :: (l.lineBreak (depth + 1) ++ writeElements depth (y :: xs))

/-- The members of an object with at least one, and its closing bracket. -/
def writeMembers (depth : Nat) : List (String × Json) → List Char
  | [] => []
  | [(name, x)] =>
    (writeString name).toList ++ ':' :: (l.gap ++ (write (depth + 1) x ++
      (l.lineBreak depth ++ ['\x7d'])))
  | (name, x) :: m :: ms =>
    (writeString name).toList ++ ':' :: (l.gap ++ (write (depth + 1) x ++
      ',' :: (l.lineBreak (depth + 1) ++ writeMembers depth (m :: ms))))

end

/-! ## Items and what stands between them -/

theorem writeElements_eq_intercalate (depth : Nat) {xs : List Json} (h : xs ≠ []) :
    l.writeElements depth xs =
      (',' :: l.lineBreak (depth + 1)).intercalate (xs.map (l.write (depth + 1))) ++
        (l.lineBreak depth ++ [']']) := by
  induction xs with
  | nil => exact absurd rfl h
  | cons x xs ih =>
    cases xs with
    | nil => simp [writeElements]
    | cons y xs => simp [writeElements, ih (List.cons_ne_nil _ _)]

theorem writeMembers_eq_intercalate (depth : Nat) {ms : List (String × Json)} (h : ms ≠ []) :
    l.writeMembers depth ms =
      (',' :: l.lineBreak (depth + 1)).intercalate (ms.map fun m =>
        (writeString m.1).toList ++ ':' :: (l.gap ++ l.write (depth + 1) m.2)) ++
        (l.lineBreak depth ++ ['\x7d']) := by
  induction ms with
  | nil => exact absurd rfl h
  | cons m ms ih =>
    cases ms with
    | nil => simp [writeMembers]
    | cons m' ms => simp [writeMembers, ih (List.cons_ne_nil _ _)]

end Layout

theorem toList_writeDecimal (d : Decimal) :
    (writeDecimal d).toList = Text.numeral d.mantissa ++ 'e' :: Text.numeral d.exponent := by
  simp [writeDecimal]

/-! ## The compact text -/

mutual

theorem toList_compact (depth : Nat) : ∀ j : Json, j.compact.toList = Layout.dense.write depth j
  | null | bool true | bool false | int _ => by simp [compact, Layout.write]
  | decimal d => by simp [compact, Layout.write, toList_writeDecimal]
  | nonFinite _ | string _ | array [] | object [] => by
    simp [compact, compactElements, compactMembers, Layout.write]
  | array (x :: xs) => by
    rw [Layout.write, Layout.writeElements_eq_intercalate _ _ (List.cons_ne_nil _ _),
      ← toList_compactElements depth (x :: xs)]
    simp [compact, Layout.dense]
  | object (m :: ms) => by
    rw [Layout.write, Layout.writeMembers_eq_intercalate _ _ (List.cons_ne_nil _ _),
      ← toList_compactMembers depth (m :: ms)]
    simp [compact, Layout.dense]

theorem toList_compactElements (depth : Nat) : ∀ xs : List Json,
    (compactElements xs).map String.toList = xs.map (Layout.dense.write (depth + 1))
  | [] => rfl
  | x :: xs => by
    rw [compactElements, List.map_cons, List.map_cons, toList_compact (depth + 1) x,
      toList_compactElements depth xs]

theorem toList_compactMembers (depth : Nat) : ∀ ms : List (String × Json),
    (compactMembers ms).map String.toList = ms.map fun m =>
      (writeString m.1).toList ++ ':' ::
        (Layout.dense.gap ++ Layout.dense.write (depth + 1) m.2)
  | [] => rfl
  | (name, x) :: ms => by
    rw [compactMembers, List.map_cons, List.map_cons, toList_compactMembers depth ms,
      ← toList_compact (depth + 1) x]
    simp [Layout.dense]

end

/-! ## The text on several lines -/

theorem toList_bracketLines (opening closing : String) (depth : Nat) {items : List String}
    (h : items ≠ []) : (bracketLines opening closing depth items).toList =
      opening.toList ++ ((lineBreak (depth + 1)).toList ++
        ((',' :: (lineBreak (depth + 1)).toList).intercalate (items.map String.toList) ++
          ((lineBreak depth).toList ++ closing.toList))) := by
  rw [bracketLines, if_neg (by simpa using h)]
  simp

mutual

theorem toList_prettyAt (depth : Nat) : ∀ j : Json,
    (j.prettyAt depth).toList = Layout.lines.write depth j
  | null | bool true | bool false | int _ => by simp [prettyAt, Layout.write]
  | decimal d => by simp [prettyAt, Layout.write, toList_writeDecimal]
  | nonFinite _ | string _ | array [] | object [] => by
    simp [prettyAt, prettyElements, prettyMembers, bracketLines, Layout.write]
  | array (x :: xs) => by
    rw [Layout.write, Layout.writeElements_eq_intercalate _ _ (List.cons_ne_nil _ _),
      ← toList_prettyElements depth (x :: xs), prettyAt]
    exact toList_bracketLines "[" "]" depth (List.cons_ne_nil _ _)
  | object (m :: ms) => by
    rw [Layout.write, Layout.writeMembers_eq_intercalate _ _ (List.cons_ne_nil _ _),
      ← toList_prettyMembers depth (m :: ms), prettyAt]
    exact toList_bracketLines "\x7b" "\x7d" depth (List.cons_ne_nil _ _)

theorem toList_prettyElements (depth : Nat) : ∀ xs : List Json,
    (prettyElements (depth + 1) xs).map String.toList = xs.map (Layout.lines.write (depth + 1))
  | [] => rfl
  | x :: xs => by
    rw [prettyElements, List.map_cons, List.map_cons, toList_prettyAt (depth + 1) x,
      toList_prettyElements depth xs]

theorem toList_prettyMembers (depth : Nat) : ∀ ms : List (String × Json),
    (prettyMembers (depth + 1) ms).map String.toList = ms.map fun m =>
      (writeString m.1).toList ++ ':' ::
        (Layout.lines.gap ++ Layout.lines.write (depth + 1) m.2)
  | [] => rfl
  | (name, x) :: ms => by
    rw [prettyMembers, List.map_cons, List.map_cons, toList_prettyMembers depth ms,
      ← toList_prettyAt (depth + 1) x]
    simp [Layout.lines]

end

end WhileLang.Json

import WhileLang.Command
import WhileLang.Json
import WhileLang.Names
import WhileLang.State
import WhileLang.Text.IntLiteral

/-!
# Reading phrases from JSON

An object is read as a phrase of a wanted kind by trying every form of that kind. A form fits if
all of its fields are there and can be read, and if the member `node_type`, where there is one, is
the form's own word; members that the form does not know are passed over. A fitting form has a
*score*, the number of its fields that are there together with the scores of its parts, and is
*exact* unless some integer in it had to be converted. The best form is the one with the highest
score; among those an exact one, and among those the first.

`Json.readings` reads a value as a phrase of every kind at once, so that each part is read once.
-/

namespace WhileLang

/-- An integer, and whether it was written as one. -/
structure IntReading where
  value : Int
  exact : Bool
deriving DecidableEq

/-- Integers may also be written as truth values, as decimals without a fraction, and as text. -/
def Json.readInt? : Json → Option IntReading
  | int i => some ⟨i, true⟩
  | bool b => some ⟨if b then 1 else 0, false⟩
  | decimal d => d.toInt?.map fun i => ⟨i, false⟩
  | string s => (Text.readLooseInt s).map fun i => ⟨i, false⟩
  | _ => none

/-- One way to read a value. -/
structure Reading (α : Type) where
  value : α
  score : Nat
  exact : Bool

namespace Reading

variable {α β : Type}

def map (f : α → β) (r : Reading α) : Reading β := ⟨f r.value, r.score, r.exact⟩

/-- The better of two readings; `a` comes first. -/
def prefer (a b : Reading α) : Reading α :=
  if a.score < b.score ∨ (a.score = b.score ∧ b.exact ∧ !a.exact) then b else a

/-- The best reading, if there is one at all. -/
def best (rs : List (Option (Reading α))) : Option (Reading α) :=
  rs.foldl
    (fun acc r =>
      match acc, r with
      | none, r => r
      | some a, none => some a
      | some a, some b => some (a.prefer b))
    none

end Reading

/-- The best readings of a value as a phrase of each kind. -/
structure Readings where
  aexp : Option (Reading AExp)
  bexp : Option (Reading BExp)
  command : Option (Reading Command)

/-- A value that is no phrase. -/
def Readings.nothing : Readings := ⟨none, none, none⟩

/-- A member of an object, with the value itself and its readings. -/
structure Field where
  json : Json
  readings : Readings

namespace Field

/-- The fields of an object by their names. -/
abbrev Table := List (String × Field)

/-- What the member that names the form adds to the score; nothing if it names another form. -/
def tagScore (fields : Table) (tag : String) : Option Nat :=
  match Json.member? "node_type" fields with
  | none => some 0
  | some f =>
    match f.json with
    | .string t => if t = tag then some 1 else none
    | _ => none

def int? (fields : Table) (name : String) : Option IntReading := do
  (← Json.member? name fields).json.readInt?

def aexp? (fields : Table) (name : String) : Option (Reading AExp) := do
  (← Json.member? name fields).readings.aexp

def bexp? (fields : Table) (name : String) : Option (Reading BExp) := do
  (← Json.member? name fields).readings.bexp

def command? (fields : Table) (name : String) : Option (Reading Command) := do
  (← Json.member? name fields).readings.command

/-- A form without fields. -/
def leaf {α : Type} (fields : Table) (tag : String) (value : α) : Option (Reading α) := do
  return ⟨value, ← tagScore fields tag, true⟩

/-- A form whose only field is an integer. -/
def integerForm {α : Type} (fields : Table) (tag name : String) (make : Int → α) :
    Option (Reading α) := do
  let t ← tagScore fields tag
  let i ← int? fields name
  return ⟨make i.value, t + 1, i.exact⟩

/-- A form with two parts. -/
def pairForm {α β γ : Type} (fields : Table) (tag : String) (left : Option (Reading α))
    (right : Option (Reading β)) (make : α → β → γ) : Option (Reading γ) := do
  let t ← tagScore fields tag
  let l ← left
  let r ← right
  return ⟨make l.value r.value, t + 2 + l.score + r.score, l.exact && r.exact⟩

/-- The forms of arithmetic expressions that fit. -/
def aexpForms (fields : Table) : List (Option (Reading AExp)) :=
  [integerForm fields "number" "value" .number,
    integerForm fields "variable" "ident" .var,
    pairForm fields "plus" (aexp? fields "left") (aexp? fields "right") .plus,
    pairForm fields "minus" (aexp? fields "left") (aexp? fields "right") .minus]

/-- The forms of conditions that fit. -/
def bexpForms (fields : Table) : List (Option (Reading BExp)) :=
  [leaf fields "true" .tt,
    leaf fields "false" .ff,
    pairForm fields "equal" (aexp? fields "left") (aexp? fields "right") .equal,
    pairForm fields "less_equal" (aexp? fields "left") (aexp? fields "right") .lessEqual,
    (do
      let t ← tagScore fields "not"
      let b ← bexp? fields "operand"
      return ⟨.neg b.value, t + 1 + b.score, b.exact⟩),
    pairForm fields "and" (bexp? fields "left") (bexp? fields "right") .conj]

/-- The forms of commands that fit. -/
def commandForms (fields : Table) : List (Option (Reading Command)) :=
  [leaf fields "skip" .skip,
    (do
      let t ← tagScore fields "assign"
      let x ← int? fields "ident"
      let e ← aexp? fields "expr"
      return ⟨.assign x.value e.value, t + 2 + e.score, x.exact && e.exact⟩),
    pairForm fields "seq" (command? fields "first") (command? fields "second") .seq,
    (do
      let t ← tagScore fields "if"
      let b ← bexp? fields "cond"
      let c₁ ← command? fields "then_branch"
      let c₂ ← command? fields "else_branch"
      return ⟨.branch b.value c₁.value c₂.value, t + 3 + b.score + c₁.score + c₂.score,
        b.exact && c₁.exact && c₂.exact⟩),
    pairForm fields "while" (bexp? fields "cond") (command? fields "body") .loop]

/-- The best readings of an object. -/
def read (fields : Table) : Readings :=
  ⟨Reading.best (aexpForms fields), Reading.best (bexpForms fields),
    Reading.best (commandForms fields)⟩

end Field

namespace Json

mutual

/-- The best readings of a value; only objects are phrases. -/
def readings : Json → Readings
  | object members => Field.read (fieldTable members)
  | _ => .nothing

def fieldTable : List (String × Json) → Field.Table
  | [] => []
  | (name, value) :: rest => (name, ⟨value, value.readings⟩) :: fieldTable rest

end

def toAExp? (j : Json) : Option AExp := j.readings.aexp.map (·.value)

def toBExp? (j : Json) : Option BExp := j.readings.bexp.map (·.value)

def toCommand? (j : Json) : Option Command := j.readings.command.map (·.value)

end Json

end WhileLang

import WhileLang.Derivation.Flat
import WhileLang.Json.Parser
import WhileLang.Json.Reading
import WhileLang.Outcome
import WhileLang.Phrase
import WhileLang.Program
import WhileLang.Step

/-!
# Reading records from JSON

States, outcomes, configurations, derivations and programs. Records are objects; members that a
record does not know are passed over, and a field that has a default may be left out, but not be
`null`.
-/

namespace WhileLang.Json

/-- The text of a string. -/
def text? : Json → Option String
  | string s => some s
  | _ => none

def elements? : Json → Option (List Json)
  | array xs => some xs
  | _ => none

def members? : Json → Option (List (String × Json))
  | object ms => some ms
  | _ => none

/-- The integer that a value stands for. -/
def toInt? (j : Json) : Option Int := j.readInt?.map (·.value)

/-- A list of integers. -/
def toInts? (j : Json) : Option (List Int) := do (← j.elements?).mapM toInt?

/-- A field that must be there. -/
def required {α : Type} (name : String) (read : Json → Option α) (members : List (String × Json)) :
    Option α := do read (← member? name members)

/-- A field that may be left out. -/
def optional {α : Type} (name : String) (read : Json → Option α) (default : α)
    (members : List (String × Json)) : Option α :=
  match member? name members with
  | none => some default
  | some j => read j

/-! ## Phrases of any kind -/

/-- The best reading as an expression or a condition. -/
def readExpression? (j : Json) : Option (Reading Phrase) :=
  let r := j.readings
  Reading.best [r.aexp.map (·.map .aexp), r.bexp.map (·.map .bexp)]

/-- The best reading as a phrase of any kind. -/
def readPhrase? (j : Json) : Option (Reading Phrase) :=
  Reading.best [j.readExpression?, j.readings.command.map (·.map .command)]

def toExpression? (j : Json) : Option Phrase := j.readExpression?.map (·.value)

def toPhrase? (j : Json) : Option Phrase := j.readPhrase?.map (·.value)

/-! ## States and outcomes -/

/-- One variable and its value, as a member of an object. -/
def binding? (m : String × Json) : Option (Ident × IntReading) := do
  return (← Text.readLooseInt m.1, ← m.2.readInt?)

/-- A state as an object that maps variables to values. -/
def readBindings? (j : Json) : Option (Reading State) := do
  let bs ← (← j.members?).mapM binding?
  return ⟨.ofList (bs.map fun b => (b.1, b.2.value)), 0, bs.all fun b => b.2.exact⟩

/-- A state as a record with its bindings as the one field. -/
def readState? (j : Json) : Option (Reading State) := do
  match member? "bindings" (← j.members?) with
  | none => return ⟨.initial, 0, true⟩
  | some bindings =>
    let r ← bindings.readBindings?
    return ⟨r.value, 1, r.exact⟩

def toBindings? (j : Json) : Option State := j.readBindings?.map (·.value)

def toState? (j : Json) : Option State := j.readState?.map (·.value)

/-- What a member that names the kind of outcome adds to the score. -/
def outcomeScore (ms : List (String × Json)) (tag : String) : Option Nat :=
  match member? "outcome" ms with
  | none => some 0
  | some j => if j.text? = some tag then some 1 else none

/-- The outcome that fits best. -/
def toOutcome? (j : Json) : Option Outcome := do
  let ms ← j.members?
  let terminated : Option (Reading Outcome) := do
    let t ← outcomeScore ms "terminated"
    let s ← required "state" readState? ms
    return ⟨.terminated s.value, t + 1 + s.score, s.exact⟩
  let undetermined : Option (Reading Outcome) := do
    let t ← outcomeScore ms "undetermined"
    let b ← required "budget" readInt? ms
    return ⟨.undetermined b.value, t + 1, b.exact⟩
  return (← Reading.best [terminated, undetermined]).value

def toConfiguration? (j : Json) : Option Configuration := do
  let ms ← j.members?
  return ⟨← required "command" toCommand? ms, ← required "state" toState? ms⟩

/-! ## Derivations -/

def toRule? (j : Json) : Option Rule := do Rule.ofTag? (← j.text?)

/-- A node of a derivation with the premises still missing. -/
def toConclusion? (ms : List (String × Json)) : Option (List Derivation → Derivation) := do
  let r ← required "rule" toRule? ms
  let c ← required "command" toCommand? ms
  let s ← required "pre" toState? ms
  let t ← required "post" toState? ms
  return fun ps => ⟨r, c, s, t, ps⟩

def toFlatNode? (j : Json) : Option FlatNode := do
  let ms ← j.members?
  let d ← toConclusion? ms
  let ps ← optional "premises" toInts? [] ms
  return ⟨(d []).rule, (d []).command, (d []).pre, (d []).post, ps⟩

mutual

def toDerivation? : Json → Option Derivation
  | object ms => do
    let d ← toConclusion? ms
    return d (← premisesOf? ms)
  | _ => none

/-- The premises that the members of a node tell, if they tell any; the last member counts. -/
def premisesOf? : List (String × Json) → Option (List Derivation)
  | [] => some []
  | (name, value) :: rest =>
    if name = "premises" ∧ (member? "premises" rest).isNone then value.toPremises?
    else premisesOf? rest

def toPremises? : Json → Option (List Derivation)
  | array xs => toDerivations? xs
  | _ => none

def toDerivations? : List Json → Option (List Derivation)
  | [] => some []
  | x :: xs => do return (← x.toDerivation?) :: (← toDerivations? xs)

end

/-! ## Programs -/

/-- A variable and its name, as a member of an object. -/
def nameEntry? (m : String × Json) : Option (Ident × String) := do
  return (← Text.readLooseInt m.1, ← m.2.text?)

/-- Names as an object that maps variables to names. -/
def toNames? (j : Json) : Option Names := do return .ofList (← (← j.members?).mapM nameEntry?)

def toProgram? (j : Json) : Option Program := do
  let ms ← j.members?
  return ⟨← required "name" text? ms, ← required "description" text? ms,
    ← required "command" toCommand? ms, ← optional "names" toNames? ∅ ms,
    ← optional "initial" toState? .initial ms⟩

end WhileLang.Json

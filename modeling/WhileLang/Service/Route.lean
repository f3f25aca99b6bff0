import WhileLang.Json.Records
import WhileLang.Service.Answer
import WhileLang.Service.Path

/-!
# Routes and bodies

Which request a method, a target and a body make. The body has to be an object with the fields of
the request; fields that it does not know are passed over, and a field that is optional may be
`null`.
-/

namespace WhileLang.Service

/-! ## Bodies -/

/-- A field that may be left out or be `null`. -/
def optionalField {α : Type} (name : String) (read : Json → Option α)
    (members : List (String × Json)) : Option (Option α) :=
  match Json.member? name members with
  | none | some .null => some none
  | some j => (read j).map some

/-- A number that counts something. -/
def nonNegative? (j : Json) : Option Int := do
  let i ← j.toInt?
  if 0 ≤ i then some i else none

/-- The words for the truth values. -/
def truthWord? (word : String) : Option Bool :=
  let w := String.ofList (word.toList.map Char.toLower)
  if w ∈ ["1", "on", "t", "true", "y", "yes"] then some true
  else if w ∈ ["0", "off", "f", "false", "n", "no"] then some false
  else none

/-- Truth values may also be written as the numbers `0` and `1`, and as words. -/
def truth? : Json → Option Bool
  | .bool b => some b
  | .string s => truthWord? s
  | .int i => if i = 0 then some false else if i = 1 then some true else none
  | .decimal d =>
    match d.toInt? with
    | some i => if i = 0 then some false else if i = 1 then some true else none
    | none => none
  | _ => none

/-- The most budgets that one request may list. -/
def maxBudgets : Nat := 64

def budgets? (j : Json) : Option (List Int) := do
  let bs ← (← j.elements?).mapM nonNegative?
  if bs.length ≤ maxBudgets then some bs else none

/-- The program of a request: exactly one of its two fields must be given. -/
def programRequest? (ms : List (String × Json)) : Option ProgramRequest := do
  let name ← optionalField "program" Json.text? ms
  let command ← optionalField "command" Json.toCommand? ms
  let state ← optionalField "state" Json.toState? ms
  match name, command with
  | some name, none => return ⟨.catalogue name, state⟩
  | none, some c => return ⟨.given c, state⟩
  | _, _ => none

/-- A list of nodes that is not empty. -/
def nodes? (j : Json) : Option (List FlatNode) := do
  let ns ← (← j.elements?).mapM Json.toFlatNode?
  if ns.isEmpty then none else some ns

/-! ## Routes -/

/-- The request that a body makes. -/
def Action.request? (a : Action) (ms : List (String × Json)) : Option Request :=
  match a with
  | .run => do
    return .run (← programRequest? ms) (← optionalField "budget" nonNegative? ms)
  | .step => do return .step (← programRequest? ms)
  | .trace => do
    return .trace (← programRequest? ms) (← optionalField "max_steps" nonNegative? ms)
      (← Json.optional "record" truth? true ms)
  | .derive => do
    return .derive (← programRequest? ms) (← optionalField "budget" nonNegative? ms)
  | .verify => do
    return .verify (← Json.required "nodes" nodes? ms) (← Json.optional "names" Json.toNames? ∅ ms)
  | .denote => do
    return .denote (← programRequest? ms) (← Json.optional "budgets" budgets? [] ms)
  | .equivalence => do
    return .equivalence (← programRequest? ms) (← optionalField "budget" nonNegative? ms)
      (← optionalField "max_steps" nonNegative? ms)
  | .optimize => do return .optimize (← programRequest? ms)
  | .eval => do
    return .eval (← Json.required "expr" Json.toExpression? ms)
      (← Json.optional "state" Json.toState? .initial ms)

/-- The request that a method, a target and a body make; the case of the method does not matter. -/
def route (method target : String) (body : Option Json) : Except Refusal Request :=
  let method := String.ofList (method.toList.map Char.toUpper)
  match Place.ofTarget? target with
  | none => .error .unknownPath
  | some .health => if method = "GET" then .ok .health else .error .wrongMethod
  | some .programs => if method = "GET" then .ok .programs else .error .wrongMethod
  | some (.program name) => if method = "GET" then .ok (.program name) else .error .wrongMethod
  | some (.action a) =>
    if method = "POST" then
      match (body.bind Json.members?).bind a.request? with
      | some r => .ok r
      | none => .error .malformed
    else .error .wrongMethod

/-- The body of a response. -/
def encode (r : Response) : Except Refusal Json := Refusal.ofError r.written

/-- The status and the body with which a request is answered. -/
def respond (st : Settings) (method target : String) (body : Option Json) : Nat × Json :=
  match route method target body >>= answer st >>= encode with
  | .ok j => (200, j)
  | .error r => (r.status, .object [("detail", .string r.detail)])

end WhileLang.Service

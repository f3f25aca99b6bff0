import WhileLang.Catalog
import WhileLang.Derivation.Flat
import WhileLang.Phrase

/-!
# Requests to the service

What can be asked of the service, and why it may refuse. A program is given by its name in the
catalogue or as a bare command; a state that comes with it takes the place of its own.
-/

namespace WhileLang.Service

/-- Where the program of a request comes from. -/
inductive Origin where
  | catalogue (name : String)
  | given (c : Command)

structure ProgramRequest where
  origin : Origin
  state : Option State

/-- The program that a request is about. -/
def ProgramRequest.resolve (r : ProgramRequest) : Except Error Program := do
  let p ← match r.origin with
    | .catalogue name => Catalog.find name
    | .given c => .ok (.ofCommand "inline" "" c)
  return { p with initial := r.state.getD p.initial }

inductive Request where
  | health
  | programs
  | program (name : String)
  | run (p : ProgramRequest) (budget : Option Int)
  | step (p : ProgramRequest)
  | trace (p : ProgramRequest) (maxSteps : Option Int) (record : Bool)
  | derive (p : ProgramRequest) (budget : Option Int)
  | verify (nodes : List FlatNode) (names : Names)
  | denote (p : ProgramRequest) (budgets : List Int)
  | equivalence (p : ProgramRequest) (budget maxSteps : Option Int)
  | optimize (p : ProgramRequest)
  | eval (expr : Phrase) (s : State)

/-- Why a request is refused. -/
inductive Refusal where
  | unknownPath
  | wrongMethod
  /-- The body of the request does not have the form it should have. -/
  | malformed
  /-- A limit that was asked for exceeds the greatest one allowed. -/
  | overLimit (field : String) (value limit : Int)
  | failed (e : Error)
deriving DecidableEq

namespace Refusal

def status : Refusal → Nat
  | unknownPath => 404
  | wrongMethod => 405
  | malformed | overLimit .. => 422
  | failed e => if e.category = .unknownName then 404 else 422

def detail : Refusal → String
  | unknownPath => "Not Found"
  | wrongMethod => "Method Not Allowed"
  | malformed => "<validation>"
  | overLimit field value limit =>
    field ++ "=" ++ toString value ++ " przekracza limit " ++ toString limit
  | failed e => e.message

/-- An error of the library as a reason to refuse. -/
def ofError {α : Type} (r : Except Error α) : Except Refusal α :=
  match r with
  | .ok a => .ok a
  | .error e => .error (.failed e)

end Refusal

end WhileLang.Service

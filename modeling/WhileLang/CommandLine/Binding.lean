import WhileLang.Error
import WhileLang.Program
import WhileLang.Text.IntLiteral

/-!
# Bindings

A binding `variable=value` on the command line. The variable is given by its name, by its key in
digits, or by its key behind an `x`; a name counts before a key. Blanks around the variable and
around the value do not matter.
-/

namespace WhileLang.CommandLine

/-- The variable with the given digits as its key. Its length is looked at first, up to a digit that
is not decimal. -/
def identOfDigits (text : String) : Except Error Ident :=
  let length := (text.toList.takeWhile Text.isDecimal).length
  if Text.maxDigits < length then .error (.tooManyDigits length)
  else
    match Text.typedInt? text with
    | some i => .ok i
    | none => .error (.notANumeral text)

/-- The variable that a key stands for. -/
def identOfKey (names : Names) (key : String) : Except Error Ident :=
  match names.identOf? key with
  | some x => .ok x
  | none =>
    if Text.allDigits key.toList then identOfDigits key
    else
      match key.toList with
      | 'x' :: digits =>
        if Text.allDigits digits then identOfDigits (String.ofList digits)
        else .error (.unknownVariable key)
      | _ => .error (.unknownVariable key)

/-- Reads a binding. The first equals sign divides it. -/
def parseBinding (names : Names) (raw : String) : Except Error (Ident × Int) :=
  match raw.toList.dropWhile (· ≠ '=') with
  | [] => .error (.bindingWithoutValue raw)
  | _ :: value => do
    let x ← identOfKey names (Text.strip (String.ofList (raw.toList.takeWhile (· ≠ '='))))
    match Text.readInt (Text.strip (String.ofList value)) with
    | some v => return (x, v)
    | none => throw (.notAnInteger (String.ofList value))

/-- Changes a state by bindings, in order; one that is missing is an error. -/
def bindAll (names : Names) (s : State) : List (Option String) → Except Error State
  | [] => .ok s
  | none :: _ => .error .missingBinding
  | some raw :: rest =>
    match parseBinding names raw with
    | .error e => .error e
    | .ok (x, v) => bindAll names (s.update x v) rest

/-- The initial state of a program with bindings. -/
def initialState (p : Program) (bindings : List (Option String)) : Except Error State :=
  bindAll p.names p.initial bindings

end WhileLang.CommandLine

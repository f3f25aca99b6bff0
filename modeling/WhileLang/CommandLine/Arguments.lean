import WhileLang.Text.IntLiteral

/-!
# Arguments

How a list of arguments is read against a list of options. An option is written `--name value`,
`--name=value`, `-n value` or `-nvalue`; a flag has no value, and another option may follow its
letter behind the same dash. The name of an option may be shortened as long as it stays the only one
that begins so. A value must not look like an option, but may be a negative number or hold a blank;
where `--` is attached as a value, there is none. Options may stand before and behind the one
positional argument; behind an argument `--` everything is positional. Arguments are read from left
to right: what comes first, a value that does not fit or the wish for help, decides.
-/

namespace WhileLang.CommandLine

/-- The value that an option is given with. -/
inductive ValueKind where
  | nothing
  | text
  | integer
deriving DecidableEq

/-- A flag admits no value, and a number has to be one if it is there. -/
def ValueKind.admits : ValueKind → Option String → Bool
  | .nothing, _ => false
  | .text, _ => true
  | .integer, value => value.all fun text => (Text.readInt text).isSome

/-- An option as it is declared; it is known by its long name. -/
structure OptionSpec where
  long : String
  short : Option Char
  value : ValueKind
deriving DecidableEq

/-- What a subcommand takes. -/
structure Usage where
  /-- Whether there is a positional argument; if so it is required. -/
  positional : Bool
  options : List OptionSpec

/-- What was given. Options stand in their order, flags without a value. -/
structure Parsed where
  positional : Option String
  options : List (String × Option String)

/-- Why arguments are not acted upon. -/
inductive Stop where
  /-- They do not fit. -/
  | misuse
  /-- They ask for help. -/
  | help
deriving DecidableEq

/-- The option that asks for help. -/
def helpOption : OptionSpec := ⟨"help", some 'h', .nothing⟩

/-- How an argument is understood. -/
inductive Token where
  | plain (text : String)
  /-- The argument `--`. -/
  | separator
  | option (spec : OptionSpec) (value : Option String)
  /-- A flag by its letter, with more letters behind it. -/
  | cluster (flag : OptionSpec) (letters : List Char)
  /-- Looks like an option, but is none. -/
  | unknown
  /-- The beginning of several options. -/
  | ambiguous

/-- A minus sign, decimal digits, and perhaps a point among them; a line feed may follow. -/
def isNegativeNumber (cs : List Char) : Bool :=
  match if cs.getLast? = some '\n' then cs.dropLast else cs with
  | '-' :: cs =>
    match cs.dropWhile Text.isDecimal with
    | [] => !cs.isEmpty
    | '.' :: rest => !rest.isEmpty && rest.all Text.isDecimal
    | _ => false
  | _ => false

/-- Splits at the first equals sign, if there is one. -/
def splitEquals (cs : List Char) : List Char × Option String :=
  match cs.dropWhile (· ≠ '=') with
  | [] => (cs, none)
  | _ :: value => (cs.takeWhile (· ≠ '='), some (String.ofList value))

/-- The options that an argument with two dashes may mean, and its value. -/
def longMatches (options : List OptionSpec) (cs : List Char) : List OptionSpec × Option String :=
  let (name, value) := splitEquals cs
  match options.filter fun o => o.long.toList = name with
  | [] => (options.filter fun o => name <+: o.long.toList, value)
  | exact => (exact, value)

/-- The token of an argument that begins with a dash but means no option. -/
def dashToken (arg : String) : Token :=
  if isNegativeNumber arg.toList ∨ ' ' ∈ arg.toList then .plain arg else .unknown

/-- The token of one argument. -/
def token (options : List OptionSpec) (arg : String) : Token :=
  match arg.toList with
  | '-' :: '-' :: [] => .separator
  | '-' :: '-' :: cs =>
    match longMatches options cs with
    | ([], _) => dashToken arg
    | ([o], value) => .option o value
    | _ => .ambiguous
  | '-' :: c :: cs =>
    match options.find? fun o => o.short = some c with
    | none => dashToken arg
    | some o =>
      let value := match cs with
        | '=' :: value => value
        | value => value
      if cs.isEmpty then .option o none
      else if o.value = .nothing ∧ !value.isEmpty then .cluster o value
      else .option o (some (String.ofList value))
  | _ => .plain arg

/-- The tokens of a list of arguments; behind a separator all are plain. -/
def tokens (options : List OptionSpec) : List String → List Token
  | [] => []
  | arg :: args =>
    match token options arg with
    | .separator => .separator :: args.map .plain
    | t => t :: tokens options args

/-- Reading under way. -/
structure Reading where
  positional : Option String := none
  /-- The positional argument was the last token, so that a separator may follow it. -/
  afterPositional : Bool := false
  options : List (String × Option String) := []
  /-- Something was left over, which is a misuse unless help is asked for. -/
  leftOver : Bool := false

/-- Takes a plain argument. -/
def Reading.takePlain (u : Usage) (r : Reading) (text : String) : Reading :=
  if u.positional ∧ r.positional.isNone then
    { r with positional := some text, afterPositional := true }
  else { r with leftOver := true, afterPositional := false }

/-- Takes a flag. -/
def Reading.takeFlag (r : Reading) (o : OptionSpec) : Except Stop Reading :=
  if o = helpOption then .error .help
  else .ok { r with options := r.options ++ [(o.long, none)], afterPositional := false }

/-- Takes an option with its value, if there is one. -/
def Reading.takeOption (r : Reading) (o : OptionSpec) (value : Option String) :
    Except Stop Reading :=
  if o.value.admits value then
    .ok { r with options := r.options ++ [(o.long, value)], afterPositional := false }
  else .error .misuse

/-- An attached value, where a separator is as good as none. -/
def attachedValue (value : String) : Option String := if value = "--" then none else some value

/-- Whether the next token can be the value of an option. -/
def startsPlain : List Token → Bool
  | .plain _ :: _ => true
  | _ => false

/-- Whether letters behind a flag are options with all that they need; the last of them takes what
is left of the letters, or the token behind them. -/
def clusterFits (options : List OptionSpec) (rest : List Token) : List Char → Bool
  | [] => true
  | c :: cs =>
    match options.find? fun o => o.short = some c with
    | none => false
    | some o =>
      if o.value = .nothing then clusterFits options rest cs
      else !cs.isEmpty || startsPlain rest

/-- The options that arguments are read against. -/
def Usage.allOptions (u : Usage) : List OptionSpec := helpOption :: u.options

/-- Reads tokens one after the other. -/
def readTokens (u : Usage) (r : Reading) : List Token → Except Stop Reading
  | [] => .ok r
  | .plain text :: rest => readTokens u (r.takePlain u text) rest
  | .unknown :: rest => readTokens u { r with leftOver := true, afterPositional := false } rest
  | .ambiguous :: _ => .error .misuse
  | .separator :: rest =>
    if r.afterPositional ∨ (u.positional ∧ r.positional.isNone ∧ !rest.isEmpty) then
      readTokens u { r with afterPositional := false } rest
    else readTokens u { r with leftOver := true, afterPositional := false } rest
  | .cluster o letters :: rest => do
    if clusterFits u.allOptions rest letters then readTokens u (← r.takeFlag o) rest
    else .error .misuse
  | .option o (some value) :: rest => do readTokens u (← r.takeOption o (attachedValue value)) rest
  | .option o none :: rest =>
    match o.value, rest with
    | .nothing, rest => do readTokens u (← r.takeFlag o) rest
    | _, .plain value :: rest => do readTokens u (← r.takeOption o (some value)) rest
    | _, _ => .error .misuse

/-- Whether some argument cannot be told from several options. -/
def hasAmbiguous (ts : List Token) : Bool :=
  ts.any fun t => match t with
    | .ambiguous => true
    | _ => false

/-- Reads the arguments of a subcommand. -/
def parse (u : Usage) (args : List String) : Except Stop Parsed :=
  let ts := tokens u.allOptions args
  if hasAmbiguous ts then .error .misuse
  else
    match readTokens u {} ts with
    | .error s => .error s
    | .ok r =>
      if r.leftOver ∨ (u.positional ∧ r.positional.isNone) then .error .misuse
      else .ok ⟨r.positional, r.options⟩

namespace Parsed

/-- An option as it counts: as it was given last. -/
def last? (p : Parsed) (name : String) : Option (Option String) :=
  (p.options.reverse.find? fun o => o.1 = name).map Prod.snd

/-- All values of an option, in order. -/
def all (p : Parsed) (name : String) : List (Option String) :=
  (p.options.filter fun o => o.1 = name).map Prod.snd

/-- Whether a flag was given. -/
def has (p : Parsed) (name : String) : Bool := (p.last? name).isSome

end Parsed

end WhileLang.CommandLine

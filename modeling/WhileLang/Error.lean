import WhileLang.Command
import WhileLang.Text.Digit
import WhileLang.Text.Quoted

/-!
# Errors

Everything that an operation of the library can refuse, by its cause. `Error.message` is the one
place where the wording stands, `Error.category` says what kind of mistake it is.
-/

namespace WhileLang

/-- The three kinds of phrase of the language. -/
inductive PhraseKind where
  | arithmetic
  | boolean
  | command
deriving DecidableEq

/-- Why a file cannot be read. -/
inductive FileFault where
  | missing
  /-- What should be the folder of the file is a file. -/
  | notInFolder
  | isFolder
  | nameTooLong
deriving DecidableEq

/-- What a number on the command line is for. -/
inductive NumberUse where
  /-- It bounds a run or a trace. -/
  | bound
  /-- It is the greatest budget that is tried. -/
  | ceiling
  | count
  | seed
deriving DecidableEq

/-- What went wrong. -/
inductive Error where
  /-- A budget for running a command is below zero. -/
  | negativeBudget (budget : Int)
  /-- A limit on the number of steps is below zero. -/
  | negativeStepLimit (limit : Int)
  /-- A loop was to be approximated by fewer than no turns. -/
  | negativeTurns (turns : Int)
  /-- A configuration has several next steps. -/
  | severalSuccessors (count : Nat) (form : Command.Form)
  /-- A command other than `skip` has no next step. -/
  | noSuccessor (form : Command.Form)
  /-- A flat derivation without nodes has no root. -/
  | noNodes
  /-- A premise does not stand behind the node that uses it. -/
  | premiseOutOfRange (node : Nat) (premise : Int)
  /-- Two nodes share a premise. -/
  | premiseShared (premise : Nat)
  /-- Nodes that are no premise of any node. -/
  | unreachable (nodes : List Nat)
  /-- No program of the catalogue has the name. -/
  | unknownProgram (name : String)
  /-- A phrase of one kind was expected and another one was given; `found` is its type's name. -/
  | wrongPhrase (expected : PhraseKind) (found : String)
  /-- An entry of a state was to be changed in place. -/
  | stateIsReadOnly
  /-- A binding on the command line has no equals sign. -/
  | bindingWithoutValue (raw : String)
  /-- An option that takes a binding was given without one. -/
  | missingBinding
  /-- An option that takes a number was given without one. -/
  | missingNumber (use : NumberUse)
  /-- A binding names no variable. -/
  | unknownVariable (key : String)
  /-- Digits that are not all decimal name no variable. -/
  | notANumeral (text : String)
  /-- A key is longer than numerals may be. -/
  | tooManyDigits (count : Nat)
  /-- A number is longer than numerals may be. -/
  | numberTooLong
  /-- The value of a binding is no integer. -/
  | notAnInteger (text : String)
  /-- A program file cannot be read; `source` is how it was asked for. -/
  | unreadableFile (source path : String) (fault : FileFault)
  /-- A program file was given by what cannot be a path. -/
  | zeroInPath
  /-- A program file holds no program. -/
  | notAProgram (source : String)
deriving DecidableEq

namespace Error

/-- Which sort of mistake an error is. -/
inductive Category where
  | invalidValue
  | unknownName
  | wrongType
  | nondeterminism
  | stuckness
deriving DecidableEq

def category : Error → Category
  | severalSuccessors .. => .nondeterminism
  | noSuccessor _ => .stuckness
  | unknownProgram _ => .unknownName
  | wrongPhrase .. | stateIsReadOnly | missingNumber _ => .wrongType
  | _ => .invalidValue

/-- How a message speaks of a kind of phrase. -/
def phraseText : PhraseKind → String
  | .arithmetic => "typ węzła AExp"
  | .boolean => "typ węzła BExp"
  | .command => "typ komendy"

/-- Numbers in brackets, separated by commas. -/
def listText (ns : List Nat) : String := "[" ++ ", ".intercalate (ns.map toString) ++ "]"

/-- A list of unreachable nodes is cut after ten. -/
def shownNodes : Nat := 10

/-- The number and the name of what is wrong with a file. -/
def faultText : FileFault → String
  | .missing => "[Errno 2] No such file or directory"
  | .notInFolder => "[Errno 20] Not a directory"
  | .isFolder => "[Errno 21] Is a directory"
  | .nameTooLong => "[Errno 36] File name too long"

/-- What cannot be done without a number. -/
def needText : NumberUse → String
  | .bound => "'<' not supported between instances of 'list' and 'int'"
  | .ceiling => "'<' not supported between instances of 'int' and 'list'"
  | .count => "'list' object cannot be interpreted as an integer"
  | .seed => "The only supported seed types are: None,\nint, float, str, bytes, and bytearray."

/-- What is shown of a text that should be a numeral is cut after two hundred characters. -/
def shownNumeral : Nat := 200

/-- That a numeral would have too many digits. -/
def limitText : String :=
  "Exceeds the limit (" ++ toString Text.maxDigits ++ " digits) for integer string conversion"

/-- What can be done about it. -/
def limitAdvice : String := "; use sys.set_int_max_str_digits() to increase the limit"

/-- The first characters of a text. -/
def cut (length : Nat) (text : String) : String := String.ofList (text.toList.take length)

def message : Error → String
  | negativeBudget b => "Budżet musi być >= 0, jest " ++ toString b
  | negativeStepLimit n => "max_steps musi być >= 0, jest " ++ toString n
  | negativeTurns n => "n musi być >= 0, jest " ++ toString n
  | severalSuccessors n f => toString n ++ " następników dla komendy " ++ Text.quoted f.tag
  | noSuccessor f => "Brak reguły dla komendy " ++ Text.quoted f.tag
  | noNodes => "Pusta lista węzłów wyprowadzenia"
  | premiseOutOfRange i j =>
    "Węzeł " ++ toString i ++ ": niepoprawny indeks przesłanki " ++ toString j
  | premiseShared j => "Węzeł " ++ toString j ++ " jest przesłanką więcej niż raz"
  | unreachable js => "Węzły nieosiągalne z korzenia: " ++ listText (js.take shownNodes)
  | unknownProgram name => "Nieznany program: " ++ Text.quoted name
  | wrongPhrase k found => "Nieznany " ++ phraseText k ++ ": <class 'contracts." ++ found ++ "'>"
  | stateIsReadOnly => "State.bindings jest tylko do odczytu, użyj State.update()"
  | bindingWithoutValue raw => "oczekiwano NAZWA=WARTOŚĆ, jest " ++ Text.quoted raw
  | missingBinding => "oczekiwano NAZWA=WARTOŚĆ, jest " ++ listText []
  | missingNumber use => needText use
  | unknownVariable key => "nieznana zmienna " ++ Text.quoted key
  | notANumeral text =>
    "invalid literal for int() with base 10: " ++ cut shownNumeral (Text.quoted text)
  | tooManyDigits n => limitText ++ ": value has " ++ toString n ++ " digits" ++ limitAdvice
  | numberTooLong => limitText ++ limitAdvice
  | notAnInteger text => "wartość " ++ Text.quoted text ++ " nie jest liczbą całkowitą"
  | unreadableFile source path fault =>
    "nie można odczytać pliku " ++ source ++ ": " ++ faultText fault ++ ": " ++ Text.quoted path
  | zeroInPath => "embedded null byte"
  | notAProgram source => source ++ " nie zawiera poprawnego drzewa komendy:"

end Error

/-! ## Computations that may fail -/

section

variable {ε α β : Type}

/-- A computation in two stages succeeds if both do. -/
theorem bind_eq_ok_iff {x : Except ε α} {f : α → Except ε β} {b : β} :
    x >>= f = .ok b ↔ ∃ a, x = .ok a ∧ f a = .ok b := by
  constructor
  · intro h
    cases x with
    | error e => cases h
    | ok a => exact ⟨a, rfl, h⟩
  · rintro ⟨a, rfl, h⟩
    exact h

/-- It fails if one of them does. -/
theorem bind_eq_error_iff {x : Except ε α} {f : α → Except ε β} {e : ε} :
    x >>= f = .error e ↔ x = .error e ∨ ∃ a, x = .ok a ∧ f a = .error e := by
  constructor
  · intro h
    cases x with
    | error e' =>
      cases h
      exact .inl rfl
    | ok a => exact .inr ⟨a, rfl, h⟩
  · rintro (rfl | ⟨a, rfl, h⟩)
    · rfl
    · exact h

theorem map_eq_ok_iff {x : Except ε α} {f : α → β} {b : β} :
    x.map f = .ok b ↔ ∃ a, x = .ok a ∧ f a = b := by
  constructor
  · intro h
    cases x with
    | error e => cases h
    | ok a => exact ⟨a, rfl, Except.ok.inj h⟩
  · rintro ⟨a, rfl, rfl⟩
    rfl

/-- If all of a list succeed, each of them does. -/
theorem exists_of_mapM_eq_ok {f : α → Except ε β} {as : List α} {bs : List β}
    (h : as.mapM f = .ok bs) : ∀ a ∈ as, ∃ b, f a = .ok b := by
  induction as generalizing bs with
  | nil => exact fun a ha => by cases ha
  | cons a as ih =>
    rw [List.mapM_cons] at h
    obtain ⟨b, hb, h⟩ := bind_eq_ok_iff.1 h
    obtain ⟨bs, hbs, -⟩ := bind_eq_ok_iff.1 h
    exact List.forall_mem_cons.2 ⟨⟨b, hb⟩, ih hbs⟩

/-- The computation can fail in one way only. -/
def FailsOnlyWith (e : ε) (x : Except ε α) : Prop := ∀ e', x = .error e' → e' = e

namespace FailsOnlyWith

variable {e : ε} {x : Except ε α}

theorem ok (a : α) : FailsOnlyWith e (.ok a) := fun _ h => by cases h

theorem error : FailsOnlyWith e (.error e : Except ε α) := fun _ h => (Except.error.inj h).symm

theorem ite (p : Prop) [Decidable p] (a : α) :
    FailsOnlyWith e (if p then .ok a else .error e) := by
  split
  · exact ok a
  · exact error

theorem bind {f : α → Except ε β} (hx : FailsOnlyWith e x) (hf : ∀ a, FailsOnlyWith e (f a)) :
    FailsOnlyWith e (x >>= f) := by
  intro e' h
  rcases bind_eq_error_iff.1 h with h | ⟨a, -, h⟩
  · exact hx e' h
  · exact hf a e' h

theorem map {f : α → β} (hx : FailsOnlyWith e x) : FailsOnlyWith e (x.map f) :=
  hx.bind fun _ => .ok _

theorem mapM {f : α → Except ε β} {as : List α} (h : ∀ a ∈ as, FailsOnlyWith e (f a)) :
    FailsOnlyWith e (as.mapM f) := by
  induction as with
  | nil => exact .ok []
  | cons a as ih =>
    obtain ⟨ha, has⟩ := List.forall_mem_cons.1 h
    rw [List.mapM_cons]
    exact ha.bind fun _ => (ih has).bind fun _ => .ok _

/-- It succeeds or fails in this way. -/
theorem ok_or_error (hx : FailsOnlyWith e x) : (∃ a, x = .ok a) ∨ x = .error e := by
  cases x with
  | ok a => exact .inl ⟨a, rfl⟩
  | error e' => exact .inr (congrArg _ (hx e' rfl))

end FailsOnlyWith

end

end WhileLang

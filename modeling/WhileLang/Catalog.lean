import WhileLang.Error
import WhileLang.Program

/-!
# The catalogue

Seven named programs: division with remainder, a conditional assignment, the factorial, the sum of
the first numbers, a countdown, a loop that ends for no negative number, and one that never ends.
They share one set of variables.
-/

namespace WhileLang.Catalog

def x : Ident := 0
def y : Ident := 1
def r : Ident := 2
def q : Ident := 3
def n : Ident := 4
def s : Ident := 5
def acc : Ident := 6
def tmp : Ident := 7
def c : Ident := 8

/-- The names of the shared variables. -/
def names : Names :=
  .ofList [(x, "x"), (y, "y"), (r, "r"), (q, "q"), (n, "n"), (s, "s"), (acc, "acc"), (tmp, "tmp"),
    (c, "c")]

/-- The condition that a variable is positive. -/
def positive (v : Ident) : BExp := .lessEqual (.number 1) (.var v)

/-- Subtracts one from a variable. -/
def decrement (v : Ident) : Command := .assign v (.minus (.var v) (.number 1))

/-- Adds one variable to another. -/
def addTo (v w : Ident) : Command := .assign v (.plus (.var v) (.var w))

/-- `q` and `r` become the quotient and the remainder of `x` by `y`, by repeated subtraction. -/
def euclid : Command :=
  .inOrder [
    .assign r (.var x),
    .assign q (.number 0),
    .loop (.lessEqual (.var y) (.var r)) (.inOrder [
      .assign r (.minus (.var r) (.var y)),
      .assign q (.plus (.var q) (.number 1))])]

def conditional : Command :=
  .branch (.lessEqual (.number 1) (.number 2)) (.assign x (.number 3)) (.assign x (.number 0))

/-- Multiplies `acc` by `n`, by repeated addition. -/
def multiply : Command :=
  .inOrder [
    .assign tmp (.number 0),
    .assign c (.var n),
    .loop (positive c) (.inOrder [addTo tmp acc, decrement c]),
    .assign acc (.var tmp)]

/-- `acc` becomes the factorial of `n`. -/
def factorial : Command :=
  .inOrder [
    .assign acc (.number 1),
    .loop (positive n) (.inOrder [multiply, decrement n])]

/-- `s` becomes the sum of the numbers up to `n`. -/
def summation : Command :=
  .inOrder [
    .assign s (.number 0),
    .loop (positive n) (.inOrder [addTo s n, decrement n])]

def countdown : Command := .loop (positive x) (decrement x)

def toZero : Command := .loop (.neg (.equal (.var x) (.number 0))) (decrement x)

def diverge : Command := .loop .tt .skip

/-- All programs, in their order. -/
def programs : List Program :=
  [⟨"euclid", "Iloraz q i reszta r z dzielenia x przez y", euclid, names,
      .ofList [(x, 101), (y, 7)]⟩,
    ⟨"conditional", "Przypisanie warunkowe: x = 3", conditional, names, .initial⟩,
    ⟨"factorial", "acc = n! przez wielokrotne dodawanie", factorial, names, .ofList [(n, 5)]⟩,
    ⟨"sum", "s = 1 + 2 + ... + n", summation, names, .ofList [(n, 10)]⟩,
    ⟨"countdown", "Odliczanie x do zera", countdown, names, .ofList [(x, 10)]⟩,
    ⟨"to_zero", "Zmniejszanie x aż do zera; dla x < 0 pętla się nie kończy", toZero, names,
      .ofList [(x, 5)]⟩,
    ⟨"diverge", "while true do skip - brak wyniku w każdym budżecie", diverge, names, .initial⟩]

/-- The program with the given name. -/
def find (name : String) : Except Error Program :=
  match programs.find? fun p => p.name = name with
  | some p => .ok p
  | none => .error (.unknownProgram name)

end WhileLang.Catalog

import WhileLang.Binary64
import WhileLang.Command
import WhileLang.Random.Source
import WhileLang.State

/-!
# Random programs

A `Generator` draws expressions, commands and states from a source of random choices. A request
can fail, at an empty range to choose from; choices that were made before the failure stay made,
and so do the loop counters that were handed out.

Commands are drawn in two modes. A bounded command has counted loops only: the counter is a
variable of its own, which nothing but the loop changes, so a bounded command always ends.
-/

namespace WhileLang

namespace Generator

/-- Why a request fails. -/
inductive Failure where
  /-- There is nothing to choose from. -/
  | nothingToChoose
  /-- The range of the constants is empty, or no weight is left to choose by. -/
  | emptyRange
  /-- A whole weight is too large to be rounded to binary64. -/
  | tooLarge
deriving DecidableEq

/-- What a choice weighs, in comparison with the other choices. -/
inductive Weight where
  | whole (n : Int)
  /-- A fraction in binary64, by its number of units. -/
  | fraction (units : Int)
  /-- Beyond the range of binary64. -/
  | infinite
deriving DecidableEq

namespace Weight

/-- A weight that has been rounded. -/
def ofUnits? : Option Int → Weight
  | some u => fraction u
  | none => infinite

/-- The exact value in units of binary64, if it is finite. -/
def units? : Weight → Option Int
  | whole n => some (n * Binary64.one)
  | fraction u => some u
  | infinite => none

/-- The weight rounded to binary64. -/
def rounded : Weight → Except Failure Weight
  | whole n =>
    match Binary64.nearest? (n * Binary64.one) 1 with
    | some u => .ok (fraction u)
    | none => .error .tooLarge
  | w => .ok w

/-- Whole weights are added exactly, all others with rounding. -/
def add : Weight → Weight → Except Failure Weight
  | whole m, whole n => .ok (whole (m + n))
  | v, w => do
    let v ← v.rounded
    let w ← w.rounded
    return ofUnits? do Binary64.nearest? ((← v.units?) + (← w.units?)) 1

end Weight

/-- What is drawn from, and how deep. -/
structure Config where
  /-- The variables of the programs. -/
  idents : List Ident := [0, 1, 2]
  minConst : Int := -5
  maxConst : Int := 5
  maxExprDepth : Int := 3
  maxCommandDepth : Int := 3
  /-- The greatest number of turns of a counted loop. -/
  maxLoopCount : Int := 4
  /-- The first variable that serves as the counter of a loop. -/
  counterBase : Ident := 100
  /-- The forms of commands, with what they weigh in the choice among them. -/
  weights : List (Command.Form × Weight) :=
    [(.skip, .whole 1), (.assign, .whole 4), (.seq, .whole 3), (.branch, .whole 2),
      (.loop, .whole 1)]

instance : Inhabited Config := ⟨{}⟩

/-- The form that a word stands for in a list of weights; every unknown word stands for loops. -/
def formOfWord (word : String) : Command.Form :=
  match [Command.Form.skip, .assign, .seq, .branch].find? fun f => f.tag = word with
  | some f => f
  | none => .loop

/-- Sets the weight of a word where it stands, or adds the word at the end. -/
def setWeight (word : String) (weight : Weight) :
    List (String × Weight) → List (String × Weight)
  | [] => [(word, weight)]
  | (w, v) :: rest =>
    if w = word then (word, weight) :: rest else (w, v) :: setWeight word weight rest

/-- Weights given by words; a repeated word keeps its place and takes its last weight. -/
def weightsOfWords (ws : List (String × Weight)) : List (Command.Form × Weight) :=
  (ws.foldl (fun acc w => setWeight w.1 w.2 acc) []).map fun w => (formOfWord w.1, w.2)

/-- What changes while programs are drawn. -/
structure Progress (σ : Type) where
  source : σ
  /-- The variable that the next counted loop gets. -/
  nextCounter : Ident

/-- A request for an `α`. -/
abbrev Draw (σ α : Type) := ExceptT Failure (StateM (Progress σ)) α

end Generator

/-- A way to draw programs. -/
structure Generator (σ : Type) where
  source : Random.Source σ
  config : Generator.Config

namespace Generator

open WhileLang.Random

variable {σ : Type}

/-- The start of a generator's work. -/
def start (gen : Generator σ) (g : σ) : Progress σ := ⟨g, gen.config.counterBase⟩

/-- Uses the source. -/
def draw {α : Type} (choice : σ → α × σ) : Draw σ α := do
  let p ← get
  let (a, g) := choice p.source
  set { p with source := g }
  return a

/-- Hands out a variable for the counter of a loop. -/
def freshCounter : Draw σ Ident := do
  let p ← get
  set { p with nextCounter := p.nextCounter + 1 }
  return p.nextCounter

/-- Chances are counted in units of `2 ^ -55`. -/
abbrev Chance := Nat

/-- `3 / 10`, as the nearest fraction with 53 significant bits. -/
def threeTenths : Chance := 10808639105689190

/-- `3 / 20`, as the nearest fraction with 53 significant bits. -/
def threeTwentieths : Chance := 5404319552844595

/-- `3 / 5`, as the nearest fraction with 53 significant bits. -/
def threeFifths : Chance := 21617278211378380

/-- `1 / 5`, as the nearest fraction with 53 significant bits. -/
def oneFifth : Chance := 7205759403792794

def oneHalf : Chance := 1 <<< 54

/-- A random fraction in units of `2 ^ -55`. -/
def roll (gen : Generator σ) : Draw σ Nat := do return 4 * (← draw gen.source.fraction)

/-- Comes true with the given chance. -/
def happens (gen : Generator σ) (p : Chance) : Draw σ Bool := do return (← gen.roll) < p

/-- One of the elements of a list, all equally likely. -/
def choose {α : Type} (gen : Generator σ) (xs : List α) : Draw σ α := do
  if xs.isEmpty then throw .nothingToChoose
  match xs[← draw (gen.source.below xs.length)]? with
  | some x => return x
  | none => throw .nothingToChoose

/-- A number from `a` to `b`, both included. -/
def between (gen : Generator σ) (a b : Int) : Draw σ Int := do
  if b < a then throw .emptyRange
  return a + (← draw (gen.source.below (b - a + 1).toNat))

/-- The running totals of a list of weights, which begins with `w`. -/
def totals (w : Weight) : List Weight → Except Failure (List Weight)
  | [] => .ok [w]
  | v :: vs => do return w :: (← totals (← w.add v) vs)

/-- The first place whose total is above `x`, sought by halving the places from `lo` to `hi`. -/
def placeOf (ts : List Int) (x : Int) (lo hi : Nat) : Nat :=
  if lo < hi then
    if x < ts.getD ((lo + hi) / 2) 0 then placeOf ts x lo ((lo + hi) / 2)
    else placeOf ts x ((lo + hi) / 2 + 1) hi
  else lo
termination_by hi - lo
decreasing_by all_goals omega

/-- One of the elements of a list, as likely as they weigh. The total is rounded, and so is its
product with the random fraction, by which the element is found. -/
def chooseWeighted {α : Type} (gen : Generator σ) (xs : List (α × Weight)) : Draw σ α := do
  match xs.map Prod.snd with
  | [] => throw .nothingToChoose
  | w :: ws =>
    let ts ← MonadExcept.ofExcept (totals w ws)
    let last ← MonadExcept.ofExcept (ts.getLastD w).rounded
    match last.units? with
    | none => throw .emptyRange
    | some total =>
      if total ≤ 0 then throw .emptyRange
      let k ← draw gen.source.fraction
      let x := Binary64.roundQuotient (k * total.toNat) (1 <<< 53)
      match xs[placeOf (ts.filterMap Weight.units?) x 0 (xs.length - 1)]? with
      | some (a, _) => return a
      | none => throw .nothingToChoose

/-- A constant of the programs. -/
def constant (gen : Generator σ) : Draw σ Int := gen.between gen.config.minConst gen.config.maxConst

/-- A variable of the programs. -/
def ident (gen : Generator σ) : Draw σ Ident := gen.choose gen.config.idents

def atom (gen : Generator σ) : Draw σ AExp := do
  if ← gen.happens oneHalf then return .number (← gen.constant) else return .var (← gen.ident)

/-- An arithmetic expression of at most the given depth. Some sums get a zero as their left
operand in place of the one that was drawn. -/
def aexp (gen : Generator σ) : (depth : Nat) → Draw σ AExp
  | 0 => gen.atom
  | depth + 1 => do
    if ← gen.happens threeTenths then gen.atom
    else
      let left ← aexp gen depth
      let right ← aexp gen depth
      let r ← gen.roll
      if r < threeTwentieths then return .plus (.number 0) right
      else if r < threeFifths then return .plus left right
      else return .minus left right

/-- The forms of conditions that are drawn from. -/
inductive Test where
  | tt
  | ff
  | equal
  | lessEqual
  | neg
  | conj
deriving DecidableEq

/-- Every form is as likely as every other but `lessEqual`, which is twice as likely. -/
def tests : List Test := [.tt, .ff, .equal, .lessEqual, .lessEqual, .neg, .conj]

/-- A condition of at most the given depth. -/
def bexp (gen : Generator σ) : (depth : Nat) → Draw σ BExp
  | 0 => do if ← gen.happens oneHalf then return .tt else return .ff
  | depth + 1 => do
    match ← gen.choose tests with
    | .tt => return .tt
    | .ff => return .ff
    | .equal => return .equal (← gen.aexp depth) (← gen.aexp depth)
    | .lessEqual => return .lessEqual (← gen.aexp depth) (← gen.aexp depth)
    | .neg => return .neg (← bexp gen depth)
    | .conj => return .conj (← bexp gen depth) (← bexp gen depth)

/-- An expression of the depth that is configured. -/
def anyAExp (gen : Generator σ) : Draw σ AExp := gen.aexp gen.config.maxExprDepth.toNat

/-- A condition of the depth that is configured. -/
def anyBExp (gen : Generator σ) : Draw σ BExp := gen.bexp gen.config.maxExprDepth.toNat

def assignment (gen : Generator σ) : Draw σ Command := do
  return .assign (← gen.ident) (← gen.anyAExp)

/-- `k := n; while 1 <= k do { body; k := k - 1 }`, where the condition may be made stricter. -/
def countedLoop (counter : Ident) (turns : Int) (extra : Option BExp) (body : Command) : Command :=
  let running : BExp := .lessEqual (.number 1) (.var counter)
  .seq (.assign counter (.number turns))
    (.loop (match extra with
        | none => running
        | some b => .conj running b)
      (.seq body (.assign counter (.minus (.var counter) (.number 1)))))

/-- A command of at most the given depth, with counted loops only if it is to be bounded. -/
def command (gen : Generator σ) (bounded : Bool) : (depth : Nat) → Draw σ Command
  | 0 => do if ← gen.happens oneFifth then return .skip else gen.assignment
  | depth + 1 => do
    match ← gen.chooseWeighted gen.config.weights with
    | .skip => return .skip
    | .assign => gen.assignment
    | .seq => return .seq (← command gen bounded depth) (← command gen bounded depth)
    | .branch =>
      return .branch (← gen.anyBExp) (← command gen bounded depth) (← command gen bounded depth)
    | .loop =>
      if bounded then
        let counter ← freshCounter
        let turns ← gen.between 0 gen.config.maxLoopCount
        let body ← command gen bounded depth
        let extra ← if ← gen.happens oneHalf then some <$> gen.bexp 1 else pure none
        return countedLoop counter turns extra body
      else return .loop (← gen.anyBExp) (← command gen bounded depth)

/-- A state that gives every variable of the programs a constant. -/
def state (gen : Generator σ) : Draw σ State := do
  return .ofList (← gen.config.idents.mapM fun x => return (x, ← gen.constant))

/-- The generator of a seed. -/
def mersenne (config : Config) : Generator Mersenne := ⟨.mersenne, config⟩

end Generator

end WhileLang

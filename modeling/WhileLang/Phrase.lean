import WhileLang.Denotation
import WhileLang.Derivation.Build
import WhileLang.Explain
import WhileLang.Render
import WhileLang.Step
import WhileLang.ZeroPlus

/-!
# Phrases of any kind

A phrase is an expression, a condition or a command. What is asked of a phrase may suit one kind
only; a phrase of another kind is then refused by the name of its form. Running a command on an
empty budget gives no result before the phrase is looked at.
-/

namespace WhileLang

inductive Phrase where
  | aexp (e : AExp)
  | bexp (b : BExp)
  | command (c : Command)
deriving DecidableEq

namespace Phrase

instance : Inhabited Phrase := ⟨.command .skip⟩

/-- The name of the outermost form of a phrase. -/
def formName : Phrase → String
  | aexp (.number _) => "NumberNode"
  | aexp (.var _) => "VariableNode"
  | aexp (.plus ..) => "PlusNode"
  | aexp (.minus ..) => "MinusNode"
  | bexp .tt => "TrueNode"
  | bexp .ff => "FalseNode"
  | bexp (.equal ..) => "EqualNode"
  | bexp (.lessEqual ..) => "LessEqualNode"
  | bexp (.neg _) => "NotNode"
  | bexp (.conj ..) => "AndNode"
  | command .skip => "SkipCmd"
  | command (.assign ..) => "AssignCmd"
  | command (.seq ..) => "SeqCmd"
  | command (.branch ..) => "IfCmd"
  | command (.loop ..) => "WhileCmd"

def asAExp (p : Phrase) : Except Error AExp :=
  match p with
  | aexp e => .ok e
  | _ => .error (.wrongPhrase .arithmetic p.formName)

def asBExp (p : Phrase) : Except Error BExp :=
  match p with
  | bexp b => .ok b
  | _ => .error (.wrongPhrase .boolean p.formName)

def asCommand (p : Phrase) : Except Error Command :=
  match p with
  | command c => .ok c
  | _ => .error (.wrongPhrase .command p.formName)

/-- The value of an expression or of a condition. -/
inductive Value where
  | number (v : Int)
  | truth (b : Bool)
deriving DecidableEq

/-- An explanation, if the integers that it shows are short enough to be written. -/
def ifWritable (shown : List Int) (e : Explanation Value) : Except Error (Explanation Value) :=
  if shown.all Text.isWritable then .ok e else .error .numberTooLong

/-- Explains a phrase; what is no arithmetic expression has to be a condition. -/
def explain (p : Phrase) (s : State) : Except Error (Explanation Value) :=
  match p with
  | aexp e => ifWritable (e.shown s) ((e.explain s).map .number)
  | p => p.asBExp.bind fun b => ifWritable (b.shown s) ((b.explain s).map .truth)

/-- The result of a command at a budget; on an empty budget there is none, whatever the phrase. -/
def interp (p : Phrase) (budget : Int) (s : State) : Except Error (Option State) :=
  match budget? budget with
  | .error e => .error e
  | .ok 0 => .ok none
  | .ok k => p.asCommand.map fun c => c.interp .standard k s

/-- The final state of the derivation that a budget allows. -/
def derive (p : Phrase) (budget : Int) (s : State) : Except Error (Option State) :=
  match budget? budget with
  | .error e => .error e
  | .ok 0 => .ok none
  | .ok k => p.asCommand.map fun c => (c.derive .standard k s).map (·.post)

end Phrase

end WhileLang

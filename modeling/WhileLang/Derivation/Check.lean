import WhileLang.Derivation
import WhileLang.Text.Quoted

/-!
# Checking derivations

`Derivation.faults` visits every node of a tree once and lists what keeps the node from being an
instance of its rule, together with the path to the node. A node whose command has the wrong form,
or which has the wrong number of premises, has that one fault; otherwise its condition, its
premises and its final state are looked at, in this order. A node comes before its premises, and
of two premises the last one comes first.
-/

namespace WhileLang

/-- What may be wrong with a node of a derivation. -/
inductive Fault where
  /-- The rule is about another form of command. -/
  | ruleMismatch (rule : Rule) (found : Command.Form)
  /-- The rule has another number of premises. -/
  | premiseCount (rule : Rule) (found : Nat)
  /-- The condition has not the value that the rule asks for. -/
  | guardValue (rule : Rule)
  /-- A premise is about another command. -/
  | premiseCommand (found expected : Command.Form)
  /-- A premise starts in another state. -/
  | premiseState
  /-- The node ends in another state. -/
  | conclusionState (rule : Rule)
deriving DecidableEq

namespace Fault

instance : Inhabited Fault := ⟨.premiseState⟩

def code : Fault → String
  | ruleMismatch .. => "RULE_MISMATCH"
  | premiseCount .. => "PREMISE_COUNT"
  | guardValue _ => "GUARD_VALUE"
  | premiseCommand .. => "PREMISE_COMMAND"
  | premiseState => "PREMISE_STATE"
  | conclusionState _ => "CONCLUSION_STATE"

/-- The wording of a condition that fails a rule. -/
def guardMessage (r : Rule) : String :=
  match r with
  | .loopFalse => "Warunek pętli prawdziwy, reguła " ++ Text.quoted r.tag ++ "."
  | .loopTrue => "Warunek pętli fałszywy, reguła " ++ Text.quoted r.tag ++ "."
  | .branchTrue => "Warunek ma wartość False, reguła " ++ Text.quoted r.tag ++ "."
  | _ => "Warunek ma wartość True, reguła " ++ Text.quoted r.tag ++ "."

/-- The wording of a final state that fails a rule. -/
def conclusionMessage : Rule → String
  | .skip => "skip nie może zmieniać stanu."
  | .assign => "Stan końcowy nie odpowiada przypisaniu."
  | .seq => "Stan końcowy sekwencji różny od stanu drugiej przesłanki."
  | .branchTrue | .branchFalse => "Stan końcowy if różny od stanu gałęzi."
  | .loopFalse => "Wyjście z pętli nie może zmieniać stanu."
  | .loopTrue => "Stan końcowy pętli różny od stanu kontynuacji."

def message : Fault → String
  | ruleMismatch r f =>
    "Reguła " ++ Text.quoted r.tag ++ " nie dotyczy komendy " ++ Text.quoted f.tag ++ "."
  | premiseCount r n =>
    "Reguła " ++ Text.quoted r.tag ++ " wymaga " ++ toString r.arity ++ " przesłanek, jest " ++
      toString n ++ "."
  | guardValue r => guardMessage r
  | premiseCommand found expected =>
    "Przesłanka dotyczy " ++ Text.quoted found.tag ++ ", oczekiwano " ++
      Text.quoted expected.tag ++ "."
  | premiseState => "Stan początkowy przesłanki nie pasuje."
  | conclusionState r => conclusionMessage r

end Fault

namespace Derivation

/-- The fault, unless the condition holds. -/
def faultUnless (condition : Bool) (fault : Fault) : List Fault := if condition then [] else [fault]

/-- A premise must be about the expected command and start in the expected state. -/
def linkFaults (premise : Derivation) (c : Command) (s : State) : List Fault :=
  faultUnless (premise.command = c) (.premiseCommand premise.command.form c.form) ++
    faultUnless (premise.pre = s) .premiseState

/-- What is wrong with the root of a tree. -/
def rootFaults (ev : Evaluator) (d : Derivation) : List Fault :=
  match d.rule, d.command, d.premises with
  | .skip, .skip, [] => faultUnless (d.post = d.pre) (.conclusionState .skip)
  | .assign, .assign x e, [] =>
    faultUnless (d.post = d.pre.update x (ev.aexp d.pre e)) (.conclusionState .assign)
  | .seq, .seq c₁ c₂, [p₁, p₂] =>
    linkFaults p₁ c₁ d.pre ++ linkFaults p₂ c₂ p₁.post ++
      faultUnless (d.post = p₂.post) (.conclusionState .seq)
  | .branchTrue, .branch b c₁ _, [p] =>
    faultUnless (ev.bexp d.pre b) (.guardValue .branchTrue) ++ linkFaults p c₁ d.pre ++
      faultUnless (d.post = p.post) (.conclusionState .branchTrue)
  | .branchFalse, .branch b _ c₂, [p] =>
    faultUnless (!ev.bexp d.pre b) (.guardValue .branchFalse) ++ linkFaults p c₂ d.pre ++
      faultUnless (d.post = p.post) (.conclusionState .branchFalse)
  | .loopFalse, .loop b _, [] =>
    faultUnless (!ev.bexp d.pre b) (.guardValue .loopFalse) ++
      faultUnless (d.post = d.pre) (.conclusionState .loopFalse)
  | .loopTrue, .loop b c, [p₁, p₂] =>
    faultUnless (ev.bexp d.pre b) (.guardValue .loopTrue) ++ linkFaults p₁ c d.pre ++
      linkFaults p₂ (.loop b c) p₁.post ++
      faultUnless (d.post = p₂.post) (.conclusionState .loopTrue)
  | r, c, ps =>
    if c.form = r.form then [.premiseCount r ps.length] else [.ruleMismatch r c.form]

mutual

/-- The faults of a tree that stands at a path, which is given from its end. -/
def faultsFrom (ev : Evaluator) (up : List Nat) : Derivation → List (List Nat × Fault)
  | ⟨r, c, s, t, ps⟩ =>
    (rootFaults ev ⟨r, c, s, t, ps⟩).map (fun f => (up.reverse, f)) ++ premiseFaultsFrom ev up 0 ps

/-- The faults of the premises from number `i` on, the last premise first. -/
def premiseFaultsFrom (ev : Evaluator) (up : List Nat) (i : Nat) :
    List Derivation → List (List Nat × Fault)
  | [] => []
  | p :: ps => premiseFaultsFrom ev up (i + 1) ps ++ faultsFrom ev (i :: up) p

end

/-- Everything that is wrong with a tree, with the path from the root to where it is. -/
def faults (ev : Evaluator) (d : Derivation) : List (List Nat × Fault) := d.faultsFrom ev []

/-- The text of a path. -/
def pathText (path : List Nat) : String :=
  path.foldl (fun text i => text ++ ".premises[" ++ toString i ++ "]") "root"

end Derivation

end WhileLang

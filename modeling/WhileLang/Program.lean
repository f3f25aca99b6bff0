import WhileLang.Command
import WhileLang.Names
import WhileLang.State

/-!
# Programs

A program is a command with what is needed to show and to start it.
-/

namespace WhileLang

structure Program where
  name : String
  description : String
  command : Command
  /-- The names under which its variables are shown. -/
  names : Names
  /-- The state it starts in. -/
  initial : State

namespace Program

instance : Inhabited Program := ⟨⟨"", "", .skip, ∅, .initial⟩⟩

/-- A bare command as a program: nothing is named, and it starts where everything is zero. -/
def ofCommand (name description : String) (c : Command) : Program :=
  ⟨name, description, c, ∅, .initial⟩

end Program

end WhileLang

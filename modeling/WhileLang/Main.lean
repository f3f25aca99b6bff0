import WhileLang.CommandLine.Perform

/-!
# The program

Runs the command line in the current folder. Tables are shown with their columns aligned; errors go
to the standard error output.
-/

namespace WhileLang.CommandLine

/-! ## Surroundings -/

/-- The variables that settings may come from. -/
def variableNames : List String :=
  ["DEFAULT_BUDGET", "MAX_BUDGET", "MAX_STEPS", "APP_VERSION"].map ("IMPSEM_" ++ ·)

/-- The variables of the environment that settings and the file with settings may ask for. -/
def environmentVariables (dir : Folder) : IO Settings.Variables := do
  let mentioned := ((settingsFile? dir).map (Assignment.references ∘ Assignment.readFile)).getD []
  let found ← (mentioned ++ variableNames).mapM fun name => do
    return (← IO.getEnv name).map (name, ·)
  return found.filterMap id

/-- The path that the arguments name a program by, if they do. -/
def programPath? (args : List String) : Option String :=
  match parseInvocation args with
  | .ok i => i.program?
  | .error _ => none

/-- The part of the current folder that the arguments and the settings may ask for. -/
def surroundingFolder (args : List String) : IO Folder := do
  let here ← IO.currentDir
  let mut dir : Folder := .ofList []
  let paths := ".env" :: (programPath? args).toList
  for place in paths.flatMap fun p => (FilePath.ofString p).places do
    let path := here / place.toString
    if ← path.isDir then
      dir := { dir with folders := place :: dir.folders }
    else if ← path.pathExists then
      dir := { dir with files := (place, ← IO.FS.readFile path) :: dir.files }
  return dir

/-! ## Output -/

/-- A text filled up with spaces to the given length. -/
def padded (width : Nat) (text : String) : String :=
  text.pushn ' ' (width - text.length)

/-- The lines of a table: its title, and its rows with each column as wide as its widest cell. -/
def tableLines (title : String) (rows : List (List String)) : List String :=
  let columns := (rows.map List.length).foldl max 0
  let widths := (List.range columns).map fun i =>
    (rows.map fun row => (row.getD i "").length).foldl max 0
  let line (row : List String) : String :=
    "  ".intercalate (widths.zipWith padded row)
  title :: rows.map line

def Block.print : Block → IO Unit
  | .line text => IO.println text
  | .table title headers rows =>
    for line in tableLines title (headers.toList ++ rows) do IO.println line

/-- The subcommands. -/
def summary : String := "programs | show | run | trace | derive | denote | check | fuzz | optimize"

/-- Shows how a command line ended. -/
def Ending.print : Ending → IO Unit
  | .help => IO.println summary
  | .misuse => IO.eprintln summary
  | .badSettings => IO.eprintln "Błąd: niepoprawne ustawienia"
  | .page p => do for block in p.blocks do block.print
  | .failed e => IO.eprintln (failureText e)
  | .broken e => IO.eprintln e.message

/-- Runs a command line; the terminal is taken to show all of Unicode. -/
def run (args : List String) : IO UInt32 := do
  let dir ← surroundingFolder args
  let ending := execute args (← environmentVariables dir) dir .unicode
  ending.print
  return ending.status.toUInt32

end WhileLang.CommandLine

def main (args : List String) : IO UInt32 := WhileLang.CommandLine.run args

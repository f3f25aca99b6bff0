import WhileLang.Catalog
import WhileLang.Json.Records
import WhileLang.Text.Split

/-!
# Programs in files

A program is given by the name of the catalogue or by a path. A path counts as one if something is
there or if it ends in `.json`. The file holds a program, or a bare command, which is then named
after the file.
-/

namespace WhileLang.CommandLine

/-- A path: the slashes that it starts with, and its parts without the empty and the idle ones. -/
structure FilePath where
  root : String
  parts : List String
deriving DecidableEq

namespace FilePath

/-- Slashes at the beginning are one or two; two are told from one, but more are not. -/
def rootOf (slashes : Nat) : String :=
  if slashes = 0 then "" else if slashes = 2 then "//" else "/"

def ofString (s : String) : FilePath :=
  ⟨rootOf (s.toList.takeWhile (· = '/')).length,
    (Text.split '/' s).filter fun part => part ≠ "" ∧ part ≠ "."⟩

/-- The path as text; a relative path without parts is a point. -/
def toString (p : FilePath) : String :=
  if p.root = "" ∧ p.parts.isEmpty then "." else p.root ++ "/".intercalate p.parts

/-- The last part, if there is one. -/
def name (p : FilePath) : String := p.parts.getLastD ""

/-- Where the suffix of a name begins: at its last point, unless that is its first or its last
character. -/
def suffixStart? (name : List Char) : Option Nat :=
  let i := name.length - 1 - (name.reverse.takeWhile (· ≠ '.')).length
  if '.' ∈ name ∧ 0 < i ∧ i + 1 < name.length then some i else none

/-- The suffix of the last part with its point, or nothing. -/
def suffix (p : FilePath) : String :=
  match suffixStart? p.name.toList with
  | some i => String.ofList (p.name.toList.drop i)
  | none => ""

/-- The last part without its suffix. -/
def stem (p : FilePath) : String :=
  match suffixStart? p.name.toList with
  | some i => String.ofList (p.name.toList.take i)
  | none => p.name

/-- The place that a part of a path leads to. Two points lead back, and above the root there is
nothing else. -/
def enter (place : FilePath) (part : String) : FilePath :=
  if part = ".." ∧ (place.root ≠ "" ∨ place.parts.any (· ≠ "..")) then
    { place with parts := place.parts.dropLast }
  else { place with parts := place.parts ++ [part] }

/-- The place that a path starts from. -/
def start (p : FilePath) : FilePath := ⟨p.root, []⟩

/-- The places that a path leads to one after the other. -/
def places (p : FilePath) : List FilePath :=
  (List.range (p.parts.length + 1)).map fun n => (p.parts.take n).foldl enter p.start

end FilePath

/-- A folder: the texts of the files in it and below it, by their paths, and the folders below it
that may be empty. -/
structure Folder where
  files : List (FilePath × String)
  folders : List FilePath

namespace Folder

/-- What is found at a path. -/
inductive Found where
  | text (content : String)
  | absent (fault : FileFault)
deriving DecidableEq

def ofList (files : List (String × String)) : Folder :=
  ⟨files.map fun f => (.ofString f.1, f.2), []⟩

/-- What is at a place. Folders are what files lie in, and what lies above the folder itself. -/
def at? (dir : Folder) (p : FilePath) : Found :=
  match dir.files.find? fun f => f.1 = p with
  | some f => .text f.2
  | none =>
    if p.parts.all (· = "..") ∨ p ∈ dir.folders ∨
        (dir.files.any fun f => f.1.root = p.root ∧ p.parts <+: f.1.parts)
    then .absent .isFolder else .absent .missing

/-- The most bytes of one part of a path. -/
def maxPartSize : Nat := 255

/-- The most bytes of a path. -/
def maxPathSize : Nat := 4095

/-- Follows the parts of a path from a place. -/
def follow (dir : Folder) (place : FilePath) : List String → Found
  | [] => dir.at? place
  | part :: rest =>
    match dir.at? place with
    | .text _ => .absent .notInFolder
    | .absent .isFolder =>
      if maxPartSize < part.utf8ByteSize then .absent .nameTooLong
      else follow dir (place.enter part) rest
    | found => found

/-- Looks up a path. -/
def find (dir : Folder) (p : FilePath) : Found :=
  if maxPathSize < p.toString.utf8ByteSize then .absent .nameTooLong
  else follow dir p.start p.parts

/-- The program that a text holds: a whole program, or a bare command. -/
def readProgram? (p : FilePath) (text : String) : Option Program :=
  match Json.parse? text with
  | none => none
  | some j =>
    match j.toProgram? with
    | some program => some program
    | none => j.toCommand?.map (Program.ofCommand p.stem p.toString)

/-- Loads a program by its name or from a file. -/
def load (dir : Folder) (source : String) : Except Error Program :=
  let p := FilePath.ofString source
  let named := p.suffix = ".json"
  if Char.ofNat 0 ∈ source.toList then
    if named then .error .zeroInPath else Catalog.find source
  else
    match dir.find p with
    | .text content =>
      match readProgram? p content with
      | some program => .ok program
      | none => .error (.notAProgram source)
    | .absent fault =>
      if named ∨ fault = .isFolder ∨ fault = .nameTooLong then
        .error (.unreadableFile source p.toString fault)
      else Catalog.find source

end Folder

end WhileLang.CommandLine

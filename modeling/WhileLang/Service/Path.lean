import WhileLang.Text.Percent
import WhileLang.Text.Split

/-!
# Paths

What is found where in the service. A request names its target by a URL or by the end of one, of
which only the path counts. Percent-encoding is taken off twice: as a part of the URL and as a path
of the service.

A place is looked for under its path; a line feed at the end of it does not matter. Where nothing is
found and the path ends in a slash, the request is sent on to the path without slashes at its end,
if there is something. That path is on its way as a URL again, so it is decoded once more.
-/

namespace WhileLang.Service

/-- The paths that take a body, by what is done there. -/
inductive Action where
  | run
  | step
  | trace
  | derive
  | verify
  | denote
  | equivalence
  | optimize
  | eval
deriving DecidableEq

/-- What is found at a path. -/
inductive Place where
  | health
  | programs
  | program (name : String)
  | action (a : Action)
deriving DecidableEq

/-! ## Targets -/

/-- A character that may stand in the scheme of a URL behind its first letter. -/
def isSchemeChar (c : Char) : Bool := c.isAlphanum || c = '+' || c = '-' || c = '.'

/-- A URL without its scheme, if it has one. -/
def dropScheme (cs : List Char) : List Char :=
  match cs.head?.map Char.isAlpha, cs.dropWhile isSchemeChar with
  | some true, ':' :: rest => rest
  | _, _ => cs

/-- A URL without the name of the host, if it has one. -/
def dropAuthority : List Char → List Char
  | '/' :: '/' :: cs => cs.dropWhile (· ≠ '/')
  | cs => cs

/-- Takes one segment of a path in: `.` means to stay, and `..` to go back. -/
def addSegment (done : List (List Char)) (segment : List Char) : List (List Char) :=
  if segment = ['.'] then done
  else if segment = ['.', '.'] then if done.length ≤ 1 then done else done.dropLast
  else done ++ [segment]

/-- A path without the segments `.` and `..`. -/
def dropDots (path : List Char) : List Char :=
  ['/'].intercalate ((Text.pieces '/' path).foldl addSegment [])

/-- The path of a target as it is written, with one slash in front. -/
def writtenPath (target : String) : List Char :=
  let url := target.toList.takeWhile fun c => c ≠ '?' ∧ c ≠ '#'
  dropDots ('/' :: (dropAuthority (dropScheme url)).dropWhile (· = '/'))

def decode (path : List Char) : List Char := (Text.percentDecode (String.ofList path)).toList

/-! ## Places -/

/-- The place with the given path, if it needs no name. -/
def fixedPlace? : String → Option Place
  | "/health" => some .health
  | "/programs" => some .programs
  | "/run" => some (.action .run)
  | "/step" => some (.action .step)
  | "/trace" => some (.action .trace)
  | "/derive" => some (.action .derive)
  | "/verify" => some (.action .verify)
  | "/denote" => some (.action .denote)
  | "/equivalence" => some (.action .equivalence)
  | "/optimize" => some (.action .optimize)
  | "/eval" => some (.action .eval)
  | _ => none

/-- The text without a line feed at its end. -/
def dropLineFeed (cs : List Char) : List Char := if cs.getLast? = some '\n' then cs.dropLast else cs

/-- The path of the programs, up to the name of one. -/
def programsPath : List Char := "/programs/".toList

/-- The place with the given path. -/
def Place.ofPath? (path : List Char) : Option Place :=
  match fixedPlace? (String.ofList (dropLineFeed path)) with
  | some p => some p
  | none =>
    let name := path.drop programsPath.length
    if path.take programsPath.length = programsPath ∧ !name.isEmpty ∧ '/' ∉ name then
      some (.program (String.ofList name))
    else none

/-- The text without slashes at its end. -/
def dropSlashes (cs : List Char) : List Char := (cs.reverse.dropWhile (· = '/')).reverse

/-- The place to which a path leads, by itself or by being sent on. Being sent on shortens a path,
so the number of times is bounded by its length. -/
def Place.find? : (times : Nat) → List Char → Option Place
  | 0, path => ofPath? path
  | n + 1, path =>
    match ofPath? path with
    | some p => some p
    | none =>
      let shorter := dropSlashes path
      if path.getLast? = some '/' ∧ (ofPath? shorter).isSome then
        find? n (decode (dropDots shorter))
      else none

/-- The place to which a target leads. -/
def Place.ofTarget? (target : String) : Option Place :=
  let path := decode (decode (writtenPath target))
  find? path.length path

end WhileLang.Service

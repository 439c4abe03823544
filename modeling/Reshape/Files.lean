import Reshape.Failure

/-!
# Files

What stands behind a path, and which formats the name of a file promises. Files are a function from
paths, so what a command does with them can be said without a disk.
-/
namespace Reshape

inductive FileContent where
  | missing
  /-- Something is there, but for this reason it cannot be read. -/
  | unreadable (reason : String)
  | text (content : String)
  deriving DecidableEq, Repr

/-- A directory, which cannot be read as a file. -/
def FileContent.directory : FileContent := .unreadable "Is a directory (os error 21)"

/-- What is found at each path. -/
abbrev Files := String → FileContent

/-- The parts of a path between slashes; empty parts and single dots do not count. -/
def pathParts (path : String) : List String :=
  (path.splitOn "/").filter fun part => part != "" && part != "."

/-- The part of a file's name behind its last dot. A name that begins with its only dot has none. -/
def fileExtension? (path : String) : Option String :=
  match (pathParts path).getLast? with
  | none | some ".." => none
  | some name =>
    match name.splitOn "." with
    | [] | [_] | ["", _] => none
    | parts => parts.getLast?

/-- Does a path name a YAML file? -/
def isYamlPath (path : String) : Bool :=
  fileExtension? path == some "yaml" || fileExtension? path == some "yml"

namespace Files

/-- Where a path leads: to a directory, which lies above the current one or below it under some
names, or to a file. -/
inductive Standing where
  | above
  | within (names : List String)
  | file (content : String)
  deriving DecidableEq, Repr

/-- What stands in a directory below the current one under a name, given named texts. -/
def entry? (named : List (String × String)) (names : List String) (name : String) :
    Option Standing :=
  let path := names ++ [name]
  match named.find? fun file => pathParts file.1 == path with
  | some file => some (.file file.2)
  | none =>
    if named.any fun file => path.isPrefixOf (pathParts file.1) then some (.within path) else none

/-- Follow one component of a path. Nothing lies behind a file, and of the directories above the
current one no entry is known. -/
def Standing.follow? (named : List (String × String)) (component : String) :
    Standing → Option Standing
  | .file _ => none
  | .above => if ["", ".", ".."].contains component then some .above else none
  | .within names =>
    if component = "" || component = "." then some (.within names)
    else if component = ".." then
      some (if names.isEmpty then .above else .within names.dropLast)
    else entry? named names component

/-- Named texts in the current directory and below it. -/
def ofList (named : List (String × String)) : Files := fun path =>
  let start := if path.startsWith "/" then Standing.above else .within []
  let standing := (path.splitOn "/").foldlM (fun standing component =>
    standing.follow? named component) start
  match standing with
  | none => .missing
  | some (.file content) => .text content
  | some _ => if path.isEmpty then .missing else .directory

/-- The text of a file. -/
def read (files : Files) (path : String) : Except Failure String :=
  match files path with
  | .missing => .error (.fileNotFound path)
  | .unreadable reason => .error (.io reason)
  | .text content => .ok content

end Files
end Reshape

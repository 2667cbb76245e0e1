import PomToGradle.FileSystem

/-!
File systems that are given by what is in one directory.
-/
namespace PomToGradle

inductive Entry where
  | file (content : Bytes)
  | directory
deriving DecidableEq, Repr

/-- A directory opens like a file; only reading it fails. -/
def Entry.target : Entry → Target
  | file content => ⟨true, .ok [.data content]⟩
  | directory => ⟨false, .ok [.failed (.system .isADirectory)]⟩

/-- The entries of a directory, each with the parts of its path. Directories on the way to an entry
    exist with it. -/
structure Workspace where
  entries : List (List Path × Entry)
deriving DecidableEq, Repr

namespace Workspace

def ofFiles (files : List (Path × Entry)) : Workspace where
  entries := files.map fun (path, entry) =>
    (path.parts.filter fun part => !(part.isEmpty || part == Path.current), entry)

def lookup? (w : Workspace) (place : List Path) : Option Entry :=
  match w.entries.lookup place with
  | some entry => some entry
  | none => if w.entries.any fun (known, _) => place.isPrefixOf known then some .directory else none

/-- Where a walk through directories stands: inside the workspace, or anywhere outside it, of which
    nothing is known but that it is made of directories. -/
inductive Place where
  | inside (parts : List Path) (entry : Entry)
  | outside
deriving DecidableEq, Repr

def top : Place := .inside [] .directory

def Place.entry : Place → Entry
  | inside _ entry => entry
  | outside => .directory

def maxPartLength : Nat := 255

def maxPathLength : Nat := 4095

def enter (w : Workspace) (place : Place) (part : Path) : Except IoError Place :=
  match place with
  | .inside _ (.file _) => .error (.system .notADirectory)
  | .inside parts .directory =>
    if part = [] ∨ part = Path.current then .ok place
    else if part = Path.parent then
      .ok (if parts.isEmpty then .outside else .inside parts.dropLast .directory)
    else if maxPartLength < part.length then .error (.system .nameTooLong)
    else
      match w.lookup? (parts ++ [part]) with
      | some entry => .ok (.inside (parts ++ [part]) entry)
      | none => .error (.system .noSuchFile)
  | .outside =>
    if part = [] ∨ part = Path.current ∨ part = Path.parent then .ok .outside
    else if maxPartLength < part.length then .error (.system .nameTooLong)
    else .error (.system .noSuchFile)

/-- Paths are walked part by part from the top of the workspace, or from outside it if they begin
    with a slash. -/
def find (w : Workspace) (path : Path) : Except IoError Entry :=
  if path.contains 0 then .error .nulInName
  else if path.isEmpty then .error (.system .noSuchFile)
  else if maxPathLength < path.length then .error (.system .nameTooLong)
  else
    let origin := if path.head? = some (ascii '/') then .outside else top
    (path.parts.foldlM w.enter origin).map Place.entry

def fileSystem (w : Workspace) : FileSystem := fun path =>
  match w.find path with
  | .ok entry => entry.target
  | .error e => ⟨false, .error e⟩

end Workspace

end PomToGradle

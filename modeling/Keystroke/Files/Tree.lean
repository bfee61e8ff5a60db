import Keystroke.Files.Access
import Keystroke.Files.Path

/-! A tree of files held in memory. Relative paths start at the directory in which a program works, and a step up from
the root stays there. -/
namespace Keystroke.Files

inductive Entry where
  | file (text : String)
  | directory
deriving DecidableEq

/-- All files and directories, by the way down from the root. -/
structure Tree where
  lookup? : List String → Option Entry
  /-- The way to the directory in which a program works. -/
  working : List String
  closed : ∀ way name, (lookup? (way ++ [name])).isSome → lookup? way = some .directory
  working_directory : lookup? working = some .directory

namespace Tree

def step (way : List String) (name : String) : List String :=
  if name = "" || name = "." then way else if name = ".." then way.dropLast else way ++ [name]

def start (tree : Tree) (path : String) : List String :=
  if isAbsolute path then [] else tree.working

def follow (tree : Tree) (way : List String) : List String → Except Fault (List String)
  | [] => .ok way
  | name :: rest =>
    match tree.lookup? (step way name) with
    | some .directory => tree.follow (step way name) rest
    | some (.file _) => .error .notDirectory
    | none => .error .missing

/-- The way to what a path names, which need not be there. -/
def locate (tree : Tree) (path : String) : Except Fault (List String) :=
  if path = "" then .error .missing
  else
    let names := parts path
    (tree.follow (tree.start path) names.dropLast).map (step · (names.getLastD ""))

def find (tree : Tree) (path : String) : Except Fault Entry :=
  match tree.locate path with
  | .error fault => .error fault
  | .ok way =>
    match tree.lookup? way with
    | some entry => .ok entry
    | none => .error .missing

/-- A path that can only be that of a directory. -/
def endsInSlash (path : String) : Bool :=
  path.toList.getLast? = some '/'

/-- Why a file cannot be written. A path with a slash at its end is refused as soon as the directory before its last
name is found. -/
def writeFault? (tree : Tree) (path : String) : Option Fault :=
  if endsInSlash path then
    let names := ((parts path).reverse.dropWhile (· = "")).reverse
    match tree.follow (tree.start path) names.dropLast with
    | .error fault => some fault
    | .ok _ => some .isDirectory
  else
    match tree.locate path with
    | .error fault => some fault
    | .ok way => if tree.lookup? way = some .directory then some .isDirectory else none

def access (tree : Tree) : Access where
  read path :=
    match tree.find path with
    | .ok (.file text) => .ok text
    | .ok .directory => .error ⟨.reading, path, .isDirectory⟩
    | .error fault => .error ⟨.opening, path, fault⟩
  writeError? path := (tree.writeFault? path).map (⟨.opening, path, ·⟩)
  watchError? path :=
    match tree.find path with
    | .ok _ => none
    | .error fault => some ⟨.watching, path, fault⟩

end Tree

end Keystroke.Files

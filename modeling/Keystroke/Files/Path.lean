/-! Paths as text: their parts, their shortest form, and the directory they lie in. -/
namespace Keystroke.Files

def consPart (c : Char) : List (List Char) → List (List Char)
  | [] => [[c]]
  | part :: rest => (c :: part) :: rest

def splitSlash : List Char → List (List Char)
  | [] => [[]]
  | c :: rest => if c = '/' then [] :: splitSlash rest else consPart c (splitSlash rest)

def parts (path : String) : List String :=
  (splitSlash path.toList).map String.ofList

/-- A path that starts at the root. -/
def isAbsolute (path : String) : Bool :=
  path.toList.head? = some '/'

/-- Takes one step; `steps` holds those before, last first. A step up undoes the one before it. -/
def cleanStep (absolute : Bool) (steps : List String) (part : String) : List String :=
  if part = "" || part = "." then steps
  else if part = ".." then
    match steps with
    | [] => if absolute then [] else [part]
    | step :: rest => if step = ".." then part :: steps else rest
  else part :: steps

/-- The shortest path with the same meaning, as far as the text tells. -/
def clean (path : String) : String :=
  let steps := (parts path).foldl (cleanStep (isAbsolute path)) []
  let text := "/".intercalate steps.reverse
  if isAbsolute path then "/" ++ text else if steps.isEmpty then "." else text

def directory (path : String) : String :=
  clean (String.ofList (path.toList.reverse.dropWhile (· ≠ '/')).reverse)

end Keystroke.Files

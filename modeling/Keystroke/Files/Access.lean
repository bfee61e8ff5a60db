/-! What a program can do with files, and what can go wrong. -/
namespace Keystroke.Files

inductive Fault where
  | missing
  | isDirectory
  | notDirectory
deriving DecidableEq

def Fault.message : Fault → String
  | missing => "no such file or directory"
  | isDirectory => "is a directory"
  | notDirectory => "not a directory"

inductive Attempt where
  | opening
  | reading
  | watching
deriving DecidableEq

structure FileError where
  attempt : Attempt
  path : String
  fault : Fault
deriving DecidableEq

def FileError.message (error : FileError) : String :=
  match error.attempt with
  | .opening => "open " ++ error.path ++ ": " ++ error.fault.message
  | .reading => "read " ++ error.path ++ ": " ++ error.fault.message
  | .watching => error.fault.message

structure Access where
  read : String → Except FileError String
  writeError? : String → Option FileError
  watchError? : String → Option FileError

end Keystroke.Files

import Keystroke.CommandLine.Usage
import Keystroke.Files.Access
import Keystroke.Files.Path
import Keystroke.Settings

/-! Running the program. Flags count more than the settings file, and that more than the defaults. A run
writes nothing before everything it needs is known. -/
namespace Keystroke.CommandLine

open Keystroke.Dump Keystroke.Files Keystroke.Listing

inductive LoadError where
  | unreadable (error : FileError)
  | invalid (path : String) (error : Settings.DecodeError)

def LoadError.message : LoadError → String
  | unreadable error => error.message
  | invalid path error => path ++ ": " ++ error.message

/-- Applies a settings file, whose text is `content`, to settings. -/
def loadSettings (settings : Settings) (path : String) (content : Except FileError String)
    (order : Settings.Order := .document) : Settings × Option LoadError :=
  match content with
  | .error error => (settings, some (.unreadable error))
  | .ok text =>
    let (settings, error) := settings.decode text order
    (settings, error.map (.invalid path))

inductive RunError where
  | usage (error : UsageError)
  | settings (error : LoadError)
  | format (error : UnknownFormat)
  | file (error : FileError)
  | broken (fault : Statement.Fault)

def RunError.message : RunError → String
  | usage error => error.message
  | settings error => error.message
  | format error => error.message
  | file error => error.message
  | broken _ => "conversion broke off"

inductive Target where
  | standard
  | file (path : String)
deriving DecidableEq

def Target.ofPath (path : String) : Target :=
  if path = "" || path = "-" then .standard else .file path

structure Output where
  target : Target
  content : Content
deriving DecidableEq

/-- What came of a run: log lines, what was written, and the error it ended with. -/
structure Report where
  log : List String := []
  outputs : List Output := []
  error : Option RunError := none

def settingsOf (access : Access) (choices : Choices) (order : Settings.Order := .document) :
    Except LoadError Settings :=
  let (settings, error) :=
    if choices.config = "" then ({}, none)
    else loadSettings {} choices.config (access.read choices.config) order
  match error with
  | some error => .error error
  | none =>
    .ok { settings with
      verbose := choices.verbose.getD settings.verbose
      listing :=
        { simulator := choices.simulator.getD settings.listing.simulator
          shiftKey := choices.shiftKey.getD settings.listing.shiftKey
          onePerLine := choices.onePerLine.getD settings.listing.onePerLine } }

def Target.error? (access : Access) : Target → Option FileError
  | .standard => none
  | .file path => access.writeError? path

def readInput (access : Access) (stdin : String) (path : String) : Except FileError String :=
  if path = "" || path = "-" then .ok stdin else access.read path

/-- What came of one conversion: log lines, and what was written. -/
structure Conversion where
  log : List String := []
  result : Except RunError Output

def convertFile (access : Access) (stdin : String) (conv : Converter) (input output : String) :
    Conversion :=
  match readInput access stdin input with
  | .error error => { result := .error (.file error) }
  | .ok text =>
    let run := conv.convert text
    { log := run.log
      result := match run.listing with
        | .error fault => .error (.broken fault)
        | .ok listing =>
          let target := Target.ofPath output
          match target.error? access with
          | some error => .error (.file error)
          | none => .ok ⟨target, .text listing⟩ }

def Conversion.report (c : Conversion) : Report :=
  match c.result with
  | .ok output => { log := c.log, outputs := [output] }
  | .error error => { log := c.log, error := some error }

def writeTable (access : Access) (choices : Choices) : Report :=
  match Format.ofName choices.format with
  | .error error => { error := some (.format error) }
  | .ok format =>
    let target := Target.ofPath choices.output
    match target.error? access with
    | some error => { error := some (.file error) }
    | none =>
      match (Dump.ofTable .standard).encode format with
      | .error error => { error := some (.format error) }
      | .ok content => { outputs := [⟨target, content⟩] }

def helpText : String :=
  "Usage: hp15c [flags] [file]\n       hp15c table [flags]\n       hp15c watch [flags] file\n"

end Keystroke.CommandLine

import Keystroke.CommandLine.Run

/-! Watching a file: it is converted at the start and each time it is written or created. -/
namespace Keystroke.CommandLine

open Keystroke.Dump Keystroke.Files Keystroke.Listing

inductive Operation where
  | create
  | remove
  | write
  | rename
  | chmod
deriving DecidableEq

def Operation.name : Operation → String
  | create => "CREATE"
  | remove => "REMOVE"
  | write => "WRITE"
  | rename => "RENAME"
  | chmod => "CHMOD"

/-- All operations, in the order in which they are shown. -/
def Operation.all : List Operation :=
  [create, remove, write, rename, chmod]

def operationsText (operations : List Operation) : String :=
  match Operation.all.filter operations.contains with
  | [] => "[no events]"
  | shown => "|".intercalate (shown.map Operation.name)

/-- What the watcher reports: something happened to a file, after which the files are as given, or the
watcher itself failed. -/
inductive Event where
  | change (name : String) (operations : List Operation) (access : Access)
  | failure (message : String)

def Event.concerns (input : String) : Event → Bool
  | change name operations _ =>
    clean name == clean input && (operations.contains .write || operations.contains .create)
  | failure _ => false

def failureLog (input : String) (c : Conversion) : List String :=
  match c.result with
  | .ok _ => []
  | .error error => [input ++ ": " ++ error.message]

/-- A watched file: how it is converted, and from where to where. -/
structure Watched where
  conv : Converter
  input : String
  output : String

namespace Watched

/-- Adds a conversion to a report; its error takes the place of the one before. -/
def add (w : Watched) (report : Report) (note : List String) (c : Conversion) : Report where
  log := report.log ++ note ++ c.log ++ failureLog w.input c
  outputs := report.outputs ++ c.result.toOption.toList
  error := match c.result with
    | .ok _ => none
    | .error error => some error

def react (w : Watched) (report : Report) (event : Event) : Report :=
  match event with
  | .failure message => { report with log := report.log ++ ["watch: " ++ message] }
  | .change _ operations access =>
    if event.concerns w.input then
      let note := if w.conv.verbose then [w.input ++ ": " ++ operationsText operations] else []
      w.add report note (convertFile access "" w.conv w.input w.output)
    else report

def run (w : Watched) (access : Access) (stdin : String) (events : List Event) : Report :=
  match access.watchError? (directory w.input) with
  | some error => { error := some (.file error) }
  | none =>
    events.foldl w.react (w.add {} [] (convertFile access stdin w.conv w.input w.output))

end Watched

/-- Runs the program. The events are what a watcher reports before it is stopped. -/
def run (access : Access) (stdin : String) (args : List String) (events : List Event)
    (order : Settings.Order := .document) : Report :=
  match readUsage args with
  | .error error => { error := some (.usage error) }
  | .ok (.help, _) => { outputs := [⟨.standard, .text helpText⟩] }
  | .ok (.table, choices) => writeTable access choices
  | .ok (command, choices) =>
    match settingsOf access choices order with
    | .error error => { error := some (.settings error) }
    | .ok settings =>
      let conv := settings.apply {}
      let input := choices.files.headD ""
      if command = .watch then
        Watched.run ⟨conv, input, choices.output⟩ access stdin events
      else (convertFile access stdin conv input choices.output).report

end Keystroke.CommandLine

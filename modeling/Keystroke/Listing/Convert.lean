import Keystroke.Command.Spelling
import Keystroke.Listing.Entry

/-! Converting a program text into a listing. Statements are read one by one; every instruction and every
diagnostic takes the next line number. -/
namespace Keystroke.Listing

open Keystroke.Command Keystroke.Statement Keystroke.Text

/-- A command set with the choices for listings. -/
structure Converter where
  table : Table := Table.standard
  options : Options := {}
  /-- Log how each statement is read. -/
  verbose : Bool := false

def bracketed (words : List String) : String :=
  "[" ++ " ".intercalate words ++ "]"

/-- What came of one statement: its log lines, and its entries unless the conversion ends there. -/
structure Step where
  log : List String
  result : Except Fault (List Entry)

namespace Converter

def shortcutLog (conv : Converter) (words : List String) : List String :=
  match conv.table.expand? (dropShift words) with
  | some expanded => if conv.verbose then ["recombined: " ++ bracketed expanded] else []
  | none => []

/-- The log line of a statement on line `line` of the program. -/
def statementLog (conv : Converter) (line : Nat) (words : List String) (r : Resolution) :
    List String :=
  if conv.verbose then
    [toString line ++ ": " ++ bracketed words ++ " => " ++ toString r.records.length
      ++ " records, rest " ++ bracketed r.rest ++ ", err "
      ++ ((r.diagnostic.map Diagnostic.message).getD "<nil>")]
  else []

/-- Instructions with the words after them as remarks of the last one, if statements have a line of their
own. -/
def withRemarks (conv : Converter) (rest : List String) : List Record → List Record
  | [] => []
  | [record] =>
    [if conv.options.onePerLine && !rest.isEmpty then { record with remarks := " ".intercalate rest }
      else record]
  | record :: records => record :: withRemarks conv rest records

def entries (conv : Converter) (r : Resolution) : Except Fault (List Entry) :=
  match r.diagnostic with
  | some diagnostic => .ok [.report diagnostic]
  | none => Entry.ofRecords conv.options conv.table (conv.withRemarks r.rest r.records)

/-- Reads the statements of one line. At least one word is dropped after each of them, so there are no
more than `fuel` words. -/
def lineSteps (conv : Converter) (line : Nat) : Nat → List String → List Step
  | 0, _ => []
  | _, [] => []
  | fuel + 1, word :: others =>
    let words := word :: others
    match resolve conv.table words with
    | .error fault => [⟨conv.shortcutLog words, .error fault⟩]
    | .ok r =>
      let step : Step := ⟨conv.shortcutLog words ++ conv.statementLog line words r, conv.entries r⟩
      if conv.options.onePerLine then [step]
      else
        let rest := if words.length ≤ r.rest.length then others else r.rest
        step :: conv.lineSteps line fuel rest

def stepsFrom (conv : Converter) (line : Nat) : List String → List Step
  | [] => []
  | text :: rest =>
    let here := words text
    conv.lineSteps line here.length here ++ conv.stepsFrom (line + 1) rest

end Converter

/-- What came of a conversion: all log lines, and the listing unless it broke off. -/
structure Run where
  log : List String
  listing : Except Fault String

/-- All entries of the steps up to the first fault, and the log lines up to there. -/
def gather : List Step → List String × Except Fault (List Entry)
  | [] => ([], .ok [])
  | step :: rest =>
    match step.result with
    | .error fault => (step.log, .error fault)
    | .ok entries =>
      let (log, result) := gather rest
      (step.log ++ log,
        match result with
        | .ok others => .ok (entries ++ others)
        | .error fault => .error fault)

def Converter.convert (conv : Converter) (text : String) : Run :=
  let (log, result) := gather (conv.stepsFrom 1 (lines text))
  { log := log
    listing := match result with
      | .ok entries => .ok (renderFrom 1 entries)
      | .error fault => .error fault }

end Keystroke.Listing

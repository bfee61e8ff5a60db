import Keystroke.Listing.Options
import Keystroke.Statement.Resolve
import Keystroke.Text.Width

/-! The entries of a listing. An entry has all its text but the line number. -/
namespace Keystroke.Listing

open Keystroke.Command Keystroke.Statement

/-- An instruction with the text of its keycodes and words, or a diagnostic. -/
inductive Entry where
  | instruction (keycodes text : String)
  | report (diagnostic : Diagnostic)

/-- A line number in at least three digits. -/
def lineNumber (n : Nat) : String :=
  let digits := toString n
  String.ofList (List.replicate (3 - digits.length) '0') ++ digits

def keycodeWidth : Nat := 11

/-- A text moved to the right of the column of keycodes. -/
def alignRight (text : String) : String :=
  String.ofList (List.replicate (keycodeWidth - text.length) ' ') ++ text

def trimEnd (text : String) : String :=
  String.ofList (text.toList.reverse.dropWhile (· == ' ')).reverse

/-- A dotted keycode, which is not the one of the decimal point key itself. -/
def isDotted (keycode : String) : Bool :=
  2 ≤ keycode.utf8ByteSize && keycode.toList.head? == some '.'

/-- A keycode as it is shown. For a simulator a dotted one is that of the decimal point key and the
rest. -/
def showKeycode (options : Options) (table : Table) (keycode : String) : Except Fault String :=
  if options.simulator && isDotted keycode then
    match table.root.child? "." with
    | some point => .ok (point.keycode ++ "  " ++ String.ofList (keycode.toList.drop 1))
    | none => .error .noPointKey
  else .ok keycode

def showKeycodes (options : Options) (table : Table) : List String → Except Fault (List String)
  | [] => .ok []
  | keycode :: rest =>
    match showKeycode options table keycode, showKeycodes options table rest with
    | .ok shown, .ok others => .ok (shown :: others)
    | .error fault, _ => .error fault
    | _, .error fault => .error fault

/-- The words of an instruction as they are shown. -/
def recordText (options : Options) (record : Record) : String :=
  let shift := if options.shiftKey && record.shift ≠ "" then record.shift ++ " " else ""
  trimEnd (Markup.escape
    (shift ++ " ".intercalate record.path ++ " " ++ record.comment ++ " " ++ record.remarks))

def Entry.ofRecord (options : Options) (table : Table) (record : Record) : Except Fault Entry :=
  match showKeycodes options table record.keycodes with
  | .ok shown => .ok (.instruction (" ".intercalate shown) (recordText options record))
  | .error fault => .error fault

def Entry.ofRecords (options : Options) (table : Table) : List Record → Except Fault (List Entry)
  | [] => .ok []
  | record :: rest =>
    match Entry.ofRecord options table record, Entry.ofRecords options table rest with
    | .ok entry, .ok others => .ok (entry :: others)
    | .error fault, _ => .error fault
    | _, .error fault => .error fault

/-- The report of a diagnostic: the statement, blanks below the words that were read, the banner and the
explanation. -/
def reportText (n : Nat) (d : Diagnostic) : String :=
  Markup.escape (" ".intercalate d.words) ++ "\n"
    ++ String.join ((d.words.take d.used).map fun word => Text.blank word ++ " ")
    ++ Markup.error ("⮤ Error in line " ++ lineNumber n ++ " ") ++ "\n" ++ d.markup ++ "\n"

def Entry.render (n : Nat) : Entry → String
  | .instruction keycodes text =>
    lineNumber n ++ " \x7b " ++ alignRight keycodes ++ " \x7d " ++ text ++ "\n"
  | .report diagnostic => reportText n diagnostic

def renderFrom (n : Nat) : List Entry → String
  | [] => ""
  | entry :: rest => entry.render n ++ renderFrom (n + 1) rest

end Keystroke.Listing

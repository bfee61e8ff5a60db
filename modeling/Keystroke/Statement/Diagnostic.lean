import Keystroke.Constant.Evaluate
import Keystroke.Markup

/-! Diagnostics: why a statement could not be read, and what could stand in its place. -/
namespace Keystroke.Statement

/-- The kind of a failure. Codes without a kind can be given, but no failure has them. -/
inductive Kind where
  | commandUnknown
  | noArgument
  | argumentMissing
  | argumentInvalid
  | expressionInvalid
  | unlisted (code : Int)
deriving DecidableEq

namespace Kind

def ofCode (code : Int) : Kind :=
  if code = 0 then commandUnknown
  else if code = 1 then noArgument
  else if code = 2 then argumentMissing
  else if code = 3 then argumentInvalid
  else if code = 4 then expressionInvalid
  else unlisted code

def name : Kind → String
  | commandUnknown => "command unknown"
  | noArgument => "no argument"
  | argumentMissing => "argument missing"
  | argumentInvalid => "argument invalid"
  | expressionInvalid => "expression invalid"
  | unlisted code => "DiagKind(" ++ toString code ++ ")"

end Kind

inductive Reason where
  | expression (failure : Constant.Failure)
  | other (message : String)

def Reason.message : Reason → String
  | expression failure => failure.message
  | other message => message

/-- A token that can follow, and its annotation. -/
structure Alternative where
  token : String
  comment : String
deriving DecidableEq

structure Diagnostic where
  kind : Kind
  /-- The offending word, folded; empty if words ran out. -/
  token : String := ""
  /-- Canonical tokens read before the failure. -/
  path : List String := []
  words : List String := []
  /-- Words read before the failure. -/
  used : Nat := 0
  alternatives : List Alternative := []
  /-- Commands close to an unknown one. -/
  suggestions : List String := []
  reason : Option Reason := none

namespace Diagnostic

/-- The position of the failing argument. -/
def ordinal (d : Diagnostic) : String :=
  match d.path.length with
  | 1 => "1st"
  | 2 => "2nd"
  | 3 => "3rd"
  | n => toString n ++ "th"

def pathText (d : Diagnostic) : String :=
  " ".intercalate d.path

def reasonText (d : Diagnostic) : String :=
  (d.reason.map Reason.message).getD "<nil>"

def message (d : Diagnostic) : String :=
  match d.kind with
  | .commandUnknown => "command " ++ d.token ++ " unknown"
  | .argumentInvalid => d.pathText ++ ": " ++ d.ordinal ++ " argument " ++ d.token ++ " invalid"
  | .expressionInvalid => "expression " ++ d.token ++ " invalid: " ++ d.reasonText
  | _ => d.pathText ++ ": " ++ d.ordinal ++ " argument missing"

def alternativeMarkup (alternative : Alternative) : String :=
  Markup.argument (Markup.escape alternative.token
    ++ (if alternative.comment = "" then "" else " (" ++ Markup.escape alternative.comment ++ ")"))

/-- The question whether a suggested command was meant. -/
def suggestionMarkup (d : Diagnostic) : String :=
  if d.suggestions.isEmpty then ""
  else "Did you mean " ++ " or ".intercalate (d.suggestions.map Markup.command) ++ "?\n"

def markup (d : Diagnostic) : String :=
  let list := ", ".intercalate (d.alternatives.map alternativeMarkup) ++ "\n"
  match d.kind with
  | .commandUnknown =>
    "The command " ++ Markup.command d.token ++ " is unknown.\n" ++ d.suggestionMarkup
      ++ "Valid commands are:\n" ++ list
  | .noArgument =>
    "The " ++ d.ordinal ++ " argument is missing: " ++ Markup.command d.pathText
      ++ " can not be called with no arguments.\nValid arguments are:\n" ++ list
  | .argumentMissing =>
    "The " ++ d.ordinal ++ " argument is missing: " ++ Markup.command d.pathText
      ++ " is valid only with arguments like:\n" ++ list
  | .argumentInvalid =>
    "The " ++ d.ordinal ++ " argument is invalid: " ++ Markup.argument (Markup.escape d.token)
      ++ " is not a parameter of " ++ Markup.command d.pathText ++ ".\nValid parameters are:\n"
      ++ list
  | _ =>
    "The expression " ++ Markup.argument (Markup.escape d.token) ++ " is invalid: "
      ++ Markup.escape d.reasonText ++ "\n"

end Diagnostic

end Keystroke.Statement

import Keystroke.Statement.Diagnostic
import Keystroke.Statement.Numeral
import Keystroke.Statement.Suggestion

/-! Reading the first statement of a list of words. A statement is a path in the command tree, a numeral,
or a constant expression; anything else gives a diagnostic. -/
namespace Keystroke.Statement

open Keystroke.Command Keystroke.Text

/-- What ends a conversion: a shortcut that leaves no words, or a dotted keycode on a keypad without a
decimal point key. -/
inductive Fault where
  | emptyStatement
  | noPointKey
deriving DecidableEq

/-- The argument of a node that a spelling stands for. -/
def argument? (table : Table) (node : Node) (spelling : String) : Option (String × Node) :=
  match table.canonical? (fold spelling) with
  | none => none
  | some token => (node.child? token).map (token, ·)

structure Descent where
  node : Node
  path : List String := []
  /-- Nodes on the way, one for each token. -/
  nodes : List Node := []
  used : Nat := 0

/-- The walk that starts with one more step, taken by `span` words. -/
def Descent.cons (span : Nat) (step : String × Node) (rest : Descent) : Descent where
  node := rest.node
  path := step.1 :: rest.path
  nodes := step.2 :: rest.nodes
  used := span + rest.used

/-- Walks down from a node as far as the words allow. Two words are tried before one. -/
def descend (table : Table) (node : Node) : List String → Descent
  | [] => { node := node }
  | [word] =>
    match argument? table node word with
    | some step => .cons 1 step { node := step.2 }
    | none => { node := node }
  | first :: second :: rest =>
    match argument? table node (first ++ " " ++ second) with
    | some step => .cons 2 step (descend table step.2 rest)
    | none =>
      match argument? table node first with
      | some step => .cons 1 step (descend table step.2 (second :: rest))
      | none => { node := node }

/-- The expression in a word of the form `$(...)`, which holds no line feed. -/
def expression? (word : String) : Option String :=
  match word.toList with
  | '$' :: '(' :: rest =>
    let inner := rest.dropLast
    if rest.getLast? == some ')' && !inner.isEmpty && !inner.contains '\n' then
      some (String.ofList inner)
    else none
  | _ => none

/-- The instructions of a numeral or an expression; none if a word is neither. -/
def literal (table : Table) (word : String) : Except Constant.Failure (List Record) :=
  let numeral := match expression? word with
    | some text => Constant.evaluate text
    | none => .ok word
  match numeral with
  | .error failure => .error failure
  | .ok text =>
    match Numeral.ofWord? text with
    | some n => .ok (n.keys table)
    | none => .ok []

def alternatives (node : Node) : List Alternative :=
  node.args.map fun arg => ⟨arg.1, arg.2.comment⟩

/-- The diagnostic of words on which a descent did not end at a complete node. -/
def diagnose (table : Table) (words : List String) (d : Descent) : Diagnostic :=
  let base : Diagnostic :=
    { kind := .argumentMissing
      path := d.path
      words := words
      used := d.used
      alternatives := alternatives d.node }
  if d.used = 0 then
    let token := fold (words.headD "")
    { base with kind := .commandUnknown, token := token, suggestions := suggestions table token }
  else if words.length ≤ d.used then
    if d.path.length = 1 then { base with kind := .noArgument } else base
  else { base with kind := .argumentInvalid, token := fold (words.getD d.used "") }

/-- What was read: instructions or a diagnostic or nothing, and the words after them. -/
structure Resolution where
  records : List Record := []
  rest : List String := []
  diagnostic : Option Diagnostic := none

def isShiftWord (word : String) : Bool :=
  fold word == fold Shift.f.name || fold word == fold Shift.g.name

/-- The words without a leading shift key, which follows from the command anyway. -/
def dropShift : List String → List String
  | [] => []
  | word :: rest => if isShiftWord word then rest else word :: rest

/-- Reads the first statement of words without a shift key or shortcut in front. -/
def resolveWords (table : Table) (words : List String) : Except Fault Resolution :=
  let d := descend table table.root words
  if !d.path.isEmpty && d.node.isComplete then
    .ok { records := [Record.ofPath table d.path d.nodes], rest := words.drop d.used }
  else
    let failed : Resolution :=
      let diagnostic := diagnose table words d
      let skip := if diagnostic.kind = .argumentInvalid then d.used + 1 else max d.used 1
      { rest := words.drop skip, diagnostic := some diagnostic }
    if d.used = 0 then
      match words with
      | [] => .error .emptyStatement
      | word :: rest =>
        match literal table word with
        | .error failure =>
          .ok { rest := rest
                diagnostic := some
                  { kind := .expressionInvalid, token := word, words := words,
                    reason := some (.expression failure) } }
        | .ok [] => .ok failed
        | .ok records => .ok { records := records, rest := rest }
    else .ok failed

/-- Reads the first statement of a list of words. A leading shift key is dropped, then a leading shortcut
is written out. -/
def resolve (table : Table) (words : List String) : Except Fault Resolution :=
  match dropShift words with
  | [] => .ok {}
  | statement => resolveWords table (table.expand statement)

end Keystroke.Statement

import Keystroke.Command.Table

/-! Instructions of a program: the words of one key sequence and the codes of its keys. -/
namespace Keystroke.Statement

open Keystroke.Command

structure Record where
  /-- Canonical tokens, command first. -/
  path : List String
  /-- Keycodes, that of the shift key first. -/
  keycodes : List String
  /-- Name of the shift key, empty if there is none. -/
  shift : String := ""
  /-- Annotations of the tokens. -/
  comment : String := ""
  /-- Words after the statement. -/
  remarks : String := ""
deriving DecidableEq

def Record.key (table : Table) (token : String) : Record where
  path := [token]
  keycodes := ((table.root.child? token).map Node.keycode).toList

/-- The instruction of a path in the command tree, with the nodes it visits. -/
def Record.ofPath (table : Table) (path : List String) (nodes : List Node) : Record where
  path := path
  keycodes := (path.head?.bind table.shift?).toList.map table.shiftKeycode ++ nodes.map Node.keycode
  shift := ((path.head?.bind table.shift?).map Shift.name).getD ""
  comment := " ".intercalate ((nodes.map Node.comment).filter (· ≠ ""))

end Keystroke.Statement

import Keystroke.Command.Node
import Keystroke.Command.Shift
import Keystroke.Text.Blank
import Keystroke.Text.Fold

/-! A command set: the command tree, the accepted spellings of its tokens, the shortcuts that stand
for longer phrases, and the shift key of each top command. -/
namespace Keystroke.Command

open Keystroke.Text

/-- A spelling, and the token or phrase it stands for. -/
structure Alias where
  spelling : String
  token : String
deriving DecidableEq

/-- The aliases whose spelling no earlier one has. -/
def Alias.distinct : List Alias → List Alias
  | [] => []
  | a :: rest => a :: (distinct rest).filter (·.spelling != a.spelling)

def Alias.folded (a : Alias) : Alias :=
  { a with spelling := fold a.spelling }

/-- What the first alias with a spelling stands for. -/
def Alias.lookup? (aliases : List Alias) (spelling : String) : Option String :=
  (aliases.find? (·.spelling == spelling)).map (·.token)

/-- What look-ups need of a command set. -/
structure Table where
  root : Node
  aliases : List Alias
  shortcuts : List Alias
  shifts : List (String × Shift)

namespace Table

/-- The command set of the given declarations. Spellings are folded, and of those that are then the same the first
counts. -/
def build (root : Node) (aliases shortcuts : List Alias) (shifts : List (String × Shift)) : Table where
  root := root
  aliases := Alias.distinct (aliases.map Alias.folded)
  shortcuts := Alias.distinct (shortcuts.map Alias.folded)
  shifts := shifts

def canonical? (table : Table) (spelling : String) : Option String :=
  Alias.lookup? table.aliases spelling

def shortcut? (table : Table) (spelling : String) : Option String :=
  Alias.lookup? table.shortcuts spelling

/-- The words of a statement with its leading shortcut written out, if it starts with one. The first
word alone is tried before the first two together. -/
def expand? (table : Table) : List String → Option (List String)
  | [] => none
  | first :: rest =>
    match table.shortcut? (fold first) with
    | some phrase => some (words phrase ++ rest)
    | none =>
      match rest with
      | [] => none
      | second :: rest => (table.shortcut? (fold (first ++ " " ++ second))).map (words · ++ rest)

def expand (table : Table) (statement : List String) : List String :=
  (table.expand? statement).getD statement

/-- The shift key pressed before a top command. -/
def shift? (table : Table) (token : String) : Option Shift :=
  table.shifts.lookup token

/-- The key press code of a shift key, empty if the keypad has none. -/
def shiftKeycode (table : Table) (shift : Shift) : String :=
  ((table.root.child? shift.name).map Node.keycode).getD ""

end Table

end Keystroke.Command

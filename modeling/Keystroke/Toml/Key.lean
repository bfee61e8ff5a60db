import Keystroke.Text.Quoted

/-! Dotted keys and their spelling in messages. -/
namespace Keystroke.Toml

/-- The names on the way to a value, outermost first. -/
abbrev Key := List String

def isBareChar (c : Char) : Bool :=
  c.isAlphanum || c = '_' || c = '-'

def escapeNameChar (c : Char) : List Char :=
  match c with
  | '"' => ['\\', '"']
  | '\\' => ['\\', '\\']
  | '\x08' => ['\\', 'b']
  | '\t' => ['\\', 't']
  | '\n' => ['\\', 'n']
  | '\x0c' => ['\\', 'f']
  | '\r' => ['\\', 'r']
  | c => if c.toNat < 0x20 || c.toNat = 0x7F then '\\' :: 'u' :: Text.hexDigits 4 c.toNat else [c]

/-- A name, in quotes if it needs them. -/
def nameText (name : String) : String :=
  if name ≠ "" && name.toList.all isBareChar then name
  else String.ofList ('"' :: name.toList.flatMap escapeNameChar ++ ['"'])

def keyText (key : Key) : String :=
  ".".intercalate (key.map nameText)

end Keystroke.Toml

import Keystroke.Text.Quoted

/-! JSON documents and their text: one member on a line, indented by tabs. -/
namespace Keystroke.Dump

/-- A document of strings, lists and objects. -/
inductive Json where
  | null
  | string (text : String)
  | array (items : List Json)
  | object (members : List (String × Json))

namespace Json

/-- One character inside a string. Control characters and the two line separators are escaped. -/
def escapeChar (c : Char) : List Char :=
  match c with
  | '"' => ['\\', '"']
  | '\\' => ['\\', '\\']
  | '\x08' => ['\\', 'b']
  | '\x0c' => ['\\', 'f']
  | '\n' => ['\\', 'n']
  | '\r' => ['\\', 'r']
  | '\t' => ['\\', 't']
  | c =>
    if c.toNat < 0x20 || c.toNat == 0x2028 || c.toNat == 0x2029 then
      '\\' :: 'u' :: Text.hexDigits 4 c.toNat
    else [c]

def quoted (text : String) : List Char :=
  '"' :: text.toList.flatMap escapeChar ++ ['"']

/-- The start of a line `depth` levels in. -/
def newLine (depth : Nat) : List Char :=
  '\n' :: List.replicate depth '\t'

mutual

def chars (depth : Nat) : Json → List Char
  | .null => ['n', 'u', 'l', 'l']
  | .string text => quoted text
  | .array items => '[' :: itemChars (depth + 1) true items ++ [']']
  | .object members => '\x7b' :: memberChars (depth + 1) true members ++ ['\x7d']

/-- The items of a list, each on a line of its own, and the line of the closing bracket. -/
def itemChars (depth : Nat) (first : Bool) : List Json → List Char
  | [] => if first then [] else newLine (depth - 1)
  | item :: rest =>
    (if first then [] else [',']) ++ newLine depth ++ item.chars depth ++ itemChars depth false rest

/-- The members of an object, each on a line of its own, and the line of the closing bracket. -/
def memberChars (depth : Nat) (first : Bool) : List (String × Json) → List Char
  | [] => if first then [] else newLine (depth - 1)
  | (name, value) :: rest =>
    (if first then [] else [',']) ++ newLine depth ++ quoted name ++ [':', ' '] ++ value.chars depth
      ++ memberChars depth false rest

end

/-- The text of a document, ended by a line feed. -/
def render (document : Json) : String :=
  String.ofList (document.chars 0 ++ ['\n'])

end Json

end Keystroke.Dump

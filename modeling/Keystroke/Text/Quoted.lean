import Keystroke.Text.Printable

/-! Quoted characters and texts as they stand in messages: what cannot be shown is escaped. -/
namespace Keystroke.Text

/-- A number in at least `size` lower-case hexadecimal digits. -/
def hexDigits (size n : Nat) : List Char :=
  let digits := Nat.toDigits 16 n
  List.replicate (size - digits.length) '0' ++ digits

/-- One character inside the quotation mark `mark`. -/
def quoteBody (mark c : Char) : List Char :=
  if c = mark ∨ c = '\\' then ['\\', c]
  else if isPrintable c then [c]
  else match c.toNat with
    | 0x07 => ['\\', 'a']
    | 0x08 => ['\\', 'b']
    | 0x09 => ['\\', 't']
    | 0x0A => ['\\', 'n']
    | 0x0B => ['\\', 'v']
    | 0x0C => ['\\', 'f']
    | 0x0D => ['\\', 'r']
    | code =>
      if code < 0x20 || code == 0x7F then '\\' :: 'x' :: hexDigits 2 code
      else if code < 0x10000 then '\\' :: 'u' :: hexDigits 4 code
      else '\\' :: 'U' :: hexDigits 8 code

def quoteChar (c : Char) : String :=
  String.ofList ('\'' :: quoteBody '\'' c ++ ['\''])

def quote (text : String) : String :=
  String.ofList ('"' :: text.toList.flatMap (quoteBody '"') ++ ['"'])

end Keystroke.Text

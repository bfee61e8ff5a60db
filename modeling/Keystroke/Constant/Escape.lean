import Keystroke.Text.Quoted

/-! Escape sequences in quoted texts. Only whether they are well formed matters here. -/
namespace Keystroke.Constant

open Keystroke.Text

/-- The first `n` bytes of a text, if it is that long. A character that is cut in two shows as a
replacement character for each byte. -/
def firstBytes : Nat → List Char → Option (List Char)
  | 0, _ => some []
  | _ + 1, [] => none
  | n + 1, c :: cs =>
    if c.utf8Size ≤ n + 1 then (firstBytes (n + 1 - c.utf8Size) cs).map (c :: ·)
    else some (List.replicate (n + 1) '�')
termination_by n => n
decreasing_by have := c.utf8Size_pos; omega

def hexValue? (digits : List Char) : Option Nat :=
  if digits.isEmpty then none
  else digits.foldl (fun value c => value.bind fun v =>
    if c.isDigit then some (16 * v + (c.toNat - 48))
    else if 'a' ≤ c && c ≤ 'f' then some (16 * v + (c.toNat - 87))
    else if 'A' ≤ c && c ≤ 'F' then some (16 * v + (c.toNat - 55))
    else none) (some 0)

/-- A number in at least `size` upper-case hexadecimal digits. -/
def upperHex (size n : Nat) : String :=
  String.ofList ((hexDigits size n).map Char.toUpper)

def octalDigits (size n : Nat) : String :=
  let digits := Nat.toDigits 8 n
  String.ofList (List.replicate (size - digits.length) '0' ++ digits)

/-- The hint that a number above 127 stands for a code point. -/
def codePointHint (n : Nat) : String :=
  " (use \\u" ++ upperHex 4 n ++ " for the UTF-8 encoding of U+" ++ upperHex 4 n ++ ")"

def octalFault (isBytes : Bool) (n : Nat) : Option String :=
  if !isBytes && 127 < n then
    some ("non-ASCII octal escape \\" ++ octalDigits 1 n ++ codePointHint n)
  else if 256 ≤ n then some ("invalid escape sequence \\" ++ octalDigits 3 n)
  else none

/-- What is wrong with an escape of `size` bytes whose digits start at the third; `text` begins with the
backslash. -/
def hexFault (isBytes : Bool) (size : Nat) (text : List Char) : Option String :=
  match firstBytes size text with
  | none => some ("truncated escape sequence " ++ String.ofList text)
  | some shown =>
    match hexValue? (shown.drop 2) with
    | none => some ("invalid escape sequence " ++ String.ofList shown)
    | some n =>
      if size = 4 then
        if !isBytes && 127 < n then
          some ("non-ASCII hex escape " ++ String.ofList shown ++ codePointHint n)
        else none
      else if 0x10FFFF < n then
        some ("code point out of range: " ++ String.ofList shown ++ " (max \\U0010ffff)")
      else if 0xD800 ≤ n && n < 0xE000 then
        some ("invalid Unicode code point U+" ++ upperHex 4 n)
      else none

def isOctal (c : Char) : Bool :=
  '0' ≤ c && c ≤ '7'

def escapeFault (isBytes : Bool) : Nat → List Char → Option String
  | 0, _ => none
  | _ + 1, [] => none
  | fuel + 1, '\\' :: c :: cs =>
    if c = '\n' || "abfnrtv\\\x27\x22".contains c then escapeFault isBytes fuel cs
    else if isOctal c then
      let digits := c :: (cs.take 2).takeWhile isOctal
      let n := digits.foldl (fun value d => 8 * value + (d.toNat - 48)) 0
      match octalFault isBytes n with
      | some fault => some fault
      | none => escapeFault isBytes fuel (cs.drop (digits.length - 1))
    else if c = 'x' || c = 'u' || c = 'U' then
      let size := if c = 'x' then 4 else if c = 'u' then 6 else 10
      match hexFault isBytes size ('\\' :: c :: cs) with
      | some fault => some fault
      | none => escapeFault isBytes fuel (cs.drop (size - 2))
    else
      let first := (String.singleton c).toUTF8.data[0]?.getD 0
      some ("invalid escape sequence \\" ++ String.singleton (Char.ofNat first.toNat))
  | _ + 1, ['\\'] => some "truncated escape sequence \\"
  | fuel + 1, _ :: cs => escapeFault isBytes fuel cs

end Keystroke.Constant

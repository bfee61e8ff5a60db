import Keystroke.Constant.Escape
import Keystroke.Constant.Token
import Keystroke.Number.Decimal
import Keystroke.Text.Letter

/-! Reading an expression token by token. Line ends inside brackets do not count; the first token of an
indented line is preceded by an indentation, after which nothing is read, as no expression holds one. -/
namespace Keystroke.Constant

open Keystroke.Number Keystroke.Text

/-- The next character; a carriage return counts as a line feed, a null as the end. -/
def peek : List Char → Option Char
  | [] => none
  | c :: _ => if c = '\x00' then none else if c = '\r' then some '\n' else some c

def dropLineEnd : List Char → List Char
  | '\r' :: '\n' :: cs => cs
  | _ :: cs => cs
  | [] => []

def isNameStart (c : Char) : Bool :=
  c = '_' || isLetter c

def isNameChar (c : Char) : Bool :=
  isNameStart c || c.isDigit

/-- What is read at some place: a token, the text after it, and the place there. -/
structure Reading where
  token : Token
  rest : List Char
  place : Place

/-- A token that takes up the first `n` characters of a line. -/
def Reading.within (token : Token) (cs : List Char) (place : Place) (n : Nat) : Reading :=
  ⟨token, cs.drop n, place.advance n⟩

/-- The end of a quoted text: its body, the text after the closing quotes, and the place there. `run`
counts the quotes just read, and `need` of them close the text. -/
def readQuoted (start : Place) (quote : Char) (need : Nat) :
    Nat → Nat → List Char → Place → List Char → Except SyntaxError (List Char × List Char × Place)
  | 0, _, _, _, _ => .error ⟨start, .unclosedString⟩
  | _ + 1, _, [], _, _ => .error ⟨start, .unclosedString⟩
  | fuel + 1, run, c :: cs, place, body =>
    let isEnd := c = '\n' || c = '\r'
    let rest := dropLineEnd (c :: cs)
    let shown := if isEnd then '\n' else c
    let place := if isEnd then place.nextLine else place.advance 1
    if shown = quote then
      if run + 1 = need then .ok (body.reverse.take (body.length - run), rest, place)
      else readQuoted start quote need fuel (run + 1) rest place (shown :: body)
    else if shown = '\n' && need = 1 then .error ⟨start, .newlineInString⟩
    else if shown = '\\' then
      match rest with
      | [] => .error ⟨start, .unclosedString⟩
      | d :: ds =>
        let isEnd := d = '\n' || d = '\r'
        readQuoted start quote need fuel 0 (dropLineEnd (d :: ds))
          (if isEnd then place.nextLine else place.advance 1)
          ((if isEnd then '\n' else d) :: shown :: body)
    else readQuoted start quote need fuel 0 rest place (shown :: body)

/-- Reads a quoted text whose `skip` letters before the quote say that it is raw or made of bytes. -/
def readString (isRaw isBytes : Bool) (skip : Nat) (cs : List Char) (place : Place) :
    Except SyntaxError Reading :=
  match cs.drop skip with
  | [] => .error ⟨place, .unclosedString⟩
  | quote :: rest =>
    let triple := rest.take 2 == [quote, quote]
    let size := if triple then 3 else 1
    match readQuoted place quote size (cs.length + 1) 0 ((quote :: rest).drop size)
        (place.advance (skip + size)) [] with
    | .error error => .error error
    | .ok (body, rest, stop) =>
      match if isRaw then none else escapeFault isBytes (body.length + 1) body with
      | some fault => .error ⟨place.advance skip, .badEscape fault⟩
      | none => .ok ⟨if isBytes then .bytes else .string, rest, stop⟩

/-- Reads what follows the whole part of a number: a fraction, an exponent, or neither. -/
def readFloat (cs : List Char) (place : Place) (whole rest : List Char) :
    Except SyntaxError (Option Reading) :=
  let (fraction, size, rest) :=
    match rest with
    | '.' :: after =>
      let digits := after.takeWhile Char.isDigit
      (digits, whole.length + 1 + digits.length, after.drop digits.length)
    | _ => ([], whole.length, rest)
  let finish (power : Int) (size : Nat) : Except SyntaxError (Option Reading) :=
    match nearestFloat? (decimalValue (whole ++ fraction)) (power - fraction.length) with
    | some value => .ok (some (.within (.float value) cs place size))
    | none => .error ⟨place.advance size, .invalidFloat⟩
  match rest with
  | c :: after =>
    if c = 'e' || c = 'E' then
      let signed := after.head? == some '+' || after.head? == some '-'
      let digits := (if signed then after.drop 1 else after).takeWhile Char.isDigit
      let stop := size + 1 + (if signed then 1 else 0) + digits.length
      if digits.isEmpty then .error ⟨place.advance stop, .invalidFloat⟩
      else
        let power : Int := decimalValue digits
        finish (if after.head? == some '-' then -power else power) stop
    else if size = whole.length then .ok none
    else finish 0 size
  | [] => if size = whole.length then .ok none else finish 0 size

/-- Reads digits of another base after their two letter sign. -/
def readBased (base : Nat) (isDigit : Char → Bool) (limit : Option Nat) (missing : SyntaxError)
    (cs : List Char) (place : Place) : Except SyntaxError Reading :=
  let digits := (cs.drop 2).takeWhile isDigit
  if digits.isEmpty then .error missing
  else
    let value := digits.foldl (fun value c =>
      base * value + (if c.isDigit then c.toNat - 48 else c.toUpper.toNat - 55)) 0
    if limit.any (· < value) then .error ⟨place, .invalidInt⟩
    else .ok (.within (.int value) cs place (2 + digits.length))

def isHex (c : Char) : Bool :=
  c.isDigit || 'a' ≤ c && c ≤ 'f' || 'A' ≤ c && c ≤ 'F'

/-- The greatest number that octal and binary digits can spell. -/
def basedLimit : Nat := Nat.pow 2 63 - 1

def readNumber (cs : List Char) (place : Place) : Except SyntaxError Reading :=
  let sign := if cs.head? == some '0' then (cs.drop 1).head?.map Char.toLower else none
  if sign == some 'x' then readBased 16 isHex none ⟨place, .invalidHex⟩ cs place
  else if sign == some 'o' then
    readBased 8 isOctal (some basedLimit) ⟨place.advance 2, .invalidOctal⟩ cs place
  else if sign == some 'b' then
    readBased 2 (fun c => c = '0' || c = '1') (some basedLimit) ⟨place.advance 2, .invalidBinary⟩ cs
      place
  else
    let whole := cs.takeWhile Char.isDigit
    match readFloat cs place whole (cs.drop whole.length) with
    | .error error => .error error
    | .ok (some reading) => .ok reading
    | .ok none =>
      let padded := whole.head? == some '0' && whole.any (· ≠ '0')
      if padded && whole.all isOctal then
        .error ⟨place.advance whole.length, .obsoleteOctal (String.ofList (whole.drop 1))⟩
      else if padded then .error ⟨place, .invalidInt⟩
      else .ok (.within (.int (decimalValue whole)) cs place whole.length)

/-- The marks of punctuation, longer ones first. -/
def marks : List String :=
  ["<<=", ">>=", "//=", "<=", ">=", "==", "!=", "+=", "-=", "/=", "%=", "&=", "|=", "^=", "<<", ">>",
   "//", "**", "*=", "+", "-", "*", "/", "%", "&", "|", "^", "~", ".", ",", "=", ";", ":", "(", ")",
   "[", "]", "\x7b", "\x7d", "<", ">"]

def readMark (c : Char) (cs : List Char) (place : Place) : Except SyntaxError Reading :=
  match marks.find? fun mark => mark.toList.isPrefixOf cs with
  | some mark => .ok (.within (.mark mark) cs place mark.length)
  | none => .error ⟨place, .unexpectedCharacter c⟩

def isQuote (c : Char) : Bool :=
  c = '"' || c = '\x27'

/-- Whether a text starts with the letters and then a quotation mark. -/
def quotedAfter (letters cs : List Char) : Bool :=
  letters.isPrefixOf cs && ((cs.drop letters.length).head?.any isQuote)

/-- Reads the token that starts with `c`, which is neither blank nor a line end. -/
def readToken (c : Char) (cs : List Char) (place : Place) : Except SyntaxError Reading :=
  if isQuote c then readString false false 0 cs place
  else if quotedAfter ['r'] cs then readString true false 1 cs place
  else if quotedAfter ['b'] cs then readString false true 1 cs place
  else if quotedAfter ['r', 'b'] cs then readString true true 2 cs place
  else if isNameStart c then
    let name := cs.takeWhile isNameChar
    .ok (.within (.ofWord (String.ofList name)) cs place name.length)
  else if c.isDigit then readNumber cs place
  else if c = '.' && ((cs.drop 1).head?.any Char.isDigit) then
    match readFloat cs place [] cs with
    | .ok (some reading) => .ok reading
    | .ok none => readMark c cs place
    | .error error => .error error
  else readMark c cs place

/-- The depth of brackets after a token; none if it closes a bracket that is not open. -/
def depthAfter (depth : Nat) : Token → Option Nat
  | .mark text =>
    if ["(", "[", "\x7b"].contains text then some (depth + 1)
    else if [")", "]", "\x7d"].contains text then if depth = 0 then none else some (depth - 1)
    else some depth
  | _ => some depth

def isGap (c : Char) : Bool :=
  c = ' ' || c = '\t'

/-- Reads all tokens of a text in brackets `depth` deep. The list ends with the end of the text, with an
indentation or with the first error. -/
def scanFrom : Nat → Nat → Bool → List Char → Place → List (Except SyntaxError Lexeme)
  | 0, _, _, _, _ => []
  | fuel + 1, depth, lineStart, cs, place =>
    let gap := cs.takeWhile isGap
    let cs := cs.drop gap.length
    let place := place.advance gap.length
    let first := peek cs
    let blank := lineStart && (first == some '#' || first == some '\n' || first == none)
    if lineStart && !blank && depth = 0 && !gap.isEmpty then [.ok ⟨.indent, place, place⟩]
    else
      let note := if first == some '#' then
        cs.takeWhile fun c => c ≠ '\n' && c ≠ '\r' && c ≠ '\x00' else []
      let cs := cs.drop note.length
      let place := place.advance note.length
      match peek cs with
      | none => [.ok ⟨.eof, place, place⟩]
      | some '\n' =>
        let rest := scanFrom fuel depth true (dropLineEnd cs) place.nextLine
        if blank || 0 < depth then rest else .ok ⟨.newline, place, place.nextLine⟩ :: rest
      | some '\\' =>
        if peek (cs.drop 1) == some '\n' then
          scanFrom fuel depth false (dropLineEnd (cs.drop 1)) place.nextLine
        else [.error ⟨place.advance 1, .strayBackslash⟩]
      | some c =>
        match readToken c cs place with
        | .error error => [.error error]
        | .ok reading =>
          match depthAfter depth reading.token with
          | none => [.error ⟨place, .unexpectedClosing c⟩]
          | some depth =>
            .ok ⟨reading.token, place, reading.place⟩
              :: scanFrom fuel depth false reading.rest reading.place

def scan (text : String) : List (Except SyntaxError Lexeme) :=
  let cs := text.toList
  scanFrom (cs.length + 2) 0 true cs ⟨1, 1⟩

end Keystroke.Constant

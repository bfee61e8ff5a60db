import Keystroke.Toml.Scan
import Keystroke.Toml.Time

/-! What tokens stand for, and which of them stand for nothing. -/
namespace Keystroke.Toml

open Keystroke.Number

/-- Underscores stand between hexadecimal digits; `accept` says whether one may come next. -/
def underscoresBetween (accept : Bool) : List Char → Bool
  | [] => accept
  | c :: rest => (c ≠ '_' || accept) && underscoresBetween (isHexDigit c) rest

def floatWords : List String :=
  ["nan", "+nan", "-nan", "inf", "+inf", "-inf"]

/-- A part of a number whose underscores are where they may be. -/
def underscoresFit (cs : List Char) : Bool :=
  floatWords.contains (String.ofList cs) || underscoresBetween false cs

/-- A number that starts with a needless zero. -/
def hasLeadingZero : List Char → Bool
  | '0' :: c :: _ => !(['b', 'o', 'x'].contains c)
  | c :: '0' :: rest => (c = '+' || c = '-') && !rest.isEmpty
  | _ => false

def digitValue (c : Char) : Nat :=
  if c.isDigit then c.toNat - 48 else if 'a' ≤ c then c.toNat - 87 else c.toNat - 55

def baseValue (base : Nat) (digits : List Char) : Nat :=
  digits.foldl (fun value c => base * value + digitValue c) 0

/-- The value of an integer without underscores. -/
def integerValue : List Char → Int
  | '0' :: 'b' :: digits => baseValue 2 digits
  | '0' :: 'o' :: digits => baseValue 8 digits
  | '0' :: 'x' :: digits => baseValue 16 digits
  | '-' :: digits => -(baseValue 10 digits : Int)
  | '+' :: digits => baseValue 10 digits
  | digits => baseValue 10 digits

def integerFault? (text : String) : Option Cause :=
  let cs := text.toList
  let value := integerValue (cs.filter (· ≠ '_'))
  if !underscoresFit cs then some (.underscores "integer" text)
  else if hasLeadingZero cs then some (.leadingZeroes "integer" text)
  else if value < -0x8000000000000000 || 0x8000000000000000 ≤ value then some (.outOfRange text "int64")
  else none

def isFloatMark (c : Char) : Bool :=
  c = '.' || c = 'e' || c = 'E'

/-- The parts of a float between its marks, without empty ones; `part` holds the characters of the first,
last one first. -/
def floatParts (part : List Char) : List Char → List (List Char)
  | [] => if part.isEmpty then [] else [part.reverse]
  | c :: rest =>
    if isFloatMark c then (if part.isEmpty then [] else [part.reverse]) ++ floatParts [] rest
    else floatParts (c :: part) rest

/-- Every point has a digit after it. -/
def pointsFit : List Char → Bool
  | [] => true
  | '.' :: rest => (rest.head?.map Char.isDigit).getD false && pointsFit rest
  | _ :: rest => pointsFit rest

def dropSign : List Char → List Char
  | '+' :: rest => rest
  | '-' :: rest => rest
  | rest => rest

/-- The exponent of a float that takes up the whole text. -/
def floatExponent? : List Char → Option Int
  | [] => some 0
  | c :: rest =>
    let digits := dropSign rest
    if (c = 'e' || c = 'E') && !digits.isEmpty && digits.all Char.isDigit then
      some (if rest.head? = some '-' then -(decimalValue digits : Int) else decimalValue digits)
    else none

/-- The digits of a float as a number, and its power of ten. -/
def floatNumber? (cs : List Char) : Option (Nat × Int) :=
  let cs := dropSign cs
  let whole := cs.takeWhile Char.isDigit
  let (fraction, rest) := match cs.dropWhile Char.isDigit with
    | '.' :: rest => (rest.takeWhile Char.isDigit, rest.dropWhile Char.isDigit)
    | rest => ([], rest)
  if whole.isEmpty && fraction.isEmpty then none
  else (floatExponent? rest).map fun power => (decimalValue (whole ++ fraction), power - fraction.length)

def floatFault? (text : String) : Option Cause :=
  let cs := text.toList
  let parts := floatParts [] cs
  if !parts.all underscoresFit then some (.underscores "float" text)
  else if hasLeadingZero (parts.headD []) then some (.leadingZeroes "float" text)
  else if !pointsFit cs then some (.pointWithoutDigits text)
  else if floatWords.contains text then none
  else
    match floatNumber? (cs.filter (· ≠ '_')) with
    | none => some (.badFloat text)
    | some (mantissa, power) =>
      if (nearestFloat? mantissa power).isNone then some (.outOfRange text "float64") else none

def timeFault? (text : String) : Option Cause :=
  let cs := text.toList.map timeChar
  if isTime cs then none else some (.badTime (String.ofList cs))

/-- A string of lines does not hold the line end after its first quotes. -/
def dropFirstFeed : List Char → List Char
  | '\n' :: rest => rest
  | '\r' :: '\n' :: rest => rest
  | cs => cs

/-- Joins lines: a backslash before a line end goes away with the blanks and line ends after it. -/
def joinLines : Bool → List Char → List Char
  | _, [] => []
  | _, '\\' :: '\\' :: rest => '\\' :: '\\' :: joinLines false rest
  | skip, c :: rest =>
    let isSpace (c : Char) := isBlank c || isFeed c
    if skip && isSpace c then joinLines true rest
    else if c = '\\' && (rest.takeWhile isSpace).contains '\n' then joinLines true rest
    else c :: joinLines false rest

def charOfHex (digits : List Char) : Except Cause Char :=
  let code := baseValue 16 digits
  if code.isValidChar then .ok (Char.ofNat code) else .error (.noCharacter (String.ofList digits))

def escapedChar (c : Char) : Char :=
  match c with
  | 'b' => '\x08'
  | 't' => '\t'
  | 'n' => '\n'
  | 'f' => '\x0c'
  | 'r' => '\r'
  | c => c

def unescape : List Char → Except Cause (List Char)
  | [] => .ok []
  | '\\' :: 'u' :: a :: b :: c :: d :: rest => do
    let first ← charOfHex [a, b, c, d]
    pure (first :: (← unescape rest))
  | '\\' :: 'U' :: a :: b :: c :: d :: e :: f :: g :: h :: rest => do
    let first ← charOfHex [a, b, c, d, e, f, g, h]
    pure (first :: (← unescape rest))
  | '\\' :: c :: rest => do
    if isBlank c then throw (.blankEscape c)
    pure (escapedChar c :: (← unescape rest))
  | c :: rest => do pure (c :: (← unescape rest))

def stringValue (form : StringForm) (body : List Char) : Except Cause String :=
  match form with
  | .basic => (unescape body).map String.ofList
  | .basicLines => (unescape (joinLines false (dropFirstFeed body))).map String.ofList
  | .raw => .ok (String.ofList body)
  | .rawLines => .ok (String.ofList (dropFirstFeed body))

end Keystroke.Toml

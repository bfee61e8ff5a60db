import Keystroke.Statement.Record

/-! Numerals and the keys that enter them. -/
namespace Keystroke.Statement

open Keystroke.Command

/-- A numeral in the parts that are keyed in. -/
structure Numeral where
  negative : Bool := false
  /-- Digits and decimal point, may be empty. -/
  mantissa : String := ""
  /-- Digits of the exponent, empty if there is none. -/
  exponent : String := ""
  exponentNegative : Bool := false
deriving DecidableEq

namespace Numeral

def isSeparator (c : Char) : Bool :=
  c = '.' || c = ','

/-- Writes the decimal separator as a point and drops the grouping one. A comma that comes before the
first point groups; otherwise commas are decimal and points group. -/
def normalizePoint (cs : List Char) : List Char :=
  if !cs.contains ',' then cs
  else if cs.contains '.' && cs.find? isSeparator == some ',' then cs.filter (· ≠ ',')
  else (cs.filter (· ≠ '.')).map fun c => if c = ',' then '.' else c

/-- Writes the marks of the exponent as a capital E. -/
def normalizeMark (c : Char) : Char :=
  if c = 'e' || c = 'ᴇ' then 'E' else c

/-- A sign, if there is one, and the text after it. -/
def splitSign : List Char → Option Char × List Char
  | '+' :: rest => (some '+', rest)
  | '-' :: rest => (some '-', rest)
  | rest => (none, rest)

/-- The longest beginning of digits with at most one point, and the text after it. -/
def splitMantissa (cs : List Char) : List Char × List Char :=
  let whole := cs.takeWhile Char.isDigit
  match cs.dropWhile Char.isDigit with
  | '.' :: rest => (whole ++ '.' :: rest.takeWhile Char.isDigit, rest.dropWhile Char.isDigit)
  | rest => (whole, rest)

/-- The sign and the digits of an exponent that takes up the whole text, which may be empty. -/
def readExponent? : List Char → Option (Bool × List Char)
  | [] => some (false, [])
  | 'E' :: rest =>
    let (sign, digits) := splitSign rest
    if !digits.isEmpty && digits.all Char.isDigit then some (sign == some '-', digits) else none
  | _ => none

/-- A numeral of normalized characters. Its mantissa has a digit, unless it is a bare exponent. -/
def ofChars? (cs : List Char) : Option Numeral :=
  let (sign, rest) := splitSign cs
  let (mantissa, rest) := splitMantissa rest
  match readExponent? rest with
  | none => none
  | some (exponentNegative, exponent) =>
    if mantissa.any Char.isDigit || (sign.isNone && mantissa.isEmpty && !exponent.isEmpty) then
      some ⟨sign == some '-', String.ofList mantissa, String.ofList exponent, exponentNegative⟩
    else none

def ofWord? (word : String) : Option Numeral :=
  ofChars? ((normalizePoint word.toList).map normalizeMark)

def tokens (n : Numeral) : List String :=
  n.mantissa.toList.map String.singleton ++ (if n.negative then ["CHS"] else [])
    ++ (if n.exponent = "" then []
        else "EEX" :: (if n.exponentNegative then ["CHS"] else [])
          ++ n.exponent.toList.map String.singleton)

/-- The instructions that enter a numeral, one for each key. -/
def keys (table : Table) (n : Numeral) : List Record :=
  n.tokens.map (Record.key table)

end Numeral

end Keystroke.Statement

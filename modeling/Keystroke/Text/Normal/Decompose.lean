import Keystroke.Text.Normal.CombiningClass
import Keystroke.Text.Normal.Mapping

/-! Canonical decomposition: a character as its base and its marks, and marks in the order of their
classes. -/
namespace Keystroke.Text

/-- First syllable, first leading consonant, first vowel, and the code point before the first
trailing consonant of the Hangul blocks. -/
def hangulBase : Nat := 0xAC00
def leadBase : Nat := 0x1100
def vowelBase : Nat := 0x1161
def trailBase : Nat := 0x11A7

def hangulParts (code : Nat) : List Nat :=
  let index := code - hangulBase
  let body := [leadBase + index / 588, vowelBase + index % 588 / 28]
  if index % 28 = 0 then body else body ++ [trailBase + index % 28]

/-- Follows the canonical mappings of a code point, `depth` of them at most. -/
def decomposeWithin : Nat → Nat → List Nat
  | 0, code => [code]
  | depth + 1, code =>
    match pairMappings.lookup code with
    | some (base, mark) => decomposeWithin depth base ++ [mark]
    | none =>
      match singletonMappings.lookup code with
      | some other => decomposeWithin depth other
      | none => [code]

/-- The canonical decomposition of a character. No chain of mappings is longer than three. -/
def decomposeChar (c : Char) : List Char :=
  if c.toNat < 0xC0 then [c]
  else if hangulBase ≤ c.toNat && c.toNat < hangulBase + 11172 then
    (hangulParts c.toNat).map Char.ofNat
  else (decomposeWithin 3 c.toNat).map Char.ofNat

/-- Moves a mark behind those that follow it with a lower class. -/
def place (c : Char) : List Char → List Char
  | [] => [c]
  | d :: ds =>
    if combiningClass d ≠ 0 ∧ combiningClass d < combiningClass c then d :: place c ds
    else c :: d :: ds

/-- Marks in the order of their classes; marks of one class keep theirs. -/
def order : List Char → List Char
  | [] => []
  | c :: cs => place c (order cs)

end Keystroke.Text

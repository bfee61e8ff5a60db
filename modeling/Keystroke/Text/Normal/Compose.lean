import Keystroke.Text.Normal.Decompose

/-! Composition: a base and the marks after it as one character, where there is one. -/
namespace Keystroke.Text

/-- The Hangul syllable of two adjacent parts. -/
def hangulComposite? (base part : Char) : Option Char :=
  let a := base.toNat
  let b := part.toNat
  if leadBase ≤ a && a < leadBase + 19 && vowelBase ≤ b && b < vowelBase + 21 then
    some (Char.ofNat (hangulBase + ((a - leadBase) * 21 + (b - vowelBase)) * 28))
  else if hangulBase ≤ a && a < hangulBase + 11172 && (a - hangulBase) % 28 == 0
      && trailBase < b && b < trailBase + 28 then
    some (Char.ofNat (a + (b - trailBase)))
  else none

/-- The part of a code point by which pairs are found: its place in its plane. -/
def planeOffset (code : Nat) : Nat :=
  code % 0x10000

/-- The character that a base and a following mark are written as. Planes are not told apart: a base
outside the basic plane composes like the character at the same place in a plane that has a pair. -/
def composite? (base mark : Char) : Option Char :=
  match pairMappings.find? fun m => planeOffset m.2.1 == planeOffset base.toNat
      && planeOffset m.2.2 == planeOffset mark.toNat && !compositionExclusions.contains m.1 with
  | some m => some (Char.ofNat m.1)
  | none => none

/-- Characters that compose with the one before them. The code point before the first trailing
consonant counts as one. -/
def joinsBackward (c : Char) : Bool :=
  0x300 ≤ c.toNat &&
    (vowelBase ≤ c.toNat && c.toNat < vowelBase + 21
      || trailBase ≤ c.toNat && c.toNat < trailBase + 28
      || pairMappings.any fun m => m.2.2 == c.toNat && !compositionExclusions.contains m.1)

/-- The block of single Hangul consonants and vowels. -/
def isHangulPart (c : Char) : Bool :=
  leadBase ≤ c.toNat && c.toNat < leadBase + 0x100

/-- A text while it is composed. The next mark may be joined to `base`; `before` and `after` stand on its
two sides, each with its last character first. -/
structure Composing where
  before : List Char
  base : Char
  after : List Char

namespace Composing

def toList (text : Composing) : List Char :=
  text.before.reverse ++ text.base :: text.after.reverse

def last (text : Composing) : Char :=
  text.after.headD text.base

def push (text : Composing) (c : Char) : Composing :=
  { text with after := c :: text.after }

/-- Makes the last character the base. -/
def rebase (text : Composing) : Composing :=
  match text.after with
  | [] => text
  | c :: cs => ⟨cs ++ text.base :: text.before, c, []⟩

/-- Adds a character that may be joined to the base. If the last character is no mark, it is the base from
now on. A mark of the same or a higher class between the two keeps them apart. -/
def add (join? : Char → Char → Option Char) (text : Composing) (c : Char) : Composing :=
  let text := if combiningClass text.last = 0 then text.rebase else text
  let near := text.after.isEmpty || combiningClass text.last < combiningClass c
  match if near then join? text.base c else none with
  | some whole => { text with base := whole }
  | none => text.push c

/-- Adds characters one by one. The base stays where it is until a character that joins backward is
added. From the first part of a Hangul syllable on, only syllables are composed. -/
def addAll (text : Composing) : List Char → Composing
  | [] => text
  | c :: cs =>
    if isHangulPart c then (c :: cs).foldl (add hangulComposite?) text
    else if joinsBackward c then (text.add composite? c).addAll cs
    else (text.push c).addAll cs

end Composing

/-- Composes a base with the marks it can take. -/
def compose : List Char → List Char
  | [] => []
  | c :: cs => (Composing.addAll ⟨[], c, []⟩ cs).toList

end Keystroke.Text

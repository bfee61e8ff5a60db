import Keystroke.Text.Normal.Compose
import Keystroke.Text.Normal.MarkCount

/-! Composed normal form of a text: each segment, which is a character and the marks after it, is
decomposed, put in order and composed again. A run of more than thirty marks is first broken up by a
joiner, so that no segment is unbounded. -/
namespace Keystroke.Text

/-- Characters that lean on the one before them. -/
def isMark (c : Char) : Bool :=
  0x300 ≤ c.toNat && (combiningClass c != 0 || joinsBackward c)

/-- How many marks a character begins with. A character that begins with none starts a segment. -/
def leadingMarks (c : Char) : Nat :=
  if inRanges markForms c.toNat then 1 else ((decomposeChar c).takeWhile isMark).length

/-- How many marks a character ends with. -/
def trailingMarks (c : Char) : Nat :=
  match spacedMarks? c.toNat with
  | some count => count
  | none => ((decomposeChar c).reverse.takeWhile isMark).length

def joiner : Char := '\u034f'

/-- The longest run of marks that is kept in one piece. -/
def longestRun : Nat := 30

/-- The segments of a text. `segment` is the one at hand, last character first, and `run` is the number of
marks at its end. A segment with too long a run is closed by a joiner. -/
def segments (run : Nat) (segment : List Char) : List Char → List (List Char)
  | [] => [segment.reverse]
  | c :: cs =>
    let leading := leadingMarks c
    if leading = 0 then segment.reverse :: segments (trailingMarks c) [c] cs
    else if longestRun < run + leading then
      (joiner :: segment).reverse :: segments leading [c] cs
    else segments (run + leading) (c :: segment) cs

def normal (cs : List Char) : List Char :=
  (segments 0 [] cs).flatMap fun segment => compose (order (segment.flatMap decomposeChar))

end Keystroke.Text

/-! Case mappings that move whole runs of code points by the same distance. -/
namespace Keystroke.Text

/-- Every `stride`-th code point from `first` to `last` has an image; that of `first` is `image` and
the others keep their distance from it. -/
structure CaseRun where
  first : Nat
  last : Nat
  stride : Nat
  image : Nat

def CaseRun.imageOf? (run : CaseRun) (code : Nat) : Option Nat :=
  if run.first ≤ code && code ≤ run.last && (code - run.first) % run.stride == 0 then
    some (run.image + (code - run.first))
  else none

/-- The image of a character under the first run that holds it, or the character itself. -/
def caseImage (runs : List CaseRun) (c : Char) : Char :=
  match runs.findSome? (·.imageOf? c.toNat) with
  | some code => Char.ofNat code
  | none => c

end Keystroke.Text

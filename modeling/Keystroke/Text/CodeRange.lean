/-! Sets of characters given by runs of code points. -/
namespace Keystroke.Text

/-- The first and the last code point of a run. -/
abbrev CodeRange := Nat × Nat

/-- A code point that lies in one of the runs. -/
def inRanges (ranges : List CodeRange) (code : Nat) : Bool :=
  ranges.any fun run => run.1 ≤ code && code ≤ run.2

end Keystroke.Text

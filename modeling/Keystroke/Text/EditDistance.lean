/-! Edit distance: the least number of insertions, deletions and substitutions of characters that
turn one text into another. -/
namespace Keystroke.Text

/-- One row of the distance table. `c` is the new character of the first text, `corner` and `left` are
the distances above-left and to the left, and `above` the rest of the row before. -/
def distanceRow {α : Type} [DecidableEq α] (c : α) (corner left : Nat) : List α → List Nat → List Nat
  | d :: ds, up :: above =>
    let cost := if c = d then 0 else 1
    let here := min (min (up + 1) (left + 1)) (corner + cost)
    here :: distanceRow c up here ds above
  | _, _ => []

/-- The distances of `rows` and all the beginnings of the second text, row by row. -/
def distanceRows {α : Type} [DecidableEq α] (target : List α) (row : List Nat) : List α → List Nat
  | [] => row
  | c :: cs =>
    match row with
    | [] => []
    | first :: above =>
      distanceRows target ((first + 1) :: distanceRow c first (first + 1) target above) cs

def editDistance {α : Type} [DecidableEq α] (source target : List α) : Nat :=
  (distanceRows target (List.range (target.length + 1)) source).getLastD 0

end Keystroke.Text

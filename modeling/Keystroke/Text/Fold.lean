import Keystroke.Text.Normal
import Keystroke.Text.Upper

/-! Folding: two spellings of a word that differ in case or in composed characters fold alike. -/
namespace Keystroke.Text

/-- Composed normal form, then upper case. The result is not normalized again. -/
def foldChars (cs : List Char) : List Char :=
  upper (normal cs)

def fold (word : String) : String :=
  String.ofList (foldChars word.toList)

end Keystroke.Text

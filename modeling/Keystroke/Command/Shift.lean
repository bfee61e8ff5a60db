/-! The shift keys of the keypad. -/
namespace Keystroke.Command

/-- A shift key. Codes other than those of `f` and `g` can be declared, but no key has them. -/
inductive Shift where
  | f
  | g
  | unlisted (code : Int)
deriving DecidableEq

namespace Shift

def ofCode (code : Int) : Shift :=
  if code = 0 then f else if code = 1 then g else unlisted code

def code : Shift → Int
  | f => 0
  | g => 1
  | unlisted code => code

/-- The name of a shift key, which is also its command word. -/
def name : Shift → String
  | f => "f"
  | g => "g"
  | unlisted code => "Prefix(" ++ toString code ++ ")"

end Shift

end Keystroke.Command

/-! How a listing is produced. -/
namespace Keystroke.Listing

structure Options where
  /-- Show a dotted keycode as the key of the decimal point. -/
  simulator : Bool := false
  /-- Show the shift key before the words. -/
  shiftKey : Bool := true
  /-- Read one statement on a line; the other words are remarks. -/
  onePerLine : Bool := true
deriving DecidableEq

end Keystroke.Listing

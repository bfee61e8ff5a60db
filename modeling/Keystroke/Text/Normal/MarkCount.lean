import Keystroke.Text.CodeRange

/-! Marks in disguise: characters whose compatibility form begins or ends with marks that the canonical
form does not show. They count when the length of a run of marks is measured. -/
namespace Keystroke.Text

/-- Characters that are another form of one mark, such as the halfwidth voiced sound mark. -/
def markForms : List CodeRange :=
  [(0x3133, 0x3133), (0x3135, 0x3136), (0x313A, 0x313F), (0x314F, 0x3163), (0xFF9E, 0xFF9F),
   (0xFFA3, 0xFFA3), (0xFFA5, 0xFFA6), (0xFFAA, 0xFFAF), (0xFFC2, 0xFFC7), (0xFFCA, 0xFFCF),
   (0xFFD2, 0xFFD7), (0xFFDA, 0xFFDC)]

/-- First and last code point of a run, and the number of marks that their compatibility forms end with. -/
def spacedMarks : List (Nat × Nat × Nat) :=
  [(0xA8, 0xA8, 1), (0xAF, 0xAF, 1), (0xB4, 0xB4, 1), (0xB8, 0xB8, 1), (0x1C4, 0x1C6, 1),
   (0x2D8, 0x2DD, 1), (0x37A, 0x37A, 1), (0x384, 0x384, 1), (0x385, 0x385, 2), (0xF77, 0xF77, 2),
   (0xF79, 0xF79, 2), (0x1FBD, 0x1FBD, 1), (0x1FBF, 0x1FC0, 1), (0x1FC1, 0x1FC1, 2),
   (0x1FCD, 0x1FCF, 2), (0x1FDD, 0x1FDF, 2), (0x1FED, 0x1FEE, 2), (0x1FFD, 0x1FFE, 1),
   (0x2017, 0x2017, 1), (0x203E, 0x203E, 1), (0x309B, 0x309C, 1), (0x326E, 0x327E, 1),
   (0x3304, 0x3304, 1), (0x3307, 0x3307, 1), (0x3310, 0x3310, 1), (0x331E, 0x331E, 1),
   (0x3321, 0x3321, 1), (0x3332, 0x3332, 1), (0x333B, 0x333B, 1), (0x3340, 0x3340, 1),
   (0x334B, 0x334B, 1), (0x334E, 0x334E, 1), (0xFBA4, 0xFBA5, 1), (0xFBB0, 0xFBB1, 1),
   (0xFC5B, 0xFC5D, 1), (0xFC5E, 0xFC63, 2), (0xFC90, 0xFC90, 1), (0xFCD9, 0xFCD9, 1),
   (0xFCF2, 0xFCF4, 2), (0xFD3C, 0xFD3D, 1), (0xFE49, 0xFE4C, 1), (0xFE70, 0xFE72, 1),
   (0xFE74, 0xFE74, 1), (0xFE76, 0xFE7F, 1), (0xFE81, 0xFE8C, 1), (0xFEF5, 0xFEFA, 1),
   (0xFFE3, 0xFFE3, 1), (0x1F213, 0x1F213, 1)]

/-- The marks at the end of the compatibility form of a character, if the canonical form ends in fewer. -/
def spacedMarks? (code : Nat) : Option Nat :=
  (spacedMarks.find? fun run => run.1 ≤ code && code ≤ run.2.1).map (·.2.2)

end Keystroke.Text

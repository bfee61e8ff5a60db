import Keystroke.Command.Keypad
import Keystroke.Command.Table

/-! The accepted spellings and shortcuts of the HP-15C command words, and its command set. -/
namespace Keystroke.Command

/-- A token or phrase with the spellings that stand for it. -/
abbrev SpellingGroup := String × List String

def SpellingGroup.aliases (groups : List SpellingGroup) : List Alias :=
  groups.flatMap fun group => group.2.map fun spelling => ⟨spelling, group.1⟩

def plainSpellings : List SpellingGroup :=
  [("SQR", ["SQR", "SQRT", "VX", "√X"]),
   ("e^x", ["E^X", "EX"]),
   ("10^x", ["10^X", "10X"]),
   ("y^x", ["Y^X", "YX"]),
   ("1/x", ["1/X", "1X"]),
   ("CHS", ["CHS"]),
   ("÷", ["/", "÷", "DIVIDE"]),
   ("GTO", ["GTO", "GOTO", "GO TO"]),
   ("SIN", ["SIN"]),
   ("COS", ["COS"]),
   ("TAN", ["TAN"]),
   ("EEX", ["EEX"]),
   ("×", ["*", "×", "MULTIPLIED", "TIMES"]),
   ("R/S", ["R/S", "RS", "STOP"]),
   ("GSB", ["GSB", "GOSUB"]),
   ("R down",
     ["ROLL DOWN", "ROLLDOWN", "ROLLD", "RDOWN", "R DOWN", "RD", "R-v", "RDN", "R↓", "R ↓", "R⬇",
      "R ⬇"]),
   ("x><y", ["X-><-Y", "X↔Y", "X⇔Y", "X><Y", "X~Y", "X-Y", "XY", "X<>Y", "X<->Y"]),
   ("ENTER", ["ENTER", "ENTER↑"]),
   ("-", ["-", "−", "MINUS"]),
   ("g", ["G"]),
   ("STO", ["STO"]),
   ("RCL", ["RCL"]),
   (".", ["."]),
   ("∑+", ["SUM+", "SIGMA+", "Σ+", "∑+"]),
   ("+", ["+", "PLUS"])]

def goldSpellings : List SpellingGroup :=
  [("A", ["A"]),
   ("B", ["B"]),
   ("C", ["C"]),
   ("D", ["D"]),
   ("E", ["E"]),
   ("MATRIX", ["MATRIX"]),
   ("FIX", ["FIX"]),
   ("SCI", ["SCI"]),
   ("ENG", ["ENG"]),
   ("SOLVE", ["SOLVE"]),
   ("LBL", ["LBL", "LABEL"]),
   ("HYP", ["HYP"]),
   ("DIM", ["DIM"]),
   ("(i)", ["(I)"]),
   ("I", ["I"]),
   ("RESULT", ["RESULT"]),
   ("x><", ["X-><-", "X↔", "X⇔", "X><", "X-", "X~", "X<>"]),
   ("DSE", ["DSE"]),
   ("ISG", ["ISG"]),
   ("INTEGRATE", ["INTEGRATE"]),
   ("PSE", ["PSE"]),
   ("CLEAR ∑",
     ["CLEAR SUM", "CL SUM", "SUM", "∑", "CLEAR SIGMA", "CLEAR ∑", "CL SIGMA", "CL ∑", "SIGMA"]),
   ("CLEAR REG", ["CLEAR REG", "CL REG", "REG"]),
   ("RAN#", ["RAN#"]),
   (">R", ["->R", "→R", ">R", "-R"]),
   (">H.MS", [">H.MS", "-H.MS", "->H.MS", "→H.MS", ">HMS", "-HMS", "->HMS", "→HMS", "HMS"]),
   (">RAD", ["->RAD", "→RAD", "-RAD", ">RAD"]),
   ("Re><Im", ["RE-><-IM", "RE↔IM", "RE⇔IM", "RE><IM", "RE<>IM", "RE-IM", "RE~IM", "R-I", "RI"]),
   ("FRAC", ["FRAC"]),
   ("x!", ["X!", "!"]),
   ("y,r", ["Y,R", "Ŷ,R", "Y^,R", "YR"]),
   ("L.R.", ["L.R.", "LR"]),
   ("Py,x", ["PY,X", "P Y,X", "PYX"])]

def blueSpellings : List SpellingGroup :=
  [("x^2", ["X^2", "X2", "X²"]),
   ("LN", ["LN"]),
   ("LOG", ["LOG"]),
   ("%", ["%"]),
   ("Delta%", ["d%", "Δ%", "DELTA%", "DELTA %"]),
   ("ABS", ["ABS"]),
   ("DEG", ["DEG"]),
   ("RAD", ["RAD"]),
   ("GRD", ["GRD", "GRAD"]),
   ("x<=y?", ["X<=Y?", "X≤Y?", "X<=Y", "X≤Y"]),
   ("HYP^-1", ["HYP^-1", "HYP-1", "HYP1"]),
   ("SIN^-1", ["SIN^-1", "SIN-1", "SIN1"]),
   ("COS^-1", ["COS^-1", "COS-1", "COS1"]),
   ("TAN^-1", ["TAN^-1", "TAN-1", "TAN1"]),
   ("pi", ["PI", "Π"]),
   ("SF", ["SF", "SETFLAG", "SET FLAG"]),
   ("CF", ["CF", "CLFLAG", "CL FLAG", "CLEARFLAG", "CLEAR FLAG"]),
   ("F?", ["F?", "FLAG?"]),
   ("x=0?", ["X=0?", "X=0"]),
   ("RTN", ["RTN"]),
   ("R up", ["ROLL UP", "ROLLUP", "ROLLU", "RUP", "R UP", "RU", "R ↑", "R↑", "R ⬆", "R⬆", "R^"]),
   ("RND", ["RND"]),
   ("CLx", ["CLX"]),
   ("LSTx", ["LSTX", "LST X", "LASTX", "LAST X"]),
   (">P", ["->P", "→P", "-P", ">P"]),
   (">H", ["->H", "→H", "-H", ">H"]),
   (">DEG", ["->DEG", "→DEG", "-DEG", ">DEG"]),
   ("TEST", ["TEST"]),
   ("INT", ["INT"]),
   ("x mean", ["MEAN", "XMEAN", "X (MEAN)", "X MEAN"]),
   ("s", ["S"]),
   ("∑-", ["SUM-", "SIGMA-", "Σ-", "∑-"]),
   ("Cy,x", ["CY,X", "C Y,X", "CYX"])]

def userSpellings : List SpellingGroup :=
  [("uSTO", ["USTO"]), ("uRCL", ["URCL"])]

/-- Spellings of a digit and of the dotted digit, which is also typed with a comma or as a number from
ten to nineteen. -/
def digitSpellings (n : Nat) : List SpellingGroup :=
  let digit := toString n
  let dotted := "." ++ digit
  [(digit, [digit]), (dotted, [dotted, "," ++ digit, "1" ++ digit])]

def standardAliases : List Alias :=
  SpellingGroup.aliases (plainSpellings ++ goldSpellings ++ blueSpellings ++ userSpellings
    ++ (List.range 10).flatMap digitSpellings)

/-- The shortcuts of the HP-15C commands, by the phrase they stand for. -/
def standardShortcuts : List Alias :=
  SpellingGroup.aliases
    [("TEST 0", ["X!=0?", "X!=0", "X≠0", "X≠0?", "0!=X?", "0!=X", "0≠X", "0≠X?"]),
     ("TEST 1", ["X>0?", "X>0", "0<X?", "0<X"]),
     ("TEST 2", ["X<0?", "X<0", "0>X?", "0>X"]),
     ("TEST 3", ["X>=0?", "X≥0?", "X>=0", "X≥0", "0<=X?", "0≤X?", "0<=X", "0≤X"]),
     ("TEST 4", ["X<=0?", "X≤0?", "X<=0", "X≤0", "0>=X?", "0≥X?", "0>=X", "0≥X"]),
     ("TEST 5", ["X=Y?", "X=Y", "Y=X?", "Y=X"]),
     ("TEST 6", ["X!=Y?", "X!=Y"]),
     ("TEST 0", ["X≠Y", "X≠Y?"]),
     ("TEST 6", ["Y!=X?", "Y!=X"]),
     ("TEST 0", ["0≠Y", "0≠Y?"]),
     ("TEST 7", ["X>Y?", "X>Y", "Y<X?", "Y<X"]),
     ("TEST 8", ["X<Y?", "X<Y", "Y>X?", "Y>X"]),
     ("TEST 9", ["X>=Y?", "X≥Y?", "X>=Y", "X≥Y", "Y<=X?", "Y≤X?", "Y<=X", "Y≤X"]),
     ("STO +", ["STO+"]),
     ("STO -", ["STO-"]),
     ("STO ×", ["STO*", "STO×"]),
     ("STO /", ["STO/", "STO÷"]),
     ("RCL +", ["RCL+"]),
     ("RCL -", ["RCL-"]),
     ("RCL ×", ["RCL*", "RCL×"]),
     ("RCL /", ["RCL/", "RCL÷"]),
     ("STO RAN#", ["STO ENTER"]),
     ("RCL RAN#", ["RCL ENTER"]),
     ("uSTO", ["USER STO", "U STO"]),
     ("uRCL", ["USER RCL", "U RCL"])]

def Table.standard : Table :=
  Table.build standardRoot standardAliases standardShortcuts standardShifts

end Keystroke.Command

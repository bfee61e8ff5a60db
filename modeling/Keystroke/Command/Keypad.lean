import Keystroke.Command.Node
import Keystroke.Command.Shift

/-! The HP-15C keypad: the tree of its commands with their key press codes, row and column of the key,
and the shift key of each command. -/
namespace Keystroke.Command

def digitKeycode (n : Nat) : String :=
  " " ++ toString n

def digitArgs : List (String × Node) :=
  (List.range 10).map fun n => (toString n, Node.leaf (digitKeycode n))

/-- The dotted digits .0 to .9, which are their own keycodes. -/
def dottedArgs : List (String × Node) :=
  (List.range 10).map fun n => ("." ++ toString n, Node.leaf ("." ++ toString n))

def letterKeys : List (String × String) :=
  [("A", "11"), ("B", "12"), ("C", "13"), ("D", "14"), ("E", "15")]

/-- The letters A to E, with a qualifier of their keycodes. -/
def letterArgs (qualifier : String) : List (String × Node) :=
  letterKeys.map fun key => (key.1, Node.leaf (key.2 ++ qualifier))

/-- The register that the index register points to. -/
def indirectArg : String × Node := ("(i)", Node.leaf "24")

def indexArg : String × Node := ("I", Node.leaf "25")

def labelArgs : List (String × Node) :=
  digitArgs ++ dottedArgs ++ letterArgs ""

def registerArgs : List (String × Node) :=
  digitArgs ++ dottedArgs ++ [indirectArg, indexArg]

def storageArgs : List (String × Node) :=
  registerArgs ++ letterArgs ""

def matrixArgs : List (String × Node) :=
  indirectArg :: letterArgs ""

def settingArgs : List (String × Node) :=
  digitArgs ++ [indexArg]

def arithmeticArgs : List (String × Node) :=
  [("÷", Node.branch "10" "" registerArgs), ("×", Node.branch "20" "" registerArgs),
   ("-", Node.branch "30" "" registerArgs), ("+", Node.branch "40" "" registerArgs)]

def trigonometryArgs : List (String × Node) :=
  [("SIN", Node.leaf "23"), ("COS", Node.leaf "24"), ("TAN", Node.leaf "25")]

/-- The numbered tests, each with the comparison it makes. -/
def testArgs : List (String × Node) :=
  ["x!=0?", "x>0?", "x<0?", "x>=0?", "x<=0?", "x=y?", "x!=y?", "x>y?", "x<y?", "x>=y?"].mapIdx
    fun n comparison => (toString n, Node.branch (digitKeycode n) comparison [])

/-- Storing and recalling; only recalling asks for dimensions. -/
def storageNode (keycode : String) (dimensions : List (String × Node)) : Node :=
  Node.branch keycode "" (storageArgs ++ arithmeticArgs ++
    [("RAN#", Node.leaf "36"), ("RESULT", Node.leaf "26"), ("g", Node.branch "43" "" matrixArgs),
     ("MATRIX", Node.branch "16" "" (letterArgs ""))] ++ dimensions)

def userNode (keycode : String) : Node :=
  Node.branch keycode "USER mode" (("(i)", Node.leaf "25 u") :: letterArgs " u")

def plainCommands : List (String × Node) :=
  [("SQR", Node.leaf "11"), ("e^x", Node.leaf "12"), ("10^x", Node.leaf "13"),
   ("y^x", Node.leaf "14"), ("1/x", Node.leaf "15"), ("CHS", Node.leaf "16"), ("÷", Node.leaf "10"),
   ("GTO", Node.branch "22" "" (labelArgs ++ [indexArg])), ("EEX", Node.leaf "26"),
   ("×", Node.leaf "20"), ("R/S", Node.leaf "31"),
   ("GSB", Node.branch "32" "" (labelArgs ++ [indexArg])), ("R down", Node.leaf "33"),
   ("x><y", Node.leaf "34"), ("ENTER", Node.leaf "36"), ("-", Node.leaf "30"), ("f", Node.leaf "42"),
   ("g", Node.leaf "43"), ("STO", storageNode "44" []), ("uSTO", userNode "44"),
   ("RCL", storageNode "45" [("DIM", Node.branch "23" "" matrixArgs)]), ("uRCL", userNode "45"),
   (".", Node.leaf "48"), ("∑+", Node.leaf "49"), ("+", Node.leaf "40")]

/-- Commands on keys shifted by f. -/
def goldCommands : List (String × Node) :=
  [("MATRIX", Node.branch "16" "" digitArgs), ("FIX", Node.branch " 7" "" settingArgs),
   ("SCI", Node.branch " 8" "" settingArgs), ("ENG", Node.branch " 9" "" settingArgs),
   ("SOLVE", Node.branch "10" "" labelArgs), ("LBL", Node.branch "21" "" labelArgs),
   ("HYP", Node.branch "22" "" trigonometryArgs),
   ("DIM", Node.branch "23" "" ([indirectArg, indexArg] ++ letterArgs "")), ("I", Node.leaf "25"),
   ("RESULT", Node.branch "26" "" (letterArgs "")), ("x><", Node.branch " 4" "" storageArgs),
   ("DSE", Node.branch " 5" "" storageArgs), ("ISG", Node.branch " 6" "" storageArgs),
   ("INTEGRATE", Node.branch "20" "" labelArgs), ("PSE", Node.leaf "31"),
   ("CLEAR ∑", Node.leaf "32"), ("CLEAR REG", Node.leaf "34"), ("RAN#", Node.leaf "36"),
   (">R", Node.leaf " 1"), (">H.MS", Node.leaf " 2"), (">RAD", Node.leaf " 3"),
   ("Re><Im", Node.leaf "30"), ("FRAC", Node.leaf "44"), ("x!", Node.leaf " 0"),
   ("y,r", Node.leaf "48"), ("L.R.", Node.leaf "49"), ("Py,x", Node.leaf "40")]

/-- Commands on keys shifted by g. -/
def blueCommands : List (String × Node) :=
  [("x^2", Node.leaf "11"), ("LN", Node.leaf "12"), ("LOG", Node.leaf "13"), ("%", Node.leaf "14"),
   ("Delta%", Node.leaf "15"), ("ABS", Node.leaf "16"), ("DEG", Node.leaf " 7"),
   ("RAD", Node.leaf " 8"), ("GRD", Node.leaf " 9"), ("x<=y?", Node.leaf "10"),
   ("HYP^-1", Node.branch "22" "" trigonometryArgs), ("SIN^-1", Node.leaf "23"),
   ("COS^-1", Node.leaf "24"), ("TAN^-1", Node.leaf "25"), ("pi", Node.leaf "26"),
   ("SF", Node.branch " 4" "" settingArgs), ("CF", Node.branch " 5" "" settingArgs),
   ("F?", Node.branch " 6" "" settingArgs), ("x=0?", Node.leaf "20"), ("RTN", Node.leaf "32"),
   ("R up", Node.leaf "33"), ("RND", Node.leaf "34"), ("CLx", Node.leaf "35"),
   ("LSTx", Node.leaf "36"), (">P", Node.leaf " 1"), (">H", Node.leaf " 2"),
   (">DEG", Node.leaf " 3"), ("TEST", Node.branch "30" "" testArgs), ("INT", Node.leaf "44"),
   ("x mean", Node.leaf " 0"), ("s", Node.leaf "48"), ("∑-", Node.leaf "49"),
   ("Cy,x", Node.leaf "40")]

/-- The letter keys on their own, which call the subroutine of that letter. -/
def letterCommands : List (String × Node) :=
  letterKeys.map fun key => (key.1, Node.branch key.2 ("GSB " ++ key.1) [])

/-- The HP-15C command tree. -/
def standardRoot : Node :=
  Node.branch "" "" (plainCommands ++ goldCommands ++ blueCommands ++ digitArgs ++ letterCommands
    ++ trigonometryArgs)

/-- Commands that the key f selects. -/
def goldTokens : List String :=
  ["A", "B", "C", "D", "E", "MATRIX", "FIX", "SCI", "ENG", "SOLVE", "LBL", "HYP", "DIM", "(i)",
   "I", "RESULT", "x><", "DSE", "ISG", "INTEGRATE", "PSE", "CLEAR ∑", "CLEAR REG", "RAN#", ">R",
   ">H.MS", ">RAD", "Re><Im", "FRAC", "x!", "y,r", "L.R.", "Py,x"]

/-- Commands that the key g selects. -/
def blueTokens : List String :=
  ["x^2", "LN", "LOG", "%", "Delta%", "ABS", "DEG", "RAD", "GRD", "x<=y?", "HYP^-1", "SIN^-1",
   "COS^-1", "TAN^-1", "pi", "SF", "CF", "F?", "x=0?", "RTN", "R up", "RND", "CLx", "LSTx", ">P",
   ">H", ">DEG", "TEST", "INT", "x mean", "s", "∑-", "Cy,x"]

def standardShifts : List (String × Shift) :=
  goldTokens.map (·, Shift.f) ++ blueTokens.map (·, Shift.g)

end Keystroke.Command

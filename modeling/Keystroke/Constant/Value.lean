import Keystroke.Constant.Expr
import Keystroke.Number.Basic

/-! The values of formulas and the operators on them. -/
namespace Keystroke.Constant

open Keystroke.Number

/-- A value. Functions are known by their names. -/
inductive Value where
  | none
  | bool (value : Bool)
  | int (value : Int)
  | float (value : Float)
  | module
  | function (inMath : Bool) (name : String)

def Value.typeName : Value → String
  | none => "NoneType"
  | bool _ => "bool"
  | int _ => "int"
  | float _ => "float"
  | module => "module"
  | function _ _ => "builtin_function_or_method"

/-- Values that count as true: all but zeros, `False` and `None`. -/
def Value.isTrue : Value → Bool
  | none => false
  | bool value => value
  | int value => value != 0
  | float value => value != 0.0
  | module | function _ _ => true

inductive EvalCause where
  | floatDivision
  | flooredDivision
  | intModulo
  | floatModulo
  | logarithmBase
  | negativeShift (count : Int)
  | hugeShift (count : Int)
  | shiftRange (count : Int)
  | wantInt (found : String)
  | wantNumber (found : String)
  | intTooLarge
  | infiniteInt
  | undefinedInt
  | unknownBinary (left : String) (op : BinaryOp) (right : String)
  | unknownUnary (op : UnaryOp) (operand : String)
  | notOrdered (left : String) (op : BinaryOp) (right : String)
  | notCallable (found : String)
  | noMember (name : String) (near : Option String)
  | argumentCount (function : String) (count : Nat) (bound : String) (want : Nat)
  | namedArguments (function : String)
  | argumentType (function : String) (position : Nat) (found : String)
  | notIterable (found : String)
  | notMapping (found : String)
  | tooManySteps

def EvalCause.message : EvalCause → String
  | floatDivision => "floating-point division by zero"
  | flooredDivision => "floored division by zero"
  | intModulo => "integer modulo by zero"
  | floatModulo => "floating-point modulo by zero"
  | logarithmBase => "division by zero"
  | negativeShift count => "negative shift count: " ++ toString count
  | hugeShift count => "shift count too large: " ++ toString count
  | shiftRange count => toString count ++ " out of range"
  | wantInt found => "got " ++ found ++ ", want int"
  | wantNumber found => "got " ++ found ++ ", want float or int"
  | intTooLarge => "int too large to convert to float"
  | infiniteInt => "cannot convert float infinity to integer"
  | undefinedInt => "cannot convert float NaN to integer"
  | unknownBinary left op right => "unknown binary op: " ++ left ++ " " ++ op.text ++ " " ++ right
  | unknownUnary op operand => "unknown unary op: " ++ op.text ++ " " ++ operand
  | notOrdered left op right => left ++ " " ++ op.text ++ " " ++ right ++ " not implemented"
  | notCallable found => "invalid call of non-function (" ++ found ++ ")"
  | noMember name near =>
    "module has no ." ++ name ++ " field or method"
      ++ (match near with
          | some other => " (did you mean ." ++ other ++ "?)"
          | none => "")
  | argumentCount function count bound want =>
    function ++ ": got " ++ toString count ++ " arguments, want " ++ bound ++ toString want
  | namedArguments function => function ++ ": unexpected keyword arguments"
  | argumentType function position found =>
    function ++ ": for parameter " ++ toString position ++ ": got " ++ found
      ++ ", want float or int"
  | notIterable found => "argument after * must be iterable, not " ++ found
  | notMapping found => "argument after ** must be a mapping, not " ++ found
  | tooManySteps => "Starlark computation cancelled: too many steps"

/-- The float nearest to a whole number; large ones are infinite. -/
def intToFloat (n : Int) : Float :=
  if n < 0 then -(Float.ofNat n.natAbs) else Float.ofNat n.natAbs

/-- The float nearest to a whole number, which has to be finite. -/
def finiteFloat (n : Int) : Except EvalCause Float :=
  let value := intToFloat n
  if value.isInf then .error .intTooLarge else .ok value

def floatToInt (x : Float) : Except EvalCause Int :=
  if x.isInf then .error .infiniteInt
  else if x.isNaN then .error .undefinedInt
  else .ok (Dyadic.ofFloat x).toInt

/-- The remainder that has the sign of the divisor. -/
def floorMod (x y : Float) : Float :=
  let rest := mod x y
  if ((x < 0.0) != (y < 0.0)) && rest != 0.0 then rest + y else rest

def floatArithmetic (op : BinaryOp) (x y : Float) : Except EvalCause Value :=
  match op with
  | .plus => .ok (.float (x + y))
  | .minus => .ok (.float (x - y))
  | .times => .ok (.float (x * y))
  | .divide => if y == 0.0 then .error .floatDivision else .ok (.float (x / y))
  | .floorDivide => if y == 0.0 then .error .flooredDivision else .ok (.float (x / y).floor)
  | .modulo => if y == 0.0 then .error .floatModulo else .ok (.float (floorMod x y))
  | op => .error (.unknownBinary "float" op "float")

/-- An operator on the bits of two ints in two's complement; `bit` combines single bits. -/
def bitwise (bit : Bool → Bool → Bool) (x y : Int) : Int :=
  let size := max (Nat.log2 x.natAbs) (Nat.log2 y.natAbs) + 2
  let modulus : Int := Nat.pow 2 size
  let low := Nat.bitwise bit (x % modulus).toNat (y % modulus).toNat
  if bit (x < 0) (y < 0) then (low : Int) - modulus else low

/-- A shift of an int. Counts are limited, those of left shifts to 511. -/
def shiftInt (isLeft : Bool) (x : Int) (count : Value) : Except EvalCause Value :=
  match count with
  | .int n =>
    if n < -2147483648 || 2147483647 < n then .error (.shiftRange n)
    else if n < 0 then .error (.negativeShift n)
    else if isLeft then
      if 512 ≤ n then .error (.hugeShift n) else .ok (.int (x * Nat.pow 2 n.toNat))
    else if (Nat.log2 x.natAbs : Int) < n then .ok (.int (if x < 0 then -1 else 0))
    else .ok (.int (x.fdiv (Nat.pow 2 n.toNat)))
  | other => .error (.wantInt other.typeName)

/-- An operator on two ints, shifts apart. -/
def intArithmetic (op : BinaryOp) (x y : Int) : Except EvalCause Value :=
  match op with
  | .plus => .ok (.int (x + y))
  | .minus => .ok (.int (x - y))
  | .times => .ok (.int (x * y))
  | .divide =>
    match finiteFloat x, finiteFloat y with
    | .ok x, .ok y => floatArithmetic .divide x y
    | .error cause, _ => .error cause
    | _, .error cause => .error cause
  | .floorDivide => if y = 0 then .error .flooredDivision else .ok (.int (x.fdiv y))
  | .modulo => if y = 0 then .error .intModulo else .ok (.int (x.fmod y))
  | .bitOr => .ok (.int (bitwise (· || ·) x y))
  | .bitAnd => .ok (.int (bitwise (· && ·) x y))
  | .bitXor => .ok (.int (bitwise (· != ·) x y))
  | op => .error (.unknownBinary "int" op "int")

/-- Operators that an int and a float can have between them. -/
def BinaryOp.isArithmetic : BinaryOp → Bool
  | plus | minus | times | divide | floorDivide | modulo => true
  | _ => false

def arithmetic (op : BinaryOp) (left right : Value) : Except EvalCause Value :=
  let unknown : Except EvalCause Value :=
    .error (.unknownBinary left.typeName op right.typeName)
  match op, left, right with
  | .shiftLeft, .int x, count => shiftInt true x count
  | .shiftRight, .int x, count => shiftInt false x count
  | op, .int x, .int y => intArithmetic op x y
  | op, .int x, .float y =>
    if op.isArithmetic then (finiteFloat x).bind (floatArithmetic op · y) else unknown
  | op, .float x, .int y =>
    if op = .modulo && y = 0 then .error .floatModulo
    else if op.isArithmetic then (finiteFloat y).bind (floatArithmetic op x ·) else unknown
  | op, .float x, .float y => if op.isArithmetic then floatArithmetic op x y else unknown
  | .divide, .int x, _ => (finiteFloat x).bind fun _ => unknown
  | _, _, _ => unknown

/-- The order of two floats; the undefined one is above all others. -/
def compareFloats (x y : Float) : Ordering :=
  if x > y then .gt else if x < y then .lt else if x == y then .eq
  else if x == x then .lt else if y == y then .gt else .eq

def compareIntFloat (n : Int) (x : Float) : Ordering :=
  if x.isNaN then .lt
  else if x.isInf then if x > 0.0 then .lt else .gt
  else (Dyadic.ofFloat x).compareInt n

/-- The order of two values that have one. -/
def compareValues? : Value → Value → Option Ordering
  | .int x, .int y => some (compare x y)
  | .float x, .float y => some (compareFloats x y)
  | .int x, .float y => some (compareIntFloat x y)
  | .float x, .int y => some (compareIntFloat y x).swap
  | .bool x, .bool y => some (compare x.toNat y.toNat)
  | _, _ => none

/-- Values without an order that are the same. -/
def isSame : Value → Value → Bool
  | .none, .none => true
  | .module, .module => true
  | .function a x, .function b y => a == b && x == y
  | _, _ => false

def comparison (op : BinaryOp) (left right : Value) : Except EvalCause Value :=
  match op, compareValues? left right with
  | .eq, some order => .ok (.bool (order == .eq))
  | .ne, some order => .ok (.bool (order != .eq))
  | .lt, some order => .ok (.bool (order == .lt))
  | .le, some order => .ok (.bool (order != .gt))
  | .gt, some order => .ok (.bool (order == .gt))
  | .ge, some order => .ok (.bool (order != .lt))
  | .eq, none => .ok (.bool (isSame left right))
  | .ne, none => .ok (.bool (!isSame left right))
  | op, _ => .error (.notOrdered left.typeName op right.typeName)

/-- An operator between two values. The words `not in` are reported as `in`. -/
def binaryValue (op : BinaryOp) (left right : Value) : Except EvalCause Value :=
  match op with
  | .eq | .ne | .lt | .le | .gt | .ge => comparison op left right
  | .notMem => arithmetic .mem left right
  | op => arithmetic op left right

def unaryValue (op : UnaryOp) (operand : Value) : Except EvalCause Value :=
  match op, operand with
  | .negate, value => .ok (.bool (!value.isTrue))
  | .plus, .int x => .ok (.int x)
  | .minus, .int x => .ok (.int (-x))
  | .invert, .int x => .ok (.int (-x - 1))
  | .plus, .float x => .ok (.float x)
  | .minus, .float x => .ok (.float (-x))
  | op, value => .error (.unknownUnary op value.typeName)

end Keystroke.Constant

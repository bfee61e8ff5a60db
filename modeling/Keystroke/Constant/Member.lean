import Keystroke.Constant.Value
import Keystroke.Number.Gamma
import Keystroke.Number.Hyperbolic
import Keystroke.Text.EditDistance
import Keystroke.Text.Lower

/-! The members of the module `math` and calls of its functions. -/
namespace Keystroke.Constant

open Keystroke.Number Keystroke.Text

/-- A member of the module: a number, or a function with the name it has in messages. -/
inductive Member where
  | number (value : Float)
  | unary (label : String) (apply : Float → Float)
  | binary (label : String) (apply : Float → Float → Float)
  | logarithm
  | rounding (label : String) (apply : Float → Float)

/-- The members, in the order of their names. -/
def members : List (String × Member) :=
  [("acos", .unary "acos" arcCosine), ("acosh", .unary "acosh" inverseCosh),
   ("asin", .unary "asin" arcSine), ("asinh", .unary "asinh" inverseSinh),
   ("atan", .unary "atan" arcTangent), ("atan2", .binary "atan2" arcTangentOf),
   ("atanh", .unary "atanh" inverseTanh), ("ceil", .rounding "ceil" Float.ceil),
   ("copysign", .binary "copysign" copySign), ("cos", .unary "cos" cosine),
   ("cosh", .unary "cosh" hyperbolicCosine), ("degrees", .unary "degrees" degrees), ("e", .number e),
   ("exp", .unary "exp" exponential), ("fabs", .unary "fabs" Float.abs),
   ("floor", .rounding "floor" Float.floor), ("gamma", .unary "gamma" gamma),
   ("hypot", .binary "hypot" hypotenuse), ("log", .logarithm), ("mod", .binary "round" mod),
   ("pi", .number pi), ("pow", .binary "pow" power), ("radians", .unary "radians" radians),
   ("remainder", .binary "remainder" remainder), ("round", .unary "round" Float.round),
   ("sin", .unary "sin" sine), ("sinh", .unary "sinh" hyperbolicSine), ("sqrt", .unary "sqrt" Float.sqrt),
   ("tan", .unary "tan" tangent), ("tanh", .unary "tanh" hyperbolicTangent)]

/-- A name as its lower-case bytes without underscores, for comparing names. -/
def nameBytes (name : String) : List Nat :=
  (String.ofList (lower (name.toList.filter (· ≠ '_')))).toUTF8.toList.map UInt8.toNat

/-- The nearest of the given names to another, if less than half of that one has to be changed. Of names
as near the first counts. -/
def nearest? (name : String) (candidates : List String) : Option String :=
  let bytes := nameBytes name
  (candidates.foldl (fun (best : Option String × Nat) candidate =>
    let distance := editDistance bytes (nameBytes candidate)
    if distance < best.2 then (some candidate, distance) else best) (none, (bytes.length + 1) / 2)).1

def memberValue (name : String) : Except EvalCause Value :=
  match members.lookup name with
  | some (.number value) => .ok (.float value)
  | some _ => .ok (.function true name)
  | none => .error (.noMember name (nearest? name (members.map (·.1))))

/-- The arguments of a call once they have values. -/
structure CallArgs where
  plain : List Value := []
  named : Bool := false
  spread : Option Value := none
  spreadNamed : Option Value := none

def argumentFloat (label : String) (position : Nat) : Value → Except EvalCause Float
  | .int n => .ok (intToFloat n)
  | .float x => .ok x
  | other => .error (.argumentType label position other.typeName)

/-- The plain arguments of a function that takes from `low` to `high` of them and none by name. -/
def plainArguments (label : String) (low high : Nat) (args : CallArgs) : Except EvalCause (List Value) :=
  let count := args.plain.length
  if args.named then .error (.namedArguments label)
  else if count < low then
    .error (.argumentCount label count (if low < high then "at least " else "") low)
  else if high < count then
    .error (.argumentCount label count (if low < high then "at most " else "") high)
  else .ok args.plain

/-- The plain arguments as floats, numbered from `position`. -/
def argumentFloats (label : String) (position : Nat) : List Value → Except EvalCause (List Float)
  | [] => .ok []
  | value :: rest =>
    match argumentFloat label position value with
    | .error cause => .error cause
    | .ok x => (argumentFloats label (position + 1) rest).map (x :: ·)

/-- The logarithm to a base, which is not one. -/
def logToBase (x base : Float) : Except EvalCause Value :=
  if base == 1.0 then .error .logarithmBase else .ok (.float (logarithm x / logarithm base))

def Member.call (args : CallArgs) : Member → Except EvalCause Value
  | .number _ => .error (.notCallable "float")
  | .unary label apply => do
    match ← argumentFloats label 1 (← plainArguments label 1 1 args) with
    | [x] => .ok (.float (apply x))
    | _ => .error (.namedArguments label)
  | .binary label apply => do
    match ← argumentFloats label 1 (← plainArguments label 2 2 args) with
    | [x, y] => .ok (.float (apply x y))
    | _ => .error (.namedArguments label)
  | .logarithm => do
    match ← argumentFloats "log" 1 (← plainArguments "log" 1 2 args) with
    | [x, base] => logToBase x base
    | [x] => logToBase x e
    | _ => .error (.namedArguments "log")
  | .rounding label apply => do
    match ← plainArguments label 1 1 args with
    | [.int n] => .ok (.int n)
    | [.float x] => (floatToInt (apply x)).map .int
    | [other] => .error (.wantNumber other.typeName)
    | _ => .error (.namedArguments label)

/-- Calls a member by name. No value can be spread over arguments. -/
def callMember (name : String) (args : CallArgs) : Except EvalCause Value :=
  match args.spreadNamed, args.spread with
  | some value, _ => .error (.notMapping value.typeName)
  | none, some value => .error (.notIterable value.typeName)
  | none, none =>
    match members.lookup name with
    | some member => member.call args
    | none => .error (.noMember name none)

end Keystroke.Constant

import Keystroke.Constant.Member
import Keystroke.Constant.Names
import Keystroke.Constant.Parse
import Keystroke.Number.Display

/-! The value of a constant expression as a numeral. -/
namespace Keystroke.Constant

def nameValue (name : String) : Value :=
  if name = "None" then .none
  else if name = "True" then .bool true
  else if name = "False" then .bool false
  else if name = "math" then .module
  else .function false name

mutual

def Formula.eval : Formula → Except EvalCause Value
  | .int value => .ok (.int value)
  | .float value => .ok (.float value)
  | .name _ text => .ok (nameValue text)
  | .unary op operand =>
    match operand.eval with
    | .error cause => .error cause
    | .ok value => unaryValue op value
  | .binary op left right =>
    match left.eval with
    | .error cause => .error cause
    | .ok first =>
      if op = .conj && !first.isTrue || op = .disj && first.isTrue then .ok first
      else
        match right.eval with
        | .error cause => .error cause
        | .ok second => if op = .conj || op = .disj then .ok second else binaryValue op first second
  | .cond test yes no =>
    match test.eval with
    | .error cause => .error cause
    | .ok value => if value.isTrue then yes.eval else no.eval
  | .member name => memberValue name
  | .call _ function args =>
    match memberValue function with
    | .error cause => .error cause
    | .ok _ =>
      match evalArgs {} args, evalSpread .spread args, evalSpread .spreadNamed args with
      | .error cause, _, _ => .error cause
      | _, .error cause, _ => .error cause
      | _, _, .error cause => .error cause
      | .ok given, .ok spread, .ok spreadNamed =>
        callMember function { given with spread := spread, spreadNamed := spreadNamed }

def evalArgs (given : CallArgs) : List FormulaArg → Except EvalCause CallArgs
  | [] => .ok given
  | .mk form _ value :: rest =>
    match form with
    | .plain =>
      match value.eval with
      | .error cause => .error cause
      | .ok value => evalArgs { given with plain := given.plain ++ [value] } rest
    | .named _ =>
      match value.eval with
      | .error cause => .error cause
      | .ok _ => evalArgs { given with named := true } rest
    | _ => evalArgs given rest

/-- The value of the first argument of some form. -/
def evalSpread (wanted : ArgumentForm) : List FormulaArg → Except EvalCause (Option Value)
  | [] => .ok none
  | .mk form _ value :: rest =>
    if form = wanted then
      match value.eval with
      | .error cause => .error cause
      | .ok value => .ok (some value)
    else evalSpread wanted rest

end

mutual

/-- The steps of working out a formula: one for each operand that is read and for each operator that is
applied. A choice takes one step, or two where the tested value may be the result; the way not taken
takes none. -/
def Formula.steps : Formula → Nat
  | .int _ | .float _ | .name _ _ => 1
  | .unary _ operand => operand.steps + 1
  | .binary op left right =>
    if op = .conj || op = .disj then
      match left.eval with
      | .error _ => left.steps
      | .ok value =>
        if value.isTrue = (op = .disj) then left.steps + 2 else left.steps + 2 + (right.steps + 1)
    else if op = .notMem then left.steps + right.steps + 2
    else left.steps + right.steps + 1
  | .cond test yes no =>
    match test.eval with
    | .error _ => test.steps
    | .ok value => test.steps + 1 + if value.isTrue then yes.steps else no.steps
  | .member _ => 2
  | .call _ _ args => 2 + argSteps args + 1

/-- The steps of working out arguments. A name that is given takes one more. -/
def argSteps : List FormulaArg → Nat
  | [] => 0
  | .mk (.named _) _ value :: rest => value.steps + 1 + argSteps rest
  | .mk _ _ value :: rest => value.steps + argSteps rest

end

/-- The steps after which no more work is done. Handing out the value is a step too. -/
def stepLimit : Nat := 0x10000

/-- The value of a formula that takes fewer steps than the limit. -/
def Formula.value (formula : Formula) : Except EvalCause Value :=
  match formula.eval with
  | .error cause => .error cause
  | .ok value => if formula.steps + 1 < stepLimit then .ok value else .error .tooManySteps

/-- Why an expression does not give a numeral, in the order in which it is found out. -/
inductive Cause where
  | malformed (error : SyntaxError)
  | notConstant
  | unresolved (error : NameError)
  | failed (cause : EvalCause)
  | notNumber
  | notFinite

def Cause.message : Cause → String
  | malformed error => error.message
  | notConstant => "not a constant expression"
  | unresolved error => error.message
  | failed cause => cause.message
  | notNumber => "not a number"
  | notFinite => "not a finite number"

structure Failure where
  expression : String
  cause : Cause

def Failure.message (failure : Failure) : String :=
  "$(" ++ failure.expression ++ ") " ++ failure.cause.message

/-- A number as a numeral. Floats are rounded to the ten digits of the display. -/
def Value.numeral : Value → Except Cause String
  | .int value => .ok (toString value)
  | .float value => if value.isNaN || value.isInf then .error .notFinite else .ok (Number.display value)
  | _ => .error .notNumber

/-- The value of an expression as a numeral, or why there is none. -/
def compute (text : String) : Except Cause String :=
  match parse text with
  | .error error => .error (.malformed error)
  | .ok expr =>
    match expr.toFormula? with
    | none => .error .notConstant
    | some formula =>
      match formula.nameError? with
      | some error => .error (.unresolved error)
      | none =>
        match formula.value with
        | .error cause => .error (.failed cause)
        | .ok value => value.numeral

def evaluate (text : String) : Except Failure String :=
  match compute text with
  | .ok numeral => .ok numeral
  | .error cause => .error ⟨text, cause⟩

end Keystroke.Constant

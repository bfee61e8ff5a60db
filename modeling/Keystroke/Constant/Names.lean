import Keystroke.Constant.Expr

/-! Checks on a formula before it is evaluated: its names are known and the arguments of its calls are in
an order that makes sense. -/
namespace Keystroke.Constant

inductive NameCause where
  | undefined (name : String)
  | noSets
  | repeated (name : String)
  | manySpreadNamed
  | spreadAfterSpreadNamed
  | manySpread
  | namedAfterSpreadNamed
  | namedAfterSpread
  | plainAfterSpread
  | plainAfterSpreadNamed
  | plainAfterNamed
  | tooManyPlain (count : Nat)
  | tooManyNamed (count : Nat)

def NameCause.message : NameCause → String
  | undefined name => "undefined: " ++ name
  | noSets => "this Starlark dialect does not support sets"
  | repeated name => "keyword argument " ++ Text.quote name ++ " is repeated"
  | manySpreadNamed => "multiple **kwargs not allowed"
  | spreadAfterSpreadNamed => "*args may not follow **kwargs"
  | manySpread => "multiple *args not allowed"
  | namedAfterSpreadNamed => "keyword argument may not follow **kwargs"
  | namedAfterSpread => "keyword argument may not follow *args"
  | plainAfterSpread => "positional argument may not follow *args"
  | plainAfterSpreadNamed => "positional argument may not follow **kwargs"
  | plainAfterNamed => "positional argument may not follow named"
  | tooManyPlain count => toString count ++ " positional arguments in call, limit is 255"
  | tooManyNamed count => toString count ++ " keyword arguments in call, limit is 255"

structure NameError where
  place : Place
  cause : NameCause

def NameError.message (error : NameError) : String :=
  error.place.text ++ ": " ++ error.cause.message

/-- The names that stand for functions; they are known, but no formula can call them. -/
def functionNames : List String :=
  ["abs", "all", "any", "bool", "bytes", "chr", "dict", "dir", "enumerate", "fail", "float", "getattr",
   "hasattr", "hash", "int", "len", "list", "max", "min", "ord", "print", "range", "repr", "reversed",
   "sorted", "str", "tuple", "type", "zip"]

def nameCause? (name : String) : Option NameCause :=
  if name = "set" then some .noSets
  else if ["math", "None", "True", "False"].contains name || functionNames.contains name then none
  else some (.undefined name)

structure Seen where
  plain : Nat := 0
  names : List String := []
  named : Nat := 0
  spread : Bool := false
  spreadNamed : Bool := false

/-- What is wrong with an argument of some form after those seen. -/
def Seen.causes (seen : Seen) : ArgumentForm → List NameCause
  | .spreadNamed => if seen.spreadNamed then [.manySpreadNamed] else []
  | .spread =>
    if seen.spreadNamed then [.spreadAfterSpreadNamed]
    else if seen.spread then [.manySpread] else []
  | .named name =>
    (if seen.spreadNamed then [.namedAfterSpreadNamed]
      else if seen.spread then [.namedAfterSpread] else [])
    ++ (if seen.names.contains name then [.repeated name] else [])
  | .plain =>
    if seen.spread then [.plainAfterSpread]
    else if seen.spreadNamed then [.plainAfterSpreadNamed]
    else if seen.names.isEmpty then [] else [.plainAfterNamed]

def Seen.add (seen : Seen) : ArgumentForm → Seen
  | .spreadNamed => { seen with spreadNamed := true }
  | .spread => { seen with spread := true }
  | .named name => { seen with names := name :: seen.names, named := seen.named + 1 }
  | .plain => { seen with plain := seen.plain + 1 }

def Seen.countCauses (seen : Seen) : List NameCause :=
  (if 256 ≤ seen.plain then [.tooManyPlain seen.plain] else [])
    ++ (if 256 ≤ seen.named then [.tooManyNamed seen.named] else [])

mutual

/-- The refused arguments of a formula, from left to right and the condition of a choice first. -/
def Formula.argumentErrors : Formula → List NameError
  | .int _ | .float _ | .name _ _ | .member _ => []
  | .unary _ operand => operand.argumentErrors
  | .binary _ left right => left.argumentErrors ++ right.argumentErrors
  | .cond test yes no => test.argumentErrors ++ yes.argumentErrors ++ no.argumentErrors
  | .call place _ args => callErrors place {} args

/-- The refused arguments of a call that starts at `place`, after those seen. -/
def callErrors (place : Place) (seen : Seen) : List FormulaArg → List NameError
  | [] => seen.countCauses.map (⟨place, ·⟩)
  | .mk form start value :: rest =>
    (seen.causes form).map (⟨start, ·⟩) ++ value.argumentErrors
      ++ callErrors place (seen.add form) rest

end

mutual

/-- The unknown names of a formula, in the same order. -/
def Formula.unknownNames : Formula → List NameError
  | .int _ | .float _ | .member _ => []
  | .name place text => (nameCause? text).toList.map (⟨place, ·⟩)
  | .unary _ operand => operand.unknownNames
  | .binary _ left right => left.unknownNames ++ right.unknownNames
  | .cond test yes no => test.unknownNames ++ yes.unknownNames ++ no.unknownNames
  | .call _ _ args => argsUnknownNames args

def argsUnknownNames : List FormulaArg → List NameError
  | [] => []
  | .mk _ _ value :: rest => value.unknownNames ++ argsUnknownNames rest

end

/-- The first refusal of a formula. Arguments are checked before names. -/
def Formula.nameError? (formula : Formula) : Option NameError :=
  (formula.argumentErrors ++ formula.unknownNames).head?

end Keystroke.Constant

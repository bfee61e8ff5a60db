import Keystroke.Constant.Token

/-! Expressions as they are written, and formulas: the expressions that only do arithmetic on numbers,
with calls into the `math` module. -/
namespace Keystroke.Constant

inductive UnaryOp where
  | plus
  | minus
  | invert
  | negate
deriving DecidableEq

def UnaryOp.text : UnaryOp → String
  | plus => "+"
  | minus => "-"
  | invert => "~"
  | negate => "not"

inductive BinaryOp where
  | disj
  | conj
  | eq
  | ne
  | lt
  | gt
  | le
  | ge
  | mem
  | notMem
  | bitOr
  | bitXor
  | bitAnd
  | shiftLeft
  | shiftRight
  | minus
  | plus
  | times
  | modulo
  | divide
  | floorDivide
deriving DecidableEq

def BinaryOp.text : BinaryOp → String
  | disj => "or"
  | conj => "and"
  | eq => "=="
  | ne => "!="
  | lt => "<"
  | gt => ">"
  | le => "<="
  | ge => ">="
  | mem => "in"
  | notMem => "not in"
  | bitOr => "|"
  | bitXor => "^"
  | bitAnd => "&"
  | shiftLeft => "<<"
  | shiftRight => ">>"
  | minus => "-"
  | plus => "+"
  | times => "*"
  | modulo => "%"
  | divide => "/"
  | floorDivide => "//"

/-- How tightly an operator binds, from 0 to 9. The operator `not` stands at 2. -/
def BinaryOp.level : BinaryOp → Nat
  | disj => 0
  | conj => 1
  | eq | ne | lt | gt | le | ge | mem | notMem => 3
  | bitOr => 4
  | bitXor => 5
  | bitAnd => 6
  | shiftLeft | shiftRight => 7
  | minus | plus => 8
  | times | modulo | divide | floorDivide => 9

def BinaryOp.all : List BinaryOp :=
  [disj, conj, eq, ne, lt, gt, le, ge, mem, notMem, bitOr, bitXor, bitAnd, shiftLeft, shiftRight, minus,
   plus, times, modulo, divide, floorDivide]

inductive ArgumentForm where
  | plain
  | named (name : String)
  | spread
  | spreadNamed
deriving DecidableEq

mutual

/-- An expression. Of lambdas and comprehensions only the expressions inside are kept. -/
inductive Expr where
  | int (value : Int)
  | float (value : Float)
  | string
  | bytes
  | name (place : Place) (text : String)
  | paren (inner : Expr)
  | unary (op : UnaryOp) (operand : Expr)
  | binary (op : BinaryOp) (left right : Expr)
  | cond (test yes no : Expr)
  | dot (object : Expr) (member : String)
  | call (callee : Expr) (args : List Argument)
  | index (object key : Expr)
  | slice (object : Expr) (bounds : List Expr)
  | list (items : List Expr)
  | tuple (items : List Expr)
  | dict (entries : List Expr)
  | lambda (defaults : List Expr) (body : Expr)
  | comprehension (body clauses : List Expr)

/-- An argument of a call: its form, the place where it starts, and its expression. -/
inductive Argument where
  | mk (form : ArgumentForm) (place : Place) (value : Expr)

end

mutual

/-- A constant expression. Members and calls are those of the module `math`. -/
inductive Formula where
  | int (value : Int)
  | float (value : Float)
  | name (place : Place) (text : String)
  | unary (op : UnaryOp) (operand : Formula)
  | binary (op : BinaryOp) (left right : Formula)
  | cond (test yes no : Formula)
  | member (name : String)
  | call (place : Place) (function : String) (args : List FormulaArg)

inductive FormulaArg where
  | mk (form : ArgumentForm) (place : Place) (value : Formula)

end

/-- The place of the bare name of the module of functions. -/
def Expr.mathPlace? : Expr → Option Place
  | .name place text => if text = "math" then some place else none
  | _ => none

mutual

def Expr.toFormula? : Expr → Option Formula
  | .int value => some (.int value)
  | .float value => some (.float value)
  | .name place text => some (.name place text)
  | .paren inner => inner.toFormula?
  | .unary op operand =>
    match operand.toFormula? with
    | some operand => some (.unary op operand)
    | none => none
  | .binary op left right =>
    match left.toFormula?, right.toFormula? with
    | some left, some right => some (.binary op left right)
    | _, _ => none
  | .cond test yes no =>
    match test.toFormula?, yes.toFormula?, no.toFormula? with
    | some test, some yes, some no => some (.cond test yes no)
    | _, _, _ => none
  | .dot object member =>
    match object.mathPlace? with
    | some _ => some (.member member)
    | none => none
  | .call (.dot object member) args =>
    match object.mathPlace?, argsToFormula? args with
    | some place, some args => some (.call place member args)
    | _, _ => none
  | _ => none

def argsToFormula? : List Argument → Option (List FormulaArg)
  | [] => some []
  | .mk form place value :: rest =>
    match value.toFormula?, argsToFormula? rest with
    | some value, some rest => some (.mk form place value :: rest)
    | _, _ => none

end

def Argument.value : Argument → Expr
  | .mk _ _ value => value

namespace Expr

def parts : Expr → List Expr
  | int _ | float _ | string | bytes | name _ _ => []
  | paren inner => [inner]
  | unary _ operand => [operand]
  | binary _ left right => [left, right]
  | cond test yes no => [test, yes, no]
  | dot object _ => [object]
  | call callee args => callee :: args.map Argument.value
  | index object key => [object, key]
  | slice object bounds => object :: bounds
  | list items | tuple items | dict items => items
  | lambda defaults body => defaults ++ [body]
  | comprehension body clauses => body ++ clauses

theorem sizeOf_lt_of_mem_parts {e p : Expr} (h : p ∈ e.parts) : sizeOf p < sizeOf e := by
  cases e with
  | int _ | float _ | string | bytes | name _ _ => cases h
  | paren _ | unary _ _ | binary _ _ _ | cond _ _ _ | dot _ _ | index _ _ =>
    simp only [parts, List.mem_cons, List.not_mem_nil, or_false] at h
    rcases h with rfl | rfl | rfl <;> simp <;> omega
  | call callee args =>
    rw [call.sizeOf_spec]
    rcases List.mem_cons.mp h with rfl | h
    · omega
    · obtain ⟨⟨form, place, value⟩, harg, rfl⟩ := List.mem_map.mp h
      have hlt := List.sizeOf_lt_of_mem harg
      rw [Argument.mk.sizeOf_spec] at hlt
      rw [Argument.value]
      omega
  | slice object bounds =>
    rw [slice.sizeOf_spec]
    rcases List.mem_cons.mp h with rfl | h
    · omega
    · have hlt := List.sizeOf_lt_of_mem h
      omega
  | list items | tuple items | dict items =>
    have hlt : sizeOf p < sizeOf items := List.sizeOf_lt_of_mem h
    simp only [list.sizeOf_spec, tuple.sizeOf_spec, dict.sizeOf_spec]
    omega
  | lambda defaults body =>
    rw [lambda.sizeOf_spec]
    rcases List.mem_append.mp h with h | h
    · have hlt := List.sizeOf_lt_of_mem h
      omega
    · rw [List.mem_singleton.mp h]
      omega
  | comprehension body clauses =>
    rw [comprehension.sizeOf_spec]
    rcases List.mem_append.mp h with h | h
    all_goals
      have hlt := List.sizeOf_lt_of_mem h
      omega

/-- Whether an expression is refused for what it is by itself. -/
def isAdmitted : Expr → Bool
  | int _ | float _ | name _ _ | paren _ | unary _ _ | binary _ _ _ | cond _ _ _ => true
  | dot object _ | call (dot object _) _ => object.mathPlace?.isSome
  | _ => false

/-- Looks at an expression and then at its parts, until one is refused. The result says whether one was, as `refused`
does for those before. -/
def walk (refused : Bool) (e : Expr) : Bool :=
  if refused || !e.isAdmitted then true
  else e.parts.attach.foldl (fun refused p => p.1.walk refused) false
termination_by sizeOf e
decreasing_by exact sizeOf_lt_of_mem_parts p.2

theorem walk_eq (refused : Bool) (e : Expr) : e.walk refused =
    if refused || !e.isAdmitted then true else e.parts.foldl (fun refused p => p.walk refused) false := by
  rw [walk, List.foldl_subtype fun _ _ _ => rfl]
  simp

end Expr

end Keystroke.Constant

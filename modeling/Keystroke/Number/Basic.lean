import Keystroke.Number.Dyadic

/-! Constants, signs, polynomials, and the functions of floating-point numbers that need no series. -/
namespace Keystroke.Number

def pi : Float := 3.14159265358979323846264338327950288

def e : Float := 2.71828182845904523536028747135266250

def infinity : Float := 1.0 / 0.0

def notANumber : Float := 0.0 / 0.0

/-- A float whose sign bit is set, zeros included. -/
def signBit (x : Float) : Bool :=
  Nat.pow 2 63 ≤ x.toBits.toNat

/-- The magnitude of `x` with the sign of `y`. -/
def copySign (x y : Float) : Float :=
  if signBit x == signBit y then x else -x

/-- The product of `x` and `y` and the sum with `z`, rounded once. -/
def mulAdd (x y z : Float) : Float :=
  ((Dyadic.ofFloat x).mulAdd (Dyadic.ofFloat y) (Dyadic.ofFloat z)).toFloat

/-- The value of a polynomial, highest coefficient first. -/
def polynomial (coefficients : List Float) (x : Float) : Float :=
  match coefficients with
  | [] => 0.0
  | first :: rest => rest.foldl (fun value c => value * x + c) first

/-- The whole number nearest to a float; of two as near, the even one. -/
def nearestWhole (x : Float) : Int :=
  let below := (Dyadic.ofFloat x.floor).toInt
  let part := x - x.floor
  if part > 0.5 || (part == 0.5 && below % 2 == 1) then below + 1 else below

/-- The remainder of `x / y` rounded towards zero. -/
def mod (x y : Float) : Float :=
  if y == 0.0 || x.isInf || x.isNaN || y.isNaN then notANumber
  else if y.isInf then x
  else ((Dyadic.ofFloat x).mod (Dyadic.ofFloat y)).toFloat

/-- The remainder of `x / y` rounded to the nearest whole number. -/
def remainder (x y : Float) : Float :=
  if y == 0.0 || x.isInf || x.isNaN || y.isNaN then notANumber
  else if y.isInf then x
  else ((Dyadic.ofFloat x).remainder (Dyadic.ofFloat y)).toFloat

/-- The length of the hypotenuse, scaled by the longer leg so that squares do not overflow. -/
def hypotenuse (x y : Float) : Float :=
  if x.isInf || y.isInf then infinity
  else if x.isNaN || y.isNaN then notANumber
  else
    let long := if x.abs < y.abs then y.abs else x.abs
    let short := if x.abs < y.abs then x.abs else y.abs
    if long == 0.0 then 0.0
    else
      let share := short / long
      long * (1.0 + share * share).sqrt

def degrees (x : Float) : Float :=
  360.0 * x / (2.0 * pi)

def radians (x : Float) : Float :=
  2.0 * pi * x / 360.0

end Keystroke.Number

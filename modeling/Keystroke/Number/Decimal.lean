import Keystroke.Number.Display

/-! Decimal digits and the floats nearest to decimal numbers. -/
namespace Keystroke.Number

def decimalValue (digits : List Char) : Nat :=
  digits.foldl (fun value c => 10 * value + (c.toNat - 48)) 0

/-- The float nearest to mantissa · 10 ^ power, if there is one. -/
def nearestFloat? (mantissa : Nat) (power : Int) : Option Float :=
  let top : Int := digitCount mantissa + power
  if mantissa = 0 || top < -400 then some 0.0
  else if 400 < top then none
  else
    let value := Float.ofScientific mantissa (power < 0) power.natAbs
    if value.isInf then none else some value

end Keystroke.Number

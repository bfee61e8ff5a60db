import Keystroke.Number.Exponential

/-! Powers: the whole part of an exponent by repeated squaring, the rest by the exponential. -/
namespace Keystroke.Number

def isOdd (x : Float) : Bool :=
  x.floor == x && x.abs < 9007199254740992.0 && (Dyadic.ofFloat x).toInt % 2 == 1

/-- Repeated squaring of the fraction `base`, with the powers of two kept apart: multiplies `total` by
base ^ power. Stops once the power of two leaves the range of floats. -/
def powerLoop : Nat → Nat → Float → Int → Float → Int → Float × Int
  | 0, _, _, _, total, scale => (total, scale)
  | fuel + 1, power, base, baseScale, total, scale =>
    if power = 0 then (total, scale)
    else if baseScale < -4096 || 4096 < baseScale then (total, scale + baseScale)
    else
      let odd := power % 2 == 1
      let total := if odd then total * base else total
      let scale := if odd then scale + baseScale else scale
      let square := base * base
      if square < 0.5 then powerLoop fuel (power / 2) (square + square) (2 * baseScale - 1) total scale
      else powerLoop fuel (power / 2) square (2 * baseScale) total scale

/-- The power of a number that is neither zero nor infinite: the fractional part of the exponent goes
through the exponential, the whole part through squaring. -/
def powerFinite (x y : Float) : Float :=
  let size := y.abs
  let whole := size.floor
  let part := size - whole
  if part != 0.0 && x < 0.0 then notANumber
  else if whole >= 9223372036854775808.0 then
    if x == -1.0 then 1.0 else if (x.abs < 1.0) == (y > 0.0) then 0.0 else infinity
  else
    let up := part > 0.5
    let count := (Dyadic.ofFloat whole).toInt.toNat + (if up then 1 else 0)
    let start :=
      if part == 0.0 then 1.0 else exponential ((if up then part - 1.0 else part) * logarithm x)
    let (fraction, scale) := x.frExp
    let (total, power) := powerLoop 64 count fraction scale start 0
    if y < 0.0 then (1.0 / total).scaleB (-power) else total.scaleB power

def power (x y : Float) : Float :=
  if y == 0.0 || x == 1.0 then 1.0
  else if y == 1.0 then x
  else if x.isNaN || y.isNaN then notANumber
  else if x == 0.0 then
    if y < 0.0 then if signBit x && isOdd y then -infinity else infinity
    else if signBit x && isOdd y then x else 0.0
  else if y.isInf then
    if x == -1.0 then 1.0 else if (x.abs < 1.0) == (y > 0.0) then 0.0 else infinity
  else if x.isInf then
    if x < 0.0 then
      if y < 0.0 then if isOdd y then -0.0 else 0.0
      else if isOdd y then -infinity else infinity
    else if y < 0.0 then 0.0 else infinity
  else if y == 0.5 then x.sqrt
  else if y == -0.5 then 1.0 / x.sqrt
  else powerFinite x y

end Keystroke.Number

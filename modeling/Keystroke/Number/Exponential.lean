import Keystroke.Number.Basic

/-! The exponential and the logarithm. The order of the operations is part of each definition, as it
decides the last digit. -/
namespace Keystroke.Number

/-- The coefficients of the exponential series, the highest first. -/
def exponentialSeries : List Float :=
  [2.4801587301587301587e-5, 1.9841269841269841270e-4, 1.3888888888888888889e-3,
   8.3333333333333333333e-3, 4.1666666666666666667e-2, 1.6666666666666666667e-1, 0.5, 1.0]

/-- From the exponential of `x`, less one, to that of `2 * x`. -/
def doubled (grown : Float) : Float :=
  grown * (grown + 2.0)

/-- The exponential of a number of moderate size: the nearest multiple of the logarithm of two, which is
subtracted in two parts, becomes a power of two, and the series is taken at a sixteenth of the rest. -/
def exponentialFinite (x : Float) : Float :=
  let power := nearestWhole (x * 1.4426950408889634073599246810018920)
  let count := Float.ofInt power
  let rest := mulAdd (-0.69314718055966295651160180568695068359375) count x
  let rest := mulAdd (-0.28235290563031577122588448175013436025525412068e-12) count rest
  let rest := rest * 0.0625
  let series := match exponentialSeries with
    | [] => 0.0
    | first :: others => others.foldl (fun value c => mulAdd value rest c) first
  let grown := doubled (doubled (doubled (rest * series)))
  if power < -1075 then 0.0 else (mulAdd grown (grown + 2.0) 1.0).scaleB power

def exponential (x : Float) : Float :=
  if x.isNaN then x
  else if x > 7.09782712893384e+02 then infinity
  else if x < -1e9 then 0.0
  else exponentialFinite x

/-- The logarithm of two in two parts, the first of which has zeros at its end. -/
def logTwoHigh : Float := 6.93147180369123816490e-01
def logTwoLow : Float := 1.90821492927058770002e-10

/-- The coefficients of the logarithm's series in even and in odd places, the highest first. -/
def logarithmEven : List Float :=
  [1.531383769920937332e-01, 2.222219843214978396e-01, 3.999999999940941908e-01]
def logarithmOdd : List Float :=
  [1.479819860511658591e-01, 1.818357216161805012e-01, 2.857142874366239149e-01,
   6.666666666666735130e-01]

/-- The natural logarithm: the power of two apart, and a series for the fraction, which is brought next
to one. -/
def logarithm (x : Float) : Float :=
  if x.isNaN || x < 0.0 then notANumber
  else if x == 0.0 then -infinity
  else if x.isInf then x
  else
    let (fraction, power) := x.frExp
    let isLow := fraction < 0.70710678118654752440
    let f := (if isLow then 2.0 * fraction else fraction) - 1.0
    let k := Float.ofInt (if isLow then power - 1 else power)
    let s := f / (2.0 + f)
    let s2 := s * s
    let s4 := s2 * s2
    let series := s2 * polynomial logarithmOdd s4 + s4 * polynomial logarithmEven s4
    let half := 0.5 * f * f
    k * logTwoHigh - ((half - (s * (half + series) + k * logTwoLow)) - f)

/-- The coefficients of the series for the logarithm of a number next to one, the highest first. -/
def logarithmSeries : List Float :=
  [1.479819860511658591e-01, 1.531383769920937332e-01, 1.818357216161805012e-01,
   2.222219843214978396e-01, 2.857142874366239149e-01, 3.999999999940941908e-01,
   6.666666666666735130e-01]

/-- The logarithm of `(1 + f) * 2 ^ power`, given with a correction. `isShort` says that `f` is so small
that its square counts only once. -/
def logarithmSplit (f : Float) (power : Int) (correction : Float) (isShort : Bool) : Float :=
  let k := Float.ofInt power
  let half := 0.5 * f * f
  if isShort then
    if f == 0.0 then if power = 0 then 0.0 else k * logTwoHigh + (correction + k * logTwoLow)
    else
      let r := half * (1.0 - 0.66666666666666666 * f)
      if power = 0 then f - r else k * logTwoHigh - ((r - (k * logTwoLow + correction)) - f)
  else
    let s := f / (2.0 + f)
    let z := s * s
    let r := z * polynomial logarithmSeries z
    if power = 0 then f - (half - s * (half + r))
    else k * logTwoHigh - ((half - (s * (half + r) + (k * logTwoLow + correction))) - f)

/-- The logarithm of `1 + x` for an `x` that is not next to zero. What is lost in the sum is made up for
by a correction. -/
def logarithmOfSum (x : Float) : Float :=
  let isLarge := x.abs >= 9007199254740992.0
  let sum := if isLarge then x else 1.0 + x
  let bits := sum.toBits.toNat
  let power : Int := (bits / Nat.pow 2 52 : Nat) - 1023
  let correction :=
    if isLarge then 0.0
    else (if power > 0 then 1.0 - (sum - x) else x - (sum - 1.0)) / sum
  let fraction := bits % Nat.pow 2 52
  if fraction < 0x0006A09E667F3BCD then
    let f := Float.ofBits (0x3FF0000000000000 + fraction).toUInt64 - 1.0
    logarithmSplit f power correction (fraction == 0)
  else
    let f := Float.ofBits (0x3FE0000000000000 + fraction).toUInt64 - 1.0
    logarithmSplit f (power + 1) correction ((Nat.pow 2 52 - fraction) / 4 == 0)

/-- The logarithm of `1 + x`, exact also where the sum is not. -/
def logarithmPlusOne (x : Float) : Float :=
  if x.isNaN || x < -1.0 then notANumber
  else if x == -1.0 then -infinity
  else if x.isInf then infinity
  else if x.abs < 1.0 / 18014398509481984.0 then x
  else if x.abs < 1.0 / 536870912.0 then x - x * x * 0.5
  else if x > -2.928932188134524755992e-01 && x < 4.142135623730950488017e-01 then
    logarithmSplit x 0 0.0 false
  else logarithmOfSum x

end Keystroke.Number

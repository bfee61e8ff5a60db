import Keystroke.Number.Power
import Keystroke.Number.Trigonometric

/-! The gamma function. -/
namespace Keystroke.Number

/-- The gamma function between two and three is the quotient of these polynomials at `x - 2`. -/
def gammaTop : List Float :=
  [1.60119522476751861407e-04, 1.19135147006586384913e-03, 1.04213797561761569935e-02,
   4.76367800457137231464e-02, 2.07448227648435975150e-01, 4.94214826801497100753e-01,
   9.99999999999999996796e-01]

def gammaBottom : List Float :=
  [-2.31581873324120129819e-05, 5.39605580493303397842e-04, -4.45641913851797240494e-03,
   1.18139785222060435552e-02, 3.58236398605498653373e-02, -2.34591795718243348568e-01,
   7.14304917030273074085e-02, 1.00000000000000000320e+00]

/-- Correction of the asymptotic series in powers of `1 / x`. -/
def gammaSeries : List Float :=
  [7.87311395793093628397e-04, -2.29549961613378126380e-04, -2.68132617805781232825e-03,
   3.47222221605458667310e-03, 8.33333333333482257126e-02]

/-- Two factors of the gamma function of a large number, apart so that neither overflows early. -/
def stirling (x : Float) : Float × Float :=
  if x > 200.0 then (infinity, 1.0)
  else
    let w := 1.0 / x
    let correction := 1.0 + w * polynomial gammaSeries w
    let rootTwoPi := 2.506628274631000502417
    let grown := exponential x
    if x > 143.01608 then
      let half := power x (0.5 * x - 0.25)
      (half, rootTwoPi * correction * (half / grown))
    else (power x (x - 0.5) / grown, rootTwoPi * correction * 1.0)

/-- Brings a number down below three; the factor gathers what was taken off. -/
def lowerArgument : Nat → Float → Float → Float × Float
  | 0, x, z => (x, z)
  | fuel + 1, x, z => if x >= 3.0 then lowerArgument fuel (x - 1.0) (z * (x - 1.0)) else (x, z)

/-- Near zero the gamma function is taken from its pole. -/
def nearPole (x z : Float) : Float :=
  if x == 0.0 then infinity else z / ((1.0 + 0.57721566490153286060651209008240243 * x) * x)

/-- The gamma function below three: moves the argument up to at least two. -/
def gammaBelow : Nat → Float → Float → Float
  | 0, _, _ => notANumber
  | fuel + 1, x, z =>
    if x < 0.0 then
      if x > -1e-9 then nearPole x z else gammaBelow fuel (x + 1.0) (z / x)
    else if x < 2.0 then
      if x < 1e-9 then nearPole x z else gammaBelow fuel (x + 1.0) (z / x)
    else if x == 2.0 then z
    else z * polynomial gammaTop (x - 2.0) / polynomial gammaBottom (x - 2.0)

/-- The gamma function of a large negative number, by reflection. -/
def gammaReflected (x : Float) : Float :=
  let size := x.abs
  let whole := size.floor
  let sign := if (Dyadic.ofFloat whole).toInt % 2 == 0 then -1.0 else 1.0
  let part := size - whole
  let part := if part > 0.5 then size - (whole + 1.0) else part
  let z := size * sine (pi * part)
  if z == 0.0 then sign * infinity
  else
    let (a, b) := stirling size
    let product := z.abs * a * b
    sign * (if product.isInf then pi / z.abs / a / b else pi / product)

def gamma (x : Float) : Float :=
  if x.isNaN || (x < 0.0 && (x.isInf || x.floor == x)) then notANumber
  else if x.isInf then infinity
  else if x == 0.0 then if signBit x then -infinity else infinity
  else if x.abs > 33.0 then
    if x > 0.0 then (stirling x).1 * (stirling x).2 else gammaReflected x
  else
    let (low, z) := lowerArgument 40 x 1.0
    gammaBelow 40 low z

end Keystroke.Number

import Keystroke.Number.Exponential

/-! The hyperbolic functions by the exponential, and their inverses by the logarithm. -/
namespace Keystroke.Number

/-- Numerator and denominator of the hyperbolic sine of a small number. -/
def sinhTop : List Float :=
  [-0.2630563213397497062819489e+2, -0.2894211355989563807284660366e+4,
   -0.8991272022039509355398013511e+5, -0.6307673640497716991184787251e+6]
def sinhBottom : List Float :=
  [1.0, -0.173678953558233699533450911e+3, 0.1521517378790019070696485176e+5,
   -0.6307673640497716991212077277e+6]

/-- The hyperbolic sine. Beyond 21 the falling exponential no longer counts. -/
def hyperbolicSine (x : Float) : Float :=
  let size := if x < 0.0 then -x else x
  let value :=
    if size > 21.0 then exponential size * 0.5
    else if size > 0.5 then
      let grown := exponential size
      (grown - 1.0 / grown) * 0.5
    else
      let square := size * size
      polynomial sinhTop square * size / polynomial sinhBottom square
  if x < 0.0 then -value else value

/-- The hyperbolic cosine. Beyond 21 the falling exponential no longer counts. -/
def hyperbolicCosine (x : Float) : Float :=
  let size := x.abs
  if size > 21.0 then exponential size * 0.5
  else
    let grown := exponential size
    (grown + 1.0 / grown) * 0.5

/-- Numerator and denominator of the hyperbolic tangent of a small number. -/
def tanhTop : List Float :=
  [-9.64399179425052238628e-1, -9.92877231001918586564e1, -1.61468768441708447952e3]
def tanhBottom : List Float :=
  [1.0, 1.12811678491632931402e2, 2.23548839060100448583e3, 4.84406305325125486048e3]

/-- The hyperbolic tangent. Beyond 44 it is one. -/
def hyperbolicTangent (x : Float) : Float :=
  let size := x.abs
  if size > 0.5 * 8.8029691931113054295988e+01 then if x < 0.0 then -1.0 else 1.0
  else if size >= 0.625 then
    let value := 1.0 - 2.0 / (exponential (2.0 * size) + 1.0)
    if x < 0.0 then -value else value
  else if x == 0.0 then x
  else
    let square := x * x
    x + x * square * polynomial tanhTop square / polynomial tanhBottom square

def logTwo : Float := 6.93147180559945286227e-01

/-- The bound beyond which one added to a square does not count. -/
def largeArgument : Float := 268435456.0

def inverseSinh (x : Float) : Float :=
  if x.isNaN || x.isInf then x
  else
    let size := if x < 0.0 then -x else x
    let value :=
      if size > largeArgument then logarithm size + logTwo
      else if size > 2.0 then logarithm (2.0 * size + 1.0 / ((size * size + 1.0).sqrt + size))
      else if size < 1.0 / largeArgument then size
      else logarithmPlusOne (size + size * size / (1.0 + (1.0 + size * size).sqrt))
    if x < 0.0 then -value else value

def inverseCosh (x : Float) : Float :=
  if x < 1.0 || x.isNaN then notANumber
  else if x == 1.0 then 0.0
  else if x >= largeArgument then logarithm x + logTwo
  else if x > 2.0 then logarithm (2.0 * x - 1.0 / (x + (x * x - 1.0).sqrt))
  else
    let t := x - 1.0
    logarithmPlusOne (t + (2.0 * t + t * t).sqrt)

def inverseTanh (x : Float) : Float :=
  if x < -1.0 || x > 1.0 || x.isNaN then notANumber
  else if x == 1.0 then infinity
  else if x == -1.0 then -infinity
  else
    let size := if x < 0.0 then -x else x
    let value :=
      if size < 1.0 / largeArgument then size
      else if size < 0.5 then
        let twice := size + size
        0.5 * logarithmPlusOne (twice + twice * size / (1.0 - size))
      else 0.5 * logarithmPlusOne ((size + size) / (1.0 - size))
    if x < 0.0 then -value else value

end Keystroke.Number

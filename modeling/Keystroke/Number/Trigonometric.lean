import Keystroke.Number.Basic

/-! The circular functions and their inverses. An angle is brought to the nearest even multiple of an
eighth turn, and a polynomial is taken at the rest. -/
namespace Keystroke.Number

/-- The quotient of four and pi in digits of 64 bits, the whole part first. -/
def eighthTurns : List Nat :=
  [0x0000000000000001, 0x45F306DC9C882A53, 0xF84EAFA3EA69BB81, 0xB6C52B3278872083,
   0xFCA2C757BD778AC3, 0x6E48DC74849BA5C0, 0x0C925DD413A32439, 0xFC3BD63962534E7D,
   0xD1046BEA5D768909, 0xD338E04D68BEFC82, 0x7323AC7306A673E9, 0x3908BF177BF25076,
   0x3FF12FFFBC0B301F, 0xDE5E2316B414DA3E, 0xDA6CFD9E4F96136E, 0x9E8C7ECD3CBFD45A,
   0xEA4F758FD7CBE2F6, 0x7A0E73EF14A525D4, 0xD7F6BF623F1ABA10, 0xAC06608DF8F6D757]

/-- An angle as a number of eighth turns, which is even, and the rest in radians. -/
structure Angle where
  octant : Nat
  rest : Float

/-- A large angle, multiplied by the digits of the quotient that count. The octant comes from the top three
bits of the product, and the rest from the bits after them. -/
def reduceLarge (x : Float) : Angle :=
  let bits := x.toBits.toNat
  let mantissa := Nat.pow 2 52 + bits % Nat.pow 2 52
  let quotient := eighthTurns.foldl (fun value digit => value * Nat.pow 2 64 + digit) 0
  let window := quotient / Nat.pow 2 (2102 - bits / Nat.pow 2 52) % Nat.pow 2 192
  let product := window * mantissa / Nat.pow 2 64 % Nat.pow 2 128
  let octant := product / Nat.pow 2 125
  let high := product / Nat.pow 2 61 % Nat.pow 2 64
  let low := product % Nat.pow 2 64
  let zeros := 63 - Nat.log2 high
  let shifted := high * Nat.pow 2 (zeros + 1) % Nat.pow 2 64
  let fraction := (shifted ||| low / Nat.pow 2 (63 - zeros)) / Nat.pow 2 12
  let part := Float.ofBits ((1022 - zeros) * Nat.pow 2 52 + fraction).toUInt64
  if octant % 2 = 1 then ⟨(octant + 1) % 8, (part - 1.0) * (pi / 4.0)⟩
  else ⟨octant, part * (pi / 4.0)⟩

/-- An angle that is not large: the eighth turns are subtracted in three parts. -/
def reduceSmall (x : Float) : Angle :=
  let count := (x * 1.2732395447351628).toUInt64.toNat
  let even := if count % 2 = 1 then count + 1 else count
  let y := Float.ofNat even
  { octant := even % 8
    rest := ((x - y * 7.85398125648498535156e-1) - y * 3.77489470793079817668e-8)
      - y * 2.69515142907905952645e-15 }

def reduceAngle (x : Float) : Angle :=
  if x >= 536870912.0 then reduceLarge x else reduceSmall x

/-- The coefficients of the sine and of the cosine after their first terms. -/
def sineSeries : List Float :=
  [1.58962301576546568060e-10, -2.50507477628578072866e-8, 2.75573136213857245213e-6,
   -1.98412698295895385996e-4, 8.33333333332211858878e-3, -1.66666666666666307295e-1]
def cosineSeries : List Float :=
  [-1.13585365213876817300e-11, 2.08757008419747316778e-9, -2.75573141792967388112e-7,
   2.48015872888517045348e-5, -1.38888888888730564116e-3, 4.16666666666665929218e-2]

def sineNear (z : Float) : Float :=
  z + z * (z * z) * polynomial sineSeries (z * z)

def cosineNear (z : Float) : Float :=
  1.0 - 0.5 * (z * z) + z * z * (z * z) * polynomial cosineSeries (z * z)

def sine (x : Float) : Float :=
  if x == 0.0 || x.isNaN then x
  else if x.isInf then notANumber
  else
    let angle := reduceAngle x.abs
    let value := if angle.octant % 4 = 2 then cosineNear angle.rest else sineNear angle.rest
    if (x < 0.0) != (angle.octant > 3) then -value else value

def cosine (x : Float) : Float :=
  if x.isInf || x.isNaN then notANumber
  else
    let angle := reduceAngle x.abs
    let value := if angle.octant % 4 = 2 then sineNear angle.rest else cosineNear angle.rest
    if (angle.octant > 3) != (angle.octant % 4 > 1) then -value else value

/-- Numerator and denominator of the tangent of a small angle. -/
def tangentTop : List Float :=
  [-1.30936939181383734205e4, 1.15351664838587416140e6, -1.79565251976484877988e7]
def tangentBottom : List Float :=
  [1.0, 1.36812963470692954678e4, -1.32089234440210967447e6, 2.50083801823357915839e7,
   -5.38695755929454629881e7]

def tangent (x : Float) : Float :=
  if x == 0.0 || x.isNaN then x
  else if x.isInf then notANumber
  else
    let angle := reduceAngle x.abs
    let z := angle.rest
    let square := z * z
    let near :=
      if square > 1e-14 then
        z + z * (square * polynomial tangentTop square / polynomial tangentBottom square)
      else z
    let value := if angle.octant % 4 = 2 then -1.0 / near else near
    if x < 0.0 then -value else value

/-- Numerator and denominator of the arc tangent of a small number. -/
def arcTop : List Float :=
  [-8.750608600031904122785e-01, -1.615753718733365076637e+01, -7.500855792314704667340e+01,
   -1.228866684490136173410e+02, -6.485021904942025371773e+01]
def arcBottom : List Float :=
  [1.0, 2.485846490142306297962e+01, 1.650270098316988542046e+02, 4.328810604912902668951e+02,
   4.853903996359136964868e+02, 1.945506571482613964425e+02]

def arcTangentNear (x : Float) : Float :=
  let z := x * x
  x * (z * polynomial arcTop z / polynomial arcBottom z) + x

/-- What a quarter turn has more than its float. -/
def quarterTurnLow : Float := 6.123233995736765886130e-17

/-- The arc tangent of a number that is not negative, from the nearest of no, an eighth and a quarter
turn. -/
def arcTangentPositive (x : Float) : Float :=
  if x <= 0.66 then arcTangentNear x
  else if x > 2.41421356237309504880 then pi / 2.0 - arcTangentNear (1.0 / x) + quarterTurnLow
  else pi / 4.0 + arcTangentNear ((x - 1.0) / (x + 1.0)) + 0.5 * quarterTurnLow

def arcTangent (x : Float) : Float :=
  if x == 0.0 then x else if x > 0.0 then arcTangentPositive x else -(arcTangentPositive (-x))

def arcTangentOf (y x : Float) : Float :=
  if x.isNaN || y.isNaN then notANumber
  else if y == 0.0 then copySign (if signBit x then pi else 0.0) y
  else if x == 0.0 then copySign (pi / 2.0) y
  else if x.isInf then
    if y.isInf then copySign (if x > 0.0 then pi / 4.0 else 2.3561944901923448) y
    else copySign (if x > 0.0 then 0.0 else pi) y
  else if y.isInf then copySign (pi / 2.0) y
  else
    let angle := arcTangent (y / x)
    if x < 0.0 then if angle <= 0.0 then angle + pi else angle - pi else angle

/-- The arc sine by the arc tangent, from the other leg for large arguments. -/
def arcSine (x : Float) : Float :=
  if x == 0.0 then x
  else
    let size := x.abs
    if size > 1.0 then notANumber
    else
      let leg := (1.0 - size * size).sqrt
      let angle :=
        if size > 0.7 then pi / 2.0 - arcTangentPositive (leg / size) else arcTangentPositive (size / leg)
      if x < 0.0 then -angle else angle

/-- The arc cosine, the complement of the arc sine. -/
def arcCosine (x : Float) : Float :=
  pi / 2.0 - arcSine x

end Keystroke.Number

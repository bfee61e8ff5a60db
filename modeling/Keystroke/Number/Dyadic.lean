/-! Floating-point numbers as exact multiples of powers of two, and the operations that need no
rounding on them. -/
namespace Keystroke.Number

/-- The number ± mantissa · 2 ^ exponent. -/
structure Dyadic where
  negative : Bool
  mantissa : Nat
  exponent : Int

namespace Dyadic

/-- The value of a finite float, read off its bits. Zeros keep their sign. -/
def ofFloat (x : Float) : Dyadic :=
  let bits := x.toBits.toNat
  let fraction : Nat := bits % Nat.pow 2 52
  let scale : Nat := bits / Nat.pow 2 52 % Nat.pow 2 11
  { negative := Nat.pow 2 63 ≤ bits
    mantissa := if scale = 0 then fraction else Nat.pow 2 52 + fraction
    exponent := (if scale = 0 then 1 else (scale : Int)) - 1075 }

/-- The float nearest to a number that is not tiny. Of a long mantissa the first bits are kept, and one more
to say whether others follow. -/
def toFloat (d : Dyadic) : Float :=
  let extra := Nat.log2 d.mantissa - 62
  let first := d.mantissa / Nat.pow 2 extra
  let kept := if d.mantissa % Nat.pow 2 extra = 0 then first else first ||| 1
  let size := Float.scaleB (Float.ofNat kept) (d.exponent + extra)
  if d.negative then -size else size

/-- The mantissa of the same number with a lower exponent. -/
def mantissaAt (d : Dyadic) (exponent : Int) : Nat :=
  d.mantissa * Nat.pow 2 (d.exponent - exponent).toNat

def ratio (d : Dyadic) : Nat × Nat :=
  (d.mantissa * Nat.pow 2 d.exponent.toNat, Nat.pow 2 (-d.exponent).toNat)

/-- The whole number below a number that is whole, or next to it towards zero. -/
def toInt (d : Dyadic) : Int :=
  let size : Int := (d.ratio.1 / d.ratio.2 : Nat)
  if d.negative then -size else size

def compareInt (n : Int) (d : Dyadic) : Ordering :=
  let top : Int := if d.negative then -(d.ratio.1 : Int) else d.ratio.1
  compare (n * d.ratio.2) top

def mulAdd (x y z : Dyadic) : Dyadic :=
  let signed (negative : Bool) (size : Nat) : Int := if negative then -size else size
  let product : Dyadic := ⟨x.negative != y.negative, x.mantissa * y.mantissa, x.exponent + y.exponent⟩
  let exponent := min product.exponent z.exponent
  let sum := signed product.negative (product.mantissaAt exponent)
    + signed z.negative (z.mantissaAt exponent)
  ⟨sum < 0, sum.natAbs, exponent⟩

/-- The remainder of the division that rounds towards zero. It has the sign of `x`. -/
def mod (x y : Dyadic) : Dyadic :=
  let exponent := min x.exponent y.exponent
  { negative := x.negative
    mantissa := x.mantissaAt exponent % y.mantissaAt exponent
    exponent := exponent }

/-- The remainder of the division that rounds to the nearest whole number, and to the even one of two
that are as near. A zero has the sign of `x`. -/
def remainder (x y : Dyadic) : Dyadic :=
  let exponent := min x.exponent y.exponent
  let a := x.mantissaAt exponent
  let b := y.mantissaAt exponent
  let rest := a % b
  if b < 2 * rest || (2 * rest == b && a / b % 2 == 1) then
    { negative := !x.negative, mantissa := b - rest, exponent := exponent }
  else { negative := x.negative, mantissa := rest, exponent := exponent }

end Dyadic

end Keystroke.Number

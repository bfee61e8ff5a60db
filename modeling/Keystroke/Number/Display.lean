import Keystroke.Number.Dyadic

/-! The text of a float on a display of ten significant digits. -/
namespace Keystroke.Number

/-- A quotient rounded to the nearest whole number; of two as near, the even one. -/
def roundDiv (num den : Nat) : Nat :=
  let whole := num / den
  let rest := num % den
  if den < 2 * rest || (2 * rest == den && whole % 2 == 1) then whole + 1 else whole

/-- The decimal digits of a number, without leading zeros. -/
def digitCount (n : Nat) : Nat :=
  (Nat.toDigits 10 n).length

/-- The power of ten of the first significant digit of a positive quotient. -/
def leadingPower (num den : Nat) : Int :=
  if den ≤ num then (digitCount (num / den) : Int) - 1
  else -(digitCount ((den - 1) / num) : Int)

def displayDigits : Nat := 10

/-- Rounds a positive quotient to the digits shown: gives them as a whole number and the power of ten
of the first. -/
def roundDisplay (num den : Nat) : Nat × Int :=
  let power := leadingPower num den
  let shift := (displayDigits : Int) - 1 - power
  let digits := roundDiv (num * Nat.pow 10 shift.toNat) (den * Nat.pow 10 (-shift).toNat)
  if digits = Nat.pow 10 displayDigits then (digits / 10, power + 1) else (digits, power)

def stripZeros (digits : List Char) : List Char :=
  (digits.reverse.dropWhile (· == '0')).reverse

/-- A fraction with its point, or nothing if no digit follows it. -/
def pointed (fraction : List Char) : List Char :=
  if fraction.isEmpty then [] else '.' :: fraction

/-- Writes digits whose first one has the given power of ten. Powers from -4 to 9 are written out, others
after the letter E with a sign and at least two digits. -/
def layout (digits : List Char) (power : Int) : List Char :=
  if power < -4 || (displayDigits : Int) ≤ power then
    let exponent := Nat.toDigits 10 power.natAbs
    digits.take 1 ++ pointed (digits.drop 1) ++ ['E', if power < 0 then '-' else '+']
      ++ (if exponent.length < 2 then '0' :: exponent else exponent)
  else if power < 0 then
    '0' :: pointed (List.replicate (power.natAbs - 1) '0' ++ digits)
  else
    let size := power.toNat + 1
    digits.take size ++ List.replicate (size - digits.length) '0' ++ pointed (digits.drop size)

/-- The text of a finite float, ten significant digits without trailing zeros. -/
def display (x : Float) : String :=
  let d := Dyadic.ofFloat x
  let size :=
    if d.mantissa = 0 then ['0']
    else
      let (digits, power) := roundDisplay d.ratio.1 d.ratio.2
      layout (stripZeros (Nat.toDigits 10 digits)) power
  String.ofList (if d.negative then '-' :: size else size)

end Keystroke.Number

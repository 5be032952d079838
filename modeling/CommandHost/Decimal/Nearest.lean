/-!
# The floating-point number nearest to a decimal

A decimal `digits · 10 ^ exponent` is rounded to the nearest 64-bit
floating-point number, a tie going to the even significand. Decimals too large
for a finite number become infinite, decimals too small become zero. All
arithmetic is done in natural numbers, so no step rounds but the last one.
-/

namespace CommandHost.Decimal

/-- The power of two of an exponent. -/
def twoTo (exponent : Nat) : Nat := Nat.pow 2 exponent

/-- The power of ten of an exponent. -/
def tenTo (exponent : Nat) : Nat := Nat.pow 10 exponent

/-- The quotient of two natural numbers rounded to the nearest one, a tie going
to the even neighbour. -/
def roundDiv (numerator denominator : Nat) : Nat :=
  let quotient := numerator / denominator
  let twice := 2 * (numerator % denominator)
  if twice < denominator then quotient
  else if denominator < twice then quotient + 1
  else if quotient % 2 = 0 then quotient
  else quotient + 1

/-- The fraction `numerator / (denominator · 2 ^ power)` as a fraction of natural numbers. -/
def scaleDown (numerator denominator : Nat) (power : Int) : Nat × Nat :=
  if power < 0 then (numerator * twoTo (-power).toNat, denominator)
  else (numerator, denominator * twoTo power.toNat)

/-- The least binary exponent of a significand. -/
def leastPower : Int := -1074

/-- The significand and binary exponent of the floating-point number nearest to a
positive fraction; `none` if it is too large for a finite number. -/
def nearestBinary? (numerator denominator : Nat) : Option (Nat × Int) :=
  -- the guess is at most one below the exponent that gives 53 binary digits
  let guess : Int := (Nat.log2 numerator : Int) - (Nat.log2 denominator : Int) - 53
  let first := scaleDown numerator denominator guess
  let exact := if first.1 / first.2 < twoTo 53 then guess else guess + 1
  let power := if exact < leastPower then leastPower else exact
  let scaled := scaleDown numerator denominator power
  let significand := roundDiv scaled.1 scaled.2
  let (significand, power) :=
    if significand = twoTo 53 then (twoTo 52, power + 1) else (significand, power)
  if 971 < power then none else some (significand, power)

/-- The bit pattern of a non-negative floating-point number. -/
def bitsOf (significand : Nat) (power : Int) : Nat :=
  if significand < twoTo 52 then significand
  else (power - leastPower + 1).toNat * twoTo 52 + (significand - twoTo 52)

/-- The number of decimal digits of a natural number. -/
def digitCount (number : Nat) : Nat := (Nat.toDigits 10 number).length

/-- The floating-point number nearest to `digits · 10 ^ exponent`. -/
def nearest (negative : Bool) (digits : Nat) (exponent : Int) : Float :=
  let sign : Nat := if negative then twoTo 63 else 0
  let magnitude : Nat :=
    if digits = 0 then 0
    else
      let size := (digitCount digits : Int) + exponent
      if 310 < size then 0x7FF0000000000000
      else if size < -330 then 0
      else
        let (numerator, denominator) :=
          if exponent < 0 then (digits, tenTo (-exponent).toNat)
          else (digits * tenTo exponent.toNat, 1)
        match nearestBinary? numerator denominator with
        | none => 0x7FF0000000000000
        | some (significand, power) => bitsOf significand power
  Float.ofBits (UInt64.ofNat (sign + magnitude))

/-- The positive infinite number. -/
def infinity : Float := Float.ofBits 0x7FF0000000000000

/-- The negative infinite number. -/
def negativeInfinity : Float := Float.ofBits 0xFFF0000000000000

/-- The number that is no number. -/
def notANumber : Float := Float.ofBits 0x7FF8000000000000

end CommandHost.Decimal

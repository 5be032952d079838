import CommandHost.Decimal.Nearest

/-!
# The shortest decimal that reads back

A floating-point number is printed with the fewest significant digits that
rounding to nearest turns back into it; among decimals of that length the one
nearest to the number is taken, and of two equally near ones the even one.
`shortestDigits` finds the digits by testing, for 1, 2, … 17 digits, the two
neighbours of the number on the grid of decimals of that length.

How the digits are laid out is a choice of the format: `Layout` holds it, and
`Layout.plain` is the one used throughout.
-/

namespace CommandHost.Decimal

/-- What a bit pattern stands for. -/
inductive Parts where
  | notANumber
  | infinite (negative : Bool)
  | finite (negative : Bool) (significand : Nat) (power : Int)

/-- Takes a floating-point number apart: a finite one is
`± significand · 2 ^ power`. -/
def parts (number : Float) : Parts :=
  let bits : Nat := number.toBits.toNat
  let negative := bits / twoTo 63 % 2 == 1
  let exponent : Nat := bits / twoTo 52 % twoTo 11
  let fraction : Nat := bits % twoTo 52
  if exponent = 2047 then
    if fraction = 0 then .infinite negative else .notANumber
  else if exponent = 0 then .finite negative fraction leastPower
  else .finite negative (fraction + twoTo 52) ((exponent : Int) - 1 + leastPower)

/-- The integer that a floating-point number is, if it is one. -/
def integer? (number : Float) : Option Int :=
  match parts number with
  | .finite negative significand power =>
    let magnitude? : Option Nat :=
      if 0 ≤ power then some (significand * twoTo power.toNat)
      else
        let divisor := twoTo (-power).toNat
        if significand % divisor = 0 then some (significand / divisor) else none
    magnitude?.map fun magnitude => if negative then -(magnitude : Int) else magnitude
  | _ => none

/-- The reals that round to a positive number, as fractions over one denominator:
the lower end, the number itself and the upper end. -/
structure Interval where
  low : Nat
  value : Nat
  high : Nat
  denominator : Nat
  /-- The ends belong to the interval. -/
  closed : Bool

/-- The interval of the reals that round to `significand · 2 ^ power`. Below a power
of two the grid of floating-point numbers is twice as fine. -/
def Interval.of (significand : Nat) (power : Int) : Interval :=
  let below := if significand = twoTo 52 ∧ leastPower < power then 1 else 2
  let scale := twoTo power.toNat
  { low := (4 * significand - below) * scale
    value := 4 * significand * scale
    high := (4 * significand + 2) * scale
    denominator := 4 * twoTo (-power).toNat
    closed := significand % 2 = 0 }

/-- Whether the decimal `digits · 10 ^ exponent` lies in the interval. -/
def Interval.contains (interval : Interval) (digits : Nat) (exponent : Int) : Bool :=
  let point := digits * tenTo exponent.toNat * interval.denominator
  let unit := tenTo (-exponent).toNat
  if interval.closed then interval.low * unit ≤ point && point ≤ interval.high * unit
  else interval.low * unit < point && point < interval.high * unit

/-- The exponent `e` with `10 ^ e ≤ numerator / denominator < 10 ^ (e + 1)`. -/
def decimalExponent (numerator denominator : Nat) : Int :=
  let guess : Int := (digitCount numerator : Int) - (digitCount denominator : Int)
  -- the numbers of digits leave two candidates
  let reached :=
    if 0 ≤ guess then denominator * tenTo guess.toNat ≤ numerator
    else denominator ≤ numerator * tenTo (-guess).toNat
  if reached then guess else guess - 1

/-- Tests the grids of `count`, `count + 1`, … digits and gives the first decimal
that lies in the interval, as digits and exponent. The list holds the grids that
are left to be tested. -/
def Interval.search (interval : Interval) (top : Int) : List Nat → Nat × Int
  | [] => (0, 0)
  | count :: others =>
    let exponent := top + 1 - count
    let numerator := interval.value * tenTo (-exponent).toNat
    let denominator := interval.denominator * tenTo exponent.toNat
    let lower := numerator / denominator
    let upper := lower + 1
    let twice := 2 * (numerator % denominator)
    match interval.contains lower exponent, interval.contains upper exponent with
    | true, false => (lower, exponent)
    | false, true => (upper, exponent)
    | false, false => interval.search top others
    | true, true =>
      if twice < denominator then (lower, exponent)
      else if denominator < twice then (upper, exponent)
      else if lower % 2 = 0 then (lower, exponent)
      else (upper, exponent)

/-- The shortest digits of a positive number and the exponent of the first digit:
the number is read as `d.ddd · 10 ^ exponent`. -/
def shortestDigits (significand : Nat) (power : Int) : List Char × Int :=
  let interval := Interval.of significand power
  let top := decimalExponent interval.value interval.denominator
  let (digits, exponent) := interval.search top ((List.range 17).map (· + 1))
  let written := Nat.toDigits 10 digits
  let first := exponent + (written.length : Int) - 1
  ((written.reverse.dropWhile (· = '0')).reverse, first)

/-- How the digits of a floating-point number are laid out. -/
structure Layout where
  /-- The exponents of the first digit that are written without an exponent. -/
  positionalFrom : Int
  positionalTo : Int
  /-- The least number of digits of a written exponent. -/
  exponentDigits : Nat
  /-- The texts of what is no finite number. -/
  infinite : String
  notANumber : String

/-- At least one decimal from `1e-4` up to below `1e16`, an exponent with a sign and
at least two digits elsewhere. -/
def Layout.plain : Layout := ⟨-4, 15, 2, "inf", "nan"⟩

/-- The digits with the point placed after the digit of weight one. -/
def positional (digits : List Char) (first : Int) : List Char :=
  if first < 0 then
    '0' :: '.' :: (List.replicate (-first - 1).toNat '0' ++ digits)
  else
    let whole := digits.take (first.toNat + 1)
    let padded := whole ++ List.replicate (first.toNat + 1 - whole.length) '0'
    let decimals := digits.drop (first.toNat + 1)
    padded ++ '.' :: (if decimals.isEmpty then ['0'] else decimals)

/-- The digits in the form `d.ddde+XX`. -/
def Layout.scientific (layout : Layout) (digits : List Char) (first : Int) : List Char :=
  let whole := digits.take 1
  let decimals := digits.drop 1
  let exponent := Nat.toDigits 10 first.natAbs
  whole ++ (if decimals.isEmpty then [] else '.' :: decimals) ++
    ['e', if first < 0 then '-' else '+'] ++
    List.replicate (layout.exponentDigits - exponent.length) '0' ++ exponent

/-- The text of a floating-point number in a layout. -/
def Layout.write (layout : Layout) (number : Float) : String :=
  match parts number with
  | .notANumber => layout.notANumber
  | .infinite negative => if negative then "-" ++ layout.infinite else layout.infinite
  | .finite negative significand power =>
    let sign := if negative then ['-'] else []
    let body :=
      if significand = 0 then ['0', '.', '0']
      else
        let (digits, first) := shortestDigits significand power
        if layout.positionalFrom ≤ first ∧ first ≤ layout.positionalTo then
          positional digits first
        else layout.scientific digits first
    String.ofList (sign ++ body)

/-- The text of a floating-point number. -/
def floatText (number : Float) : String := Layout.plain.write number

end CommandHost.Decimal

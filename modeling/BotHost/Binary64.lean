/-
# Finite double-precision numbers

JSON numbers that are no 64-bit integers are held as finite IEEE 754 binary64
numbers.  A number is kept exactly, as a sign, a whole mantissa and a power of
two, so rounding and printing are computed in natural-number arithmetic.

`ofRatio` rounds a quotient of natural numbers to the nearest double, ties to the
even mantissa; `shortest` finds the fewest decimal digits that read back as the
same double, and among those the nearest.
-/

namespace BotHost

/-- The number `(-1)^negative · mantissa · 2^exponent`.

In normal form the mantissa has 53 bits, or fewer when the exponent is `-1074`;
the exponent is at most `971`.  Zero has a sign. -/
structure Binary64 where
  negative : Bool
  mantissa : Nat
  /-- The power of two that scales the significand. -/
  exponent : Int
deriving DecidableEq, Repr, Inhabited

namespace Binary64

/-- Zero with the given sign. -/
def zero (negative : Bool) : Binary64 := ⟨negative, 0, -1074⟩

/-- Whether the number is a zero of either sign. -/
def isZero (x : Binary64) : Bool := x.mantissa == 0

/-- The opposite number. -/
def neg (x : Binary64) : Binary64 := { x with negative := !x.negative }

/-- Two doubles compare equal when they are the same number; the two zeros do. -/
def sameNumber (x y : Binary64) : Bool :=
  (x.isZero && y.isZero) || x == y

/-- The whole number nearest to `num / den`, ties to the even one. -/
def roundHalfEven (num den : Nat) : Nat :=
  let whole := num / den
  let rest := num % den
  if 2 * rest < den then whole
  else if den < 2 * rest then whole + 1
  else if whole % 2 = 0 then whole else whole + 1

/-- The power of two that does not exceed the positive quotient `num / den` and
whose double does. -/
def floorLog2 (num den : Nat) : Int :=
  let guess : Int := (num.log2 : Int) - (den.log2 : Int)
  let below : Bool :=
    if 0 ≤ guess then num < den * Nat.pow 2 guess.toNat
    else num * Nat.pow 2 (-guess).toNat < den
  if below then guess - 1 else guess

/-- The double nearest to `num / den` with the given sign, or nothing when it
would exceed the largest finite double. -/
def ofRatio (negative : Bool) (num den : Nat) : Option Binary64 :=
  if num = 0 then some (zero negative)
  else
    let exponent : Int := max (floorLog2 num den - 52) (-1074)
    let mantissa :=
      roundHalfEven (num * Nat.pow 2 (-exponent).toNat) (den * Nat.pow 2 exponent.toNat)
    let result : Binary64 :=
      if mantissa = Nat.pow 2 53 then ⟨negative, Nat.pow 2 52, exponent + 1⟩
      else ⟨negative, mantissa, exponent⟩
    if 971 < result.exponent then none else some result

/-- The double nearest to a whole number. -/
def ofInt (value : Int) : Option Binary64 := ofRatio (value < 0) value.natAbs 1

/-- The magnitude as a quotient of natural numbers. -/
def magnitude (x : Binary64) : Nat × Nat :=
  (x.mantissa * Nat.pow 2 x.exponent.toNat, Nat.pow 2 (-x.exponent).toNat)

/-- The magnitude of the double nearest to a power of ten; the power is at most 308. -/
def powerOfTen (power : Nat) : Nat × Nat :=
  match ofRatio false (Nat.pow 10 power) 1 with
  | some x => x.magnitude
  | none => (Nat.pow 10 power, 1)

/-- The rounded product with a power of ten. -/
def timesPowerOfTen (x : Binary64) (power : Nat) : Option Binary64 :=
  let (num, den) := x.magnitude
  let (num', den') := powerOfTen power
  ofRatio x.negative (num * num') (den * den')

/-- The rounded quotient by a power of ten; a quotient never overflows. -/
def overPowerOfTen (x : Binary64) (power : Nat) : Binary64 :=
  let (num, den) := x.magnitude
  let (num', den') := powerOfTen power
  (ofRatio x.negative (num * den') (den * num')).getD (zero x.negative)

/-- Scale by `10^exponent` in one rounded step, or in steps of `10^-308` for an
exponent below that; nothing when the result is too large. -/
def scaleByTen (x : Binary64) (exponent : Int) : Option Binary64 :=
  if x.isZero then some x
  else if 308 < exponent then none
  else if 0 ≤ exponent then x.timesPowerOfTen exponent.toNat
  else if -308 ≤ exponent then some (x.overPowerOfTen (-exponent).toNat)
  else
    let once := x.overPowerOfTen 308
    if -616 ≤ exponent then some (once.overPowerOfTen (-exponent - 308).toNat)
    else
      let twice := once.overPowerOfTen 308
      if -924 ≤ exponent then some (twice.overPowerOfTen (-exponent - 616).toNat)
      else some (zero x.negative)

/-- The double nearest to `digits · 10^exponent` with the given sign, or nothing when it would
exceed the largest finite double.  The digits are given one by one; a number with its first
digit beyond the range of doubles is settled by its magnitude alone. -/
def ofDigits (negative : Bool) (digits : List Nat) (exponent : Int) : Option Binary64 :=
  let significant := digits.dropWhile (· == 0)
  let point : Int := significant.length + exponent
  if significant.isEmpty || decide (point < -400) then some (zero negative)
  else if 400 < point then none
  else
    let value := significant.foldl (fun value digit => value * 10 + digit) 0
    ofRatio negative (value * Nat.pow 10 exponent.toNat) (Nat.pow 10 (-exponent).toNat)

/-- A decimal number `digits · 10^exponent`. -/
structure Decimal where
  /-- The digits read as a whole number. -/
  digits : Nat
  /-- The power of ten that scales them. -/
  exponent : Int
deriving DecidableEq, Repr

/-- How `num / den` compares with `digits · 10^exponent`. -/
def compareDecimal (num den : Nat) (decimal : Decimal) : Ordering :=
  compare (num * Nat.pow 10 (-decimal.exponent).toNat)
    (decimal.digits * Nat.pow 10 decimal.exponent.toNat * den)

/-- The real numbers that round to a nonzero double: the midpoints to its two
neighbours as quotients, and whether the midpoints themselves belong to it. -/
structure Basin where
  low : Nat × Nat
  high : Nat × Nat
  /-- Whether the midpoints round to the double. -/
  closed : Bool

/-- The numbers that round to `x`. -/
def basin (x : Binary64) : Basin :=
  let scale : Nat × Nat := (Nat.pow 2 x.exponent.toNat, Nat.pow 2 (-x.exponent).toNat)
  let narrowBelow : Bool := x.mantissa == Nat.pow 2 52 && decide (-1074 < x.exponent)
  { low :=
      if narrowBelow then ((4 * x.mantissa - 1) * scale.1, 4 * scale.2)
      else ((2 * x.mantissa - 1) * scale.1, 2 * scale.2)
    high := ((2 * x.mantissa + 1) * scale.1, 2 * scale.2)
    closed := x.mantissa % 2 == 0 }

/-- Whether a decimal lies in the basin. -/
def Basin.contains (b : Basin) (decimal : Decimal) : Bool :=
  let aboveLow := compareDecimal b.low.1 b.low.2 decimal
  let belowHigh := compareDecimal b.high.1 b.high.2 decimal
  (aboveLow == .lt || (b.closed && aboveLow == .eq)) &&
    (belowHigh == .gt || (b.closed && belowHigh == .eq))

/-- The largest `e` with `10^e` not above the positive quotient `num / den`, looked
for downwards from an upper bound. -/
def floorLog10Below (num den : Nat) : Nat → Int → Int
  | 0, bound => bound
  | steps + 1, bound =>
    match compareDecimal num den ⟨1, bound⟩ with
    | .lt => floorLog10Below num den steps (bound - 1)
    | _ => bound

/-- The largest `e` with `10^e` not above the positive quotient `num / den`. -/
def floorLog10 (num den : Nat) : Int :=
  let bits := floorLog2 num den
  floorLog10Below num den 4 ((bits + 1) * 30103 / 100000 + 1)

/-- The nearer of the two decimals of a grid around the magnitude that read back
as `x`, if one of them does.  The grid has steps of `10^exponent`. -/
def nearestOnGrid (x : Binary64) (exponent : Int) : Option Decimal :=
  let (num, den) := x.magnitude
  let scaledNum := num * Nat.pow 10 (-exponent).toNat
  let scaledDen := den * Nat.pow 10 exponent.toNat
  let below : Decimal := ⟨scaledNum / scaledDen, exponent⟩
  let above : Decimal := ⟨scaledNum / scaledDen + 1, exponent⟩
  let basin := x.basin
  match decide (below.digits ≠ 0) && basin.contains below, basin.contains above with
  | false, false => none
  | true, false => some below
  | false, true => some above
  | true, true =>
    if roundHalfEven scaledNum scaledDen = below.digits then some below else some above

/-- Try grids of more and more digits until one reads back as `x`. -/
def shortestFrom (x : Binary64) (leading : Int) : Nat → Nat → Decimal
  | 0, _ => ⟨0, 0⟩
  | more + 1, digits =>
    match nearestOnGrid x (leading - digits) with
    | some decimal => decimal
    | none => shortestFrom x leading more (digits + 1)

/-- Drop trailing zeros of the digits, at most the given number of them. -/
def Decimal.trim (decimal : Decimal) : Nat → Decimal
  | 0 => decimal
  | steps + 1 =>
    if decimal.digits % 10 = 0 && decimal.digits ≠ 0 then
      Decimal.trim ⟨decimal.digits / 10, decimal.exponent + 1⟩ steps
    else decimal

/-- The fewest decimal digits that read back as the nonzero number `x`, without
its sign.  Seventeen digits always suffice. -/
def shortest (x : Binary64) : Decimal :=
  let (num, den) := x.magnitude
  (shortestFrom x (floorLog10 num den) 17 0).trim 20

/-- Where positional notation ends: a number is written without an exponent when
its point stands at most sixteen digits from its first digit, or at most five
places before it. -/
def positional (point : Int) : Bool := decide (-5 < point) && decide (point ≤ 16)

/-- The text of a number: the shortest digits that read back, with at least one
digit after the point, or an exponent without a plus sign. -/
def toText (x : Binary64) : String :=
  let sign := if x.negative then "-" else ""
  if x.isZero then sign ++ "0.0"
  else
    let decimal := x.shortest
    let digits := (toString decimal.digits).toList
    let count : Int := digits.length
    let point := count + decimal.exponent
    let body : List Char :=
      if positional point then
        if 0 ≤ decimal.exponent then
          digits ++ List.replicate decimal.exponent.toNat '0' ++ ['.', '0']
        else if 0 < point then
          digits.take point.toNat ++ ['.'] ++ digits.drop point.toNat
        else ['0', '.'] ++ List.replicate (-point).toNat '0' ++ digits
      else
        let fraction := if digits.length = 1 then [] else '.' :: digits.drop 1
        digits.take 1 ++ fraction ++ ['e'] ++ (toString (point - 1)).toList
    sign ++ String.ofList body

end Binary64

end BotHost

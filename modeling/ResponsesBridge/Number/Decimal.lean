import ResponsesBridge.Number.Floating

/-!
# Decimal text of binary numbers

Two directions. `Decimal.shortest` finds, for a positive finite number, the decimal with the
fewest digits that still rounds to that number, and of those the one nearest to it;
`Floating.digits` lays it out. `Double.ofDecimal?` goes from a decimal significand and a power of
ten to a number in two rounded steps: the significand is rounded first, and the power of ten
multiplies or divides the rounded significand.

A layout is positional for a range of powers of ten of the first digit, with at least one place
after the point; outside that range it has an exponent whose sign is always written. 64-bit
numbers are positional from `1e-5` up to, but not including, `1e16`, and 32-bit numbers from
`1e-6` up to, but not including, `1e13`.
-/

set_option autoImplicit false

namespace ResponsesBridge

/-- A positive decimal number: `significand` times ten to the power of `exponent`. -/
structure Decimal where
  significand : Nat
  exponent : Int
deriving DecidableEq, Repr

namespace Decimal

/-- The decimal digits of a natural number, the first one foremost. -/
def digitsOf (value : Nat) : List Char :=
  Nat.toDigits 10 value

/-- The same decimal without zeros at the end of its significand; the first argument bounds how
many are looked for. -/
def stripZeros : Nat → Decimal → Decimal
  | 0, decimal => decimal
  | bound + 1, decimal =>
    if decimal.significand % 10 = 0 ∧ decimal.significand ≠ 0 then
      stripZeros bound ⟨decimal.significand / 10, decimal.exponent + 1⟩
    else decimal

/-- The interval of the ratios that round to a magnitude, in halves of the unit: its two ends,
whether they belong to it, and the number itself. -/
structure Basin where
  low : Nat
  middle : Nat
  high : Nat
  closed : Bool

/-- The basin of a positive magnitude reaches half way to each neighbour; the ends round to the
magnitude when it is even. -/
def Basin.of (format : Format) (magnitude : Nat) : Basin where
  low := format.units (magnitude - 1) + format.units magnitude
  middle := 2 * format.units magnitude
  high := format.units magnitude + format.units (magnitude + 1)
  closed := magnitude % 2 == 0

/-- Whether a ratio of half units lies in the basin. -/
def Basin.holds (basin : Basin) (numerator denominator : Nat) : Bool :=
  if basin.closed then
    basin.low * denominator ≤ numerator && numerator ≤ basin.high * denominator
  else basin.low * denominator < numerator && numerator < basin.high * denominator

/-- The multiple of ten to the power of `exponent`, as a ratio of half units. -/
def halfUnits (format : Format) (significand : Nat) (exponent : Int) : Nat × Nat :=
  (significand * tenTo exponent.toNat * twoTo (format.unitExponent + 1), tenTo (-exponent).toNat)

/-- The grid point next to the middle of a basin that lies in the basin, if any: of the two
neighbours the nearer, and the even one if both are as near. -/
def onGrid? (format : Format) (basin : Basin) (exponent : Int) : Option Decimal :=
  let scale := tenTo exponent.toNat * twoTo (format.unitExponent + 1)
  let divisor := tenTo (-exponent).toNat
  let below := basin.middle * divisor / scale
  let belowRatio := halfUnits format below exponent
  let aboveRatio := halfUnits format (below + 1) exponent
  let belowHolds := below ≠ 0 && basin.holds belowRatio.1 belowRatio.2
  let aboveHolds := basin.holds aboveRatio.1 aboveRatio.2
  let toBelow := basin.middle * divisor - belowRatio.1
  let toAbove := aboveRatio.1 - basin.middle * divisor
  match belowHolds, aboveHolds with
  | false, false => none
  | true, false => some ⟨below, exponent⟩
  | false, true => some ⟨below + 1, exponent⟩
  | true, true =>
    if toBelow < toAbove then some ⟨below, exponent⟩
    else if toAbove < toBelow then some ⟨below + 1, exponent⟩
    else if below % 2 = 0 then some ⟨below, exponent⟩
    else some ⟨below + 1, exponent⟩

/-- The power of ten of the first digit of a positive magnitude. -/
def leadingExponent (format : Format) (magnitude : Nat) : Int :=
  let shifted := format.units magnitude * tenTo format.unitExponent / twoTo format.unitExponent
  ((digitsOf shifted).length : Int) - 1 - format.unitExponent

/-- The most digits that a shortest decimal needs. -/
def mostDigits (format : Format) : Nat :=
  format.fractionBits * 301 / 1000 + 3

/-- **The shortest decimal.** Grids of one digit, two digits and so on are tried in turn, and
the first grid with a point in the basin of the number gives its decimal. -/
def shortest (format : Format) (magnitude : Nat) : Decimal :=
  let basin := Basin.of format magnitude
  let leading := leadingExponent format magnitude
  let grids := (List.range (mostDigits format)).map fun count : Nat => leading - (count : Int)
  let found := grids.findSome? (onGrid? format basin)
  stripZeros (mostDigits format) (found.getD ⟨0, 0⟩)

/-- The decimal without an exponent, with at least one place after the point. -/
def positional (decimal : Decimal) : List Char :=
  let digits := digitsOf decimal.significand
  let whole := (digits.length : Int) + decimal.exponent
  if 0 ≤ decimal.exponent then
    digits ++ List.replicate decimal.exponent.toNat '0' ++ ['.', '0']
  else if 0 < whole then
    digits.take whole.toNat ++ '.' :: digits.drop whole.toNat
  else '0' :: '.' :: List.replicate (-whole).toNat '0' ++ digits

/-- The decimal with one digit before the point and the power of ten after it. -/
def scientific (decimal : Decimal) : List Char :=
  let digits := digitsOf decimal.significand
  let power := (digits.length : Int) - 1 + decimal.exponent
  let mantissa := match digits with
    | [] => []
    | [digit] => [digit]
    | first :: rest => first :: '.' :: rest
  let sign := if power < 0 then '-' else '+'
  mantissa ++ 'e' :: sign :: digitsOf power.natAbs

/-- The powers of ten of the first digit, both ends included, that need no exponent. -/
structure Layout where
  leastPower : Int
  greatestPower : Int
deriving DecidableEq, Repr

/-- 64-bit numbers have no exponent from `1e-5` up to `1e16`. -/
def Layout.double : Layout := ⟨-5, 15⟩

/-- 32-bit numbers have no exponent from `1e-6` up to `1e13`. -/
def Layout.single : Layout := ⟨-6, 12⟩

/-- Positional in the range of the layout, scientific outside. -/
def layOut (layout : Layout) (decimal : Decimal) : List Char :=
  let power := ((digitsOf decimal.significand).length : Int) - 1 + decimal.exponent
  if layout.leastPower ≤ power ∧ power ≤ layout.greatestPower then decimal.positional
  else decimal.scientific

/-- The greatest significand that is carried while digits are read; digits that would exceed it
no longer count. -/
def significandLimit : Nat := UInt64.size - 1

end Decimal

namespace Floating

variable {format : Format}

/-- The text of a finite number: its shortest decimal, with the sign of a zero kept. -/
def digits (layout : Decimal.Layout) (number : Floating format) : List Char :=
  let absolute :=
    if number.magnitude = 0 then ['0', '.', '0']
    else (Decimal.shortest format number.magnitude).layOut layout
  if number.negative then '-' :: absolute else absolute

end Floating

namespace Double

/-- A power of ten as a 64-bit number. -/
def powerOfTen (places : Nat) : Double :=
  Floating.ofRatio .double false (tenTo places) 1

/-- A number divided by a power of ten. Powers beyond 308 are taken in two steps, and beyond 616
nothing is left of any significand. -/
def dividedByPowerOfTen (number : Double) (places : Nat) : Double :=
  if places ≤ 308 then number.dividedBy (powerOfTen places)
  else if places ≤ 616 then
    (number.dividedBy (powerOfTen 308)).dividedBy (powerOfTen (places - 308))
  else Floating.ofUnits .double number.negative 0 1

/-- The number of a decimal, or nothing where it exceeds the finite numbers. The significand is
rounded first; the power of ten then multiplies or divides it, and the result is rounded again. -/
def ofDecimal? (negative : Bool) (significand : Nat) (exponent : Int) : Option Double :=
  let rounded := Floating.ofRatio .double negative significand 1
  if exponent < 0 then some (dividedByPowerOfTen rounded exponent.natAbs)
  else if exponent ≤ 308 then
    let product := rounded.times (powerOfTen exponent.natAbs)
    if product.IsFinite then some product else none
  else if significand = 0 then some rounded
  else none

end Double

end ResponsesBridge

import ResponsesBridge.Number.Power

/-!
# Binary floating-point numbers

A binary format has a number of fraction bits and a number of exponent bits. Its non-negative
numbers, infinity included, are listed in ascending order by the natural numbers from `0` to
`Format.infinity`; this position is the *magnitude* of a number, and with a sign it is the
number. There is no value for "not a number": no reader of this library makes one.

Everything is computed in whole numbers of *units*, the unit being the least positive number
of the format. `Floating.ofRatio` rounds any ratio to the nearest number of a format, halves to
the even neighbour, and all other operations are exact operations followed by it.
-/

set_option autoImplicit false

namespace ResponsesBridge

/-- A binary format: the widths of the fraction field and of the exponent field. -/
structure Format where
  fractionBits : Nat
  exponentBits : Nat
deriving DecidableEq, Repr

namespace Format

/-- The 64-bit format. -/
def double : Format := ⟨52, 11⟩

/-- The 32-bit format. -/
def single : Format := ⟨23, 8⟩

/-- The magnitude of infinity: the finite numbers are those of smaller magnitude. -/
def infinity (format : Format) : Nat :=
  (twoTo format.exponentBits - 1) * twoTo format.fractionBits

/-- The unit of the format is two to the power of minus this number. -/
def unitExponent (format : Format) : Nat :=
  twoTo (format.exponentBits - 1) - 2 + format.fractionBits

/-- The value of a magnitude, in units. Magnitudes below the first full binade count units
themselves; from there on each binade has twice the step of the one before. -/
def units (format : Format) (magnitude : Nat) : Nat :=
  if magnitude < twoTo format.fractionBits then magnitude
  else
    (twoTo format.fractionBits + magnitude % twoTo format.fractionBits)
      * twoTo (magnitude / twoTo format.fractionBits - 1)

/-- The quotient rounded to the nearest whole number, halves to the even one. -/
def roundedQuotient (numerator denominator : Nat) : Nat :=
  let quotient := numerator / denominator
  let remainder := numerator % denominator
  if 2 * remainder < denominator then quotient
  else if denominator < 2 * remainder then quotient + 1
  else if quotient % 2 = 0 then quotient
  else quotient + 1

/-- The magnitude nearest to a ratio of units. The binade is read off the whole part of the
ratio; a quotient that rounds up into the next binade is its first magnitude, because
magnitudes are consecutive. -/
def nearest (format : Format) (numerator denominator : Nat) : Nat :=
  let binade := Nat.log2 (numerator / denominator) - format.fractionBits
  min (binade * twoTo format.fractionBits + roundedQuotient numerator (denominator * twoTo binade))
    format.infinity

theorem nearest_le_infinity (format : Format) (numerator denominator : Nat) :
    format.nearest numerator denominator ≤ format.infinity :=
  Nat.min_le_right _ _

end Format

/-- A number of a binary format: a sign and a magnitude. -/
structure Floating (format : Format) where
  negative : Bool
  magnitude : Nat
  magnitude_le : magnitude ≤ format.infinity
deriving DecidableEq, Repr

/-- The numbers of the 64-bit format. -/
abbrev Double := Floating .double

/-- The numbers of the 32-bit format. -/
abbrev Single := Floating .single

namespace Floating

variable {format : Format}

/-- A number is finite when its magnitude is below that of infinity. -/
def IsFinite (number : Floating format) : Prop :=
  number.magnitude < format.infinity

instance (number : Floating format) : Decidable number.IsFinite :=
  inferInstanceAs (Decidable (_ < _))

/-- The absolute value of a number, in units of its format. -/
def units (number : Floating format) : Nat :=
  format.units number.magnitude

/-- The number with this sign nearest to a ratio of units. -/
def ofUnits (format : Format) (negative : Bool) (numerator denominator : Nat) :
    Floating format :=
  ⟨negative, format.nearest numerator denominator,
    format.nearest_le_infinity numerator denominator⟩

/-- The number with this sign nearest to a ratio. -/
def ofRatio (format : Format) (negative : Bool) (numerator denominator : Nat) :
    Floating format :=
  ofUnits format negative (numerator * twoTo format.unitExponent) denominator

/-- The number nearest to an integer; zero is positive. -/
def ofInt (format : Format) (value : Int) : Floating format :=
  ofRatio format (decide (value < 0)) value.natAbs 1

/-- The infinity with this sign. -/
def infinite (format : Format) (negative : Bool) : Floating format :=
  ⟨negative, format.infinity, Nat.le_refl _⟩

/-- The same number in another format, rounded to the nearest there; infinity stays infinity. -/
def convert {source : Format} (target : Format) (number : Floating source) : Floating target :=
  if number.IsFinite then
    ofUnits target number.negative (number.units * twoTo target.unitExponent)
      (twoTo source.unitExponent)
  else infinite target number.negative

/-- A finite number times a natural number of the same format, rounded. -/
def times (number factor : Floating format) : Floating format :=
  ofUnits format number.negative (number.units * factor.units) (twoTo format.unitExponent)

/-- A finite number divided by a positive number of the same format, rounded. -/
def dividedBy (number divisor : Floating format) : Floating format :=
  ofUnits format number.negative (number.units * twoTo format.unitExponent) divisor.units

end Floating

end ResponsesBridge

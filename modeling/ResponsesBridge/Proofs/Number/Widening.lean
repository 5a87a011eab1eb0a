import ResponsesBridge.Number.Floating
import Mathlib.Tactic.Ring

/-!
# Exact conversions

A ratio that is a value of a format is met exactly (`Format.units_nearest`), so nothing of a number
is lost in a format that has all the numbers of its own (`Floating.same_convert`); the 64-bit format
has all the numbers of the 32-bit one (`Format.single_within_double`). Since different magnitudes
have different values (`Format.units_injective`), the number comes back from that format
(`Floating.convert_convert`).

That a value is one of a format is said by a shift: the value is a multiple of the power of two, and
what remains of it fits into the fraction field with its leading bit.
-/

set_option autoImplicit false

namespace ResponsesBridge

theorem twoTo_eq (exponent : Nat) : twoTo exponent = 2 ^ exponent := rfl

namespace Format

variable {format : Format}

/-! ## Values of a format -/

/-- The value of the magnitude with this significand in a binade. Below the first full binade the
significand may be small. -/
theorem units_binade {binade significand : Nat}
    (fits : significand < twoTo (format.fractionBits + 1))
    (full : binade = 0 ∨ twoTo format.fractionBits ≤ significand) :
    format.units (binade * twoTo format.fractionBits + significand) =
      significand * twoTo binade := by
  rw [twoTo_succ] at fits
  by_cases small : significand < twoTo format.fractionBits
  · obtain rfl : binade = 0 := full.resolve_right (by omega)
    rw [Nat.zero_mul, Nat.zero_add, units, if_pos small]
    exact (Nat.mul_one significand).symm
  · obtain ⟨fraction, rfl⟩ := Nat.exists_eq_add_of_le (Nat.le_of_not_lt small)
    have fraction_lt : fraction < twoTo format.fractionBits := by omega
    have magnitude : binade * twoTo format.fractionBits + (twoTo format.fractionBits + fraction) =
        fraction + twoTo format.fractionBits * (binade + 1) := by ring
    have quotient : (fraction + twoTo format.fractionBits * (binade + 1)) /
        twoTo format.fractionBits = binade + 1 := by
      rw [Nat.add_mul_div_left _ _ (twoTo_pos _), Nat.div_eq_of_lt fraction_lt, Nat.zero_add]
    have above : ¬fraction + twoTo format.fractionBits * (binade + 1) <
        twoTo format.fractionBits := by
      rw [Nat.mul_succ]; omega
    rw [magnitude, units, if_neg above, quotient, Nat.add_mul_mod_self_left,
      Nat.mod_eq_of_lt fraction_lt, Nat.add_sub_cancel]

/-- The number of places by which the fraction of a magnitude is shifted. -/
def shift (format : Format) (magnitude : Nat) : Nat :=
  magnitude / twoTo format.fractionBits - 1

theorem dvd_units (format : Format) (magnitude : Nat) :
    twoTo (format.shift magnitude) ∣ format.units magnitude := by
  rw [units]
  split
  case isTrue small =>
    rw [shift, Nat.div_eq_of_lt small]
    exact Nat.one_dvd _
  case isFalse => exact Nat.dvd_mul_left _ _

theorem units_lt (format : Format) (magnitude : Nat) :
    format.units magnitude < twoTo (format.fractionBits + 1 + format.shift magnitude) := by
  have fraction := Nat.mod_lt magnitude (twoTo_pos format.fractionBits)
  rw [twoTo_eq, Nat.pow_add, ← twoTo_eq, ← twoTo_eq, twoTo_succ, units]
  split
  case isTrue small =>
    calc magnitude < twoTo format.fractionBits * 2 := by omega
      _ ≤ twoTo format.fractionBits * 2 * twoTo (format.shift magnitude) :=
        Nat.le_mul_of_pos_right _ (twoTo_pos _)
  case isFalse => exact Nat.mul_lt_mul_of_pos_right (by omega) (twoTo_pos _)

/-- A finite magnitude is not shifted beyond the exponent field. -/
theorem shift_le {magnitude : Nat} (roomy : 3 ≤ twoTo format.exponentBits)
    (finite : magnitude < format.infinity) :
    format.shift magnitude + 3 ≤ twoTo format.exponentBits := by
  have quotient : magnitude / twoTo format.fractionBits < twoTo format.exponentBits - 1 :=
    (Nat.div_lt_iff_lt_mul (twoTo_pos _)).mpr finite
  rw [shift]
  omega

/-! ## Rounding what needs no rounding -/

theorem roundedQuotient_mul (quotient : Nat) {denominator : Nat} (positive : 0 < denominator) :
    roundedQuotient (quotient * denominator) denominator = quotient := by
  simp [roundedQuotient, positive]

/-- The binade to which a value of the format belongs. -/
def binade (format : Format) (value : Nat) : Nat :=
  Nat.log2 value - format.fractionBits

/-- The value in steps of its binade. -/
def significand (format : Format) (value : Nat) : Nat :=
  value / twoTo (format.binade value)

theorem binade_le {value shift : Nat} (fits : value < twoTo (format.fractionBits + 1 + shift)) :
    format.binade value ≤ shift := by
  by_cases zero : value = 0
  · simp [binade, zero]
  · have := (Nat.log2_lt zero).mpr fits
    rw [binade]
    omega

theorem significand_lt (format : Format) (value : Nat) :
    format.significand value < twoTo (format.fractionBits + 1) := by
  refine (Nat.div_lt_iff_lt_mul (twoTo_pos _)).mpr ?_
  calc value < 2 ^ (Nat.log2 value + 1) := Nat.lt_log2_self
    _ ≤ 2 ^ (format.fractionBits + 1 + format.binade value) :=
      Nat.pow_le_pow_right (by decide) (by rw [binade]; omega)
    _ = twoTo (format.fractionBits + 1) * twoTo (format.binade value) := Nat.pow_add _ _ _

/-- The leading bit is set from the first full binade on. -/
theorem full_significand (format : Format) (value : Nat) :
    format.binade value = 0 ∨ twoTo format.fractionBits ≤ format.significand value := by
  by_cases first : format.binade value = 0
  · exact .inl first
  · have nonzero : value ≠ 0 := by
      rintro rfl
      simp [binade] at first
    refine .inr ((Nat.le_div_iff_mul_le (twoTo_pos _)).mpr ?_)
    calc twoTo format.fractionBits * twoTo (format.binade value)
        = 2 ^ (format.fractionBits + format.binade value) := (Nat.pow_add _ _ _).symm
      _ = 2 ^ Nat.log2 value := by congr 1; rw [binade] at first ⊢; omega
      _ ≤ value := Nat.log2_self_le nonzero

/-- **A ratio that is a value of the format is met exactly**, by a finite magnitude. -/
theorem units_nearest {value denominator shift : Nat} (positive : 0 < denominator)
    (divides : twoTo shift ∣ value) (fits : value < twoTo (format.fractionBits + 1 + shift))
    (bounded : shift + 3 ≤ twoTo format.exponentBits) :
    format.units (format.nearest (value * denominator) denominator) = value ∧
      format.nearest (value * denominator) denominator < format.infinity := by
  have binade_le := binade_le fits
  have significand_lt := format.significand_lt value
  -- the binade that is read off the value divides it, so nothing is rounded
  have whole : format.significand value * twoTo (format.binade value) = value :=
    Nat.div_mul_cancel ((Nat.pow_dvd_pow 2 binade_le).trans divides)
  have below : format.binade value * twoTo format.fractionBits + format.significand value <
      format.infinity := by
    rw [twoTo_succ] at significand_lt
    calc format.binade value * twoTo format.fractionBits + format.significand value
        < (format.binade value + 2) * twoTo format.fractionBits := by rw [Nat.add_mul]; omega
      _ ≤ format.infinity := Nat.mul_le_mul_right _ (by omega)
  have quotient : roundedQuotient (value * denominator)
      (denominator * twoTo (format.binade value)) = format.significand value := by
    have multiple : value * denominator =
        format.significand value * (denominator * twoTo (format.binade value)) := by
      rw [Nat.mul_left_comm, whole, Nat.mul_comm]
    rw [multiple, roundedQuotient_mul _ (Nat.mul_pos positive (twoTo_pos _))]
  have met : format.nearest (value * denominator) denominator =
      format.binade value * twoTo format.fractionBits + format.significand value := by
    rw [nearest, Nat.mul_div_cancel _ positive, ← binade, quotient]
    exact Nat.min_eq_left below.le
  rw [met, units_binade significand_lt (format.full_significand value), whole]
  exact ⟨rfl, below⟩

/-- The binade and the significand of the value of a magnitude make up the magnitude. -/
theorem binade_significand_units (format : Format) (magnitude : Nat) :
    format.binade (format.units magnitude) * twoTo format.fractionBits +
      format.significand (format.units magnitude) = magnitude := by
  by_cases small : magnitude < twoTo format.fractionBits
  · have value : format.units magnitude = magnitude := if_pos small
    have first : format.binade magnitude = 0 := by
      by_cases zero : magnitude = 0
      · simp [binade, zero]
      · have := (Nat.log2_lt zero).mpr small
        rw [binade]
        omega
    rw [value, significand, first, Nat.zero_mul, Nat.zero_add]
    exact Nat.div_one magnitude
  · have below := Nat.mod_lt magnitude (twoTo_pos format.fractionBits)
    have full : 0 < magnitude / twoTo format.fractionBits :=
      Nat.div_pos (Nat.le_of_not_lt small) (twoTo_pos _)
    have split := Nat.div_add_mod magnitude (twoTo format.fractionBits)
    obtain ⟨places, isPlaces⟩ := Nat.exists_eq_add_of_le' full
    have value : format.units magnitude =
        (twoTo format.fractionBits + magnitude % twoTo format.fractionBits) * twoTo places := by
      rw [units, if_neg small, isPlaces, Nat.add_sub_cancel]
    generalize magnitude % twoTo format.fractionBits = fraction at below split value
    -- the leading bit of the value tells the binade
    have leading : Nat.log2 ((twoTo format.fractionBits + fraction) * twoTo places) =
        format.fractionBits + places := by
      refine (Nat.log2_eq_iff (Nat.mul_pos (by omega) (twoTo_pos _)).ne').mpr ⟨?_, ?_⟩
      · rw [Nat.pow_add]
        exact Nat.mul_le_mul_right _ (Nat.le_add_right _ _)
      · calc (twoTo format.fractionBits + fraction) * twoTo places
            < twoTo (format.fractionBits + 1) * twoTo places :=
              Nat.mul_lt_mul_of_pos_right (by rw [twoTo_succ]; omega) (twoTo_pos _)
          _ = 2 ^ (format.fractionBits + places + 1) := by
              rw [twoTo_eq, twoTo_eq, ← Nat.pow_add]; congr 1; omega
    have binade_eq : format.binade (format.units magnitude) = places := by
      rw [binade, value, leading]
      omega
    rw [significand, binade_eq, value, Nat.mul_div_cancel _ (twoTo_pos _), ← split, isPlaces]
    ring

/-- Different magnitudes have different values. -/
theorem units_injective (format : Format) {first second : Nat}
    (same : format.units first = format.units second) : first = second := by
  rw [← format.binade_significand_units first, same, format.binade_significand_units second]

/-- A format has all the numbers of another one. -/
structure Within (source target : Format) : Prop where
  fraction : source.fractionBits ≤ target.fractionBits
  unit : source.unitExponent ≤ target.unitExponent
  range : twoTo source.exponentBits + (target.unitExponent - source.unitExponent) ≤
    twoTo target.exponentBits
  roomy : 3 ≤ twoTo source.exponentBits

theorem dvd_units_mul (format : Format) (magnitude places : Nat) :
    twoTo (format.shift magnitude + places) ∣ format.units magnitude * twoTo places := by
  rw [twoTo_eq, Nat.pow_add]
  exact Nat.mul_dvd_mul_right (format.dvd_units magnitude) _

/-- A value of one format, in smaller units, fits into the fraction field of the other one. -/
theorem Within.units_mul_lt {source target : Format} (within : source.Within target)
    (magnitude places : Nat) :
    source.units magnitude * twoTo places <
      twoTo (target.fractionBits + 1 + (source.shift magnitude + places)) := by
  calc source.units magnitude * twoTo places
      < twoTo (source.fractionBits + 1 + source.shift magnitude) * twoTo places :=
        Nat.mul_lt_mul_of_pos_right (source.units_lt magnitude) (twoTo_pos _)
    _ = 2 ^ (source.fractionBits + 1 + source.shift magnitude + places) :=
        (Nat.pow_add _ _ _).symm
    _ ≤ twoTo (target.fractionBits + 1 + (source.shift magnitude + places)) :=
        Nat.pow_le_pow_right (by decide) (by have := within.fraction; omega)

theorem single_within_double : Within single double :=
  ⟨by decide, by decide, by decide, by decide⟩

end Format

namespace Floating

/-- Two numbers of two formats are the same number. -/
structure Same {first second : Format} (number : Floating first) (other : Floating second) :
    Prop where
  sign : number.negative = other.negative
  finite : number.IsFinite ↔ other.IsFinite
  value : number.IsFinite →
    number.units * twoTo second.unitExponent = other.units * twoTo first.unitExponent

/-- **Conversion to a format that has the number keeps it.** -/
theorem same_convert {source target : Format} (within : source.Within target)
    (number : Floating source) : number.Same (number.convert target) := by
  by_cases finite : number.IsFinite
  · obtain ⟨places, isPlaces⟩ := Nat.exists_eq_add_of_le within.unit
    have scaled : source.units number.magnitude * twoTo target.unitExponent =
        source.units number.magnitude * twoTo places * twoTo source.unitExponent := by
      rw [isPlaces, twoTo_eq, Nat.pow_add, ← twoTo_eq, ← twoTo_eq]
      ring
    have bounded : source.shift number.magnitude + places + 3 ≤ twoTo target.exponentBits := by
      have shifted := Format.shift_le within.roomy finite
      have := within.range
      omega
    obtain ⟨exact, below⟩ := Format.units_nearest (twoTo_pos source.unitExponent)
      (source.dvd_units_mul number.magnitude places) (within.units_mul_lt number.magnitude places)
      bounded
    rw [← scaled] at exact below
    have converted : number.convert target = ofUnits target number.negative
        (number.units * twoTo target.unitExponent) (twoTo source.unitExponent) := if_pos finite
    rw [converted]
    exact ⟨rfl, iff_of_true finite below, fun _ =>
      scaled.trans (congrArg (· * twoTo source.unitExponent) exact.symm)⟩
  · have converted : number.convert target = infinite target number.negative := if_neg finite
    rw [converted]
    exact ⟨rfl, iff_of_false finite (Nat.lt_irrefl _), fun isFinite => absurd isFinite finite⟩

/-- **A number comes back from a format that has it.** -/
theorem convert_convert {source target : Format} (within : source.Within target)
    {number : Floating source} (finite : number.IsFinite) :
    (number.convert target).convert source = number := by
  have same := same_convert within number
  obtain ⟨exact, -⟩ := Format.units_nearest (twoTo_pos target.unitExponent)
    (source.dvd_units number.magnitude) (source.units_lt number.magnitude)
    (Format.shift_le within.roomy finite)
  have back : (number.convert target).convert source =
      ofUnits source number.negative (number.units * twoTo target.unitExponent)
        (twoTo target.unitExponent) := by
    rw [convert, if_pos (same.finite.mp finite), same.value finite, ← same.sign]
  rw [back]
  obtain ⟨negative, magnitude, magnitude_le⟩ := number
  simp only [ofUnits, mk.injEq, true_and]
  exact source.units_injective exact

end Floating

/-- A 32-bit number is the same number in the 64-bit format. -/
theorem Single.same_convert_double (number : Single) :
    Floating.Same number (number.convert .double) :=
  Floating.same_convert Format.single_within_double number

end ResponsesBridge

import Mathlib.Algebra.Ring.Nat
import OrdinalDispatch.Number.Binary

/-!
Contract: a 32-bit number goes through the 64-bit format unchanged.

Owns: the significands and exponents that a format writes its numbers with, and
when rounding has nothing to round.

Does not own: which values are converted, see
`OrdinalDispatch.Proofs.Number.Conversion`.

A significand and an exponent stand for one number, and so do the significand
with zeros behind it and an exponent that is smaller by their count. The wide
format takes as many zeros as its fraction has room for, and the narrow one
takes just these off again.
-/

set_option autoImplicit false

namespace OrdinalDispatch.Number

/-- Rounding takes zeros off and has nothing to round then. -/
theorem shiftHalfEven_shiftLeft (value places : Nat) :
    shiftHalfEven (value <<< places) places = value := by
  have divides : value * 2 ^ places % 2 ^ places = 0 := Nat.mul_mod_left value (2 ^ places)
  have positive : 0 < 2 ^ places := Nat.two_pow_pos places
  unfold shiftHalfEven
  simp only [Nat.shiftLeft_eq, Nat.shiftRight_eq_div_pow, Nat.one_mul, divides,
    Nat.mul_div_cancel value positive, Nat.mul_zero, Nat.not_lt_zero, decide_false, Bool.false_or,
    Bool.and_eq_true, beq_iff_eq]
  rw [if_neg fun both => absurd both.1 (Nat.ne_of_lt positive)]

theorem log2_shiftLeft {value : Nat} (positive : 0 < value) (places : Nat) :
    (value <<< places).log2 = value.log2 + places := by
  have nonzero : value ≠ 0 := Nat.ne_of_gt positive
  have weight : 0 < 2 ^ places := Nat.two_pow_pos places
  obtain ⟨atLeast, below⟩ := (Nat.log2_eq_iff nonzero).mp rfl
  rw [Nat.shiftLeft_eq]
  refine (Nat.log2_eq_iff (Nat.ne_of_gt (Nat.mul_pos positive weight))).mpr ⟨?_, ?_⟩
  · rw [Nat.pow_add]
    exact Nat.mul_le_mul_right _ atLeast
  · rw [Nat.add_right_comm, Nat.pow_add]
    exact Nat.mul_lt_mul_of_pos_right below weight

namespace Binary

/-- How a format writes a number that is not zero: the hidden bit is there unless the exponent is
the smallest one. -/
structure Written (format : Format) (significand : Nat) (exponent : Int) : Prop where
  positive : 0 < significand
  bounded : significand < 2 ^ (format.fractionBits + 1)
  inRange : format.smallestExponent ≤ exponent
  hidden : exponent = format.smallestExponent ∨ 2 ^ format.fractionBits ≤ significand

/-- The magnitude that is written with a significand and an exponent. -/
def magnitudeOf (format : Format) (significand : Nat) (exponent : Int) : Nat :=
  ((exponent - format.smallestExponent).toNat <<< format.fractionBits) + significand

variable {format : Format} {significand' : Nat} {exponent' : Int}

theorem magnitudeOf_parts (format : Format) (magnitude : Nat) :
    magnitudeOf format (significand format magnitude) (exponent format magnitude) = magnitude := by
  have split := Nat.div_add_mod magnitude (2 ^ format.fractionBits)
  have steps (count : Nat) :
      (format.smallestExponent + (count : Int) - format.smallestExponent).toNat = count := by
    omega
  unfold magnitudeOf significand exponent
  rw [steps]
  simp only [Nat.shiftLeft_eq, Nat.shiftRight_eq_div_pow, Nat.one_mul]
  split
  · rename_i none
    simp [none]
  · rename_i some
    obtain ⟨field, isField⟩ := Nat.exists_eq_succ_of_ne_zero some
    rw [isField] at split ⊢
    rw [Nat.succ_sub_one, ← Nat.add_assoc, ← Nat.succ_mul, Nat.mul_comm]
    exact split

/-- The parts of a magnitude are how the format writes it. -/
theorem written_parts {magnitude : Nat} (positive : 0 < magnitude) :
    Written format (significand format magnitude) (exponent format magnitude) := by
  have small := Nat.mod_lt magnitude (Nat.two_pow_pos format.fractionBits)
  have hidden := Nat.two_pow_pos format.fractionBits
  unfold significand exponent
  simp only [Nat.shiftLeft_eq, Nat.shiftRight_eq_div_pow, Nat.one_mul]
  by_cases none : magnitude / 2 ^ format.fractionBits = 0
  · have below : magnitude < 2 ^ format.fractionBits :=
      (Nat.div_eq_zero_iff_lt hidden).mp none
    rw [if_pos none, none]
    exact ⟨positive, by rw [Nat.pow_succ]; omega, by simp, .inl (by simp)⟩
  · rw [if_neg none]
    exact ⟨by omega, by rw [Nat.pow_succ]; omega, by omega, .inr (Nat.le_add_right _ _)⟩

/-- What is written with parts has these parts. -/
theorem Written.parts (written : Written format significand' exponent') :
    significand format (magnitudeOf format significand' exponent') = significand' ∧
      exponent format (magnitudeOf format significand' exponent') = exponent' := by
  obtain ⟨positive, bounded, inRange, hidden⟩ := written
  have weight := Nat.two_pow_pos format.fractionBits
  rw [Nat.pow_succ] at bounded
  obtain ⟨steps, rfl⟩ := Int.le.dest inRange
  have above : (format.smallestExponent + (steps : Int) - format.smallestExponent).toNat =
      steps := by
    omega
  unfold significand exponent magnitudeOf
  simp only [Nat.shiftLeft_eq, Nat.shiftRight_eq_div_pow, Nat.one_mul, above]
  by_cases implied : 2 ^ format.fractionBits ≤ significand'
  · -- with its hidden bit the significand counts one step itself
    obtain ⟨fraction, rfl⟩ := Nat.exists_eq_add_of_le implied
    have short : fraction < 2 ^ format.fractionBits := by omega
    have regrouped : steps * 2 ^ format.fractionBits + (2 ^ format.fractionBits + fraction) =
        fraction + 2 ^ format.fractionBits * (steps + 1) := by
      rw [Nat.mul_succ, Nat.mul_comm]
      omega
    rw [regrouped, Nat.add_mul_div_left _ _ weight, Nat.div_eq_of_lt short,
      Nat.add_mul_mod_self_left, Nat.mod_eq_of_lt short]
    simp
  · have atBottom : steps = 0 := by omega
    subst atBottom
    have none : (0 * 2 ^ format.fractionBits + significand') / 2 ^ format.fractionBits = 0 := by
      rw [Nat.zero_mul, Nat.zero_add]
      exact Nat.div_eq_of_lt (Nat.not_le.mp implied)
    rw [none]
    simp

/-- The last place that rounding keeps of a number as a format writes it is the last one. -/
theorem Written.lastPlace (written : Written format significand' exponent') :
    max format.smallestExponent
      (exponent' + (significand'.log2 : Int) - (format.fractionBits : Int)) = exponent' := by
  obtain ⟨positive, bounded, inRange, hidden⟩ := written
  have nonzero : significand' ≠ 0 := Nat.ne_of_gt positive
  have atMost : significand'.log2 < format.fractionBits + 1 := (Nat.log2_lt nonzero).mpr bounded
  rcases hidden with bottom | implied
  · omega
  · have atLeast : format.fractionBits ≤ significand'.log2 := (Nat.le_log2 nonzero).mpr implied
    omega

/-- A number is nearest to itself, with zeros behind its significand. -/
theorem Written.nearest_shiftLeft (written : Written format significand' exponent')
    (negative : Bool) (places : Nat) :
    (nearest negative (significand' <<< places) (exponent' - places) : Binary format) =
      ofMagnitude negative (magnitudeOf format significand' exponent') := by
  have last := written.lastPlace
  have shifted : significand' <<< places ≠ 0 := by
    rw [Nat.shiftLeft_eq]
    exact Nat.ne_of_gt (Nat.mul_pos written.positive (Nat.two_pow_pos places))
  have same : exponent' - (places : Int) + ((significand'.log2 + places : Nat) : Int) =
      exponent' + (significand'.log2 : Int) := by
    omega
  unfold nearest magnitudeOf
  simp only [if_neg shifted, log2_shiftLeft written.positive, same, last]
  split
  · have none : places = 0 := by omega
    subst none
    simp
  · have all : (exponent' - (exponent' - (places : Int))).toNat = places := by omega
    rw [all, shiftHalfEven_shiftLeft]

/-- A number whose significand a format writes with zeros behind it is nearest to itself. -/
theorem Written.nearest_unshifted {places : Nat} (positive : 0 < significand')
    (written : Written format (significand' <<< places) (exponent' - places)) (negative : Bool) :
    (nearest negative significand' exponent' : Binary format) =
      ofMagnitude negative
        (magnitudeOf format (significand' <<< places) (exponent' - places)) := by
  have last := written.lastPlace
  have same : exponent' - (places : Int) + ((significand'.log2 + places : Nat) : Int) =
      exponent' + (significand'.log2 : Int) := by
    omega
  rw [log2_shiftLeft positive, same] at last
  have all : (exponent' - (exponent' - (places : Int))).toNat = places := by omega
  unfold nearest magnitudeOf
  simp only [if_neg (Nat.ne_of_gt positive), last, all]
  rw [if_pos (by omega)]

theorem ofMagnitude_of_le {negative : Bool} {magnitude : Nat}
    (inside : magnitude < format.infinity + 1) :
    (ofMagnitude negative magnitude : Binary format) = .number negative ⟨magnitude, inside⟩ := by
  unfold ofMagnitude
  congr
  exact Nat.min_eq_left (Nat.le_of_lt_succ inside)

/-! ## Through the wide format -/

/-- A finite 32-bit number that is not zero, as the 64-bit format writes it: with as many zeros as
there is room for. -/
theorem written_double {magnitude : Nat} (positive : 0 < magnitude)
    (finite : magnitude < Format.single.infinity) :
    ∃ places, Written Format.double (significand Format.single magnitude <<< places)
        (exponent Format.single magnitude - places) ∧
      magnitudeOf Format.double (significand Format.single magnitude <<< places)
        (exponent Format.single magnitude - places) < Format.double.infinity := by
  have written : Written Format.single (significand Format.single magnitude)
      (exponent Format.single magnitude) := written_parts positive
  have highest : exponent Format.single magnitude ≤ 104 := by
    unfold exponent
    have field : magnitude >>> Format.single.fractionBits < 255 := by
      rw [Nat.shiftRight_eq_div_pow]
      exact Nat.div_lt_of_lt_mul finite
    have lowest : Format.single.smallestExponent = -149 := rfl
    omega
  generalize significand Format.single magnitude = part at written
  generalize exponent Format.single magnitude = scale at written highest
  obtain ⟨nonzero, bounded, inRange, -⟩ := written
  have lowest : (-149 : Int) ≤ scale := inRange
  have isNonzero : part ≠ 0 := Nat.ne_of_gt nonzero
  have few : part.log2 ≤ 23 := Nat.le_of_lt_succ ((Nat.log2_lt isNonzero).mpr bounded)
  have atLeast : 2 ^ 52 ≤ part <<< (52 - part.log2) := by
    rw [Nat.shiftLeft_eq]
    calc 2 ^ 52 = 2 ^ part.log2 * 2 ^ (52 - part.log2) := by rw [← Nat.pow_add]; congr 1; omega
      _ ≤ part * 2 ^ (52 - part.log2) := Nat.mul_le_mul_right _ (Nat.log2_self_le isNonzero)
  have below : part <<< (52 - part.log2) < 2 ^ 53 := by
    rw [Nat.shiftLeft_eq]
    calc part * 2 ^ (52 - part.log2) < 2 ^ (part.log2 + 1) * 2 ^ (52 - part.log2) :=
          Nat.mul_lt_mul_of_pos_right Nat.lt_log2_self (Nat.two_pow_pos _)
      _ = 2 ^ 53 := by rw [← Nat.pow_add]; congr 1; omega
  refine ⟨52 - part.log2, ?_⟩
  generalize part <<< (52 - part.log2) = whole at atLeast below ⊢
  have bottom : Format.double.smallestExponent = -1074 := rfl
  have top : Format.double.infinity = 2047 * 2 ^ 52 := rfl
  have bits : Format.double.fractionBits = 52 := rfl
  refine ⟨⟨by omega, by rwa [bits], by omega, .inr (by rwa [bits])⟩, ?_⟩
  unfold magnitudeOf
  rw [bits, bottom, top, Nat.shiftLeft_eq]
  omega

/-- A finite number converts to the number nearest to it. -/
theorem convert_of_finite {target : Format} (negative : Bool) {magnitude : Nat}
    (inside : magnitude < format.infinity + 1) (finite : magnitude ≠ format.infinity) :
    ((number negative ⟨magnitude, inside⟩ : Binary format).convert : Binary target) =
      nearest negative (significand format magnitude) (exponent format magnitude) :=
  if_neg finite

/-- A 32-bit number that is converted to 64 bits and back is the same number. -/
theorem convert_convert (number : Single) :
    ((number.convert : Double).convert : Single) = number := by
  cases number with
  | nan => rfl
  | number negative magnitude =>
      obtain ⟨magnitude, inside⟩ := magnitude
      rcases Nat.lt_trichotomy magnitude Format.single.infinity with finite | infinite | beyond
      · rcases Nat.eq_zero_or_pos magnitude with rfl | positive
        · rw [convert_of_finite negative inside (Nat.ne_of_lt finite)]
          exact convert_of_finite negative (Nat.succ_pos _) (Nat.ne_of_lt (by decide))
        · obtain ⟨places, written, small⟩ := written_double positive finite
          have single : Written Format.single (significand Format.single magnitude)
              (exponent Format.single magnitude) := written_parts positive
          have wide : ((Binary.number negative ⟨magnitude, inside⟩ : Single).convert : Double) =
              .number negative ⟨_, Nat.lt_succ_of_lt small⟩ := by
            rw [convert_of_finite negative inside (Nat.ne_of_lt finite),
              written.nearest_unshifted single.positive]
            exact ofMagnitude_of_le _
          obtain ⟨sameSignificand, sameExponent⟩ := written.parts
          rw [wide, convert_of_finite negative _ (Nat.ne_of_lt small), sameSignificand,
            sameExponent, single.nearest_shiftLeft, magnitudeOf_parts]
          exact ofMagnitude_of_le inside
      · subst infinite
        cases negative <;> rfl
      · exact absurd inside (Nat.not_lt.mpr beyond)

end Binary

end OrdinalDispatch.Number

import Mathlib.Algebra.Ring.Int.Defs
import OrdinalDispatch.Proofs.Number.Widening
import OrdinalDispatch.Value

/-!
Contract: the laws of converting and of checking a boxed value.

Owns: the width of an integer kind, the whole number that a value holds, and
what is left of it in each kind.

Does not own: the arithmetic of binary numbers, see
`OrdinalDispatch.Proofs.Number.Widening`.

Arguments are converted and results are checked, by two functions that never
call each other. They agree since a value is of a kind exactly when converting
it to the kind gives the value itself.
-/

set_option autoImplicit false

namespace OrdinalDispatch

namespace Primitive

/-- The bits of a kind of whole numbers. -/
def integerBits? : Primitive → Option Nat
  | byte => some 8
  | short => some 16
  | int => some 32
  | long => some 64
  | boolean | char | float | double => none

end Primitive

namespace Value

/-- The whole number that a value of an integer kind holds. -/
def integer? : Value → Option Int
  | .byte value => some value.toInt
  | .short value => some value.toInt
  | .int value => some value.toInt
  | .long value => some value.toInt
  | _ => none

/-- The numbers of so many bits in two's complement. -/
def Fits (bits : Nat) (number : Int) : Prop :=
  -2 ^ (bits - 1) ≤ number ∧ number < 2 ^ (bits - 1)

variable {value converted : Value} {kind : Primitive}

/-! ## Fixpoints -/

theorem isOfKind_of_convert? (isConverted : value.convert? kind = some converted) :
    converted.isOfKind kind = true := by
  cases kind with
  | boolean | char =>
      cases value <;> simp only [convert?, Option.some.injEq, reduceCtorEq] at isConverted
      subst isConverted
      rfl
  | byte | short | int | long | float | double =>
      obtain ⟨number, -, rfl⟩ := Option.map_eq_some_iff.mp isConverted
      rfl

/-- A value of a kind converts to itself. -/
theorem convert?_of_isOfKind (isOf : value.isOfKind kind = true) :
    value.convert? kind = some value := by
  cases kind <;> cases value <;> first
    | rfl
    | exact absurd isOf Bool.false_ne_true
    | simp [convert?, toInt64?, toDouble?, Number.Binary.convert_convert]

theorem unbox_eq_ok : value.unbox kind = .ok converted ↔ value.convert? kind = some converted := by
  unfold unbox
  cases value.convert? kind <;> simp

/-- A value converts to itself exactly if it is of the kind. -/
theorem unbox_self : value.unbox kind = .ok value ↔ value.isOfKind kind = true :=
  unbox_eq_ok.trans ⟨isOfKind_of_convert?, convert?_of_isOfKind⟩

theorem boxed_eq_ok :
    value.boxed kind = .ok converted ↔ value.isOfKind kind = true ∧ value = converted := by
  unfold boxed
  split <;> simp [*]

/-- What cannot be converted is not of the kind either, for the same reason. -/
theorem boxed_of_unbox_error {error : AccessError} (failed : value.unbox kind = .error error) :
    value.boxed kind = .error error := by
  have notOf : ¬value.isOfKind kind = true := by
    intro isOf
    rw [unbox_self.mpr isOf] at failed
    cases failed
  unfold boxed
  rw [if_neg notOf]
  unfold unbox at failed
  split at failed
  · cases failed
  · exact failed

theorem unboxAs_settles {type : ValueType} (isConverted : value.unboxAs type = .ok converted) :
    converted.unboxAs type = .ok converted ∧ converted.boxedAs type = .ok converted := by
  cases type with
  | void | reference => exact ⟨rfl, rfl⟩
  | primitive kind =>
      have isOf : converted.isOfKind kind = true := isOfKind_of_convert? (unbox_eq_ok.mp isConverted)
      exact ⟨unbox_self.mpr isOf, boxed_eq_ok.mpr ⟨isOf, rfl⟩⟩

/-! ## Whole numbers -/

variable {bits : Nat}

/-- A 64-bit integer converts to an integer kind by its lowest bits, read as a signed number. -/
theorem convert?_of_toInt64? {whole : Int64} (isWhole : value.toInt64? = some whole)
    (width : kind.integerBits? = some bits) :
    ∃ converted, value.convert? kind = some converted ∧
      converted.integer? = some (whole.toInt.bmod (2 ^ bits)) := by
  cases kind <;>
    simp only [Primitive.integerBits?, Option.some.injEq, reduceCtorEq] at width <;>
    subst width <;>
    simp only [convert?, isWhole, Option.map_some]
  · exact ⟨_, rfl, congrArg some (Int64.toInt_toInt8 whole)⟩
  · exact ⟨_, rfl, congrArg some (Int64.toInt_toInt16 whole)⟩
  · exact ⟨_, rfl, congrArg some (Int64.toInt_toInt32 whole)⟩
  · refine ⟨_, rfl, congrArg some (Eq.symm (Int.bmod_eq_of_le ?_ ?_))⟩
    · exact whole.le_toInt
    · exact whole.toInt_lt

/-- Only a number converts to an integer kind. -/
theorem toInt64?_of_convert? (width : kind.integerBits? = some bits)
    (isConverted : value.convert? kind = some converted) :
    ∃ whole, value.toInt64? = some whole := by
  cases kind <;>
    simp only [Primitive.integerBits?, reduceCtorEq] at width <;>
    exact (Option.map_eq_some_iff.mp isConverted).imp fun _ => And.left

theorem toInt64?_of_integer? {number : Int} (isNumber : value.integer? = some number) :
    ∃ whole : Int64, value.toInt64? = some whole ∧ whole.toInt = number := by
  cases value <;> simp only [integer?, Option.some.injEq, reduceCtorEq] at isNumber
  · exact ⟨_, rfl, (Int8.toInt_toInt64 _).trans isNumber⟩
  · exact ⟨_, rfl, (Int16.toInt_toInt64 _).trans isNumber⟩
  · exact ⟨_, rfl, (Int32.toInt_toInt64 _).trans isNumber⟩
  · exact ⟨_, rfl, isNumber⟩

/-- A value of an integer kind is known by its number. -/
theorem eq_of_integer? {other : Value} (isOf : value.isOfKind kind = true)
    (otherIsOf : other.isOfKind kind = true) {number : Int}
    (isNumber : value.integer? = some number) (isSame : other.integer? = some number) :
    value = other := by
  cases value <;> simp only [integer?, reduceCtorEq] at isNumber <;>
    cases kind <;> first
      | exact absurd isOf Bool.false_ne_true
      | (cases other <;> first
          | exact absurd otherIsOf Bool.false_ne_true
          | have same := Option.some.inj (isNumber.trans isSame.symm)
            simpa [Int8.toInt_inj, Int16.toInt_inj, Int32.toInt_inj, Int64.toInt_inj] using same)

/-- An integer kind on the way loses nothing that a kind of no more bits keeps. -/
theorem unbox_through {wide narrow : Primitive} {wideBits narrowBits : Nat}
    (wideWidth : wide.integerBits? = some wideBits)
    (narrowWidth : narrow.integerBits? = some narrowBits) (atMost : narrowBits ≤ wideBits)
    (isConverted : value.unbox wide = .ok converted) :
    converted.unbox narrow = value.unbox narrow := by
  rw [unbox_eq_ok] at isConverted
  obtain ⟨whole, isWhole⟩ := toInt64?_of_convert? wideWidth isConverted
  obtain ⟨_, isSame, integer⟩ := convert?_of_toInt64? isWhole wideWidth
  obtain rfl := Option.some.inj (isConverted.symm.trans isSame)
  obtain ⟨kept, isKept, keptNumber⟩ := toInt64?_of_integer? integer
  obtain ⟨direct, isDirect, directNumber⟩ := convert?_of_toInt64? isWhole narrowWidth
  obtain ⟨indirect, isIndirect, indirectNumber⟩ := convert?_of_toInt64? isKept narrowWidth
  have divides : 2 ^ narrowBits ∣ 2 ^ wideBits := Nat.pow_dvd_pow 2 atMost
  rw [keptNumber, Int.bmod_bmod_of_dvd divides] at indirectNumber
  have same : indirect = direct :=
    eq_of_integer? (isOfKind_of_convert? isIndirect) (isOfKind_of_convert? isDirect)
      indirectNumber directNumber
  rw [unbox_eq_ok.mpr isIndirect, unbox_eq_ok.mpr isDirect, same]

/-! ## Two's complement -/

theorem integerBits_pos (width : kind.integerBits? = some bits) : 0 < bits := by
  cases kind <;> simp only [Primitive.integerBits?, Option.some.injEq, reduceCtorEq] at width <;>
    omega

theorem cast_two_pow_succ (less : Nat) : ((2 ^ (less + 1) : Nat) : Int) = 2 ^ less * 2 := by
  rw [Nat.pow_succ]
  push_cast
  rfl

theorem fits_bmod (positive : 0 < bits) (number : Int) : Fits bits (number.bmod (2 ^ bits)) := by
  obtain ⟨less, rfl⟩ : ∃ less, bits = less + 1 := ⟨bits - 1, by omega⟩
  have weight : 0 < 2 ^ (less + 1) := Nat.two_pow_pos (less + 1)
  have atLeast : _ ≤ number.bmod (2 ^ (less + 1)) := Int.le_bmod weight
  have below : number.bmod (2 ^ (less + 1)) < _ := Int.bmod_lt weight
  rw [cast_two_pow_succ] at atLeast below
  unfold Fits
  rw [Nat.add_sub_cancel]
  generalize (2 : Int) ^ less = half at atLeast below ⊢
  omega

/-- Numbers that fit are their own residue. -/
theorem bmod_of_fits (positive : 0 < bits) {number : Int} (fits : Fits bits number) :
    number.bmod (2 ^ bits) = number := by
  obtain ⟨less, rfl⟩ : ∃ less, bits = less + 1 := ⟨bits - 1, by omega⟩
  obtain ⟨atLeast, below⟩ := fits
  rw [Nat.add_sub_cancel] at atLeast below
  apply Int.bmod_eq_of_le <;> rw [cast_two_pow_succ] <;>
    generalize (2 : Int) ^ less = half at atLeast below ⊢ <;> omega

/-- Of the numbers with one remainder a single one fits. -/
theorem eq_bmod_of_emod_eq (positive : 0 < bits) {number other : Int} (fits : Fits bits other)
    (congruent : other % 2 ^ bits = number % 2 ^ bits) : other = number.bmod (2 ^ bits) := by
  have cast : ((2 ^ bits : Nat) : Int) = 2 ^ bits := by push_cast; rfl
  calc other = other.bmod (2 ^ bits) := (bmod_of_fits positive fits).symm
    _ = (other % (2 ^ bits : Nat)).bmod (2 ^ bits) := (Int.emod_bmod _ _).symm
    _ = (number % (2 ^ bits : Nat)).bmod (2 ^ bits) := by rw [cast, congruent]
    _ = number.bmod (2 ^ bits) := Int.emod_bmod _ _

/-- What an integer becomes in an integer kind. -/
structure Wraps (bits : Nat) (number result : Int) : Prop where
  fits : Fits bits result
  congruent : result % 2 ^ bits = number % 2 ^ bits
  unique : ∀ other, Fits bits other → other % 2 ^ bits = number % 2 ^ bits → other = result
  unchanged : result = number ↔ Fits bits number

theorem wraps_bmod (positive : 0 < bits) (number : Int) :
    Wraps bits number (number.bmod (2 ^ bits)) where
  fits := fits_bmod positive number
  congruent := by
    have cast : ((2 ^ bits : Nat) : Int) = 2 ^ bits := by push_cast; rfl
    rw [← cast]
    exact Int.bmod_emod
  unique := fun _ => eq_bmod_of_emod_eq positive
  unchanged := ⟨fun same => same ▸ fits_bmod positive number, bmod_of_fits positive⟩

/-- An integer in an integer kind is the one number of the kind with its remainder. -/
theorem unbox_integer {number : Int} (isNumber : value.integer? = some number)
    (width : kind.integerBits? = some bits) :
    ∃ converted result, value.unbox kind = .ok converted ∧
      converted.isOfKind kind = true ∧ converted.integer? = some result ∧
      Wraps bits number result := by
  obtain ⟨whole, isWhole, rfl⟩ := toInt64?_of_integer? isNumber
  obtain ⟨converted, isConverted, integer⟩ := convert?_of_toInt64? isWhole width
  exact ⟨converted, _, unbox_eq_ok.mpr isConverted, isOfKind_of_convert? isConverted, integer,
    wraps_bmod (integerBits_pos width) _⟩

/-- The laws of conversion. A converted value stays as it is and passes the check; the check passes
the fixpoints of conversion and nothing else, and fails as conversion does; integer kinds on the way
to a kind of no more bits change nothing; and an integer is kept up to the weight of a kind. -/
theorem conversion_laws (value : Value) :
    (∀ type converted, value.unboxAs type = .ok converted →
      converted.unboxAs type = .ok converted ∧ converted.boxedAs type = .ok converted) ∧
    (∀ kind,
      ((∃ result, value.boxed kind = .ok result) ↔ value.unbox kind = .ok value) ∧
      (∀ result, value.boxed kind = .ok result → result = value) ∧
      ∀ error, value.unbox kind = .error error → value.boxed kind = .error error) ∧
    (∀ wide narrow wideBits narrowBits converted, wide.integerBits? = some wideBits →
      narrow.integerBits? = some narrowBits → narrowBits ≤ wideBits →
      value.unbox wide = .ok converted → converted.unbox narrow = value.unbox narrow) ∧
    ∀ number kind bits, value.integer? = some number → kind.integerBits? = some bits →
      ∃ converted result, value.unbox kind = .ok converted ∧
        converted.isOfKind kind = true ∧ converted.integer? = some result ∧
        Wraps bits number result := by
  refine ⟨fun _ _ => unboxAs_settles, fun kind => ⟨⟨?_, ?_⟩, ?_, fun _ => boxed_of_unbox_error⟩,
    fun _ _ _ _ _ => unbox_through, fun _ _ _ => unbox_integer⟩
  · rintro ⟨result, isBoxed⟩
    exact unbox_self.mpr (boxed_eq_ok.mp isBoxed).1
  · intro settled
    exact ⟨value, boxed_eq_ok.mpr ⟨unbox_self.mp settled, rfl⟩⟩
  · intro result isBoxed
    exact (boxed_eq_ok.mp isBoxed).2.symm

/-- The integer 300 does not fit eight bits, which keep 44 of it, also on the way through sixteen
bits. -/
theorem conversion_laws_three_hundred :
    (Value.int 300).unbox .byte = .ok (.byte 44) ∧
      (Value.byte 44).boxed .byte = .ok (.byte 44) ∧
      (Value.short 300).unbox .byte = (Value.int 300).unbox .byte ∧
      ¬Fits 8 300 := by
  obtain ⟨settles, -, through, integer⟩ := conversion_laws (.int 300)
  have converted : (Value.int 300).unbox .byte = .ok (.byte 44) :=
    unbox_eq_ok.mpr (by decide)
  obtain ⟨_, result, isConverted, -, isResult, wraps⟩ := integer 300 .byte 8 rfl rfl
  rw [converted] at isConverted
  cases isConverted
  cases isResult
  refine ⟨converted, (settles (.primitive .byte) _ converted).2,
    through .short .byte 16 8 _ rfl rfl (by decide) (unbox_eq_ok.mpr (by decide)), ?_⟩
  exact fun fits => absurd (wraps.unchanged.mpr fits) (by decide)

end Value

end OrdinalDispatch

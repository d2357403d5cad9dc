/-!
Contract: binary floating-point numbers of a fixed format, in exact integer
arithmetic.

Owns: the two formats in use, their numbers as magnitudes, the bit patterns,
rounding of an exact value to the nearest number of a format, conversion
between formats and from and to 64-bit integers, and equality of numbers.

Does not own: decimal text, see `OrdinalDispatch.Number.Shortest`.

Not-a-number is one value here, whatever its payload. Every other number is a
sign and a magnitude, which counts the numbers of the format between zero and
it; the largest magnitude is infinity. Hence no magnitude is invalid, and the
magnitude with the sign above it is the bit pattern.
-/

set_option autoImplicit false

namespace OrdinalDispatch.Number

/-- A binary format: the stored bits of a significand, the count of exponent fields of finite
numbers, and the exponent of the last place of the smallest numbers. -/
structure Format where
  fractionBits : Nat
  finiteExponents : Nat
  smallestExponent : Int
deriving DecidableEq, Repr

namespace Format

def single : Format := ⟨23, 255, -149⟩

def double : Format := ⟨52, 2047, -1074⟩

/-- The magnitude of infinity, which follows the largest finite one. -/
def infinity (format : Format) : Nat := format.finiteExponents <<< format.fractionBits

def signWeight (format : Format) : Nat :=
  (format.finiteExponents + 1) <<< format.fractionBits

end Format

inductive Binary (format : Format) where
  | nan
  | number (negative : Bool) (magnitude : Fin (format.infinity + 1))
deriving DecidableEq, Repr

abbrev Single := Binary Format.single

abbrev Double := Binary Format.double

/-- Rounds `value / 2 ^ places` to the nearest integer, a half to the even neighbour. -/
def shiftHalfEven (value places : Nat) : Nat :=
  let quotient := value >>> places
  let divisor := 1 <<< places
  let remainder := value % divisor
  if divisor < 2 * remainder || (2 * remainder == divisor && quotient % 2 == 1) then
    quotient + 1
  else quotient

namespace Binary

variable {format : Format}

/-- The number with a sign and a magnitude; magnitudes past infinity are infinity. -/
def ofMagnitude (negative : Bool) (magnitude : Nat) : Binary format :=
  .number negative ⟨min magnitude format.infinity, by omega⟩

def zero : Binary format := ofMagnitude false 0

def significand (format : Format) (magnitude : Nat) : Nat :=
  if magnitude >>> format.fractionBits = 0 then magnitude
  else (1 <<< format.fractionBits) + magnitude % (1 <<< format.fractionBits)

/-- The exponent of the last place of a finite magnitude. -/
def exponent (format : Format) (magnitude : Nat) : Int :=
  format.smallestExponent + (((magnitude >>> format.fractionBits) - 1 : Nat) : Int)

def ofBits (bits : Nat) : Binary format :=
  let magnitude := bits % format.signWeight
  if h : magnitude < format.infinity + 1 then
    .number (bits / format.signWeight % 2 == 1) ⟨magnitude, h⟩
  else .nan

/-- The bit pattern; not-a-number takes the quiet pattern without a payload. -/
def toBits : Binary format → Nat
  | .nan => format.infinity + (1 <<< (format.fractionBits - 1))
  | .number negative magnitude =>
      (if negative then format.signWeight else 0) + magnitude.val

/-- The number nearest to `value * 2 ^ scale` with the given sign, a tie to the even magnitude. -/
def nearest (negative : Bool) (value : Nat) (scale : Int) : Binary format :=
  if value = 0 then ofMagnitude negative 0
  else
    let lastPlace :=
      max format.smallestExponent (scale + (value.log2 : Int) - (format.fractionBits : Int))
    let kept :=
      if lastPlace ≤ scale then value <<< (scale - lastPlace).toNat
      else shiftHalfEven value (lastPlace - scale).toNat
    ofMagnitude negative
      (((lastPlace - format.smallestExponent).toNat <<< format.fractionBits) + kept)

def convert {target : Format} : Binary format → Binary target
  | .nan => .nan
  | .number negative magnitude =>
      if magnitude.val = format.infinity then ofMagnitude negative target.infinity
      else nearest negative (significand format magnitude) (exponent format magnitude)

def ofInt (value : Int) : Binary format :=
  nearest (value < 0) value.natAbs 0

/-- The magnitude of a finite number cut off after the units. -/
def truncated (format : Format) (magnitude : Nat) : Nat :=
  let scale := exponent format magnitude
  if 0 ≤ scale then (significand format magnitude) <<< scale.toNat
  else (significand format magnitude) >>> (-scale).toNat

/-- Cuts off the fraction. What a 64-bit integer cannot hold becomes its nearest end, and
not-a-number becomes zero. -/
def toInt64 : Binary format → Int64
  | .nan => 0
  | .number negative magnitude =>
      if magnitude.val = format.infinity then
        if negative then Int64.minValue else Int64.maxValue
      else
        let whole : Int := truncated format magnitude
        let value := if negative then -whole else whole
        Int64.ofInt (max Int64.minValue.toInt (min value Int64.maxValue.toInt))

/-- Equality as numbers: not-a-number equals nothing, and the two zeros are equal. -/
def equals : Binary format → Binary format → Bool
  | .number negative magnitude, .number negative' magnitude' =>
      magnitude == magnitude' && (negative == negative' || magnitude.val == 0)
  | _, _ => false

end Binary

end OrdinalDispatch.Number

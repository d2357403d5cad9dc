import OrdinalDispatch.Number.Binary

/-!
Contract: the decimal text of a binary number.

Owns: the shortest decimal that reads back as the same number, and its
positional text.

Does not own: the formats and their rounding, see `OrdinalDispatch.Number.Binary`.

A decimal grid holds the multiples of one power of ten. Grids are tried from
coarse to fine; on each, the two neighbours of the number are tested against
the interval of reals that round to it, in exact integer arithmetic. The first
grid with a hit has the fewest digits, of two hits the nearer is taken, and a
tie goes up.
-/

set_option autoImplicit false

namespace OrdinalDispatch.Number

structure Decimal where
  digits : Nat
  scale : Int
deriving DecidableEq, Repr

/-- A finite number with the interval that rounds to it, all in one unit: the number is
`middle * 2 ^ scale`, the interval reaches from `lower` to `upper`, and `closed` tells whether
its ends belong to it. -/
structure RoundingInterval where
  lower : Nat
  middle : Nat
  upper : Nat
  closed : Bool
  scale : Int
deriving DecidableEq, Repr

namespace RoundingInterval

/-- Half the gap to either neighbour; the gap below a power of two is half as wide. -/
def ofMagnitude (format : Format) (magnitude : Nat) : RoundingInterval :=
  let significand := Binary.significand format magnitude
  { lower := 4 * significand - (if significand = 1 <<< format.fractionBits then 1 else 2)
    middle := 4 * significand
    upper := 4 * significand + 2
    closed := significand % 2 == 0
    scale := Binary.exponent format magnitude - 2 }

/-- The number of units in one step of the grid of `10 ^ power`, as a fraction: a multiple `c` of
`10 ^ power` is compared with a count `n` of units by comparing `c * step.1` with `n * step.2`. -/
def gridStep (interval : RoundingInterval) (power : Int) : Nat × Nat :=
  (Nat.pow 10 power.toNat <<< (-interval.scale).toNat,
    Nat.pow 10 (-power).toNat <<< interval.scale.toNat)

/-- Whether a multiple of `10 ^ power` lies in the interval. -/
def holds (interval : RoundingInterval) (power : Int) (multiple : Nat) : Bool :=
  let (step, unit) := interval.gridStep power
  if interval.closed then
    interval.lower * unit ≤ multiple * step && multiple * step ≤ interval.upper * unit
  else
    interval.lower * unit < multiple * step && multiple * step < interval.upper * unit

def hit? (interval : RoundingInterval) (power : Int) : Option Decimal :=
  let (step, unit) := interval.gridStep power
  let below := interval.middle * unit / step
  let remainder := interval.middle * unit % step
  match interval.holds power below, interval.holds power (below + 1) with
  | false, false => none
  | true, false => some ⟨below, power⟩
  | false, true => some ⟨below + 1, power⟩
  | true, true => some ⟨if 2 * remainder < step then below else below + 1, power⟩

/-- A power of ten no smaller than the number. -/
def coarsestPower (interval : RoundingInterval) : Int :=
  ((interval.middle.log2 : Int) + interval.scale + 1) * 30103 / 100000 + 1

/-- The hit of the coarsest grid that has one. -/
def shortest (interval : RoundingInterval) (grids : Nat) : Decimal :=
  ((List.range grids).findSome? fun (index : Nat) =>
    interval.hit? (interval.coarsestPower - Int.ofNat index)).getD ⟨0, 0⟩

end RoundingInterval

namespace Decimal

/-- All digits, without an exponent; a whole number has no point. -/
def positional (decimal : Decimal) : String :=
  let digits := Nat.toDigits 10 decimal.digits
  if 0 ≤ decimal.scale then
    String.ofList (digits ++ List.replicate decimal.scale.toNat '0')
  else
    let places := (-decimal.scale).toNat
    let padded := List.replicate (places + 1 - digits.length) '0' ++ digits
    let whole := padded.length - places
    String.ofList (padded.take whole ++ '.' :: padded.drop whole)

end Decimal

namespace Binary

variable {format : Format}

/-- The shortest decimal text that reads back as the number. -/
def text : Binary format → String
  | .nan => "NaN"
  | .number negative magnitude =>
      let sign := if negative then "-" else ""
      if magnitude.val = format.infinity then sign ++ "inf"
      else if magnitude.val = 0 then sign ++ "0"
      else
        let interval := RoundingInterval.ofMagnitude format magnitude
        sign ++ (interval.shortest (format.fractionBits + 8)).positional

end Binary

end OrdinalDispatch.Number

/-!
Contract: numbers as little-endian bytes.

Owns: writing a number in a fixed count of bytes, reading it back from a list or
from a place in an array, and writing bytes over others.

Does not own: which operand of which instruction takes how many bytes, nor the
laws of writing and reading, see `OrdinalDispatch.Proofs.Code.Placement`.
-/

set_option autoImplicit false

namespace OrdinalDispatch.Code

/-- The lowest `width` bytes of a number, lowest first. -/
def toBytes : Nat → Nat → List UInt8
  | 0, _ => []
  | width + 1, value => UInt8.ofNat value :: toBytes width (value / 256)

/-- The number that a list of bytes stands for, lowest byte first. -/
def ofBytes : List UInt8 → Nat
  | [] => 0
  | byte :: rest => byte.toNat + 256 * ofBytes rest

@[simp]
theorem length_toBytes (width value : Nat) : (toBytes width value).length = width := by
  induction width generalizing value with
  | zero => rfl
  | succ width inductiveHypothesis => simp [toBytes, inductiveHypothesis]

/-- The `width` bytes that start at `offset`, as a number; bytes past the end count as zero. -/
def readBytes (code : Array UInt8) (offset : Nat) : Nat → Nat
  | 0 => 0
  | width + 1 => (code.getD offset 0).toNat + 256 * readBytes code (offset + 1) width

/-- The code with other bytes from an offset on; what does not fit into it is left out. -/
def overwrite (code : Array UInt8) (offset : Nat) : List UInt8 → Array UInt8
  | [] => code
  | byte :: rest => overwrite (code.setIfInBounds offset byte) (offset + 1) rest

end OrdinalDispatch.Code

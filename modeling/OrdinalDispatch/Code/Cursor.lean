import OrdinalDispatch.Code.Bytes

/-!
Contract: reading code operand by operand.

Owns: readings, which go from an offset to the offset behind what they read, the
readings of bytes, indices, counts and offsets, and that none of them goes back.

Does not own: which operation has which operands. The check, the listing and the
machine each read operands in their own way.
-/

set_option autoImplicit false

namespace OrdinalDispatch.Code

/-- A reading of code. From an offset it comes to what it reads and to the offset behind that, or to
nothing if the code is too short. -/
abbrev Reading (Result : Type) := StateT Nat Option Result

def readByte (code : Array UInt8) : Reading UInt8 := fun offset =>
  code[offset]?.map fun byte => (byte, offset + 1)

/-- Reads a number of `width` bytes, all of which must be there. -/
def readNumber (code : Array UInt8) (width : Nat) : Reading Nat := fun offset =>
  if offset + width ≤ code.size then some (readBytes code offset width, offset + width) else none

def readIndex (code : Array UInt8) : Reading UInt16 := UInt16.ofNat <$> readNumber code 2

def readWord (code : Array UInt8) : Reading UInt32 := UInt32.ofNat <$> readNumber code 4

/-- Goes on reading so many counts or offsets in a row. -/
def readWords (code : Array UInt8) : (count : Nat) → Array UInt32 → Reading (Array UInt32)
  | 0, found => return found
  | count + 1, found => do
      let word ← readWord code
      readWords code count (found.push word)

/-- Leaves out so many bytes without looking whether they are there. -/
def passOver (count : Nat) : Reading Unit := modify (· + count)

/-! ## Readings go forward -/

/-- The reading does not go back. -/
def Forward {Result : Type} (reading : Reading Result) : Prop :=
  ∀ offset result next, reading.run offset = some (result, next) → offset ≤ next

section Forward

variable {Result Next : Type} {code : Array UInt8}

theorem forward_pure (result : Result) : Forward (pure result) := by
  intro offset other next done
  obtain ⟨-, rfl⟩ := Prod.mk.inj (Option.some.inj done)
  exact Nat.le_refl offset

theorem Forward.bind {reading : Reading Result} {following : Result → Reading Next}
    (front : Forward reading) (back : ∀ result, Forward (following result)) :
    Forward (reading >>= following) := by
  intro offset last next done
  rw [StateT.run_bind] at done
  obtain ⟨⟨result, middle⟩, first, second⟩ := Option.bind_eq_some_iff.mp done
  exact Nat.le_trans (front offset result middle first) (back result middle last next second)

theorem Forward.map {reading : Reading Result} (front : Forward reading)
    (change : Result → Next) : Forward (change <$> reading) := by
  rw [map_eq_pure_bind]
  exact front.bind fun result => forward_pure _

theorem lt_of_readByte {offset next : Nat} {byte : UInt8}
    (done : (readByte code).run offset = some (byte, next)) : offset < next := by
  obtain ⟨present, -, same⟩ := Option.map_eq_some_iff.mp done
  obtain ⟨-, rfl⟩ := Prod.mk.inj same
  exact Nat.lt_succ_self offset

theorem forward_readByte : Forward (readByte code) :=
  fun _ _ _ done => Nat.le_of_lt (lt_of_readByte done)

theorem forward_readNumber (width : Nat) : Forward (readNumber code width) := by
  intro offset number next done
  simp only [StateT.run, readNumber, Option.ite_none_right_eq_some, Option.some.injEq,
    Prod.mk.injEq] at done
  omega

theorem forward_readIndex : Forward (readIndex code) := (forward_readNumber 2).map _

theorem forward_readWord : Forward (readWord code) := (forward_readNumber 4).map _

theorem forward_readWords (count : Nat) (found : Array UInt32) :
    Forward (readWords code count found) := by
  induction count generalizing found with
  | zero => exact forward_pure found
  | succ count inductionHypothesis =>
      exact forward_readWord.bind fun word => inductionHypothesis (found.push word)

/-- An optional value is read without reading anything. -/
theorem forward_lift (value : Option Result) : Forward (liftM value : Reading Result) := by
  intro offset result next done
  cases value with
  | none => cases done
  | some value =>
      obtain ⟨-, rfl⟩ := Prod.mk.inj (Option.some.inj done)
      exact Nat.le_refl offset

end Forward

end OrdinalDispatch.Code

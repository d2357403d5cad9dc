import Mathlib.Algebra.Ring.Nat
import OrdinalDispatch.Code.Instruction

/-!
Contract: what is read where operands stand.

Owns: operands told from their places alone, what each reading comes to at a
place, and that the check reads the operands of the operation that it found.

Does not own: what the listing and the machine read, see
`OrdinalDispatch.Proofs.Code.ListingLayout` and
`OrdinalDispatch.Proofs.Machine.Fetching`.

The length of its operands is looked up in one table for each operation, and the
operands are read in their own order. The two agree for every operation.
-/

set_option autoImplicit false

namespace OrdinalDispatch.Code

/-! ## Operands at their places -/

namespace Instruction

/-- The pool index at an offset. -/
def indexAt (code : Array UInt8) (offset : Nat) : UInt16 :=
  UInt16.ofNat (readBytes code offset 2)

/-- The count or offset at an offset. -/
def wordAt (code : Array UInt8) (offset : Nat) : UInt32 :=
  UInt32.ofNat (readBytes code offset 4)

/-- Counts or offsets one behind the other from an offset on. -/
def wordsAt (code : Array UInt8) (offset count : Nat) : List UInt32 :=
  (List.range count).map fun index => wordAt code (offset + 4 * index)

/-- The primitive kind at an offset. -/
def kindAt (code : Array UInt8) (offset : Nat) : Except DecodeFault Primitive :=
  kindOf (code.getD offset 0)

/-- The instruction of an operation whose operands, all present, start at an offset. -/
def ofOperands (code : Array UInt8) (offset : Nat) :
    Opcode → Except DecodeFault (Instruction UInt32)
  | .checkArguments => .ok (.checkArguments (indexAt code offset))
  | .checkBounds => .ok (.checkBounds (wordAt code offset) (indexAt code (offset + 4)))
  | .checkArity => .ok (.checkArity (indexAt code offset) (indexAt code (offset + 2)))
  | .tableSwitch =>
      .ok (.tableSwitch (wordAt code (offset + 4))
        (wordsAt code (offset + 8) (readBytes code offset 4)))
  | .throwIllegal => .ok (.throwIllegal (indexAt code offset))
  | .throwNoDefault => .ok .throwNoDefault
  | .loadReceiver => .ok .loadReceiver
  | .loadArgument => .ok (.loadArgument (indexAt code offset))
  | .loadValue => .ok .loadValue
  | .constNull => .ok .constNull
  | .pop => .ok .pop
  | .unbox => (kindAt code offset).map .unbox
  | .box => (kindAt code offset).map .box
  | .checkCast => .ok (.checkCast (indexAt code offset))
  | .construct => .ok (.construct (indexAt code offset))
  | .invoke kind => .ok (.invoke kind (indexAt code offset))
  | .getField isStatic => .ok (.getField isStatic (indexAt code offset))
  | .putField isStatic => .ok (.putField isStatic (indexAt code offset))
  | .returnTop => .ok .returnTop
  | .returnNull => .ok .returnNull

end Instruction

open Instruction

/-! ## Readings at a place -/

section Readings

variable {code : Array UInt8} {offset : Nat}

/-- Bytes are bounded, and so is the number that they make. -/
theorem readBytes_lt (code : Array UInt8) (offset width : Nat) :
    readBytes code offset width < 256 ^ width := by
  induction width generalizing offset with
  | zero => exact Nat.one_pos
  | succ width inductionHypothesis =>
      have lowest := (code.getD offset 0).toNat_lt
      have others := inductionHypothesis (offset + 1)
      rw [readBytes, Nat.pow_succ]
      omega

theorem toNat_wordAt (code : Array UInt8) (offset : Nat) :
    (wordAt code offset).toNat = readBytes code offset 4 :=
  UInt32.toNat_ofNat_of_lt' (readBytes_lt code offset 4)

/-- What comes next is read behind what was read first. -/
theorem run_bind_of_some {Result Next : Type} {reading : Reading Result}
    {following : Result → Reading Next} {result : Result} {next : Nat}
    (done : reading.run offset = some (result, next)) :
    (reading >>= following).run offset = (following result).run next := by
  rw [StateT.run_bind, done]
  rfl

theorem run_bind_of_none {Result Next : Type} {reading : Reading Result}
    {following : Result → Reading Next} (failed : reading.run offset = none) :
    (reading >>= following).run offset = none := by
  rw [StateT.run_bind, failed]
  rfl

theorem run_readByte (inside : offset + 1 ≤ code.size) :
    (readByte code).run offset = some (code.getD offset 0, offset + 1) := by
  simp only [StateT.run, readByte, Array.getElem?_eq_getElem inside, Option.map_some]
  rw [Array.getD_eq_getD_getElem?, Array.getElem?_eq_getElem inside, Option.getD_some]

theorem run_readByte_eq_none (outside : code.size < offset + 1) :
    (readByte code).run offset = none := by
  simp only [StateT.run, readByte, Array.getElem?_eq_none (Nat.le_of_lt_succ outside),
    Option.map_none]

theorem run_readIndex (inside : offset + 2 ≤ code.size) :
    (readIndex code).run offset = some (indexAt code offset, offset + 2) := by
  rw [readIndex, StateT.run_map, StateT.run, readNumber, if_pos inside]
  rfl

theorem run_readIndex_eq_none (outside : code.size < offset + 2) :
    (readIndex code).run offset = none := by
  rw [readIndex, StateT.run_map, StateT.run, readNumber, if_neg (Nat.not_le.mpr outside)]
  rfl

theorem run_readWord (inside : offset + 4 ≤ code.size) :
    (readWord code).run offset = some (wordAt code offset, offset + 4) := by
  rw [readWord, StateT.run_map, StateT.run, readNumber, if_pos inside]
  rfl

theorem run_readWord_eq_none (outside : code.size < offset + 4) :
    (readWord code).run offset = none := by
  rw [readWord, StateT.run_map, StateT.run, readNumber, if_neg (Nat.not_le.mpr outside)]
  rfl

@[simp]
theorem length_wordsAt (code : Array UInt8) (offset count : Nat) :
    (wordsAt code offset count).length = count := by
  rw [wordsAt, List.length_map, List.length_range]

theorem wordsAt_succ (code : Array UInt8) (offset count : Nat) :
    wordsAt code offset (count + 1) = wordAt code offset :: wordsAt code (offset + 4) count := by
  rw [wordsAt, List.range_succ_eq_map, List.map_cons, List.map_map, Nat.mul_zero, Nat.add_zero]
  refine congrArg (wordAt code offset :: ·) (List.map_congr_left fun index _ => ?_)
  exact congrArg (wordAt code) (by omega)

theorem getD_wordsAt {count index : Nat} (below : index < count) (other : UInt32) :
    (wordsAt code offset count).getD index other = wordAt code (offset + 4 * index) := by
  rw [List.getD_eq_getElem?_getD, wordsAt, List.getElem?_map, List.getElem?_range below]
  rfl

theorem run_passOver (count : Nat) : (passOver count).run offset = some ((), offset + count) := rfl

theorem run_readWords {count : Nat} (inside : offset + 4 * count ≤ code.size)
    (found : Array UInt32) :
    (readWords code count found).run offset =
      some (found ++ (wordsAt code offset count).toArray, offset + 4 * count) := by
  induction count generalizing offset found with
  | zero =>
      rw [readWords, wordsAt, List.range_zero, List.map_nil, Array.append_empty]
      rfl
  | succ count inductionHypothesis =>
      have words : found.push (wordAt code offset) ++ (wordsAt code (offset + 4) count).toArray =
          found ++ (wordsAt code offset (count + 1)).toArray := by
        rw [wordsAt_succ, Array.push_eq_append, Array.append_assoc]
        simp
      have ends : offset + 4 + 4 * count = offset + 4 * (count + 1) := by omega
      rw [readWords, run_bind_of_some (run_readWord (by omega)), inductionHypothesis (by omega),
        words, ends]

theorem run_readWords_eq_none {count : Nat} (start : offset ≤ code.size)
    (outside : code.size < offset + 4 * count) (found : Array UInt32) :
    (readWords code count found).run offset = none := by
  induction count generalizing offset found with
  | zero => omega
  | succ count inductionHypothesis =>
      rw [readWords]
      by_cases inside : offset + 4 ≤ code.size
      · rw [run_bind_of_some (run_readWord inside), inductionHypothesis inside (by omega)]
      · rw [run_bind_of_none (run_readWord_eq_none (Nat.not_le.mp inside))]

end Readings

/-! ## Operands of an operation -/

namespace Instruction

section Operands

variable {code : Array UInt8} {offset : Nat}

/-- The count of operand bytes of an operation whose operands start at an offset. -/
def lengthAt (code : Array UInt8) (offset : Nat) (opcode : Opcode) : Nat :=
  if opcode = .tableSwitch then 8 + 4 * readBytes code offset 4 else opcode.fixedOperandLength

/-- The length that is looked up at an operation is the length of its operands. -/
theorem length_eq_lengthAt {byte : UInt8} {opcode : Opcode} {length : Nat}
    (present : code[offset]? = some byte) (known : Opcode.ofByte? byte = some opcode)
    (measured : operandLength? code offset = some length) :
    length = lengthAt code (offset + 1) opcode := by
  simp only [operandLength?, present, known, Option.bind_eq_bind, Option.bind_some] at measured
  unfold lengthAt
  split at measured
  · rename_i switched
    rw [if_pos switched]
    split at measured
    · exact (Option.some.inj measured).symm
    · cases measured
  · rename_i plain
    rw [if_neg plain]
    exact (Option.some.inj measured).symm

/-- A length is looked up where the operands are all there. -/
theorem operandLength?_of_inside {byte : UInt8} {opcode : Opcode}
    (present : code[offset]? = some byte) (known : Opcode.ofByte? byte = some opcode)
    (inside : offset + 1 + lengthAt code (offset + 1) opcode ≤ code.size) :
    operandLength? code offset = some (lengthAt code (offset + 1) opcode) := by
  simp only [operandLength?, present, known, Option.bind_eq_bind, Option.bind_some]
  unfold lengthAt at inside ⊢
  split
  · rename_i switched
    rw [if_pos switched] at inside
    rw [if_pos (by omega)]
  · rfl

/-- Where its operands are all there, the check reads them. -/
theorem run_readOperands {opcode : Opcode}
    (inside : offset + lengthAt code offset opcode ≤ code.size) :
    (readOperands code opcode).run offset =
      some (ofOperands code offset opcode, offset + lengthAt code offset opcode) := by
  cases opcode with
  | tableSwitch =>
      have count := toNat_wordAt code offset
      rw [lengthAt, if_pos rfl] at inside ⊢
      have ends : offset + 4 + 4 + 4 * readBytes code offset 4 =
          offset + (8 + 4 * readBytes code offset 4) := by omega
      rw [readOperands, run_bind_of_some (run_readWord (by omega)),
        run_bind_of_some (run_readWord (by omega)), count,
        run_bind_of_some (run_readWords (by omega) #[]), ends, Array.empty_append]
      rfl
  | checkBounds =>
      have within : offset + 6 ≤ code.size := inside
      rw [readOperands, run_bind_of_some (run_readWord (by omega)),
        run_bind_of_some (run_readIndex (by omega))]
      rfl
  | checkArity =>
      have within : offset + 4 ≤ code.size := inside
      rw [readOperands, run_bind_of_some (run_readIndex (by omega)),
        run_bind_of_some (run_readIndex (by omega))]
      rfl
  | unbox | box =>
      rw [readOperands, run_bind_of_some (run_readByte inside)]
      rfl
  | throwNoDefault | loadReceiver | loadValue | constNull | pop | returnTop | returnNull => rfl
  | _ =>
      rw [readOperands, run_bind_of_some (run_readIndex inside)]
      rfl

end Operands

/-! ## Decoded instructions -/

section Decoded

variable {code : Array UInt8} {offset next : Nat} {instruction : Instruction UInt32}

/-- A decoded instruction is of the operation that was decoded. -/
theorem opcode_of_ofOperands {opcode : Opcode}
    (decoded : ofOperands code offset opcode = .ok instruction) :
    instruction.opcode = opcode := by
  cases opcode with
  | unbox | box =>
      cases found : kindAt code offset with
      | error fault =>
          rw [ofOperands, found] at decoded
          cases decoded
      | ok kind =>
          rw [ofOperands, found] at decoded
          obtain rfl := Except.ok.inj decoded
          rfl
  | _ =>
      obtain rfl := Except.ok.inj decoded
      rfl

/-- All operations but the switch have operands of a fixed length. -/
theorem size_eq_of_opcode {Target : Type} {instruction : Instruction Target}
    (plain : instruction.opcode ≠ .tableSwitch) :
    instruction.size = 1 + instruction.opcode.fixedOperandLength := by
  cases instruction with
  | tableSwitch fallback targets => exact absurd rfl plain
  | _ => rfl

/-- A decoded instruction is as long as its operation and its operands. -/
theorem size_of_ofOperands {opcode : Opcode}
    (decoded : ofOperands code offset opcode = .ok instruction) :
    instruction.size = 1 + lengthAt code offset opcode := by
  have isOpcode := opcode_of_ofOperands decoded
  unfold lengthAt
  split
  · rename_i switched
    subst switched
    obtain rfl := Except.ok.inj decoded
    rw [size, length_wordsAt]
  · rename_i plain
    rw [size_eq_of_opcode (isOpcode ▸ plain), isOpcode]

/-- What decodes has an operation that is known, and operands that are all there. -/
theorem exists_of_decode (decoded : decode code offset = .ok instruction) :
    ∃ byte opcode, code[offset]? = some byte ∧ Opcode.ofByte? byte = some opcode ∧
      offset + 1 + lengthAt code (offset + 1) opcode ≤ code.size ∧
      ofOperands code (offset + 1) opcode = .ok instruction := by
  cases found : decodeFrom code offset with
  | error fault =>
      rw [decode, found] at decoded
      cases decoded
  | ok result =>
      rw [decode, found] at decoded
      obtain rfl := Except.ok.inj decoded
      obtain ⟨byte, opcode, length, present, known, measured, inside, read⟩ :=
        exists_of_decodeFrom found
      obtain rfl := length_eq_lengthAt present known measured
      rw [run_readOperands inside] at read
      exact ⟨byte, opcode, present, known, inside, (Prod.mk.inj (Option.some.inj read)).1⟩

/-- A known operation with all its operands is decoded as they say. -/
theorem decodeFrom_eq {byte : UInt8} {opcode : Opcode} (present : code[offset]? = some byte)
    (known : Opcode.ofByte? byte = some opcode)
    (inside : offset + 1 + lengthAt code (offset + 1) opcode ≤ code.size) :
    decodeFrom code offset = (ofOperands code (offset + 1) opcode).map fun instruction =>
      (instruction, offset + 1 + lengthAt code (offset + 1) opcode) := by
  simp only [decodeFrom, present, known, operandLength?_of_inside present known inside,
    if_pos inside, run_readOperands inside]

theorem decode_eq {byte : UInt8} {opcode : Opcode} (present : code[offset]? = some byte)
    (known : Opcode.ofByte? byte = some opcode)
    (inside : offset + 1 + lengthAt code (offset + 1) opcode ≤ code.size) :
    decode code offset = ofOperands code (offset + 1) opcode := by
  rw [decode, decodeFrom_eq present known inside]
  cases ofOperands code (offset + 1) opcode <;> rfl

/-- Reading goes on behind a decoded instruction. -/
theorem decodeFrom_of_decode (decoded : decode code offset = .ok instruction) :
    decodeFrom code offset = .ok (instruction, offset + instruction.size) := by
  obtain ⟨byte, opcode, present, known, inside, read⟩ := exists_of_decode decoded
  rw [decodeFrom_eq present known inside, read, size_of_ofOperands read, ← Nat.add_assoc]
  rfl

theorem decode_of_decodeFrom (decoded : decodeFrom code offset = .ok (instruction, next)) :
    decode code offset = .ok instruction ∧ next = offset + instruction.size := by
  have isDecoded : decode code offset = .ok instruction := by
    rw [decode, decoded]
    rfl
  rw [decodeFrom_of_decode isDecoded] at decoded
  exact ⟨isDecoded, (Prod.mk.inj (Except.ok.inj decoded)).2.symm⟩

theorem decode_of_error {fault : DecodeFault}
    (undecodable : decodeFrom code offset = .error fault) :
    decode code offset = .error fault := by
  rw [decode, undecodable]
  rfl

/-- A decoded instruction ends within the code. -/
theorem end_le_of_decode (decoded : decode code offset = .ok instruction) :
    offset + instruction.size ≤ code.size := by
  obtain ⟨byte, opcode, present, known, inside, read⟩ := exists_of_decode decoded
  rw [size_of_ofOperands read]
  omega

/-- What decodes lies within the code. -/
theorem lt_size_of_decode (decoded : decode code offset = .ok instruction) :
    offset < code.size :=
  Nat.lt_of_lt_of_le (Nat.lt_add_of_pos_right instruction.size_pos) (end_le_of_decode decoded)

end Decoded

end Instruction

end OrdinalDispatch.Code

import Mathlib.Algebra.Ring.Nat
import OrdinalDispatch.Proofs.Code.Reading

/-!
Contract: bytes that stand at a place in code, and what decoding makes of them.

Owns: the laws of writing and reading numbers, the relation between a place and
the bytes from there on, reading numbers back from a place, and the law that an
instruction is decoded wherever its encoding stands.

Does not own: how an encoding comes to stand at its place, see
`OrdinalDispatch.Proofs.Code.Assembly`.
-/

set_option autoImplicit false

namespace OrdinalDispatch.Code

/-! ## Numbers as bytes -/

/-- Bytes that were cut off are lost, and nothing else is. -/
theorem ofBytes_toBytes (width value : Nat) :
    ofBytes (toBytes width value) = value % 256 ^ width := by
  induction width generalizing value with
  | zero => simp [toBytes, ofBytes, Nat.mod_one]
  | succ width inductionHypothesis =>
      have split := Nat.mod_mul (x := value) (a := 256) (b := 256 ^ width)
      simp only [toBytes, ofBytes, inductionHypothesis, UInt8.toNat_ofNat', Nat.pow_succ]
      rw [Nat.mul_comm (256 ^ width) 256, split]

theorem toBytes_ofBytes (bytes : List UInt8) : toBytes bytes.length (ofBytes bytes) = bytes := by
  induction bytes with
  | nil => rfl
  | cons byte rest inductionHypothesis =>
      have bound := byte.toNat_lt
      have low : UInt8.ofNat (byte.toNat + 256 * ofBytes rest) = byte := by
        apply UInt8.toNat_inj.mp
        rw [UInt8.toNat_ofNat']
        omega
      have high : (byte.toNat + 256 * ofBytes rest) / 256 = ofBytes rest := by omega
      simp only [List.length_cons, ofBytes, toBytes, low, high, inductionHypothesis]

/-! ## Bytes at a place -/

/-- The bytes stand in the code from an offset on. -/
def BytesAt (code : Array UInt8) : Nat → List UInt8 → Prop
  | _, [] => True
  | offset, byte :: rest => code[offset]? = some byte ∧ BytesAt code (offset + 1) rest

namespace BytesAt

variable {code : Array UInt8}

theorem append_iff {offset : Nat} {front back : List UInt8} :
    BytesAt code offset (front ++ back) ↔
      BytesAt code offset front ∧ BytesAt code (offset + front.length) back := by
  induction front generalizing offset with
  | nil => simp [BytesAt]
  | cons byte rest inductionHypothesis =>
      simp only [List.cons_append, BytesAt, inductionHypothesis, List.length_cons, and_assoc]
      rw [show offset + 1 + rest.length = offset + (rest.length + 1) by omega]

/-- What stands in the code ends within it. -/
theorem bound {offset : Nat} {bytes : List UInt8} (stands : BytesAt code offset bytes)
    (inside : offset ≤ code.size) : offset + bytes.length ≤ code.size := by
  induction bytes generalizing offset with
  | nil => exact inside
  | cons byte rest inductionHypothesis =>
      obtain ⟨present, following⟩ := stands
      have below : offset < code.size := (Array.getElem?_eq_some_iff.mp present).1
      have ends := inductionHypothesis following below
      rw [List.length_cons]
      omega

/-- A part of a list of bytes stands in the array of all of them, behind the part before it. -/
theorem of_split (front middle back : List UInt8) :
    BytesAt (front ++ (middle ++ back)).toArray front.length middle := by
  induction middle generalizing front with
  | nil => trivial
  | cons byte rest inductionHypothesis =>
      refine ⟨by simp, ?_⟩
      have shifted := inductionHypothesis (front ++ [byte])
      simpa using shifted

theorem readBytes_eq {offset : Nat} {bytes : List UInt8} (stands : BytesAt code offset bytes) :
    readBytes code offset bytes.length = ofBytes bytes := by
  induction bytes generalizing offset with
  | nil => rfl
  | cons byte rest inductionHypothesis =>
      obtain ⟨present, following⟩ := stands
      rw [List.length_cons, readBytes, inductionHypothesis following, ofBytes,
        Array.getD_eq_getD_getElem?, present, Option.getD_some]

end BytesAt

namespace Instruction

variable {code : Array UInt8} {offset : Nat}

theorem length_indexBytes (index : UInt16) : (indexBytes index).length = 2 := by
  simp [indexBytes]

theorem length_wordBytes (word : UInt32) : (wordBytes word).length = 4 := by
  simp [wordBytes]

theorem indexAt_eq {index : UInt16} (stands : BytesAt code offset (indexBytes index)) :
    indexAt code offset = index := by
  have read := stands.readBytes_eq
  have small : index.toNat < 256 ^ 2 := index.toNat_lt
  rw [length_indexBytes, indexBytes, ofBytes_toBytes, Nat.mod_eq_of_lt small] at read
  rw [indexAt, read, UInt16.ofNat_toNat]

theorem readBytes_wordBytes {word : UInt32} (stands : BytesAt code offset (wordBytes word)) :
    readBytes code offset 4 = word.toNat := by
  have read := stands.readBytes_eq
  have small : word.toNat < 256 ^ 4 := word.toNat_lt
  rwa [length_wordBytes, wordBytes, ofBytes_toBytes, Nat.mod_eq_of_lt small] at read

theorem wordAt_eq {word : UInt32} (stands : BytesAt code offset (wordBytes word)) :
    wordAt code offset = word := by
  rw [wordAt, readBytes_wordBytes stands, UInt32.ofNat_toNat]

theorem kindAt_eq {kind : Primitive} (stands : BytesAt code offset [kind.code]) :
    kindAt code offset = .ok kind := by
  have present : code.getD offset 0 = kind.code := by
    rw [Array.getD_eq_getD_getElem?, stands.1, Option.getD_some]
  simp only [kindAt, kindOf, present, Primitive.ofCode?_code]

/-- The words of a list that stand one behind the other are read back in order. -/
theorem wordsAt_eq {words : List UInt32} (stands : BytesAt code offset (words.flatMap wordBytes)) :
    wordsAt code offset words.length = words := by
  induction words generalizing offset with
  | nil => rfl
  | cons word rest inductionHypothesis =>
      rw [List.flatMap_cons, BytesAt.append_iff, length_wordBytes] at stands
      rw [List.length_cons, wordsAt_succ, wordAt_eq stands.1, inductionHypothesis stands.2]

/-- The count of a switch is read back as long as it fits its four bytes. -/
theorem switchCount_eq {targets : List UInt32}
    (stands : BytesAt code offset (wordBytes (UInt32.ofNat targets.length)))
    (fits : targets.length < 2 ^ 32) : readBytes code offset 4 = targets.length := by
  rw [readBytes_wordBytes stands, UInt32.toNat_ofNat', Nat.mod_eq_of_lt fits]

theorem length_flatMap_wordBytes (words : List UInt32) :
    (words.flatMap wordBytes).length = 4 * words.length := by
  induction words with
  | nil => rfl
  | cons word rest inductionHypothesis =>
      rw [List.flatMap_cons, List.length_append, length_wordBytes, inductionHypothesis,
        List.length_cons]
      omega

/-- Encoding writes as many bytes as the size of an instruction tells. -/
theorem length_encode (instruction : Instruction UInt32) :
    instruction.encode.length = instruction.size := by
  rw [encode, List.length_cons, Nat.add_comm]
  unfold size
  cases instruction <;>
    simp only [operandBytes, opcode, Opcode.fixedOperandLength, List.length_append,
      List.length_cons, List.length_nil, length_indexBytes, length_wordBytes,
      length_flatMap_wordBytes]

theorem size_mapTargets {Target Other : Type} (replace : Target → Other)
    (instruction : Instruction Target) :
    (instruction.mapTargets replace).size = instruction.size := by
  cases instruction <;> simp [mapTargets, size, opcode]

theorem targets_mapTargets {Target Other : Type} (replace : Target → Other)
    (instruction : Instruction Target) :
    (instruction.mapTargets replace).targets = instruction.targets.map replace := by
  cases instruction <;> rfl

/-- The operands of an instruction, where they stand, are read back. -/
theorem ofOperands_eq {instruction : Instruction UInt32}
    (stands : BytesAt code offset instruction.operandBytes)
    (few : instruction.targets.length ≤ 2 ^ 32) :
    ofOperands code offset instruction.opcode = .ok instruction := by
  cases instruction with
  | checkBounds count message =>
      rw [operandBytes, BytesAt.append_iff, length_wordBytes] at stands
      simp only [opcode, ofOperands, wordAt_eq stands.1, indexAt_eq stands.2]
  | checkArity table message =>
      rw [operandBytes, BytesAt.append_iff, length_indexBytes] at stands
      simp only [opcode, ofOperands, indexAt_eq stands.1, indexAt_eq stands.2]
  | tableSwitch fallback targets =>
      rw [operandBytes, BytesAt.append_iff, BytesAt.append_iff, List.length_append,
        length_wordBytes, length_wordBytes] at stands
      have count := switchCount_eq stands.1.1 few
      simp only [opcode, ofOperands, count, wordAt_eq stands.1.2]
      rw [show offset + (4 + 4) = offset + 8 by omega] at stands
      rw [wordsAt_eq stands.2]
  | unbox kind => simp only [opcode, ofOperands, kindAt_eq stands, Except.map]
  | box kind => simp only [opcode, ofOperands, kindAt_eq stands, Except.map]
  | checkArguments message => simp only [opcode, ofOperands, indexAt_eq stands]
  | throwIllegal message => simp only [opcode, ofOperands, indexAt_eq stands]
  | loadArgument index => simp only [opcode, ofOperands, indexAt_eq stands]
  | checkCast target => simp only [opcode, ofOperands, indexAt_eq stands]
  | construct constructor => simp only [opcode, ofOperands, indexAt_eq stands]
  | invoke kind method => simp only [opcode, ofOperands, indexAt_eq stands]
  | getField isStatic field => simp only [opcode, ofOperands, indexAt_eq stands]
  | putField isStatic field => simp only [opcode, ofOperands, indexAt_eq stands]
  | _ => rfl

/-- An instruction is decoded wherever its encoding stands. -/
theorem decode_of_bytesAt {instruction : Instruction UInt32}
    (stands : BytesAt code offset instruction.encode)
    (few : instruction.targets.length ≤ 2 ^ 32) :
    decode code offset = .ok instruction := by
  have ends := stands.bound (Nat.le_of_lt (Array.getElem?_eq_some_iff.mp stands.1).1)
  have read := ofOperands_eq stands.2 few
  have size := size_of_ofOperands read
  rw [length_encode] at ends
  rw [decode_eq stands.1 (Opcode.ofByte?_byte _) (by omega), read]

end Instruction

end OrdinalDispatch.Code

import OrdinalDispatch.Code.Listing
import OrdinalDispatch.Proofs.Code.Sweeping

/-!
Contract: the listing reads the instructions that the check decodes.

Owns: the text of an instruction, what the listing reads where an instruction
decodes and where none does, and that its lines follow the sweep of the code.

Does not own: the layout of the whole listing, see
`OrdinalDispatch.Proofs.Code.ListingLayout`.

The check looks up the length of all operands before it reads any, and the
listing reads one operand after the other. Both stop at the same places.
-/

set_option autoImplicit false

namespace OrdinalDispatch.Code.Listing

open Instruction (kindAt kindOf ofOperands lengthAt)

variable {image : Image} {place : Nat}

/-! ## Texts of instructions -/

/-- The text of an instruction. -/
def instruction (image : Image) (shown : Instruction UInt32) : String :=
  match shown with
  | .checkArguments message => withOperands shown.opcode (reference image message)
  | .throwIllegal message => withOperands shown.opcode (reference image message)
  | .checkCast target => withOperands shown.opcode (reference image target)
  | .construct constructor => withOperands shown.opcode (reference image constructor)
  | .invoke _ method => withOperands shown.opcode (reference image method)
  | .getField _ field => withOperands shown.opcode (reference image field)
  | .putField _ field => withOperands shown.opcode (reference image field)
  | .checkBounds count message =>
      withOperands shown.opcode (toString count.toNat ++ " " ++ index message)
  | .checkArity table message => withOperands shown.opcode (index table ++ " " ++ index message)
  | .tableSwitch fallback targets =>
      withOperands shown.opcode
        (toString targets.length ++ " default=" ++ offset fallback.toNat ++ " ["
          ++ String.intercalate ", " (targets.map fun target => offset target.toNat) ++ "]")
  | .loadArgument place => withOperands shown.opcode (toString place.toNat)
  | .unbox kind => withOperands shown.opcode kind.text
  | .box kind => withOperands shown.opcode kind.text
  | .throwNoDefault | .loadReceiver | .loadValue | .constNull | .pop | .returnTop | .returnNull =>
      shown.opcode.mnemonic

/-- Where the operands of an operation are all there, the listing reads the text of the instruction
that they make, or nothing if they make none. -/
theorem run_readOperands {opcode : Opcode}
    (inside : place + lengthAt image.code place opcode ≤ image.code.size) :
    (readOperands image opcode).run place =
      (ofOperands image.code place opcode).toOption.map fun shown =>
        (instruction image shown, place + lengthAt image.code place opcode) := by
  cases opcode with
  | tableSwitch =>
      have count := toNat_wordAt image.code place
      rw [lengthAt, if_pos rfl] at inside ⊢
      have ends : place + 4 + 4 + 4 * readBytes image.code place 4 =
          place + (8 + 4 * readBytes image.code place 4) := by omega
      rw [readOperands, run_bind_of_some (run_readWord (by omega)),
        run_bind_of_some (run_readWord (by omega)), count,
        run_bind_of_some (run_readWords (by omega) #[]), ends, Array.empty_append]
      simp only [ofOperands, Except.toOption, Option.map_some, instruction, length_wordsAt]
      rfl
  | checkBounds =>
      have within : place + 6 ≤ image.code.size := inside
      rw [readOperands, run_bind_of_some (run_readWord (by omega)),
        run_bind_of_some (run_readIndex (by omega))]
      rfl
  | checkArity =>
      have within : place + 4 ≤ image.code.size := inside
      rw [readOperands, run_bind_of_some (run_readIndex (by omega)),
        run_bind_of_some (run_readIndex (by omega))]
      rfl
  | unbox | box =>
      rw [readOperands, run_bind_of_some (run_readByte inside), ofOperands, kindAt, kindOf]
      cases Primitive.ofCode? (image.code.getD place 0) <;> rfl
  | throwNoDefault | loadReceiver | loadValue | constNull | pop | returnTop | returnNull => rfl
  | _ =>
      rw [readOperands, run_bind_of_some (run_readIndex inside)]
      rfl

/-- Where operands of an operation are missing, the listing reads nothing. -/
theorem run_readOperands_eq_none {opcode : Opcode} (start : place ≤ image.code.size)
    (outside : image.code.size < place + lengthAt image.code place opcode) :
    (readOperands image opcode).run place = none := by
  cases opcode with
  | tableSwitch =>
      rw [lengthAt, if_pos rfl] at outside
      rw [readOperands]
      by_cases counted : place + 4 ≤ image.code.size
      · rw [run_bind_of_some (run_readWord counted), toNat_wordAt]
        by_cases settled : place + 4 + 4 ≤ image.code.size
        · rw [run_bind_of_some (run_readWord settled)]
          exact run_bind_of_none (run_readWords_eq_none settled (by omega) #[])
        · exact run_bind_of_none (run_readWord_eq_none (Nat.not_le.mp settled))
      · exact run_bind_of_none (run_readWord_eq_none (Nat.not_le.mp counted))
  | checkBounds =>
      have without : image.code.size < place + 6 := outside
      rw [readOperands]
      by_cases counted : place + 4 ≤ image.code.size
      · rw [run_bind_of_some (run_readWord counted)]
        exact run_bind_of_none (run_readIndex_eq_none (by omega))
      · exact run_bind_of_none (run_readWord_eq_none (Nat.not_le.mp counted))
  | checkArity =>
      have without : image.code.size < place + 4 := outside
      rw [readOperands]
      by_cases tabled : place + 2 ≤ image.code.size
      · rw [run_bind_of_some (run_readIndex tabled)]
        exact run_bind_of_none (run_readIndex_eq_none (by omega))
      · exact run_bind_of_none (run_readIndex_eq_none (Nat.not_le.mp tabled))
  | unbox | box => exact run_bind_of_none (run_readByte_eq_none outside)
  | throwNoDefault | loadReceiver | loadValue | constNull | pop | returnTop | returnNull =>
      exact absurd start (Nat.not_le.mpr outside)
  | _ => exact run_bind_of_none (run_readIndex_eq_none outside)

/-! ## Instructions -/

/-- Where an instruction decodes, the listing reads its text and goes on behind it. -/
theorem run_readInstruction {shown : Instruction UInt32}
    (decoded : Instruction.decode image.code place = .ok shown) :
    (readInstruction image).run place = some (instruction image shown, place + shown.size) := by
  obtain ⟨byte, opcode, present, known, inside, read⟩ := Instruction.exists_of_decode decoded
  have operation : (readByte image.code).run place = some (byte, place + 1) := by
    simp [readByte, StateT.run, present]
  rw [readInstruction, run_bind_of_some operation, known]
  refine (run_readOperands inside).trans ?_
  rw [read, Instruction.size_of_ofOperands read, ← Nat.add_assoc]
  rfl

/-- Where no instruction decodes, the listing reads nothing. -/
theorem run_readInstruction_eq_none {fault : DecodeFault}
    (undecodable : Instruction.decode image.code place = .error fault) :
    (readInstruction image).run place = none := by
  rw [readInstruction]
  cases present : image.code[place]? with
  | none => exact run_bind_of_none (by simp [readByte, StateT.run, present])
  | some byte =>
      have operation : (readByte image.code).run place = some (byte, place + 1) := by
        simp [readByte, StateT.run, present]
      rw [run_bind_of_some operation]
      cases known : Opcode.ofByte? byte with
      | none => rfl
      | some opcode =>
          show (readOperands image opcode).run (place + 1) = none
          have start : place < image.code.size := (Array.getElem?_eq_some_iff.mp present).1
          by_cases inside : place + 1 + lengthAt image.code (place + 1) opcode ≤ image.code.size
          · rw [Instruction.decode_eq present known inside] at undecodable
            rw [run_readOperands inside, undecodable]
            rfl
          · exact run_readOperands_eq_none start (Nat.not_le.mp inside)

/-! ## Lines -/

/-- The line of a text at an offset. -/
def lineAt (place : Nat) (text : String) : String := "  " ++ offset place ++ "  " ++ text

/-- The line at which a listing stops. -/
def stopLine (place : Nat) : String := lineAt place "<undecodable>"

theorem linesAt_eq (image : Image) (place : Nat) (text : String) :
    linesAt image place text = entryHeaders image place ++ [lineAt place text] := rfl

/-- The lines of an instruction: the headers of the entry points at its offset, and its own. -/
def rowLines (image : Image) (row : Nat × Instruction UInt32) : List String :=
  entryHeaders image row.1 ++ [lineAt row.1 (instruction image row.2)]

/-- The lines of what a sweep finds. Where it stops the listing says so. -/
def sweptLines (image : Image) (found : Sweep) : List String :=
  found.instructions.toList.flatMap (rowLines image) ++
    found.fault.toList.flatMap fun stop => entryHeaders image stop.1 ++ [stopLine stop.1]

/-- The lines go on behind an instruction that is read. -/
theorem codeLinesFrom_of_some {text : String} {next : Nat} (inside : place < image.code.size)
    (read : (readInstruction image).run place = some (text, next)) (shown : Array String) :
    codeLinesFrom image place shown =
      codeLinesFrom image next (shown ++ linesAt image place text) := by
  rw [codeLinesFrom, if_pos inside]
  split
  · rename_i again
    rw [read] at again
    cases again
    rfl
  · rename_i failed
    rw [read] at failed
    cases failed

/-- The lines stop where nothing is read. -/
theorem codeLinesFrom_of_none (inside : place < image.code.size)
    (failed : (readInstruction image).run place = none) (shown : Array String) :
    codeLinesFrom image place shown = shown ++ linesAt image place "<undecodable>" := by
  rw [codeLinesFrom, if_pos inside]
  split
  · rename_i read
    rw [failed] at read
    cases read
  · rfl

/-- The lines of the code follow its sweep. -/
theorem toList_codeLinesFrom (found : Array (Nat × Instruction UInt32)) (shown : Array String)
    (isShown : shown.toList = found.toList.flatMap (rowLines image)) :
    (codeLinesFrom image place shown).toList =
      sweptLines image (sweepFrom image.code place found) := by
  fun_induction sweepFrom image.code place found generalizing shown with
  | case1 place found inside fault undecodable =>
      have read := run_readInstruction_eq_none (Instruction.decode_of_error undecodable)
      rw [codeLinesFrom_of_none inside read, Array.toList_appendList, isShown, sweptLines,
        Option.toList_some, List.flatMap_singleton, linesAt_eq, stopLine]
  | case2 place found inside decoded next read inductionHypothesis =>
      obtain ⟨isDecoded, rfl⟩ := Instruction.decode_of_decodeFrom read
      rw [codeLinesFrom_of_some inside (run_readInstruction isDecoded)]
      apply inductionHypothesis
      rw [Array.toList_appendList, isShown, Array.toList_push, List.flatMap_append,
        List.flatMap_singleton, rowLines, linesAt_eq]
  | case3 place found outside =>
      rw [codeLinesFrom, if_neg outside, isShown, sweptLines]
      simp

end OrdinalDispatch.Code.Listing

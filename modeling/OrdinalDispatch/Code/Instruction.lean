import OrdinalDispatch.Code.Cursor
import OrdinalDispatch.Code.Opcode

/-!
Contract: instructions and their bytes.

Owns: the instructions with their operands, their encoding, and the decoding of
one instruction at an offset, as the check does it.

Does not own: decoding a whole code, see `OrdinalDispatch.Code.Image`, and the
places of jump targets, see `OrdinalDispatch.Code.Assembler`.

Operands that name pool entries are 16-bit indices. Jump targets are a type
parameter: labels while code is assembled, 32-bit offsets once it is placed.
-/

set_option autoImplicit false

namespace OrdinalDispatch.Code

/-- An instruction whose jump targets are of type `Target`. -/
inductive Instruction (Target : Type) where
  /-- Fails with the message unless arguments are present. -/
  | checkArguments (message : UInt16)
  /-- Fails with the message unless the selector is below the count. -/
  | checkBounds (count : UInt32) (message : UInt16)
  /-- Fails with the message unless the argument count is the table's entry at the selector. -/
  | checkArity (table message : UInt16)
  /-- Jumps to the target at the selector, or to the fallback. -/
  | tableSwitch (fallback : Target) (targets : List Target)
  | throwIllegal (message : UInt16)
  | throwNoDefault
  | loadReceiver
  | loadArgument (index : UInt16)
  | loadValue
  | constNull
  | pop
  | unbox (kind : Primitive)
  | box (kind : Primitive)
  | checkCast (target : UInt16)
  | construct (constructor : UInt16)
  | invoke (kind : CallKind) (method : UInt16)
  | getField (isStatic : Bool) (field : UInt16)
  | putField (isStatic : Bool) (field : UInt16)
  | returnTop
  | returnNull
deriving DecidableEq, Repr

inductive DecodeFault where
  | invalidOpcode (byte : UInt8)
  | truncated
  | invalidPrimitive (code : UInt8)
deriving DecidableEq, Repr

namespace Instruction

variable {Target : Type}

def opcode : Instruction Target → Opcode
  | .checkArguments _ => .checkArguments
  | .checkBounds _ _ => .checkBounds
  | .checkArity _ _ => .checkArity
  | .tableSwitch _ _ => .tableSwitch
  | .throwIllegal _ => .throwIllegal
  | .throwNoDefault => .throwNoDefault
  | .loadReceiver => .loadReceiver
  | .loadArgument _ => .loadArgument
  | .loadValue => .loadValue
  | .constNull => .constNull
  | .pop => .pop
  | .unbox _ => .unbox
  | .box _ => .box
  | .checkCast _ => .checkCast
  | .construct _ => .construct
  | .invoke kind _ => .invoke kind
  | .getField isStatic _ => .getField isStatic
  | .putField isStatic _ => .putField isStatic
  | .returnTop => .returnTop
  | .returnNull => .returnNull

/-- The jump targets in the order in which they are written. -/
def targets : Instruction Target → List Target
  | .tableSwitch fallback targets => fallback :: targets
  | _ => []

def mapTargets {Other : Type} (replace : Target → Other) : Instruction Target → Instruction Other
  | .checkArguments message => .checkArguments message
  | .checkBounds count message => .checkBounds count message
  | .checkArity table message => .checkArity table message
  | .tableSwitch fallback targets => .tableSwitch (replace fallback) (targets.map replace)
  | .throwIllegal message => .throwIllegal message
  | .throwNoDefault => .throwNoDefault
  | .loadReceiver => .loadReceiver
  | .loadArgument index => .loadArgument index
  | .loadValue => .loadValue
  | .constNull => .constNull
  | .pop => .pop
  | .unbox kind => .unbox kind
  | .box kind => .box kind
  | .checkCast target => .checkCast target
  | .construct constructor => .construct constructor
  | .invoke kind method => .invoke kind method
  | .getField isStatic field => .getField isStatic field
  | .putField isStatic field => .putField isStatic field
  | .returnTop => .returnTop
  | .returnNull => .returnNull

def size (instruction : Instruction Target) : Nat :=
  1 + match instruction with
    | .tableSwitch _ targets => 8 + 4 * targets.length
    | other => other.opcode.fixedOperandLength

theorem size_pos (instruction : Instruction Target) : 0 < instruction.size := by
  unfold size
  omega

def indexBytes (index : UInt16) : List UInt8 := toBytes 2 index.toNat

def wordBytes (word : UInt32) : List UInt8 := toBytes 4 word.toNat

def operandBytes : Instruction UInt32 → List UInt8
  | .checkArguments message => indexBytes message
  | .checkBounds count message => wordBytes count ++ indexBytes message
  | .checkArity table message => indexBytes table ++ indexBytes message
  | .tableSwitch fallback targets =>
      wordBytes (UInt32.ofNat targets.length) ++ wordBytes fallback ++ targets.flatMap wordBytes
  | .throwIllegal message => indexBytes message
  | .loadArgument index => indexBytes index
  | .unbox kind => [kind.code]
  | .box kind => [kind.code]
  | .checkCast target => indexBytes target
  | .construct constructor => indexBytes constructor
  | .invoke _ method => indexBytes method
  | .getField _ field => indexBytes field
  | .putField _ field => indexBytes field
  | .throwNoDefault | .loadReceiver | .loadValue | .constNull | .pop | .returnTop
  | .returnNull => []

/-- An instruction as bytes: its operation and its operands. -/
def encode (instruction : Instruction UInt32) : List UInt8 :=
  instruction.opcode.byte :: instruction.operandBytes

def kindOf (byte : UInt8) : Except DecodeFault Primitive :=
  match Primitive.ofCode? byte with
  | some kind => .ok kind
  | none => .error (.invalidPrimitive byte)

def readOperands (code : Array UInt8) :
    Opcode → Reading (Except DecodeFault (Instruction UInt32))
  | .checkArguments => return .ok (.checkArguments (← readIndex code))
  | .checkBounds => return .ok (.checkBounds (← readWord code) (← readIndex code))
  | .checkArity => return .ok (.checkArity (← readIndex code) (← readIndex code))
  | .tableSwitch => do
      let count ← readWord code
      let fallback ← readWord code
      let targets ← readWords code count.toNat #[]
      return .ok (.tableSwitch fallback targets.toList)
  | .throwIllegal => return .ok (.throwIllegal (← readIndex code))
  | .throwNoDefault => return .ok .throwNoDefault
  | .loadReceiver => return .ok .loadReceiver
  | .loadArgument => return .ok (.loadArgument (← readIndex code))
  | .loadValue => return .ok .loadValue
  | .constNull => return .ok .constNull
  | .pop => return .ok .pop
  | .unbox => return (kindOf (← readByte code)).map .unbox
  | .box => return (kindOf (← readByte code)).map .box
  | .checkCast => return .ok (.checkCast (← readIndex code))
  | .construct => return .ok (.construct (← readIndex code))
  | .invoke kind => return .ok (.invoke kind (← readIndex code))
  | .getField isStatic => return .ok (.getField isStatic (← readIndex code))
  | .putField isStatic => return .ok (.putField isStatic (← readIndex code))
  | .returnTop => return .ok .returnTop
  | .returnNull => return .ok .returnNull

/-- The instruction at an offset, and the offset behind it. The operation is looked at first, then
whether as many operand bytes are there as it has, and only then are these read. -/
def decodeFrom (code : Array UInt8) (offset : Nat) :
    Except DecodeFault (Instruction UInt32 × Nat) :=
  match code[offset]? with
  | none => .error .truncated
  | some byte =>
      match Opcode.ofByte? byte with
      | none => .error (.invalidOpcode byte)
      | some opcode =>
          match operandLength? code offset with
          | none => .error .truncated
          | some length =>
              if offset + 1 + length ≤ code.size then
                match (readOperands code opcode).run (offset + 1) with
                | some (instruction, next) => instruction.map fun instruction => (instruction, next)
                | none => .error .truncated
              else .error .truncated

def decode (code : Array UInt8) (offset : Nat) : Except DecodeFault (Instruction UInt32) :=
  (decodeFrom code offset).map Prod.fst

theorem forward_readOperands (code : Array UInt8) (opcode : Opcode) :
    Forward (readOperands code opcode) := by
  have finished (result : Except DecodeFault (Instruction UInt32)) :
      Forward (pure result : Reading _) := forward_pure result
  cases opcode with
  | checkBounds =>
      exact forward_readWord.bind fun _ => forward_readIndex.bind fun _ => finished _
  | checkArity =>
      exact forward_readIndex.bind fun _ => forward_readIndex.bind fun _ => finished _
  | tableSwitch =>
      exact forward_readWord.bind fun _ => forward_readWord.bind fun _ =>
        (forward_readWords _ _).bind fun _ => finished _
  | unbox | box => exact forward_readByte.bind fun _ => finished _
  | throwNoDefault | loadReceiver | loadValue | constNull | pop | returnTop | returnNull =>
      exact finished _
  | _ => exact forward_readIndex.bind fun _ => finished _

section Decoded

variable {code : Array UInt8} {offset next : Nat} {instruction : Instruction UInt32}

/-- What decodes has an operation that is known, operand bytes that are all there, and operands that
are read from them. -/
theorem exists_of_decodeFrom (decoded : decodeFrom code offset = .ok (instruction, next)) :
    ∃ byte opcode length, code[offset]? = some byte ∧ Opcode.ofByte? byte = some opcode ∧
      operandLength? code offset = some length ∧ offset + 1 + length ≤ code.size ∧
      (readOperands code opcode).run (offset + 1) = some (.ok instruction, next) := by
  unfold decodeFrom at decoded
  split at decoded
  · cases decoded
  · rename_i byte present
    split at decoded
    · cases decoded
    · rename_i opcode known
      split at decoded
      · cases decoded
      · rename_i length measured
        split at decoded
        · rename_i inside
          split at decoded
          · rename_i result behind read
            cases result with
            | error fault => cases decoded
            | ok found =>
                obtain ⟨rfl, rfl⟩ := Prod.mk.inj (Except.ok.inj decoded)
                exact ⟨byte, opcode, length, present, known, measured, inside, read⟩
          · cases decoded
        · cases decoded

theorem lt_of_decodeFrom (decoded : decodeFrom code offset = .ok (instruction, next)) :
    offset < next := by
  obtain ⟨-, opcode, -, -, -, -, -, read⟩ := exists_of_decodeFrom decoded
  exact forward_readOperands code opcode _ _ _ read

end Decoded

end Instruction

end OrdinalDispatch.Code

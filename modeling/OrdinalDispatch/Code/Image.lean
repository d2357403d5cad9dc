import OrdinalDispatch.Code.Constant
import OrdinalDispatch.Code.Instruction

/-!
Contract: dispatcher images, and the linear sweep that reads their code.

Owns: the five entry points, the parts of an image, and the sweep from the first
byte that decodes one instruction behind the other.

Does not own: what makes an image sound, see `OrdinalDispatch.Code.Verification`.
-/

set_option autoImplicit false

namespace OrdinalDispatch.Code

/-- The operations of an accessor, each with an entry point of its own. -/
inductive EntryPoint where
  | newDefault
  | newInstance
  | invoke
  | getField
  | setField
deriving DecidableEq, Repr

namespace EntryPoint

/-- All entry points in slot order. -/
def all : List EntryPoint := [newDefault, newInstance, invoke, getField, setField]

def name : EntryPoint → String
  | newDefault => "new_instance"
  | newInstance => "new_instance_with"
  | invoke => "invoke"
  | getField => "get_field"
  | setField => "set_field"

end EntryPoint

structure EntryOffsets where
  newDefault : UInt32
  newInstance : UInt32
  invoke : UInt32
  getField : UInt32
  setField : UInt32
deriving DecidableEq, Repr

namespace EntryOffsets

def of (offsets : EntryOffsets) : EntryPoint → UInt32
  | .newDefault => offsets.newDefault
  | .newInstance => offsets.newInstance
  | .invoke => offsets.invoke
  | .getField => offsets.getField
  | .setField => offsets.setField

end EntryOffsets

/-- The code of one type's dispatcher. -/
structure Image where
  target : ClassId
  typeName : String
  code : Array UInt8
  constants : Array Constant
  entryOffsets : EntryOffsets
  maxStack : Nat
deriving DecidableEq, Repr

/-- What a linear sweep finds: instructions with their offsets, in order, and the fault that ended
it early, with its offset. -/
structure Sweep where
  instructions : Array (Nat × Instruction UInt32)
  fault : Option (Nat × DecodeFault)
deriving DecidableEq, Repr

def sweepFrom (code : Array UInt8) (offset : Nat)
    (found : Array (Nat × Instruction UInt32)) : Sweep :=
  if offset < code.size then
    match _ : Instruction.decodeFrom code offset with
    | .error fault => ⟨found, some (offset, fault)⟩
    | .ok (instruction, next) => sweepFrom code next (found.push (offset, instruction))
  else ⟨found, none⟩
termination_by code.size - offset
decreasing_by
  have further := Instruction.lt_of_decodeFrom ‹Instruction.decodeFrom code offset = _›
  omega

/-- Decodes a code from its first byte on. -/
def sweep (code : Array UInt8) : Sweep := sweepFrom code 0 #[]

def operationBytesFrom (code : Array UInt8) (offset : Nat) (found : Array UInt8) : Array UInt8 :=
  if h : offset < code.size then
    match operandLength? code offset with
    | none => found.push code[offset]
    | some length => operationBytesFrom code (offset + 1 + length) (found.push code[offset])
  else found
termination_by code.size - offset

namespace Image

def entry (image : Image) (entryPoint : EntryPoint) : Nat :=
  (image.entryOffsets.of entryPoint).toNat

def constant? (image : Image) (index : UInt16) : Option Constant :=
  image.constants[index.toNat]?

/-- The operation bytes in code order, operands skipped by their lengths alone. An operation whose
length is unknown is the last one. -/
def operationBytes (image : Image) : Array UInt8 :=
  operationBytesFrom image.code 0 #[]

end Image

end OrdinalDispatch.Code

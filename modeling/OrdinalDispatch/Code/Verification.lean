import Std.Data.HashSet
import OrdinalDispatch.Code.Image

/-!
Contract: the check that an image passes before it is installed.

Owns: the faults of an image, their wording, and which of several is reported.

Does not own: whether a run of the code can fail for other reasons.

Every instruction must decode, every pool operand must name a constant of the
kind its instruction needs, and every entry point and jump target must be the
start of an instruction. The first fault in code order is reported, entry points
come next, jumps last.
-/

set_option autoImplicit false

namespace OrdinalDispatch.Code

inductive ImageFault where
  | undecodable (fault : DecodeFault) (offset : Nat)
  | wrongConstant (index : UInt16) (offset : Nat) (found : Constant)
  | constantOutOfRange (index : UInt16) (offset : Nat)
  | entryNotInstruction (entryPoint : EntryPoint) (target : Nat)
  | jumpNotInstruction (offset target : Nat)
deriving DecidableEq, Repr

def ImageFault.message : ImageFault → String
  | .undecodable (.invalidOpcode byte) offset =>
      "invalid opcode 0x" ++ Text.hexadecimal 2 byte.toNat ++ " at " ++ toString offset
  | .undecodable .truncated offset => "truncated operands at " ++ toString offset
  | .undecodable (.invalidPrimitive code) offset =>
      "invalid primitive kind " ++ toString code.toNat ++ " at " ++ toString offset
  | .wrongConstant index offset found =>
      "constant #" ++ toString index.toNat ++ " used at " ++ toString offset
        ++ " has the wrong kind: " ++ found.structureText
  | .constantOutOfRange index offset =>
      "constant #" ++ toString index.toNat ++ " used at " ++ toString offset ++ " is out of range"
  | .entryNotInstruction entryPoint target =>
      "entry point " ++ entryPoint.name ++ " at " ++ toString target ++ " is not an instruction"
  | .jumpNotInstruction offset target =>
      "jump at " ++ toString offset ++ " targets " ++ toString target
        ++ " which is not an instruction"

/-- The kinds of constants that instructions ask for. -/
inductive ConstantKind where
  | message
  | arityTable
  | classRef
  | constructor
  | method (kind : CallKind)
  | field (isStatic : Bool)
deriving DecidableEq, Repr

/-- Whether a constant is of a kind; methods and fields must match in how they are reached. -/
def ConstantKind.admits : ConstantKind → Constant → Bool
  | .message, .message _ => true
  | .arityTable, .arityTable _ => true
  | .classRef, .classRef _ => true
  | .constructor, .constructor _ _ => true
  | .method wanted, .method _ _ _ _ kind => kind == wanted
  | .field wanted, .field _ _ _ isStatic => isStatic == wanted
  | _, _ => false

/-- The pool operands of an instruction with the kinds they must have, in the order of the
check. -/
def Instruction.poolOperands {Target : Type} : Instruction Target → List (UInt16 × ConstantKind)
  | .checkArguments message => [(message, .message)]
  | .checkBounds _ message => [(message, .message)]
  | .checkArity table message => [(table, .arityTable), (message, .message)]
  | .throwIllegal message => [(message, .message)]
  | .checkCast target => [(target, .classRef)]
  | .construct constructor => [(constructor, .constructor)]
  | .invoke kind method => [(method, .method kind)]
  | .getField isStatic field => [(field, .field isStatic)]
  | .putField isStatic field => [(field, .field isStatic)]
  | _ => []

namespace Image

/-- What is wrong with one pool operand of the instruction at an offset. -/
def operandFault? (image : Image) (offset : Nat) (operand : UInt16 × ConstantKind) :
    Option ImageFault :=
  match image.constant? operand.1 with
  | none => some (.constantOutOfRange operand.1 offset)
  | some constant =>
      if operand.2.admits constant then none
      else some (.wrongConstant operand.1 offset constant)

/-- What is wrong with the pool operands of an instruction at an offset. -/
def instructionFault? (image : Image) (place : Nat × Instruction UInt32) : Option ImageFault :=
  place.2.poolOperands.findSome? (image.operandFault? place.1)

def fault? (image : Image) : Option ImageFault :=
  let found := sweep image.code
  let instructions := found.instructions.toList
  let starts : Std.HashSet Nat :=
    instructions.foldl (fun starts place => starts.insert place.1) ∅
  (instructions.findSome? image.instructionFault?)
    <|> (found.fault.map fun fault => .undecodable fault.2 fault.1)
    <|> (EntryPoint.all.findSome? fun entryPoint =>
      if starts.contains (image.entry entryPoint) then none
      else some (.entryNotInstruction entryPoint (image.entry entryPoint)))
    <|> (instructions.findSome? fun place =>
      place.2.targets.findSome? fun target =>
        if starts.contains target.toNat then none
        else some (.jumpNotInstruction place.1 target.toNat))

end Image

end OrdinalDispatch.Code

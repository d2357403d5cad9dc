import OrdinalDispatch.Code.Bytes
import OrdinalDispatch.Schema.Member

/-!
Contract: the operation codes and the lengths of their operands.

Owns: the byte and the mnemonic of each operation, and how many operand bytes
follow it.

Does not own: what the operands mean, see `OrdinalDispatch.Code.Instruction`.
-/

set_option autoImplicit false

namespace OrdinalDispatch.Code

inductive Opcode where
  | checkArguments
  | checkBounds
  | checkArity
  | tableSwitch
  | throwIllegal
  | throwNoDefault
  | loadReceiver
  | loadArgument
  | loadValue
  | constNull
  | pop
  | unbox
  | box
  | checkCast
  | construct
  | invoke (kind : CallKind)
  | getField (isStatic : Bool)
  | putField (isStatic : Bool)
  | returnTop
  | returnNull
deriving DecidableEq, Repr

namespace Opcode

def all : List Opcode :=
  [checkArguments, checkBounds, checkArity, tableSwitch, throwIllegal, throwNoDefault,
    loadReceiver, loadArgument, loadValue, constNull, pop, unbox, box, checkCast, construct,
    invoke .static, invoke .special, invoke .virtual, invoke .interface,
    getField true, getField false, putField true, putField false, returnTop, returnNull]

def byte : Opcode → UInt8
  | checkArguments => 0x01
  | checkBounds => 0x02
  | checkArity => 0x03
  | tableSwitch => 0x04
  | throwIllegal => 0x06
  | throwNoDefault => 0x07
  | loadReceiver => 0x10
  | loadArgument => 0x11
  | loadValue => 0x12
  | constNull => 0x13
  | pop => 0x14
  | unbox => 0x20
  | box => 0x21
  | checkCast => 0x22
  | construct => 0x30
  | invoke .static => 0x31
  | invoke .special => 0x32
  | invoke .virtual => 0x33
  | invoke .interface => 0x34
  | getField true => 0x35
  | getField false => 0x36
  | putField true => 0x37
  | putField false => 0x38
  | returnTop => 0x40
  | returnNull => 0x41

def ofByte? (byte : UInt8) : Option Opcode :=
  all.find? fun opcode => opcode.byte == byte

/-- The word for an operation in a listing. -/
def mnemonic : Opcode → String
  | checkArguments => "check_args"
  | checkBounds => "check_bounds"
  | checkArity => "check_arity"
  | tableSwitch => "table_switch"
  | throwIllegal => "throw_illegal"
  | throwNoDefault => "throw_no_default"
  | loadReceiver => "load_receiver"
  | loadArgument => "load_arg"
  | loadValue => "load_value"
  | constNull => "const_null"
  | pop => "pop"
  | unbox => "unbox"
  | box => "box"
  | checkCast => "check_cast"
  | construct => "new"
  | invoke .static => "invoke_static"
  | invoke .special => "invoke_special"
  | invoke .virtual => "invoke_virtual"
  | invoke .interface => "invoke_interface"
  | getField true => "get_static"
  | getField false => "get_field"
  | putField true => "put_static"
  | putField false => "put_field"
  | returnTop => "return"
  | returnNull => "return_void"

/-- The count of operand bytes, except for a switch, which tells its own length. -/
def fixedOperandLength : Opcode → Nat
  | throwNoDefault | loadReceiver | loadValue | constNull | pop | returnTop | returnNull => 0
  | unbox | box => 1
  | checkArguments | throwIllegal | loadArgument | checkCast | construct => 2
  | invoke _ | getField _ | putField _ => 2
  | checkArity => 4
  | checkBounds => 6
  | tableSwitch => 8

theorem ofByte?_byte (opcode : Opcode) : ofByte? opcode.byte = some opcode := by
  cases opcode with
  | invoke kind => cases kind <;> rfl
  | getField isStatic => cases isStatic <;> rfl
  | putField isStatic => cases isStatic <;> rfl
  | _ => rfl

theorem byte_of_ofByte? {byte : UInt8} {opcode : Opcode} (found : ofByte? byte = some opcode) :
    opcode.byte = byte := by
  simpa using List.find?_some found

end Opcode

/-- The count of operand bytes of the operation at an offset. A switch needs its count of targets
for that; an unknown operation, or a switch without its count, has no answer. -/
def operandLength? (code : Array UInt8) (offset : Nat) : Option Nat := do
  let opcode ← Opcode.ofByte? (← code[offset]?)
  if opcode = .tableSwitch then
    if offset + 5 ≤ code.size then some (8 + 4 * readBytes code (offset + 1) 4) else none
  else some opcode.fixedOperandLength

end OrdinalDispatch.Code

import OrdinalDispatch.Machine.Linkage

/-!
Contract: the stack machine that runs dispatcher code.

Owns: the inputs of a call, the machine's state, how it reads instructions, the
effect of each instruction, and runs of a bounded length.

Does not own: which bound is enough, see `OrdinalDispatch.Machine.Accessor`.

The machine reads code by itself and does not rely on its check: of a switch it
reads no more than it needs. The operand stack is a list with its top in front.
A step either goes on, or answers, or fails; what members did to the world before
stays done.
-/

set_option autoImplicit false

namespace OrdinalDispatch.Machine

/-- A computation of the machine: it may fail, and the world it leaves counts in either case. -/
abbrev Call (World α : Type) := ExceptT AccessError (StateM World) α

structure Frame where
  receiver : Value := .null
  selector : Int32 := 0
  arguments : Option (List Value) := none
  value : Option Value := none
deriving DecidableEq, Repr

/-- Where the machine stands: the offset of the next instruction, and the operand stack. -/
structure State where
  offset : Nat
  stack : List Value
deriving DecidableEq, Repr

inductive Progress where
  | next (state : State)
  | answer (value : Value)
deriving DecidableEq, Repr

variable {World : Type}

def corrupt {α : Type} (fault : CodeFault) (offset : Nat) : Call World α :=
  throw (.corruptCode fault offset)

/-- The outcome of a member as the outcome of a call: its failure becomes a target failure. -/
def ofMember {α : Type} (outcome : StateM World (Except String α)) : Call World α := do
  match ← (outcome : StateM World (Except String α)) with
  | .ok result => return result
  | .error failure => throw (.target failure)

/-- The failure that carries a message of the pool. -/
def illegal {α : Type} (image : Code.Image) (message : UInt16) (offset : Nat) : Call World α :=
  match image.constant? message with
  | some (.message text) => throw (.illegalArgument text)
  | _ => corrupt .messageMissing offset

def popOne (stack : List Value) (offset : Nat) : Call World (Value × List Value) :=
  match stack with
  | value :: rest => return (value, rest)
  | [] => corrupt .stackUnderflow offset

/-- Takes operands, which come in the order in which they were put. -/
def popMany (stack : List Value) (count offset : Nat) : Call World (List Value × List Value) :=
  if count ≤ stack.length then return ((stack.take count).reverse, stack.drop count)
  else corrupt .stackUnderflow offset

def nonNull (receiver : Value) : Call World Value :=
  if receiver.isNull then throw .nullReceiver else return receiver

/-- Null passes a cast; a reference passes if it is assignable; a boxed primitive never does. -/
def checkCast (model : TypeModel World) (value : Value) (target : ClassId) : Call World Unit := do
  if value.isNull then return ()
  let assignable ←
    match value.class? with
    | some found => if found = target then pure true else model.isAssignable found target
    | none => pure false
  if assignable then return ()
  let name ← model.typeName target
  throw (.classCast value.typeLabel (name.getD target.text))

def declaredBody (description : MethodDescription) (handle : Option (MethodHandle World))
    (receiver : Value) : Call World (MethodHandle World) :=
  match handle with
  | some handle => return handle
  | none => throw (.abstractMethod description.name (receiver.class?.getD ClassId.object))

/-- The body of a virtual call: an override of the receiver's class, where that class is another
one or nothing was declared, else the declared body. -/
def dispatchedBody (model : TypeModel World) (target : ClassId)
    (description : MethodDescription) (handle : Option (MethodHandle World))
    (receiver : Value) : Call World (MethodHandle World) := do
  match receiver.class? with
  | some runtimeClass =>
      if runtimeClass ≠ target ∨ handle.isNone then
        match ← model.resolveOverride runtimeClass description with
        | some override => return override
        | none => declaredBody description handle receiver
      else declaredBody description handle receiver
  | none => declaredBody description handle receiver

def selects (selector : Int32) (count : Nat) : Bool :=
  0 ≤ selector.toInt && selector.toInt < count

/-- Calls a method with its arguments, and with its receiver below them unless it is static.
Answers the result and the rest of the stack. -/
def call (image : Code.Image) (linkage : Linkage World) (model : TypeModel World)
    (stack : List Value) (offset : Nat) (kind : CallKind) (index : UInt16) :
    Call World (Value × List Value) :=
  match linkage.member? index with
  | some (.method description handle) => do
      let (arguments, stack) ← popMany stack description.parameters.length offset
      if kind = .static then
        let body ← declaredBody description handle .null
        return (← ofMember (body .null arguments), stack)
      else
        let (receiver, stack) ← popOne stack offset
        let receiver ← nonNull receiver
        let body ←
          if kind = .special then declaredBody description handle receiver
          else dispatchedBody model image.target description handle receiver
        return (← ofMember (body receiver arguments), stack)
  | _ => corrupt .unlinkedMethod offset

def fieldHandle (linkage : Linkage World) (index : UInt16) (offset : Nat) :
    Call World (FieldHandle World) :=
  match linkage.member? index with
  | some (.field handle) => return handle
  | _ => corrupt .unlinkedField offset

/-- The receiver of a field access: none is on the stack for a static field. -/
def fieldOwner (isStatic : Bool) (stack : List Value) (offset : Nat) :
    Call World (Value × List Value) :=
  if isStatic then return (.null, stack)
  else do
    let (owner, stack) ← popOne stack offset
    return (← nonNull owner, stack)

/-- Reads the operands of an operation. Of a switch only the target is read that the selector
picks, which leaves a switch with nothing to pick from. -/
def fetch (code : Array UInt8) (selector : Int32) :
    Code.Opcode → Code.Reading (Code.Instruction UInt32)
  | .checkArguments => return .checkArguments (← Code.readIndex code)
  | .checkBounds => return .checkBounds (← Code.readWord code) (← Code.readIndex code)
  | .checkArity => return .checkArity (← Code.readIndex code) (← Code.readIndex code)
  | .tableSwitch => do
      let count ← Code.readWord code
      let fallback ← Code.readWord code
      if selects selector count.toNat then
        Code.passOver (4 * selector.toInt.toNat)
        return .tableSwitch (← Code.readWord code) []
      else return .tableSwitch fallback []
  | .throwIllegal => return .throwIllegal (← Code.readIndex code)
  | .throwNoDefault => return .throwNoDefault
  | .loadReceiver => return .loadReceiver
  | .loadArgument => return .loadArgument (← Code.readIndex code)
  | .loadValue => return .loadValue
  | .constNull => return .constNull
  | .pop => return .pop
  | .unbox => return .unbox (← Primitive.ofCode? (← Code.readByte code))
  | .box => return .box (← Primitive.ofCode? (← Code.readByte code))
  | .checkCast => return .checkCast (← Code.readIndex code)
  | .construct => return .construct (← Code.readIndex code)
  | .invoke kind => return .invoke kind (← Code.readIndex code)
  | .getField isStatic => return .getField isStatic (← Code.readIndex code)
  | .putField isStatic => return .putField isStatic (← Code.readIndex code)
  | .returnTop => return .returnTop
  | .returnNull => return .returnNull

/-- The fault of an operation whose operands cannot be read. A kind that is not there is not told
from one that is not known. -/
def operandFault : Code.Opcode → CodeFault
  | .unbox | .box => .badPrimitiveKind
  | _ => .truncatedOperand

/-- The effect of an instruction at an offset, with the operand stack before it. The code goes on
behind what was read of the instruction. -/
def execute (image : Code.Image) (linkage : Linkage World) (model : TypeModel World)
    (frame : Frame) (stack : List Value) (offset behind : Nat)
    (instruction : Code.Instruction UInt32) : Call World Progress :=
  let goOn (stack : List Value) : Progress := .next ⟨behind, stack⟩
  match instruction with
  | .checkArguments message =>
      if frame.arguments.isNone then illegal image message offset else return goOn stack
  | .checkBounds count message =>
      if selects frame.selector count.toNat then return goOn stack
      else illegal image message offset
  | .checkArity table message =>
      match image.constant? table with
      | some (.arityTable arities) =>
          match if frame.selector < 0 then none else arities[frame.selector.toInt.toNat]? with
          | some expected =>
              if (frame.arguments.getD []).length = expected.toNat then return goOn stack
              else illegal image message offset
          | none => corrupt .arityLookupFailed offset
      | _ => corrupt .arityLookupFailed offset
  | .tableSwitch fallback targets =>
      let target :=
        if selects frame.selector targets.length then
          targets.getD frame.selector.toInt.toNat fallback
        else fallback
      return .next ⟨target.toNat, stack⟩
  | .throwIllegal message => illegal image message offset
  | .throwNoDefault => throw (.noDefaultConstructor image.typeName)
  | .loadReceiver => return goOn (frame.receiver :: stack)
  | .loadArgument index =>
      match frame.arguments.bind fun arguments => arguments[index.toNat]? with
      | some argument => return goOn (argument :: stack)
      | none => corrupt .argumentOutOfRange offset
  | .loadValue => return goOn (frame.value.getD .null :: stack)
  | .constNull => return goOn (.null :: stack)
  | .pop => do
      let (_, stack) ← popOne stack offset
      return goOn stack
  | .unbox kind => do
      let (value, stack) ← popOne stack offset
      return goOn ((← value.unbox kind) :: stack)
  | .box kind => do
      let (value, stack) ← popOne stack offset
      return goOn ((← value.boxed kind) :: stack)
  | .checkCast index =>
      match image.constant? index with
      | some (.classRef target) =>
          match stack with
          | top :: _ => do
              checkCast model top target
              return goOn stack
          | [] => corrupt .stackUnderflow offset
      | _ => corrupt .castTargetNotClass offset
  | .construct index =>
      match linkage.member? index with
      | some (.constructor arity handle) => do
          let (arguments, stack) ← popMany stack arity offset
          return goOn (.object (← ofMember (handle arguments)) :: stack)
      | _ => corrupt .unlinkedConstructor offset
  | .invoke kind index => do
      let (result, stack) ← call image linkage model stack offset kind index
      return goOn (result :: stack)
  | .getField isStatic index => do
      let handle ← fieldHandle linkage index offset
      let (owner, stack) ← fieldOwner isStatic stack offset
      return goOn ((← ofMember (handle.read owner)) :: stack)
  | .putField isStatic index => do
      let handle ← fieldHandle linkage index offset
      let (value, stack) ← popOne stack offset
      let (owner, stack) ← fieldOwner isStatic stack offset
      ofMember (handle.write owner value)
      return goOn stack
  | .returnTop => do
      let (value, _) ← popOne stack offset
      return .answer value
  | .returnNull => return .answer .null

def step (image : Code.Image) (linkage : Linkage World) (model : TypeModel World)
    (frame : Frame) (state : State) : Call World Progress :=
  match image.code[state.offset]? with
  | none => corrupt .ranOffTheEnd state.offset
  | some byte =>
      match Code.Opcode.ofByte? byte with
      | none => corrupt (.invalidOpcode byte) state.offset
      | some opcode =>
          match (fetch image.code frame.selector opcode).run (state.offset + 1) with
          | none => corrupt (operandFault opcode) state.offset
          | some (instruction, behind) =>
              execute image linkage model frame state.stack state.offset behind instruction

/-- Steps until an answer or a failure, at most `fuel` of them; none if that was not enough. -/
def run (image : Code.Image) (linkage : Linkage World) (model : TypeModel World)
    (frame : Frame) : (fuel : Nat) → State → Call World (Option Value)
  | 0, _ => return none
  | fuel + 1, state => do
      match ← step image linkage model frame state with
      | .answer value => return some value
      | .next state => run image linkage model frame fuel state

end OrdinalDispatch.Machine

import OrdinalDispatch.Schema.ValueType
import OrdinalDispatch.Text.Digits

/-!
Contract: why a call through an accessor fails.

Owns: the causes and their wording.

Does not own: when each arises, see `OrdinalDispatch.Machine.Step`.
-/

set_option autoImplicit false

namespace OrdinalDispatch

/-- What is wrong with code at the instruction that ran into it. -/
inductive CodeFault where
  | ranOffTheEnd
  | truncatedOperand
  | arityLookupFailed
  | argumentOutOfRange
  | stackUnderflow
  | badPrimitiveKind
  | castTargetNotClass
  | unlinkedConstructor
  | unlinkedMethod
  | unlinkedField
  | messageMissing
  | invalidOpcode (byte : UInt8)
deriving DecidableEq, Repr

def CodeFault.message : CodeFault → String
  | .ranOffTheEnd => "ran off the end of the code"
  | .truncatedOperand => "truncated operand"
  | .arityLookupFailed => "arity table lookup failed"
  | .argumentOutOfRange => "argument index out of range"
  | .stackUnderflow => "stack underflow"
  | .badPrimitiveKind => "bad primitive kind"
  | .castTargetNotClass => "cast target is not a class"
  | .unlinkedConstructor => "unlinked constructor"
  | .unlinkedMethod => "unlinked method"
  | .unlinkedField => "unlinked field"
  | .messageMissing => "message constant missing"
  | .invalidOpcode byte => "invalid opcode 0x" ++ Text.hexadecimal 2 byte.toNat

inductive AccessError where
  /-- A bad selector, a wrong count of arguments, or no arguments at all. -/
  | illegalArgument (message : String)
  /-- The type has no constructor without parameters. -/
  | noDefaultConstructor (typeName : String)
  /-- An instance member was reached without a receiver. -/
  | nullReceiver
  /-- Null where a primitive kind was declared. -/
  | nullValue (kind : Primitive)
  /-- A value of another type than declared. -/
  | classCast (found expected : String)
  /-- A method without a body for the receiver's class. -/
  | abstractMethod (method : String) (receiver : ClassId)
  /-- The member itself failed and said why. -/
  | target (failure : String)
  /-- The code is faulty at an offset. -/
  | corruptCode (fault : CodeFault) (offset : Nat)
  /-- The code of a constructor answered with something else than an object. -/
  | constructedOther (label : String)
deriving DecidableEq, Repr

def AccessError.message : AccessError → String
  | .illegalArgument message => message
  | .noDefaultConstructor typeName => typeName ++ " has no zero-argument constructor"
  | .nullReceiver => "null receiver for instance member"
  | .nullValue kind => "null cannot be unboxed to " ++ kind.text
  | .classCast found expected => "cannot cast " ++ found ++ " to " ++ expected
  | .abstractMethod method receiver =>
      "no implementation of " ++ method ++ " for " ++ receiver.text
  | .target failure => failure
  | .corruptCode fault offset =>
      "corrupt dispatcher code: " ++ fault.message ++ " at " ++ toString offset
  | .constructedOther label => "corrupt dispatcher code: constructor produced " ++ label

def AccessError.argumentsMissing : String := "arguments must be not null"

def AccessError.wrongArgumentCount : String := "wrong number of arguments"

def AccessError.wrongConstructor : String := "wrong offset of constructor"

def AccessError.wrongMethod : String := "wrong offset of method"

def AccessError.wrongField : String := "wrong offset of field"

end OrdinalDispatch

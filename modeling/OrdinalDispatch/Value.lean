import OrdinalDispatch.AccessError
import OrdinalDispatch.Number.Shortest
import OrdinalDispatch.Text.Quoted

/-!
Contract: boxed values, the uniform currency of accessor calls.

Owns: the values, the two conversions of a value to a primitive kind, equality,
and the text of a value.

Does not own: casts to reference types, which need a type model, and the state
behind an object, which belongs to the model that made it.

Unboxing an argument converts: a numeric kind takes any number and narrows it,
first to a 64-bit integer and then by its low bits. Boxing a result only checks:
the value must already be of the kind.
-/

set_option autoImplicit false

namespace OrdinalDispatch

/-- A reference to an object: which one it is, and its class. -/
structure ObjectRef where
  identity : Nat
  classId : ClassId
deriving DecidableEq, Repr

inductive Value where
  | null
  | bool (value : Bool)
  | byte (value : Int8)
  | char (value : Char)
  | short (value : Int16)
  | int (value : Int32)
  | long (value : Int64)
  | float (value : Number.Single)
  | double (value : Number.Double)
  | text (value : String)
  | object (reference : ObjectRef)
deriving DecidableEq, Repr

namespace Value

instance : Inhabited Value := ⟨.null⟩

def isNull : Value → Bool
  | .null => true
  | _ => false

def object? : Value → Option ObjectRef
  | .object reference => some reference
  | _ => none

/-- The class of a reference; null and boxed primitives have none. -/
def class? : Value → Option ClassId
  | .text _ => some ClassId.string
  | .object reference => some reference.classId
  | _ => none

/-- The word for a value in cast errors. -/
def typeLabel : Value → String
  | .null => "null"
  | .bool _ => Primitive.boolean.text
  | .byte _ => Primitive.byte.text
  | .char _ => Primitive.char.text
  | .short _ => Primitive.short.text
  | .int _ => Primitive.int.text
  | .long _ => Primitive.long.text
  | .float _ => Primitive.float.text
  | .double _ => Primitive.double.text
  | .text _ => ClassId.string.text
  | .object reference => reference.classId.text

/-- The 64-bit integer of a number; a fraction is cut off. -/
def toInt64? : Value → Option Int64
  | .byte value => some value.toInt64
  | .short value => some value.toInt64
  | .int value => some value.toInt64
  | .long value => some value
  | .float value => some value.toInt64
  | .double value => some value.toInt64
  | _ => none

/-- The 64-bit binary number of a number. -/
def toDouble? : Value → Option Number.Double
  | .float value => some value.convert
  | .double value => some value
  | value => value.toInt64?.map fun whole => Number.Binary.ofInt whole.toInt

/-- The value converted to a primitive kind. Truth values and characters convert to themselves
only. -/
def convert? (kind : Primitive) (value : Value) : Option Value :=
  match kind with
  | .boolean =>
      match value with
      | .bool _ => some value
      | _ => none
  | .char =>
      match value with
      | .char _ => some value
      | _ => none
  | .byte => value.toInt64?.map fun whole => .byte whole.toInt8
  | .short => value.toInt64?.map fun whole => .short whole.toInt16
  | .int => value.toInt64?.map fun whole => .int whole.toInt32
  | .long => value.toInt64?.map .long
  | .float => value.toDouble?.map fun number => .float number.convert
  | .double => value.toDouble?.map .double

def mismatch (kind : Primitive) : Value → AccessError
  | .null => .nullValue kind
  | value => .classCast value.typeLabel kind.text

def isOfKind : Primitive → Value → Bool
  | .boolean, .bool _ => true
  | .byte, .byte _ => true
  | .char, .char _ => true
  | .short, .short _ => true
  | .int, .int _ => true
  | .long, .long _ => true
  | .float, .float _ => true
  | .double, .double _ => true
  | _, _ => false

def unbox (kind : Primitive) (value : Value) : Except AccessError Value :=
  match value.convert? kind with
  | some converted => .ok converted
  | none => .error (value.mismatch kind)

def boxed (kind : Primitive) (value : Value) : Except AccessError Value :=
  if value.isOfKind kind then .ok value else .error (value.mismatch kind)

/-- Converts an argument to a declared type; only primitive types ask for anything. -/
def unboxAs (type : ValueType) (value : Value) : Except AccessError Value :=
  match type with
  | .primitive kind => value.unbox kind
  | _ => .ok value

/-- Checks a result against a declared type; only primitive types ask for anything. -/
def boxedAs (type : ValueType) (value : Value) : Except AccessError Value :=
  match type with
  | .primitive kind => value.boxed kind
  | _ => .ok value

/-- Equality of values: same kind and same content, binary numbers as numbers, objects by
identity. -/
def equals : Value → Value → Bool
  | .null, .null => true
  | .bool left, .bool right => left == right
  | .byte left, .byte right => left == right
  | .char left, .char right => left == right
  | .short left, .short right => left == right
  | .int left, .int right => left == right
  | .long left, .long right => left == right
  | .float left, .float right => left.equals right
  | .double left, .double right => left.equals right
  | .text left, .text right => left == right
  | .object left, .object right => left.identity == right.identity
  | _, _ => false

/-- The text of a value; the model that made an object says how it shows. -/
def display (showObject : ObjectRef → String) : Value → String
  | .null => "null"
  | .bool value => if value then "true" else "false"
  | .byte value => toString value.toInt ++ "b"
  | .char value => Text.Quoted.character value
  | .short value => toString value.toInt ++ "s"
  | .int value => toString value.toInt
  | .long value => toString value.toInt ++ "L"
  | .float value => value.text ++ "f"
  | .double value => value.text ++ "d"
  | .text value => Text.Quoted.text value
  | .object reference => showObject reference

end Value

end OrdinalDispatch

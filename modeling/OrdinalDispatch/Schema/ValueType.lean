/-!
Contract: identities of classes and scopes, and the declared types of members.

Owns: their names in messages, and the codes of the primitive kinds in
instructions.

Does not own: the JSON form, see `OrdinalDispatch.Schema.JsonForm`.
-/

set_option autoImplicit false

namespace OrdinalDispatch

/-- Identity of a class in a type model. -/
structure ClassId where
  number : UInt32
deriving DecidableEq, Repr, Hashable, Inhabited

namespace ClassId

/-- The class of all values. A cast to it is never needed. -/
def object : ClassId := ⟨0⟩

def string : ClassId := ⟨1⟩

def text (classId : ClassId) : String :=
  if classId = object then "object"
  else if classId = string then "string"
  else "class#" ++ toString classId.number.toNat

end ClassId

/-- Identity of an isolation scope. -/
structure ScopeId where
  number : UInt32
deriving DecidableEq, Repr, Inhabited

/-- The kinds of values that are held unboxed. -/
inductive Primitive where
  | boolean
  | byte
  | char
  | short
  | int
  | long
  | float
  | double
deriving DecidableEq, Repr, Hashable

namespace Primitive

/-- All kinds in the order of their codes. -/
def all : List Primitive := [boolean, byte, char, short, int, long, float, double]

/-- The operand that names a kind in an instruction. -/
def code : Primitive → UInt8
  | boolean => 1
  | byte => 2
  | char => 3
  | short => 4
  | int => 5
  | long => 6
  | float => 7
  | double => 8

def ofCode? (code : UInt8) : Option Primitive :=
  all.find? fun kind => kind.code == code

def text : Primitive → String
  | boolean => "boolean"
  | byte => "byte"
  | char => "char"
  | short => "short"
  | int => "int"
  | long => "long"
  | float => "float"
  | double => "double"

theorem ofCode?_code (kind : Primitive) : ofCode? kind.code = some kind := by
  cases kind <;> rfl

end Primitive

/-- The declared type of a parameter, a result or a field. -/
inductive ValueType where
  | void
  | primitive (kind : Primitive)
  | reference (target : ClassId)
deriving DecidableEq, Repr, Hashable

namespace ValueType

def primitive? : ValueType → Option Primitive
  | .primitive kind => some kind
  | _ => none

def text : ValueType → String
  | .void => "void"
  | .primitive kind => kind.text
  | .reference target => target.text

def listText (types : List ValueType) : String :=
  String.intercalate ", " (types.map text)

end ValueType

end OrdinalDispatch

import OrdinalDispatch.Schema.ValueType

/-!
Contract: descriptions of a type and its members.

Owns: modifiers, the way a method is called, and the three member lists whose
positions are the ordinals that selectors name.

Does not own: bodies of members. A description carries signatures only.
-/

set_option autoImplicit false

namespace OrdinalDispatch

inductive Visibility where
  | everywhere
  | subclasses
  | declaringType
deriving DecidableEq, Repr

/-- The modifiers of a member; the default is a public instance member. -/
structure Modifiers where
  visibility : Visibility := .everywhere
  isStatic : Bool := false
  isFinal : Bool := false
  isAbstract : Bool := false
deriving DecidableEq, Repr

/-- How a method is called. -/
inductive CallKind where
  /-- Without a receiver. -/
  | static
  /-- The declared body, whatever the receiver's class. -/
  | special
  /-- The most specific body that the receiver's class offers. -/
  | virtual
  /-- The same, declared by an interface. -/
  | interface
deriving DecidableEq, Repr, Hashable

def CallKind.mnemonic : CallKind → String
  | .static => "invoke_static"
  | .special => "invoke_special"
  | .virtual => "invoke_virtual"
  | .interface => "invoke_interface"

structure ConstructorDescription where
  parameters : List ValueType
  modifiers : Modifiers
deriving DecidableEq, Repr

structure MethodDescription where
  name : String
  parameters : List ValueType
  returnType : ValueType
  declaringClass : ClassId
  declaringIsInterface : Bool
  modifiers : Modifiers
deriving DecidableEq, Repr

namespace Modifiers

/-- Whether only the declaring type may see the member. -/
def isPrivate (modifiers : Modifiers) : Bool := modifiers.visibility == .declaringType

end Modifiers

namespace MethodDescription

/-- Interface ownership decides first, then static, then private or final; all other methods are
virtual. -/
def callKind (method : MethodDescription) : CallKind :=
  if method.declaringIsInterface then .interface
  else if method.modifiers.isStatic then .static
  else if method.modifiers.isPrivate || method.modifiers.isFinal then .special
  else .virtual

/-- Whether one method may stand in for another: the same name and parameters. -/
def overridesSignature (method other : MethodDescription) : Bool :=
  method.name == other.name && method.parameters == other.parameters

end MethodDescription

structure FieldDescription where
  name : String
  valueType : ValueType
  declaringClass : ClassId
  modifiers : Modifiers
deriving DecidableEq, Repr

/-- One snapshot of a type. -/
structure TypeDescription where
  classId : ClassId
  name : String
  constructors : List ConstructorDescription
  methods : List MethodDescription
  fields : List FieldDescription
deriving DecidableEq, Repr

namespace TypeDescription

/-- The members of all three lists together. -/
def memberCount (description : TypeDescription) : Nat :=
  description.constructors.length + description.methods.length + description.fields.length

/-- The ordinal of the first constructor without parameters. -/
def defaultConstructor? (description : TypeDescription) : Option Nat :=
  description.constructors.findIdx? fun constructor => constructor.parameters.isEmpty

end TypeDescription

end OrdinalDispatch

import OrdinalDispatch.Code.Image
import OrdinalDispatch.GenerationError
import OrdinalDispatch.Machine.TypeModel

/-!
Contract: an image's references to members, bound to the handles of a type model.

Owns: linked members, one for each pool entry, and linking.

Does not own: where linkages are kept, see `OrdinalDispatch.Loader.Store`.

Each reference must still match what the model lists at its ordinal. References
are linked in pool order; the first that fails ends the linking, and no handle
is asked for behind it.
-/

set_option autoImplicit false

namespace OrdinalDispatch.Machine

inductive LinkedMember (World : Type) where
  /-- Messages, arity tables and classes need no link. -/
  | unlinked
  | constructor (arity : Nat) (handle : ConstructorHandle World)
  /-- An abstract method has no handle; only an override can be called. -/
  | method (description : MethodDescription) (handle : Option (MethodHandle World))
  | field (handle : FieldHandle World)

/-- Linked members, parallel to the constants of an image. -/
structure Linkage (World : Type) where
  members : Array (LinkedMember World)

namespace LinkedMember

variable {World : Type}

def isLinked : LinkedMember World → Bool
  | .unlinked => false
  | _ => true

end LinkedMember

namespace Linkage

variable {World : Type}

def memberCount (linkage : Linkage World) : Nat :=
  linkage.members.toList.countP LinkedMember.isLinked

def member? (linkage : Linkage World) (index : UInt16) : Option (LinkedMember World) :=
  linkage.members[index.toNat]?

def display (linkage : Linkage World) : String :=
  Code.Constant.record "Linkage"
    [("constants", toString linkage.members.size), ("members", toString linkage.memberCount)]

/-- The members that a model lists for a class at the time of linking. -/
structure Listed where
  constructors : Array ConstructorDescription
  methods : Array MethodDescription
  fields : Array FieldDescription

/-- Links a constructor whose description still matches. -/
def linkConstructor (model : TypeModel World) (classId : ClassId) (listed : Listed)
    (ordinal : Nat) (parameters : List ValueType) :
    StateM World (Except LinkFault (LinkedMember World)) :=
  match listed.constructors[ordinal]? with
  | none => return .error (.constructorGone ordinal)
  | some current =>
      if current.parameters ≠ parameters then
        return .error (.constructorChanged ordinal parameters current.parameters)
      else do
        match ← model.constructorHandle classId ordinal with
        | some handle => return .ok (.constructor parameters.length handle)
        | none => return .error (.constructorWithoutHandle ordinal)

/-- Links a method whose description still matches; static and direct calls need a handle. -/
def linkMethod (model : TypeModel World) (classId : ClassId) (listed : Listed)
    (ordinal : Nat) (name : String) (parameters : List ValueType) (returnType : ValueType)
    (kind : CallKind) : StateM World (Except LinkFault (LinkedMember World)) :=
  match listed.methods[ordinal]? with
  | none => return .error (.methodGone ordinal)
  | some current =>
      if current.name ≠ name ∨ current.parameters ≠ parameters ∨ current.returnType ≠ returnType
          ∨ current.callKind ≠ kind then
        return .error (.methodChanged ordinal name parameters current.name current.parameters)
      else do
        let handle ← model.methodHandle classId ordinal
        if handle.isNone && (kind == .static || kind == .special) then
          return .error (.methodWithoutHandle ordinal name)
        else return .ok (.method current handle)

/-- Links a field whose description still matches. -/
def linkField (model : TypeModel World) (classId : ClassId) (listed : Listed)
    (ordinal : Nat) (name : String) (valueType : ValueType) (isStatic : Bool) :
    StateM World (Except LinkFault (LinkedMember World)) :=
  match listed.fields[ordinal]? with
  | none => return .error (.fieldGone ordinal)
  | some current =>
      if current.name ≠ name ∨ current.valueType ≠ valueType
          ∨ current.modifiers.isStatic ≠ isStatic then
        return .error (.fieldChanged ordinal name)
      else do
        match ← model.fieldHandle classId ordinal with
        | some handle => return .ok (.field handle)
        | none => return .error (.fieldWithoutHandle ordinal name)

def linkConstant (model : TypeModel World) (classId : ClassId) (listed : Listed) :
    Code.Constant → StateM World (Except LinkFault (LinkedMember World))
  | .constructor ordinal parameters =>
      linkConstructor model classId listed ordinal.toNat parameters
  | .method ordinal name parameters returnType kind =>
      linkMethod model classId listed ordinal.toNat name parameters returnType kind
  | .field ordinal name valueType isStatic =>
      linkField model classId listed ordinal.toNat name valueType isStatic
  | .message _ | .arityTable _ | .classRef _ => return .ok .unlinked

/-- Links constants in order, behind the members linked already. -/
def linkAll (model : TypeModel World) (classId : ClassId) (listed : Listed) :
    Array (LinkedMember World) → List Code.Constant →
      StateM World (Except LinkFault (Linkage World))
  | members, [] => return .ok ⟨members⟩
  | members, constant :: rest => do
      match ← linkConstant model classId listed constant with
      | .error fault => return .error fault
      | .ok member => linkAll model classId listed (members.push member) rest

def ofImage (model : TypeModel World) (image : Code.Image) :
    StateM World (Except LinkFault (Linkage World)) := do
  let listed : Listed :=
    { constructors := (← model.constructors image.target).toArray
      methods := (← model.methods image.target).toArray
      fields := (← model.fields image.target).toArray }
  linkAll model image.target listed #[] image.constants.toList

end Linkage

end OrdinalDispatch.Machine

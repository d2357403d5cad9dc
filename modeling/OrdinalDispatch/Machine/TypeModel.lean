import OrdinalDispatch.Schema.Member
import OrdinalDispatch.Value

/-!
Contract: what the machine knows of the types whose members it reaches.

Owns: the handles of members and the questions that a type model answers.

Does not own: any model. A model lives in a world of its own; its answers and
its members may read and change that world, and nothing else can.
-/

set_option autoImplicit false

namespace OrdinalDispatch.Machine

/-- The body of a constructor: converted arguments in, a new object out, or the words of a
failure. -/
abbrev ConstructorHandle (World : Type) :=
  List Value → StateM World (Except String ObjectRef)

/-- The body of a method: receiver and arguments. A static method gets null for a receiver. -/
abbrev MethodHandle (World : Type) :=
  Value → List Value → StateM World (Except String Value)

/-- The two accesses to a field. A static field gets null for a receiver. -/
structure FieldHandle (World : Type) where
  read : Value → StateM World (Except String Value)
  write : Value → Value → StateM World (Except String Unit)

/-- A known class with all its members, each list asked for in turn. -/
def TypeModel.snapshot {World : Type} (typeName : ClassId → StateM World (Option String))
    (constructors : ClassId → StateM World (List ConstructorDescription))
    (methods : ClassId → StateM World (List MethodDescription))
    (fields : ClassId → StateM World (List FieldDescription)) (classId : ClassId) :
    StateM World (Option TypeDescription) := do
  match ← typeName classId with
  | none => return none
  | some name =>
      return some {
        classId
        name
        constructors := ← constructors classId
        methods := ← methods classId
        fields := ← fields classId }

/-- The questions to a type model. Lists are in ordinal order. A dispatcher is built from what a
model describes, which is a snapshot unless the model has a description of its own; it is linked to
what the model lists. -/
structure TypeModel (World : Type) where
  typeName : ClassId → StateM World (Option String)
  constructors : ClassId → StateM World (List ConstructorDescription)
  methods : ClassId → StateM World (List MethodDescription)
  fields : ClassId → StateM World (List FieldDescription)
  constructorHandle : ClassId → Nat → StateM World (Option (ConstructorHandle World))
  /-- An abstract method has no handle. -/
  methodHandle : ClassId → Nat → StateM World (Option (MethodHandle World))
  fieldHandle : ClassId → Nat → StateM World (Option (FieldHandle World))
  /-- The most specific body of a method that a class offers. -/
  resolveOverride : ClassId → MethodDescription → StateM World (Option (MethodHandle World))
  /-- Whether an object of the first class may stand where the second is declared. -/
  isAssignable : ClassId → ClassId → StateM World Bool
  describe : ClassId → StateM World (Option TypeDescription) :=
    TypeModel.snapshot typeName constructors methods fields

end OrdinalDispatch.Machine

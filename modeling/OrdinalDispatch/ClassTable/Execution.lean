import OrdinalDispatch.ClassTable.Basic

/-!
Contract: what the bodies of a table do.

Owns: the value of an expression, stores, and one run of each kind of body.

Does not own: which body is run, see `OrdinalDispatch.ClassTable.Model`.

Every run is noted before anything else happens. Stores that were made before a
failure stay.
-/

set_option autoImplicit false

namespace OrdinalDispatch.ClassTable

/-- A run of a body in a world; a failure is told in words. -/
abbrev Execution (Rest α : Type) := ExceptT String (StateM (World Rest)) α

/-- What a body sees: the number of its table, its receiver and its arguments. -/
structure Surroundings where
  table : Nat
  receiver : Value
  arguments : List Value

variable {Rest : Type}

/-- A conversion whose error is the body's failure. -/
def converted {α : Type} : Except AccessError α → Execution Rest α
  | .ok value => return value
  | .error error => throw error.message

def integerOf (value : Value) : Execution Rest Int64 := do
  match ← converted (value.unbox .long) with
  | .long whole => return whole
  | _ => return 0

/-- What is stored at a place; null where nothing is. -/
def valueAt (surroundings : Surroundings) (place : Place) : World Rest → Value := fun world =>
  match place with
  | .static name => ((world.table surroundings.table).statics.lookup name).getD .null
  | .slot name =>
      match surroundings.receiver with
      | .object reference =>
          ((world.objects[reference.identity]?).bind fun object =>
            object.slots.lookup name).getD .null
      | _ => .null

/-- Stores a value; only an object has slots. -/
def store (surroundings : Surroundings) (place : Place) (value : Value) : Execution Rest Unit :=
  match place with
  | .static name =>
      modify fun world =>
        world.updateTable surroundings.table fun table =>
          { table with statics := put name value table.statics }
  | .slot name =>
      match surroundings.receiver with
      | .object reference =>
          modify fun world =>
            { world with
              objects := world.objects.modify reference.identity fun object =>
                { object with slots := put name value object.slots } }
      | _ => throw "receiver is not an instance"

def Expression.evaluate (surroundings : Surroundings) : Expression → Execution Rest Value
  | .constant value => return value
  | .object identity => do return .object ⟨identity, (← get).classOf identity⟩
  | .argument index => return surroundings.arguments.getD index .null
  | .receiver => return surroundings.receiver
  | .stored place => do return valueAt surroundings place (← get)
  | .sum left right => do
      let first ← integerOf (← left.evaluate surroundings)
      let second ← integerOf (← right.evaluate surroundings)
      return .long (first + second)
  | .unboxed operand type => do
      converted ((← operand.evaluate surroundings).unboxAs type)
  | .shown =>
      let shown (value : Value) : String := value.display objectText
      return .text (shown surroundings.receiver
        ++ " [" ++ String.intercalate ", " (surroundings.arguments.map shown) ++ "]")

/-- Notes the request and does what every body starts with. -/
def Prelude.run (opening : Prelude) (surroundings : Surroundings) (request : Request) :
    Execution Rest Unit := do
  modify fun world => world.note request
  for (place, expression) in opening.stores do
    store surroundings place (← expression.evaluate surroundings)
  match opening.failure with
  | some failure => throw failure
  | none => return ()

def ConstructorBody.run (body : ConstructorBody) (table : Nat) (classId : ClassId)
    (ordinal : Nat) : Machine.ConstructorHandle (World Rest) := fun arguments =>
  let surroundings : Surroundings := ⟨table, .null, arguments⟩
  let execution : Execution Rest ObjectRef := do
    body.toPrelude.run surroundings (.construct classId ordinal arguments)
    let slots ← body.slots.mapM fun (name, expression) => do
      return (name, ← expression.evaluate surroundings)
    let objectClass := body.objectClass.getD classId
    let identity := (← get).objects.size
    modify fun world => { world with objects := world.objects.push ⟨objectClass, slots⟩ }
    return ⟨identity, objectClass⟩
  execution.run

def MethodBody.run (body : MethodBody) (table : Nat) (classId : ClassId) (ordinal : Nat) :
    Machine.MethodHandle (World Rest) := fun receiver arguments =>
  let surroundings : Surroundings := ⟨table, receiver, arguments⟩
  let execution : Execution Rest Value := do
    body.toPrelude.run surroundings (.invoke classId ordinal receiver arguments)
    match body.answer with
    | some answer => answer.evaluate surroundings
    | none => return .null
  execution.run

def FieldBody.handle (body : FieldBody) (table : Nat) (classId : ClassId) (ordinal : Nat) :
    Machine.FieldHandle (World Rest) where
  read receiver :=
    let surroundings : Surroundings := ⟨table, receiver, []⟩
    let execution : Execution Rest Value := do
      body.toPrelude.run surroundings (.read classId ordinal receiver)
      (body.answer.getD (.stored body.place)).evaluate surroundings
    execution.run
  write receiver value :=
    let surroundings : Surroundings := ⟨table, receiver, []⟩
    let execution : Execution Rest Unit := do
      body.toPrelude.run surroundings (.write classId ordinal receiver value)
      store surroundings body.place value
    execution.run

end OrdinalDispatch.ClassTable

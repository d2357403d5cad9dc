import OrdinalDispatch.Machine.Step

/-!
Contract: what the operations of an accessor come to, said without any code.

Owns: the members that a model gave for a description, and the five operations
as direct definitions over the description, the model and those members.

Does not own: that the machine agrees, see
`OrdinalDispatch.Proofs.Machine.Invocation`,
`OrdinalDispatch.Proofs.Machine.FieldAccess` and
`OrdinalDispatch.Proofs.Machine.Construction`.

The order of the parts of a definition is the order of their effects: what
stands behind a failure is never asked for.
-/

set_option autoImplicit false

namespace OrdinalDispatch.Machine

/-- What a model gave for the members of a type, by ordinal. -/
structure GivenMembers (World : Type) where
  constructor : Nat → ConstructorHandle World
  /-- The description of a method as the model lists it; overrides are looked up by it. -/
  listedMethod : Nat → MethodDescription
  /-- A method that is called by its receiver's class may have no body of its own. -/
  method : Nat → Option (MethodHandle World)
  field : Nat → FieldHandle World

namespace Direct

variable {World : Type} (model : TypeModel World)

/-! ## Values -/

/-- Null passes every cast, an object passes if its class is the target or may stand for it, and
boxed primitives pass none. -/
def passes (target : ClassId) (value : Value) : Call World Bool :=
  match value.class? with
  | none => return value.isNull
  | some found => if found = target then return true else model.isAssignable found target

/-- A value as a value of a class. -/
def cast (target : ClassId) (value : Value) : Call World Value := do
  if ← passes model target value then return value
  else throw (.classCast value.typeLabel ((← model.typeName target).getD target.text))

/-- A value as a value of a class, where everything is an object. -/
def castUnlessObject (target : ClassId) (value : Value) : Call World Value :=
  if target = ClassId.object then return value else cast model target value

/-- A value as a value of a declared type. -/
def convert : ValueType → Value → Call World Value
  | .reference target, value => castUnlessObject model target value
  | .primitive kind, value => value.unbox kind
  | .void, value => return value

/-- Values as values of declared types, from left to right up to the first failure. -/
def convertAll : List ValueType → List Value → Call World (List Value)
  | type :: types, value :: values => do
      let converted ← convert model type value
      let others ← convertAll types values
      return converted :: others
  | _, _ => return []

/-- What a member came to; its own failure is passed on as it is. -/
def reach {Result : Type} (outcome : StateM World (Except String Result)) : Call World Result :=
  ExceptT.adapt AccessError.target (ExceptT.mk outcome)

/-! ## Selection -/

/-- The member at a selector, with its ordinal. -/
def selected? {Member : Type} (members : List Member) (selector : Int32) :
    Option (Nat × Member) :=
  if selector.toInt < 0 then none
  else members[selector.toInt.toNat]?.map fun member => (selector.toInt.toNat, member)

/-- Uses the member at a selector. -/
def select {Member Result : Type} (members : List Member) (wrongSelector : String)
    (selector : Int32) (use : Nat → Member → Call World Result) : Call World Result :=
  match selected? members selector with
  | none => throw (.illegalArgument wrongSelector)
  | some (ordinal, member) => use ordinal member

/-- Uses the member at a selector with arguments, which must be there, and as many as the member
has parameters. The selector is looked at in between. -/
def selectCall {Member Result : Type} (members : List Member)
    (parameters : Member → List ValueType) (wrongSelector : String) (selector : Int32)
    (arguments : Option (List Value)) (use : Nat → Member → List Value → Call World Result) :
    Call World Result :=
  match arguments with
  | none => throw (.illegalArgument "arguments must be not null")
  | some arguments =>
      select members wrongSelector selector fun ordinal member =>
        if arguments.length = (parameters member).length then use ordinal member arguments
        else throw (.illegalArgument "wrong number of arguments")

/-- What follows a use follows it for every selector that has one. -/
theorem select_bind {Member Result Next : Type} (members : List Member) (wrongSelector : String)
    (selector : Int32) (use : Nat → Member → Call World Result)
    (next : Result → Call World Next) :
    select members wrongSelector selector use >>= next =
      select members wrongSelector selector fun ordinal member => use ordinal member >>= next := by
  unfold select
  cases selected? members selector with
  | none => rfl
  | some _ => rfl

theorem selectCall_bind {Member Result Next : Type} (members : List Member)
    (parameters : Member → List ValueType) (wrongSelector : String) (selector : Int32)
    (arguments : Option (List Value)) (use : Nat → Member → List Value → Call World Result)
    (next : Result → Call World Next) :
    selectCall members parameters wrongSelector selector arguments use >>= next =
      selectCall members parameters wrongSelector selector arguments
        fun ordinal member arguments => use ordinal member arguments >>= next := by
  cases arguments with
  | none => rfl
  | some arguments =>
      unfold selectCall
      simp only [select_bind]
      congr 1
      funext ordinal member
      split
      · rfl
      · rfl

/-! ## Operations -/

variable (description : TypeDescription) (given : GivenMembers World)

/-- Constructs through the constructor at a selector. -/
def newInstance (selector : Int32) (arguments : Option (List Value)) : Call World ObjectRef :=
  selectCall description.constructors (·.parameters) "wrong offset of constructor" selector
    arguments fun ordinal constructor arguments => do
      let converted ← convertAll model constructor.parameters arguments
      reach (given.constructor ordinal converted)

/-- The body that a method was declared with. -/
def declaredBody (ordinal : Nat) (method : MethodDescription) (owner : Value) :
    Call World (MethodHandle World) :=
  match given.method ordinal with
  | some body => return body
  | none => throw (.abstractMethod method.name (owner.class?.getD ClassId.object))

/-- The body that the class of the owner offers. An override is not looked for if that is the
described class itself and the method has a body there, or if there is no class. -/
def offeredBody (ordinal : Nat) (method : MethodDescription) (owner : Value) :
    Call World (MethodHandle World) :=
  match owner.class? with
  | none => declaredBody given ordinal method owner
  | some ownerClass =>
      if ownerClass = description.classId ∧ (given.method ordinal).isSome then
        declaredBody given ordinal method owner
      else do
        match ← model.resolveOverride ownerClass (given.listedMethod ordinal) with
        | some override => return override
        | none => declaredBody given ordinal method owner

/-- The body that a call of a method runs. Static methods, and those of the declaring type alone,
run the declared one. -/
def bodyFor (ordinal : Nat) (method : MethodDescription) (owner : Value) :
    Call World (MethodHandle World) :=
  match method.callKind with
  | .static | .special => declaredBody given ordinal method owner
  | .virtual | .interface => offeredBody model description given ordinal method owner

/-- The result of a method as a call answers it. -/
def answer (returnType : ValueType) (result : Value) : Call World Value :=
  match returnType with
  | .void => return .null
  | other => result.boxedAs other

/-- Runs a method with its owner and converted arguments. -/
def runMethod (ordinal : Nat) (method : MethodDescription) (owner : Value)
    (converted : List Value) : Call World Value := do
  let body ← bodyFor model description given ordinal method owner
  let result ← reach (body owner converted)
  answer method.returnType result

/-- The owner of a method as a call has it, before null is refused. -/
def methodOwner (method : MethodDescription) (receiver : Value) : Call World Value :=
  if method.callKind = .static then return .null
  else castUnlessObject model description.classId receiver

/-- Calls a method whose arguments are as many as its parameters. A static method is called with
null for an owner; for all others null is refused behind the conversion of the arguments. -/
def callMethod (receiver : Value) (ordinal : Nat) (method : MethodDescription)
    (arguments : List Value) : Call World Value := do
  let owner ← methodOwner model description method receiver
  let converted ← convertAll model method.parameters arguments
  if method.callKind ≠ .static ∧ owner = .null then throw .nullReceiver
  else runMethod model description given ordinal method owner converted

/-- Calls the method at a selector. -/
def invoke (receiver : Value) (selector : Int32) (arguments : Option (List Value)) :
    Call World Value :=
  selectCall description.methods (·.parameters) "wrong offset of method" selector arguments
    (callMethod model description given receiver)

/-- The owner of a field as an access to it has it, before null is refused. -/
def fieldOwner (field : FieldDescription) (receiver : Value) : Call World Value :=
  if field.modifiers.isStatic then return .null
  else castUnlessObject model description.classId receiver

/-- Goes on with the owner of a field, which is null for a static field alone. -/
def withOwner {Result : Type} (field : FieldDescription) (owner : Value)
    (access : Call World Result) : Call World Result :=
  if field.modifiers.isStatic = false ∧ owner = .null then throw .nullReceiver else access

/-- Reads a field. -/
def readField (receiver : Value) (ordinal : Nat) (field : FieldDescription) :
    Call World Value := do
  let owner ← fieldOwner model description field receiver
  withOwner field owner do
    let result ← reach ((given.field ordinal).read owner)
    result.boxedAs field.valueType

/-- Writes a field. -/
def writeField (receiver value : Value) (ordinal : Nat) (field : FieldDescription) :
    Call World Unit := do
  let owner ← fieldOwner model description field receiver
  let converted ← convert model field.valueType value
  withOwner field owner (reach ((given.field ordinal).write owner converted))

/-- Reads the field at a selector. -/
def getField (receiver : Value) (selector : Int32) : Call World Value :=
  select description.fields "wrong offset of field" selector
    (readField model description given receiver)

/-- Writes the field at a selector. -/
def setField (receiver : Value) (selector : Int32) (value : Value) : Call World Unit :=
  select description.fields "wrong offset of field" selector
    (writeField model description given receiver value)

end Direct

end OrdinalDispatch.Machine

import OrdinalDispatch.AccessError
import OrdinalDispatch.Code.Assembler
import OrdinalDispatch.Code.Image
import OrdinalDispatch.GenerationError

/-!
Contract: the image that dispatches one type's members by ordinal.

Owns: the code of the five entry points, made from a description alone.

Does not own: whether a type model still agrees with the description.

Every entry point that takes a selector has the same shape. It checks the
arguments, where there are any, then the selector, then the count of arguments,
and switches to the branch of the ordinal. The switch is left out when there is
no member; then only the last instruction remains, which reports the selector.
-/

set_option autoImplicit false

namespace OrdinalDispatch.Code

namespace Dispatcher

/-- What a part of the code makes of the code before it. -/
abbrev Emission := Assembler → Except ImageError Assembler

/-- A cast of the value on top to a class; everything is an object, so that cast is left out. -/
def cast (target : ClassId) (assembler : Assembler) : Assembler :=
  if target = ClassId.object then assembler
  else
    let (index, assembler) := assembler.intern (.classRef target)
    assembler.emit (.checkCast index)

/-- Loads the receiver, cast to the described class. -/
def loadReceiver (description : TypeDescription) (assembler : Assembler) : Assembler :=
  cast description.classId (assembler.emit .loadReceiver)

def coerce (type : ValueType) (assembler : Assembler) : Assembler :=
  match type with
  | .reference target => cast target assembler
  | other => assembler.emitUnbox other

/-- Loads the arguments from `index` on, each converted to its declared type. -/
def loadArguments : (index : Nat) → (parameters : List ValueType) → Emission
  | _, [], assembler => .ok assembler
  | index, type :: rest, assembler =>
      if index < UInt16.size then
        loadArguments (index + 1) rest
          (coerce type (assembler.emit (.loadArgument (UInt16.ofNat index))))
      else .error .argumentIndexOverflow

def constructorBranch (ordinal : Nat) (constructor : ConstructorDescription) : Emission :=
  fun assembler => do
    let assembler ← loadArguments 0 constructor.parameters assembler
    let (index, assembler) :=
      assembler.intern (.constructor (UInt32.ofNat ordinal) constructor.parameters)
    return (assembler.emitCall (.ofNat constructor.parameters.length) (.construct index)).emit
      .returnTop

/-- The result of a call as the branch of a method answers it. -/
def answer (returnType : ValueType) (assembler : Assembler) : Assembler :=
  match returnType with
  | .void => (assembler.emit .pop).emit .constNull
  | other => assembler.emitBox other

def methodBranch (description : TypeDescription) (ordinal : Nat) (method : MethodDescription) :
    Emission :=
  fun assembler => do
    let kind := method.callKind
    let assembler :=
      if kind = .static then assembler else loadReceiver description assembler
    let assembler ← loadArguments 0 method.parameters assembler
    let (index, assembler) :=
      assembler.intern
        (.method (UInt32.ofNat ordinal) method.name method.parameters method.returnType kind)
    let assembler := assembler.emitCall (.ofNat method.parameters.length) (.invoke kind index)
    return (answer method.returnType assembler).emit .returnTop

def fieldIndex (ordinal : Nat) (field : FieldDescription) (assembler : Assembler) :
    UInt16 × Assembler :=
  assembler.intern
    (.field (UInt32.ofNat ordinal) field.name field.valueType field.modifiers.isStatic)

def loadOwner (description : TypeDescription) (field : FieldDescription)
    (assembler : Assembler) : Assembler :=
  if field.modifiers.isStatic then assembler else loadReceiver description assembler

def readBranch (description : TypeDescription) (ordinal : Nat) (field : FieldDescription) :
    Emission :=
  fun assembler =>
    let (index, assembler) := fieldIndex ordinal field assembler
    let assembler :=
      (loadOwner description field assembler).emit (.getField field.modifiers.isStatic index)
    .ok ((assembler.emitBox field.valueType).emit .returnTop)

def writeBranch (description : TypeDescription) (ordinal : Nat) (field : FieldDescription) :
    Emission :=
  fun assembler =>
    let (index, assembler) := fieldIndex ordinal field assembler
    let assembler :=
      coerce field.valueType ((loadOwner description field assembler).emit .loadValue)
    .ok ((assembler.emit (.putField field.modifiers.isStatic index)).emit .returnNull)

/-- The branches of members from `ordinal` on, each behind its label. -/
def branches {Member : Type} (branch : Nat → Member → Emission) :
    (ordinal : Nat) → List (Label × Member) → Emission
  | _, [], assembler => .ok assembler
  | ordinal, (label, member) :: rest, assembler => do
      let assembler ← branch ordinal member (assembler.mark label)
      branches branch (ordinal + 1) rest assembler

/-- The checks before the switch of `count` members; only calls check arguments, and they bring
the table of arities along. -/
def selectorChecks (count : Nat) (wrongSelector : UInt16) (arities : Option (List UInt16))
    (assembler : Assembler) : Assembler :=
  match arities with
  | none => assembler.emit (.checkBounds (UInt32.ofNat count) wrongSelector)
  | some arities =>
      let (missing, assembler) := assembler.message AccessError.argumentsMissing
      let assembler := assembler.emit (.checkArguments missing)
      let assembler := assembler.emit (.checkBounds (UInt32.ofNat count) wrongSelector)
      let (table, assembler) := assembler.intern (.arityTable arities)
      let (wrongCount, assembler) := assembler.message AccessError.wrongArgumentCount
      assembler.emit (.checkArity table wrongCount)

/-- The code of an entry point that takes a selector. -/
def selectorSection {Member : Type} (members : List Member) (wrongSelectorText : String)
    (arities : Option (List UInt16)) (branch : Nat → Member → Emission) : Emission :=
  fun assembler => do
    let (wrongSelector, assembler) := assembler.message wrongSelectorText
    let assembler := selectorChecks members.length wrongSelector arities assembler
    let (fallback, assembler) := assembler.defineLabel
    let assembler ←
      if members.isEmpty then .ok assembler
      else
        let (labels, assembler) := assembler.defineLabels members.length
        branches branch 0 (labels.zip members) (assembler.emit (.tableSwitch fallback labels))
    return (assembler.mark fallback).emit (.throwIllegal wrongSelector)

/-- The code of the entry point that takes no selector: the first constructor without
parameters. -/
def defaultConstruction (description : TypeDescription) (assembler : Assembler) : Assembler :=
  match description.defaultConstructor? with
  | some ordinal =>
      let (index, assembler) := assembler.intern (.constructor (UInt32.ofNat ordinal) [])
      (assembler.emitCall 0 (.construct index)).emit .returnTop
  | none => assembler.emit .throwNoDefault

/-- The counts of parameters in order; the first one past sixteen bits fails. -/
def arityTable (parameterLists : List (List ValueType)) : Except ImageError (List UInt16) :=
  parameterLists.mapM fun parameters =>
    if parameters.length < UInt16.size then .ok (UInt16.ofNat parameters.length)
    else .error (.tooManyParameters parameters.length)

def program (description : TypeDescription) : Except ImageError (EntryOffsets × Assembler) := do
  let start : Assembler := {}
  let afterDefault := defaultConstruction description start
  let constructorArities ← arityTable (description.constructors.map (·.parameters))
  let afterConstructors ←
    selectorSection description.constructors AccessError.wrongConstructor (some constructorArities)
      constructorBranch afterDefault
  let invoke := afterConstructors.offset
  let methodArities ← arityTable (description.methods.map (·.parameters))
  let afterMethods ←
    selectorSection description.methods AccessError.wrongMethod (some methodArities)
      (methodBranch description) afterConstructors
  let getField := afterMethods.offset
  let afterReads ←
    selectorSection description.fields AccessError.wrongField none (readBranch description)
      afterMethods
  let setField := afterReads.offset
  let assembler ←
    selectorSection description.fields AccessError.wrongField none (writeBranch description)
      afterReads
  return (
    { newDefault := 0
      newInstance := UInt32.ofNat afterDefault.offset
      invoke := UInt32.ofNat invoke
      getField := UInt32.ofNat getField
      setField := UInt32.ofNat setField },
    assembler)

end Dispatcher

/-- The image of a description, or why it cannot be encoded. -/
def Image.ofDescription (description : TypeDescription) : Except ImageError Image := do
  let (entryOffsets, assembler) ← Dispatcher.program description
  match assembler.finish with
  | .error faults => .error (.assembly faults)
  | .ok assembled =>
      return {
        target := description.classId
        typeName := description.name
        code := assembled.code
        constants := assembled.constants
        entryOffsets
        maxStack := assembled.maxStack }

end OrdinalDispatch.Code

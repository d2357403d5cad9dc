import OrdinalDispatch.Machine.Linkage

/-!
Contract: what a snapshot of a class and linking an image ask a model.

Owns: properties of questions that pass to questions in a row, and that such a
property passes from the single questions to a model on to snapshots of its
classes and to linking with it.

Does not own: which properties there are; each is defined where it is needed.
-/

set_option autoImplicit false

namespace OrdinalDispatch.Machine

open OrdinalDispatch.Code

variable {World : Type} {holds : {Answer : Type} → StateM World Answer → Prop}

/-- A property of questions that an answer without a question has, and that questions in a row have
if each of them has it, whatever was answered before. -/
structure Composes (holds : {Answer : Type} → StateM World Answer → Prop) : Prop where
  ofPure : ∀ {Answer : Type} (answer : Answer), holds (pure answer : StateM World Answer)
  bind : ∀ {Answer Following : Type} {question : StateM World Answer}
    {next : Answer → StateM World Following}, holds question → (∀ answer, holds (next answer)) →
      holds (question >>= next)

/-- Every question for the name, the members and the handles of a class has a property. Overrides
and assignability are asked for in calls alone, and may be anything; a model may describe its classes
without these questions. -/
structure EachQuestion (holds : {Answer : Type} → StateM World Answer → Prop)
    (model : TypeModel World) : Prop where
  typeName : ∀ classId, holds (model.typeName classId)
  constructors : ∀ classId, holds (model.constructors classId)
  methods : ∀ classId, holds (model.methods classId)
  fields : ∀ classId, holds (model.fields classId)
  constructorHandle : ∀ classId ordinal, holds (model.constructorHandle classId ordinal)
  methodHandle : ∀ classId ordinal, holds (model.methodHandle classId ordinal)
  fieldHandle : ∀ classId ordinal, holds (model.fieldHandle classId ordinal)

namespace EachQuestion

variable {model : TypeModel World} (composes : Composes holds) (each : EachQuestion holds model)
include composes each

theorem snapshot (classId : ClassId) :
    holds (TypeModel.snapshot model.typeName model.constructors model.methods model.fields
      classId) := by
  apply composes.bind (each.typeName classId)
  intro name
  cases name with
  | none => exact composes.ofPure none
  | some name =>
      apply composes.bind (each.constructors classId)
      intro constructors
      apply composes.bind (each.methods classId)
      intro methods
      exact composes.bind (each.fields classId) fun fields => composes.ofPure _

open Linkage

theorem linkConstant (classId : ClassId) (listed : Listed) (constant : Constant) :
    holds (linkConstant model classId listed constant) := by
  cases constant with
  | constructor ordinal parameters =>
      show holds (linkConstructor model classId listed ordinal.toNat parameters)
      unfold linkConstructor
      split
      · exact composes.ofPure _
      · split
        · exact composes.ofPure _
        · apply composes.bind (each.constructorHandle classId ordinal.toNat)
          intro handle
          cases handle <;> exact composes.ofPure _
  | method ordinal name parameters returnType kind =>
      show holds (linkMethod model classId listed ordinal.toNat name parameters returnType kind)
      unfold linkMethod
      split
      · exact composes.ofPure _
      · split
        · exact composes.ofPure _
        · apply composes.bind (each.methodHandle classId ordinal.toNat)
          intro handle
          split <;> exact composes.ofPure _
  | field ordinal name valueType isStatic =>
      show holds (linkField model classId listed ordinal.toNat name valueType isStatic)
      unfold linkField
      split
      · exact composes.ofPure _
      · split
        · exact composes.ofPure _
        · apply composes.bind (each.fieldHandle classId ordinal.toNat)
          intro handle
          cases handle <;> exact composes.ofPure _
  | _ => exact composes.ofPure _

theorem linkAll (classId : ClassId) (listed : Listed) (members : Array (LinkedMember World))
    (constants : List Constant) : holds (linkAll model classId listed members constants) := by
  induction constants generalizing members with
  | nil => exact composes.ofPure _
  | cons constant rest inductionHypothesis =>
      apply composes.bind (each.linkConstant composes classId listed constant)
      intro linked
      cases linked with
      | error fault => exact composes.ofPure _
      | ok member => exact inductionHypothesis _

/-- Whatever composes, and holds of every question, holds of linking. -/
theorem ofImage (image : Image) : holds (ofImage model image) := by
  apply composes.bind (each.constructors image.target)
  intro constructors
  apply composes.bind (each.methods image.target)
  intro methods
  apply composes.bind (each.fields image.target)
  intro fields
  exact each.linkAll composes image.target _ #[] image.constants.toList

end EachQuestion

end OrdinalDispatch.Machine

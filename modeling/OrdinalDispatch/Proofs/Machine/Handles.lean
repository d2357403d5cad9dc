import OrdinalDispatch.Proofs.Code.Evaluation
import OrdinalDispatch.Proofs.Machine.DirectAccess
import OrdinalDispatch.Proofs.Machine.Linking

/-!
Contract: the members that a model gave for a linked image.

Owns: when members are those that the model answered with while it was linked,
that there are such members for every image of a description, and that the
linkage holds them at the constants that name them.

Does not own: what the members are called with.
-/

set_option autoImplicit false

namespace OrdinalDispatch.Machine

open OrdinalDispatch.Code

variable {World : Type} {model : TypeModel World} {image : Image} {start finish : World}
  {linkage : Linkage World}

namespace Linkage

/-- Linking came to a constant of the pool in a world where the answers were right. -/
def Asked (model : TypeModel World) (image : Image) (start : World) (constant : Constant)
    (answers : Listed → World → Prop) : Prop :=
  ∃ place listed world, image.constants[place]? = some constant ∧
    Comes model image start place listed world ∧ answers listed world

/-- Linking comes to a place in one way only. -/
theorem Comes.unique {place : Nat} {listed other : Listed} {world otherWorld : World}
    (comes : Comes model image start place listed world)
    (comesToo : Comes model image start place other otherWorld) :
    listed = other ∧ world = otherWorld := by
  obtain ⟨listedIn, front, lists, links⟩ := comes
  obtain ⟨otherIn, otherFront, listsToo, linksToo⟩ := comesToo
  obtain ⟨rfl, rfl⟩ := Prod.mk.inj (lists.symm.trans listsToo)
  exact ⟨rfl, (Prod.mk.inj (links.symm.trans linksToo)).2⟩

/-- No constant stands at two places of a finished pool. -/
theorem place_unique {final : Assembler} (makes : final.Makes image) {constant : Constant}
    {place other : Nat} (found : image.constants[place]? = some constant)
    (foundToo : image.constants[other]? = some constant) : place = other := by
  rw [makes.constants, ← makes.sound.pool.placed] at found foundToo
  exact Option.some.inj (found.symm.trans foundToo)

/-- The entry of a constant was linked where the answers were right. -/
theorem Asked.member? {final : Assembler} (makes : final.Makes image)
    (linked : (ofImage model image).run start = (.ok linkage, finish)) {constant : Constant}
    {answers : Listed → World → Prop} (asked : Asked model image start constant answers)
    {index : UInt16} (named : image.constant? index = some constant) :
    ∃ listed world member after, answers listed world ∧
      (linkConstant model image.target listed constant).run world = (.ok member, after) ∧
      linkage.member? index = some member := by
  obtain ⟨place, listed, world, found, comes, right⟩ := asked
  obtain rfl := place_unique makes named found
  obtain ⟨other, otherWorld, member, after, comesToo, isMember, entry⟩ := ofImage_at linked found
  obtain ⟨rfl, rfl⟩ := comes.unique comesToo
  exact ⟨listed, world, member, after, right, isMember, entry⟩

end Linkage

/-! ## Members of a description -/

namespace GivenMembers

/-- The members are those that the model answered with when linking came to the constant of each
ordinal. -/
structure AnsweredBy (given : GivenMembers World) (description : TypeDescription)
    (model : TypeModel World) (image : Image) (start : World) : Prop where
  constructor : ∀ ordinal constructor, description.constructors[ordinal]? = some constructor →
    Linkage.Asked model image start
      (.constructor (UInt32.ofNat ordinal) constructor.parameters) fun _ world =>
        ((model.constructorHandle description.classId ordinal).run world).1 =
          some (given.constructor ordinal)
  method : ∀ ordinal method, description.methods[ordinal]? = some method →
    Linkage.Asked model image start (Dispatcher.methodConstant ordinal method) fun listed world =>
      listed.methods[ordinal]? = some (given.listedMethod ordinal) ∧
        ((model.methodHandle description.classId ordinal).run world).1 = given.method ordinal
  field : ∀ ordinal field, description.fields[ordinal]? = some field →
    Linkage.Asked model image start (Dispatcher.fieldConstant ordinal field) fun _ world =>
      ((model.fieldHandle description.classId ordinal).run world).1 = some (given.field ordinal)

/-- What there is for each member of a list can be given for all of them, with anything for the
ordinals behind. -/
theorem exists_given {Member Answer : Type} (behind : Answer) {members : List Member}
    {right : Nat → Member → Answer → Prop}
    (each : ∀ ordinal member, members[ordinal]? = some member →
      ∃ answer, right ordinal member answer) :
    ∃ given : Nat → Answer, ∀ ordinal member, members[ordinal]? = some member →
      right ordinal member (given ordinal) := by
  suffices chosen : ∀ ordinal, ∃ answer, ∀ member, members[ordinal]? = some member →
      right ordinal member answer from Classical.skolem.mp chosen
  intro ordinal
  cases found : members[ordinal]? with
  | none => exact ⟨behind, fun _ absent => nomatch absent⟩
  | some member =>
      obtain ⟨answer, isRight⟩ := each ordinal member found
      exact ⟨answer, fun other same => Option.some.inj same ▸ isRight⟩

variable {description : TypeDescription} {given : GivenMembers World}

/-- The ordinal in the constant of a member is its own. -/
theorem toNat_ordinal {Member : Type} {members : List Member} {ordinal : Nat} {member : Member}
    (few : members.length < 2 ^ 32) (found : members[ordinal]? = some member) :
    (UInt32.ofNat ordinal).toNat = ordinal := by
  have below := (List.getElem?_eq_some_iff.mp found).1
  rw [UInt32.toNat_ofNat', Nat.mod_eq_of_lt (by omega)]

section Built

variable (built : Dispatcher.Built description image)
  (linked : (Linkage.ofImage model image).run start = (.ok linkage, finish))
include built linked

theorem constructor_answered {ordinal : Nat} {constructor : ConstructorDescription}
    (found : description.constructors[ordinal]? = some constructor) :
    ∃ handle, Linkage.Asked model image start
      (.constructor (UInt32.ofNat ordinal) constructor.parameters) fun _ world =>
        ((model.constructorHandle description.classId ordinal).run world).1 = some handle := by
  obtain ⟨index, named⟩ := built.constant?_constructor found
  obtain ⟨listed, world, member, after, comes, isMember, -⟩ := Linkage.ofImage_at linked named
  rw [built.target, Linkage.linkConstant,
    toNat_ordinal built.length_constructors_lt found] at isMember
  obtain ⟨handle, answered, -⟩ := Linkage.linkConstructor_ok isMember
  exact ⟨handle, index.toNat, listed, world, named, comes, congrArg Prod.fst answered⟩

theorem method_answered {ordinal : Nat} {method : MethodDescription}
    (found : description.methods[ordinal]? = some method) :
    ∃ answer : MethodDescription × Option (MethodHandle World),
      Linkage.Asked model image start (Dispatcher.methodConstant ordinal method)
        fun listed world =>
          listed.methods[ordinal]? = some answer.1 ∧
            ((model.methodHandle description.classId ordinal).run world).1 = answer.2 := by
  obtain ⟨index, named⟩ := built.constant?_method found
  obtain ⟨listed, world, member, after, comes, isMember, -⟩ := Linkage.ofImage_at linked named
  rw [built.target, Dispatcher.methodConstant, Linkage.linkConstant,
    toNat_ordinal built.length_methods_lt found] at isMember
  obtain ⟨current, handle, isListed, answered, -⟩ := Linkage.linkMethod_ok isMember
  exact ⟨(current, handle), index.toNat, listed, world, named, comes, isListed,
    congrArg Prod.fst answered⟩

theorem field_answered {ordinal : Nat} {field : FieldDescription}
    (found : description.fields[ordinal]? = some field) :
    ∃ handle, Linkage.Asked model image start (Dispatcher.fieldConstant ordinal field)
      fun _ world =>
        ((model.fieldHandle description.classId ordinal).run world).1 = some handle := by
  obtain ⟨index, named⟩ := built.constant?_field found
  obtain ⟨listed, world, member, after, comes, isMember, -⟩ := Linkage.ofImage_at linked named
  rw [built.target, Dispatcher.fieldConstant, Linkage.linkConstant,
    toNat_ordinal built.length_fields_lt found] at isMember
  obtain ⟨handle, answered, -⟩ := Linkage.linkField_ok isMember
  exact ⟨handle, index.toNat, listed, world, named, comes, congrArg Prod.fst answered⟩

/-- Whatever a model was linked with, it gave the members of the description. -/
theorem exists_answeredBy :
    ∃ given : GivenMembers World, given.AnsweredBy description model image start := by
  obtain ⟨constructors, constructorsRight⟩ :=
    exists_given (fun _ => pure (.error "")) fun ordinal constructor found =>
      constructor_answered built linked found
  obtain ⟨methods, methodsRight⟩ :=
    exists_given ⟨⟨"", [], .void, .object, false, {}⟩, none⟩ fun ordinal method found =>
      method_answered built linked found
  obtain ⟨fields, fieldsRight⟩ :=
    exists_given ⟨fun _ => pure (.error ""), fun _ _ => pure (.error "")⟩
      fun ordinal field found => field_answered built linked found
  exact ⟨⟨constructors, fun ordinal => (methods ordinal).1, fun ordinal => (methods ordinal).2,
    fields⟩, constructorsRight, methodsRight, fieldsRight⟩

/-! ## Linked members -/

variable (answered : given.AnsweredBy description model image start)
include answered

theorem AnsweredBy.member?_constructor {ordinal : Nat} {constructor : ConstructorDescription}
    {index : UInt16} (found : description.constructors[ordinal]? = some constructor)
    (named : image.constant? index =
      some (.constructor (UInt32.ofNat ordinal) constructor.parameters)) :
    linkage.member? index =
      some (.constructor constructor.parameters.length (given.constructor ordinal)) := by
  obtain ⟨listed, world, member, after, isGiven, isMember, entry⟩ :=
    (answered.constructor ordinal constructor found).member? built.makes linked named
  rw [built.target, Linkage.linkConstant,
    toNat_ordinal built.length_constructors_lt found] at isMember
  obtain ⟨handle, isHandle, rfl⟩ := Linkage.linkConstructor_ok isMember
  rw [isHandle] at isGiven
  obtain rfl := Option.some.inj isGiven
  exact entry

/-- A linked method has the signature that the description has. -/
theorem AnsweredBy.member?_method {ordinal : Nat} {method : MethodDescription}
    {index : UInt16} (found : description.methods[ordinal]? = some method)
    (named : image.constant? index = some (Dispatcher.methodConstant ordinal method)) :
    linkage.member? index =
        some (.method (given.listedMethod ordinal) (given.method ordinal)) ∧
      (given.listedMethod ordinal).name = method.name ∧
      (given.listedMethod ordinal).parameters = method.parameters := by
  obtain ⟨listed, world, member, after, ⟨isListed, isGiven⟩, isMember, entry⟩ :=
    (answered.method ordinal method found).member? built.makes linked named
  rw [built.target, Dispatcher.methodConstant, Linkage.linkConstant,
    toNat_ordinal built.length_methods_lt found] at isMember
  obtain ⟨current, handle, isCurrent, isHandle, rfl, name, parameters, -⟩ :=
    Linkage.linkMethod_ok isMember
  obtain rfl := Option.some.inj (isCurrent.symm.trans isListed)
  rw [isHandle] at isGiven
  exact ⟨isGiven ▸ entry, name, parameters⟩

theorem AnsweredBy.member?_field {ordinal : Nat} {field : FieldDescription}
    {index : UInt16} (found : description.fields[ordinal]? = some field)
    (named : image.constant? index = some (Dispatcher.fieldConstant ordinal field)) :
    linkage.member? index = some (.field (given.field ordinal)) := by
  obtain ⟨listed, world, member, after, isGiven, isMember, entry⟩ :=
    (answered.field ordinal field found).member? built.makes linked named
  rw [built.target, Dispatcher.fieldConstant, Linkage.linkConstant,
    toNat_ordinal built.length_fields_lt found] at isMember
  obtain ⟨handle, isHandle, rfl⟩ := Linkage.linkField_ok isMember
  rw [isHandle] at isGiven
  obtain rfl := Option.some.inj isGiven
  exact entry

end Built

end GivenMembers

/-! ## A model of a counter -/

/-- A model with one counter, whose total is the world. -/
def counterModel : TypeModel Int32 where
  typeName _ := return some counter.name
  constructors _ := return counter.constructors
  methods _ := return counter.methods
  fields _ := return counter.fields
  constructorHandle _ _ := return some fun _ => do
    set (0 : Int32)
    return .ok ⟨0, counter.classId⟩
  methodHandle _ _ := return some fun _ arguments => do
    match arguments with
    | [.int amount] =>
        modify fun total => total + amount
        return .ok (.int (← get))
    | _ => return .error "not an amount"
  fieldHandle _ _ := return some {
    read _ := return .ok (.int (← get))
    write _ value := do
      match value with
      | .int total =>
          set total
          return .ok ()
      | _ => return .error "not a total" }
  resolveOverride _ _ := return none
  isAssignable _ _ := return false

theorem counter_linked :
    ∃ linkage, (Linkage.ofImage counterModel counterImage).run 0 = (.ok linkage, 0) :=
  ⟨_, rfl⟩

end OrdinalDispatch.Machine

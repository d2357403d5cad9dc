import Mathlib.Data.List.Nodup
import Mathlib.Algebra.BigOperators.Fin
import OrdinalDispatch.Proofs.Code.Drafting

/-!
Contract: the constants of a dispatcher, family by family.

Owns: which messages, tables, classes and members are among the constants of a
description, and how many different ones there are.

Does not own: that a pool takes the constants as long as they fit, see
`OrdinalDispatch.Proofs.Code.Drafting`.

Ordinals are written with 32 bits. Members that are 2 ^ 32 apart may share a
constant, but then there are far too many constants for a pool anyway.
-/

set_option autoImplicit false

namespace OrdinalDispatch.Code

namespace Dispatcher

/-! ## Membership -/

/-- The texts of all messages of a dispatcher. -/
def messages : List String :=
  [AccessError.wrongConstructor, AccessError.argumentsMissing, AccessError.wrongArgumentCount,
    AccessError.wrongMethod, AccessError.wrongField]

/-- The declared types of parameters and fields. -/
def declaredTypes (description : TypeDescription) : List ValueType :=
  (parameterLists description).flatten ++ description.fields.map (·.valueType)

/-- Whether some member needs a receiver. -/
def HasReceiver (description : TypeDescription) : Prop :=
  (∃ method ∈ description.methods, method.callKind ≠ .static) ∨
    ∃ field ∈ description.fields, field.modifiers.isStatic = false

/-- The constants of members, each with its ordinal. -/
def references {Member : Type} (constant : Nat → Member → Constant) (members : List Member) :
    List Constant :=
  members.zipIdx.map fun entry => constant entry.2 entry.1

/-- The constant that names a constructor by its ordinal. -/
def constructorConstant (ordinal : Nat) (constructor : ConstructorDescription) : Constant :=
  .constructor (UInt32.ofNat ordinal) constructor.parameters

section Membership

variable {description : TypeDescription} {constant : Constant}

theorem mem_castConstants {target : ClassId} :
    constant ∈ castConstants target ↔ target ≠ ClassId.object ∧ constant = .classRef target := by
  unfold castConstants
  split
  · exact iff_of_false List.not_mem_nil fun casts => casts.1 ‹_›
  · rw [List.mem_singleton]
    exact (and_iff_right ‹_›).symm

theorem mem_coerceConstants {type : ValueType} :
    constant ∈ coerceConstants type ↔
      ∃ target, type = .reference target ∧ target ≠ ClassId.object ∧
        constant = .classRef target := by
  cases type with
  | reference target => simp [coerceConstants, mem_castConstants]
  | void => simp [coerceConstants]
  | primitive kind => simp [coerceConstants]

theorem mem_receiverConstants {isStatic : Bool} :
    constant ∈ receiverConstants description isStatic ↔
      isStatic = false ∧ description.classId ≠ ClassId.object ∧
        constant = .classRef description.classId := by
  cases isStatic <;> simp [receiverConstants, mem_castConstants]

section Members

variable {Member : Type} {members : List Member}

theorem mem_references {name : Nat → Member → Constant} :
    constant ∈ references name members ↔
      ∃ ordinal member, members[ordinal]? = some member ∧ constant = name ordinal member := by
  simp only [references, List.mem_map, Prod.exists, List.mk_mem_zipIdx_iff_getElem?]
  exact ⟨fun ⟨member, ordinal, found, same⟩ => ⟨ordinal, member, found, same.symm⟩,
    fun ⟨ordinal, member, found, same⟩ => ⟨member, ordinal, found, same.symm⟩⟩

theorem mem_branchesConstants {made : Nat → Member → List Constant} :
    constant ∈ branchesConstants made 0 members ↔
      ∃ ordinal member, members[ordinal]? = some member ∧ constant ∈ made ordinal member := by
  simp only [branchesConstants, List.mem_flatMap, Prod.exists, List.mk_mem_zipIdx_iff_getElem?]
  exact exists_comm

/-- What holds of a member at some ordinal holds of a member. -/
theorem exists_ordinal_iff {holds : Member → Prop} :
    (∃ (ordinal : Nat) (member : Member), members[ordinal]? = some member ∧ holds member) ↔
      ∃ member ∈ members, holds member := by
  rw [exists_comm]
  simp only [List.mem_iff_getElem?, exists_and_right]

end Members

theorem mem_constructorConstants {ordinal : Nat} {constructor : ConstructorDescription} :
    constant ∈ constructorConstants ordinal constructor ↔
      (∃ target, .reference target ∈ constructor.parameters ∧ target ≠ ClassId.object ∧
        constant = .classRef target) ∨ constant = constructorConstant ordinal constructor := by
  simp only [constructorConstants, List.mem_append, List.mem_flatMap, mem_coerceConstants,
    List.mem_singleton, constructorConstant]
  grind

theorem mem_methodConstants {ordinal : Nat} {method : MethodDescription} :
    constant ∈ methodConstants description ordinal method ↔
      (method.callKind ≠ .static ∧ description.classId ≠ ClassId.object ∧
        constant = .classRef description.classId) ∨
      (∃ target, .reference target ∈ method.parameters ∧ target ≠ ClassId.object ∧
        constant = .classRef target) ∨ constant = methodConstant ordinal method := by
  simp only [methodConstants, List.mem_append, List.mem_flatMap, mem_coerceConstants,
    List.mem_singleton, mem_receiverConstants, decide_eq_false_iff_not]
  grind

theorem mem_writeConstants {ordinal : Nat} {field : FieldDescription} :
    constant ∈ writeConstants description ordinal field ↔
      constant = fieldConstant ordinal field ∨
      (field.modifiers.isStatic = false ∧ description.classId ≠ ClassId.object ∧
        constant = .classRef description.classId) ∨
      ∃ target, field.valueType = .reference target ∧ target ≠ ClassId.object ∧
        constant = .classRef target := by
  simp only [writeConstants, readConstants, List.mem_append, List.mem_cons, mem_coerceConstants,
    mem_receiverConstants, or_assoc]

/-- The entry point without a selector refers to one of the constructors. -/
theorem exists_of_mem_defaultConstants (member : constant ∈ defaultConstants description) :
    ∃ ordinal constructor, description.constructors[ordinal]? = some constructor ∧
      constant ∈ constructorConstants ordinal constructor := by
  unfold defaultConstants at member
  split at member
  · rename_i ordinal isDefault
    obtain ⟨below, plain, -⟩ := List.findIdx?_eq_some_iff_getElem.mp isDefault
    refine ⟨ordinal, _, List.getElem?_eq_getElem below, mem_constructorConstants.mpr (.inr ?_)⟩
    rw [List.mem_singleton.mp member, constructorConstant, List.isEmpty_iff.mp plain]
  · cases member

/-- The constants of a dispatcher by its branches: the section that writes fields has all the
constants of the one that reads them. -/
theorem mem_constantsOf :
    constant ∈ constantsOf description ↔
      (∃ text ∈ messages, constant = .message text) ∨
      (constant = .arityTable (arities (description.constructors.map (·.parameters))) ∨
        constant = .arityTable (arities (description.methods.map (·.parameters)))) ∨
      (∃ ordinal constructor, description.constructors[ordinal]? = some constructor ∧
        constant ∈ constructorConstants ordinal constructor) ∨
      (∃ ordinal method, description.methods[ordinal]? = some method ∧
        constant ∈ methodConstants description ordinal method) ∨
      ∃ ordinal field, description.fields[ordinal]? = some field ∧
        constant ∈ writeConstants description ordinal field := by
  have ofDefault := @exists_of_mem_defaultConstants description constant
  simp only [constantsOf, sectionConstants, checksConstants, mem_branchesConstants, messages,
    List.mem_append, List.mem_cons, List.not_mem_nil, or_false, exists_eq_or_imp,
    exists_eq_left, writeConstants]
  grind

/-! ## Families -/

theorem message_mem_constantsOf {text : String} :
    .message text ∈ constantsOf description ↔ text ∈ messages := by
  simp [mem_constantsOf, mem_constructorConstants, mem_methodConstants, mem_writeConstants,
    constructorConstant, methodConstant, fieldConstant]

theorem arityTable_mem_constantsOf {table : List UInt16} :
    .arityTable table ∈ constantsOf description ↔
      table = arities (description.constructors.map (·.parameters)) ∨
        table = arities (description.methods.map (·.parameters)) := by
  simp [mem_constantsOf, mem_constructorConstants, mem_methodConstants, mem_writeConstants,
    constructorConstant, methodConstant, fieldConstant]

/-- A class is among the constants if a declared type names it, or a receiver is cast to it. -/
theorem classRef_mem_constantsOf {target : ClassId} :
    .classRef target ∈ constantsOf description ↔
      target ≠ ClassId.object ∧ (.reference target ∈ declaredTypes description ∨
        HasReceiver description ∧ target = description.classId) := by
  simp only [mem_constantsOf, mem_constructorConstants, mem_methodConstants, mem_writeConstants]
  simp only [constructorConstant, methodConstant, fieldConstant, reduceCtorEq, or_false, false_or,
    Constant.classRef.injEq, exists_ordinal_iff, declaredTypes, parameterLists, HasReceiver,
    List.mem_append, List.mem_flatten, List.mem_map]
  grind

theorem constructor_mem_constantsOf {number : UInt32} {parameters : List ValueType} :
    .constructor number parameters ∈ constantsOf description ↔
      .constructor number parameters ∈ references constructorConstant description.constructors := by
  simp [mem_constantsOf, mem_constructorConstants, mem_methodConstants, mem_writeConstants,
    constructorConstant, methodConstant, fieldConstant, mem_references]

theorem method_mem_constantsOf {number : UInt32} {name : String} {parameters : List ValueType}
    {returnType : ValueType} {kind : CallKind} :
    .method number name parameters returnType kind ∈ constantsOf description ↔
      .method number name parameters returnType kind ∈
        references methodConstant description.methods := by
  simp [mem_constantsOf, mem_constructorConstants, mem_methodConstants, mem_writeConstants,
    constructorConstant, fieldConstant, mem_references]

theorem field_mem_constantsOf {number : UInt32} {name : String} {valueType : ValueType}
    {isStatic : Bool} :
    .field number name valueType isStatic ∈ constantsOf description ↔
      .field number name valueType isStatic ∈ references fieldConstant description.fields := by
  simp [mem_constantsOf, mem_constructorConstants, mem_methodConstants, mem_writeConstants,
    constructorConstant, methodConstant, mem_references]

end Membership

/-! ## References -/

section References

/-- The ordinal in a constant of a member. -/
def ordinal? : Constant → Option UInt32
  | .constructor ordinal _ => some ordinal
  | .method ordinal _ _ _ _ => some ordinal
  | .field ordinal _ _ _ => some ordinal
  | _ => none

variable {Member : Type} {name : Nat → Member → Constant}

/-- As many members as there are ordinals are named by different constants. -/
theorem nodup_references
    (numbered : ∀ ordinal member, ordinal? (name ordinal member) = some (UInt32.ofNat ordinal))
    {members : List Member} (few : members.length ≤ UInt32.size) :
    (references name members).Nodup := by
  refine List.Nodup.of_map ordinal? ?_
  have ordinals : (references name members).map ordinal? =
      (List.range members.length).map fun ordinal => some (UInt32.ofNat ordinal) := by
    rw [references, List.map_map, List.range_eq_range', ← List.zipIdx_map_snd, List.map_map]
    exact List.map_congr_left fun entry _ => numbered entry.2 entry.1
  rw [ordinals]
  refine List.Nodup.map_on ?_ List.nodup_range
  intro one isOrdinal other isOrdinalToo same
  rw [List.mem_range] at isOrdinal isOrdinalToo
  have written := congrArg UInt32.toNat (Option.some.inj same)
  rwa [UInt32.toNat_ofNat_of_lt' (by omega), UInt32.toNat_ofNat_of_lt' (by omega)] at written

theorem length_references (members : List Member) :
    (references name members).length = members.length := by
  rw [references, List.length_map, List.length_zipIdx]

theorem card_references_le (members : List Member) :
    (references name members).toFinset.card ≤ members.length :=
  (length_references members) ▸ List.toFinset_card_le _

/-- Members share constants only when there are more of them than ordinals. -/
theorem le_card_references
    (numbered : ∀ ordinal member, ordinal? (name ordinal member) = some (UInt32.ofNat ordinal))
    (members : List Member) :
    min UInt32.size members.length ≤ (references name members).toFinset.card := by
  have front : references name (members.take UInt32.size) ⊆ references name members := by
    intro constant member
    rw [mem_references] at member ⊢
    obtain ⟨ordinal, owner, found, same⟩ := member
    rw [List.getElem?_take] at found
    split at found
    · exact ⟨ordinal, owner, found, same⟩
    · cases found
  have some := nodup_references numbered (List.length_take_le UInt32.size members)
  rw [← List.length_take, ← length_references, ← List.toFinset_card_of_nodup some]
  refine Finset.card_le_card fun constant member => ?_
  rw [List.mem_toFinset] at member ⊢
  exact front member

end References

/-! ## Counts -/

/-- The class that a declared type names. -/
def target? : ValueType → Option ClassId
  | .reference target => some target
  | _ => none

instance (description : TypeDescription) : Decidable (HasReceiver description) :=
  inferInstanceAs (Decidable (_ ∨ _))

/-- The classes that a dispatcher casts to: those of declared types, and the described one if some
member has a receiver. Everything is an object, so that class is left out. -/
def castClasses (description : TypeDescription) : Finset ClassId :=
  (((declaredTypes description).filterMap target?).toFinset ∪
    if HasReceiver description then {description.classId} else ∅).erase ClassId.object

/-- How many different constants a dispatcher has: the messages, the tables of arities, which the
constructors and the methods may share, the classes of casts, and a reference to each member. -/
def poolSize (description : TypeDescription) : Nat :=
  5 +
    (if description.constructors.map (·.parameters.length) =
      description.methods.map (·.parameters.length) then 1 else 2) +
    (castClasses description).card + description.constructors.length +
    description.methods.length + description.fields.length

section Families

variable {description : TypeDescription}

/-- The constants of all members. -/
def memberReferences (description : TypeDescription) : List Constant :=
  references constructorConstant description.constructors ++
    (references methodConstant description.methods ++
      references fieldConstant description.fields)

/-- Of the constants of a dispatcher those with an ordinal are the references to members. -/
theorem mem_memberReferences {constant : Constant} :
    constant ∈ memberReferences description ↔
      constant ∈ constantsOf description ∧ (ordinal? constant).isSome := by
  cases constant <;>
    simp [memberReferences, constructor_mem_constantsOf, method_mem_constantsOf,
      field_mem_constantsOf, mem_references, constructorConstant, methodConstant, fieldConstant,
      ordinal?]

/-- No two members share a reference as long as there are ordinals enough. -/
theorem nodup_memberReferences (few : description.memberCount ≤ UInt32.size) :
    (memberReferences description).Nodup := by
  rw [TypeDescription.memberCount] at few
  have constructors := @nodup_references _ constructorConstant (fun _ _ => rfl)
    description.constructors (by omega)
  have methods := @nodup_references _ methodConstant (fun _ _ => rfl) description.methods (by omega)
  have fields := @nodup_references _ fieldConstant (fun _ _ => rfl) description.fields (by omega)
  refine constructors.append (methods.append fields ?_) ?_
  · intro constant isMethod isField
    obtain ⟨_, _, -, rfl⟩ := mem_references.mp isMethod
    obtain ⟨_, _, -, same⟩ := mem_references.mp isField
    cases same
  · intro constant isConstructor isOther
    obtain ⟨_, _, -, rfl⟩ := mem_references.mp isConstructor
    rcases List.mem_append.mp isOther with isMethod | isField
    · obtain ⟨_, _, -, same⟩ := mem_references.mp isMethod
      cases same
    · obtain ⟨_, _, -, same⟩ := mem_references.mp isField
      cases same

theorem mem_castClasses {target : ClassId} :
    target ∈ castClasses description ↔ .classRef target ∈ constantsOf description := by
  have named : (∃ type ∈ declaredTypes description, target? type = some target) ↔
      .reference target ∈ declaredTypes description := by
    constructor
    · rintro ⟨type, declared, isTarget⟩
      cases type with
      | reference other => exact Option.some.inj isTarget ▸ declared
      | void => cases isTarget
      | primitive kind => cases isTarget
    · exact fun declared => ⟨_, declared, rfl⟩
  rw [classRef_mem_constantsOf, castClasses, Finset.mem_erase, Finset.mem_union, List.mem_toFinset,
    List.mem_filterMap, named]
  split <;> simp [*]

/-- Tables of counts that fit sixteen bits are the same just if the counts are. -/
theorem arities_eq_iff {one other : List (List ValueType)} (short : overlong? one = none)
    (shortToo : overlong? other = none) :
    arities one = arities other ↔ one.map List.length = other.map List.length := by
  have counts {lists : List (List ValueType)} (isShort : overlong? lists = none) :
      (arities lists).map UInt16.toNat = lists.map List.length := by
    rw [arities, List.map_map]
    refine List.map_congr_left fun parameters member => ?_
    exact UInt16.toNat_ofNat_of_lt' (overlong?_eq_none_iff.mp isShort parameters member)
  constructor
  · intro same
    rw [← counts short, ← counts shortToo, same]
  · intro same
    have written : ∀ lists : List (List ValueType),
        arities lists = (lists.map List.length).map UInt16.ofNat := by
      intro lists
      rw [arities, List.map_map]
      rfl
    rw [written, written, same]

/-- The families of constants by number. -/
def family : Constant → Fin 6
  | .message _ => 0
  | .arityTable _ => 1
  | .classRef _ => 2
  | .constructor _ _ => 3
  | .method _ _ _ _ _ => 4
  | .field _ _ _ _ => 5

/-- The different constants of one family. -/
def ofFamily (description : TypeDescription) (number : Fin 6) : Finset Constant :=
  (constantsOf description).toFinset.filter fun constant => family constant = number

theorem mem_ofFamily {number : Fin 6} {constant : Constant} :
    constant ∈ ofFamily description number ↔
      constant ∈ constantsOf description ∧ family constant = number := by
  rw [ofFamily, Finset.mem_filter, List.mem_toFinset]

theorem card_messages : (ofFamily description 0).card = 5 := by
  have texts : ofFamily description 0 = messages.toFinset.image .message := by
    ext constant
    rw [mem_ofFamily]
    cases constant <;> simp [family, message_mem_constantsOf]
  rw [texts, Finset.card_image_of_injective _ fun _ _ same => Constant.message.inj same]
  rfl

theorem card_tables (short : overlong? (parameterLists description) = none) :
    (ofFamily description 1).card =
      if description.constructors.map (·.parameters.length) =
        description.methods.map (·.parameters.length) then 1 else 2 := by
  rw [parameterLists, overlong?_append, Option.or_eq_none_iff] at short
  have tables : ofFamily description 1 =
      {.arityTable (arities (description.constructors.map (·.parameters))),
        .arityTable (arities (description.methods.map (·.parameters)))} := by
    ext constant
    rw [mem_ofFamily]
    cases constant <;> simp [family, arityTable_mem_constantsOf]
  have shared := arities_eq_iff short.1 short.2
  rw [List.map_map, List.map_map] at shared
  rw [tables]
  split
  · rename_i same
    rw [shared.mpr same, Finset.pair_eq_singleton, Finset.card_singleton]
  · rename_i different
    exact Finset.card_pair fun same => different (shared.mp (Constant.arityTable.inj same))

theorem card_classes : (ofFamily description 2).card = (castClasses description).card := by
  have classes : ofFamily description 2 = (castClasses description).image .classRef := by
    ext constant
    rw [mem_ofFamily]
    cases constant <;> simp [family, mem_castClasses]
  rw [classes, Finset.card_image_of_injective _ fun _ _ same => Constant.classRef.inj same]

theorem constructors_eq :
    ofFamily description 3 =
      (references constructorConstant description.constructors).toFinset := by
  ext constant
  rw [mem_ofFamily, List.mem_toFinset]
  cases constant <;>
    simp [family, constructor_mem_constantsOf, mem_references, constructorConstant]

theorem methods_eq :
    ofFamily description 4 = (references methodConstant description.methods).toFinset := by
  ext constant
  rw [mem_ofFamily, List.mem_toFinset]
  cases constant <;> simp [family, method_mem_constantsOf, mem_references, methodConstant]

theorem fields_eq :
    ofFamily description 5 = (references fieldConstant description.fields).toFinset := by
  ext constant
  rw [mem_ofFamily, List.mem_toFinset]
  cases constant <;> simp [family, field_mem_constantsOf, mem_references, fieldConstant]

/-- All different constants, family by family. -/
theorem card_constantsOf :
    (constantsOf description).toFinset.card =
      (ofFamily description 0).card + (ofFamily description 1).card +
        (ofFamily description 2).card + (ofFamily description 3).card +
        (ofFamily description 4).card + (ofFamily description 5).card := by
  rw [← Fin.sum_univ_six fun number => (ofFamily description number).card]
  exact Finset.card_eq_sum_card_fiberwise fun constant _ => Finset.mem_univ (family constant)

/-- No constant is counted twice. -/
theorem card_le_poolSize (short : overlong? (parameterLists description) = none) :
    (constantsOf description).toFinset.card ≤ poolSize description := by
  have constructors := @card_references_le _ constructorConstant description.constructors
  have methods := @card_references_le _ methodConstant description.methods
  have fields := @card_references_le _ fieldConstant description.fields
  rw [card_constantsOf, card_messages, card_tables short, card_classes, constructors_eq, methods_eq,
    fields_eq, poolSize]
  omega

/-- Every constant is counted, unless there are more of them than ordinals. -/
theorem poolSize_le_card (short : overlong? (parameterLists description) = none)
    (few : (constantsOf description).toFinset.card < UInt32.size) :
    poolSize description ≤ (constantsOf description).toFinset.card := by
  have constructors := @le_card_references _ constructorConstant (fun _ _ => rfl)
    description.constructors
  have methods := @le_card_references _ methodConstant (fun _ _ => rfl) description.methods
  have fields := @le_card_references _ fieldConstant (fun _ _ => rfl) description.fields
  rw [card_constantsOf, card_messages, card_tables short, card_classes, constructors_eq, methods_eq,
    fields_eq] at few ⊢
  rw [poolSize]
  omega

theorem fits_constantsOf_iff (short : overlong? (parameterLists description) = none) :
    ConstantPool.Fits (constantsOf description) ↔
      poolSize description ≤ ConstantPool.capacity := by
  have most := card_le_poolSize short
  have least := poolSize_le_card short
  have small : ConstantPool.capacity < UInt32.size := by decide
  unfold ConstantPool.Fits
  omega

end Families

end Dispatcher

namespace Image

open Dispatcher

variable {description : TypeDescription} {image : Image}

/-- What is built has counted parameters, and the pool of its constants, which fit. -/
theorem constants_of_built (built : ofDescription description = .ok image) :
    overlong? (parameterLists description) = none ∧
      ConstantPool.Fits (constantsOf description) ∧
      image.constants = (ConstantPool.ofList (constantsOf description)).entries := by
  cases short : overlong? (parameterLists description) with
  | some parameters =>
      rw [ofDescription_overlong short] at built
      cases built
  | none =>
      rcases ofDescription_cases short with ⟨fits, made, isMade, constants⟩ | ⟨-, _, -, failed⟩
      · obtain rfl := Except.ok.inj (isMade.symm.trans built)
        exact ⟨rfl, fits, constants⟩
      · rw [failed] at built
        cases built

variable (built : ofDescription description = .ok image)
include built

/-- The pool of a dispatcher has exactly the constants of its description. -/
theorem mem_constants_iff {constant : Constant} :
    constant ∈ image.constants.toList ↔ constant ∈ constantsOf description := by
  obtain ⟨-, fits, constants⟩ := constants_of_built built
  rw [constants]
  exact ⟨ConstantPool.mem_of_mem_ofList, ConstantPool.mem_ofList fits constant⟩

/-- No constant stands in the pool of a dispatcher twice. -/
theorem nodup_constants : image.constants.toList.Nodup := by
  obtain ⟨-, -, constants⟩ := constants_of_built built
  rw [constants]
  exact (ConstantPool.sound_ofList _).nodup

theorem size_constants : image.constants.size = poolSize description := by
  obtain ⟨short, fits, constants⟩ := constants_of_built built
  rw [constants, ConstantPool.size_of_complete (ConstantPool.mem_ofList fits)]
  refine Nat.le_antisymm (card_le_poolSize short) (poolSize_le_card short ?_)
  exact Nat.lt_of_le_of_lt fits (by decide)

/-- A description that is built has fewer members than a pool has places. -/
theorem memberCount_lt_capacity : description.memberCount < ConstantPool.capacity := by
  obtain ⟨short, fits, -⟩ := constants_of_built built
  have small := (fits_constantsOf_iff short).mp fits
  rw [poolSize] at small
  rw [TypeDescription.memberCount]
  omega

/-- Each member is referred to exactly once in the pool of a dispatcher. -/
theorem perm_memberReferences :
    (image.constants.toList.filter fun constant => (ordinal? constant).isSome).Perm
      (memberReferences description) := by
  have few := memberCount_lt_capacity built
  have small : ConstantPool.capacity < UInt32.size := by decide
  rw [List.perm_ext_iff_of_nodup ((nodup_constants built).filter _)
    (nodup_memberReferences (by omega))]
  intro constant
  rw [List.mem_filter, mem_constants_iff built, mem_memberReferences]

end Image

end OrdinalDispatch.Code

import OrdinalDispatch.Proofs.Code.Capacity
import OrdinalDispatch.Proofs.Code.Checking

/-!
Contract: what the code of a dispatcher comes to be, whatever the description.

Owns: the constants that each part of a dispatcher interns, that no part is at
fault for anything but a full pool, and that every part but the loads of too
many arguments is emitted.

Does not own: how many different constants there are, see
`OrdinalDispatch.Proofs.Code.PoolSize`.

A draft knows which constants were interned so far, which labels are still to be
marked, and how deep the operand stack is tracked to be. Every part adds its own
constants to the draft.
-/

set_option autoImplicit false

namespace OrdinalDispatch.Code

/-! ## Drafts -/

namespace Assembler

theorem faults_emitCall {assembler : Assembler} {argumentCount : UInt64}
    {instruction : Instruction Label}
    (enough : operandsTaken argumentCount instruction ≤ assembler.depth) :
    (assembler.emitCall argumentCount instruction).faults = assembler.faults := by
  have fewer : ¬assembler.depth < operandsTaken argumentCount instruction := Nat.not_lt.mpr enough
  simp only [emitCall, give, take, depth_append, if_neg fewer, faults_append]

theorem faults_mark {assembler : Assembler} {label : Label}
    (unmarked : assembler.placeOf? label = none) :
    (assembler.mark label).faults = assembler.faults := by
  unfold mark
  rw [unmarked]

/-- Code under assembly that is at fault for nothing but a full pool. The constants are those that
were interned so far, in order; of the labels that are defined some are still to be marked, and no
other label is marked. -/
structure Drafted (constants : List Constant) (unmarked : List Label) (depth : Nat)
    (assembler : Assembler) : Prop where
  pool : assembler.pool = .ofList constants
  faults : ∀ fault ∈ assembler.faults.toList, fault = .poolOverflow
  faultless : assembler.faults = #[] ↔ ConstantPool.Fits constants
  depth : assembler.depth = depth
  distinct : unmarked.Nodup
  defined : ∀ label ∈ unmarked, label.number < assembler.labelCount
  places : ∀ label, assembler.placeOf? label = none ↔
    label ∈ unmarked ∨ assembler.labelCount ≤ label.number
  targets : ∀ label ∈ assembler.jumps.toList.map Jump.target,
    label.number < assembler.labelCount

namespace Drafted

variable {assembler : Assembler} {constants : List Constant} {unmarked : List Label} {depth : Nat}

theorem start : Drafted [] [] 0 {} where
  pool := rfl
  faults := nofun
  faultless := iff_of_true rfl (Nat.zero_le _)
  depth := rfl
  distinct := List.nodup_nil
  defined := nofun
  places _ := iff_of_true rfl (.inr (Nat.zero_le _))
  targets := nofun

variable (drafted : Drafted constants unmarked depth assembler)
include drafted

/-- An instruction that has its operands, and whose labels are defined, is no fault. -/
theorem emitCall (argumentCount : UInt64) (instruction : Instruction Label)
    (enough : operandsTaken argumentCount instruction ≤ depth)
    (defined : ∀ label ∈ instruction.targets, label.number < assembler.labelCount) {behind : Nat}
    (leaves : depth - operandsTaken argumentCount instruction + operandsGiven instruction =
      behind) :
    Drafted constants unmarked behind (assembler.emitCall argumentCount instruction) := by
  have same := @faults_emitCall assembler argumentCount instruction (drafted.depth ▸ enough)
  constructor
  · rw [pool_emitCall, drafted.pool]
  · rw [same]
    exact drafted.faults
  · rw [same]
    exact drafted.faultless
  · rw [depth_emitCall, drafted.depth, leaves]
  · exact drafted.distinct
  · rw [labelCount_emitCall]
    exact drafted.defined
  · intro label
    rw [placeOf?_emitCall, labelCount_emitCall]
    exact drafted.places label
  · intro label isTarget
    rw [labelCount_emitCall]
    rw [(adds_emitCall assembler argumentCount instruction).targets, List.flatMap_singleton,
      List.mem_append] at isTarget
    exact isTarget.elim (drafted.targets label) (defined label)

/-- An instruction without labels that takes no operands is never a fault. -/
theorem emit (instruction : Instruction Label) (takes : operandsTaken 0 instruction = 0)
    (plain : instruction.targets = []) :
    Drafted constants unmarked (depth + operandsGiven instruction)
      (assembler.emit instruction) := by
  apply drafted.emitCall
  · rw [takes]
    exact Nat.zero_le depth
  · rw [plain]
    exact nofun
  · rw [takes, Nat.sub_zero]

/-- An instruction that ends a branch takes at most what is on top, and what it leaves does not
matter. -/
theorem emitLast (instruction : Instruction Label) (enough : operandsTaken 0 instruction ≤ depth)
    (plain : instruction.targets = []) :
    ∃ behind, Drafted constants unmarked behind (assembler.emit instruction) :=
  ⟨_, drafted.emitCall 0 instruction enough (plain ▸ nofun) rfl⟩

theorem intern (constant : Constant) :
    Drafted (constants ++ [constant]) unmarked depth (assembler.intern constant).2 := by
  have isNone := @ConstantPool.intern_isNone_iff constants constant
  rw [intern_eq, drafted.pool]
  refine ⟨(ConstantPool.ofList_append constants constant).symm, ?_, ?_, drafted.depth,
    drafted.distinct, drafted.defined, drafted.places, drafted.targets⟩
  · intro fault member
    dsimp only at member
    split at member
    · rw [Array.toList_push, List.mem_append, List.mem_singleton] at member
      rcases member with earlier | rfl
      · exact drafted.faults fault earlier
      · rfl
    · exact drafted.faults fault member
  · dsimp only
    by_cases fits : ConstantPool.Fits constants
    · rw [drafted.faultless.mpr fits]
      by_cases refused : ((ConstantPool.ofList constants).intern constant).1.isNone = true
      · rw [if_pos refused]
        exact iff_of_false (by simp) ((isNone fits).mp refused)
      · rw [if_neg refused]
        exact iff_of_true rfl (not_not.mp ((isNone fits).not.mp refused))
    · have overflown := drafted.faultless.not.mpr fits
      refine iff_of_false ?_ fun fitsToo => fits fitsToo.front
      split
      · simp
      · exact overflown

omit drafted in
/-- Marking the next label is no fault, and the branch behind it starts with no operand. -/
theorem mark {label : Label} (drafted : Drafted constants (label :: unmarked) depth assembler) :
    Drafted constants unmarked 0 (assembler.mark label) := by
  have defined := drafted.defined label List.mem_cons_self
  have distinct := List.nodup_cons.mp drafted.distinct
  have same := faults_mark ((drafted.places label).mpr (.inl List.mem_cons_self))
  constructor
  · rw [pool_mark, drafted.pool]
  · rw [same]
    exact drafted.faults
  · rw [same]
    exact drafted.faultless
  · exact depth_mark assembler label
  · exact distinct.2
  · intro other isLater
    rw [labelCount_mark]
    exact drafted.defined other (List.mem_cons_of_mem label isLater)
  · intro other
    rw [labelCount_mark]
    by_cases here : other = label
    · subst here
      rw [placeOf?_mark]
      exact iff_of_false nofun (not_or.mpr ⟨distinct.1, Nat.not_le.mpr defined⟩)
    · rw [placeOf?_mark_of_ne assembler here, drafted.places other, List.mem_cons,
        or_iff_right here]
  · intro other isTarget
    rw [labelCount_mark]
    rw [jumps_mark] at isTarget
    exact drafted.targets other isTarget

omit drafted in
/-- Code whose labels are all marked is finished just if its constants fit. -/
theorem finish (drafted : Drafted constants [] depth assembler) :
    (ConstantPool.Fits constants ∧ ∃ assembled, assembler.finish = .ok assembled ∧
        assembled.constants = (ConstantPool.ofList constants).entries) ∨
      ¬ConstantPool.Fits constants ∧ ∃ count, 0 < count ∧
        assembler.finish = .error (List.replicate count .poolOverflow) := by
  have marked : assembler.neverMarked = [] := by
    rw [neverMarked, List.filter_eq_nil_iff]
    intro label isTarget isNone
    have below := drafted.targets label isTarget
    have missing := (drafted.places label).mp (Option.isNone_iff_eq_none.mp isNone)
    exact Nat.not_le.mpr below (missing.resolve_left List.not_mem_nil)
  by_cases fits : ConstantPool.Fits constants
  · left
    refine ⟨fits, _, finish_eq (drafted.faultless.mpr fits) marked, ?_⟩
    rw [drafted.pool]
  · right
    have some := drafted.faultless.not.mpr fits
    have faults := List.eq_replicate_of_mem drafted.faults
    have positive : 0 < assembler.faults.toList.length := by
      rw [Array.length_toList]
      exact Nat.pos_of_ne_zero fun none => some (Array.eq_empty_of_size_eq_zero none)
    refine ⟨fits, _, positive, ?_⟩
    rw [Assembler.finish, allFaults, marked, List.map_nil, List.append_nil]
    obtain ⟨more, isMore⟩ := Nat.exists_eq_succ_of_ne_zero (Nat.ne_of_gt positive)
    rw [isMore, List.replicate_succ] at faults ⊢
    rw [faults]

end Drafted

end Assembler

namespace Dispatcher

open Assembler

/-! ## The constants of each part -/

/-- The constants of a cast; everything is an object, so that cast has none. -/
def castConstants (target : ClassId) : List Constant :=
  if target = ClassId.object then [] else [.classRef target]

/-- The constants of a conversion to a declared type. -/
def coerceConstants : ValueType → List Constant
  | .reference target => castConstants target
  | _ => []

/-- The constants of the branch of a constructor. -/
def constructorConstants (ordinal : Nat) (constructor : ConstructorDescription) : List Constant :=
  constructor.parameters.flatMap coerceConstants ++
    [.constructor (UInt32.ofNat ordinal) constructor.parameters]

/-- The constants of the receiver of a method that has one. -/
def receiverConstants (description : TypeDescription) (isStatic : Bool) : List Constant :=
  if isStatic then [] else castConstants description.classId

/-- The constants of the branch of a method. -/
def methodConstants (description : TypeDescription) (ordinal : Nat) (method : MethodDescription) :
    List Constant :=
  receiverConstants description (method.callKind = .static) ++
    method.parameters.flatMap coerceConstants ++ [methodConstant ordinal method]

/-- The constants of the branch that reads a field. -/
def readConstants (description : TypeDescription) (ordinal : Nat) (field : FieldDescription) :
    List Constant :=
  fieldConstant ordinal field :: receiverConstants description field.modifiers.isStatic

/-- The constants of the branch that writes a field. -/
def writeConstants (description : TypeDescription) (ordinal : Nat) (field : FieldDescription) :
    List Constant :=
  readConstants description ordinal field ++ coerceConstants field.valueType

/-- The constants of the branches of members from an ordinal on. -/
def branchesConstants {Member : Type} (constants : Nat → Member → List Constant) (first : Nat)
    (members : List Member) : List Constant :=
  (members.zipIdx first).flatMap fun entry => constants entry.2 entry.1

/-- The constants of the checks of a section. -/
def checksConstants : Option (List UInt16) → List Constant
  | none => []
  | some table =>
      [.message AccessError.argumentsMissing, .arityTable table,
        .message AccessError.wrongArgumentCount]

/-- The constants of a section. -/
def sectionConstants {Member : Type} (wrongSelectorText : String)
    (arities : Option (List UInt16)) (constants : Nat → Member → List Constant)
    (members : List Member) : List Constant :=
  .message wrongSelectorText :: checksConstants arities ++ branchesConstants constants 0 members

/-- The constants of the entry point without a selector. -/
def defaultConstants (description : TypeDescription) : List Constant :=
  match description.defaultConstructor? with
  | some ordinal => [.constructor (UInt32.ofNat ordinal) []]
  | none => []

/-- The table of the counts of parameters. -/
def arities (parameterLists : List (List ValueType)) : List UInt16 :=
  parameterLists.map fun parameters => UInt16.ofNat parameters.length

/-- The constants of a description, in the order in which its dispatcher interns them. -/
def constantsOf (description : TypeDescription) : List Constant :=
  defaultConstants description ++
    sectionConstants AccessError.wrongConstructor
      (some (arities (description.constructors.map (·.parameters)))) constructorConstants
      description.constructors ++
    sectionConstants AccessError.wrongMethod
      (some (arities (description.methods.map (·.parameters)))) (methodConstants description)
      description.methods ++
    sectionConstants AccessError.wrongField none (readConstants description) description.fields ++
    sectionConstants AccessError.wrongField none (writeConstants description) description.fields

/-! ## Parts of branches -/

section Parts

variable {assembler : Assembler} {constants : List Constant} {unmarked : List Label} {depth : Nat}

section Drafted

variable (drafted : Drafted constants unmarked depth assembler)
include drafted

theorem emitUnbox_drafted (type : ValueType) :
    Drafted constants unmarked depth (assembler.emitUnbox type) := by
  cases type with
  | primitive kind => exact drafted.emit (.unbox kind) rfl rfl
  | void => exact drafted
  | reference target => exact drafted

theorem emitBox_drafted (type : ValueType) :
    Drafted constants unmarked depth (assembler.emitBox type) := by
  cases type with
  | primitive kind => exact drafted.emit (.box kind) rfl rfl
  | void => exact drafted
  | reference target => exact drafted

theorem cast_drafted (target : ClassId) :
    Drafted (constants ++ castConstants target) unmarked depth (cast target assembler) := by
  unfold cast castConstants
  split
  · rwa [List.append_nil]
  · exact (drafted.intern _).emit (.checkCast _) rfl rfl

theorem loadReceiver_drafted (description : TypeDescription) :
    Drafted (constants ++ castConstants description.classId) unmarked (depth + 1)
      (loadReceiver description assembler) :=
  cast_drafted (drafted.emit .loadReceiver rfl rfl) description.classId

theorem coerce_drafted (type : ValueType) :
    Drafted (constants ++ coerceConstants type) unmarked depth (coerce type assembler) := by
  cases type with
  | reference target => exact cast_drafted drafted target
  | void => exact (List.append_nil constants).symm ▸ drafted
  | primitive kind =>
      exact (List.append_nil constants).symm ▸ emitUnbox_drafted drafted (.primitive kind)

theorem loadOwner_drafted (description : TypeDescription) (field : FieldDescription) :
    Drafted (constants ++ receiverConstants description field.modifiers.isStatic) unmarked
      (depth + if field.modifiers.isStatic then 0 else 1)
      (loadOwner description field assembler) := by
  unfold loadOwner receiverConstants
  split
  · rwa [List.append_nil]
  · exact loadReceiver_drafted drafted description

theorem loadTarget_drafted (description : TypeDescription) (method : MethodDescription) :
    Drafted (constants ++ receiverConstants description (method.callKind = .static)) unmarked
      (depth + if method.callKind = .static then 0 else 1)
      (loadTarget description method assembler) := by
  unfold loadTarget receiverConstants
  by_cases isStatic : method.callKind = .static
  · rw [if_pos isStatic, if_pos isStatic, if_pos (decide_eq_true isStatic), List.append_nil]
    exact drafted
  · rw [if_neg isStatic, if_neg isStatic, if_neg (by simpa using isStatic)]
    exact loadReceiver_drafted drafted description

omit drafted in
/-- Arguments whose numbers fit sixteen bits are loaded. -/
theorem loadArguments_drafted {index : Nat} {parameters : List ValueType}
    (drafted : Drafted constants unmarked depth assembler)
    (few : index + parameters.length ≤ UInt16.size) :
    ∃ loaded, loadArguments index parameters assembler = .ok loaded ∧
      Drafted (constants ++ parameters.flatMap coerceConstants) unmarked
        (depth + parameters.length) loaded := by
  induction parameters generalizing index assembler constants depth with
  | nil => exact ⟨assembler, rfl, by rwa [List.flatMap_nil, List.append_nil]⟩
  | cons type rest inductionHypothesis =>
      rw [List.length_cons] at few
      have loads : Drafted constants unmarked (depth + 1)
          (assembler.emit (.loadArgument (UInt16.ofNat index))) :=
        drafted.emit (.loadArgument (UInt16.ofNat index)) rfl rfl
      obtain ⟨loaded, done, draftedToo⟩ :=
        @inductionHypothesis _ _ _ (index + 1) (coerce_drafted loads type) (by omega)
      refine ⟨loaded, ?_, ?_⟩
      · rw [loadArguments, if_pos (by omega), done]
      · rw [List.flatMap_cons, ← List.append_assoc, List.length_cons, Nat.add_comm rest.length,
          ← Nat.add_assoc]
        exact draftedToo

end Drafted

/-- An emission that is always made where a branch starts, and interns some constants. -/
def Drafts (emission : Emission) (made : List Constant) : Prop :=
  ∀ constants unmarked before, Drafted constants unmarked 0 before →
    ∃ after depth, emission before = .ok after ∧ Drafted (constants ++ made) unmarked depth after

theorem constructorBranch_drafts {ordinal : Nat} {constructor : ConstructorDescription}
    (few : constructor.parameters.length < UInt16.size) :
    Drafts (constructorBranch ordinal constructor) (constructorConstants ordinal constructor) := by
  intro constants unmarked before drafted
  obtain ⟨loaded, done, arguments⟩ :=
    @loadArguments_drafted _ _ _ _ 0 constructor.parameters drafted (by omega)
  have interned := arguments.intern (.constructor (UInt32.ofNat ordinal) constructor.parameters)
  have counts := (counts_ofNat (Nat.le_of_lt few)).1
  have called := interned.emitCall (.ofNat constructor.parameters.length)
    (.construct (loaded.intern (.constructor (UInt32.ofNat ordinal) constructor.parameters)).1)
    (by rw [operandsTaken, counts]; exact Nat.le_add_left _ _) nofun rfl
  obtain ⟨behind, returned⟩ := called.emitLast .returnTop (Nat.le_add_left _ _) rfl
  rw [List.append_assoc] at returned
  refine ⟨_, behind, ?_, returned⟩
  rw [constructorBranch, done]
  rfl

/-- A result is replaced by what the branch answers. -/
theorem answer_drafted {returnType : ValueType}
    (drafted : Drafted constants unmarked (depth + 1) assembler) :
    Drafted constants unmarked (depth + 1) (answer returnType assembler) := by
  cases returnType with
  | void =>
      have popped : Drafted constants unmarked depth (assembler.emit .pop) :=
        drafted.emitCall 0 .pop (Nat.le_add_left 1 depth) nofun rfl
      exact popped.emit .constNull rfl rfl
  | primitive kind => exact emitBox_drafted drafted (.primitive kind)
  | reference target => exact drafted

theorem methodBranch_drafts {description : TypeDescription} {ordinal : Nat}
    {method : MethodDescription} (few : method.parameters.length < UInt16.size) :
    Drafts (methodBranch description ordinal method)
      (methodConstants description ordinal method) := by
  intro constants unmarked before drafted
  have target := loadTarget_drafted drafted description method
  obtain ⟨loaded, done, arguments⟩ :=
    @loadArguments_drafted _ _ _ _ 0 method.parameters target (by omega)
  have interned := arguments.intern (methodConstant ordinal method)
  have taken := operandsTaken_invoke (counts_ofNat (Nat.le_of_lt few)) method.callKind
    (loaded.intern (methodConstant ordinal method)).1
  have called : Drafted _ unmarked (0 + 1) _ :=
    interned.emitCall (.ofNat method.parameters.length)
      (.invoke method.callKind (loaded.intern (methodConstant ordinal method)).1)
      (by rw [taken]; omega) nofun (by rw [taken]; exact Nat.add_eq_right.mpr (by omega))
  obtain ⟨behind, returned⟩ :=
    (@answer_drafted _ _ _ _ method.returnType called).emitLast .returnTop (Nat.le_add_left _ _) rfl
  rw [List.append_assoc constants, List.append_assoc constants] at returned
  refine ⟨_, behind, ?_, returned⟩
  show (loadArguments 0 method.parameters (loadTarget description method before) >>= _) = _
  rw [done]
  rfl

theorem readBranch_drafts {description : TypeDescription} {ordinal : Nat}
    {field : FieldDescription} :
    Drafts (readBranch description ordinal field) (readConstants description ordinal field) := by
  intro constants unmarked before drafted
  have interned := drafted.intern (fieldConstant ordinal field)
  have owned := loadOwner_drafted interned description field
  have read : Drafted _ unmarked (0 + 1) _ :=
    owned.emitCall 0
      (.getField field.modifiers.isStatic (before.intern (fieldConstant ordinal field)).1)
      (by rw [operandsTaken_getField]; omega) nofun
      (by rw [operandsTaken_getField]; exact Nat.add_eq_right.mpr (by omega))
  obtain ⟨behind, returned⟩ :=
    (emitBox_drafted read field.valueType).emitLast .returnTop (Nat.le_add_left _ _) rfl
  rw [List.append_assoc] at returned
  exact ⟨_, behind, rfl, returned⟩

theorem writeBranch_drafts {description : TypeDescription} {ordinal : Nat}
    {field : FieldDescription} :
    Drafts (writeBranch description ordinal field) (writeConstants description ordinal field) := by
  intro constants unmarked before drafted
  have interned := drafted.intern (fieldConstant ordinal field)
  have owned := loadOwner_drafted interned description field
  have loaded : Drafted _ unmarked (0 + (if field.modifiers.isStatic then 0 else 1) + 1) _ :=
    coerce_drafted (owned.emit .loadValue rfl rfl) field.valueType
  have written := loaded.emitCall 0
    (.putField field.modifiers.isStatic (before.intern (fieldConstant ordinal field)).1)
    (by rw [operandsTaken_putField]; omega) nofun rfl
  obtain ⟨behind, returned⟩ := written.emitLast .returnNull (Nat.zero_le _) rfl
  rw [List.append_assoc, List.append_assoc] at returned
  exact ⟨_, behind, rfl, returned⟩

end Parts

/-! ## Sections -/

section Sections

variable {Member : Type} {assembler opened : Assembler} {constants : List Constant}
  {unmarked : List Label} {depth : Nat}

theorem nodup_sectionLabels (count : Nat) (opened : Assembler) :
    (branchLabels count opened ++ [fallbackLabel opened]).Nodup := by
  rw [List.nodup_append_comm, List.singleton_append, List.nodup_cons]
  constructor
  · simp only [branchLabels, defineLabels_eq, fallbackLabel, Assembler.defineLabel, List.mem_map,
      Label.mk.injEq]
    rintro ⟨index, -, same⟩
    omega
  · rw [branchLabels, defineLabels_eq]
    refine List.Nodup.map ?_ List.nodup_range
    intro one other same
    exact Nat.add_left_cancel (Label.mk.inj same)

/-- Where no label was left, those of a section are now. -/
theorem labelled_drafted (drafted : Drafted constants [] depth opened) (count : Nat) :
    Drafted constants (branchLabels count opened ++ [fallbackLabel opened]) depth
      (labelled count opened) where
  pool := labelled_eq count opened ▸ drafted.pool
  faults := labelled_eq count opened ▸ drafted.faults
  faultless := labelled_eq count opened ▸ drafted.faultless
  depth := labelled_eq count opened ▸ drafted.depth
  distinct := nodup_sectionLabels count opened
  defined label member := by
    rw [(List.perm_append_singleton _ _).mem_iff, mem_sectionLabels] at member
    rw [labelCount_labelled]
    omega
  places label := by
    rw [(List.perm_append_singleton _ _).mem_iff, mem_sectionLabels, placeOf?_labelled,
      labelCount_labelled, drafted.places, or_iff_right List.not_mem_nil]
    omega
  targets label isTarget := by
    rw [labelled_eq] at isTarget
    have below := drafted.targets label isTarget
    rw [labelCount_labelled]
    omega

/-- The checks of a section bring their constants along behind the message of the selector. -/
theorem opening_drafted (drafted : Drafted constants unmarked depth assembler) (count : Nat)
    (wrongSelectorText : String) (table : Option (List UInt16)) :
    Drafted (constants ++ .message wrongSelectorText :: checksConstants table) unmarked depth
      (opening count wrongSelectorText table assembler) := by
  have worded := drafted.intern (.message wrongSelectorText)
  rw [List.append_cons]
  cases table with
  | none => exact (List.append_nil _).symm ▸ worded.emit (.checkBounds _ _) rfl rfl
  | some table =>
      rw [opening_some]
      have missing := (worded.intern (.message AccessError.argumentsMissing)).emit
        (.checkArguments ((assembler.message wrongSelectorText).2.message
          AccessError.argumentsMissing).1) rfl rfl
      have bounded := missing.emit
        (.checkBounds (UInt32.ofNat count) (assembler.message wrongSelectorText).1) rfl rfl
      have counted := (bounded.intern (.arityTable table)).intern
        (.message AccessError.wrongArgumentCount)
      rw [List.append_assoc, List.append_assoc] at counted
      exact counted.emit (.checkArity _ _) rfl rfl

/-- The branches of a section use up their labels one by one. -/
theorem branches_drafted {branch : Nat → Member → Emission}
    {made : Nat → Member → List Constant} {first : Nat} {labels : List Label}
    {members : List Member} (drafted : Drafted constants (labels ++ unmarked) depth assembler)
    (drafts : ∀ ordinal, ∀ member ∈ members, Drafts (branch ordinal member) (made ordinal member))
    (paired : labels.length = members.length) :
    ∃ after behind, branches branch first (labels.zip members) assembler = .ok after ∧
      Drafted (constants ++ branchesConstants made first members) unmarked behind after := by
  induction members generalizing first labels assembler constants depth with
  | nil =>
      obtain rfl := List.length_eq_zero_iff.mp paired
      exact ⟨assembler, depth, rfl, (List.append_nil constants).symm ▸ drafted⟩
  | cons member rest inductionHypothesis =>
      obtain ⟨label, others, rfl⟩ := List.exists_cons_of_length_eq_add_one paired
      obtain ⟨middle, high, emitted, branched⟩ :=
        drafts first member List.mem_cons_self _ _ _ drafted.mark
      obtain ⟨after, behind, following, finished⟩ :=
        @inductionHypothesis _ _ _ (first + 1) others branched
          (fun ordinal other isLater => drafts ordinal other (List.mem_cons_of_mem member isLater))
          (Nat.succ.inj paired)
      refine ⟨after, behind, ?_, ?_⟩
      · rw [List.zip_cons_cons, branches, emitted]
        exact following
      · rw [List.append_assoc] at finished
        exact finished

theorem labelled_zero (opened : Assembler) : labelled 0 opened = opened.defineLabel.2 := by
  simp [labelled, defineLabels]

/-- Behind the switch and its branches only the fallback is left to be marked. -/
theorem dispatching_drafted {branch : Nat → Member → Emission}
    {made : Nat → Member → List Constant} {members : List Member}
    (drafted : Drafted constants [] depth opened)
    (drafts : ∀ ordinal, ∀ member ∈ members,
      Drafts (branch ordinal member) (made ordinal member)) :
    ∃ dispatched behind, dispatching members branch opened = .ok dispatched ∧
      Drafted (constants ++ branchesConstants made 0 members) [fallbackLabel opened] behind
        dispatched := by
  have labels := labelled_drafted drafted members.length
  unfold dispatching
  split
  · rename_i empty
    obtain rfl := List.isEmpty_iff.mp empty
    rw [List.length_nil, labelled_zero] at labels
    exact ⟨_, depth, rfl, (List.append_nil constants).symm ▸ labels⟩
  · have switched := labels.emitCall 0
      (.tableSwitch (fallbackLabel opened) (branchLabels members.length opened))
      (Nat.zero_le _) (by
        intro label isTarget
        refine labels.defined label ?_
        rw [List.mem_append, List.mem_singleton]
        exact (List.mem_cons.mp isTarget).symm) rfl
    exact branches_drafted switched drafts (length_branchLabels ..)

/-- A section whose branches are all made is made, and leaves no label unmarked. -/
theorem selectorSection_drafted {branch : Nat → Member → Emission}
    {made : Nat → Member → List Constant} {members : List Member}
    (drafted : Drafted constants [] depth assembler)
    (drafts : ∀ ordinal, ∀ member ∈ members, Drafts (branch ordinal member) (made ordinal member))
    (wrongSelectorText : String) (table : Option (List UInt16)) :
    ∃ after behind, selectorSection members wrongSelectorText table branch assembler = .ok after ∧
      Drafted (constants ++ sectionConstants wrongSelectorText table made members) [] behind
        after := by
  have opens := opening_drafted drafted members.length wrongSelectorText table
  obtain ⟨dispatched, behind, dispatches, branched⟩ := dispatching_drafted opens drafts
  have reported := branched.mark.emit
    (.throwIllegal (assembler.message wrongSelectorText).1) rfl rfl
  rw [List.append_assoc] at reported
  rw [selectorSection_eq, dispatches]
  exact ⟨_, _, rfl, reported⟩

end Sections

/-! ## Programs -/

theorem defaultConstruction_drafted (description : TypeDescription) :
    ∃ depth, Drafted (defaultConstants description) [] depth
      (defaultConstruction description {}) := by
  unfold defaultConstruction defaultConstants
  cases description.defaultConstructor? with
  | none => exact ⟨_, Drafted.start.emit .throwNoDefault rfl rfl⟩
  | some ordinal =>
      have called := (Drafted.start.intern (.constructor (UInt32.ofNat ordinal) [])).emit
        (.construct (Assembler.intern {} (.constructor (UInt32.ofNat ordinal) [])).1) rfl rfl
      exact called.emitLast .returnTop (Nat.le_refl 1) rfl

/-- The first of some lists of parameters that is too long to be counted in sixteen bits. -/
def overlong? (parameterLists : List (List ValueType)) : Option (List ValueType) :=
  parameterLists.find? fun parameters => UInt16.size ≤ parameters.length

theorem overlong?_cons (first : List ValueType) (rest : List (List ValueType)) :
    overlong? (first :: rest) =
      if UInt16.size ≤ first.length then some first else overlong? rest := by
  by_cases long : UInt16.size ≤ first.length <;> simp [overlong?, long]

theorem overlong?_append (front back : List (List ValueType)) :
    overlong? (front ++ back) = (overlong? front).or (overlong? back) :=
  List.find?_append

theorem overlong?_eq_none_iff {parameterLists : List (List ValueType)} :
    overlong? parameterLists = none ↔
      ∀ parameters ∈ parameterLists, parameters.length < UInt16.size := by
  simp [overlong?]

theorem long_of_overlong? {parameterLists : List (List ValueType)} {parameters : List ValueType}
    (long : overlong? parameterLists = some parameters) :
    parameters ∈ parameterLists ∧ UInt16.size ≤ parameters.length := by
  rw [overlong?] at long
  exact ⟨List.mem_of_find?_eq_some long, by simpa using List.find?_some long⟩

/-- The table of arities fails at the first list that is too long, and otherwise has them all. -/
theorem arityTable_eq (parameterLists : List (List ValueType)) :
    arityTable parameterLists =
      match overlong? parameterLists with
      | some parameters => .error (.tooManyParameters parameters.length)
      | none => .ok (arities parameterLists) := by
  induction parameterLists with
  | nil => rfl
  | cons first rest inductionHypothesis =>
      rw [arityTable] at inductionHypothesis ⊢
      rw [List.mapM_cons, inductionHypothesis, overlong?_cons]
      by_cases long : UInt16.size ≤ first.length
      · rw [if_neg (Nat.not_lt.mpr long), if_pos long]
        rfl
      · rw [if_pos (Nat.not_le.mp long), if_neg long]
        cases overlong? rest <;> rfl

/-- The lists of parameters of a description: the constructors' come first. -/
def parameterLists (description : TypeDescription) : List (List ValueType) :=
  description.constructors.map (·.parameters) ++ description.methods.map (·.parameters)

/-- Where the parameters of every constructor can be counted, the first section is made. -/
theorem constructors_drafted {description : TypeDescription}
    (short : overlong? (description.constructors.map (·.parameters)) = none) :
    ∃ after depth,
      selectorSection description.constructors AccessError.wrongConstructor
          (some (arities (description.constructors.map (·.parameters)))) constructorBranch
          (defaultConstruction description {}) = .ok after ∧
        Drafted (defaultConstants description ++
          sectionConstants AccessError.wrongConstructor
            (some (arities (description.constructors.map (·.parameters)))) constructorConstants
            description.constructors) [] depth after := by
  obtain ⟨_, start⟩ := defaultConstruction_drafted description
  refine selectorSection_drafted start (fun _ constructor member => ?_) _ _
  exact constructorBranch_drafts (overlong?_eq_none_iff.mp short _ (List.mem_map_of_mem member))

/-- Where every list of parameters can be counted, the whole code is made. -/
theorem program_drafted {description : TypeDescription}
    (short : overlong? (parameterLists description) = none) :
    ∃ final depth, Drafted (constantsOf description) [] depth final ∧
      ∃ entryOffsets, program description = .ok (entryOffsets, final) := by
  rw [parameterLists, overlong?_append, Option.or_eq_none_iff] at short
  obtain ⟨shortConstructors, shortMethods⟩ := short
  obtain ⟨afterConstructors, _, constructors, one⟩ := constructors_drafted shortConstructors
  obtain ⟨afterMethods, _, methods, two⟩ := selectorSection_drafted one
    (fun ordinal method member => @methodBranch_drafts description ordinal method
      (overlong?_eq_none_iff.mp shortMethods _ (List.mem_map_of_mem member)))
    AccessError.wrongMethod (some (arities (description.methods.map (·.parameters))))
  obtain ⟨afterReads, _, reads, three⟩ := selectorSection_drafted two
    (fun ordinal field _ => @readBranch_drafts description ordinal field)
    AccessError.wrongField none
  obtain ⟨final, depth, writes, four⟩ := selectorSection_drafted three
    (fun ordinal field _ => @writeBranch_drafts description ordinal field)
    AccessError.wrongField none
  refine ⟨final, depth, four, ?_⟩
  simp only [program, arityTable_eq, shortConstructors, shortMethods, constructors, methods, reads,
    writes, bind, Except.bind]
  exact ⟨_, rfl⟩

/-- The first list of parameters that is too long is reported: before any constructor is emitted
if it is one's, else once all of them are. -/
theorem program_overlong {description : TypeDescription} {parameters : List ValueType}
    (long : overlong? (parameterLists description) = some parameters) :
    program description = .error (.tooManyParameters parameters.length) := by
  rw [parameterLists, overlong?_append] at long
  cases isConstructor : overlong? (description.constructors.map (·.parameters)) with
  | some first =>
      rw [isConstructor] at long
      obtain rfl := Option.some.inj long
      simp only [program, arityTable_eq, isConstructor, bind, Except.bind]
  | none =>
      rw [isConstructor, Option.none_or] at long
      obtain ⟨_, _, constructors, -⟩ := constructors_drafted isConstructor
      simp only [program, arityTable_eq, isConstructor, constructors, long, bind, Except.bind]

end Dispatcher

namespace Image

open Dispatcher

variable {description : TypeDescription}

theorem ofDescription_overlong {parameters : List ValueType}
    (long : overlong? (parameterLists description) = some parameters) :
    ofDescription description = .error (.tooManyParameters parameters.length) := by
  rw [ofDescription, program_overlong long]
  rfl

/-- Where every list of parameters can be counted, an image is built if its constants fit, and
nothing but the pool is at fault if not. -/
theorem ofDescription_cases (short : overlong? (parameterLists description) = none) :
    (ConstantPool.Fits (constantsOf description) ∧ ∃ image, ofDescription description = .ok image ∧
        image.constants = (ConstantPool.ofList (constantsOf description)).entries) ∨
      ¬ConstantPool.Fits (constantsOf description) ∧ ∃ count, 0 < count ∧
        ofDescription description = .error (.assembly (List.replicate count .poolOverflow)) := by
  obtain ⟨final, depth, drafted, entryOffsets, emitted⟩ := program_drafted short
  rw [ofDescription, emitted]
  rcases drafted.finish with
    ⟨fits, assembled, finished, constants⟩ | ⟨overfull, count, some, failed⟩
  · exact .inl ⟨fits, _, by simp only [finished, bind, Except.bind]; rfl, constants⟩
  · exact .inr ⟨overfull, count, some, by simp only [failed, bind, Except.bind]⟩

end Image

end OrdinalDispatch.Code

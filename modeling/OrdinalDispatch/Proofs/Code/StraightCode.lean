import OrdinalDispatch.Code.Verification
import OrdinalDispatch.Proofs.Code.Depth

/-!
Contract: dispatchers consist of straight stretches that end in a jump, a
return or a failure.

Owns: which operands an instruction may have where it is emitted, straight
stretches, and that every branch is one with a return behind it.

Does not own: how sections put branches together, see
`OrdinalDispatch.Proofs.Code.Checking` and `OrdinalDispatch.Proofs.Code.Flow`.

An index is as good as the pool it names an entry of, and pools only grow, so
what is known of an operand where its constant is interned still holds where the
instruction is emitted.
-/

set_option autoImplicit false

namespace OrdinalDispatch.Code

/-- What stands behind the instruction is what runs next. -/
def Instruction.continues {Target : Type} : Instruction Target → Bool
  | .tableSwitch _ _ | .throwIllegal _ | .throwNoDefault | .returnTop | .returnNull => false
  | _ => true

/-- The instruction looks at the operand on top without taking it. -/
def Instruction.looksAtTop {Target : Type} : Instruction Target → Bool
  | .unbox _ | .box _ | .checkCast _ => true
  | _ => false

/-- The instruction ends the run with an answer. -/
inductive Instruction.IsReturn {Target : Type} : Instruction Target → Prop where
  | top : IsReturn .returnTop
  | null : IsReturn .returnNull

/-- The instruction ends the run with a failure. -/
inductive Instruction.IsThrow {Target : Type} : Instruction Target → Prop where
  | illegal (message : UInt16) : IsThrow (.throwIllegal message)
  | noDefault : IsThrow .throwNoDefault

/-- How many arguments the member takes that a constant refers to. -/
def Constant.arity? : Constant → Option Nat
  | .constructor _ parameters => some parameters.length
  | .method _ _ parameters _ _ => some parameters.length
  | _ => none

namespace Assembler

/-! ## Operands -/

/-- There are as many arguments as parameters, few enough for a receiver to be counted with them. -/
def Counts (argumentCount : UInt64) (arity : Nat) : Prop :=
  argumentCount.toNat = arity ∧ arity + 1 < UInt64.size

theorem counts_ofNat {arity : Nat} (few : arity ≤ UInt16.size) : Counts (.ofNat arity) arity := by
  have small : arity + 1 < UInt64.size := by
    simp only [UInt16.size, UInt64.size] at few ⊢
    omega
  exact ⟨UInt64.toNat_ofNat_of_lt' (Nat.lt_of_succ_lt small), small⟩

/-- While nothing was at fault, an operand names a constant of its kind; if that refers to a member
with parameters, there are as many of them as arguments. -/
def Names (assembler : Assembler) (argumentCount : UInt64) (operand : UInt16 × ConstantKind) : Prop :=
  assembler.faults = #[] → ∃ constant,
    assembler.pool.entries[operand.1.toNat]? = some constant ∧ operand.2.admits constant = true ∧
      ∀ arity, constant.arity? = some arity → Counts argumentCount arity

/-- All pool operands of an instruction name what they should. -/
def Fits (assembler : Assembler) (argumentCount : UInt64) (instruction : Instruction Label) : Prop :=
  ∀ operand ∈ instruction.poolOperands, assembler.Names argumentCount operand

theorem names_intern {assembler : Assembler} (sound : assembler.Sound) {constant : Constant}
    {kind : ConstantKind} {argumentCount : UInt64} (admits : kind.admits constant = true)
    (counted : ∀ arity, constant.arity? = some arity → Counts argumentCount arity) :
    (assembler.intern constant).2.Names argumentCount ((assembler.intern constant).1, kind) := by
  intro faultless
  have answered := (intern_of_faults assembler faultless).2
  rw [pool_intern]
  exact ⟨constant, ConstantPool.entry_of_intern sound.pool answered, admits, counted⟩

theorem Names.later {before after : Assembler} {argumentCount : UInt64}
    {operand : UInt16 × ConstantKind} (names : before.Names argumentCount operand)
    (keeps : before.Extends after) : after.Names argumentCount operand := by
  intro faultless
  obtain ⟨constant, entry, isKind⟩ := names (keeps.faults faultless)
  obtain ⟨rest, entries⟩ := keeps.entries
  rw [← Array.getElem?_toList] at entry
  have below := (List.getElem?_eq_some_iff.mp entry).1
  refine ⟨constant, ?_, isKind⟩
  rw [← Array.getElem?_toList, ← entries, List.getElem?_append_left below, entry]

theorem fits_of_no_operands (assembler : Assembler) (argumentCount : UInt64)
    {instruction : Instruction Label} (plain : instruction.poolOperands = []) :
    assembler.Fits argumentCount instruction := by
  intro operand member
  rw [plain] at member
  cases member

theorem fits_of_operand {assembler : Assembler} {argumentCount : UInt64}
    {instruction : Instruction Label} {operand : UInt16 × ConstantKind}
    (only : instruction.poolOperands = [operand])
    (names : assembler.Names argumentCount operand) :
    assembler.Fits argumentCount instruction := by
  intro other member
  rw [only] at member
  obtain rfl := List.mem_singleton.mp member
  exact names

/-! ## Straight stretches -/

/-- A move that the machine goes straight through: an instruction that goes on, or no instruction
at all. A label may be marked on the way where the stack is empty, as it is behind every jump. -/
inductive StraightMove : Assembler → Assembler → Prop where
  | emitCall (assembler : Assembler) (argumentCount : UInt64) (instruction : Instruction Label)
      (fits : assembler.Fits argumentCount instruction)
      (continues : instruction.continues = true)
      (occupied : instruction.looksAtTop = true → 0 < assembler.depth) :
      StraightMove assembler (assembler.emitCall argumentCount instruction)
  | intern (assembler : Assembler) (constant : Constant) :
      StraightMove assembler (assembler.intern constant).2
  | defineLabel (assembler : Assembler) : StraightMove assembler assembler.defineLabel.2
  | mark (assembler : Assembler) (label : Label) (defined : label.number < assembler.labelCount)
      (empty : assembler.depth = 0) : StraightMove assembler (assembler.mark label)

/-- Any number of straight moves. -/
def Straight : Assembler → Assembler → Prop := Relation.ReflTransGen StraightMove

theorem StraightMove.move {before after : Assembler} (straight : StraightMove before after) :
    Move before after := by
  cases straight with
  | emitCall argumentCount instruction => exact .emitCall before argumentCount instruction
  | intern constant => exact .intern before constant
  | defineLabel => exact .defineLabel before
  | mark label => exact .mark before label

namespace Straight

variable {before middle after : Assembler}

theorem refl (assembler : Assembler) : Straight assembler assembler :=
  Relation.ReflTransGen.refl

theorem single (move : StraightMove before after) : Straight before after :=
  Relation.ReflTransGen.single move

theorem trans (front : Straight before middle) (back : Straight middle after) :
    Straight before after :=
  Relation.ReflTransGen.trans front back

theorem assembles (straight : Straight before after) : Assembles before after := by
  induction straight with
  | refl => exact .refl before
  | tail _ move inductionHypothesis => exact inductionHypothesis.trans (.single move.move)

theorem sound (straight : Straight before after) (sound : before.Sound) : after.Sound :=
  straight.assembles.sound sound

end Straight

end Assembler

/-! ## Parts of branches -/

namespace Dispatcher

open Assembler

/-- An instruction without pool operands that goes on. -/
theorem emit_straight (assembler : Assembler) {instruction : Instruction Label}
    (plain : instruction.poolOperands = []) (continues : instruction.continues = true)
    (occupied : instruction.looksAtTop = true → 0 < assembler.depth) :
    Straight assembler (assembler.emit instruction) :=
  .single (.emitCall assembler 0 instruction (fits_of_no_operands assembler 0 plain) continues
    occupied)

/-- An instruction with an operand whose constant is interned right before it. -/
theorem intern_emit_straight {assembler : Assembler} (sound : assembler.Sound)
    {constant : Constant} {kind : ConstantKind} {argumentCount : UInt64}
    {instruction : Instruction Label} (admits : kind.admits constant = true)
    (counted : ∀ arity, constant.arity? = some arity → Counts argumentCount arity)
    (only : instruction.poolOperands = [((assembler.intern constant).1, kind)])
    (continues : instruction.continues = true)
    (occupied : instruction.looksAtTop = true → 0 < assembler.depth) :
    Straight assembler ((assembler.intern constant).2.emitCall argumentCount instruction) :=
  (Straight.single (.intern assembler constant)).trans
    (.single (.emitCall _ argumentCount instruction
      (fits_of_operand only (names_intern sound admits counted)) continues
      (by rwa [depth_intern])))

section Conversions

variable {assembler : Assembler} (occupied : 0 < assembler.depth)
include occupied

theorem emitUnbox_straight (type : ValueType) :
    Straight assembler (assembler.emitUnbox type) := by
  cases type with
  | primitive kind => exact emit_straight assembler rfl rfl fun _ => occupied
  | void => exact .refl assembler
  | reference target => exact .refl assembler

theorem emitBox_straight (type : ValueType) : Straight assembler (assembler.emitBox type) := by
  cases type with
  | primitive kind => exact emit_straight assembler rfl rfl fun _ => occupied
  | void => exact .refl assembler
  | reference target => exact .refl assembler

theorem answer_straight (returnType : ValueType) :
    Straight assembler (answer returnType assembler) := by
  cases returnType with
  | void =>
      have pops : Straight assembler (assembler.emit .pop) := emit_straight assembler rfl rfl nofun
      exact pops.trans (emit_straight _ rfl rfl nofun)
  | primitive kind => exact emitBox_straight occupied (.primitive kind)
  | reference target => exact .refl assembler

theorem cast_straight (sound : assembler.Sound) (target : ClassId) :
    Straight assembler (cast target assembler) := by
  unfold cast
  split
  · exact .refl assembler
  · exact intern_emit_straight sound rfl nofun rfl rfl fun _ => occupied

theorem coerce_straight (sound : assembler.Sound) (type : ValueType) :
    Straight assembler (coerce type assembler) := by
  cases type with
  | reference target => exact cast_straight occupied sound target
  | void => exact .refl assembler
  | primitive kind => exact emitUnbox_straight occupied (.primitive kind)

end Conversions

/-- Behind an instruction that gives an operand there is one. -/
theorem depth_emit_pos (assembler : Assembler) {instruction : Instruction Label}
    (gives : operandsGiven instruction = 1) : 0 < (assembler.emit instruction).depth := by
  rw [depth_emit, gives]
  omega

section Parts

variable {assembler : Assembler} (sound : assembler.Sound)
include sound

theorem loadReceiver_straight (description : TypeDescription) :
    Straight assembler (loadReceiver description assembler) := by
  have loads : Straight assembler (assembler.emit .loadReceiver) :=
    emit_straight assembler rfl rfl nofun
  exact loads.trans
    (cast_straight (depth_emit_pos assembler rfl) (loads.sound sound) description.classId)

theorem loadOwner_straight (description : TypeDescription) (field : FieldDescription) :
    Straight assembler (loadOwner description field assembler) := by
  unfold loadOwner
  split
  · exact .refl assembler
  · exact loadReceiver_straight sound description

theorem loadTarget_straight (description : TypeDescription) (method : MethodDescription) :
    Straight assembler (loadTarget description method assembler) := by
  unfold loadTarget
  split
  · exact .refl assembler
  · exact loadReceiver_straight sound description

theorem loadArguments_straight {index : Nat} {parameters : List ValueType} {loaded : Assembler}
    (done : loadArguments index parameters assembler = .ok loaded) : Straight assembler loaded := by
  induction parameters generalizing index assembler with
  | nil =>
      obtain rfl := Except.ok.inj done
      exact .refl assembler
  | cons type rest inductionHypothesis =>
      rw [loadArguments] at done
      split at done
      · have loads : Straight assembler (assembler.emit (.loadArgument (UInt16.ofNat index))) :=
          emit_straight assembler rfl rfl (absurd · Bool.false_ne_true)
        have converts := loads.trans
          (coerce_straight (depth_emit_pos assembler rfl) (loads.sound sound) type)
        exact converts.trans (inductionHypothesis (converts.sound sound) done)
      · cases done

theorem argumentsCheck_straight : Straight assembler (argumentsCheck assembler) :=
  intern_emit_straight sound rfl nofun rfl rfl nofun

theorem arityCheck_straight (table : List UInt16) :
    Straight assembler (arityCheck table assembler) := by
  have tables : Straight assembler (assembler.intern (.arityTable table)).2 :=
    .single (.intern assembler _)
  have words : Straight (assembler.intern (.arityTable table)).2
      ((assembler.intern (.arityTable table)).2.message AccessError.wrongArgumentCount).2 :=
    .single (.intern _ _)
  have tabled := tables.sound sound
  have isTable : (assembler.intern (.arityTable table)).2.Names 0
      ((assembler.intern (.arityTable table)).1, .arityTable) := names_intern sound rfl nofun
  have isMessage :
      ((assembler.intern (.arityTable table)).2.message AccessError.wrongArgumentCount).2.Names 0
        (((assembler.intern (.arityTable table)).2.message AccessError.wrongArgumentCount).1,
          .message) := names_intern tabled rfl nofun
  refine (tables.trans words).trans (.single (.emitCall _ 0 _ ?_ rfl nofun))
  intro operand member
  simp only [Instruction.poolOperands, List.mem_cons, List.not_mem_nil, or_false] at member
  obtain rfl | rfl := member
  · exact isTable.later (words.assembles.extends_of_sound tabled)
  · exact isMessage

theorem opening_straight (count : Nat) (wrongSelectorText : String)
    (arities : Option (List UInt16)) :
    Straight assembler (opening count wrongSelectorText arities assembler) := by
  have words : Straight assembler (assembler.message wrongSelectorText).2 :=
    .single (.intern assembler _)
  have worded := words.sound sound
  have names : (assembler.message wrongSelectorText).2.Names 0
      ((assembler.message wrongSelectorText).1, .message) := names_intern sound rfl nofun
  cases arities with
  | none => exact words.trans (.single (.emitCall _ 0 _ (fits_of_operand rfl names) rfl nofun))
  | some table =>
      have checks := argumentsCheck_straight worded
      have bounds : Straight (argumentsCheck (assembler.message wrongSelectorText).2)
          ((argumentsCheck (assembler.message wrongSelectorText).2).emit
            (.checkBounds (UInt32.ofNat count) (assembler.message wrongSelectorText).1)) :=
        .single (.emitCall _ 0 _
          (fits_of_operand rfl (names.later (checks.assembles.extends_of_sound worded))) rfl nofun)
      rw [opening_some]
      exact words.trans (checks.trans (bounds.trans
        (arityCheck_straight (bounds.sound (checks.sound worded)) table)))

end Parts

theorem labelled_straight (count : Nat) (opened : Assembler) :
    Straight opened (labelled count opened) := by
  have labels (count : Nat) (assembler : Assembler) :
      Straight assembler (defineLabels count assembler).2 := by
    induction count generalizing assembler with
    | zero => exact .refl assembler
    | succ count inductionHypothesis =>
        exact (Straight.single (.defineLabel assembler)).trans (inductionHypothesis _)
  exact (Straight.single (.defineLabel opened)).trans (labels count _)

/-! ## Branches -/

/-- A branch goes straight to a return, which takes all that is on the stack. On the way there are
as many operands as the member needs. -/
def Returns {Member : Type} (need : Member → Nat) (branch : Nat → Member → Emission) : Prop :=
  ∀ ordinal member before after, branch ordinal member before = .ok after → before.Sound →
    before.depth = 0 →
      ∃ last answer, Straight before last ∧ after = last.emit answer ∧ answer.IsReturn ∧
        last.depth = operandsTaken 0 answer ∧
        after.maxDepth = max before.maxDepth (need member)

theorem covered_of_empty {assembler : Assembler} (empty : assembler.depth = 0) :
    assembler.Covered := by
  unfold Covered
  omega

theorem counts_of_loadArguments {parameters : List ValueType} {before loaded : Assembler}
    (done : loadArguments 0 parameters before = .ok loaded) :
    Counts (.ofNat parameters.length) parameters.length := by
  have few := length_le_of_loadArguments done (Nat.zero_le _)
  rw [Nat.zero_add] at few
  exact counts_ofNat few

theorem constructorBranch_returns :
    Returns ConstructorDescription.operands constructorBranch := by
  intro ordinal constructor before after done sound empty
  obtain ⟨loaded, arguments, rfl⟩ := constructorBranch_ok done
  have loads := loadArguments_straight sound arguments
  have climbs := loadArguments_climbs (covered_of_empty empty) arguments
  have counts := counts_of_loadArguments arguments
  refine ⟨_, .returnTop, loads.trans ?_, rfl, .top, ?_, ?_⟩
  · refine intern_emit_straight (loads.sound sound) rfl (fun arity isArity => ?_) rfl rfl nofun
    exact Option.some.inj isArity ▸ counts
  · simp only [depth_emitCall, depth_intern, climbs.depth, empty, operandsTaken, counts.1,
      operandsGiven.eq_def]
    omega
  · simp only [maxDepth_emit, maxDepth_emitCall, maxDepth_intern, depth_emitCall, depth_intern,
      climbs.depth, climbs.maxDepth, empty, operandsTaken, counts.1, operandsGiven.eq_def,
      ConstructorDescription.operands]
    omega

/-- All calls but the static ones take a receiver. -/
theorem operandsTaken_invoke {argumentCount : UInt64} {arity : Nat}
    (counts : Counts argumentCount arity) (kind : CallKind) (method : UInt16) :
    operandsTaken argumentCount (.invoke kind method) =
      arity + if kind = .static then 0 else 1 := by
  obtain ⟨rfl, room⟩ := counts
  have receiver : (argumentCount + 1).toNat = argumentCount.toNat + 1 := by
    rw [UInt64.toNat_add]
    exact Nat.mod_eq_of_lt room
  cases kind with
  | static => rfl
  | _ => exact receiver

theorem methodBranch_returns (description : TypeDescription) :
    Returns MethodDescription.operands (methodBranch description) := by
  intro ordinal method before after done sound empty
  obtain ⟨loaded, arguments, rfl⟩ := methodBranch_ok done
  have targets := loadTarget_straight sound description method
  have loads := targets.trans (loadArguments_straight (targets.sound sound) arguments)
  have owned := loadTarget_climbs (covered_of_empty empty) description method
  have climbs := owned.trans (loadArguments_climbs (owned.covered (Nat.le_refl _)) arguments)
  have counts := counts_of_loadArguments arguments
  have calls : Straight loaded
      ((loaded.intern (methodConstant ordinal method)).2.emitCall (.ofNat method.parameters.length)
        (.invoke method.callKind (loaded.intern (methodConstant ordinal method)).1)) := by
    refine intern_emit_straight (loads.sound sound) ?_ ?_ rfl rfl nofun
    · exact beq_self_eq_true method.callKind
    · exact fun arity isArity => Option.some.inj isArity ▸ counts
  generalize called : (loaded.intern (methodConstant ordinal method)).2.emitCall
    (.ofNat method.parameters.length)
    (.invoke method.callKind (loaded.intern (methodConstant ordinal method)).1) = result at calls
  have single : result.depth = 1 := by
    rw [← called, depth_emitCall, depth_intern, climbs.depth, empty, operandsTaken_invoke counts]
    simp only [operandsGiven.eq_def]
    omega
  have highest : result.maxDepth = max before.maxDepth method.operands := by
    rw [← called, maxDepth_emitCall, maxDepth_intern, depth_intern, climbs.depth, climbs.maxDepth,
      empty, operandsTaken_invoke counts]
    simp only [operandsGiven.eq_def, MethodDescription.operands]
    omega
  have covered : result.Covered := by
    unfold Covered
    rw [single, highest, MethodDescription.operands]
    omega
  have occupied : 0 < result.depth := single ▸ Nat.one_pos
  obtain ⟨stays, keeps⟩ := answer_levels covered single
  refine ⟨_, .returnTop, loads.trans (calls.trans (answer_straight occupied method.returnType)),
    rfl, .top, stays, ?_⟩
  rw [maxDepth_emit, stays, keeps, highest]
  simp only [operandsTaken, operandsGiven.eq_def]
  omega

/-- Only the receiver of an instance field is taken to read it. -/
theorem operandsTaken_getField (argumentCount : UInt64) (isStatic : Bool) (field : UInt16) :
    operandsTaken argumentCount (.getField isStatic field) = if isStatic then 0 else 1 := rfl

/-- The new content is taken, too, to write it. -/
theorem operandsTaken_putField (argumentCount : UInt64) (isStatic : Bool) (field : UInt16) :
    operandsTaken argumentCount (.putField isStatic field) = 1 + if isStatic then 0 else 1 := by
  cases isStatic <;> rfl

/-- The index of a field names it until the field is reached. -/
theorem names_field {ordinal : Nat} {field : FieldDescription} {before after : Assembler}
    (sound : before.Sound)
    (straight : Straight (before.intern (fieldConstant ordinal field)).2 after) :
    after.Names 0 ((before.intern (fieldConstant ordinal field)).1,
      .field field.modifiers.isStatic) := by
  have interned := (Move.intern before (fieldConstant ordinal field)).sound sound
  have names : (before.intern (fieldConstant ordinal field)).2.Names 0
      ((before.intern (fieldConstant ordinal field)).1, .field field.modifiers.isStatic) :=
    names_intern sound (beq_self_eq_true field.modifiers.isStatic) nofun
  exact names.later (straight.assembles.extends_of_sound interned)

theorem readBranch_returns (description : TypeDescription) :
    Returns (fun _ => 1) (readBranch description) := by
  intro ordinal field before after done sound empty
  obtain rfl := readBranch_ok done
  have interns : Straight before (before.intern (fieldConstant ordinal field)).2 :=
    .single (.intern before _)
  have owners := loadOwner_straight (interns.sound sound) description field
  have names := names_field sound owners
  have loads := Climbs.intern (covered_of_empty empty) (fieldConstant ordinal field)
  have climbs := loads.trans (loadOwner_climbs (loads.covered (Nat.le_refl _)) description field)
  have reads := Straight.single (.emitCall _ 0
    (.getField field.modifiers.isStatic (before.intern (fieldConstant ordinal field)).1)
    (fits_of_operand rfl names) rfl nofun)
  generalize read : Assembler.emitCall _ 0 (.getField field.modifiers.isStatic
    (before.intern (fieldConstant ordinal field)).1) = result at reads
  have single : result.depth = 1 := by
    rw [← read, depth_emitCall, climbs.depth, empty, operandsTaken_getField]
    simp only [operandsGiven.eq_def]
    omega
  have highest : result.maxDepth = max before.maxDepth 1 := by
    rw [← read, maxDepth_emitCall, climbs.depth, climbs.maxDepth, empty, operandsTaken_getField]
    simp only [operandsGiven.eq_def]
    split <;> omega
  have covered : result.Covered := by
    unfold Covered
    rw [single, highest]
    omega
  have occupied : 0 < result.depth := single ▸ Nat.one_pos
  have boxes := emitBox_climbs covered field.valueType
  rw [show Assembler.emit _ (.getField field.modifiers.isStatic
    (before.intern (fieldConstant ordinal field)).1) = result from read]
  refine ⟨_, .returnTop, interns.trans (owners.trans (reads.trans
    (emitBox_straight occupied field.valueType))), rfl, .top, ?_, ?_⟩
  · rw [boxes.depth, single]
    rfl
  · rw [maxDepth_emit, boxes.depth, boxes.maxDepth, single, highest]
    simp only [operandsTaken, operandsGiven.eq_def]
    omega

theorem writeBranch_returns (description : TypeDescription) :
    Returns FieldDescription.operands (writeBranch description) := by
  intro ordinal field before after done sound empty
  obtain rfl := writeBranch_ok done
  have interns : Straight before (before.intern (fieldConstant ordinal field)).2 :=
    .single (.intern before _)
  have owners := loadOwner_straight (interns.sound sound) description field
  have owned := owners.sound (interns.sound sound)
  generalize owner : loadOwner description field (before.intern (fieldConstant ordinal field)).2 =
    loaded at owners owned
  have values : Straight loaded (loaded.emit .loadValue) := emit_straight loaded rfl rfl nofun
  have coerces := coerce_straight (depth_emit_pos loaded rfl) (values.sound owned) field.valueType
  have names := names_field sound (owners.trans (values.trans coerces))
  have writes := Straight.single (.emitCall _ 0
    (.putField field.modifiers.isStatic (before.intern (fieldConstant ordinal field)).1)
    (fits_of_operand rfl names) rfl nofun)
  have starts := Climbs.intern (covered_of_empty empty) (fieldConstant ordinal field)
  have owning := starts.trans (loadOwner_climbs (starts.covered (Nat.le_refl _)) description field)
  rw [owner] at owning
  have loading := owning.trans (Climbs.emit loaded rfl : Climbs _ (loaded.emit .loadValue) _ _)
  have climbs := loading.trans
    (coerce_climbs (loading.covered (Nat.le_max_right _ _)) field.valueType)
  refine ⟨_, .returnNull, interns.trans (owners.trans (values.trans (coerces.trans writes))), rfl,
    .null, ?_, ?_⟩
  · rw [depth_emitCall, climbs.depth, empty, operandsTaken_putField]
    simp only [operandsGiven.eq_def, operandsTaken]
    split <;> omega
  · rw [maxDepth_emit, depth_emit, maxDepth_emit, climbs.depth, climbs.maxDepth, empty,
      operandsTaken_putField]
    simp only [operandsGiven.eq_def, operandsTaken, FieldDescription.operands]
    split <;> omega

/-! ## The entry without a selector -/

/-- The first entry point goes straight to its return, or fails at once. -/
theorem defaultConstruction_cases (description : TypeDescription) :
    (∃ ordinal last, description.defaultConstructor? = some ordinal ∧ Straight {} last ∧
      last.depth = 1 ∧ last.maxDepth = 1 ∧
      defaultConstruction description {} = last.emit .returnTop) ∨
    (description.defaultConstructor? = none ∧
      defaultConstruction description {} = Assembler.emit {} .throwNoDefault) := by
  cases found : description.defaultConstructor? with
  | none => exact .inr ⟨rfl, by rw [defaultConstruction, found]⟩
  | some ordinal =>
      left
      have constructs : Straight {}
          ((Assembler.intern {} (.constructor (UInt32.ofNat ordinal) [])).2.emitCall 0
            (.construct (Assembler.intern {} (.constructor (UInt32.ofNat ordinal) [])).1)) :=
        intern_emit_straight sound_empty rfl
          (fun _ isArity => Option.some.inj isArity ▸ counts_ofNat (Nat.zero_le _)) rfl rfl nofun
      refine ⟨ordinal, _, rfl, constructs, ?_, ?_, by rw [defaultConstruction, found]⟩
      · simp [operandsTaken, operandsGiven.eq_def]
      · simp [operandsTaken, operandsGiven.eq_def]

end Dispatcher

end OrdinalDispatch.Code

import OrdinalDispatch.Proofs.Machine.Dispatching
import OrdinalDispatch.Proofs.Machine.Handles

/-!
Contract: reading and writing a field through a dispatcher is reading and
writing it directly.

Owns: the two branches of a field, and the two operations.

Does not own: constructors and methods.
-/

set_option autoImplicit false

namespace OrdinalDispatch.Machine.LinkedImage

open OrdinalDispatch.Code

variable {World : Type}

/-! ## Owners -/

section Owners

variable {field : FieldDescription} {owner : Value} {Result : Type}

/-- What is done with the outcome of an access is not done where null is refused. -/
theorem withOwner_bind {Next : Type} (access : Call World Result)
    (use : Result → Call World Next) :
    Direct.withOwner field owner access >>= use =
      Direct.withOwner field owner (access >>= use) := by
  by_cases refused : field.modifiers.isStatic = false ∧ owner = .null
  · simp only [Direct.withOwner, if_pos refused, ExceptT.bind_throw]
  · simp only [Direct.withOwner, if_neg refused]

theorem withOwner_static (isStatic : field.modifiers.isStatic = true)
    (access : Call World Result) : Direct.withOwner field owner access = access := by
  rw [Direct.withOwner, if_neg fun both => Bool.noConfusion (isStatic.symm.trans both.1)]

/-- The machine refuses null when it takes the owner from the stack. -/
theorem withOwner_instance (isInstance : field.modifiers.isStatic = false)
    (access : Value → Call World Result) :
    Direct.withOwner field owner (access owner) = nonNull owner >>= access := by
  rw [nonNull_bind, Direct.withOwner]
  simp only [isInstance, true_and]

end Owners

/-! ## The branches of a field -/

section Branches

variable {linked : LinkedImage World} {frame : Frame} {final assembler finish : Assembler}
  {description : TypeDescription} {given : GivenMembers World} {ordinal : Nat}
  {field : FieldDescription} (makes : final.Makes linked.image) (sound : assembler.Sound)
include makes sound

/-- The owner of a static field is null and takes no place on the stack. -/
theorem answers_loadOwner {onward : Value → Call World Value}
    (moves : Assembler.Assembles (Dispatcher.loadOwner description field assembler) final)
    (rest : ∀ owner, (field.modifiers.isStatic = true → owner = .null) →
      linked.Answers frame (Dispatcher.loadOwner description field assembler).offset
        (if field.modifiers.isStatic then [] else [owner]) (onward owner)) :
    linked.Answers frame assembler.offset []
      (Direct.fieldOwner linked.model description field frame.receiver >>= onward) := by
  unfold Direct.fieldOwner
  unfold Dispatcher.loadOwner at moves rest
  cases isStatic : field.modifiers.isStatic with
  | true =>
      simp only [isStatic, if_true] at moves rest ⊢
      rw [pure_bind]
      exact rest .null fun _ => rfl
  | false =>
      simp only [isStatic, Bool.false_eq_true, if_false] at moves rest ⊢
      exact answers_loadReceiver makes sound moves fun owner => rest owner nofun

/-- The access that reads a field, and the check of what it read. -/
theorem answers_getField {index : UInt16} {owner : Value}
    (entry : linked.linkage.member? index = some (.field (given.field ordinal)))
    (moves : Assembler.Assembles
      (((assembler.emit (.getField field.modifiers.isStatic index)).emitBox field.valueType).emit
        .returnTop) final)
    (unowned : field.modifiers.isStatic = true → owner = .null) :
    linked.Answers frame assembler.offset (if field.modifiers.isStatic then [] else [owner])
      (Direct.withOwner field owner do
        let result ← Direct.reach ((given.field ordinal).read owner)
        result.boxedAs field.valueType) := by
  have reads := Dispatcher.emit_assembles assembler (.getField field.modifiers.isStatic index)
  have answers := (Dispatcher.emitBox_assembles _ field.valueType).trans
    ((Dispatcher.emit_assembles ..).trans moves)
  rw [← withOwner_bind]
  refine Answers.of_emitCall makes sound answers (fun result => [result]) ?_ fun result =>
    answers_boxed makes (reads.sound sound) moves
  cases isStatic : field.modifiers.isStatic with
  | true =>
      rw [withOwner_static isStatic, unowned isStatic, ← ofMember_eq]
      exact execute_getField_static entry
  | false =>
      rw [withOwner_instance isStatic fun owner => Direct.reach ((given.field ordinal).read owner)]
      simp only [← ofMember_eq]
      exact execute_getField entry

/-- The access that writes a field. -/
theorem answers_putField {index : UInt16} {owner value : Value}
    (entry : linked.linkage.member? index = some (.field (given.field ordinal)))
    (moves : Assembler.Assembles
      ((assembler.emit (.putField field.modifiers.isStatic index)).emit .returnNull) final)
    (unowned : field.modifiers.isStatic = true → owner = .null) :
    linked.Answers frame assembler.offset
      (value :: if field.modifiers.isStatic then [] else [owner])
      (Direct.withOwner field owner (Direct.reach ((given.field ordinal).write owner value)) >>=
        fun _ => pure .null) := by
  have writes := Dispatcher.emit_assembles assembler (.putField field.modifiers.isStatic index)
  refine Answers.of_emitCall makes sound ((Dispatcher.emit_assembles ..).trans moves)
    (fun _ => []) ?_ fun _ => ?_
  · cases isStatic : field.modifiers.isStatic with
    | true =>
        rw [withOwner_static isStatic, unowned isStatic, ← ofMember_eq]
        exact execute_putField_static entry
    | false =>
        rw [withOwner_instance isStatic fun owner =>
          Direct.reach ((given.field ordinal).write owner value)]
        simp only [← ofMember_eq]
        exact execute_putField entry
  · refine Answers.of_emit_last makes (writes.sound sound) moves ?_
    rw [pure_bind]
    exact execute_returnNull

variable (held : ∀ index,
  linked.image.constant? index = some (Dispatcher.fieldConstant ordinal field) →
    linked.linkage.member? index = some (.field (given.field ordinal)))
include held

/-- The branch that reads a field does what the direct access does. -/
theorem answers_readBranch
    (done : Dispatcher.readBranch description ordinal field assembler = .ok finish)
    (moves : Assembler.Assembles finish final) :
    linked.Answers frame assembler.offset []
      (Direct.readField linked.model description given frame.receiver ordinal field) := by
  obtain rfl := Dispatcher.readBranch_ok done
  have interns := Assembler.Move.intern assembler (Dispatcher.fieldConstant ordinal field)
  have owns := Dispatcher.loadOwner_assembles
    (assembler.intern (Dispatcher.fieldConstant ordinal field)).2 description field
  have reads := (Dispatcher.emit_assembles ..).trans ((Dispatcher.emitBox_assembles ..).trans
    ((Dispatcher.emit_assembles ..).trans moves))
  have entry := held _ (makes.constant?_intern (owns.trans reads) sound)
  have interned := interns.sound sound
  rw [← Assembler.offset_intern assembler (Dispatcher.fieldConstant ordinal field)]
  refine answers_loadOwner makes interned reads fun owner unowned => ?_
  exact answers_getField makes (owns.sound interned) entry moves unowned

/-- The branch that writes a field does what the direct access does, and answers null. -/
theorem answers_writeBranch {value : Value} (present : frame.value = some value)
    (done : Dispatcher.writeBranch description ordinal field assembler = .ok finish)
    (moves : Assembler.Assembles finish final) :
    linked.Answers frame assembler.offset []
      (Direct.writeField linked.model description given frame.receiver value ordinal field >>=
        fun _ => pure .null) := by
  obtain rfl := Dispatcher.writeBranch_ok done
  have interns := Assembler.Move.intern assembler (Dispatcher.fieldConstant ordinal field)
  have owns := Dispatcher.loadOwner_assembles
    (assembler.intern (Dispatcher.fieldConstant ordinal field)).2 description field
  have loads := Dispatcher.emit_assembles
    (Dispatcher.loadOwner description field
      (assembler.intern (Dispatcher.fieldConstant ordinal field)).2) .loadValue
  have converts := Dispatcher.coerce_assembles
    ((Dispatcher.loadOwner description field
      (assembler.intern (Dispatcher.fieldConstant ordinal field)).2).emit .loadValue)
    field.valueType
  have writes := (Dispatcher.emit_assembles ..).trans ((Dispatcher.emit_assembles ..).trans moves)
  have onward := loads.trans (converts.trans writes)
  have entry := held _ (makes.constant?_intern (owns.trans onward) sound)
  have interned := interns.sound sound
  have owned := owns.sound interned
  have isValue : frame.value.getD .null = value := by
    rw [present, Option.getD_some]
  unfold Direct.writeField
  simp only [bind_assoc]
  rw [← Assembler.offset_intern assembler (Dispatcher.fieldConstant ordinal field)]
  refine answers_loadOwner makes interned onward fun owner unowned => ?_
  refine Answers.of_emit makes owned (converts.trans writes) execute_loadValue ?_
  rw [isValue]
  refine answers_coerce makes (loads.sound owned) writes fun converted => ?_
  exact answers_putField makes (converts.sound (loads.sound owned)) entry moves unowned

end Branches

/-! ## The operations -/

section Operations

variable {description : TypeDescription} {image : Image} {model : TypeModel World}
  {start finish : World} {linkage : Linkage World} {given : GivenMembers World}

theorem getField_eq (built : Dispatcher.Built description image)
    (linked : (Linkage.ofImage model image).run start = (.ok linkage, finish))
    (answered : given.AnsweredBy description model image start) (receiver : Value)
    (selector : Int32) :
    (LinkedImage.mk image linkage model).getField receiver selector =
      some <$> Direct.getField model description given receiver selector := by
  unfold getField
  refine Answers.enter ?_
  rw [built.entry_getField]
  refine answers_select built.makes built.stretches.sound_afterMethods
    (Dispatcher.readBranch_assembling description) built.stretches.reads
    built.stretches.writes_assembles ?_
  intro ordinal field start finish found isBranch sound moves
  exact answers_readBranch built.makes sound
    (fun index named => answered.member?_field built linked found named) isBranch moves

theorem setField_eq (built : Dispatcher.Built description image)
    (linked : (Linkage.ofImage model image).run start = (.ok linkage, finish))
    (answered : given.AnsweredBy description model image start) (receiver : Value)
    (selector : Int32) (value : Value) :
    (LinkedImage.mk image linkage model).setField receiver selector value =
      some <$> Direct.setField model description given receiver selector value := by
  have entered : (LinkedImage.mk image linkage model).enter .setField
      { receiver, selector, value := some value } =
        some <$> (Direct.setField model description given receiver selector value >>=
          fun _ => pure .null) := by
    refine Answers.enter ?_
    rw [built.entry_setField, Direct.setField, Direct.select_bind]
    refine answers_select built.makes built.stretches.sound_afterReads
      (Dispatcher.writeBranch_assembling description) built.stretches.writes (.refl _) ?_
    intro ordinal field start finish found isBranch sound moves
    exact answers_writeBranch built.makes sound
      (fun index named => answered.member?_field built linked found named) rfl isBranch moves
  unfold setField
  rw [entered]
  simp only [map_eq_pure_bind, bind_assoc, pure_bind, Option.map_some]

/-- Reading and writing fields through the dispatcher of a description is reading and writing them
directly with the members that the model gave when it was linked: the same results, and the same
effects in the same order in every world. -/
theorem fieldAccess_eq_direct (built : Image.ofDescription description = .ok image)
    (short : image.code.size < 2 ^ 32)
    (linked : (Linkage.ofImage model image).run start = (.ok linkage, finish)) :
    (∃ given : GivenMembers World, given.AnsweredBy description model image start) ∧
      ∀ given : GivenMembers World, given.AnsweredBy description model image start →
        ∀ receiver selector,
          (LinkedImage.mk image linkage model).getField receiver selector =
              some <$> Direct.getField model description given receiver selector ∧
            ∀ value, (LinkedImage.mk image linkage model).setField receiver selector value =
              some <$> Direct.setField model description given receiver selector value := by
  obtain ⟨built⟩ := Dispatcher.ofDescription_ok built short
  refine ⟨GivenMembers.exists_answeredBy built linked, ?_⟩
  intro given answered receiver selector
  exact ⟨getField_eq built linked answered receiver selector,
    setField_eq built linked answered receiver selector⟩

theorem fieldAccess_eq_direct_counter :
    ∃ linkage, (Linkage.ofImage counterModel counterImage).run 0 = (.ok linkage, 0) ∧
      ∀ given : GivenMembers Int32, given.AnsweredBy counter counterModel counterImage 0 →
        ∀ receiver selector,
          (LinkedImage.mk counterImage linkage counterModel).getField receiver selector =
              some <$> Direct.getField counterModel counter given receiver selector ∧
            ∀ value,
              (LinkedImage.mk counterImage linkage counterModel).setField receiver selector
                  value =
                some <$> Direct.setField counterModel counter given receiver selector value := by
  obtain ⟨linkage, linked⟩ := counter_linked
  exact ⟨linkage, linked, (fieldAccess_eq_direct counter_built counter_short linked).2⟩

end Operations

end OrdinalDispatch.Machine.LinkedImage

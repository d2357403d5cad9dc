import OrdinalDispatch.Proofs.Machine.Dispatching
import OrdinalDispatch.Proofs.Machine.Handles

/-!
Contract: calling a method through a dispatcher is calling it directly.

Owns: the bodies that calls run, the branch of a method, and the whole operation.

Does not own: constructors and fields.
-/

set_option autoImplicit false

namespace OrdinalDispatch.Machine

open OrdinalDispatch.Code

variable {World : Type}

/-! ## Bodies -/

section Bodies

variable {model : TypeModel World} {description : TypeDescription} {given : GivenMembers World}
  {ordinal : Nat} {method : MethodDescription} {owner : Value}

/-- The machine names an abstract method as the model lists it, which is by the same name. -/
theorem declaredBody_eq (sameName : (given.listedMethod ordinal).name = method.name) :
    declaredBody (given.listedMethod ordinal) (given.method ordinal) owner =
      Direct.declaredBody given ordinal method owner := by
  unfold declaredBody Direct.declaredBody
  cases given.method ordinal with
  | none => simp only [sameName]
  | some body => rfl

/-- The machine says where it looks for an override, the direct call where it does not. -/
theorem dispatchedBody_eq (sameName : (given.listedMethod ordinal).name = method.name) :
    dispatchedBody model description.classId (given.listedMethod ordinal) (given.method ordinal)
        owner =
      Direct.offeredBody model description given ordinal method owner := by
  unfold dispatchedBody Direct.offeredBody
  rw [declaredBody_eq sameName]
  cases owner.class? with
  | none => rfl
  | some ownerClass =>
      by_cases declared : ownerClass = description.classId ∧ (given.method ordinal).isSome
      · have found : ¬(ownerClass ≠ description.classId ∨ (given.method ordinal).isNone) := by
          rw [not_or, ne_eq, Classical.not_not, ← Option.not_isSome, Bool.not_eq_true',
            Bool.not_eq_false]
          exact declared
        simp only [if_pos declared, if_neg found]
      · have looked : ownerClass ≠ description.classId ∨ (given.method ordinal).isNone := by
          rw [← Option.not_isSome, Bool.not_eq_true', ← Bool.not_eq_true, ne_eq,
            ← Classical.not_and_iff_not_or_not]
          exact declared
        exact (if_pos looked).trans (if_neg declared).symm

theorem bodyFor_static (isStatic : method.callKind = .static) :
    Direct.bodyFor model description given ordinal method owner =
      Direct.declaredBody given ordinal method owner := by
  unfold Direct.bodyFor
  rw [isStatic]

theorem bodyFor_eq (owned : method.callKind ≠ .static)
    (sameName : (given.listedMethod ordinal).name = method.name) :
    (if method.callKind = .special then
        declaredBody (given.listedMethod ordinal) (given.method ordinal) owner
      else dispatchedBody model description.classId (given.listedMethod ordinal)
        (given.method ordinal) owner) =
      Direct.bodyFor model description given ordinal method owner := by
  unfold Direct.bodyFor
  rw [declaredBody_eq sameName, dispatchedBody_eq sameName]
  cases kind : method.callKind with
  | static => exact absurd kind owned
  | special => rfl
  | virtual => rfl
  | interface => rfl

end Bodies

namespace LinkedImage

/-! ## The branch of a method -/

section Branch

variable {linked : LinkedImage World} {frame : Frame} {final assembler : Assembler}
  {description : TypeDescription} {given : GivenMembers World} {ordinal : Nat}
  {method : MethodDescription} (makes : final.Makes linked.image) (sound : assembler.Sound)
include makes sound

theorem answers_answer {returnType : ValueType} {result : Value} {stack : List Value}
    (moves : Assembler.Assembles ((Dispatcher.answer returnType assembler).emit .returnTop) final) :
    linked.Answers frame assembler.offset (result :: stack) (Direct.answer returnType result) := by
  cases returnType with
  | void =>
      have pops := Dispatcher.emit_assembles assembler .pop
      have nulls := Dispatcher.emit_assembles (assembler.emit .pop) .constNull
      have returns := (Dispatcher.emit_assembles ..).trans moves
      refine Answers.of_emit makes sound (nulls.trans returns) execute_pop ?_
      refine Answers.of_emit makes (pops.sound sound) returns execute_constNull ?_
      exact answers_returnTop makes (nulls.sound (pops.sound sound)) moves
  | primitive kind => exact answers_boxed makes sound moves
  | reference target => exact answers_boxed makes sound moves

variable (described : linked.image.target = description.classId)
  (held : ∀ index,
    linked.image.constant? index = some (Dispatcher.methodConstant ordinal method) →
      linked.linkage.member? index =
          some (.method (given.listedMethod ordinal) (given.method ordinal)) ∧
        (given.listedMethod ordinal).name = method.name ∧
        (given.listedMethod ordinal).parameters = method.parameters)
include held

/-- The call of a static method and the answer of its result. -/
theorem answers_call_static {index : UInt16} {argumentCount : UInt64} {converted stack : List Value}
    (named : linked.image.constant? index = some (Dispatcher.methodConstant ordinal method))
    (moves : Assembler.Assembles
      ((Dispatcher.answer method.returnType
        (assembler.emitCall argumentCount (.invoke method.callKind index))).emit
          .returnTop) final)
    (isStatic : method.callKind = .static) (enough : converted.length = method.parameters.length) :
    linked.Answers frame assembler.offset (converted.reverse ++ stack)
      (Direct.runMethod linked.model description given ordinal method .null converted) := by
  obtain ⟨entry, sameName, sameParameters⟩ := held index named
  have calls := Assembler.Move.emitCall assembler argumentCount
    (.invoke method.callKind index)
  have answers := (Dispatcher.answer_assembles
    (assembler.emitCall argumentCount (.invoke method.callKind index))
    method.returnType).trans ((Dispatcher.emit_assembles ..).trans moves)
  unfold Direct.runMethod
  simp only [← ofMember_eq]
  rw [bodyFor_static isStatic, ← declaredBody_eq sameName, ← bind_assoc]
  refine Answers.of_emitCall makes sound answers (fun result => result :: stack) ?_ fun result =>
    answers_answer makes (calls.sound sound) moves
  rw [isStatic]
  exact execute_invoke_static entry (enough.trans (congrArg List.length sameParameters.symm))

include described

/-- The call of a method with an owner and the answer of its result. -/
theorem answers_call {index : UInt16} {argumentCount : UInt64} {owner : Value}
    {converted stack : List Value}
    (named : linked.image.constant? index = some (Dispatcher.methodConstant ordinal method))
    (moves : Assembler.Assembles
      ((Dispatcher.answer method.returnType
        (assembler.emitCall argumentCount (.invoke method.callKind index))).emit
          .returnTop) final)
    (owned : method.callKind ≠ .static) (enough : converted.length = method.parameters.length) :
    linked.Answers frame assembler.offset (converted.reverse ++ owner :: stack)
      (if owner = .null then throw .nullReceiver
        else Direct.runMethod linked.model description given ordinal method owner converted) := by
  obtain ⟨entry, sameName, sameParameters⟩ := held index named
  have calls := Assembler.Move.emitCall assembler argumentCount
    (.invoke method.callKind index)
  have answers := (Dispatcher.answer_assembles
    (assembler.emitCall argumentCount (.invoke method.callKind index))
    method.returnType).trans ((Dispatcher.emit_assembles ..).trans moves)
  have count : converted.length = (given.listedMethod ordinal).parameters.length :=
    enough.trans (congrArg List.length sameParameters.symm)
  rw [← nonNull_bind owner fun owner =>
    Direct.runMethod linked.model description given ordinal method owner converted]
  unfold Direct.runMethod
  simp only [← ofMember_eq, ← bodyFor_eq owned sameName]
  simp only [← bind_assoc]
  refine Answers.of_emitCall makes sound answers (fun result => result :: stack) ?_ fun result =>
    answers_answer makes (calls.sound sound) moves
  rw [← described]
  exact execute_invoke entry count owned

/-- The branch of a method does what the direct call does. -/
theorem answers_methodBranch {finish : Assembler} {arguments : List Value}
    (done : Dispatcher.methodBranch description ordinal method assembler = .ok finish)
    (moves : Assembler.Assembles finish final) (present : frame.arguments = some arguments)
    (enough : arguments.length = method.parameters.length) :
    linked.Answers frame assembler.offset []
      (Direct.callMethod linked.model description given frame.receiver ordinal method
        arguments) := by
  obtain ⟨loaded, loads, rfl⟩ := Dispatcher.methodBranch_ok done
  have targets := Dispatcher.loadTarget_assembles assembler description method
  have arguing := Dispatcher.loadArguments_assembling 0 _ _ _ loads
  have loadedSound := arguing.sound (targets.sound sound)
  have interns := Assembler.Move.intern loaded (Dispatcher.methodConstant ordinal method)
  have internsAfter := (Assembler.Assembles.single (.emitCall ..)).trans
    ((Dispatcher.answer_assembles ..).trans ((Dispatcher.emit_assembles ..).trans moves))
  have named := makes.constant?_intern internsAfter loadedSound
  have loadsAfter := (Assembler.Assembles.single interns).trans internsAfter
  unfold Direct.callMethod Direct.methodOwner
  by_cases isStatic : method.callKind = .static
  · rw [if_pos isStatic, pure_bind]
    rw [Dispatcher.loadTarget, if_pos isStatic] at loads
    refine answers_loadArguments makes sound loads loadsAfter present rfl enough ?_
    intro converted size
    rw [if_neg fun both => both.1 isStatic, ← Assembler.offset_intern loaded]
    exact answers_call_static makes (interns.sound loadedSound) held named moves isStatic size
  · rw [if_neg isStatic]
    rw [Dispatcher.loadTarget, if_neg isStatic] at loads targets arguing
    refine answers_loadReceiver makes sound (arguing.trans loadsAfter) fun owner => ?_
    refine answers_loadArguments makes (targets.sound sound) loads loadsAfter present rfl enough ?_
    intro converted size
    simp only [ne_eq, isStatic, not_false_eq_true, true_and]
    rw [← Assembler.offset_intern loaded]
    exact answers_call makes (interns.sound loadedSound) described held named moves isStatic size

end Branch

/-! ## The operation -/

/-- Calling a method through the dispatcher of a description is calling it directly with the
members that the model gave when it was linked: the same result, and the same effects in the same
order in every world. The model need not be the one that the description was taken from. -/
theorem invoke_eq_direct {description : TypeDescription} {image : Image}
    {model : TypeModel World} {start finish : World} {linkage : Linkage World}
    (built : Image.ofDescription description = .ok image) (short : image.code.size < 2 ^ 32)
    (linked : (Linkage.ofImage model image).run start = (.ok linkage, finish)) :
    (∃ given : GivenMembers World, given.AnsweredBy description model image start) ∧
      ∀ given : GivenMembers World, given.AnsweredBy description model image start →
        ∀ receiver selector arguments,
          (LinkedImage.mk image linkage model).invoke receiver selector arguments =
            some <$> Direct.invoke model description given receiver selector arguments := by
  obtain ⟨built⟩ := Dispatcher.ofDescription_ok built short
  refine ⟨GivenMembers.exists_answeredBy built linked, ?_⟩
  intro given answered receiver selector arguments
  unfold invoke
  refine Answers.enter ?_
  rw [built.entry_invoke]
  refine answers_selectCall built.makes built.stretches.sound_afterConstructors
    (Dispatcher.methodBranch_assembling description) built.stretches.methodsCounted
    built.stretches.methods built.stretches.reads_assembles ?_
  intro arguments ordinal method start finish present enough found isBranch sound moves
  exact answers_methodBranch built.makes sound built.target
    (fun index named => answered.member?_method built linked found named) isBranch moves present
    enough

theorem invoke_eq_direct_counter :
    ∃ linkage, (Linkage.ofImage counterModel counterImage).run 0 = (.ok linkage, 0) ∧
      ∀ given : GivenMembers Int32, given.AnsweredBy counter counterModel counterImage 0 →
        ∀ receiver selector arguments,
          (LinkedImage.mk counterImage linkage counterModel).invoke receiver selector arguments =
            some <$> Direct.invoke counterModel counter given receiver selector arguments := by
  obtain ⟨linkage, linked⟩ := counter_linked
  exact ⟨linkage, linked, (invoke_eq_direct counter_built counter_short linked).2⟩

end LinkedImage

end OrdinalDispatch.Machine

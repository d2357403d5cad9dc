import OrdinalDispatch.Proofs.Machine.Blameless
import OrdinalDispatch.Proofs.Machine.Dispatching
import OrdinalDispatch.Proofs.Machine.Handles

/-!
Contract: constructing through a dispatcher is constructing directly.

Owns: the entry without a selector, the branch of a constructor, both
operations, and that neither of them ever blames the code.

Does not own: methods and fields.
-/

set_option autoImplicit false

namespace OrdinalDispatch.Machine

open OrdinalDispatch.Code

variable {World : Type}

/-! ## Failures of the direct construction -/

section Failures

variable (model : TypeModel World)

theorem ensures_cast (target : ClassId) (value : Value) :
    Ensures (Direct.castUnlessObject model target value) (fun _ => True)
      fun error => ¬BlamesCode error := by
  unfold Direct.castUnlessObject
  split
  · exact .ofPure trivial
  · have passing : Ensures (Direct.passes model target value) (fun _ => True)
        fun error => ¬BlamesCode error := by
      unfold Direct.passes
      cases value.class? with
      | none => exact .ofPure trivial
      | some found =>
          by_cases same : found = target
          · simp only [if_pos same]
            exact .ofPure trivial
          · simp only [if_neg same]
            exact .ofModel _
    refine passing.bind fun passes _ => ?_
    cases passes with
    | true => exact .ofPure trivial
    | false => exact (Ensures.ofModel _).bind fun name _ => .ofThrow id

theorem ensures_convert (type : ValueType) (value : Value) :
    Ensures (Direct.convert model type value) (fun _ => True)
      fun error => ¬BlamesCode error := by
  cases type with
  | void => exact .ofPure trivial
  | reference target => exact ensures_cast model target value
  | primitive kind => exact .ofExcept fun error => not_blamesCode_of_unbox

theorem ensures_convertAll (types : List ValueType) (values : List Value) :
    Ensures (Direct.convertAll model types values) (fun _ => True)
      fun error => ¬BlamesCode error := by
  induction types generalizing values with
  | nil =>
      rw [Direct.convertAll.eq_def]
      exact .ofPure trivial
  | cons type types inductionHypothesis =>
      cases values with
      | nil => exact .ofPure trivial
      | cons value values =>
          rw [Direct.convertAll]
          exact (ensures_convert model type value).bind fun converted _ =>
            (inductionHypothesis values).bind fun others _ => .ofPure trivial

/-- A member fails with its own failure alone. -/
theorem ensures_reach {Result : Type} (outcome : StateM World (Except String Result)) :
    Ensures (Direct.reach outcome) (fun _ => True) fun error => ¬BlamesCode error := by
  rw [← ofMember_eq]
  exact blameless_ofMember outcome

end Failures

namespace LinkedImage

/-! ## The two entries of constructors -/

section Entries

variable {linked : LinkedImage World} {frame : Frame} {final assembler : Assembler}
  {given : GivenMembers World} {ordinal : Nat} (makes : final.Makes linked.image)
  (sound : assembler.Sound)
include makes sound

/-- The call of a constructor answers with what it made. -/
theorem answers_construct {index : UInt16} {argumentCount : UInt64} {converted : List Value}
    {arity : Nat}
    (entry : linked.linkage.member? index = some (.constructor arity (given.constructor ordinal)))
    (moves : Assembler.Assembles
      ((assembler.emitCall argumentCount (.construct index)).emit .returnTop) final)
    (enough : converted.length = arity) :
    linked.Answers frame assembler.offset (converted.reverse ++ [])
      (Direct.reach (given.constructor ordinal converted) >>= fun made =>
        pure (.object made)) := by
  have calls := Assembler.Move.emitCall assembler argumentCount (.construct index)
  rw [← ofMember_eq]
  exact Answers.of_emitCall makes sound ((Dispatcher.emit_assembles ..).trans moves)
    (fun made => [.object made]) (execute_construct entry enough) fun made =>
      answers_returnTop makes (calls.sound sound) moves

/-- The branch of a constructor does what the direct construction does. -/
theorem answers_constructorBranch {constructor : ConstructorDescription} {finish : Assembler}
    {arguments : List Value}
    (held : ∀ index, linked.image.constant? index =
      some (.constructor (UInt32.ofNat ordinal) constructor.parameters) →
        linked.linkage.member? index =
          some (.constructor constructor.parameters.length (given.constructor ordinal)))
    (done : Dispatcher.constructorBranch ordinal constructor assembler = .ok finish)
    (moves : Assembler.Assembles finish final) (present : frame.arguments = some arguments)
    (enough : arguments.length = constructor.parameters.length) :
    linked.Answers frame assembler.offset []
      ((Direct.convertAll linked.model constructor.parameters arguments >>= fun converted =>
        Direct.reach (given.constructor ordinal converted)) >>= fun made =>
          pure (.object made)) := by
  obtain ⟨loaded, loads, rfl⟩ := Dispatcher.constructorBranch_ok done
  have loadedSound := (Dispatcher.loadArguments_assembling 0 _ _ _ loads).sound sound
  have interns := Assembler.Move.intern loaded
    (.constructor (UInt32.ofNat ordinal) constructor.parameters)
  have onward := (Assembler.Assembles.single (.emitCall ..)).trans
    ((Dispatcher.emit_assembles ..).trans moves)
  have entry := held _ (makes.constant?_intern onward loadedSound)
  rw [bind_assoc]
  refine answers_loadArguments makes sound loads ((Assembler.Assembles.single interns).trans onward)
    present rfl enough ?_
  intro converted size
  rw [← Assembler.offset_intern loaded]
  exact answers_construct makes (interns.sound loadedSound) entry moves size

end Entries

/-- An answer that is an object is what the operation hands over. -/
theorem constructAt_eq {linked : LinkedImage World} {entryPoint : EntryPoint} {frame : Frame}
    {construction : Call World ObjectRef}
    (answers : linked.Answers frame (linked.image.entry entryPoint) []
      (construction >>= fun made => pure (.object made))) :
    linked.constructAt entryPoint frame = some <$> construction := by
  unfold constructAt
  rw [answers.enter]
  simp only [map_eq_pure_bind, bind_assoc, pure_bind]

/-! ## The operations -/

section Operations

variable {description : TypeDescription} {image : Image} {model : TypeModel World}
  {start finish : World} {linkage : Linkage World} {given : GivenMembers World}

theorem newDefault_eq (built : Dispatcher.Built description image)
    (linked : (Linkage.ofImage model image).run start = (.ok linkage, finish))
    (answered : given.AnsweredBy description model image start) :
    (LinkedImage.mk image linkage model).newDefault =
      some <$> match description.defaultConstructor? with
        | some ordinal => Direct.reach (given.constructor ordinal [])
        | none => throw (.noDefaultConstructor description.name) := by
  unfold newDefault
  refine constructAt_eq ?_
  rw [built.entry_newDefault]
  have moves := built.stretches.constructors_assembles
  cases found : description.defaultConstructor? with
  | none =>
      simp only [Dispatcher.defaultConstruction, found] at moves
      refine Answers.of_emit_throw built.makes Assembler.sound_empty moves ?_
      rw [← built.typeName]
      rfl
  | some ordinal =>
      obtain ⟨below, isEmpty, -⟩ := List.findIdx?_eq_some_iff_getElem.mp found
      have listed := List.getElem?_eq_getElem below
      have none : description.constructors[ordinal].parameters = [] := List.isEmpty_iff.mp isEmpty
      simp only [Dispatcher.defaultConstruction, found] at moves
      have interns := Assembler.Move.intern {} (.constructor (UInt32.ofNat ordinal) [])
      have named := built.makes.constant?_intern ((Assembler.Assembles.single (.emitCall ..)).trans
        ((Dispatcher.emit_assembles ..).trans moves)) Assembler.sound_empty
      have entry := answered.member?_constructor built linked listed (none ▸ named)
      rw [none] at entry
      have offset := Assembler.offset_intern {} (.constructor (UInt32.ofNat ordinal) [])
      have arguments : ([] : List Value).length = 0 := rfl
      have constructs : Answers ⟨image, linkage, model⟩ {} _ ([].reverse ++ []) _ :=
        answers_construct built.makes (interns.sound Assembler.sound_empty) entry moves arguments
      rwa [offset] at constructs

theorem newInstance_eq (built : Dispatcher.Built description image)
    (linked : (Linkage.ofImage model image).run start = (.ok linkage, finish))
    (answered : given.AnsweredBy description model image start) (selector : Int32)
    (arguments : Option (List Value)) :
    (LinkedImage.mk image linkage model).newInstance selector arguments =
      some <$> Direct.newInstance model description given selector arguments := by
  unfold newInstance
  refine constructAt_eq ?_
  rw [built.entry_newInstance, Direct.newInstance, Direct.selectCall_bind]
  refine answers_selectCall built.makes Dispatcher.Stretches.sound_default
    Dispatcher.constructorBranch_assembling built.stretches.constructorsCounted
    built.stretches.constructors built.stretches.methods_assembles ?_
  intro arguments ordinal constructor start finish present enough found isBranch sound moves
  exact answers_constructorBranch built.makes sound
    (fun index named => answered.member?_constructor built linked found named) isBranch moves
    present enough

theorem ensures_newInstance (selector : Int32) (arguments : Option (List Value)) :
    Ensures (Direct.newInstance model description given selector arguments) (fun _ => True)
      fun error => ¬BlamesCode error := by
  unfold Direct.newInstance Direct.selectCall Direct.select
  cases arguments with
  | none => exact .ofThrow id
  | some arguments =>
      dsimp only
      split
      · exact .ofThrow id
      · split
        · exact (ensures_convertAll model _ _).bind fun converted _ => ensures_reach _
        · exact .ofThrow id

/-- What an operation hands over is there, whenever the direct construction has it. -/
theorem ensures_isSome {construction : Call World ObjectRef}
    (ensures : Ensures construction (fun _ => True) fun error => ¬BlamesCode error) :
    Ensures (some <$> construction) (fun made => made.isSome) fun error => ¬BlamesCode error := by
  rw [map_eq_pure_bind]
  exact ensures.bind fun made _ => .ofPure rfl

/-- Constructing through the dispatcher of a description is constructing directly with the
constructors that the model gave when it was linked. Without a selector that is the first one
without parameters, or the failure for there being none. Neither way ever blames the code. -/
theorem construction_eq_direct (built : Image.ofDescription description = .ok image)
    (short : image.code.size < 2 ^ 32)
    (linked : (Linkage.ofImage model image).run start = (.ok linkage, finish)) :
    (∃ given : GivenMembers World, given.AnsweredBy description model image start) ∧
      ∀ given : GivenMembers World, given.AnsweredBy description model image start →
        (∀ (ordinal : Nat) (constructor : ConstructorDescription),
          description.constructors[ordinal]? = some constructor → constructor.parameters = [] →
          (∀ earlier < ordinal, ∀ other, description.constructors[earlier]? = some other →
            other.parameters ≠ []) →
          (LinkedImage.mk image linkage model).newDefault =
            some <$> Direct.reach (given.constructor ordinal [])) ∧
        ((∀ constructor ∈ description.constructors, constructor.parameters ≠ []) →
          (LinkedImage.mk image linkage model).newDefault =
            throw (.noDefaultConstructor description.name)) ∧
        (∀ selector arguments,
          (LinkedImage.mk image linkage model).newInstance selector arguments =
            some <$> Direct.newInstance model description given selector arguments) ∧
        Ensures (LinkedImage.mk image linkage model).newDefault (fun made => made.isSome)
          (fun error => ¬BlamesCode error) ∧
        ∀ selector arguments,
          Ensures ((LinkedImage.mk image linkage model).newInstance selector arguments)
            (fun made => made.isSome) fun error => ¬BlamesCode error := by
  obtain ⟨built⟩ := Dispatcher.ofDescription_ok built short
  refine ⟨GivenMembers.exists_answeredBy built linked, ?_⟩
  intro given answered
  have defaulted := newDefault_eq built linked answered
  have selected := newInstance_eq built linked answered
  refine ⟨?_, ?_, selected, ?_, ?_⟩
  · intro ordinal constructor found none first
    have isFirst : description.defaultConstructor? = some ordinal := by
      obtain ⟨below, rfl⟩ := List.getElem?_eq_some_iff.mp found
      refine List.findIdx?_eq_some_iff_getElem.mpr ⟨below, List.isEmpty_iff.mpr none, ?_⟩
      intro earlier before isEmpty
      exact first earlier before _ (List.getElem?_eq_getElem _) (List.isEmpty_iff.mp isEmpty)
    rw [defaulted, isFirst]
  · intro occupied
    have absent : description.defaultConstructor? = none := by
      refine List.findIdx?_eq_none_iff.mpr fun constructor member => ?_
      exact Bool.eq_false_iff.mpr fun isEmpty =>
        occupied constructor member (List.isEmpty_iff.mp isEmpty)
    rw [defaulted, absent]
    rfl
  · rw [defaulted]
    refine ensures_isSome ?_
    cases description.defaultConstructor? with
    | none => exact .ofThrow id
    | some ordinal => exact ensures_reach _
  · intro selector arguments
    rw [selected]
    exact ensures_isSome (ensures_newInstance selector arguments)

theorem construction_eq_direct_counter :
    ∃ linkage, (Linkage.ofImage counterModel counterImage).run 0 = (.ok linkage, 0) ∧
      ∀ given : GivenMembers Int32, given.AnsweredBy counter counterModel counterImage 0 →
        (LinkedImage.mk counterImage linkage counterModel).newDefault =
            some <$> Direct.reach (given.constructor 0 []) ∧
          ∀ selector arguments,
            (LinkedImage.mk counterImage linkage counterModel).newInstance selector arguments =
              some <$> Direct.newInstance counterModel counter given selector arguments := by
  obtain ⟨linkage, linked⟩ := counter_linked
  refine ⟨linkage, linked, fun given answered => ?_⟩
  obtain ⟨first, -, selected, -⟩ :=
    (construction_eq_direct counter_built counter_short linked).2 given answered
  exact ⟨first 0 ⟨[], {}⟩ rfl rfl nofun, selected⟩

end Operations

end LinkedImage

end OrdinalDispatch.Machine

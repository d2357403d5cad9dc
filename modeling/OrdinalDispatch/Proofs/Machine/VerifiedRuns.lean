import OrdinalDispatch.Machine.Accessor
import OrdinalDispatch.Proofs.Code.Sweeping
import OrdinalDispatch.Proofs.Machine.Blameless
import OrdinalDispatch.Proofs.Machine.Fetching
import OrdinalDispatch.Proofs.Machine.Handles

/-!
Contract: what runs of checked code cannot do, however long they are.

Owns: the states that runs of an image come to, that they stay where
instructions start, and which faults of the code are left when the image was
checked and linked.

Does not own: images made of a description, which have none of these faults.
-/

set_option autoImplicit false

namespace OrdinalDispatch.Machine

open OrdinalDispatch.Code

variable {World : Type}

/-! ## What is left to go wrong -/

/-- Faults of the code that its check does not look for. The others are faults of decoding and
linking. -/
def LeftByCheck : CodeFault → Prop
  | .ranOffTheEnd | .stackUnderflow | .argumentOutOfRange | .arityLookupFailed => True
  | _ => False

/-- Failures that runs of checked code can end in. -/
def Remaining : AccessError → Prop
  | .corruptCode fault _ => LeftByCheck fault
  | .constructedOther _ => False
  | _ => True

/-- The machine answers, or it goes on where an instruction starts or the code ends. -/
def Stays (image : Image) : Progress → Prop
  | .next state => image.IsStart state.offset ∨ state.offset = image.code.size
  | .answer _ => True

/-! ## Parts of instructions -/

section Parts

variable {stack : List Value} {offset : Nat} {model : TypeModel World}

theorem ensures_popOne :
    Ensures (popOne stack offset : Call World (Value × List Value)) (fun _ => True) Remaining := by
  cases stack with
  | nil => exact .ofThrow trivial
  | cons value rest => exact .ofPure trivial

theorem ensures_popMany {count : Nat} :
    Ensures (popMany stack count offset : Call World (List Value × List Value)) (fun _ => True)
      Remaining := by
  unfold popMany
  split
  · exact .ofPure trivial
  · exact .ofThrow trivial

/-- What never blames the code fails for a reason that is left. -/
theorem Blameless.remaining {Result : Type} {call : Call World Result}
    (blameless : Blameless call) : Ensures call (fun _ => True) Remaining := by
  refine blameless.weaken (fun _ good => good) fun error blames => ?_
  cases error with
  | corruptCode => exact absurd trivial blames
  | constructedOther => exact absurd trivial blames
  | _ => trivial

theorem ensures_nonNull {receiver : Value} :
    Ensures (nonNull receiver : Call World Value) (fun _ => True) Remaining :=
  (blameless_nonNull receiver).remaining

theorem ensures_ofMember {Result : Type} (outcome : StateM World (Except String Result)) :
    Ensures (ofMember outcome) (fun _ => True) Remaining :=
  (blameless_ofMember outcome).remaining

theorem ensures_unbox (kind : Primitive) (value : Value) :
    Ensures (liftM (value.unbox kind) : Call World Value) (fun _ => True) Remaining :=
  (blameless_unbox kind value).remaining

theorem ensures_boxed (kind : Primitive) (value : Value) :
    Ensures (liftM (value.boxed kind) : Call World Value) (fun _ => True) Remaining :=
  (blameless_boxed kind value).remaining

theorem ensures_checkCast (value : Value) (target : ClassId) :
    Ensures (checkCast model value target) (fun _ => True) Remaining :=
  (blameless_checkCast model value target).remaining

theorem ensures_declaredBody {description : MethodDescription}
    {handle : Option (MethodHandle World)} {receiver : Value} :
    Ensures (declaredBody description handle receiver) (fun _ => True) Remaining :=
  (blameless_declaredBody description handle receiver).remaining

theorem ensures_dispatchedBody {target : ClassId} {description : MethodDescription}
    {handle : Option (MethodHandle World)} {receiver : Value} :
    Ensures (dispatchedBody model target description handle receiver) (fun _ => True)
      Remaining :=
  (blameless_dispatchedBody model target description handle receiver).remaining

theorem ensures_fieldOwner {isStatic : Bool} :
    Ensures (fieldOwner isStatic stack offset : Call World (Value × List Value)) (fun _ => True)
      Remaining := by
  unfold fieldOwner
  split
  · exact .ofPure trivial
  · exact ensures_popOne.bind fun popped _ =>
      ensures_nonNull.bind fun owner _ => .ofPure trivial

end Parts

/-! ## Linked operands -/

section Linked

variable {model : TypeModel World} {image : Image} {start finish : World}
  {linkage : Linkage World}
  (linked : (Linkage.ofImage model image).run start = (.ok linkage, finish)) {index : UInt16}
include linked

/-- A linked constructor takes as many arguments as its constant has parameters. -/
theorem linked_constructor {constant : Constant} (named : image.constant? index = some constant)
    (admits : ConstantKind.constructor.admits constant) :
    ∃ ordinal parameters handle, constant = .constructor ordinal parameters ∧
      linkage.member? index = some (.constructor parameters.length handle) := by
  obtain ⟨listed, before, member, after, -, isMember, entry⟩ := Linkage.ofImage_at linked named
  cases constant with
  | constructor ordinal parameters =>
      obtain ⟨handle, -, rfl⟩ := Linkage.linkConstructor_ok isMember
      exact ⟨ordinal, parameters, handle, rfl, entry⟩
  | _ => cases admits

/-- A linked method takes as many arguments as its constant has parameters. -/
theorem linked_method {kind : CallKind} {constant : Constant}
    (named : image.constant? index = some constant)
    (admits : (ConstantKind.method kind).admits constant) :
    ∃ ordinal name returnType description handle,
      constant = .method ordinal name description.parameters returnType kind ∧
        linkage.member? index = some (.method description handle) := by
  obtain ⟨listed, before, member, after, -, isMember, entry⟩ := Linkage.ofImage_at linked named
  cases constant with
  | method ordinal name parameters returnType callKind =>
      obtain ⟨current, handle, -, -, rfl, -, rfl, -⟩ := Linkage.linkMethod_ok isMember
      obtain rfl : callKind = kind := beq_iff_eq.mp admits
      exact ⟨ordinal, name, returnType, current, handle, rfl, entry⟩
  | _ => cases admits

theorem linked_field {isStatic : Bool} {constant : Constant}
    (named : image.constant? index = some constant)
    (admits : (ConstantKind.field isStatic).admits constant) :
    ∃ handle, linkage.member? index = some (.field handle) := by
  obtain ⟨listed, before, member, after, -, isMember, entry⟩ := Linkage.ofImage_at linked named
  cases constant with
  | field ordinal name valueType isStatic =>
      obtain ⟨handle, -, rfl⟩ := Linkage.linkField_ok isMember
      exact ⟨handle, entry⟩
  | _ => cases admits

end Linked

/-! ## Steps -/

section Steps

variable {image : Image} {linkage : Linkage World} {model : TypeModel World} {frame : Frame}
  {stack : List Value} {offset : Nat} {index : UInt16}

theorem ensures_illegal {Result : Type} {good : Result → Prop} {constant : Constant}
    (named : image.constant? index = some constant)
    (admits : ConstantKind.message.admits constant) :
    Ensures (illegal image index offset : Call World Result) good Remaining := by
  cases constant with
  | message text =>
      unfold illegal
      rw [named]
      exact .ofThrow trivial
  | _ => cases admits

theorem ensures_call {kind : CallKind} {description : MethodDescription}
    {handle : Option (MethodHandle World)}
    (entry : linkage.member? index = some (.method description handle)) :
    Ensures (call image linkage model stack offset kind index) (fun _ => True) Remaining := by
  unfold call
  rw [entry]
  refine ensures_popMany.bind fun ⟨arguments, stack⟩ _ => ?_
  dsimp only
  by_cases isStatic : kind = .static
  · rw [if_pos isStatic]
    exact ensures_declaredBody.bind fun body _ =>
      (ensures_ofMember _).bind fun result _ => .ofPure trivial
  · rw [if_neg isStatic]
    refine ensures_popOne.bind fun ⟨receiver, stack⟩ _ => ensures_nonNull.bind fun owner _ => ?_
    have runs : ∀ body : MethodHandle World,
        Ensures (ofMember (body owner arguments) >>= fun result =>
          (pure (result, stack) : Call World (Value × List Value))) (fun _ => True) Remaining :=
      fun body => (ensures_ofMember _).bind fun result _ => .ofPure trivial
    by_cases special : kind = .special
    · simp only [if_pos special]
      exact ensures_declaredBody.bind fun body _ => runs body
    · simp only [if_neg special]
      exact ensures_dispatchedBody.bind fun body _ => runs body

theorem fieldHandle_eq {handle : FieldHandle World}
    (entry : linkage.member? index = some (.field handle)) :
    fieldHandle linkage index offset = pure handle := by
  simp only [fieldHandle, entry]

/-- A switch jumps to one of its targets. -/
theorem getD_mem_cons (fallback : UInt32) (targets : List UInt32) (place : Nat) :
    targets.getD place fallback ∈ fallback :: targets := by
  rw [List.getD_eq_getElem?_getD]
  cases found : targets[place]? with
  | none => exact List.mem_cons_self
  | some target => exact List.mem_cons_of_mem _ (List.mem_of_getElem? found)

variable {start finish : World} {instruction : Instruction UInt32} (verified : image.Verified)
  (linked : (Linkage.ofImage model image).run start = (.ok linkage, finish))
  (member : (offset, instruction) ∈ (sweep image.code).instructions.toList)
include verified linked member

/-- An instruction of a checked image stays where instructions start, or fails for a reason that is
left. -/
theorem execute_ensures :
    Ensures (execute image linkage model frame stack offset (offset + instruction.size) instruction)
      (Stays image) Remaining := by
  have onward : ∀ stack, Stays image (.next ⟨offset + instruction.size, stack⟩) :=
    fun _ => verified.isStart_next member
  cases instruction with
  | checkArguments message =>
      obtain ⟨constant, named, admits⟩ := verified.admits member (List.mem_singleton_self _)
      unfold execute
      dsimp only
      split
      · exact ensures_illegal named admits
      · exact .ofPure (onward stack)
  | checkBounds count message =>
      obtain ⟨constant, named, admits⟩ := verified.admits member (List.mem_singleton_self _)
      unfold execute
      dsimp only
      split
      · exact .ofPure (onward stack)
      · exact ensures_illegal named admits
  | checkArity table message =>
      obtain ⟨tableConstant, tabled, isTable⟩ := verified.admits member List.mem_cons_self
      obtain ⟨constant, named, admits⟩ :=
        verified.admits member (List.mem_cons_of_mem _ (List.mem_singleton_self _))
      cases tableConstant with
      | arityTable arities =>
          unfold execute
          simp only [tabled]
          split
          · split
            · exact .ofPure (onward stack)
            · exact ensures_illegal named admits
          · exact .ofThrow trivial
      | _ => cases isTable
  | tableSwitch fallback targets =>
      refine .ofPure (.inl (verified.jumps _ member _ ?_))
      split
      · exact getD_mem_cons fallback targets _
      · exact List.mem_cons_self
  | throwIllegal message =>
      obtain ⟨constant, named, admits⟩ := verified.admits member (List.mem_singleton_self _)
      exact ensures_illegal named admits
  | throwNoDefault => exact .ofThrow trivial
  | loadReceiver => exact .ofPure (onward _)
  | loadArgument index =>
      unfold execute
      dsimp only
      split
      · exact .ofPure (onward _)
      · exact .ofThrow trivial
  | loadValue => exact .ofPure (onward _)
  | constNull => exact .ofPure (onward _)
  | pop => exact ensures_popOne.bind fun popped _ => .ofPure (onward _)
  | unbox kind =>
      exact ensures_popOne.bind fun popped _ =>
        (ensures_unbox kind _).bind fun converted _ => .ofPure (onward _)
  | box kind =>
      exact ensures_popOne.bind fun popped _ =>
        (ensures_boxed kind _).bind fun checked _ => .ofPure (onward _)
  | checkCast index =>
      obtain ⟨constant, named, admits⟩ := verified.admits member (List.mem_singleton_self _)
      cases constant with
      | classRef target =>
          unfold execute
          simp only [named]
          cases stack with
          | nil => exact .ofThrow trivial
          | cons top rest =>
              exact (ensures_checkCast top target).bind fun _ _ => .ofPure (onward _)
      | _ => cases admits
  | construct index =>
      obtain ⟨constant, named, admits⟩ := verified.admits member (List.mem_singleton_self _)
      obtain ⟨ordinal, parameters, handle, -, entry⟩ := linked_constructor linked named admits
      unfold execute
      simp only [entry]
      exact ensures_popMany.bind fun popped _ =>
        (ensures_ofMember _).bind fun made _ => .ofPure (onward _)
  | invoke kind index =>
      obtain ⟨constant, named, admits⟩ := verified.admits member (List.mem_singleton_self _)
      obtain ⟨ordinal, name, returnType, description, handle, -, entry⟩ :=
        linked_method linked named admits
      exact (ensures_call entry).bind fun answered _ => .ofPure (onward _)
  | getField isStatic index =>
      obtain ⟨constant, named, admits⟩ := verified.admits member (List.mem_singleton_self _)
      obtain ⟨handle, entry⟩ := linked_field linked named admits
      unfold execute
      simp only [fieldHandle_eq entry, pure_bind]
      exact ensures_fieldOwner.bind fun owned _ =>
        (ensures_ofMember _).bind fun result _ => .ofPure (onward _)
  | putField isStatic index =>
      obtain ⟨constant, named, admits⟩ := verified.admits member (List.mem_singleton_self _)
      obtain ⟨handle, entry⟩ := linked_field linked named admits
      unfold execute
      simp only [fieldHandle_eq entry, pure_bind]
      exact ensures_popOne.bind fun popped _ => ensures_fieldOwner.bind fun owned _ =>
        (ensures_ofMember _).bind fun _ _ => .ofPure (onward _)
  | returnTop => exact ensures_popOne.bind fun popped _ => .ofPure trivial
  | returnNull => exact .ofPure trivial

end Steps

/-! ## Runs -/

/-- The states that runs from an entry point come to, each with the world that the run has made. -/
inductive Reaches (linked : LinkedImage World) (entryPoint : EntryPoint) (frame : Frame) :
    State → World → Prop where
  | enter (world : World) :
      Reaches linked entryPoint frame ⟨linked.image.entry entryPoint, []⟩ world
  | step {state next : State} {world after : World}
      (reached : Reaches linked entryPoint frame state world)
      (stepped : (step linked.image linked.linkage linked.model frame state).run.run world =
        (.ok (.next next), after)) :
      Reaches linked entryPoint frame next after

section Runs

variable {image : Image} {linkage : Linkage World} {model : TypeModel World} {frame : Frame}
  {entryPoint : EntryPoint} {start finish : World} (verified : image.Verified)
  (linked : (Linkage.ofImage model image).run start = (.ok linkage, finish))
include verified linked

/-- A step from where an instruction starts, or from the end, stays there. -/
theorem step_ensures {state : State}
    (inside : image.IsStart state.offset ∨ state.offset = image.code.size) :
    Ensures (step image linkage model frame state) (Stays image) Remaining := by
  obtain ⟨instruction, member⟩ | ends := inside
  · rw [step_eq (verified.splits.decode_of_mem member)]
    exact execute_ensures verified linked member
  · have nothing : image.code[state.offset]? = none :=
      Array.getElem?_eq_none (Nat.le_of_eq ends.symm)
    simp only [step, nothing]
    exact .ofThrow trivial

theorem reaches_stays {state : State} {world : World}
    (reached : Reaches ⟨image, linkage, model⟩ entryPoint frame state world) :
    image.IsStart state.offset ∨ state.offset = image.code.size := by
  induction reached with
  | enter world => exact .inl (verified.entries entryPoint)
  | @step state next world after reached stepped inductionHypothesis =>
      have ensures :
          Ensures (Machine.step image linkage model frame state) (Stays image) Remaining :=
        step_ensures verified linked inductionHypothesis
      have outcome := ensures world
      rw [stepped] at outcome
      exact outcome

/-- A run of any length fails for a reason that is left, if it fails. -/
theorem run_ensures (fuel : Nat) {state : State}
    (inside : image.IsStart state.offset ∨ state.offset = image.code.size) :
    Ensures (run image linkage model frame fuel state) (fun _ => True) Remaining := by
  induction fuel generalizing state with
  | zero => exact .ofPure trivial
  | succ fuel inductionHypothesis =>
      refine (step_ensures verified linked inside).bind fun progress stays => ?_
      cases progress with
      | answer value => exact .ofPure trivial
      | next state => exact inductionHypothesis stays

end Runs

/-- In every state that a run of checked and linked code comes to, the next instruction starts where
the sweep of the code finds one, or the code ends there. No step from such a state, and no run of
any length, ends in a fault of decoding or linking. -/
theorem verified_runs_stay {image : Image} {model : TypeModel World} {start finish : World}
    {linkage : Linkage World} (checked : image.fault? = none)
    (linked : (Linkage.ofImage model image).run start = (.ok linkage, finish))
    (entryPoint : EntryPoint) (frame : Frame) :
    (∀ state world, Reaches ⟨image, linkage, model⟩ entryPoint frame state world →
      (image.IsStart state.offset ∨ state.offset = image.code.size) ∧
        ∀ fault offset after,
          (step image linkage model frame state).run.run world =
            (.error (.corruptCode fault offset), after) → LeftByCheck fault) ∧
      ∀ fuel world fault offset after,
        (run image linkage model frame fuel ⟨image.entry entryPoint, []⟩).run.run world =
          (.error (.corruptCode fault offset), after) → LeftByCheck fault := by
  have verified := Image.fault?_eq_none_iff.mp checked
  constructor
  · intro state world reached
    have inside := reaches_stays verified linked reached
    refine ⟨inside, fun fault offset after failed => ?_⟩
    have ensures : Ensures (step image linkage model frame state) (Stays image) Remaining :=
      step_ensures verified linked inside
    have outcome := ensures world
    rw [failed] at outcome
    exact outcome
  · intro fuel world fault offset after failed
    have ensures : Ensures (run image linkage model frame fuel ⟨image.entry entryPoint, []⟩)
        (fun _ => True) Remaining :=
      run_ensures verified linked fuel (.inl (verified.entries entryPoint))
    have outcome := ensures world
    rw [failed] at outcome
    exact outcome

theorem verified_runs_stay_counter :
    counterImage.fault? = none ∧
      ∃ linkage, (Linkage.ofImage counterModel counterImage).run 0 = (.ok linkage, 0) ∧
        ∀ entryPoint frame state world,
          Reaches ⟨counterImage, linkage, counterModel⟩ entryPoint frame state world →
            counterImage.IsStart state.offset ∨ state.offset = 152 := by
  have checked : counterImage.fault? = none := Image.fault?_eq_none_iff.mpr counter_verified
  obtain ⟨linkage, linked⟩ := counter_linked
  refine ⟨checked, linkage, linked, fun entryPoint frame state world reached => ?_⟩
  exact ((verified_runs_stay checked linked entryPoint frame).1 state world reached).1

end OrdinalDispatch.Machine

import OrdinalDispatch.Machine.Linkage

/-!
Contract: what a linkage holds once linking has succeeded.

Owns: the worlds that linking comes through, the answer of the model that each
linked member is, and that entries stand parallel to the constants.

Does not own: when linking succeeds.
-/

set_option autoImplicit false

namespace OrdinalDispatch.Machine.Linkage

variable {World : Type}

/-- The lists that linking asks for before all else. -/
def listing (model : TypeModel World) (classId : ClassId) : StateM World Listed := do
  return {
    constructors := (← model.constructors classId).toArray
    methods := (← model.methods classId).toArray
    fields := (← model.fields classId).toArray }

theorem ofImage_eq (model : TypeModel World) (image : Code.Image) :
    ofImage model image =
      listing model image.target >>= fun listed =>
        linkAll model image.target listed #[] image.constants.toList := rfl

/-- From a world on, linking comes to a place of the pool, with everything before it linked. -/
def Comes (model : TypeModel World) (image : Code.Image) (start : World) (place : Nat)
    (listed : Listed) (world : World) : Prop :=
  ∃ listedIn front,
    (listing model image.target).run start = (listed, listedIn) ∧
      (linkAll model image.target listed #[] (image.constants.toList.take place)).run listedIn =
        (.ok front, world)

variable {model : TypeModel World} {classId : ClassId} {listed : Listed}

/-- Linking a constant and then the others, taken apart. -/
theorem linkAll_cons {members : Array (LinkedMember World)} {constant : Code.Constant}
    {rest : List Code.Constant} {start finish : World} {linkage : Linkage World}
    (linked : (linkAll model classId listed members (constant :: rest)).run start =
      (.ok linkage, finish)) :
    ∃ member middle,
      (linkConstant model classId listed constant).run start = (.ok member, middle) ∧
      (linkAll model classId listed (members.push member) rest).run middle =
        (.ok linkage, finish) := by
  rw [linkAll, StateT.run_bind] at linked
  cases answered : (linkConstant model classId listed constant).run start with
  | mk answer middle =>
      rw [answered] at linked
      cases answer with
      | error fault => cases linked
      | ok member => exact ⟨member, middle, rfl, linked⟩

/-- Linked members stay where they are when more of them come behind. -/
theorem linkAll_keeps {members : Array (LinkedMember World)} {constants : List Code.Constant}
    {start finish : World} {linkage : Linkage World}
    (linked : (linkAll model classId listed members constants).run start = (.ok linkage, finish)) :
    linkage.members.size = members.size + constants.length ∧
      ∀ place < members.size, linkage.members[place]? = members[place]? := by
  induction constants generalizing members start with
  | nil =>
      obtain ⟨same, -⟩ := Prod.mk.inj linked
      obtain rfl := Except.ok.inj same
      exact ⟨rfl, fun _ _ => rfl⟩
  | cons constant rest inductionHypothesis =>
      obtain ⟨member, middle, -, following⟩ := linkAll_cons linked
      obtain ⟨size, keeps⟩ := inductionHypothesis following
      rw [Array.size_push] at size keeps
      refine ⟨by rw [size, List.length_cons]; omega, fun place below => ?_⟩
      rw [keeps place (by omega), Array.getElem?_push_lt below, Array.getElem?_eq_getElem below]

/-- The entry of a constant is what linking that constant answered, in the world that linking the
ones before it had led to. -/
theorem linkAll_at {members : Array (LinkedMember World)} {constants : List Code.Constant}
    {start finish : World} {linkage : Linkage World}
    (linked : (linkAll model classId listed members constants).run start = (.ok linkage, finish))
    {place : Nat} {constant : Code.Constant} (found : constants[place]? = some constant) :
    ∃ front before member after,
      (linkAll model classId listed members (constants.take place)).run start =
        (.ok front, before) ∧
      (linkConstant model classId listed constant).run before = (.ok member, after) ∧
      linkage.members[members.size + place]? = some member := by
  induction constants generalizing members start place with
  | nil => cases found
  | cons first rest inductionHypothesis =>
      obtain ⟨member, middle, isMember, following⟩ := linkAll_cons linked
      cases place with
      | zero =>
          obtain rfl := Option.some.inj found
          refine ⟨⟨members⟩, start, member, middle, rfl, isMember, ?_⟩
          rw [Nat.add_zero, (linkAll_keeps following).2 members.size (by simp)]
          exact Array.getElem?_push_size
      | succ place =>
          obtain ⟨front, before, other, after, ahead, isOther, entry⟩ :=
            inductionHypothesis following found
          refine ⟨front, before, other, after, ?_, isOther, ?_⟩
          · rw [List.take_succ_cons, linkAll, StateT.run_bind, isMember]
            exact ahead
          · rw [← entry, Array.size_push]
            exact congrArg (linkage.members[·]?) (by omega)

variable {image : Code.Image} {start finish : World} {linkage : Linkage World}

/-- Entries stand parallel to the constants. -/
theorem size_members (linked : (ofImage model image).run start = (.ok linkage, finish)) :
    linkage.members.size = image.constants.size := by
  rw [ofImage_eq, StateT.run_bind] at linked
  rw [(linkAll_keeps linked).1, Array.size_empty, Nat.zero_add, Array.length_toList]

theorem ofImage_at (linked : (ofImage model image).run start = (.ok linkage, finish))
    {place : Nat} {constant : Code.Constant} (found : image.constants[place]? = some constant) :
    ∃ listed before member after, Comes model image start place listed before ∧
      (linkConstant model image.target listed constant).run before = (.ok member, after) ∧
      linkage.members[place]? = some member := by
  rw [ofImage_eq, StateT.run_bind] at linked
  rw [← Array.getElem?_toList] at found
  obtain ⟨front, before, member, after, ahead, isMember, entry⟩ := linkAll_at linked found
  refine ⟨_, before, member, after, ⟨_, front, rfl, ahead⟩, isMember, ?_⟩
  rw [← entry, Array.size_empty, Nat.zero_add]

/-! ## The answers that members are linked from -/

section Answers

variable {ordinal : Nat} {before after : World} {member : LinkedMember World}

theorem linkConstructor_ok {parameters : List ValueType}
    (linked : (linkConstructor model classId listed ordinal parameters).run before =
      (.ok member, after)) :
    ∃ handle, (model.constructorHandle classId ordinal).run before = (some handle, after) ∧
      member = .constructor parameters.length handle := by
  unfold linkConstructor at linked
  split at linked
  · cases linked
  · split at linked
    · cases linked
    · rw [StateT.run_bind] at linked
      cases answered : (model.constructorHandle classId ordinal).run before with
      | mk answer world =>
          rw [answered] at linked
          cases answer with
          | none => cases linked
          | some handle =>
              obtain ⟨same, rfl⟩ := Prod.mk.inj linked
              exact ⟨handle, rfl, (Except.ok.inj same).symm⟩

/-- A linked method has the description that the model listed, which still has the signature it
was assembled with, and a handle unless it is called by its receiver's class. -/
theorem linkMethod_ok {name : String} {parameters : List ValueType} {returnType : ValueType}
    {kind : CallKind}
    (linked : (linkMethod model classId listed ordinal name parameters returnType kind).run before =
      (.ok member, after)) :
    ∃ current handle, listed.methods[ordinal]? = some current ∧
      (model.methodHandle classId ordinal).run before = (handle, after) ∧
      member = .method current handle ∧
      current.name = name ∧ current.parameters = parameters ∧ current.returnType = returnType ∧
      current.callKind = kind ∧ (kind = .static ∨ kind = .special → handle.isSome) := by
  unfold linkMethod at linked
  split at linked
  · cases linked
  · rename_i current isListed
    split at linked
    · cases linked
    · rename_i matching
      rw [StateT.run_bind] at linked
      cases answered : (model.methodHandle classId ordinal).run before with
      | mk handle world =>
          rw [answered] at linked
          simp only [not_or, ne_eq, Classical.not_not] at matching
          obtain ⟨sameName, sameParameters, sameReturn, sameKind⟩ := matching
          change StateT.run (if handle.isNone && (kind == .static || kind == .special)
            then _ else _) world = _ at linked
          split at linked
          · cases linked
          · rename_i missing
            obtain ⟨same, rfl⟩ := Prod.mk.inj linked
            refine ⟨current, handle, isListed, rfl, (Except.ok.inj same).symm, sameName,
              sameParameters, sameReturn, sameKind, ?_⟩
            intro direct
            simp only [Bool.and_eq_true, Bool.or_eq_true, beq_iff_eq, not_and] at missing
            cases handle with
            | none => exact absurd direct (missing rfl)
            | some handle => rfl

theorem linkField_ok {name : String} {valueType : ValueType} {isStatic : Bool}
    (linked : (linkField model classId listed ordinal name valueType isStatic).run before =
      (.ok member, after)) :
    ∃ handle, (model.fieldHandle classId ordinal).run before = (some handle, after) ∧
      member = .field handle := by
  unfold linkField at linked
  split at linked
  · cases linked
  · split at linked
    · cases linked
    · rw [StateT.run_bind] at linked
      cases answered : (model.fieldHandle classId ordinal).run before with
      | mk answer world =>
          rw [answered] at linked
          cases answer with
          | none => cases linked
          | some handle =>
              obtain ⟨same, rfl⟩ := Prod.mk.inj linked
              exact ⟨handle, rfl, (Except.ok.inj same).symm⟩

end Answers

end OrdinalDispatch.Machine.Linkage

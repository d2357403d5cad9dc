import OrdinalDispatch.Machine.Accessor
import OrdinalDispatch.Proofs.Machine.Linking
import OrdinalDispatch.Proofs.Machine.Outcomes

/-!
Contract: a call through a linked image runs nothing but its model.

Owns: computations that are put together from the answers of one model and the
members that it offers, and that the calls of an image linked to the model are
such computations.

Does not own: which accessor is linked to which model, see
`OrdinalDispatch.Proofs.Loader.ModelIsolation`.

A computation within a model has no other way to the world. What the model's own
answers and members leave alone, it leaves alone.
-/

set_option autoImplicit false

namespace OrdinalDispatch.Machine

open OrdinalDispatch.Code

variable {World Result Next : Type}

/-! ## What a model offers -/

namespace TypeModel

/-- A constructor's body that a model answered with. -/
inductive OffersConstructor (model : TypeModel World) (handle : ConstructorHandle World) :
    Prop where
  | declared {classId : ClassId} {ordinal : Nat} {start finish : World}
      (answer : (model.constructorHandle classId ordinal).run start = (some handle, finish)) :
      OffersConstructor model handle

/-- A method's body that a model answered with, declared or as an override. -/
inductive OffersMethod (model : TypeModel World) (body : MethodHandle World) : Prop where
  | declared {classId : ClassId} {ordinal : Nat} {start finish : World}
      (answer : (model.methodHandle classId ordinal).run start = (some body, finish)) :
      OffersMethod model body
  | override {runtimeClass : ClassId} {description : MethodDescription} {start finish : World}
      (answer : (model.resolveOverride runtimeClass description).run start =
        (some body, finish)) :
      OffersMethod model body

/-- The accesses to a field that a model answered with. -/
inductive OffersField (model : TypeModel World) (handle : FieldHandle World) : Prop where
  | declared {classId : ClassId} {ordinal : Nat} {start finish : World}
      (answer : (model.fieldHandle classId ordinal).run start = (some handle, finish)) :
      OffersField model handle

/-- A linked member that a model offers. -/
inductive Offers (model : TypeModel World) : LinkedMember World → Prop where
  | unlinked : Offers model .unlinked
  | constructor {arity : Nat} {handle : ConstructorHandle World}
      (offered : model.OffersConstructor handle) : Offers model (.constructor arity handle)
  | method {description : MethodDescription} {handle : Option (MethodHandle World)}
      (offered : ∀ body, handle = some body → model.OffersMethod body) :
      Offers model (.method description handle)
  | field {handle : FieldHandle World} (offered : model.OffersField handle) :
      Offers model (.field handle)

end TypeModel

/-- A linkage holds nothing but members that its model offers. -/
theorem offers_of_ofImage {model : TypeModel World} {image : Image} {start finish : World}
    {linkage : Linkage World}
    (linked : (Linkage.ofImage model image).run start = (.ok linkage, finish)) {index : UInt16}
    {member : LinkedMember World} (entry : linkage.member? index = some member) :
    model.Offers member := by
  have inRange : index.toNat < image.constants.size :=
    Linkage.size_members linked ▸ (Array.getElem?_eq_some_iff.mp entry).1
  obtain ⟨listed, before, other, after, -, isMember, isEntry⟩ :=
    Linkage.ofImage_at linked (Array.getElem?_eq_getElem inRange)
  obtain rfl := Option.some.inj (isEntry.symm.trans entry)
  cases named : image.constants[index.toNat] with
  | constructor ordinal parameters =>
      rw [named] at isMember
      obtain ⟨handle, answer, rfl⟩ := Linkage.linkConstructor_ok isMember
      exact .constructor (.declared answer)
  | method ordinal name parameters returnType kind =>
      rw [named] at isMember
      obtain ⟨current, handle, -, answer, rfl, -⟩ := Linkage.linkMethod_ok isMember
      exact .method fun body isBody => .declared (isBody ▸ answer)
  | field ordinal name valueType isStatic =>
      rw [named] at isMember
      obtain ⟨handle, answer, rfl⟩ := Linkage.linkField_ok isMember
      exact .field (.declared answer)
  | _ =>
      rw [named] at isMember
      cases isMember
      exact .unlinked

/-! ## Computations within a model -/

/-- A computation that is put together from the answers of a model and the members it offers. -/
inductive Within (model : TypeModel World) : {Answer : Type} → StateM World Answer → Prop where
  | pure {Answer : Type} (answer : Answer) : Within model (Pure.pure answer)
  | bind {Answer Following : Type} {first : StateM World Answer}
      {next : Answer → StateM World Following} (front : Within model first)
      (back : ∀ start answer finish, first.run start = (answer, finish) →
        Within model (next answer)) : Within model (first >>= next)
  | typeName (classId : ClassId) : Within model (model.typeName classId)
  | isAssignable (found target : ClassId) : Within model (model.isAssignable found target)
  | resolveOverride (runtimeClass : ClassId) (description : MethodDescription) :
      Within model (model.resolveOverride runtimeClass description)
  | construct {handle : ConstructorHandle World} (offered : model.OffersConstructor handle)
      (arguments : List Value) : Within model (handle arguments)
  | invoke {body : MethodHandle World} (offered : model.OffersMethod body) (receiver : Value)
      (arguments : List Value) : Within model (body receiver arguments)
  | read {handle : FieldHandle World} (offered : model.OffersField handle) (owner : Value) :
      Within model (handle.read owner)
  | write {handle : FieldHandle World} (offered : model.OffersField handle)
      (owner value : Value) : Within model (handle.write owner value)

/-- A property of the world that a model's answers and members all keep. -/
structure TypeModel.Keeps (model : TypeModel World) (invariant : World → Prop) : Prop where
  typeName : ∀ classId world, invariant world → invariant ((model.typeName classId).run world).2
  isAssignable : ∀ found target world, invariant world →
    invariant ((model.isAssignable found target).run world).2
  resolveOverride : ∀ runtimeClass description world, invariant world →
    invariant ((model.resolveOverride runtimeClass description).run world).2
  construct : ∀ handle, model.OffersConstructor handle → ∀ arguments world, invariant world →
    invariant ((handle arguments).run world).2
  invoke : ∀ body, model.OffersMethod body → ∀ receiver arguments world, invariant world →
    invariant ((body receiver arguments).run world).2
  read : ∀ handle, model.OffersField handle → ∀ owner world, invariant world →
    invariant ((handle.read owner).run world).2
  write : ∀ handle, model.OffersField handle → ∀ owner value world, invariant world →
    invariant ((handle.write owner value).run world).2

/-- What a model keeps, every computation within it keeps. -/
theorem Within.keeps {model : TypeModel World} {invariant : World → Prop}
    (keeps : model.Keeps invariant) {computation : StateM World Result}
    (within : Within model computation) (world : World) (holds : invariant world) :
    invariant (computation.run world).2 := by
  induction within generalizing world with
  | pure answer => exact holds
  | bind front back inductionHypothesis followingHypothesis =>
      exact followingHypothesis world _ _ rfl _ (inductionHypothesis world holds)
  | typeName classId => exact keeps.typeName classId world holds
  | isAssignable found target => exact keeps.isAssignable found target world holds
  | resolveOverride runtimeClass description =>
      exact keeps.resolveOverride runtimeClass description world holds
  | construct offered arguments => exact keeps.construct _ offered arguments world holds
  | invoke offered receiver arguments =>
      exact keeps.invoke _ offered receiver arguments world holds
  | read offered owner => exact keeps.read _ offered owner world holds
  | write offered owner value => exact keeps.write _ offered owner value world holds

/-! ## Calls within a model -/

/-- A call that stays within a model, and whose results are good. -/
structure Confined (model : TypeModel World) (call : Call World Result) (good : Result → Prop) :
    Prop where
  within : Within model call.run
  ensures : Ensures call good fun _ => True

namespace Confined

variable {model : TypeModel World} {good : Result → Prop}

theorem ofPure {result : Result} (isGood : good result) :
    Confined model (pure result : Call World Result) good :=
  ⟨.pure (Except.ok result), .ofPure isGood⟩

theorem ofThrow (error : AccessError) :
    Confined model (throw error : Call World Result) good :=
  ⟨.pure (Except.error error), .ofThrow trivial⟩

theorem bind {call : Call World Result} {next : Result → Call World Next}
    {between : Result → Prop} {last : Next → Prop} (front : Confined model call between)
    (back : ∀ result, between result → Confined model (next result) last) :
    Confined model (call >>= next) last where
  within := by
    rw [ExceptT.run_bind]
    refine .bind front.within fun start outcome finish answered => ?_
    cases outcome with
    | error error => exact .pure _
    | ok result =>
        have isGood := front.ensures start
        rw [answered] at isGood
        exact (back result isGood).within
  ensures := front.ensures.bind fun result isGood => (back result isGood).ensures

/-- A question to the model, with what is known of its answers. -/
theorem ofModel {question : StateM World Result} (within : Within model question)
    (answers : ∀ start answer finish, question.run start = (answer, finish) → good answer) :
    Confined model (liftM question : Call World Result) good where
  within := within.bind fun _ _ _ _ => .pure _
  ensures start := answers start _ _ rfl

/-- A conversion does not ask at all. -/
theorem ofExcept (conversion : Except AccessError Result) :
    Confined model (liftM conversion : Call World Result) (fun _ => True) := by
  cases conversion with
  | ok result => exact .ofPure trivial
  | error error => exact .ofThrow error

end Confined

section Parts

variable {model : TypeModel World} {stack : List Value} {offset : Nat}

theorem confined_popOne :
    Confined model (popOne stack offset : Call World (Value × List Value)) fun _ => True := by
  cases stack with
  | nil => exact .ofThrow _
  | cons top rest => exact .ofPure trivial

theorem confined_popMany (count : Nat) :
    Confined model (popMany stack count offset : Call World (List Value × List Value))
      fun _ => True := by
  unfold popMany
  split
  · exact .ofPure trivial
  · exact .ofThrow _

theorem confined_illegal (image : Image) (message : UInt16) {good : Result → Prop} :
    Confined model (illegal image message offset : Call World Result) good := by
  unfold illegal
  split
  · exact .ofThrow _
  · exact .ofThrow _

theorem confined_nonNull (receiver : Value) :
    Confined model (nonNull receiver : Call World Value) fun _ => True := by
  unfold nonNull
  split
  · exact .ofThrow _
  · exact .ofPure trivial

theorem confined_ofMember {outcome : StateM World (Except String Result)}
    (within : Within model outcome) : Confined model (ofMember outcome) fun _ => True := by
  refine (Confined.ofModel within fun _ _ _ _ => trivial).bind fun result _ => ?_
  cases result with
  | ok result => exact .ofPure trivial
  | error failure => exact .ofThrow _

theorem confined_checkCast (value : Value) (target : ClassId) :
    Confined model (checkCast model value target) fun _ => True := by
  have decided : ∀ assignable : Bool,
      Confined model (if assignable = true then pure () else
        (liftM (model.typeName target) : Call World (Option String)) >>= fun name =>
          throw (.classCast value.typeLabel (name.getD target.text))) fun _ => True := by
    intro assignable
    cases assignable with
    | true => exact .ofPure trivial
    | false =>
        exact (Confined.ofModel (.typeName target) fun _ _ _ _ => trivial).bind
          fun name _ => .ofThrow _
  unfold checkCast
  by_cases isNull : value.isNull = true
  · rw [if_pos isNull]
    exact .ofPure trivial
  · rw [if_neg isNull]
    cases value.class? with
    | none => exact decided false
    | some found =>
        by_cases same : found = target
        · simp only [if_pos same]
          exact decided true
        · simp only [if_neg same]
          exact (Confined.ofModel (.isAssignable found target) fun _ _ _ _ => trivial).bind
            fun assignable _ => decided assignable

section Bodies

variable {handle : Option (MethodHandle World)}
  (offered : ∀ body, handle = some body → model.OffersMethod body)
include offered

theorem confined_declaredBody (description : MethodDescription) (receiver : Value) :
    Confined model (declaredBody description handle receiver) model.OffersMethod := by
  cases handle with
  | none => exact .ofThrow _
  | some body => exact .ofPure (offered body rfl)

theorem confined_dispatchedBody (target : ClassId) (description : MethodDescription)
    (receiver : Value) :
    Confined model (dispatchedBody model target description handle receiver)
      model.OffersMethod := by
  have declared := confined_declaredBody offered description receiver
  -- an override runs only if the model answers with it
  have resolved (runtimeClass : ClassId) :
      Confined model (liftM (model.resolveOverride runtimeClass description) : Call World _)
        fun override => ∀ body, override = some body → model.OffersMethod body := by
    refine .ofModel (.resolveOverride runtimeClass description) ?_
    rintro start _ finish answered body rfl
    exact .override answered
  unfold dispatchedBody
  cases receiver.class? with
  | none => exact declared
  | some runtimeClass =>
      dsimp only
      split
      · refine (resolved runtimeClass).bind fun override isOffered => ?_
        cases override with
        | none => exact declared
        | some body => exact .ofPure (isOffered body rfl)
      · exact declared

end Bodies

end Parts

section Steps

variable {image : Image} {linkage : Linkage World} {model : TypeModel World} {frame : Frame}
  {stack : List Value} {offset behind : Nat}
  (offers : ∀ index member, linkage.member? index = some member → model.Offers member)
include offers

theorem confined_call (kind : CallKind) (index : UInt16) :
    Confined model (call image linkage model stack offset kind index) fun _ => True := by
  unfold call
  split
  · rename_i description handle entry
    have offered : ∀ body, handle = some body → model.OffersMethod body := by
      cases offers index _ entry with
      | method offered => exact offered
    refine (confined_popMany _).bind fun ⟨arguments, stack⟩ _ => ?_
    have runs (receiver : Value) (body : MethodHandle World)
        (isOffered : model.OffersMethod body) (rest : List Value) :
        Confined model (ofMember (body receiver arguments) >>= fun result =>
          (pure (result, rest) : Call World (Value × List Value))) fun _ => True :=
      (confined_ofMember (.invoke isOffered receiver arguments)).bind fun result _ =>
        .ofPure trivial
    dsimp only
    by_cases isStatic : kind = .static
    · rw [if_pos isStatic]
      exact (confined_declaredBody offered description .null).bind fun body isOffered =>
        runs .null body isOffered stack
    · rw [if_neg isStatic]
      refine confined_popOne.bind fun ⟨receiver, stack⟩ _ =>
        (confined_nonNull receiver).bind fun owner _ => ?_
      by_cases special : kind = .special
      · simp only [if_pos special]
        exact (confined_declaredBody offered description owner).bind fun body isOffered =>
          runs owner body isOffered stack
      · simp only [if_neg special]
        exact (confined_dispatchedBody offered image.target description owner).bind
          fun body isOffered => runs owner body isOffered stack
  · exact .ofThrow _

theorem confined_fieldHandle (index : UInt16) :
    Confined model (fieldHandle linkage index offset) model.OffersField := by
  unfold fieldHandle
  split
  · rename_i handle entry
    cases offers index _ entry with
    | field offered => exact .ofPure offered
  · exact .ofThrow _

omit offers in
theorem confined_fieldOwner (isStatic : Bool) :
    Confined model (fieldOwner isStatic stack offset : Call World (Value × List Value))
      fun _ => True := by
  unfold fieldOwner
  split
  · exact .ofPure trivial
  · exact confined_popOne.bind fun popped _ =>
      (confined_nonNull popped.1).bind fun owner _ => .ofPure trivial

/-- An instruction stays within the model. -/
theorem confined_execute (instruction : Instruction UInt32) :
    Confined model (execute image linkage model frame stack offset behind instruction)
      fun _ => True := by
  cases instruction with
  | checkArguments message =>
      unfold execute
      dsimp only
      split
      · exact confined_illegal image message
      · exact .ofPure trivial
  | checkBounds count message =>
      unfold execute
      dsimp only
      split
      · exact .ofPure trivial
      · exact confined_illegal image message
  | checkArity table message =>
      unfold execute
      dsimp only
      split
      · split
        · split
          · exact .ofPure trivial
          · exact confined_illegal image message
        · exact .ofThrow _
      · exact .ofThrow _
  | tableSwitch fallback targets => exact .ofPure trivial
  | throwIllegal message => exact confined_illegal image message
  | throwNoDefault => exact .ofThrow _
  | loadReceiver => exact .ofPure trivial
  | loadArgument index =>
      unfold execute
      dsimp only
      split
      · exact .ofPure trivial
      · exact .ofThrow _
  | loadValue => exact .ofPure trivial
  | constNull => exact .ofPure trivial
  | pop => exact confined_popOne.bind fun popped _ => .ofPure trivial
  | unbox kind =>
      exact confined_popOne.bind fun popped _ =>
        (Confined.ofExcept (popped.1.unbox kind)).bind fun converted _ => .ofPure trivial
  | box kind =>
      exact confined_popOne.bind fun popped _ =>
        (Confined.ofExcept (popped.1.boxed kind)).bind fun checked _ => .ofPure trivial
  | checkCast index =>
      unfold execute
      dsimp only
      split
      · rename_i target named
        cases stack with
        | nil => exact .ofThrow _
        | cons top rest =>
            exact (confined_checkCast top target).bind fun _ _ => .ofPure trivial
      · exact .ofThrow _
  | construct index =>
      unfold execute
      dsimp only
      split
      · rename_i arity handle entry
        cases offers index _ entry with
        | constructor offered =>
            exact (confined_popMany arity).bind fun popped _ =>
              (confined_ofMember (.construct offered popped.1)).bind fun made _ =>
                .ofPure trivial
      · exact .ofThrow _
  | invoke kind index =>
      exact (confined_call offers kind index).bind fun answered _ => .ofPure trivial
  | getField isStatic index =>
      exact (confined_fieldHandle offers index).bind fun handle offered =>
        (confined_fieldOwner isStatic).bind fun owned _ =>
          (confined_ofMember (.read offered owned.1)).bind fun result _ => .ofPure trivial
  | putField isStatic index =>
      exact (confined_fieldHandle offers index).bind fun handle offered =>
        confined_popOne.bind fun popped _ => (confined_fieldOwner isStatic).bind fun owned _ =>
          (confined_ofMember (.write offered owned.1 popped.1)).bind fun _ _ => .ofPure trivial
  | returnTop => exact confined_popOne.bind fun popped _ => .ofPure trivial
  | returnNull => exact .ofPure trivial

theorem confined_step (state : State) :
    Confined model (step image linkage model frame state) fun _ => True := by
  unfold step
  split
  · exact .ofThrow _
  · split
    · exact .ofThrow _
    · split
      · exact .ofThrow _
      · exact confined_execute offers _

/-- A run of any length stays within the model. -/
theorem confined_run (fuel : Nat) (state : State) :
    Confined model (run image linkage model frame fuel state) fun _ => True := by
  induction fuel generalizing state with
  | zero => exact .ofPure trivial
  | succ fuel inductionHypothesis =>
      refine (confined_step offers state).bind fun progress _ => ?_
      cases progress with
      | answer value => exact .ofPure trivial
      | next state => exact inductionHypothesis state

end Steps

/-! ## The calls of an accessor -/

/-- The calls through a linked image, one for each operation and its inputs. -/
inductive LinkedImage.Calls (linked : LinkedImage World) :
    {Answer : Type} → Call World Answer → Prop where
  | newDefault : Calls linked linked.newDefault
  | newInstance (selector : Int32) (arguments : Option (List Value)) :
      Calls linked (linked.newInstance selector arguments)
  | invoke (receiver : Value) (selector : Int32) (arguments : Option (List Value)) :
      Calls linked (linked.invoke receiver selector arguments)
  | getField (receiver : Value) (selector : Int32) :
      Calls linked (linked.getField receiver selector)
  | setField (receiver : Value) (selector : Int32) (value : Value) :
      Calls linked (linked.setField receiver selector value)

section Accessor

variable {model : TypeModel World} {image : Image} {linkage : Linkage World}
  {start finish : World} (linked : (Linkage.ofImage model image).run start = (.ok linkage, finish))
include linked

theorem confined_enter (entryPoint : EntryPoint) (frame : Frame) :
    Confined model (LinkedImage.enter ⟨image, linkage, model⟩ entryPoint frame) fun _ => True :=
  confined_run (fun _ _ => offers_of_ofImage linked) _ _

theorem confined_constructAt (entryPoint : EntryPoint) (frame : Frame) :
    Confined model (LinkedImage.constructAt ⟨image, linkage, model⟩ entryPoint frame)
      fun _ => True := by
  refine (confined_enter linked entryPoint frame).bind fun answer _ => ?_
  cases answer with
  | none => exact .ofPure trivial
  | some value =>
      cases value with
      | object reference => exact .ofPure trivial
      | _ => exact .ofThrow _

/-- The calls through an image that is linked to a model stay within this model. -/
theorem LinkedImage.Calls.within {Answer : Type} {call : Call World Answer}
    (calls : LinkedImage.Calls ⟨image, linkage, model⟩ call) : Within model call.run := by
  cases calls with
  | newDefault => exact (confined_constructAt linked _ _).within
  | newInstance selector arguments => exact (confined_constructAt linked _ _).within
  | invoke receiver selector arguments => exact (confined_enter linked _ _).within
  | getField receiver selector => exact (confined_enter linked _ _).within
  | setField receiver selector value =>
      have answered := (confined_enter linked .setField
        { receiver, selector, value := some value }).bind fun answer _ =>
          (Confined.ofPure trivial :
            Confined model (pure (answer.map fun _ => ())) fun _ => True)
      exact answered.within

end Accessor

end OrdinalDispatch.Machine

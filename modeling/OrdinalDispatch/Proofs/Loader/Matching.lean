import OrdinalDispatch.Proofs.Code.PoolSize
import OrdinalDispatch.Proofs.Loader.Building
import OrdinalDispatch.Proofs.Loader.SettledAnswers
import OrdinalDispatch.Proofs.Machine.Handles

/-!
Contract: when an image links to a model, and what linking asks the model for.

Owns: the members that a model answers with, which constants match them, what
each constant is linked to or rejected with, and the handles that are requested
on the way.

Does not own: models whose answers change while an image is linked.

A world has seen everything that was asked in it. So the world that linking
leaves tells which handles were requested, how often, and in which order.
-/

set_option autoImplicit false

namespace OrdinalDispatch.Loader

open Code Code.Dispatcher
open Machine (TypeModel ConstructorHandle MethodHandle FieldHandle LinkedMember Linkage)
open Machine.GivenMembers (toNat_ordinal)
open Machine.Linkage (Listed listing linkConstant linkConstructor linkMethod linkField linkAll
  ofImage ofImage_eq)

/-! ## Answers -/

/-- What a model answers about the members of a class. -/
structure Answers (World : Type) where
  constructors : List ConstructorDescription
  methods : List MethodDescription
  fields : List FieldDescription
  constructorHandle : Nat → Option (ConstructorHandle World)
  methodHandle : Nat → Option (MethodHandle World)
  fieldHandle : Nat → Option (FieldHandle World)

/-- A request for the handle of a member. -/
inductive HandleRequest where
  | constructor (ordinal : Nat)
  | method (ordinal : Nat)
  | field (ordinal : Nat)
deriving DecidableEq, Repr

/-- The handle that a constant is linked to, if it refers to a member. -/
def request? : Constant → Option HandleRequest
  | .constructor ordinal _ => some (.constructor ordinal.toNat)
  | .method ordinal _ _ _ _ => some (.method ordinal.toNat)
  | .field ordinal _ _ _ => some (.field ordinal.toNat)
  | _ => none

/-- What is reported of a member without a handle. -/
def withoutHandle? : Constant → Option LinkFault
  | .constructor ordinal _ => some (.constructorWithoutHandle ordinal.toNat)
  | .method ordinal name _ _ _ => some (.methodWithoutHandle ordinal.toNat name)
  | .field ordinal name _ _ => some (.fieldWithoutHandle ordinal.toNat name)
  | _ => none

namespace Answers

variable {World : Type}

/-- The answers that a model gives in a world. -/
def of (model : TypeModel World) (classId : ClassId) (world : World) : Answers World where
  constructors := ((model.constructors classId).run world).1
  methods := ((model.methods classId).run world).1
  fields := ((model.fields classId).run world).1
  constructorHandle ordinal := ((model.constructorHandle classId ordinal).run world).1
  methodHandle ordinal := ((model.methodHandle classId ordinal).run world).1
  fieldHandle ordinal := ((model.fieldHandle classId ordinal).run world).1

variable (answers : Answers World)

/-- The lists among the answers. -/
def listed : Listed :=
  ⟨answers.constructors.toArray, answers.methods.toArray, answers.fields.toArray⟩

/-- The member at the ordinal of a constant still has the signature that the constant records. -/
def Matches : Constant → Prop
  | .constructor ordinal parameters =>
      ∃ current, answers.constructors[ordinal.toNat]? = some current ∧
        current.parameters = parameters
  | .method ordinal name parameters returnType kind =>
      ∃ current, answers.methods[ordinal.toNat]? = some current ∧ current.name = name ∧
        current.parameters = parameters ∧ current.returnType = returnType ∧
        current.callKind = kind
  | .field ordinal name valueType isStatic =>
      ∃ current, answers.fields[ordinal.toNat]? = some current ∧ current.name = name ∧
        current.valueType = valueType ∧ current.modifiers.isStatic = isStatic
  | _ => True

/-- There is a handle, unless the constant needs none: methods that are called by their receiver's
class may be abstract. -/
def Serves : Constant → Prop
  | .constructor ordinal _ => (answers.constructorHandle ordinal.toNat).isSome
  | .method ordinal _ _ _ kind =>
      kind = .virtual ∨ kind = .interface ∨ (answers.methodHandle ordinal.toNat).isSome
  | .field ordinal _ _ _ => (answers.fieldHandle ordinal.toNat).isSome
  | _ => True

/-- What a constant is linked to: the handle of its own ordinal and family. -/
inductive LinksTo : Constant → LinkedMember World → Prop where
  | constructor {ordinal : UInt32} {parameters : List ValueType} {handle : ConstructorHandle World}
      (given : answers.constructorHandle ordinal.toNat = some handle) :
      LinksTo (.constructor ordinal parameters) (.constructor parameters.length handle)
  | method {ordinal : UInt32} {name : String} {parameters : List ValueType}
      {returnType : ValueType} {kind : CallKind} {current : MethodDescription}
      (found : answers.methods[ordinal.toNat]? = some current) :
      LinksTo (.method ordinal name parameters returnType kind)
        (.method current (answers.methodHandle ordinal.toNat))
  | field {ordinal : UInt32} {name : String} {valueType : ValueType} {isStatic : Bool}
      {handle : FieldHandle World} (given : answers.fieldHandle ordinal.toNat = some handle) :
      LinksTo (.field ordinal name valueType isStatic) (.field handle)
  | unlinked {constant : Constant} (plain : request? constant = none) : LinksTo constant .unlinked

/-- What is reported of a constant that does not match. -/
inductive Drifted : Constant → LinkFault → Prop where
  | constructorGone {ordinal : UInt32} {parameters : List ValueType}
      (gone : answers.constructors[ordinal.toNat]? = none) :
      Drifted (.constructor ordinal parameters) (.constructorGone ordinal.toNat)
  | constructorChanged {ordinal : UInt32} {parameters : List ValueType}
      {current : ConstructorDescription}
      (found : answers.constructors[ordinal.toNat]? = some current) :
      Drifted (.constructor ordinal parameters)
        (.constructorChanged ordinal.toNat parameters current.parameters)
  | methodGone {ordinal : UInt32} {name : String} {parameters : List ValueType}
      {returnType : ValueType} {kind : CallKind} (gone : answers.methods[ordinal.toNat]? = none) :
      Drifted (.method ordinal name parameters returnType kind) (.methodGone ordinal.toNat)
  | methodChanged {ordinal : UInt32} {name : String} {parameters : List ValueType}
      {returnType : ValueType} {kind : CallKind} {current : MethodDescription}
      (found : answers.methods[ordinal.toNat]? = some current) :
      Drifted (.method ordinal name parameters returnType kind)
        (.methodChanged ordinal.toNat name parameters current.name current.parameters)
  | fieldGone {ordinal : UInt32} {name : String} {valueType : ValueType} {isStatic : Bool}
      (gone : answers.fields[ordinal.toNat]? = none) :
      Drifted (.field ordinal name valueType isStatic) (.fieldGone ordinal.toNat)
  | fieldChanged {ordinal : UInt32} {name : String} {valueType : ValueType} {isStatic : Bool}
      {current : FieldDescription} (found : answers.fields[ordinal.toNat]? = some current) :
      Drifted (.field ordinal name valueType isStatic) (.fieldChanged ordinal.toNat name)

/-- What linking a constant comes to, with the handles that it requests: none if the constant does
not match, and else its own. -/
inductive Resolves (constant : Constant) :
    Except LinkFault (LinkedMember World) → List HandleRequest → Prop where
  | linked {member : LinkedMember World} (here : answers.Matches constant)
      (served : answers.Serves constant) (links : answers.LinksTo constant member) :
      Resolves constant (.ok member) (request? constant).toList
  | drifted {fault : LinkFault} (changed : ¬answers.Matches constant)
      (reported : answers.Drifted constant fault) : Resolves constant (.error fault) []
  | withoutHandle {fault : LinkFault} (here : answers.Matches constant)
      (missing : ¬answers.Serves constant) (reported : withoutHandle? constant = some fault) :
      Resolves constant (.error fault) (request? constant).toList

/-- How linking a pool ends, with the handles that it requests: every constant is linked, or a first
one is not. -/
inductive Ends (constants : List Constant) :
    Except LinkFault (List (LinkedMember World)) → List HandleRequest → Prop where
  | linked {members : List (LinkedMember World)}
      (each : ∀ constant ∈ constants, answers.Matches constant ∧ answers.Serves constant)
      (links : List.Forall₂ answers.LinksTo constants members) :
      Ends constants (.ok members) (constants.filterMap request?)
  | stopped {front back : List Constant} {constant : Constant} {fault : LinkFault}
      {requests : List HandleRequest} (pool : constants = front ++ constant :: back)
      (each : ∀ other ∈ front, answers.Matches other ∧ answers.Serves other)
      (failed : answers.Resolves constant (.error fault) requests) :
      Ends constants (.error fault) (front.filterMap request? ++ requests)

variable {answers}

theorem Resolves.not_both {constant : Constant} {fault : LinkFault} {requests : List HandleRequest}
    (failed : answers.Resolves constant (.error fault) requests) :
    ¬(answers.Matches constant ∧ answers.Serves constant) := by
  rintro ⟨here, served⟩
  cases failed with
  | drifted changed _ => exact changed here
  | withoutHandle _ missing _ => exact missing served

theorem Ends.nil : answers.Ends [] (.ok []) [] := .linked nofun .nil

/-- A constant that is linked stands ahead of however the rest ends. -/
theorem Ends.cons {constant : Constant} {member : LinkedMember World} {rest : List Constant}
    {requests more : List HandleRequest} {outcome : Except LinkFault (List (LinkedMember World))}
    (first : answers.Resolves constant (.ok member) requests)
    (ends : answers.Ends rest outcome more) :
    answers.Ends (constant :: rest) (outcome.map (member :: ·)) (requests ++ more) := by
  cases first with
  | linked here served links =>
      have own : ∀ others : List Constant,
          (request? constant).toList ++ others.filterMap request? =
            (constant :: others).filterMap request? := by
        intro others
        cases isRequest : request? constant <;> simp [isRequest]
      have both {others : List Constant}
          (each : ∀ other ∈ others, answers.Matches other ∧ answers.Serves other) :
          ∀ other ∈ constant :: others, answers.Matches other ∧ answers.Serves other :=
        List.forall_mem_cons.mpr ⟨⟨here, served⟩, each⟩
      cases ends with
      | linked each others =>
          rw [own]
          exact .linked (both each) (.cons links others)
      | stopped pool each failed =>
          rw [← List.append_assoc, own]
          exact .stopped (by rw [pool]; rfl) (both each) failed

end Answers

/-- The world behind a request for a handle. -/
def requested {World : Type} (model : TypeModel World) (classId : ClassId) (world : World) :
    HandleRequest → World
  | .constructor ordinal => ((model.constructorHandle classId ordinal).run world).2
  | .method ordinal => ((model.methodHandle classId ordinal).run world).2
  | .field ordinal => ((model.fieldHandle classId ordinal).run world).2

/-- The world behind the lists of a class and some requests for handles. -/
def worldBehind {World : Type} (model : TypeModel World) (classId : ClassId) (start : World)
    (requests : List HandleRequest) : World :=
  requests.foldl (requested model classId) ((listing model classId).run start).2

/-! ## Linking a constant -/

section Steps

variable {World : Type} (model : TypeModel World) (classId : ClassId) (world : World)

/-- A question comes to what the answers of the model resolve a constant to. -/
def Resolved (constant : Constant)
    (question : StateM World (Except LinkFault (LinkedMember World))) : Prop :=
  ∃ outcome requests,
    question.run world = (outcome, requests.foldl (requested model classId) world) ∧
      (Answers.of model classId world).Resolves constant outcome requests

variable {model classId world}

theorem Resolved.ofDrifted {constant : Constant} {fault : LinkFault}
    (changed : ¬(Answers.of model classId world).Matches constant)
    (reported : (Answers.of model classId world).Drifted constant fault) :
    Resolved model classId world constant (pure (.error fault)) :=
  ⟨_, [], rfl, .drifted changed reported⟩

/-- Where a handle is requested, the rest depends on the answer only. -/
theorem Resolved.ofHandle {Handle : Type} {constant : Constant} {request : HandleRequest}
    {question : StateM World (Option Handle)} {given : Option Handle}
    {next : Option Handle → StateM World (Except LinkFault (LinkedMember World))}
    {outcome : Except LinkFault (LinkedMember World)}
    (leads : (question.run world).2 = requested model classId world request)
    (isGiven : (question.run world).1 = given) (comes : next given = pure outcome)
    (resolves : (Answers.of model classId world).Resolves constant outcome [request]) :
    Resolved model classId world constant (question >>= next) := by
  refine ⟨outcome, [request], ?_, resolves⟩
  show (next (question.run world).1).run (question.run world).2 = _
  rw [isGiven, comes, leads]
  rfl

section Families

variable {ordinal : UInt32}

theorem linkConstructor_resolved (parameters : List ValueType) :
    Resolved model classId world (.constructor ordinal parameters)
      (linkConstructor model classId (Answers.of model classId world).listed ordinal.toNat
        parameters) := by
  unfold linkConstructor
  rw [Answers.listed, List.getElem?_toArray]
  cases found : (Answers.of model classId world).constructors[ordinal.toNat]? with
  | none => exact .ofDrifted (by simp [Answers.Matches, found]) (.constructorGone found)
  | some current =>
      have here : (Answers.of model classId world).Matches (.constructor ordinal parameters) ↔
          current.parameters = parameters := by
        simp [Answers.Matches, found]
      by_cases same : current.parameters = parameters
      · simp only [if_neg (not_not.mpr same)]
        cases given : (Answers.of model classId world).constructorHandle ordinal.toNat with
        | none =>
            exact .ofHandle rfl given rfl
              (.withoutHandle (here.mpr same) (by simp [Answers.Serves, given]) rfl)
        | some handle =>
            exact .ofHandle rfl given rfl
              (.linked (here.mpr same) (by simp [Answers.Serves, given]) (.constructor given))
      · simp only [if_pos same]
        exact .ofDrifted (here.not.mpr same) (.constructorChanged found)

theorem linkMethod_resolved (name : String) (parameters : List ValueType)
    (returnType : ValueType) (kind : CallKind) :
    Resolved model classId world (.method ordinal name parameters returnType kind)
      (linkMethod model classId (Answers.of model classId world).listed ordinal.toNat name
        parameters returnType kind) := by
  unfold linkMethod
  rw [Answers.listed, List.getElem?_toArray]
  cases found : (Answers.of model classId world).methods[ordinal.toNat]? with
  | none => exact .ofDrifted (by simp [Answers.Matches, found]) (.methodGone found)
  | some current =>
      have here : (Answers.of model classId world).Matches
          (.method ordinal name parameters returnType kind) ↔
            ¬(current.name ≠ name ∨ current.parameters ≠ parameters ∨
              current.returnType ≠ returnType ∨ current.callKind ≠ kind) := by
        simp [Answers.Matches, found]
      by_cases changed : current.name ≠ name ∨ current.parameters ≠ parameters ∨
          current.returnType ≠ returnType ∨ current.callKind ≠ kind
      · simp only [if_pos changed]
        exact .ofDrifted (here.not_left.mpr changed) (.methodChanged found)
      · simp only [if_neg changed]
        cases given : (Answers.of model classId world).methodHandle ordinal.toNat with
        | none =>
            cases kind with
            | static | special =>
                exact .ofHandle rfl given rfl
                  (.withoutHandle (here.mpr changed) (by simp [Answers.Serves, given]) rfl)
            | virtual | interface =>
                exact .ofHandle rfl given rfl
                  (.linked (here.mpr changed) (by simp [Answers.Serves]) (given ▸ .method found))
        | some handle =>
            exact .ofHandle rfl given rfl
              (.linked (here.mpr changed) (by simp [Answers.Serves, given]) (given ▸ .method found))

theorem linkField_resolved (name : String) (valueType : ValueType) (isStatic : Bool) :
    Resolved model classId world (.field ordinal name valueType isStatic)
      (linkField model classId (Answers.of model classId world).listed ordinal.toNat name valueType
        isStatic) := by
  unfold linkField
  rw [Answers.listed, List.getElem?_toArray]
  cases found : (Answers.of model classId world).fields[ordinal.toNat]? with
  | none => exact .ofDrifted (by simp [Answers.Matches, found]) (.fieldGone found)
  | some current =>
      have here : (Answers.of model classId world).Matches
          (.field ordinal name valueType isStatic) ↔
            ¬(current.name ≠ name ∨ current.valueType ≠ valueType ∨
              current.modifiers.isStatic ≠ isStatic) := by
        simp [Answers.Matches, found]
      by_cases changed : current.name ≠ name ∨ current.valueType ≠ valueType ∨
          current.modifiers.isStatic ≠ isStatic
      · simp only [if_pos changed]
        exact .ofDrifted (here.not_left.mpr changed) (.fieldChanged found)
      · simp only [if_neg changed]
        cases given : (Answers.of model classId world).fieldHandle ordinal.toNat with
        | none =>
            exact .ofHandle rfl given rfl
              (.withoutHandle (here.mpr changed) (by simp [Answers.Serves, given]) rfl)
        | some handle =>
            exact .ofHandle rfl given rfl
              (.linked (here.mpr changed) (by simp [Answers.Serves, given]) (.field given))

/-- Every constant is resolved by the answers to its own family. -/
theorem linkConstant_resolved (constant : Constant) :
    Resolved model classId world constant
      (linkConstant model classId (Answers.of model classId world).listed constant) := by
  cases constant with
  | constructor ordinal parameters => exact linkConstructor_resolved parameters
  | method ordinal name parameters returnType kind =>
      exact linkMethod_resolved name parameters returnType kind
  | field ordinal name valueType isStatic => exact linkField_resolved name valueType isStatic
  | _ => exact ⟨_, [], rfl, .linked trivial trivial (.unlinked rfl)⟩

end Families

end Steps

/-! ## Linking in order -/

section Runs

variable {World : Type} {steady : World → Prop} {model : TypeModel World}
  (settled : SettledModel steady model) {start world : World} {classId : ClassId}
include settled

theorem steady_requested (holds : steady world) (requests : List HandleRequest) :
    steady (requests.foldl (requested model classId) world) := by
  induction requests generalizing world with
  | nil => exact holds
  | cons request rest inductionHypothesis =>
      rw [List.foldl_cons]
      apply inductionHypothesis
      cases request with
      | constructor ordinal => exact (settled.constructorHandle classId ordinal).keeps world holds
      | method ordinal => exact (settled.methodHandle classId ordinal).keeps world holds
      | field ordinal => exact (settled.fieldHandle classId ordinal).keeps world holds

variable (begins : steady start) (holds : steady world)
include begins holds

/-- Whatever was requested so far, the answers are the same. -/
theorem answers_eq : Answers.of model classId world = Answers.of model classId start := by
  simp only [Answers.of, Answers.mk.injEq]
  refine ⟨?_, ?_, ?_, ?_, ?_, ?_⟩
  · exact (settled.constructors classId).alike world start holds begins
  · exact (settled.methods classId).alike world start holds begins
  · exact (settled.fields classId).alike world start holds begins
  · exact funext fun ordinal =>
      (settled.constructorHandle classId ordinal).alike world start holds begins
  · exact funext fun ordinal =>
      (settled.methodHandle classId ordinal).alike world start holds begins
  · exact funext fun ordinal => (settled.fieldHandle classId ordinal).alike world start holds begins

/-- Constants are linked one by one, each by the same answers. -/
theorem linkAll_ends (members : Array (LinkedMember World)) (constants : List Constant) :
    ∃ outcome requests,
      (linkAll model classId (Answers.of model classId start).listed members constants).run world =
        (outcome.map fun added => ⟨members ++ added.toArray⟩,
          requests.foldl (requested model classId) world) ∧
      (Answers.of model classId start).Ends constants outcome requests := by
  induction constants generalizing members world with
  | nil => exact ⟨.ok [], [], by simp [linkAll, Except.map]; rfl, .nil⟩
  | cons constant rest inductionHypothesis =>
      obtain ⟨resolved, requests, linked, resolves⟩ :=
        @linkConstant_resolved _ model classId world constant
      rw [answers_eq settled begins holds] at linked resolves
      rw [linkAll, StateT.run_bind, linked]
      cases resolved with
      | error fault =>
          have pool : constant :: rest = [] ++ constant :: rest := rfl
          exact ⟨.error fault, _, rfl, .stopped pool (List.forall_mem_nil _) resolves⟩
      | ok member =>
          obtain ⟨outcome, more, others, ends⟩ :=
            inductionHypothesis (steady_requested settled holds requests) (members.push member)
          refine ⟨_, _, ?_, .cons resolves ends⟩
          rw [List.foldl_append]
          refine others.trans ?_
          cases outcome <;> simp [Except.map]

omit holds in
/-- The lists are those among the answers. -/
theorem listing_listed :
    ((listing model classId).run start).1 = (Answers.of model classId start).listed ∧
      steady ((listing model classId).run start).2 := by
  have constructors := (settled.constructors classId).keeps start begins
  have methods := (settled.methods classId).keeps _ constructors
  have sameMethods := (settled.methods classId).alike _ start constructors begins
  have sameFields := (settled.fields classId).alike _ start methods begins
  refine ⟨?_, (settled.fields classId).keeps _ methods⟩
  exact congr (congrArg (Listed.mk _) (congrArg List.toArray sameMethods))
    (congrArg List.toArray sameFields)

omit holds in
/-- An image is linked behind the lists, constant by constant. -/
theorem ofImage_ends (image : Image) :
    ∃ outcome requests,
      (ofImage model image).run start =
        (outcome.map fun members => ⟨members.toArray⟩,
          worldBehind model image.target start requests) ∧
      (Answers.of model image.target start).Ends image.constants.toList outcome requests := by
  obtain ⟨same, kept⟩ := @listing_listed _ _ _ settled _ image.target begins
  obtain ⟨outcome, requests, linked, ends⟩ :=
    linkAll_ends settled begins kept #[] image.constants.toList
  refine ⟨outcome, requests, ?_, ends⟩
  rw [ofImage_eq]
  show (linkAll model image.target ((listing model image.target).run start).1 #[] _).run
    ((listing model image.target).run start).2 = _
  rw [same, linked, worldBehind]
  simp

end Runs

/-! ## Images of descriptions -/

/-- A request for the handle of each member of a description. -/
def memberRequests (description : TypeDescription) : List HandleRequest :=
  (List.range description.constructors.length).map .constructor ++
    ((List.range description.methods.length).map .method ++
      (List.range description.fields.length).map .field)

/-- References to members request the handles of their ordinals. -/
theorem requests_references {Member : Type} {name : Nat → Member → Constant}
    {request : Nat → HandleRequest}
    (requests : ∀ ordinal member,
      request? (name ordinal member) = some (request (UInt32.ofNat ordinal).toNat))
    {members : List Member} (few : members.length ≤ UInt32.size) :
    (references name members).filterMap request? =
      (List.range members.length).map request := by
  have own : ∀ entry ∈ members.zipIdx,
      (request? ∘ fun entry => name entry.2 entry.1) entry = (some ∘ request ∘ Prod.snd) entry := by
    rintro ⟨member, ordinal⟩ isEntry
    have below := List.snd_lt_of_mem_zipIdx isEntry
    rw [Function.comp_apply, requests, UInt32.toNat_ofNat_of_lt' (by dsimp only at *; omega)]
    rfl
  rw [references, List.filterMap_map, List.filterMap_congr own, List.filterMap_eq_map,
    ← List.map_map, List.zipIdx_map_snd, List.range_eq_range']

section Descriptions

variable {World : Type} {answers : Answers World} {description : TypeDescription} {image : Image}
  (built : Image.ofDescription description = .ok image)
include built

/-- The handle of each member is requested in the pool of a dispatcher exactly once. -/
theorem requests_perm :
    (image.constants.toList.filterMap request?).Perm (memberRequests description) := by
  have few := Image.memberCount_lt_capacity built
  have small : ConstantPool.capacity < UInt32.size := by decide
  rw [TypeDescription.memberCount] at few
  have ofReferences : (memberReferences description).filterMap request? =
      memberRequests description := by
    rw [memberReferences, List.filterMap_append, List.filterMap_append, memberRequests,
      @requests_references _ constructorConstant .constructor (fun _ _ => rfl) _ (by omega),
      @requests_references _ methodConstant .method (fun _ _ => rfl) _ (by omega),
      @requests_references _ fieldConstant .field (fun _ _ => rfl) _ (by omega)]
  have ofPool : (image.constants.toList.filter fun constant =>
      (ordinal? constant).isSome).filterMap request? =
        image.constants.toList.filterMap request? := by
    rw [List.filterMap_filter]
    refine List.filterMap_congr fun constant _ => ?_
    cases constant <;> rfl
  rw [← ofReferences, ← ofPool]
  exact (Image.perm_memberReferences built).filterMap request?

/-- A dispatcher matches the lists that it was built from. -/
theorem matches_of_built (constructors : answers.constructors = description.constructors)
    (methods : answers.methods = description.methods)
    (fields : answers.fields = description.fields) :
    ∀ constant ∈ image.constants.toList, answers.Matches constant := by
  have few := Image.memberCount_lt_capacity built
  have small : ConstantPool.capacity < 2 ^ 32 := by decide
  rw [TypeDescription.memberCount] at few
  intro constant member
  rw [Image.mem_constants_iff built] at member
  cases constant with
  | constructor number parameters =>
      obtain ⟨ordinal, constructor, found, same⟩ :=
        mem_references.mp (constructor_mem_constantsOf.mp member)
      obtain ⟨rfl, rfl⟩ := Constant.constructor.inj same
      exact ⟨constructor, by rw [toNat_ordinal (by omega) found, constructors, found], rfl⟩
  | method number name parameters returnType kind =>
      obtain ⟨ordinal, method, found, same⟩ := mem_references.mp (method_mem_constantsOf.mp member)
      obtain ⟨rfl, rfl, rfl, rfl, rfl⟩ := Constant.method.inj same
      exact ⟨method, by rw [toNat_ordinal (by omega) found, methods, found], rfl, rfl, rfl, rfl⟩
  | field number name valueType isStatic =>
      obtain ⟨ordinal, field, found, same⟩ := mem_references.mp (field_mem_constantsOf.mp member)
      obtain ⟨rfl, rfl, rfl, rfl⟩ := Constant.field.inj same
      exact ⟨field, by rw [toNat_ordinal (by omega) found, fields, found], rfl, rfl, rfl⟩
  | _ => trivial

end Descriptions

/-! ## Outcomes -/

section Outcomes

variable {World : Type} {steady : World → Prop} {model : TypeModel World} {start : World}

/-- A unit that cannot be linked is reported in the name of its image's type. -/
theorem instantiate_of_unlinked {place : UnitPlace} {unit : InstalledUnit World}
    {modelId : ModelId} {scene : Scene World} {fault : LinkFault} {finish : World}
    (unlinked : unit.linkage? modelId = none)
    (failed : (ofImage model unit.image).run scene.world = (.error fault, finish)) :
    ((instantiate place unit modelId model).run scene).1 =
      .error (.instantiation unit.image.typeName fault) := by
  simp only [instantiate, unlinked]
  rw [run_bind_of_run (run_ask failed)]
  rfl

/-- While the answers of a model stay what they are, an image links to it just if every reference
matches and has the handle that it needs. Then the linkage is parallel to the pool, and linking has
requested the handle of each reference in turn. Otherwise the first constant that cannot be linked
is reported in the name of the image's type, and no handle was requested behind it. A dispatcher
that links to the lists it was built from fails for handles only, and requests each member's handle
once. -/
theorem linking_follows_the_answers (settled : SettledModel steady model) (begins : steady start)
    (image : Image) :
    ((∃ linkage, ((ofImage model image).run start).1 = .ok linkage) ↔
      ∀ constant ∈ image.constants.toList,
        (Answers.of model image.target start).Matches constant ∧
          (Answers.of model image.target start).Serves constant) ∧
    (∀ linkage finish, (ofImage model image).run start = (.ok linkage, finish) →
      List.Forall₂ (Answers.of model image.target start).LinksTo image.constants.toList
        linkage.members.toList ∧
      finish = worldBehind model image.target start (image.constants.toList.filterMap request?)) ∧
    (∀ fault finish, (ofImage model image).run start = (.error fault, finish) →
      (∃ front constant back requests, image.constants.toList = front ++ constant :: back ∧
        (∀ other ∈ front, (Answers.of model image.target start).Matches other ∧
          (Answers.of model image.target start).Serves other) ∧
        (Answers.of model image.target start).Resolves constant (.error fault) requests ∧
        finish =
          worldBehind model image.target start (front.filterMap request? ++ requests)) ∧
      ∀ (place : UnitPlace) (unit : InstalledUnit World) (modelId : ModelId) (scene : Scene World),
        unit.image = image → unit.linkage? modelId = none → scene.world = start →
        ((instantiate place unit modelId model).run scene).1 =
          .error (.instantiation image.typeName fault)) ∧
    ∀ description, Image.ofDescription description = .ok image →
      (Answers.of model image.target start).constructors = description.constructors →
      (Answers.of model image.target start).methods = description.methods →
      (Answers.of model image.target start).fields = description.fields →
      (∀ fault finish, (ofImage model image).run start = (.error fault, finish) →
        ∃ constant ∈ image.constants.toList,
          ¬(Answers.of model image.target start).Serves constant ∧
            withoutHandle? constant = some fault) ∧
      ∀ linkage finish, (ofImage model image).run start = (.ok linkage, finish) →
        ∃ requests, requests.Perm (memberRequests description) ∧
          finish = worldBehind model image.target start requests := by
  obtain ⟨outcome, requests, linked, ends⟩ := ofImage_ends settled begins image
  rw [linked]
  cases ends with
  | linked each links =>
      refine ⟨iff_of_true ⟨_, rfl⟩ each, ?_, nofun, ?_⟩
      · rintro linkage finish same
        obtain ⟨isLinkage, rfl⟩ := Prod.mk.inj same
        obtain rfl := Except.ok.inj isLinkage
        exact ⟨links, rfl⟩
      · rintro description built - - -
        refine ⟨nofun, fun linkage finish same => ⟨_, requests_perm built, ?_⟩⟩
        exact (Prod.mk.inj same).2.symm
  | @stopped front back constant fault asked pool each failed =>
      have member : constant ∈ image.constants.toList := by
        rw [pool]
        exact List.mem_append_right front List.mem_cons_self
      refine ⟨iff_of_false nofun fun all => failed.not_both (all constant member), nofun, ?_, ?_⟩
      · rintro _ _ same
        obtain ⟨isFault, rfl⟩ := Prod.mk.inj same
        obtain rfl := Except.error.inj isFault
        refine ⟨⟨front, constant, back, asked, pool, each, failed, rfl⟩, ?_⟩
        rintro place unit modelId scene rfl unlinked rfl
        exact instantiate_of_unlinked unlinked linked
      · rintro description built constructors methods fields
        refine ⟨fun _ _ same => ?_, nofun⟩
        obtain rfl := Except.error.inj (Prod.mk.inj same).1
        have here := matches_of_built built constructors methods fields constant member
        cases failed with
        | drifted changed _ => exact absurd here changed
        | withoutHandle _ missing reported => exact ⟨constant, member, missing, reported⟩

end Outcomes

/-- A model with one counter that keeps a record of the handles requested. -/
def recordingModel : TypeModel (List HandleRequest) where
  typeName _ := return some counter.name
  constructors _ := return counter.constructors
  methods _ := return counter.methods
  fields _ := return counter.fields
  constructorHandle _ ordinal := do
    modify (· ++ [.constructor ordinal])
    return some fun _ => return .error "not implemented"
  methodHandle _ ordinal := do
    modify (· ++ [.method ordinal])
    return none
  fieldHandle _ ordinal := do
    modify (· ++ [.field ordinal])
    return some {
      read _ := return .error "not implemented"
      write _ _ := return .error "not implemented" }
  resolveOverride _ _ := return none
  isAssignable _ _ := return false

/-- Whatever was recorded, the answers are the same. -/
theorem recording_settled : SettledModel (fun _ => True) recordingModel where
  typeName _ := ⟨fun _ _ => trivial, fun _ _ _ _ => rfl⟩
  constructors _ := ⟨fun _ _ => trivial, fun _ _ _ _ => rfl⟩
  methods _ := ⟨fun _ _ => trivial, fun _ _ _ _ => rfl⟩
  fields _ := ⟨fun _ _ => trivial, fun _ _ _ _ => rfl⟩
  constructorHandle _ _ := ⟨fun _ _ => trivial, fun _ _ _ _ => rfl⟩
  methodHandle _ _ := ⟨fun _ _ => trivial, fun _ _ _ _ => rfl⟩
  fieldHandle _ _ := ⟨fun _ _ => trivial, fun _ _ _ _ => rfl⟩

/-- The record behind some requests has just these. -/
theorem recorded (classId : ClassId) (requests : List HandleRequest) :
    worldBehind recordingModel classId [] requests = requests := by
  suffices grows : ∀ record : List HandleRequest,
      requests.foldl (requested recordingModel classId) record = record ++ requests from grows []
  induction requests with
  | nil => exact fun record => (List.append_nil record).symm
  | cons request rest inductionHypothesis =>
      intro record
      have one : requested recordingModel classId record request = record ++ [request] := by
        cases request <;> rfl
      rw [List.foldl_cons, one, inductionHypothesis, List.append_assoc, List.singleton_append]

/-- A counter without a handle for its only method, which is virtual, is linked all the same, and
each handle is requested once. -/
theorem linking_follows_the_answers_counter :
    ∃ linkage record, (ofImage recordingModel counterImage).run [] = (.ok linkage, record) ∧
      record.Perm [.constructor 0, .method 0, .field 0] := by
  have follows := @linking_follows_the_answers _ _ _ [] recording_settled trivial counterImage
  obtain ⟨linkage, record, linked⟩ :
      ∃ linkage record, (ofImage recordingModel counterImage).run [] = (.ok linkage, record) :=
    ⟨_, _, rfl⟩
  obtain ⟨requests, same, rfl⟩ := (follows.2.2.2 counter counter_built rfl rfl rfl).2 _ _ linked
  rw [recorded] at linked
  exact ⟨linkage, _, linked, same⟩

end OrdinalDispatch.Loader

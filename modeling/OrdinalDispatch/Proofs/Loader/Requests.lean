import OrdinalDispatch.Loader.Generator
import OrdinalDispatch.Proofs.Code.Checking
import OrdinalDispatch.Proofs.Code.Evaluation
import OrdinalDispatch.Proofs.Loader.Naming
import OrdinalDispatch.Proofs.Loader.Registries

/-!
Contract: what the parts of a request for an accessor do to the books of a scene.

Owns: obtaining the unit and linking it, each with all that it can come to, and
that whatever is built can be installed.

Does not own: the request as a whole, see `OrdinalDispatch.Proofs.Loader.Serving`.

The books of a scene are its store, its counts and the models that are gone. The
world and the events change in every step and matter for none of them.
-/

set_option autoImplicit false

namespace OrdinalDispatch.Loader

open OrdinalDispatch.Code

variable {World : Type}

/-! ## Steps that leave the books alone -/

/-- Nothing but the world and the events may differ. -/
structure SameBooks (scene later : Scene World) : Prop where
  store : later.store = scene.store
  generated : later.generated = scene.generated
  released : later.released = scene.released

namespace SameBooks

theorem refl (scene : Scene World) : SameBooks scene scene := ⟨rfl, rfl, rfl⟩

theorem trans {first second third : Scene World} (front : SameBooks first second)
    (back : SameBooks second third) : SameBooks first third :=
  ⟨back.store.trans front.store, back.generated.trans front.generated,
    back.released.trans front.released⟩

end SameBooks

/-- Which models are alive depends on the released ones alone. -/
theorem Scene.isLive_of_released {scene later : Scene World}
    (released : later.released = scene.released) : later.isLive = scene.isLive := by
  funext model
  rw [Scene.isLive, released, Scene.isLive]

section Quiet

variable {scene later : Scene World}

theorem run_ask {Answer : Type} {question : StateM World Answer} {answer : Answer} {finish : World}
    (answered : question.run scene.world = (answer, finish)) :
    (ask question).run scene = (answer, { scene with world := finish }) := by
  show ((question.run scene.world).1, { scene with world := (question.run scene.world).2 }) = _
  rw [answered]

/-- A question changes nothing but the world. -/
theorem exists_of_ask_run {Answer : Type} {question : StateM World Answer} {answer : Answer}
    (done : (ask question).run scene = (answer, later)) :
    ∃ finish, question.run scene.world = (answer, finish) ∧
      later = { scene with world := finish } := by
  obtain ⟨rfl, rfl⟩ := Prod.mk.inj done
  exact ⟨_, rfl, rfl⟩

/-- Two computations in a row, taken apart. -/
theorem exists_of_bind_run {Answer Result : Type} {first : Loading World Answer}
    {next : Answer → Loading World Result} {result : Result}
    (done : (first >>= next).run scene = (result, later)) :
    ∃ answer middle, first.run scene = (answer, middle) ∧
      (next answer).run middle = (result, later) :=
  ⟨_, _, rfl, done⟩

/-- Two computations in a row, put together. -/
theorem run_bind_of_run {Answer Result : Type} {first : Loading World Answer}
    {next : Answer → Loading World Result} {answer : Answer}
    (done : first.run scene = (answer, later)) :
    (first >>= next).run scene = (next answer).run later := by
  rw [StateT.run_bind, done]
  rfl

/-- What tracing an image leaves: the sink is called once if there is one, and a failure is
reported. -/
inductive Traced (generator : Generator World) (unit : String) (image : Image)
    (scene : Scene World) : Scene World → Prop where
  | nowhere (none : generator.sink? = none) :
      Traced generator unit image scene
        { scene with events := scene.events.push (.nowhereToTrace unit) }
  | written {sink : TraceSink World} {finish : World} (chosen : generator.sink? = some sink)
      (called : (sink unit image).run scene.world = (.ok (), finish)) :
      Traced generator unit image scene { scene with world := finish }
  | failed {sink : TraceSink World} {failure : String} {finish : World}
      (chosen : generator.sink? = some sink)
      (called : (sink unit image).run scene.world = (.error failure, finish)) :
      Traced generator unit image scene
        { scene with
          world := finish
          events := scene.events.push (.traceFailed unit failure) }

theorem trace_traced {generator : Generator World} {unit : String} {image : Image} {answer : Unit}
    (done : (generator.trace unit image).run scene = (answer, later)) :
    Traced generator unit image scene later := by
  unfold Generator.trace at done
  cases chosen : generator.sink? with
  | none =>
      simp only [chosen] at done
      obtain ⟨-, rfl⟩ := Prod.mk.inj done
      exact .nowhere chosen
  | some sink =>
      simp only [chosen] at done
      obtain ⟨outcome, middle, asked, following⟩ := exists_of_bind_run done
      obtain ⟨finish, called, rfl⟩ := exists_of_ask_run asked
      cases outcome with
      | ok written =>
          obtain ⟨-, rfl⟩ := Prod.mk.inj following
          exact .written chosen called
      | error failure =>
          obtain ⟨-, rfl⟩ := Prod.mk.inj following
          exact .failed chosen called

theorem Traced.books {generator : Generator World} {unit : String} {image : Image}
    (traced : Traced generator unit image scene later) : SameBooks scene later := by
  cases traced <;> exact ⟨rfl, rfl, rfl⟩

end Quiet

/-- The context of a scope is there, or an empty one is created, numbered and reported. -/
inductive Opens (number : Nat) (scope : ScopeId) (scene : Scene World) :
    Context World → Scene World → Prop where
  | known {context : Context World}
      (found : (scene.store.registry number).context? scope = some context) :
      Opens number scope scene context scene
  | created (missing : (scene.store.registry number).context? scope = none) :
      Opens number scope scene ⟨scene.store.nextContext, scope, []⟩
        { scene with
          store := {
            registries := scene.store.registries.modify number fun registry =>
              { registry with
                others := registry.others ++ [⟨scene.store.nextContext, scope, []⟩] }
            nextContext := scene.store.nextContext + 1 }
          events := scene.events.push (.createdContext scope scene.store.nextContext) }

section Resolving

variable {number : Nat} {scope : ScopeId} {scene later : Scene World} {context : Context World}

theorem resolve_opens
    (done : (resolve number scope).run scene = (context, later)) :
    Opens number scope scene context later := by
  obtain ⟨_, _, got, following⟩ := exists_of_bind_run done
  obtain ⟨rfl, rfl⟩ := Prod.mk.inj got
  unfold Store.resolve at following
  cases found : (scene.store.registry number).context? scope with
  | some known =>
      simp only [found] at following
      obtain ⟨rfl, rfl⟩ := Prod.mk.inj following
      exact .known found
  | none =>
      simp only [found] at following
      obtain ⟨rfl, rfl⟩ := Prod.mk.inj following
      exact .created found

/-- Opening a context is a change of the store that resolving the scope makes. -/
theorem Opens.resolved (opens : Opens number scope scene context later) :
    context = (scene.store.resolve number scope).1 ∧
      later.store = (scene.store.resolve number scope).2.1 ∧ later.world = scene.world ∧
      later.generated = scene.generated ∧ later.released = scene.released := by
  cases opens with
  | known found =>
      rw [Store.resolve, found]
      exact ⟨rfl, rfl, rfl, rfl, rfl⟩
  | created missing =>
      rw [Store.resolve, missing]
      exact ⟨rfl, rfl, rfl, rfl, rfl⟩

/-- The store once a scope is resolved, and the context that was found or created. -/
theorem resolve_run (done : (resolve number scope).run scene = (context, later)) :
    context = (scene.store.resolve number scope).1 ∧
      later.store = (scene.store.resolve number scope).2.1 ∧ later.world = scene.world ∧
      later.generated = scene.generated ∧ later.released = scene.released :=
  (resolve_opens done).resolved

end Resolving

/-! ## Obtaining the unit -/

/-- Why a generator refuses to install a class as a unit, when it asks for the description in a
world: there is none, its image cannot be built, or the image is too long to be addressed. -/
inductive Refuses (generator : Generator World) (classId : ClassId) (unit : String)
    (world : World) : GenerationError → Prop where
  | undescribed {finish : World}
      (answer : (generator.model.describe classId).run world = (none, finish)) :
      Refuses generator classId unit world (.unknownType classId)
  | unbuilt {finish : World} {description : TypeDescription} {cause : ImageError}
      (described : (generator.model.describe classId).run world = (some description, finish))
      (failed : Image.ofDescription description = .error cause) :
      Refuses generator classId unit world (.malformedImage description.name cause)
  | unaddressable {finish : World} {description : TypeDescription} {image : Image}
      {fault : ImageFault}
      (described : (generator.model.describe classId).run world = (some description, finish))
      (built : Image.ofDescription description = .ok image) (long : 2 ^ 32 ≤ image.code.size)
      (checked : image.fault? = some fault) :
      Refuses generator classId unit world (.malformedImage unit (.verification fault))

/-- What obtaining the unit of a class comes to. The context of its scope is opened in any case;
there is its unit, or a new one is installed and counted. -/
inductive Obtained (generator : Generator World) (classId : ClassId) (place : UnitPlace)
    (scene later : Scene World) : Except GenerationError (InstalledUnit World) → Prop where
  | refused {error : GenerationError}
      (reason : Refuses generator classId place.name scene.world error)
      (store : later.store = (scene.store.resolve place.registry place.scope).2.1)
      (generated : later.generated = scene.generated) :
      Obtained generator classId place scene later (.error error)
  | reused {unit : InstalledUnit World}
      (found : (scene.store.resolve place.registry place.scope).1.find? place.name = some unit)
      (store : later.store = (scene.store.resolve place.registry place.scope).2.1)
      (generated : later.generated = scene.generated) :
      Obtained generator classId place scene later (.ok unit)
  | installed {finish : World} {description : TypeDescription} {image : Image}
      (free : (scene.store.resolve place.registry place.scope).1.find? place.name = none)
      (described : (generator.model.describe classId).run scene.world =
        (some description, finish))
      (built : Image.ofDescription description = .ok image) (passes : image.fault? = none)
      (store : later.store =
        (scene.store.resolve place.registry place.scope).2.1.updateContext place.registry
          place.scope fun _ => (scene.store.resolve place.registry place.scope).1.adding
            ⟨place.name, (scene.store.resolve place.registry place.scope).1.id, image, []⟩)
      (generated : later.generated = scene.generated.modify generator.number (· + 1)) :
      Obtained generator classId place scene later
        (.ok ⟨place.name, (scene.store.resolve place.registry place.scope).1.id, image, []⟩)

/-- An image that passes verification is refused for no other reason than its name. -/
theorem install_of_passes {image : Image} (passes : image.fault? = none)
    (context : Context World) (name : String) :
    context.install name image =
      if (context.find? name).isSome then .error (.duplicateDefinition name context.id)
      else .ok (⟨name, context.id, image, []⟩,
        context.adding ⟨name, context.id, image, []⟩) := by
  rw [Context.install, passes]
  cases context.find? name with
  | none => rfl
  | some unit => rfl

/-- An image that was built is refused by a free name only if it is too long. -/
theorem install_ok {description : TypeDescription} {image : Image} {context : Context World}
    {name : String} (built : Image.ofDescription description = .ok image)
    (free : context.find? name = none) :
    (image.fault? = none ∧ context.install name image =
        .ok (⟨name, context.id, image, []⟩, context.adding ⟨name, context.id, image, []⟩)) ∨
      2 ^ 32 ≤ image.code.size ∧ ∃ fault, image.fault? = some fault ∧
        context.install name image = .error (.malformedImage name (.verification fault)) := by
  cases checked : image.fault? with
  | none =>
      refine .inl ⟨rfl, ?_⟩
      rw [install_of_passes checked, free]
      rfl
  | some fault =>
      refine .inr ⟨Nat.not_lt.mp fun short => ?_, fault, rfl, by rw [Context.install, checked]⟩
      obtain ⟨built⟩ := Dispatcher.ofDescription_ok built short
      rw [Image.fault?_eq_none_iff.mpr built.verified] at checked
      cases checked

section Obtaining

variable {generator : Generator World} {classId : ClassId} {place : UnitPlace}
  {scene later : Scene World} {context : Context World}

/-- A context that is resolved once is found the next time. -/
theorem resolve_resolved {number : Nat} {scope : ScopeId}
    (found : (scene.store.registry number).context? scope = some context) :
    (resolve number scope).run scene = (context, scene) := by
  have resolved : scene.store.resolve number scope = (context, scene.store, false) := by
    rw [Store.resolve, found]
  simp only [resolve, StateT.run_bind, StateT.run_get, pure_bind, resolved]
  rfl

theorem defineUnit_run {image : Image} {result : Except GenerationError (InstalledUnit World)}
    (found : (scene.store.registry place.registry).context? place.scope = some context)
    (done : (defineUnit place image).run scene = (result, later)) :
    match context.install place.name image with
    | .error error => result = .error error ∧ SameBooks scene later
    | .ok (unit, installed) => result = .ok unit ∧
        later.store = scene.store.updateContext place.registry place.scope (fun _ => installed) ∧
        later.generated = scene.generated ∧ later.released = scene.released := by
  obtain ⟨resolved, middle, isResolved, following⟩ := exists_of_bind_run done
  rw [resolve_resolved found] at isResolved
  obtain ⟨rfl, rfl⟩ := Prod.mk.inj isResolved
  cases answered : context.install place.name image with
  | error error =>
      rw [answered] at following
      obtain ⟨rfl, rfl⟩ := Prod.mk.inj following
      exact ⟨rfl, rfl, rfl, rfl⟩
  | ok installation =>
      obtain ⟨unit, installed⟩ := installation
      rw [answered] at following
      obtain ⟨rfl, rfl⟩ := Prod.mk.inj following
      exact ⟨rfl, rfl, rfl, rfl⟩

/-- Everything that is built passes verification. A context refuses it only under a name that is
taken, and defining it at a place never fails for its form. -/
theorem built_images_verify {description : TypeDescription} {image : Image}
    (built : Image.ofDescription description = .ok image) (short : image.code.size < 2 ^ 32) :
    image.fault? = none ∧
      (∀ (context : Context World) (name : String), context.install name image =
        if (context.find? name).isSome then .error (.duplicateDefinition name context.id)
        else .ok (⟨name, context.id, image, []⟩,
          context.adding ⟨name, context.id, image, []⟩)) ∧
      ∀ (place : UnitPlace) (scene later : Scene World) (unit : String) (cause : ImageError),
        (defineUnit place image).run scene ≠ (.error (.malformedImage unit cause), later) := by
  obtain ⟨emission⟩ := Dispatcher.ofDescription_ok built short
  have passes : image.fault? = none := Image.fault?_eq_none_iff.mpr emission.verified
  refine ⟨passes, install_of_passes passes, ?_⟩
  intro place scene later unit cause done
  obtain ⟨context, resolved, -, following⟩ := exists_of_bind_run done
  rw [install_of_passes passes] at following
  by_cases taken : (context.find? place.name).isSome
  · rw [if_pos taken] at following
    cases following
  · rw [if_neg taken] at following
    cases following

theorem built_images_verify_counter :
    (Image.ofDescription counter = .ok counterImage ∧ counterImage.code.size < 2 ^ 32) ∧
      counterImage.fault? = none :=
  ⟨⟨counter_built, counter_short⟩,
    (@built_images_verify Unit counter counterImage counter_built counter_short).1⟩

/-- An image serves the class of its description. -/
theorem target_of_ofDescription {description : TypeDescription} {image : Image}
    (built : Image.ofDescription description = .ok image) : image.target = description.classId := by
  obtain ⟨⟨entryOffsets, final⟩, -, rest⟩ := Dispatcher.exists_of_bind_ok built
  cases finished : final.finish with
  | error faults =>
      simp only [finished] at rest
      cases rest
  | ok assembled =>
      simp only [finished] at rest
      rw [← Except.ok.inj rest]

/-- The last steps of an installation: the image is installed, and if that succeeds it is counted
and reported. -/
def Generator.installCounted (generator : Generator World) (place : UnitPlace) (image : Image)
    (event : Event) : Loading World (Except GenerationError (InstalledUnit World)) := do
  match ← defineUnit place image with
  | .error error => return .error error
  | .ok unit =>
      generator.count
      report event
      return .ok unit

/-- Installation, taken apart: the description is asked for, the image is built from it, and once it
is traced, if traces are on, it is installed and counted. -/
inductive InstallRuns (generator : Generator World) (classId : ClassId) (place : UnitPlace)
    (context : UInt32) (scene later : Scene World) :
    Except GenerationError (InstalledUnit World) → Prop where
  | undescribed {finish : World}
      (answer : (generator.model.describe classId).run scene.world = (none, finish))
      (left : later = { scene with world := finish }) :
      InstallRuns generator classId place context scene later (.error (.unknownType classId))
  | unbuilt {finish : World} {description : TypeDescription} {cause : ImageError}
      (described : (generator.model.describe classId).run scene.world =
        (some description, finish))
      (failed : Image.ofDescription description = .error cause)
      (left : later = { scene with world := finish }) :
      InstallRuns generator classId place context scene later
        (.error (.malformedImage description.name cause))
  | counted {finish : World} {description : TypeDescription} {image : Image}
      {traced : Scene World} {result : Except GenerationError (InstalledUnit World)}
      (described : (generator.model.describe classId).run scene.world =
        (some description, finish))
      (built : Image.ofDescription description = .ok image)
      (traces : if generator.settings.traceEnabled then
          Traced generator place.name image { scene with world := finish } traced
        else traced = { scene with world := finish })
      (counts : (generator.installCounted place image
        (.generatedUnit place.name context description.memberCount)).run traced =
          (result, later)) :
      InstallRuns generator classId place context scene later result

theorem install_runs {context : UInt32} {result : Except GenerationError (InstalledUnit World)}
    (done : (generator.install classId place context).run scene = (result, later)) :
    InstallRuns generator classId place context scene later result := by
  obtain ⟨answer, asked, isAsked, following⟩ := exists_of_bind_run done
  obtain ⟨finish, described, rfl⟩ := exists_of_ask_run isAsked
  cases answer with
  | none =>
      obtain ⟨rfl, rfl⟩ := Prod.mk.inj following
      exact .undescribed described rfl
  | some description =>
      cases built : Image.ofDescription description with
      | error cause =>
          simp only [built] at following
          obtain ⟨rfl, rfl⟩ := Prod.mk.inj following
          exact .unbuilt described built rfl
      | ok image =>
          simp only [built] at following
          split at following
          · rename_i enabled
            obtain ⟨_, traced, isTraced, following⟩ := exists_of_bind_run following
            refine .counted described built ?_ following
            rw [if_pos enabled]
            exact trace_traced isTraced
          · rename_i disabled
            refine .counted described built ?_ following
            rw [if_neg disabled]

/-- A trace changes no book, whether it is made or not. -/
theorem books_of_traces {unit : String} {image : Image} {enabled : Bool}
    (traces : if enabled then Traced generator unit image scene later else later = scene) :
    SameBooks scene later := by
  split at traces
  · exact traces.books
  · exact traces ▸ .refl scene

/-- What installing a missing unit comes to: it is refused, or it is added and counted. -/
def Installs (generator : Generator World) (classId : ClassId) (world : World)
    (place : UnitPlace) (context : Context World) (scene later : Scene World)
    (result : Except GenerationError (InstalledUnit World)) : Prop :=
  later.released = scene.released ∧
    ((∃ error, result = .error error ∧ Refuses generator classId place.name world error ∧
        later.store = scene.store ∧ later.generated = scene.generated) ∨
      ∃ description image finish,
        (generator.model.describe classId).run world = (some description, finish) ∧
        Image.ofDescription description = .ok image ∧ image.fault? = none ∧
        result = .ok ⟨place.name, context.id, image, []⟩ ∧
        later.store = scene.store.updateContext place.registry place.scope
          (fun _ => context.adding ⟨place.name, context.id, image, []⟩) ∧
        later.generated = scene.generated.modify generator.number (· + 1))

section Installing

variable {result : Except GenerationError (InstalledUnit World)}
  (found : (scene.store.registry place.registry).context? place.scope = some context)
  (free : context.find? place.name = none)
include found free

theorem installCounted_run {start finish : World} {description : TypeDescription} {image : Image}
    {event : Event}
    (described : (generator.model.describe classId).run start = (some description, finish))
    (built : Image.ofDescription description = .ok image)
    (done : (generator.installCounted place image event).run scene = (result, later)) :
    Installs generator classId start place context scene later result := by
  obtain ⟨defined, middle, isDefined, following⟩ := exists_of_bind_run done
  have defines := defineUnit_run found isDefined
  rcases install_ok built free with ⟨passes, installs⟩ | ⟨long, fault, checked, refuses⟩
  · rw [installs] at defines
    obtain ⟨rfl, store, generated, released⟩ := defines
    obtain ⟨rfl, rfl⟩ := Prod.mk.inj following
    exact ⟨released, .inr ⟨description, image, finish, described, built, passes, rfl, store,
      congrArg (List.modify · _ _) generated⟩⟩
  · rw [refuses] at defines
    obtain ⟨rfl, same⟩ := defines
    obtain ⟨rfl, rfl⟩ := Prod.mk.inj following
    exact ⟨same.released,
      .inl ⟨_, rfl, .unaddressable described built long checked, same.store, same.generated⟩⟩

/-- Installing a missing unit is refused for a reason, or adds the unit and counts it. -/
theorem install_run
    (done : (generator.install classId place context.id).run scene = (result, later)) :
    Installs generator classId scene.world place context scene later result := by
  cases install_runs done with
  | undescribed answer left =>
      subst left
      exact ⟨rfl, .inl ⟨_, rfl, .undescribed answer, rfl, rfl⟩⟩
  | unbuilt described failed left =>
      subst left
      exact ⟨rfl, .inl ⟨_, rfl, .unbuilt described failed, rfl, rfl⟩⟩
  | @counted finish description image traced _ described built traces counts =>
      have books := books_of_traces traces
      have installs : Installs generator classId scene.world place context traced later result :=
        installCounted_run (books.store ▸ found) free described built counts
      unfold Installs at installs ⊢
      rwa [books.store, books.generated, books.released] at installs

end Installing

/-- Obtaining the unit of a class opens the context of its scope; there is the unit, or it is
missing and installed. -/
theorem obtain_run {result : Except GenerationError (InstalledUnit World)}
    (inRange : place.registry < scene.store.registries.length)
    (done : (generator.obtain classId place).run scene = (result, later)) :
    later.released = scene.released ∧ Obtained generator classId place scene later result := by
  obtain ⟨resolved, opened, isResolved, following⟩ := exists_of_bind_run done
  obtain ⟨rfl, store, world, generated, released⟩ := resolve_run isResolved
  have found := Store.context?_resolve inRange place.scope
  rw [← store] at found
  cases present : (scene.store.resolve place.registry place.scope).1.find? place.name with
  | some unit =>
      simp only [present] at following
      obtain ⟨rfl, rfl⟩ := Prod.mk.inj following
      exact ⟨released, .reused present store generated⟩
  | none =>
      simp only [present] at following
      obtain ⟨stays, ⟨error, rfl, reason, storeSame, generatedSame⟩ |
        ⟨description, image, finish, described, built, passes, rfl, installs, counts⟩⟩ :=
        install_run found present following
      · exact ⟨stays.trans released, .refused (world ▸ reason) (storeSame.trans store)
          (generatedSame.trans generated)⟩
      · rw [store] at installs
        rw [generated] at counts
        exact ⟨stays.trans released,
          .installed present (world ▸ described) built passes installs counts⟩

end Obtaining

/-! ## Linking the unit -/

/-- What linking a unit to a model comes to: there is a linkage, or the image is linked and the
linkage stored, or linking fails and nothing is. -/
inductive Instantiated (place : UnitPlace) (unit : InstalledUnit World) (modelId : ModelId)
    (model : Machine.TypeModel World) (scene later : Scene World) :
    Except GenerationError (Accessor World) → Prop where
  | unlinked {fault : LinkFault} (unknown : unit.linkage? modelId = none)
      (fails : (Machine.Linkage.ofImage model unit.image).run scene.world =
        (.error fault, later.world))
      (same : SameBooks scene later) :
      Instantiated place unit modelId model scene later
        (.error (.instantiation unit.image.typeName fault))
  | stored {linkage : Machine.Linkage World} (known : unit.linkage? modelId = some linkage)
      (same : SameBooks scene later) :
      Instantiated place unit modelId model scene later
        (.ok ⟨place, modelId, ⟨unit.image, linkage, model⟩⟩)
  | linked {linkage : Machine.Linkage World} (unknown : unit.linkage? modelId = none)
      (links : (Machine.Linkage.ofImage model unit.image).run scene.world =
        (.ok linkage, later.world))
      (store : later.store = scene.store.updateContext place.registry place.scope fun context =>
        context.updateUnit place.name fun unit => unit.addLinkage scene.isLive modelId linkage)
      (generated : later.generated = scene.generated)
      (released : later.released = scene.released) :
      Instantiated place unit modelId model scene later
        (.ok ⟨place, modelId, ⟨unit.image, linkage, model⟩⟩)

/-- Linking, taken apart with all that it leaves: the linkage is there, or the model is asked for
one, which is reported and stored. -/
inductive LinkRuns (place : UnitPlace) (unit : InstalledUnit World) (modelId : ModelId)
    (model : Machine.TypeModel World) (scene : Scene World) :
    Except GenerationError (Accessor World) → Scene World → Prop where
  | stored {linkage : Machine.Linkage World} (known : unit.linkage? modelId = some linkage) :
      LinkRuns place unit modelId model scene
        (.ok ⟨place, modelId, ⟨unit.image, linkage, model⟩⟩) scene
  | unlinked {fault : LinkFault} {finish : World} (unknown : unit.linkage? modelId = none)
      (fails : (Machine.Linkage.ofImage model unit.image).run scene.world =
        (.error fault, finish)) :
      LinkRuns place unit modelId model scene
        (.error (.instantiation unit.image.typeName fault)) { scene with world := finish }
  | linked {linkage : Machine.Linkage World} {finish : World}
      (unknown : unit.linkage? modelId = none)
      (links : (Machine.Linkage.ofImage model unit.image).run scene.world =
        (.ok linkage, finish)) :
      LinkRuns place unit modelId model scene
        (.ok ⟨place, modelId, ⟨unit.image, linkage, model⟩⟩)
        { scene with
          world := finish
          events := scene.events.push (.linkedUnit unit.name linkage.memberCount)
          store := scene.store.updateContext place.registry place.scope fun context =>
            context.updateUnit place.name fun unit =>
              unit.addLinkage scene.isLive modelId linkage }

section Linking

variable {place : UnitPlace} {unit : InstalledUnit World} {modelId : ModelId}
  {model : Machine.TypeModel World} {scene later : Scene World}
  {result : Except GenerationError (Accessor World)}

theorem instantiate_runs
    (done : (instantiate place unit modelId model).run scene = (result, later)) :
    LinkRuns place unit modelId model scene result later := by
  unfold instantiate at done
  cases known : unit.linkage? modelId with
  | some linkage =>
      simp only [known] at done
      obtain ⟨rfl, rfl⟩ := Prod.mk.inj done
      exact .stored known
  | none =>
      simp only [known] at done
      obtain ⟨answer, asked, isAsked, following⟩ := exists_of_bind_run done
      obtain ⟨finish, links, rfl⟩ := exists_of_ask_run isAsked
      cases answer with
      | error fault =>
          obtain ⟨rfl, rfl⟩ := Prod.mk.inj following
          exact .unlinked known links
      | ok linkage =>
          obtain ⟨rfl, rfl⟩ := Prod.mk.inj following
          exact .linked known links

theorem instantiate_run
    (done : (instantiate place unit modelId model).run scene = (result, later)) :
    Instantiated place unit modelId model scene later result := by
  cases instantiate_runs done with
  | stored known => exact .stored known (.refl scene)
  | unlinked unknown fails => exact .unlinked unknown fails ⟨rfl, rfl, rfl⟩
  | linked unknown links => exact .linked unknown links rfl rfl rfl

end Linking

end OrdinalDispatch.Loader

import OrdinalDispatch.Proofs.Loader.Operations
import OrdinalDispatch.Proofs.Loader.Repetition
import OrdinalDispatch.Proofs.Loader.Tracing

/-!
Contract: what a request leaves behind that fails.

Owns: the scene of every step of a request in full, events and world included,
the ways to fail, what a failed linking has in common with a successful one, and
later requests for a unit whose linking failed.

Does not own: the books of a registry, see `OrdinalDispatch.Proofs.Loader.Serving`.

A request does four things in a row: it asks for name and scope, opens the
context, installs the unit if it is missing, and links it. Each step changes the
scene only once nothing can fail in it any more, so a failed request leaves what
the steps before have done, and no more.
-/

set_option autoImplicit false

namespace OrdinalDispatch.Loader

open OrdinalDispatch.Code

variable {World : Type}

/-! ## Steps in full -/

/-- The scene with one unit more in a context, counted and reported. -/
def Generator.installing (generator : Generator World) (place : UnitPlace)
    (context : Context World) (image : Image) (members : Nat) (scene : Scene World) :
    Scene World :=
  { scene with
    store := scene.store.updateContext place.registry place.scope fun _ =>
      context.adding ⟨place.name, context.id, image, []⟩
    generated := scene.generated.modify generator.number (· + 1)
    events := (scene.events.push (.installedUnit place.name context.id)).push
      (.generatedUnit place.name context.id members) }

/-- What obtaining the unit of a class comes to, and the scene it leaves. No description or no image
leaves an opened context; a unit that is there is used again; and a missing one is traced, installed
and counted. -/
inductive Acquires (generator : Generator World) (classId : ClassId) (place : UnitPlace)
    (scene : Scene World) :
    Except GenerationError (InstalledUnit World) → Scene World → Prop where
  | undescribed {context : Context World} {opened : Scene World} {finish : World}
      (opens : Opens place.registry place.scope scene context opened)
      (free : context.find? place.name = none)
      (answer : (generator.model.describe classId).run scene.world = (none, finish)) :
      Acquires generator classId place scene (.error (.unknownType classId))
        { opened with world := finish }
  | unbuilt {context : Context World} {opened : Scene World} {finish : World}
      {description : TypeDescription} {cause : ImageError}
      (opens : Opens place.registry place.scope scene context opened)
      (free : context.find? place.name = none)
      (described : (generator.model.describe classId).run scene.world =
        (some description, finish))
      (fails : Image.ofDescription description = .error cause) :
      Acquires generator classId place scene (.error (.malformedImage description.name cause))
        { opened with world := finish }
  | reused {context : Context World} {unit : InstalledUnit World}
      (found : (scene.store.registry place.registry).context? place.scope = some context)
      (present : context.find? place.name = some unit) :
      Acquires generator classId place scene (.ok unit)
        { scene with events := scene.events.push (.reusedUnit place.name context.id) }
  | installed {context : Context World} {opened traced : Scene World} {finish : World}
      {description : TypeDescription} {image : Image}
      (opens : Opens place.registry place.scope scene context opened)
      (free : context.find? place.name = none)
      (described : (generator.model.describe classId).run scene.world =
        (some description, finish))
      (built : Image.ofDescription description = .ok image)
      (traces : if generator.settings.traceEnabled then
          Traced generator place.name image { opened with world := finish } traced
        else traced = { opened with world := finish }) :
      Acquires generator classId place scene (.ok ⟨place.name, context.id, image, []⟩)
        (generator.installing place context image description.memberCount traced)

/-- The ways in which a request fails, each with the scene it leaves: the class has no name, its
unit cannot be obtained, or the unit cannot be linked, whether it was there or has just been
installed. -/
inductive Fails (generator : Generator World) (classId : ClassId) (scene : Scene World) :
    GenerationError → Scene World → Prop where
  | nameless {finish : World}
      (answer : (generator.model.typeName classId).run scene.world = (none, finish)) :
      Fails generator classId scene (.unknownType classId) { scene with world := finish }
  | unacquired {place : UnitPlace} {asked : World} {error : GenerationError}
      {later : Scene World} (located : Locates generator classId scene.world place asked)
      (acquires : Acquires generator classId place { scene with world := asked } (.error error)
        later) :
      Fails generator classId scene error later
  | unlinked {place : UnitPlace} {asked finish : World} {unit : InstalledUnit World}
      {held : Scene World} {fault : LinkFault}
      (located : Locates generator classId scene.world place asked)
      (acquires : Acquires generator classId place { scene with world := asked } (.ok unit) held)
      (unknown : unit.linkage? generator.modelId = none)
      (fails : (Machine.Linkage.ofImage generator.model unit.image).run held.world =
        (.error fault, finish)) :
      Fails generator classId scene (.instantiation unit.image.typeName fault)
        { held with world := finish }

section Steps

variable {generator : Generator World} {classId : ClassId} {place : UnitPlace}
  {scene later : Scene World} {context : Context World}

/-- Installing a sound image under a free name succeeds. -/
theorem installCounted_of_free {image : Image} {members : Nat}
    (found : (scene.store.registry place.registry).context? place.scope = some context)
    (free : context.find? place.name = none) (passes : image.fault? = none) :
    (generator.installCounted place image (.generatedUnit place.name context.id members)).run
        scene =
      (.ok ⟨place.name, context.id, image, []⟩,
        generator.installing place context image members scene) := by
  have defines := defineUnit_eq (resolve_resolved found) image
  rw [passes, free] at defines
  rw [Generator.installCounted, run_bind_of_run defines]
  rfl

/-- Obtaining a unit comes to what it may come to, for a class whose images are short enough. -/
theorem obtain_acquires (inRange : place.registry < scene.store.registries.length)
    (short : BuildsShort generator classId scene.world)
    {result : Except GenerationError (InstalledUnit World)}
    (done : (generator.obtain classId place).run scene = (result, later)) :
    Acquires generator classId place scene result later := by
  obtain ⟨context, opened, isResolved, following⟩ := exists_of_bind_run done
  have opens := resolve_opens isResolved
  have found : (opened.store.registry place.registry).context? place.scope = some context := by
    obtain ⟨rfl, store, -⟩ := opens.resolved
    rw [store]
    exact Store.context?_resolve inRange place.scope
  cases free : context.find? place.name with
  | some unit =>
      simp only [free] at following
      obtain ⟨rfl, rfl⟩ := Prod.mk.inj following
      cases opens with
      | known isThere => exact .reused isThere free
      | created missing => cases free
  | none =>
      simp only [free] at following
      have world := opens.resolved.2.2.1
      cases install_runs following with
      | undescribed answer left =>
          subst left
          exact .undescribed opens free (world ▸ answer)
      | unbuilt described failed left =>
          subst left
          exact .unbuilt opens free (world ▸ described) failed
      | @counted finish description image traced _ described built traces counts =>
          have passes := (@built_images_verify World _ _ built
            (short _ description image (world ▸ described) built)).1
          have books := books_of_traces traces
          rw [installCounted_of_free (books.store ▸ found) free passes] at counts
          obtain ⟨rfl, rfl⟩ := Prod.mk.inj counts
          exact .installed opens free (world ▸ described) built traces

/-- The unit that is obtained has the name that it was looked for by. -/
theorem Acquires.name {unit : InstalledUnit World}
    (acquires : Acquires generator classId place scene (.ok unit) later) :
    unit.name = place.name := by
  cases acquires with
  | reused found present => exact Context.name_of_find? present
  | installed opens free described built traces => rfl

/-- Where no unit is obtained, none has changed, and nothing was counted. -/
theorem Acquires.spares (inRange : place.registry < scene.store.registries.length)
    {error : GenerationError}
    (acquires : Acquires generator classId place scene (.error error) later) :
    later.store.unitAt = scene.store.unitAt ∧ later.generated = scene.generated ∧
      later.released = scene.released := by
  cases acquires with
  | undescribed opens free answer | unbuilt opens free described fails =>
      obtain ⟨-, store, -, generated, released⟩ := opens.resolved
      refine ⟨?_, generated, released⟩
      show Store.unitAt _ = _
      rw [store]
      exact funext (Store.unitAt_resolve inRange place.scope)

/-- A request that fails does so in one of the ways there are. -/
theorem generate_fails (inRange : generator.registry < scene.store.registries.length)
    (short : Addressable (generator, classId) scene.world) {error : GenerationError}
    (failed : (generator.generate classId).run scene = (.error error, later)) :
    Fails generator classId scene error later := by
  rcases generate_steps failed with ⟨finish, unnamed, isError, rfl⟩ |
    ⟨place, asked, outcome, held, located, isObtained, following⟩
  · obtain rfl := Except.error.inj isError
    exact .nameless unnamed
  · have acquires := obtain_acquires (located.registry ▸ inRange) (short _ _ located) isObtained
    rcases following with ⟨_, rfl, isError, rfl⟩ | ⟨unit, rfl, isLinked⟩
    · obtain rfl := Except.error.inj isError
      exact .unacquired located acquires
    · cases instantiate_runs isLinked with
      | unlinked unknown fails => exact .unlinked located acquires unknown fails

end Steps

/-! ## What a successful linking adds -/

/-- Two generators whose models may differ in the handles of members, in overrides and in
assignability, and in nothing else. -/
structure SameButHandles (generator other : Generator World) : Prop where
  number : generator.number = other.number
  modelId : generator.modelId = other.modelId
  scopeOf : generator.scopeOf = other.scopeOf
  registry : generator.registry = other.registry
  settings : generator.settings = other.settings
  sink : generator.sink = other.sink
  writeFile : generator.writeFile = other.writeFile
  typeName : generator.model.typeName = other.model.typeName
  constructors : generator.model.constructors = other.model.constructors
  methods : generator.model.methods = other.model.methods
  fields : generator.model.fields = other.model.fields
  describe : generator.model.describe = other.model.describe

/-- One scene is the other one with the linkage of an accessor stored and reported. The world is not
compared: models with different handles are asked different questions. -/
structure LinksOnly (accessor : Accessor World) (scene linked : Scene World) : Prop where
  store : linked.store =
    scene.store.updateContext accessor.place.registry accessor.place.scope fun context =>
      context.updateUnit accessor.place.name fun unit =>
        unit.addLinkage scene.isLive accessor.modelId accessor.linked.linkage
  generated : linked.generated = scene.generated
  released : linked.released = scene.released
  events : linked.events = scene.events.push
    (.linkedUnit accessor.place.name accessor.linked.linkage.memberCount)

section Counterparts

variable {generator other : Generator World} {classId : ClassId} {scene later linked : Scene World}

/-- Handles make no difference until a unit is linked. -/
theorem SameButHandles.obtain (same : SameButHandles generator other) (place : UnitPlace) :
    other.obtain classId place = generator.obtain classId place := by
  have sinks : other.sink? = generator.sink? := by
    simp only [Generator.sink?, same.sink, same.settings, same.writeFile]
  have traces (unit : String) (image : Image) :
      other.trace unit image = generator.trace unit image := by
    simp only [Generator.trace, sinks]
  simp only [Generator.obtain, Generator.install, Generator.count, same.describe, traces,
    same.settings, same.number]

theorem Locates.unique {world asked askedToo : World} {place placeToo : UnitPlace}
    (located : Locates generator classId world place asked)
    (locatedToo : Locates generator classId world placeToo askedToo) :
    placeToo = place ∧ askedToo = asked := by
  cases located with
  | asked named resolved =>
      cases locatedToo with
      | asked namedToo resolvedToo =>
          cases named.symm.trans namedToo
          cases resolved.symm.trans resolvedToo
          exact ⟨rfl, rfl⟩

theorem SameButHandles.locates (same : SameButHandles generator other) {world asked : World}
    {place : UnitPlace} (located : Locates other classId world place asked) :
    Locates generator classId world place asked := by
  cases located with
  | asked named resolved =>
      rw [← same.registry]
      exact .asked (same.typeName ▸ named) (same.scopeOf ▸ resolved)

/-- A request whose linking fails leaves what it would leave if linking succeeded, but for the
linkage. -/
theorem linksOnly_of_same (same : SameButHandles generator other)
    (inRange : generator.registry < scene.store.registries.length)
    (short : Addressable (generator, classId) scene.world) {typeName : String} {fault : LinkFault}
    (failed : (generator.generate classId).run scene =
      (.error (.instantiation typeName fault), later))
    {accessor : Accessor World}
    (answered : (other.generate classId).run scene = (.ok accessor, linked)) :
    LinksOnly accessor later linked := by
  rcases generate_steps failed with ⟨_, -, isError, -⟩ |
    ⟨place, asked, outcome, held, located, isObtained, following⟩
  · cases isError
  rcases generate_steps answered with ⟨_, -, isOk, -⟩ |
    ⟨placeToo, askedToo, outcomeToo, heldToo, locatedToo, isObtainedToo, followingToo⟩
  · cases isOk
  obtain ⟨rfl, rfl⟩ := located.unique (same.locates locatedToo)
  obtain ⟨rfl, rfl⟩ := Prod.mk.inj
    (isObtained.symm.trans (same.obtain placeToo ▸ isObtainedToo))
  have acquires := obtain_acquires (located.registry ▸ inRange) (short _ _ located) isObtained
  rcases followingToo with ⟨_, -, isOk, -⟩ | ⟨unit, rfl, links⟩
  · cases isOk
  rcases following with ⟨_, isOk, -⟩ | ⟨_, isUnit, fails⟩
  · cases isOk
  obtain rfl := Except.ok.inj isUnit
  cases instantiate_runs fails with
  | unlinked unknown isError =>
      rw [same.modelId] at unknown
      cases instantiate_runs links with
      | stored known => cases unknown.symm.trans known
      | linked unknownToo isLinkage => exact ⟨rfl, rfl, rfl, by rw [acquires.name]⟩

end Counterparts

/-! ## Later requests for a unit that was not linked -/

/-- What a request for an installed unit comes to. Nothing is built, counted or traced: all images
stay, and the world is the one that the questions of linking leave, if there are any. The request is
answered just if the unit is linked to the model already or can be linked to it now, and then the
accessor runs the image that was there. -/
structure Relinks (generator : Generator World) (place : UnitPlace) (unit : InstalledUnit World)
    (asked : World) (scene later : Scene World)
    (result : Except GenerationError (Accessor World)) : Prop where
  generated : later.generated = scene.generated
  images : ∀ other, (later.store.unitAt other).map InstalledUnit.image =
    (scene.store.unitAt other).map InstalledUnit.image
  world : later.world = if (unit.linkage? generator.modelId).isSome then asked
    else ((Machine.Linkage.ofImage generator.model unit.image).run asked).2
  answered : (∃ accessor, result = .ok accessor) ↔
    (∃ linkage, unit.linkage? generator.modelId = some linkage) ∨
      ∃ linkage finish,
        (Machine.Linkage.ofImage generator.model unit.image).run asked = (.ok linkage, finish)
  runs : ∀ accessor, result = .ok accessor →
    accessor.place = place ∧ accessor.linked.image = unit.image

section Later

variable {generators : List (Generator World)} {number : Nat} {generator : Generator World}
  {classId : ClassId} {place : UnitPlace} {asked : World} {scene later : Scene World}
  {unit : InstalledUnit World}

theorem relinks_of_unitAt (books : Books generators number scene)
    (here : generator.registry = number)
    (located : Locates generator classId scene.world place asked)
    (isThere : scene.store.unitAt place = some unit)
    {result : Except GenerationError (Accessor World)}
    (done : (generator.generate classId).run scene = (result, later)) :
    Relinks generator place unit asked scene later result := by
  subst here
  cases located with
  | @asked typeName scope _ _ isNamed resolved =>
  obtain ⟨context, found, present⟩ := Option.bind_eq_some_iff.mp isThere
  cases known : unit.linkage? generator.modelId with
  | some linkage =>
      rw [generate_of_linked isNamed resolved found present known] at done
      obtain ⟨rfl, rfl⟩ := Prod.mk.inj done
      refine ⟨rfl, fun _ => rfl, ?_, ?_, ?_⟩
      · rw [known, Option.isSome_some, if_pos rfl]
      · exact ⟨fun _ => .inl ⟨linkage, known⟩, fun _ => ⟨_, rfl⟩⟩
      · intro accessor isAccessor
        obtain rfl := Except.ok.inj isAccessor
        exact ⟨rfl, rfl⟩
  | none =>
      rw [generate_of_found isNamed resolved found present] at done
      have notLinked : ¬∃ linkage, unit.linkage? generator.modelId = some linkage := by
        rw [known]
        rintro ⟨_, isSome⟩
        cases isSome
      cases instantiate_run done with
      | stored isKnown same => exact absurd ⟨_, isKnown⟩ notLinked
      | unlinked unknown fails same =>
          refine ⟨same.generated, fun other => by rw [same.store], ?_, ?_, nofun⟩
          · rw [known, Option.isSome_none, if_neg Bool.false_ne_true]
            exact (congrArg Prod.snd fails).symm
          · constructor
            · rintro ⟨_, isOk⟩
              cases isOk
            · rintro (isKnown | ⟨linkage, finish, links⟩)
              · exact absurd isKnown notLinked
              · cases fails.symm.trans links
      | @linked linkage unknown links store generated released =>
          have units := (books.linked isThere
            (Context.keepsIdentity_addLinkage scene.isLive generator.modelId linkage) store
            generated).2
          refine ⟨generated, fun other => ?_, ?_, ?_, ?_⟩
          · rw [units]
            by_cases isPlace : other = ⟨generator.registry, scope, unitName typeName classId⟩
            · rw [isPlace, Function.update_self, isThere]
              rfl
            · rw [Function.update_of_ne isPlace]
          · rw [known, Option.isSome_none, if_neg Bool.false_ne_true]
            exact (congrArg Prod.snd links).symm
          · exact ⟨fun _ => .inr ⟨linkage, _, links⟩, fun _ => ⟨_, rfl⟩⟩
          · intro accessor isAccessor
            obtain rfl := Except.ok.inj isAccessor
            exact ⟨rfl, rfl⟩

/-- A request that fails in linking leaves the unit at its place. -/
theorem Served.unitAt_of_unlinked {typeName : String} {fault : LinkFault}
    (served : Served generator classId scene later (.error (.instantiation typeName fault))) :
    ∃ place asked unit, Locates generator classId scene.world place asked ∧
      later.store.unitAt place = some unit ∧ unit.image.typeName = typeName := by
  cases served with
  | refused located reason units => cases reason
  | unlinked located holds unknown leaves fails units =>
      exact ⟨_, _, _, located, (congrFun units _).trans (Function.update_self ..), rfl⟩

end Later

/-- A failed request stops between its steps. It leaves the scene of one of the ways to fail. A
nameless class leaves everything as it was, and where no unit is obtained, no unit changes and
nothing is counted. Where linking fails, the scene is that of a successful request but for the
linkage; and the unit stays, so that every later request for it, by any generator, uses its image
again, builds, counts and traces nothing, and is answered just if the image is linked to the
generator's model already or can be linked to it then. -/
theorem failed_requests_stop_between_steps {generators : List (Generator World)} {number : Nat}
    (sharing : Sharing generators number) {start scene later : Scene World}
    (fresh : Fresh generators number start) {accessors : List (Accessor World)}
    (runs : Runs generators number start accessors scene) {generator : Generator World}
    (member : generator ∈ generators) {classId : ClassId}
    (short : Addressable (generator, classId) scene.world) {error : GenerationError}
    (failed : (generator.generate classId).run scene = (.error error, later)) :
    Fails generator classId scene error later ∧
    ((∀ typeName fault, error ≠ .instantiation typeName fault) →
      later.store.unitAt = scene.store.unitAt ∧ later.generated = scene.generated ∧
        later.released = scene.released) ∧
    ∀ typeName fault, error = .instantiation typeName fault →
      (∀ other accessor linked, SameButHandles generator other →
        (other.generate classId).run scene = (.ok accessor, linked) →
          LinksOnly accessor later linked) ∧
      ∃ place asked unit, Locates generator classId scene.world place asked ∧
        later.store.unitAt place = some unit ∧ unit.image.typeName = typeName ∧
        ∀ more last, Runs generators number later more last →
          ∃ same, last.store.unitAt place = some same ∧ same.image = unit.image ∧
            ∀ again : Generator World, again.registry = number → ∀ askedAgain,
              Locates again classId last.world place askedAgain → ∀ result final,
                (again.generate classId).run last = (result, final) →
                  Relinks again place same askedAgain last final result := by
  have books := runs.books sharing fresh.books
  have inRange : generator.registry < scene.store.registries.length :=
    sharing.registry generator member ▸ books.inRange
  have fails := generate_fails inRange short failed
  refine ⟨fails, fun notLinking => ?_, ?_⟩
  · cases fails with
    | nameless answer => exact ⟨rfl, rfl, rfl⟩
    | @unacquired place asked _ _ located acquires =>
        have spared := acquires.spares (located.registry ▸ inRange)
        exact spared
    | unlinked located acquires unknown links => exact absurd rfl (notLinking _ _)
  · rintro typeName fault rfl
    refine ⟨fun other accessor linked same answered =>
      linksOnly_of_same same inRange short failed answered, ?_⟩
    obtain ⟨kept, -, served⟩ := generate_serves sharing books member failed
    obtain ⟨place, asked, unit, located, isThere, isName⟩ := served.unitAt_of_unlinked
    refine ⟨place, asked, unit, located, isThere, isName, fun more last following => ?_⟩
    have here : place.registry = number := located.registry.trans (sharing.registry _ member)
    obtain ⟨same, isSame, goesOn⟩ := following.continues sharing kept here isThere
    refine ⟨same, isSame, goesOn.image, ?_⟩
    intro again isHere askedAgain locatedAgain result final done
    exact relinks_of_unitAt (following.books sharing kept) isHere locatedAgain isSame done

/-! ## A counter without a handle -/

/-- The idle counter without the handle of its constructor. -/
def handlelessModel : Machine.TypeModel (List String) :=
  { idleCounterModel with constructorHandle := fun _ _ => return none }

/-- A generator over the counter without a handle, whose traces are noted. -/
def handlelessGenerator : Generator (List String) :=
  { notingGenerator 0 with model := handlelessModel }

theorem sharing_handleless : Sharing [handlelessGenerator, silentGenerator 1] 0 :=
  ⟨by simp [handlelessGenerator, notingGenerator, silentGenerator],
    by simp [handlelessGenerator, notingGenerator, silentGenerator]⟩

theorem fresh_handleless : Fresh [handlelessGenerator, silentGenerator 1] 0 silentScene :=
  ⟨⟨⟨0⟩, 0, rfl⟩, by simp [handlelessGenerator, notingGenerator, silentGenerator, silentScene]⟩

theorem canBuild_handleless : CanBuild handlelessGenerator counter.classId counterImage where
  named _ := rfl
  builds _ := ⟨counter, rfl, counter_built⟩
  short := counter_short

theorem unlinked_handleless (start : List String) :
    ∃ fault, (Machine.Linkage.ofImage handlelessModel counterImage).run start =
      (.error fault, start) :=
  ⟨_, rfl⟩

theorem linked_idleCounter (start : List String) :
    ∃ linkage, (Machine.Linkage.ofImage idleCounterModel counterImage).run start =
      (.ok linkage, start) :=
  ⟨_, rfl⟩

/-- Both generators can build the image of the counter. -/
theorem canBuild_counter : ∀ generator ∈ [handlelessGenerator, silentGenerator 1],
    CanBuild generator counter.classId counterImage := by
  have idle : CanBuild (silentGenerator 1) counter.classId counterImage :=
    (canAnswer_idleCounter rfl).toCanBuild
  simp [canBuild_handleless, idle]

/-- The first request for the counter without a handle fails to link it. -/
theorem failed_handleless :
    ∃ fault later, (handlelessGenerator.generate counter.classId).run silentScene =
      (.error (.instantiation counterImage.typeName fault), later) := by
  rcases done : (handlelessGenerator.generate counter.classId).run silentScene with ⟨result, later⟩
  have before := @Runs.start _ [handlelessGenerator, silentGenerator 1] 0 silentScene
  rcases before.settled sharing_handleless fresh_handleless canBuild_counter List.mem_cons_self done
    with ⟨start, fault, -, rfl⟩ | ⟨accessor, rfl, -, present | ⟨start, linkage, links⟩⟩
  · exact ⟨fault, later, rfl⟩
  · have completes := generate_completes sharing_handleless fresh_handleless.books
      List.mem_cons_self done
    obtain ⟨asked, located⟩ := completes.located
    rw [fresh_handleless.unitAt_eq_none located.registry] at present
    cases present
  · obtain ⟨fault, fails⟩ := unlinked_handleless start
    cases links.symm.trans (congrArg Prod.fst fails)

theorem failed_requests_stop_between_steps_counter :
    ∃ fault later accessor final,
      Sharing [handlelessGenerator, silentGenerator 1] 0 ∧
      Fresh [handlelessGenerator, silentGenerator 1] 0 silentScene ∧
      Addressable (handlelessGenerator, counter.classId) silentScene.world ∧
      (handlelessGenerator.generate counter.classId).run silentScene =
        (.error (.instantiation counterImage.typeName fault), later) ∧
      ((silentGenerator 1).generate counter.classId).run later = (.ok accessor, final) ∧
      final.generated = later.generated := by
  obtain ⟨fault, later, failed⟩ := failed_handleless
  have before := @Runs.start _ [handlelessGenerator, silentGenerator 1] 0 silentScene
  have addressable := canBuild_handleless.addressable silentScene.world
  obtain ⟨-, -, unlinked⟩ := failed_requests_stop_between_steps sharing_handleless fresh_handleless
    before List.mem_cons_self addressable failed
  obtain ⟨-, place, asked, unit, located, isThere, -, stays⟩ := unlinked _ _ rfl
  obtain ⟨same, -, isImage, relinks⟩ := stays [] later .start
  have only := (before.refused List.mem_cons_self failed).hasOnly sharing_handleless
    fresh_handleless fun generator member => (canBuild_counter generator member).buildsOnly
  cases located with
  | asked named resolved =>
      cases named
      cases resolved
      rcases done : ((silentGenerator 1).generate counter.classId).run later with ⟨result, final⟩
      have relinked := relinks (silentGenerator 1) rfl _ (.asked rfl rfl) result final done
      obtain ⟨linkage, links⟩ := linked_idleCounter later.world
      have isCounter : unit.image = counterImage := only _ _ unit isThere
      rw [← isCounter, ← isImage] at links
      obtain ⟨accessor, rfl⟩ := relinked.answered.mpr (.inr ⟨linkage, _, links⟩)
      exact ⟨fault, later, accessor, final, sharing_handleless, fresh_handleless, addressable,
        failed, done, relinked.generated⟩

end OrdinalDispatch.Loader

import OrdinalDispatch.Proofs.Loader.Requests

/-!
Contract: a request keeps the books of a registry, and changes at most the unit
at its own place.

Owns: when the counts of generators and the units of their registry agree, and
what a request comes to, said by places alone.

Does not own: sequences of requests, see `OrdinalDispatch.Proofs.Loader.Runs`.
-/

set_option autoImplicit false

namespace OrdinalDispatch.Loader

open OrdinalDispatch.Code

variable {World : Type}

/-! ## Books of a registry -/

/-- The counts of images over generators, summed up. -/
def totalGenerated (generators : List (Generator World)) (scene : Scene World) : Nat :=
  (generators.map fun generator => generator.generatedCount scene).sum

/-- The registry is in order, and holds as many units as its generators have counted. -/
structure Books (generators : List (Generator World)) (number : Nat) (scene : Scene World) :
    Prop where
  inRange : number < scene.store.registries.length
  tidy : (scene.store.registry number).Tidy
  numbered : ∀ generator ∈ generators, generator.number < scene.generated.length
  counted : totalGenerated generators scene = (scene.store.registry number).unitCount

/-- Counting at one place adds one to a sum that has the place once. -/
theorem sum_getD_modify {counts : List Nat} {places : List Nat} {place : Nat}
    (distinct : places.Nodup) (member : place ∈ places) (inside : place < counts.length) :
    (places.map fun other => (counts.modify place (· + 1)).getD other 0).sum =
      (places.map fun other => counts.getD other 0).sum + 1 := by
  have same {other : Nat} (different : other ≠ place) :
      (counts.modify place (· + 1)).getD other 0 = counts.getD other 0 := by
    simp [List.getD_eq_getElem?_getD, Ne.symm different]
  induction places with
  | nil => cases member
  | cons first rest inductionHypothesis =>
      rw [List.nodup_cons] at distinct
      simp only [List.map_cons, List.sum_cons]
      rcases List.mem_cons.mp member with rfl | later
      · have others : rest.map (fun other => (counts.modify place (· + 1)).getD other 0) =
            rest.map fun other => counts.getD other 0 :=
          List.map_congr_left fun other isOther =>
            same fun isPlace => distinct.1 (isPlace ▸ isOther)
        rw [others]
        simp [List.getD_eq_getElem?_getD, inside]
        omega
      · have different : first ≠ place := fun isPlace => distinct.1 (isPlace ▸ later)
        rw [same different, inductionHypothesis distinct.2 later]
        omega

/-- Generators that share a registry: they have different numbers. -/
structure Sharing (generators : List (Generator World)) (number : Nat) : Prop where
  registry : ∀ generator ∈ generators, generator.registry = number
  distinct : (generators.map Generator.number).Nodup

theorem totalGenerated_count {generators : List (Generator World)} {number : Nat}
    {scene later : Scene World} (sharing : Sharing generators number)
    {generator : Generator World} (member : generator ∈ generators)
    (inside : generator.number < scene.generated.length)
    (counts : later.generated = scene.generated.modify generator.number (· + 1)) :
    totalGenerated generators later = totalGenerated generators scene + 1 := by
  have places := sum_getD_modify sharing.distinct (List.mem_map_of_mem member) inside
  rw [List.map_map, List.map_map] at places
  unfold totalGenerated Generator.generatedCount
  rw [counts]
  exact places

/-! ## What a request comes to -/

/-- Where the unit of a class is looked for: in the context of the class's scope, under the name
that its type's name makes. Both are asked for in a world, which the questions may change. -/
inductive Locates (generator : Generator World) (classId : ClassId) (world : World) :
    UnitPlace → World → Prop where
  | asked {typeName : String} {scope : ScopeId} {middle finish : World}
      (named : (generator.model.typeName classId).run world = (some typeName, middle))
      (resolved : (generator.scopeOf classId).run middle = (scope, finish)) :
      Locates generator classId world ⟨generator.registry, scope, unitName typeName classId⟩ finish

theorem Locates.registry {generator : Generator World} {classId : ClassId} {world asked : World}
    {place : UnitPlace} (located : Locates generator classId world place asked) :
    place.registry = generator.registry := by
  cases located with
  | asked named resolved => rfl

/-- The unit that a request works with: the one that was there, or a new one without linkages, whose
image is built from the description that is asked for in a world. -/
inductive Holds (generator : Generator World) (classId : ClassId) (asked : World)
    (place : UnitPlace) (store : Store World) : InstalledUnit World → Prop where
  | reused {unit : InstalledUnit World} (present : store.unitAt place = some unit) :
      Holds generator classId asked place store unit
  | installed {context : UInt32} {finish : World} {description : TypeDescription} {image : Image}
      (missing : store.unitAt place = none)
      (described : (generator.model.describe classId).run asked = (some description, finish))
      (built : Image.ofDescription description = .ok image) (passes : image.fault? = none) :
      Holds generator classId asked place store ⟨place.name, context, image, []⟩

/-- The world that obtaining the unit of a class leaves behind, when the unit is looked for in a
world. -/
inductive Leaves (generator : Generator World) (classId : ClassId) (place : UnitPlace)
    (asked : World) : World → Prop where
  | obtained {opened held : Scene World} {outcome : Except GenerationError (InstalledUnit World)}
      (opens : opened.world = asked)
      (done : (generator.obtain classId place).run opened = (outcome, held)) :
      Leaves generator classId place asked held.world

/-- What a request comes to. A nameless class and a refused one change no unit. Any other request
changes the unit at its place at most, which may be new, and stores a linkage only if linking
succeeds. -/
inductive Served (generator : Generator World) (classId : ClassId) (scene later : Scene World) :
    Except GenerationError (Accessor World) → Prop where
  | nameless {finish : World}
      (answer : (generator.model.typeName classId).run scene.world = (none, finish))
      (units : later.store.unitAt = scene.store.unitAt) :
      Served generator classId scene later (.error (.unknownType classId))
  | refused {error : GenerationError} {place : UnitPlace} {asked : World}
      (located : Locates generator classId scene.world place asked)
      (reason : Refuses generator classId place.name asked error)
      (units : later.store.unitAt = scene.store.unitAt) :
      Served generator classId scene later (.error error)
  | unlinked {place : UnitPlace} {unit : InstalledUnit World} {fault : LinkFault}
      {asked start : World} (located : Locates generator classId scene.world place asked)
      (holds : Holds generator classId asked place scene.store unit)
      (unknown : unit.linkage? generator.modelId = none)
      (leaves : Leaves generator classId place asked start)
      (fails : (Machine.Linkage.ofImage generator.model unit.image).run start =
        (.error fault, later.world))
      (units : later.store.unitAt = Function.update scene.store.unitAt place (some unit)) :
      Served generator classId scene later (.error (.instantiation unit.image.typeName fault))
  | stored {place : UnitPlace} {unit : InstalledUnit World} {linkage : Machine.Linkage World}
      {asked : World} (located : Locates generator classId scene.world place asked)
      (holds : Holds generator classId asked place scene.store unit)
      (known : unit.linkage? generator.modelId = some linkage)
      (units : later.store.unitAt = Function.update scene.store.unitAt place (some unit)) :
      Served generator classId scene later
        (.ok ⟨place, generator.modelId, ⟨unit.image, linkage, generator.model⟩⟩)
  | linked {place : UnitPlace} {unit : InstalledUnit World} {linkage : Machine.Linkage World}
      {asked start : World} (located : Locates generator classId scene.world place asked)
      (holds : Holds generator classId asked place scene.store unit)
      (unknown : unit.linkage? generator.modelId = none)
      (leaves : Leaves generator classId place asked start)
      (links : (Machine.Linkage.ofImage generator.model unit.image).run start =
        (.ok linkage, later.world))
      (units : later.store.unitAt = Function.update scene.store.unitAt place
        (some (unit.addLinkage scene.isLive generator.modelId linkage))) :
      Served generator classId scene later
        (.ok ⟨place, generator.modelId, ⟨unit.image, linkage, generator.model⟩⟩)

section Requests

variable {generators : List (Generator World)} {number : Nat} {generator : Generator World}
  {classId : ClassId} {place : UnitPlace} {scene later : Scene World}

/-- Books depend on the store and the counts alone. -/
theorem Books.of_same (books : Books generators number scene)
    (store : later.store = scene.store) (generated : later.generated = scene.generated) :
    Books generators number later := by
  constructor
  · exact store ▸ books.inRange
  · exact store ▸ books.tidy
  · exact generated ▸ books.numbered
  · rw [store, ← books.counted]
    unfold totalGenerated Generator.generatedCount
    rw [generated]

/-- Opening a context changes no book and no unit. -/
theorem Books.opened (books : Books generators number scene) {scope : ScopeId}
    (store : later.store = (scene.store.resolve number scope).2.1)
    (generated : later.generated = scene.generated) :
    Books generators number later ∧ later.store.unitAt = scene.store.unitAt := by
  have registry := Store.registry_resolve books.inRange scope
  refine ⟨⟨?_, ?_, generated ▸ books.numbered, ?_⟩, ?_⟩
  · rw [store, Store.length_resolve]
    exact books.inRange
  · rw [store, registry]
    exact books.tidy.opened scope _
  · rw [store, registry, Registry.unitCount_opened, ← books.counted]
    unfold totalGenerated Generator.generatedCount
    rw [generated]
  · rw [store]
    exact funext (Store.unitAt_resolve books.inRange scope)

/-- Installing a unit and counting it keeps the books. -/
theorem Books.installed (books : Books generators number scene)
    (sharing : Sharing generators number) (member : generator ∈ generators)
    {context : Context World} {scope : ScopeId} {name : String} {image : Image}
    (found : (scene.store.registry number).context? scope = some context)
    (free : context.find? name = none)
    (store : later.store = scene.store.updateContext number scope fun _ =>
      context.adding ⟨name, context.id, image, []⟩)
    (generated : later.generated = scene.generated.modify generator.number (· + 1)) :
    Books generators number later ∧
      later.store.unitAt = Function.update scene.store.unitAt ⟨number, scope, name⟩
        (some ⟨name, context.id, image, []⟩) := by
  have registry := Store.registry_updateContext books.inRange scope fun _ =>
    context.adding ⟨name, context.id, image, []⟩
  have parent := Registry.parent_of_context? found
  refine ⟨⟨?_, ?_, ?_, ?_⟩, ?_⟩
  · rw [store, Store.updateContext, List.length_modify]
    exact books.inRange
  · rw [store, registry]
    refine Registry.Tidy.updateContext books.tidy.scopes (fun _ _ => parent) books.tidy ?_
    intro _ _
    exact (books.tidy.contexts context (Registry.mem_of_context? found)).adding free rfl
  · intro other isOther
    rw [generated, List.length_modify]
    exact books.numbered other isOther
  · have units := Registry.unitCount_updateContext books.tidy.scopes found fun _ =>
      context.adding ⟨name, context.id, image, []⟩
    rw [store, registry, totalGenerated_count sharing member (books.numbered generator member)
      generated, books.counted]
    simp only [Context.adding, List.length_append, List.length_singleton] at units ⊢
    omega
  · rw [store]
    exact Store.unitAt_install books.inRange books.tidy found free

/-- Storing a linkage keeps the books. -/
theorem Books.linked (books : Books generators number scene) {scope : ScopeId} {name : String}
    {unit : InstalledUnit World} {update : InstalledUnit World → InstalledUnit World}
    (present : scene.store.unitAt ⟨number, scope, name⟩ = some unit)
    (keeps : Context.KeepsIdentity update)
    (store : later.store = scene.store.updateContext number scope fun context =>
      context.updateUnit name update)
    (generated : later.generated = scene.generated) :
    Books generators number later ∧
      later.store.unitAt =
        Function.update scene.store.unitAt ⟨number, scope, name⟩ (some (update unit)) := by
  obtain ⟨context, found, isThere⟩ := Option.bind_eq_some_iff.mp present
  have registry := Store.registry_updateContext books.inRange scope fun context =>
    context.updateUnit name update
  refine ⟨⟨?_, ?_, generated ▸ books.numbered, ?_⟩, ?_⟩
  · rw [store, Store.updateContext, List.length_modify]
    exact books.inRange
  · rw [store, registry]
    refine Registry.Tidy.updateContext books.tidy.scopes (fun _ same => same) books.tidy ?_
    intro other isOther
    exact (books.tidy.contexts other (Registry.mem_of_context? isOther)).updateUnit keeps name
  · have units := Registry.unitCount_updateContext books.tidy.scopes found fun context =>
      context.updateUnit name update
    have total : totalGenerated generators later = totalGenerated generators scene := by
      unfold totalGenerated Generator.generatedCount
      rw [generated]
    rw [store, registry, total, books.counted]
    simp only [Context.updateUnit, List.length_map] at units ⊢
    omega
  · rw [store]
    exact Store.unitAt_updateUnit books.inRange books.tidy found isThere keeps

/-- Obtaining the unit of a class keeps the books, and leaves the unit at its place. -/
theorem Books.obtained (books : Books generators number scene)
    (sharing : Sharing generators number) (member : generator ∈ generators) {scope : ScopeId}
    {typeName : String} {result : Except GenerationError (InstalledUnit World)}
    (obtained : Obtained generator classId ⟨number, scope, unitName typeName classId⟩ scene later
      result) :
    Books generators number later ∧
      ((∃ error, result = .error error ∧
          Refuses generator classId (unitName typeName classId) scene.world error ∧
          later.store.unitAt = scene.store.unitAt) ∨
        ∃ unit, result = .ok unit ∧
          Holds generator classId scene.world ⟨number, scope, unitName typeName classId⟩
            scene.store unit ∧
          later.store.unitAt = Function.update scene.store.unitAt
            ⟨number, scope, unitName typeName classId⟩ (some unit)) := by
  have found := Store.context?_resolve books.inRange scope
  cases obtained with
  | refused reason store generated =>
      obtain ⟨kept, units⟩ := books.opened store generated
      exact ⟨kept, .inl ⟨_, rfl, reason, units⟩⟩
  | @reused unit present store generated =>
      obtain ⟨kept, units⟩ := books.opened store generated
      have isThere := (Store.find?_resolve books.inRange scope _).symm.trans present
      refine ⟨kept, .inr ⟨unit, rfl, .reused isThere, ?_⟩⟩
      rw [← isThere, Function.update_eq_self, units]
  | @installed finish description image free described built passes store generated =>
      have opens : Books generators number
            { scene with store := (scene.store.resolve number scope).2.1 } ∧
          (scene.store.resolve number scope).2.1.unitAt = scene.store.unitAt :=
        books.opened rfl rfl
      obtain ⟨kept, units⟩ := opens.1.installed sharing member found free store generated
      refine ⟨kept, .inr ⟨_, rfl, .installed ?_ described built passes, units.trans ?_⟩⟩
      · rw [← opens.2]
        exact (congrArg (Option.bind · _) found).trans free
      · rw [opens.2]

/-- A request, taken apart with all that its questions leave: the type's name and the scope are asked
for, then the unit is obtained, and linked if there is one. -/
theorem generate_steps {result : Except GenerationError (Accessor World)}
    (done : (generator.generate classId).run scene = (result, later)) :
    (∃ finish, (generator.model.typeName classId).run scene.world = (none, finish) ∧
        result = .error (.unknownType classId) ∧ later = { scene with world := finish }) ∨
      ∃ place asked outcome held, Locates generator classId scene.world place asked ∧
        (generator.obtain classId place).run { scene with world := asked } = (outcome, held) ∧
        ((∃ error, outcome = .error error ∧ result = .error error ∧ later = held) ∨
          ∃ unit, outcome = .ok unit ∧
            (instantiate place unit generator.modelId generator.model).run held =
              (result, later)) := by
  obtain ⟨answer, named, isAsked, following⟩ := exists_of_bind_run done
  obtain ⟨finish, isNamed, rfl⟩ := exists_of_ask_run isAsked
  cases answer with
  | none =>
      obtain ⟨rfl, rfl⟩ := Prod.mk.inj following
      exact .inl ⟨finish, isNamed, rfl, rfl⟩
  | some typeName =>
      obtain ⟨scope, middle, isScope, following⟩ := exists_of_bind_run following
      obtain ⟨asked, resolved, rfl⟩ := exists_of_ask_run isScope
      obtain ⟨outcome, held, isObtained, following⟩ := exists_of_bind_run following
      refine .inr ⟨_, asked, outcome, held, .asked isNamed resolved, isObtained, ?_⟩
      cases outcome with
      | error error =>
          obtain ⟨rfl, rfl⟩ := Prod.mk.inj following
          exact .inl ⟨error, rfl, rfl, rfl⟩
      | ok unit => exact .inr ⟨unit, rfl, following⟩

/-- A request, taken apart by what it leaves of the books. -/
theorem generate_run {result : Except GenerationError (Accessor World)}
    (done : (generator.generate classId).run scene = (result, later)) :
    (result = .error (.unknownType classId) ∧ SameBooks scene later ∧
        (generator.model.typeName classId).run scene.world = (none, later.world)) ∨
      ∃ typeName scope named middle outcome installed,
        (generator.model.typeName classId).run scene.world = (some typeName, named) ∧
        (generator.scopeOf classId).run named = (scope, middle.world) ∧
        SameBooks scene middle ∧
        (generator.obtain classId ⟨generator.registry, scope, unitName typeName classId⟩).run
          middle = (outcome, installed) ∧
        ((∃ error, outcome = .error error ∧ result = .error error ∧ later = installed) ∨
          ∃ unit, outcome = .ok unit ∧
            (instantiate ⟨generator.registry, scope, unitName typeName classId⟩ unit
              generator.modelId generator.model).run installed = (result, later)) := by
  rcases generate_steps done with ⟨finish, unnamed, rfl, rfl⟩ |
    ⟨place, asked, outcome, held, located, isObtained, following⟩
  · exact .inl ⟨rfl, ⟨rfl, rfl, rfl⟩, unnamed⟩
  · cases located with
    | asked named resolved =>
        exact .inr ⟨_, _, _, { scene with world := asked }, outcome, held, named, resolved,
          ⟨rfl, rfl, rfl⟩, isObtained, following⟩

/-- A request keeps the books of its registry, releases no model, and comes to one of the four
outcomes. -/
theorem generate_serves (sharing : Sharing generators number)
    (books : Books generators number scene) (member : generator ∈ generators)
    {result : Except GenerationError (Accessor World)}
    (done : (generator.generate classId).run scene = (result, later)) :
    Books generators number later ∧ later.released = scene.released ∧
      Served generator classId scene later result := by
  rcases generate_run done with ⟨rfl, same, unnamed⟩ |
    ⟨typeName, scope, named, middle, outcome, installed, isNamed, resolved, same, isObtained,
      following⟩
  · exact ⟨books.of_same same.store same.generated, same.released,
      .nameless unnamed (congrArg Store.unitAt same.store)⟩
  · have located := Locates.asked isNamed resolved
    rw [sharing.registry generator member] at isObtained following located
    have start := books.of_same same.store same.generated
    obtain ⟨released, obtained⟩ := obtain_run start.inRange isObtained
    rw [same.released] at released
    obtain ⟨kept, ⟨error, rfl, reason, units⟩ | ⟨unit, rfl, holds, units⟩⟩ :=
      start.obtained sharing member obtained
    · rcases following with ⟨_, isError, rfl, rfl⟩ | ⟨_, isUnit, -⟩
      · obtain rfl := Except.error.inj isError
        rw [same.store] at units
        exact ⟨kept, released, .refused located reason units⟩
      · cases isUnit
    · rcases following with ⟨_, isError, -⟩ | ⟨_, isUnit, following⟩
      · cases isError
      obtain rfl := Except.ok.inj isUnit
      rw [same.store] at holds units
      have leaves := Leaves.obtained rfl isObtained
      cases instantiate_run following with
      | unlinked unknown fails books =>
          exact ⟨kept.of_same books.store books.generated, books.released.trans released,
            .unlinked located holds unknown leaves fails (books.store ▸ units)⟩
      | stored known books =>
          exact ⟨kept.of_same books.store books.generated, books.released.trans released,
            .stored located holds known (books.store ▸ units)⟩
      | linked unknown links store generated releases =>
          have present : installed.store.unitAt ⟨number, scope, unitName typeName classId⟩ =
              some unit := by
            rw [units, Function.update_self]
          have live : installed.isLive = scene.isLive := Scene.isLive_of_released released
          rw [live] at store
          obtain ⟨keptToo, unitsToo⟩ := kept.linked present
            (Context.keepsIdentity_addLinkage scene.isLive generator.modelId _) store generated
          rw [units, Function.update_idem] at unitsToo
          exact ⟨keptToo, releases.trans released,
            .linked located holds unknown leaves links unitsToo⟩

/-- An answered request counts an image just if the unit of its accessor was missing. -/
theorem generate_counts (inRange : generator.registry < scene.store.registries.length)
    {accessor : Accessor World}
    (done : (generator.generate classId).run scene = (.ok accessor, later)) :
    later.generated = if (scene.store.unitAt accessor.place).isSome then scene.generated
      else scene.generated.modify generator.number (· + 1) := by
  rcases generate_steps done with ⟨_, -, isOk, -⟩ |
    ⟨place, asked, outcome, held, located, isObtained, following⟩
  · cases isOk
  rcases following with ⟨_, -, isOk, -⟩ | ⟨unit, rfl, links⟩
  · cases isOk
  have linking : accessor.place = place ∧ later.generated = held.generated := by
    cases instantiate_run links with
    | stored known same => exact ⟨rfl, same.generated⟩
    | linked unknown isLinkage store generated released => exact ⟨rfl, generated⟩
  rw [linking.1, linking.2]
  rw [← located.registry] at inRange
  have look := Store.find?_resolve inRange place.scope place.name
  have start : place.registry <
      ({ scene with world := asked } : Scene World).store.registries.length := inRange
  cases (obtain_run start isObtained).2 with
  | reused present store generated => rw [← look, present, Option.isSome_some, if_pos rfl, generated]
  | installed free described built passes store generated =>
      rw [← look, free, Option.isSome_none, if_neg Bool.false_ne_true, generated]

end Requests

/-! ## Answered requests -/

section Answered

variable {generator : Generator World} {classId : ClassId} {scene later : Scene World}
  {accessor : Accessor World}

/-- An accessor of an answered request runs the image of the unit at its place. -/
theorem Served.unitAt_place (served : Served generator classId scene later (.ok accessor)) :
    ∃ asked unit, Locates generator classId scene.world accessor.place asked ∧
      later.store.unitAt accessor.place = some unit ∧ unit.image = accessor.linked.image := by
  cases served with
  | stored located holds known units | linked located holds unknown leaves links units =>
      exact ⟨_, _, located, (congrFun units _).trans (Function.update_self ..), rfl⟩

/-- What an answered request leaves: the unit that its accessor runs is there, and every other one is
as it was. No model is released, and an image is counted just if the unit was missing. -/
structure Completes (generator : Generator World) (classId : ClassId) (scene later : Scene World)
    (accessor : Accessor World) : Prop where
  located : ∃ asked, Locates generator classId scene.world accessor.place asked
  modelId : accessor.modelId = generator.modelId
  unit : ∃ unit, later.store.unitAt accessor.place = some unit ∧
    unit.image = accessor.linked.image
  others : ∀ place, place ≠ accessor.place →
    later.store.unitAt place = scene.store.unitAt place
  released : later.released = scene.released
  counts : later.generated = if (scene.store.unitAt accessor.place).isSome then scene.generated
    else scene.generated.modify generator.number (· + 1)

theorem generate_completes {generators : List (Generator World)} {number : Nat}
    (sharing : Sharing generators number) (books : Books generators number scene)
    (member : generator ∈ generators)
    (done : (generator.generate classId).run scene = (.ok accessor, later)) :
    Completes generator classId scene later accessor := by
  obtain ⟨-, released, served⟩ := generate_serves sharing books member done
  obtain ⟨asked, unit, located, isThere, isImage⟩ := served.unitAt_place
  have inRange : generator.registry < scene.store.registries.length := by
    rw [sharing.registry generator member]
    exact books.inRange
  have counts := generate_counts inRange done
  cases served with
  | stored placed holds known units | linked placed holds unknown leaves links units =>
      exact {
        located := ⟨asked, located⟩
        modelId := rfl
        unit := ⟨unit, isThere, isImage⟩
        others := fun place different => by rw [units, Function.update_of_ne different]
        released
        counts }

/-- Whatever happens in its world, a generator can build this image for a class: its model names the
class, and describes it so that the image is built. -/
structure CanBuild (generator : Generator World) (classId : ClassId) (image : Image) : Prop where
  named : ∀ world, ((generator.model.typeName classId).run world).1.isSome
  builds : ∀ world, ∃ description,
    ((generator.model.describe classId).run world).1 = some description ∧
      Image.ofDescription description = .ok image
  short : image.code.size < 2 ^ 32

/-- It can answer requests for the class if its model links the image as well. -/
structure CanAnswer (generator : Generator World) (classId : ClassId) (image : Image) : Prop
    extends CanBuild generator classId image where
  links : ∀ world, ((Machine.Linkage.ofImage generator.model image).run world).1.isOk

section CanBuild

variable {image : Image} (can : CanBuild generator classId image)
include can

/-- The image is built from whatever is described. -/
theorem CanBuild.built {asked finish : World} {description : TypeDescription}
    (described : (generator.model.describe classId).run asked = (some description, finish)) :
    Image.ofDescription description = .ok image := by
  obtain ⟨known, isKnown, builds⟩ := can.builds asked
  rw [described] at isKnown
  exact Option.some.inj isKnown ▸ builds

theorem CanBuild.not_refuses {unit : String} {asked : World} {error : GenerationError} :
    ¬Refuses generator classId unit asked error := by
  intro refuses
  cases refuses with
  | undescribed answer =>
      obtain ⟨known, isKnown, -⟩ := can.builds asked
      rw [answer] at isKnown
      cases isKnown
  | unbuilt described failed => cases (can.built described).symm.trans failed
  | unaddressable described builtToo long checked =>
      obtain rfl := Except.ok.inj ((can.built described).symm.trans builtToo)
      exact absurd can.short (Nat.not_lt.mpr long)

/-- What becomes of a request for such a class is settled by linking the image, unless its unit is
there with another one. -/
theorem Served.settled {result : Except GenerationError (Accessor World)}
    (served : Served generator classId scene later result)
    (same : ∀ place asked unit, Locates generator classId scene.world place asked →
      scene.store.unitAt place = some unit → unit.image = image) :
    (∃ start fault, ((Machine.Linkage.ofImage generator.model image).run start).1 = .error fault ∧
        result = .error (.instantiation image.typeName fault)) ∨
      ∃ accessor, result = .ok accessor ∧ accessor.linked.image = image ∧
        ((scene.store.unitAt accessor.place).isSome ∨
          ∃ start linkage,
            ((Machine.Linkage.ofImage generator.model image).run start).1 = .ok linkage) := by
  have held {place : UnitPlace} {asked : World} {unit : InstalledUnit World}
      (located : Locates generator classId scene.world place asked)
      (holds : Holds generator classId asked place scene.store unit) : unit.image = image := by
    cases holds with
    | reused present => exact same _ _ _ located present
    | installed missing described built passes =>
        exact Except.ok.inj (built.symm.trans (can.built described))
  cases served with
  | nameless answer units =>
      have named := can.named scene.world
      rw [answer] at named
      cases named
  | refused located reason units => exact absurd reason can.not_refuses
  | unlinked located holds unknown leaves fails units =>
      rw [held located holds] at fails ⊢
      exact .inl ⟨_, _, congrArg Prod.fst fails, rfl⟩
  | stored located holds known units =>
      refine .inr ⟨_, rfl, held located holds, .inl ?_⟩
      cases holds with
      | reused present => exact Option.isSome_of_eq_some present
      | installed missing described built passes => cases known
  | linked located holds unknown leaves links units =>
      rw [held located holds] at links
      exact .inr ⟨_, rfl, held located holds, .inr ⟨_, _, congrArg Prod.fst links⟩⟩

end CanBuild

end Answered

end OrdinalDispatch.Loader

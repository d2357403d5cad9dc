import OrdinalDispatch.Proofs.Loader.RequestOrder

/-!
Contract: what tracing changes about generation, and what it records.

Owns: runs of the same requests under different traces, which come to the same,
and the names that a generator's sink is called with, which are the names of the
units that the generator installed.

Does not own: how a trace is written, see `OrdinalDispatch.Loader.Generator`.

Sinks and models share a world. A view of the world is what the models see of
it; tracing may change anything else.
-/

set_option autoImplicit false

namespace OrdinalDispatch.Loader

open OrdinalDispatch.Code

variable {World View : Type}

/-! ## What the models see -/

/-- A question that sees a view of the world and nothing else: from worlds of one view it comes to
one answer, and leaves worlds of one view. -/
def Sees (view : World → View) {Answer : Type} (question : StateM World Answer) : Prop :=
  ∀ world other, view world = view other →
    (question.run world).1 = (question.run other).1 ∧
      view (question.run world).2 = view (question.run other).2

theorem Sees.composes (view : World → View) : Machine.Composes (Sees view) where
  ofPure _ _ _ same := ⟨rfl, same⟩
  bind {_ _ question next} front back world other same := by
    obtain ⟨answers, views⟩ := front world other same
    show ((next (question.run world).1).run (question.run world).2).1 =
        ((next (question.run other).1).run (question.run other).2).1 ∧
      view ((next (question.run world).1).run (question.run world).2).2 =
        view ((next (question.run other).1).run (question.run other).2).2
    rw [answers]
    exact back _ _ _ views

/-- The model and the scopes of a generator see a view of the world, which no trace changes. -/
structure Unseen (view : World → View) (generator : Generator World) : Prop where
  model : Machine.EachQuestion (Sees view) generator.model
  describe : ∀ classId, Sees view (generator.model.describe classId)
  scopeOf : ∀ classId, Sees view (generator.scopeOf classId)
  sink : ∀ sink, generator.sink? = some sink → ∀ unit image world,
    view ((sink unit image).run world).2 = view world

/-- Two generators that may differ in whether, where and how they trace, and in nothing else. -/
structure SameButTracing (generator other : Generator World) : Prop where
  number : generator.number = other.number
  modelId : generator.modelId = other.modelId
  model : generator.model = other.model
  scopeOf : generator.scopeOf = other.scopeOf
  registry : generator.registry = other.registry
  generationThreshold :
    generator.settings.generationThreshold = other.settings.generationThreshold

/-- Scenes that differ at most in their events and in what the models do not see. -/
structure Alike (view : World → View) (scene other : Scene World) : Prop where
  view : view scene.world = view other.world
  books : SameBooks scene other

/-- Two computations that come to the same result from alike scenes, and leave alike scenes. -/
def Parallel (view : World → View) {Result : Type} (first second : Loading World Result) : Prop :=
  ∀ scene other, Alike view scene other →
    (first.run scene).1 = (second.run other).1 ∧
      Alike view (first.run scene).2 (second.run other).2

/-- A computation that leaves a scene like the one it finds. -/
def Quiet (view : World → View) (computation : Loading World Unit) : Prop :=
  ∀ scene, Alike view scene (computation.run scene).2

namespace Parallel

variable {view : World → View} {Result Following : Type}

theorem ofPure (result : Result) :
    Parallel view (pure result : Loading World Result) (pure result) :=
  fun _ _ alike => ⟨rfl, alike⟩

theorem bind {first second : Loading World Result} {next other : Result → Loading World Following}
    (front : Parallel view first second)
    (back : ∀ result, Parallel view (next result) (other result)) :
    Parallel view (first >>= next) (second >>= other) := by
  intro scene sceneToo alike
  obtain ⟨results, scenes⟩ := front scene sceneToo alike
  show ((next (first.run scene).1).run (first.run scene).2).1 =
      ((other (second.run sceneToo).1).run (second.run sceneToo).2).1 ∧
    Alike view ((next (first.run scene).1).run (first.run scene).2).2
      ((other (second.run sceneToo).1).run (second.run sceneToo).2).2
  rw [results]
  exact back _ _ _ scenes

/-- What is quiet on one side needs nothing on the other. -/
theorem quiet_left {first : Loading World Unit} {rest second : Loading World Following}
    (quiet : Quiet view first) (back : Parallel view rest second) :
    Parallel view (first >>= fun _ => rest) second := by
  intro scene other alike
  have leaves := quiet scene
  exact back _ _ ⟨leaves.view.symm.trans alike.view, ⟨
    alike.books.store.trans leaves.books.store.symm,
    alike.books.generated.trans leaves.books.generated.symm,
    alike.books.released.trans leaves.books.released.symm⟩⟩

theorem quiet_right {second : Loading World Unit} {first rest : Loading World Following}
    (quiet : Quiet view second) (back : Parallel view first rest) :
    Parallel view first (second >>= fun _ => rest) := by
  intro scene other alike
  have leaves := quiet other
  exact back _ _ ⟨alike.view.trans leaves.view, alike.books.trans leaves.books⟩

theorem ask {question : StateM World Result} (sees : Sees view question) :
    Parallel view (ask question) (ask question) := by
  intro scene other alike
  obtain ⟨answers, views⟩ := sees scene.world other.world alike.view
  exact ⟨answers, views, alike.books.store, alike.books.generated, alike.books.released⟩

theorem report (event : Event) : Parallel view (report event) (report event) :=
  fun _ _ alike => ⟨rfl, alike.view, alike.books.store, alike.books.generated,
    alike.books.released⟩

theorem resolve (number : Nat) (scope : ScopeId) :
    Parallel view (resolve number scope : Loading World (Context World))
      (resolve number scope) := by
  intro scene other alike
  rcases done : (Loader.resolve number scope).run scene with ⟨context, later⟩
  rcases doneToo : (Loader.resolve number scope).run other with ⟨contextToo, laterToo⟩
  obtain ⟨rfl, store, world, generated, released⟩ := resolve_run done
  obtain ⟨rfl, storeToo, worldToo, generatedToo, releasedToo⟩ := resolve_run doneToo
  rw [alike.books.store] at storeToo
  refine ⟨?_, ?_, storeToo.trans store.symm, ?_, ?_⟩
  · rw [alike.books.store]
  · rw [world, worldToo, alike.view]
  · rw [generated, generatedToo, alike.books.generated]
  · rw [released, releasedToo, alike.books.released]

theorem defineUnit (place : UnitPlace) (image : Image) :
    Parallel view (defineUnit place image : Loading World _) (defineUnit place image) := by
  refine bind (.resolve place.registry place.scope) fun context => ?_
  cases context.install place.name image with
  | error error => exact .ofPure _
  | ok installation =>
      intro scene other alike
      refine ⟨rfl, alike.view, ?_, alike.books.generated, alike.books.released⟩
      exact congrArg (Store.updateContext · _ _ _) alike.books.store

theorem count {generator other : Generator World} (same : SameButTracing generator other) :
    Parallel view generator.count other.count := by
  intro scene sceneToo alike
  refine ⟨rfl, alike.view, alike.books.store, ?_, alike.books.released⟩
  show sceneToo.generated.modify other.number _ = scene.generated.modify generator.number _
  rw [alike.books.generated, same.number]

theorem installCounted {generator other : Generator World} (same : SameButTracing generator other)
    (place : UnitPlace) (image : Image) (event : Event) :
    Parallel view (generator.installCounted place image event)
      (other.installCounted place image event) := by
  refine bind (.defineUnit place image) fun defined => ?_
  cases defined with
  | error error => exact .ofPure _
  | ok unit => exact bind (.count same) fun _ => bind (.report _) fun _ => .ofPure _

theorem storeLinkage (place : UnitPlace) (modelId : ModelId) (linkage : Machine.Linkage World) :
    Parallel view (storeLinkage place modelId linkage) (storeLinkage place modelId linkage) := by
  intro scene other alike
  refine ⟨rfl, alike.view, ?_, alike.books.generated, alike.books.released⟩
  have live : other.isLive = scene.isLive := Scene.isLive_of_released alike.books.released
  show other.store.updateContext _ _ _ = scene.store.updateContext _ _ _
  rw [alike.books.store, live]

theorem instantiate (place : UnitPlace) (unit : InstalledUnit World) (modelId : ModelId)
    {model : Machine.TypeModel World} (sees : Machine.EachQuestion (Sees view) model) :
    Parallel view (instantiate place unit modelId model)
      (instantiate place unit modelId model) := by
  unfold Loader.instantiate
  cases unit.linkage? modelId with
  | some linkage => exact .ofPure _
  | none =>
      refine bind (.ask (sees.ofImage (Sees.composes view) unit.image)) fun answer => ?_
      cases answer with
      | error fault => exact .ofPure _
      | ok linkage =>
          apply bind (.report _)
          intro _
          apply bind (.storeLinkage place modelId linkage)
          intro _
          exact .ofPure _

end Parallel

/-! ## Runs under different traces -/

section Generation

variable {view : World → View} {generator other : Generator World}

/-- Only the call of a sink shows in the world when an image is traced. -/
theorem Traced.world {unit : String} {image : Image} {scene later : Scene World}
    (traced : Traced generator unit image scene later) :
    (generator.sink? = none ∧ later.world = scene.world) ∨
      ∃ sink, generator.sink? = some sink ∧
        later.world = ((sink unit image).run scene.world).2 := by
  cases traced with
  | nowhere none => exact .inl ⟨none, rfl⟩
  | written chosen called | failed chosen called =>
      exact .inr ⟨_, chosen, (congrArg Prod.snd called).symm⟩

theorem Unseen.trace (unseen : Unseen view generator) (unit : String) (image : Image) :
    Quiet view (generator.trace unit image) := by
  intro scene
  rcases done : (generator.trace unit image).run scene with ⟨answer, later⟩
  have traced := trace_traced done
  refine ⟨?_, traced.books⟩
  rcases traced.world with ⟨-, same⟩ | ⟨sink, chosen, called⟩
  · exact congrArg view same.symm
  · exact ((congrArg view called).trans (unseen.sink sink chosen unit image scene.world)).symm

variable (same : SameButTracing generator other) (unseen : Unseen view generator)
  (unseenToo : Unseen view other)
include same unseen unseenToo

theorem Parallel.install (classId : ClassId) (place : UnitPlace) (context : UInt32) :
    Parallel view (generator.install classId place context)
      (other.install classId place context) := by
  unfold Generator.install
  rw [← same.model]
  refine bind (.ask (unseen.describe classId)) fun answer => ?_
  cases answer with
  | none => exact .ofPure _
  | some description =>
      dsimp only
      cases Image.ofDescription description with
      | error cause => exact .ofPure _
      | ok image =>
          -- behind the traces both sides do the same
          have rest : Parallel view _ _ := .installCounted same place image
            (.generatedUnit place.name context description.memberCount)
          have quiet := unseen.trace place.name image
          have quietToo := unseenToo.trace place.name image
          dsimp only
          split <;> split
          · exact .quiet_left quiet (.quiet_right quietToo rest)
          · exact .quiet_left quiet rest
          · exact .quiet_right quietToo rest
          · exact rest

theorem Parallel.obtain (classId : ClassId) (place : UnitPlace) :
    Parallel view (generator.obtain classId place) (other.obtain classId place) := by
  refine bind (.resolve place.registry place.scope) fun context => ?_
  cases context.find? place.name with
  | some unit => exact bind (.report _) fun _ => .ofPure _
  | none => exact .install same unseen unseenToo classId place context.id

theorem Parallel.generate (classId : ClassId) :
    Parallel view (generator.generate classId) (other.generate classId) := by
  unfold Generator.generate
  rw [← same.model, ← same.scopeOf, ← same.registry, ← same.modelId]
  refine bind (.ask (unseen.model.typeName classId)) fun answer => ?_
  cases answer with
  | none => exact .ofPure _
  | some typeName =>
      refine bind (.ask (unseen.scopeOf classId)) fun scope => ?_
      refine bind (.obtain same unseen unseenToo classId _) fun outcome => ?_
      cases outcome with
      | error error => exact .ofPure _
      | ok unit => exact .instantiate _ unit _ unseen.model

end Generation

/-- Requests for the same classes in the same order, by generators that differ in tracing alone and
whose traces no model sees. -/
abbrev SameRequests (view : World → View) :
    List (Generator World × ClassId) → List (Generator World × ClassId) → Prop :=
  List.Forall₂ fun request other => request.2 = other.2 ∧ SameButTracing request.1 other.1 ∧
    Unseen view request.1 ∧ Unseen view other.1

theorem Parallel.serveAll {view : World → View} {requests others : List (Generator World × ClassId)}
    (same : SameRequests view requests others) :
    Parallel view (serveAll requests) (serveAll others) := by
  induction same with
  | nil => exact .ofPure _
  | @cons request other rest restToo pair following inductionHypothesis =>
      obtain ⟨classes, generators, unseen, unseenToo⟩ := pair
      unfold Loader.serveAll
      rw [List.mapM_cons, List.mapM_cons, classes]
      apply bind (.generate generators unseen unseenToo other.2)
      intro first
      exact bind inductionHypothesis fun answers => .ofPure _

/-! ## What a sink is called with -/

namespace Registry

/-- The names of the units that a registry has later and has not now, in their order. -/
def newUnits (registry later : Registry World) : List String :=
  (later.installations.filter fun row => row ∉ registry.installations).map fun row => row.2.1

variable {registry later : Registry World}

theorem newUnits_of_same (same : ∀ row, row ∈ later.installations ↔ row ∈ registry.installations) :
    registry.newUnits later = [] := by
  have none : later.installations.filter (fun row => row ∉ registry.installations) = [] := by
    rw [List.filter_eq_nil_iff]
    intro row member
    simpa using (same row).mp member
  rw [newUnits, none, List.map_nil]

theorem newUnits_of_added {added : ScopeId × String × Image}
    (distinct : later.installations.Nodup) (free : added ∉ registry.installations)
    (adds : ∀ row, row ∈ later.installations ↔ row = added ∨ row ∈ registry.installations) :
    registry.newUnits later = [added.2.1] := by
  have one : later.installations.filter (fun row => row ∉ registry.installations) = [added] := by
    apply List.perm_singleton.mp
    apply (List.perm_ext_iff_of_nodup (distinct.filter _) (List.nodup_singleton added)).mpr
    intro row
    rw [List.mem_filter, decide_eq_true_iff, adds, List.mem_singleton]
    constructor
    · rintro ⟨isAdded | earlier, absent⟩
      · exact isAdded
      · exact absurd earlier absent
    · rintro rfl
      exact ⟨.inl rfl, free⟩
  rw [newUnits, one, List.map_singleton]

/-- The change of a unit's linkages changes nothing about what is installed. -/
theorem installations_updateUnit {update : InstalledUnit World → InstalledUnit World}
    (keeps : Context.KeepsIdentity update) (scope : ScopeId) (name : String) :
    (registry.updateContext scope fun context => context.updateUnit name update).installations =
      registry.installations := by
  have rows : ∀ context : Context World,
      ((context.updateUnit name update).units.map fun unit =>
          ((context.updateUnit name update).parent, unit.name, unit.image)) =
        context.units.map fun unit => (context.parent, unit.name, unit.image) := by
    intro context
    show (context.units.map _).map _ = _
    rw [List.map_map]
    apply List.map_congr_left
    intro unit _
    show (context.parent, (if _ then _ else _ : InstalledUnit World).name, _) = _
    split
    · obtain ⟨isName, -, isImage⟩ := keeps unit
      simp [*]
    · simp [*]
  unfold installations contexts updateContext
  split
  · rw [List.flatMap_cons, List.flatMap_cons, rows]
  · rw [List.flatMap_cons, List.flatMap_cons, List.flatMap_map]
    congr 2
    funext context
    split
    · exact rows context
    · rfl

end Registry

namespace Books

variable {generators : List (Generator World)} {number : Nat} {scene later : Scene World}
  (books : Books generators number scene) (booksLater : Books generators number later)
include books booksLater

/-- While the units stay the same, none is new. -/
theorem newUnits_of_unitAt (units : later.store.unitAt = scene.store.unitAt) :
    (scene.store.registry number).newUnits (later.store.registry number) = [] := by
  apply Registry.newUnits_of_same
  rintro ⟨scope, name, image⟩
  rw [Store.mem_installations books.tidy, Store.mem_installations booksLater.tidy, units]

/-- A unit at a place where none was is the new one. -/
theorem newUnits_of_update {scope : ScopeId} {name : String} {unit : InstalledUnit World}
    (missing : scene.store.unitAt ⟨number, scope, name⟩ = none)
    (units : later.store.unitAt =
      Function.update scene.store.unitAt ⟨number, scope, name⟩ (some unit)) :
    (scene.store.registry number).newUnits (later.store.registry number) = [name] := by
  apply @Registry.newUnits_of_added _ _ _ (scope, name, unit.image)
    booksLater.tidy.nodup_installations
  · rw [Store.mem_installations books.tidy, missing]
    rintro ⟨_, isNone, -⟩
    cases isNone
  · rintro ⟨otherScope, otherName, image⟩
    rw [Store.mem_installations books.tidy, Store.mem_installations booksLater.tidy, units]
    by_cases here : (⟨number, otherScope, otherName⟩ : UnitPlace) = ⟨number, scope, name⟩
    · obtain ⟨-, rfl, rfl⟩ := UnitPlace.mk.inj here
      simp [missing, eq_comm]
    · have different : ¬(otherScope = scope ∧ otherName = name) := by
        rintro ⟨rfl, rfl⟩
        exact here rfl
      rw [Function.update_of_ne here]
      simp only [Prod.mk.injEq, ← and_assoc, different, false_and, false_or]

/-- An answered request whose unit was missing has installed that unit, and no other. -/
theorem newUnits_of_served {generator : Generator World} {classId : ClassId}
    {accessor : Accessor World} (served : Served generator classId scene later (.ok accessor))
    (here : accessor.place.registry = number)
    (missing : scene.store.unitAt accessor.place = none) :
    (scene.store.registry number).newUnits (later.store.registry number) =
      [accessor.place.name] := by
  subst here
  cases served with
  | stored located holds known units | linked located holds unknown leaves links units =>
      exact books.newUnits_of_update booksLater missing units

end Books

/-- A question that leaves the log that a world keeps as it is. -/
def Keeps (log : World → List String) {Answer : Type} (question : StateM World Answer) : Prop :=
  ∀ world, log (question.run world).2 = log world

theorem Keeps.composes (log : World → List String) : Machine.Composes (Keeps log) where
  ofPure _ _ := rfl
  bind front back world := (back _ _).trans (front world)

/-- A world's log of what the sink of one generator is called with. That generator traces to a sink
of its own, and each call of the sink adds the name of the unit, whatever comes of the call. Nothing
else adds to the log. -/
structure Records (log : World → List String) (own : Generator World)
    (generators : List (Generator World)) : Prop where
  enabled : own.settings.traceEnabled = true
  sink : ∃ sink, own.sink = some sink ∧ ∀ unit image world,
    log ((sink unit image).run world).2 = log world ++ [unit]
  model : ∀ generator ∈ generators, Machine.EachQuestion (Keeps log) generator.model
  describe : ∀ generator ∈ generators, ∀ classId, Keeps log (generator.model.describe classId)
  scopeOf : ∀ generator ∈ generators, ∀ classId, Keeps log (generator.scopeOf classId)
  others : ∀ generator ∈ generators, generator.number ≠ own.number →
    ∀ sink, generator.sink? = some sink → ∀ unit image, Keeps log (sink unit image)

/-- The units that one of the generators of a registry installs in a run of requests, by name and in
the order of their installation: what the registry has after each of its requests, and had not
before. -/
def installedBy (own : Generator World) (number : Nat) :
    List (Generator World × ClassId) → Scene World → List String
  | [], _ => []
  | request :: rest, scene =>
      let later := ((request.1.generate request.2).run scene).2
      (if request.1.number = own.number then
          (scene.store.registry number).newUnits (later.store.registry number)
        else []) ++ installedBy own number rest later

/-- The image that a generator builds from the description that it gets of a class in a world is
short enough for offsets. -/
def BuildsShort (generator : Generator World) (classId : ClassId) (asked : World) : Prop :=
  ∀ finish description image,
    (generator.model.describe classId).run asked = (some description, finish) →
      Image.ofDescription description = .ok image → image.code.size < 2 ^ 32

/-- A request that is made in a world builds no image that is too long for offsets. -/
def Addressable (request : Generator World × ClassId) (world : World) : Prop :=
  ∀ place asked, Locates request.1 request.2 world place asked →
    BuildsShort request.1 request.2 asked

/-- Each request in a row is addressable in the world that it is made in. -/
def AllAddressable : List (Generator World × ClassId) → Scene World → Prop
  | [], _ => True
  | request :: rest, scene =>
      Addressable request scene.world ∧
        AllAddressable rest ((request.1.generate request.2).run scene).2

/-- A request whose image can be built is addressable. -/
theorem CanBuild.addressable {generator : Generator World} {classId : ClassId} {image : Image}
    (can : CanBuild generator classId image) (world : World) :
    Addressable (generator, classId) world := by
  intro place asked located finish description built described isBuilt
  exact Except.ok.inj ((can.built described).symm.trans isBuilt) ▸ can.short

section Recording

variable {log : World → List String} {own generator : Generator World}
  {generators : List (Generator World)} {number : Nat} {classId : ClassId} {place : UnitPlace}
  {scene later : Scene World}

/-- Installing a sound image under a free name and counting it succeeds, and the world stays. -/
theorem installCounted_of_passes {context : Context World} {image : Image} {event : Event}
    {result : Except GenerationError (InstalledUnit World)}
    (found : (scene.store.registry place.registry).context? place.scope = some context)
    (free : context.find? place.name = none) (passes : image.fault? = none)
    (done : (generator.installCounted place image event).run scene = (result, later)) :
    result.isOk = true ∧ later.world = scene.world := by
  obtain ⟨defined, middle, isDefined, following⟩ := exists_of_bind_run done
  obtain ⟨resolved, opened, isResolved, installing⟩ := exists_of_bind_run isDefined
  rw [resolve_resolved found] at isResolved
  obtain ⟨rfl, rfl⟩ := Prod.mk.inj isResolved
  rw [install_of_passes passes, free] at installing
  obtain ⟨rfl, rfl⟩ := Prod.mk.inj installing
  obtain ⟨rfl, rfl⟩ := Prod.mk.inj following
  exact ⟨rfl, rfl⟩

namespace Records

variable (records : Records log own generators) (sharing : Sharing generators number)
  (ownMember : own ∈ generators) (member : generator ∈ generators)
include records sharing ownMember member

/-- Tracing a unit adds its name to the log if the traces of the generator are what is recorded. -/
theorem trace {unit : String} {image : Image}
    (traced : Traced generator unit image scene later) :
    log later.world =
      log scene.world ++ if generator.number = own.number then [unit] else [] := by
  by_cases isOwn : generator.number = own.number
  · obtain rfl := List.inj_on_of_nodup_map sharing.distinct member ownMember isOwn
    obtain ⟨sink, isSink, adds⟩ := records.sink
    have chosen : generator.sink? = some sink := by rw [Generator.sink?, isSink]; rfl
    rw [if_pos rfl]
    rcases traced.world with ⟨none, -⟩ | ⟨other, some, called⟩
    · cases none.symm.trans chosen
    · obtain rfl := Option.some.inj (some.symm.trans chosen)
      rw [called, adds]
  · rw [if_neg isOwn, List.append_nil]
    rcases traced.world with ⟨-, same⟩ | ⟨sink, chosen, called⟩
    · rw [same]
    · rw [called, records.others generator member isOwn sink chosen]

/-- Installing a missing unit adds its name to the log just if it succeeds, for an image is traced
only when it is built, and what is built can be installed. -/
theorem install (short : BuildsShort generator classId scene.world) {context : Context World}
    {result : Except GenerationError (InstalledUnit World)}
    (found : (scene.store.registry place.registry).context? place.scope = some context)
    (free : context.find? place.name = none)
    (done : (generator.install classId place context.id).run scene = (result, later)) :
    log later.world = log scene.world ++
      if generator.number = own.number ∧ result.isOk = true then [place.name] else [] := by
  have kept := records.describe generator member classId scene.world
  cases install_runs done with
  | undescribed answer left =>
      subst left
      rw [answer] at kept
      simpa [Except.isOk, Except.toBool] using kept
  | unbuilt described failed left =>
      subst left
      rw [described] at kept
      simpa [Except.isOk, Except.toBool] using kept
  | @counted finish description image traced _ described built traces counts =>
      rw [described] at kept
      have passes := (@built_images_verify World description image built
        (short _ description image described built)).1
      have books := books_of_traces traces
      obtain ⟨succeeds, world⟩ :=
        installCounted_of_passes (books.store ▸ found) free passes counts
      rw [world, succeeds]
      split at traces
      · rw [records.trace sharing ownMember member traces, kept]
        simp
      · rename_i disabled
        have other : generator.number ≠ own.number := by
          intro isOwn
          obtain rfl := List.inj_on_of_nodup_map sharing.distinct member ownMember isOwn
          exact disabled records.enabled
        rw [traces, kept, if_neg fun both => other both.1, List.append_nil]

/-- Obtaining a unit adds to the log just what it adds to the registry. -/
theorem obtain (short : BuildsShort generator classId scene.world)
    (books : Books generators number scene) {scope : ScopeId} {typeName : String}
    {result : Except GenerationError (InstalledUnit World)}
    (done : (generator.obtain classId ⟨number, scope, unitName typeName classId⟩).run scene =
      (result, later)) :
    Books generators number later ∧ log later.world = log scene.world ++
      if generator.number = own.number then
        (scene.store.registry number).newUnits (later.store.registry number)
      else [] := by
  obtain ⟨-, obtained⟩ := obtain_run books.inRange done
  obtain ⟨kept, comes⟩ := books.obtained sharing member obtained
  refine ⟨kept, ?_⟩
  obtain ⟨resolved, opened, isResolved, following⟩ := exists_of_bind_run done
  obtain ⟨rfl, store, world, -, -⟩ := resolve_run isResolved
  have found := Store.context?_resolve books.inRange scope
  have look := (Store.find?_resolve books.inRange scope (unitName typeName classId)).symm
  cases present : (scene.store.resolve number scope).1.find? (unitName typeName classId) with
  | some unit =>
      simp only [present] at following
      obtain ⟨rfl, rfl⟩ := Prod.mk.inj following
      rcases comes with ⟨error, isError, -⟩ | ⟨_, -, held, units⟩
      · cases isError
      · cases held with
        | installed missing described built passes => cases (missing.symm.trans look).trans present
        | reused isThere =>
            rw [← isThere, Function.update_eq_self] at units
            rw [books.newUnits_of_unitAt kept units, ite_self, List.append_nil]
            exact congrArg log world
  | none =>
      simp only [present] at following
      rw [← store] at found
      rw [← world] at short
      rw [records.install sharing ownMember member short found present following, world]
      rcases comes with ⟨error, rfl, -, units⟩ | ⟨unit, rfl, -, units⟩
      · rw [books.newUnits_of_unitAt kept units]
        simp [Except.isOk, Except.toBool]
      · rw [books.newUnits_of_update kept (look.trans present) units]
        simp [Except.isOk, Except.toBool]

omit sharing ownMember in
/-- Linking adds nothing to the log, and nothing to the registry. -/
theorem instantiate (inRange : number < scene.store.registries.length)
    (here : place.registry = number) {unit : InstalledUnit World} {modelId : ModelId}
    {result : Except GenerationError (Accessor World)}
    (done : (instantiate place unit modelId generator.model).run scene = (result, later)) :
    log later.world = log scene.world ∧
      (later.store.registry number).installations =
        (scene.store.registry number).installations := by
  subst here
  have keeps : Keeps log (Machine.Linkage.ofImage generator.model unit.image) :=
    (records.model generator member).ofImage (Keeps.composes log) unit.image
  cases instantiate_run done with
  | unlinked unknown fails same =>
      have kept := keeps scene.world
      rw [fails] at kept
      exact ⟨kept, by rw [same.store]⟩
  | stored known same =>
      simp only [Loader.instantiate, known] at done
      obtain ⟨-, rfl⟩ := Prod.mk.inj done
      exact ⟨rfl, rfl⟩
  | linked unknown links store generated released =>
      have kept := keeps scene.world
      rw [links] at kept
      refine ⟨kept, ?_⟩
      rw [store, Store.registry_updateContext inRange]
      apply Registry.installations_updateUnit
      exact Context.keepsIdentity_addLinkage _ _ _

/-- A request adds to the log just what it adds to the registry. -/
theorem generate (short : Addressable (generator, classId) scene.world)
    (books : Books generators number scene) {result : Except GenerationError (Accessor World)}
    (done : (generator.generate classId).run scene = (result, later)) :
    log later.world = log scene.world ++
      if generator.number = own.number then
        (scene.store.registry number).newUnits (later.store.registry number)
      else [] := by
  rcases generate_run done with ⟨-, same, unnamed⟩ |
    ⟨typeName, scope, named, middle, outcome, installed, isNamed, resolved, same, isObtained,
      following⟩
  · have kept := (records.model generator member).typeName classId scene.world
    rw [unnamed] at kept
    rw [kept, same.store, Registry.newUnits_of_same fun _ => Iff.rfl, ite_self, List.append_nil]
  · have located := Locates.asked isNamed resolved
    have keptName := (records.model generator member).typeName classId scene.world
    have keptScope := records.scopeOf generator member classId named
    rw [isNamed] at keptName
    rw [resolved] at keptScope
    rw [sharing.registry generator member] at isObtained following
    have start := books.of_same same.store same.generated
    obtain ⟨kept, obtains⟩ :=
      records.obtain sharing ownMember member (short _ _ located) start isObtained
    rw [same.store, keptScope.trans keptName] at obtains
    rcases following with ⟨_, -, -, rfl⟩ | ⟨unit, -, isInstantiated⟩
    · exact obtains
    · obtain ⟨keptLog, installations⟩ :=
        records.instantiate member kept.inRange rfl isInstantiated
      rw [keptLog, obtains]
      unfold Registry.newUnits
      rw [installations]

omit member in
/-- A run of requests adds to the log just what one generator installs in the registry. -/
theorem serveAll {requests : List (Generator World × ClassId)}
    (members : ∀ request ∈ requests, request.1 ∈ generators)
    (short : AllAddressable requests scene) (books : Books generators number scene)
    {answers : List (Except GenerationError (Accessor World))}
    (done : (serveAll requests).run scene = (answers, later)) :
    log later.world = log scene.world ++ installedBy own number requests scene := by
  induction requests generalizing scene answers with
  | nil =>
      obtain ⟨-, rfl⟩ := Prod.mk.inj done
      exact (List.append_nil _).symm
  | cons request rest inductionHypothesis =>
      obtain ⟨first, middle, others, isFirst, isRest, -⟩ := serveAll_cons_run done
      have member := members request List.mem_cons_self
      obtain ⟨shortFirst, shortRest⟩ := short
      rw [isFirst] at shortRest
      have step := records.generate sharing ownMember member shortFirst books isFirst
      have run := inductionHypothesis
        (fun other later => members other (List.mem_cons_of_mem _ later)) shortRest
        (generate_serves sharing books member isFirst).1 isRest
      rw [run, step, List.append_assoc, installedBy, isFirst]

end Records

end Recording

/-- Tracing never affects generation, and records exactly what was installed. Two runs of the same
requests under different traces, which no model sees, come to the same answers and leave the same
registries and the same counts. While a generator of a registry traces to a sink of its own, the
names that the sink is called with are those of the units that this generator itself installs, in
the order of their installation, whatever comes of the calls. -/
theorem traces_record_installations_and_change_nothing {view : World → View}
    {requests others : List (Generator World × ClassId)}
    (same : SameRequests view requests others) {start last otherLast : Scene World}
    {answers otherAnswers : List (Except GenerationError (Accessor World))}
    (done : (serveAll requests).run start = (answers, last))
    (otherDone : (serveAll others).run start = (otherAnswers, otherLast)) :
    (answers = otherAnswers ∧ last.store = otherLast.store ∧
        last.generated = otherLast.generated ∧ last.released = otherLast.released) ∧
      ∀ generators number origin accessors, Sharing generators number →
        Fresh generators number origin → Runs generators number origin accessors start →
          (∀ request ∈ requests, request.1 ∈ generators) →
          AllAddressable requests start →
            ∀ own ∈ generators, ∀ log : World → List String, Records log own generators →
              log last.world = log start.world ++ installedBy own number requests start := by
  constructor
  · have alike : Alike view start start := ⟨rfl, .refl start⟩
    obtain ⟨sameAnswers, scenes⟩ := Parallel.serveAll same start start alike
    rw [done, otherDone] at sameAnswers scenes
    exact ⟨sameAnswers, scenes.books.store.symm, scenes.books.generated.symm,
      scenes.books.released.symm⟩
  · intro generators number origin accessors sharing fresh runs members short own ownMember log
      records
    have books := runs.books sharing fresh.books
    exact records.serveAll sharing ownMember members short books done

/-! ## A sink that notes names -/

/-- A model with one counter, whose members do nothing. Its world is the list of names that a sink
notes. -/
def idleCounterModel : Machine.TypeModel (List String) where
  typeName _ := return some counter.name
  constructors _ := return counter.constructors
  methods _ := return counter.methods
  fields _ := return counter.fields
  constructorHandle _ _ := return some fun _ => return .error "idle"
  methodHandle _ _ := return none
  fieldHandle _ _ := return some ⟨fun _ => return .error "idle", fun _ _ => return .error "idle"⟩
  resolveOverride _ _ := return none
  isAssignable _ _ := return false

/-- A generator without traces. -/
def silentGenerator (number : Nat) : Generator (List String) where
  number
  modelId := ⟨number⟩
  model := idleCounterModel
  scopeOf _ := return ⟨7⟩
  registry := 0
  settings := {}
  sink := none
  writeFile _ _ _ := return .ok ()

/-- The same generator with a sink that notes the names it is called with, and always fails. -/
def notingGenerator (number : Nat) : Generator (List String) :=
  { silentGenerator number with
    settings := { traceEnabled := true }
    sink := some fun unit _ => do
      modify fun names => names ++ [unit]
      return .error "full" }

/-- A new registry and two generators that have counted nothing. -/
def silentScene : Scene (List String) where
  world := []
  store := ({} : Store (List String)).addRegistry ⟨0⟩
  generated := [0, 0]

/-- The questions to the idle counter have every property that composes. -/
theorem eachQuestion_idleCounterModel
    {holds : {Answer : Type} → StateM (List String) Answer → Prop}
    (composes : Machine.Composes holds) : Machine.EachQuestion holds idleCounterModel :=
  ⟨fun _ => composes.ofPure _, fun _ => composes.ofPure _, fun _ => composes.ofPure _,
    fun _ => composes.ofPure _, fun _ _ => composes.ofPure _, fun _ _ => composes.ofPure _,
    fun _ _ => composes.ofPure _⟩

theorem unseen_silentGenerator (number : Nat) :
    Unseen (fun _ => ()) (silentGenerator number) where
  model := eachQuestion_idleCounterModel (Sees.composes _)
  describe := (eachQuestion_idleCounterModel (Sees.composes _)).snapshot (Sees.composes _)
  scopeOf _ := (Sees.composes _).ofPure _
  sink _ _ _ _ _ := rfl

theorem unseen_notingGenerator (number : Nat) :
    Unseen (fun _ => ()) (notingGenerator number) :=
  { unseen_silentGenerator number with sink := fun _ _ _ _ _ => rfl }

theorem sharing_noting : Sharing [notingGenerator 0, silentGenerator 1] 0 where
  registry := by simp [notingGenerator, silentGenerator]
  distinct := by simp [notingGenerator, silentGenerator]

theorem fresh_noting : Fresh [notingGenerator 0, silentGenerator 1] 0 silentScene where
  registry := ⟨⟨0⟩, 0, rfl⟩
  counts := by simp [notingGenerator, silentGenerator, silentScene]

theorem model_noting : ∀ generator ∈ [notingGenerator 0, silentGenerator 1],
    generator.model = idleCounterModel := by
  simp [notingGenerator, silentGenerator]

theorem records_notingGenerator :
    Records id (notingGenerator 0) [notingGenerator 0, silentGenerator 1] where
  enabled := rfl
  sink := ⟨_, rfl, fun _ _ _ => rfl⟩
  model generator member :=
    model_noting generator member ▸ eachQuestion_idleCounterModel (Keeps.composes id)
  describe generator member := by
    rw [model_noting generator member]
    exact (eachQuestion_idleCounterModel (Keeps.composes id)).snapshot (Keeps.composes id)
  scopeOf generator member classId world := by
    simp only [List.mem_cons, List.not_mem_nil, or_false] at member
    rcases member with rfl | rfl <;> rfl
  others generator member different sink chosen := by
    simp only [List.mem_cons, List.not_mem_nil, or_false] at member
    rcases member with rfl | rfl
    · exact absurd rfl different
    · cases chosen

/-- The counter can be answered, for a generator over the idle counter. -/
theorem canAnswer_idleCounter {generator : Generator (List String)}
    (isIdle : generator.model = idleCounterModel) :
    CanAnswer generator counter.classId counterImage where
  named _ := isIdle ▸ rfl
  builds _ := ⟨counter, isIdle ▸ rfl, counter_built⟩
  short := counter_short
  links _ := isIdle ▸ rfl

/-- The counter is asked for twice, by a generator whose traces are noted and by another one. -/
def notedRequests : List (Generator (List String) × ClassId) :=
  [(notingGenerator 0, counter.classId), (silentGenerator 1, counter.classId)]

/-- The same requests without traces. -/
def silentRequests : List (Generator (List String) × ClassId) :=
  [(silentGenerator 0, counter.classId), (silentGenerator 1, counter.classId)]

theorem allAddressable_notedRequests : AllAddressable notedRequests silentScene :=
  ⟨(canAnswer_idleCounter rfl).addressable _, (canAnswer_idleCounter rfl).addressable _, trivial⟩

/-- The generator whose traces are noted installs the counter's unit, and the other one none. -/
theorem installedBy_notedRequests :
    installedBy (notingGenerator 0) 0 notedRequests silentScene =
      [unitName counter.name counter.classId] := by
  have able : ∀ generator ∈ [notingGenerator 0, silentGenerator 1],
      CanAnswer generator counter.classId counterImage :=
    fun generator member => canAnswer_idleCounter (model_noting generator member)
  have before := @Runs.start _ [notingGenerator 0, silentGenerator 1] 0 silentScene
  obtain ⟨accessor, later, first, -⟩ :=
    before.exists_answered sharing_noting fresh_noting able List.mem_cons_self
  obtain ⟨kept, -, served⟩ :=
    generate_serves sharing_noting fresh_noting.books List.mem_cons_self first
  obtain ⟨asked, -, located, -⟩ := served.unitAt_place
  have isName : accessor.place.name = unitName counter.name counter.classId := by
    generalize accessor.place = place at located
    cases located with
    | asked named resolved =>
        cases named
        rfl
  have isNew := fresh_noting.books.newUnits_of_served kept served located.registry
    (fresh_noting.unitAt_eq_none located.registry)
  have others : (silentGenerator 1).number ≠ (notingGenerator 0).number := Nat.one_ne_zero
  simp only [notedRequests, installedBy, first, isNew, isName, if_true, if_neg others,
    List.append_nil]

theorem traces_record_installations_and_change_nothing_counter :
    ∃ answers last otherAnswers otherLast,
      SameRequests (fun _ => ()) notedRequests silentRequests ∧
      (serveAll notedRequests).run silentScene = (answers, last) ∧
      (serveAll silentRequests).run silentScene = (otherAnswers, otherLast) ∧
      Sharing [notingGenerator 0, silentGenerator 1] 0 ∧
      Fresh [notingGenerator 0, silentGenerator 1] 0 silentScene ∧
      AllAddressable notedRequests silentScene ∧
      answers = otherAnswers ∧ last.store = otherLast.store ∧
      last.world = [unitName counter.name counter.classId] := by
  have same : SameRequests (fun _ => ()) notedRequests silentRequests :=
    .cons ⟨rfl, ⟨rfl, rfl, rfl, rfl, rfl, rfl⟩, unseen_notingGenerator 0, unseen_silentGenerator 0⟩
      (.cons ⟨rfl, ⟨rfl, rfl, rfl, rfl, rfl, rfl⟩, unseen_silentGenerator 1,
        unseen_silentGenerator 1⟩ .nil)
  have members : ∀ request ∈ notedRequests,
      request.1 ∈ [notingGenerator 0, silentGenerator 1] := by
    simp [notedRequests]
  obtain ⟨⟨answers, last⟩, done⟩ :
      ∃ outcome, (serveAll notedRequests).run silentScene = outcome := ⟨_, rfl⟩
  obtain ⟨⟨otherAnswers, otherLast⟩, otherDone⟩ :
      ∃ outcome, (serveAll silentRequests).run silentScene = outcome := ⟨_, rfl⟩
  obtain ⟨⟨sameAnswers, sameStore, -⟩, recorded⟩ :=
    traces_record_installations_and_change_nothing same done otherDone
  have noted := recorded _ 0 silentScene [] sharing_noting fresh_noting .start members
    allAddressable_notedRequests (notingGenerator 0) List.mem_cons_self id records_notingGenerator
  rw [installedBy_notedRequests] at noted
  exact ⟨answers, last, otherAnswers, otherLast, same, done, otherDone, sharing_noting,
    fresh_noting, allAddressable_notedRequests, sameAnswers, sameStore, noted⟩

end OrdinalDispatch.Loader

import OrdinalDispatch.Proofs.Loader.ModelIsolation
import OrdinalDispatch.Proofs.Machine.Questions

/-!
Contract: what requests come to while no answer depends on what was asked before.

Owns: questions with settled answers, what a class comes to whoever asks for it,
and that every request comes to just that.

Does not own: requests in a row, see `OrdinalDispatch.Proofs.Loader.RequestOrder`.

Worlds differ by what has happened in them. Those that answer alike are steady,
and a question is settled if it leads from a steady world to no other.
-/

set_option autoImplicit false

namespace OrdinalDispatch.Loader

open OrdinalDispatch.Code

variable {World : Type}

/-! ## Settled questions -/

/-- As long as the world is steady, the question keeps it so, and its answer is the same. -/
structure Settled {Answer : Type} (steady : World → Prop) (question : StateM World Answer) :
    Prop where
  keeps : ∀ world, steady world → steady (question.run world).2
  alike : ∀ world other, steady world → steady other →
    (question.run world).1 = (question.run other).1

namespace Settled

variable {Answer Following : Type} {steady : World → Prop} {question : StateM World Answer}

theorem ofPure (answer : Answer) : Settled steady (pure answer : StateM World Answer) where
  keeps _ holds := holds
  alike _ _ _ _ := rfl

/-- What follows a settled question may depend on its answer. -/
theorem bind {next : Answer → StateM World Following} (front : Settled steady question)
    (back : ∀ answer, Settled steady (next answer)) : Settled steady (question >>= next) where
  keeps world holds := (back _).keeps _ (front.keeps world holds)
  alike world other holds holdsToo := by
    show ((next (question.run world).1).run (question.run world).2).1 =
      ((next (question.run other).1).run (question.run other).2).1
    rw [front.alike world other holds holdsToo]
    exact (back _).alike _ _ (front.keeps world holds) (front.keeps other holdsToo)

theorem composes : Machine.Composes (Settled steady) where
  ofPure := ofPure
  bind front back := front.bind back

/-- A settled question is answered in a steady world as it is in any other. -/
theorem run_eq (settled : Settled steady question) {start finish other : World} {answer : Answer}
    (begins : steady other) (holds : steady start) (done : question.run start = (answer, finish)) :
    (question.run other).1 = answer ∧ steady finish := by
  constructor
  · rw [settled.alike other start begins holds, done]
  · have kept := settled.keeps start holds
    rwa [done] at kept

end Settled

/-- The questions of generation to a model are settled. -/
structure SettledModel (steady : World → Prop) (model : Machine.TypeModel World) : Prop where
  typeName : ∀ classId, Settled steady (model.typeName classId)
  constructors : ∀ classId, Settled steady (model.constructors classId)
  methods : ∀ classId, Settled steady (model.methods classId)
  fields : ∀ classId, Settled steady (model.fields classId)
  constructorHandle : ∀ classId ordinal, Settled steady (model.constructorHandle classId ordinal)
  methodHandle : ∀ classId ordinal, Settled steady (model.methodHandle classId ordinal)
  fieldHandle : ∀ classId ordinal, Settled steady (model.fieldHandle classId ordinal)

namespace SettledModel

variable {steady : World → Prop} {model : Machine.TypeModel World}
  (answers : SettledModel steady model)
include answers

theorem each : Machine.EachQuestion (Settled steady) model :=
  ⟨answers.typeName, answers.constructors, answers.methods, answers.fields,
    answers.constructorHandle, answers.methodHandle, answers.fieldHandle⟩

/-- Linking is settled as far as the model is. -/
theorem ofImage (image : Image) : Settled steady (Machine.Linkage.ofImage model image) :=
  answers.each.ofImage Settled.composes image

end SettledModel

/-! ## What a class comes to -/

/-- What the generators of one model in one registry have in common. -/
structure Source (World : Type) where
  registry : Nat
  modelId : ModelId
  model : Machine.TypeModel World
  scopeOf : ClassId → StateM World ScopeId

/-- What a generator has in common with others of its model. -/
def Generator.source (generator : Generator World) : Source World :=
  ⟨generator.registry, generator.modelId, generator.model, generator.scopeOf⟩

namespace Source

variable (source : Source World) (origin : World) (classId : ClassId)

/-- The place of the unit of a class, if the class is known. -/
def place? : Option UnitPlace :=
  ((source.model.typeName classId).run origin).1.map fun typeName =>
    ⟨source.registry, ((source.scopeOf classId).run origin).1, unitName typeName classId⟩

/-- The image that is installed as a unit, or why none can be. -/
def image (unit : String) : Except GenerationError Image :=
  match ((source.model.describe classId).run origin).1 with
  | none => .error (.unknownType classId)
  | some description =>
      match Image.ofDescription description with
      | .error cause => .error (.malformedImage description.name cause)
      | .ok image =>
          match image.fault? with
          | some fault => .error (.malformedImage unit (.verification fault))
          | none => .ok image

/-- What linking an image comes to. -/
def link (image : Image) : Except LinkFault (Machine.Linkage World) :=
  ((Machine.Linkage.ofImage source.model image).run origin).1

/-- What a request for a class comes to. -/
def outcome : Except GenerationError (Accessor World) :=
  match source.place? origin classId with
  | none => .error (.unknownType classId)
  | some place =>
      match source.image origin classId place.name with
      | .error error => .error error
      | .ok image =>
          match source.link origin image with
          | .error fault => .error (.instantiation image.typeName fault)
          | .ok linkage => .ok ⟨place, source.modelId, ⟨image, linkage, source.model⟩⟩

/-- The linkages of a unit that was asked for: its own model's, if there is one. -/
def linkages (image : Image) : List (ModelId × Machine.Linkage World) :=
  match source.link origin image with
  | .error _ => []
  | .ok linkage => [(source.modelId, linkage)]

variable {source origin classId}

/-- Different classes have units at different places. -/
theorem place?_inj {other : ClassId} {place : UnitPlace}
    (located : source.place? origin classId = some place)
    (locatedToo : source.place? origin other = some place) : other = classId := by
  obtain ⟨typeName, -, rfl⟩ := Option.map_eq_some_iff.mp located
  obtain ⟨otherName, -, same⟩ := Option.map_eq_some_iff.mp locatedToo
  exact (unitName_inj (congrArg UnitPlace.name same)).2

theorem outcome_of_image_error {place : UnitPlace} {error : GenerationError}
    (located : source.place? origin classId = some place)
    (refused : source.image origin classId place.name = .error error) :
    source.outcome origin classId = .error error := by
  simp only [outcome, located, refused]

theorem outcome_of_link {place : UnitPlace} {image : Image}
    (located : source.place? origin classId = some place)
    (built : source.image origin classId place.name = .ok image) :
    source.outcome origin classId =
      match source.link origin image with
      | .error fault => .error (.instantiation image.typeName fault)
      | .ok linkage => .ok ⟨place, source.modelId, ⟨image, linkage, source.model⟩⟩ := by
  simp only [outcome, located, built]

theorem linkages_of_link_error {image : Image} {fault : LinkFault}
    (fails : source.link origin image = .error fault) : source.linkages origin image = [] := by
  simp only [linkages, fails]

theorem linkages_of_link_ok {image : Image} {linkage : Machine.Linkage World}
    (links : source.link origin image = .ok linkage) :
    source.linkages origin image = [(source.modelId, linkage)] := by
  simp only [linkages, links]

theorem link_of_lookup {image : Image} {linkage : Machine.Linkage World}
    (known : (source.linkages origin image).lookup source.modelId = some linkage) :
    source.link origin image = .ok linkage := by
  cases link : source.link origin image with
  | error fault =>
      rw [linkages_of_link_error link] at known
      cases known
  | ok other =>
      rw [linkages_of_link_ok link, List.lookup_cons_self] at known
      rw [Option.some.inj known]

end Source

/-! ## Steady worlds -/

/-- A computation that leads from steady worlds to no others. -/
def KeepsSteady {Result : Type} (steady : World → Prop) (computation : Loading World Result) :
    Prop :=
  ∀ scene, steady scene.world → steady (computation.run scene).2.world

namespace KeepsSteady

variable {steady : World → Prop} {Result Following : Type} {computation : Loading World Result}

theorem bind {next : Result → Loading World Following} (front : KeepsSteady steady computation)
    (back : ∀ result, KeepsSteady steady (next result)) :
    KeepsSteady steady (computation >>= next) :=
  fun scene holds => back _ _ (front scene holds)

theorem of_world (same : ∀ scene, (computation.run scene).2.world = scene.world) :
    KeepsSteady steady computation := by
  intro scene holds
  rwa [same]

theorem ofPure (result : Result) : KeepsSteady steady (pure result : Loading World Result) :=
  of_world fun _ => rfl

theorem report (event : Event) : KeepsSteady steady (report event : Loading World Unit) :=
  of_world fun _ => rfl

theorem ask {Answer : Type} {question : StateM World Answer}
    (keeps : ∀ world, steady world → steady (question.run world).2) :
    KeepsSteady steady (ask question) :=
  fun scene holds => keeps scene.world holds

theorem resolve (number : Nat) (scope : ScopeId) :
    KeepsSteady steady (resolve number scope : Loading World (Context World)) := by
  apply of_world
  intro scene
  obtain ⟨-, -, world, -⟩ := resolve_run (Eq.refl ((Loader.resolve number scope).run scene))
  exact world

theorem defineUnit (place : UnitPlace) (image : Image) :
    KeepsSteady steady (defineUnit place image : Loading World _) := by
  refine bind (.resolve place.registry place.scope) fun context => ?_
  cases context.install place.name image with
  | error error => exact .ofPure _
  | ok installation => exact of_world fun _ => rfl

theorem installCounted (generator : Generator World) (place : UnitPlace) (image : Image)
    (event : Event) : KeepsSteady steady (generator.installCounted place image event) := by
  refine bind (.defineUnit place image) fun defined => ?_
  cases defined with
  | error error => exact .ofPure _
  | ok unit => exact .of_world fun _ => rfl

end KeepsSteady

/-- Generators with a common source, whose questions are settled, and whose sinks keep the world
steady. -/
structure Undisturbed (steady : World → Prop) (source : Source World)
    (generators : List (Generator World)) : Prop where
  common : ∀ generator ∈ generators, generator.source = source
  model : SettledModel steady source.model
  describe : ∀ classId, Settled steady (source.model.describe classId)
  scopeOf : ∀ classId, Settled steady (source.scopeOf classId)
  sinks : ∀ generator ∈ generators, ∀ sink, generator.sink? = some sink → ∀ unit image world,
    steady world → steady ((sink unit image).run world).2

section Undisturbed

variable {steady : World → Prop} {source : Source World} {generators : List (Generator World)}
  (undisturbed : Undisturbed steady source generators) {generator : Generator World}
  (member : generator ∈ generators)
include undisturbed member

theorem Undisturbed.settledModel : SettledModel steady generator.model := by
  have same : generator.model = source.model :=
    congrArg Source.model (undisturbed.common generator member)
  rw [same]
  exact undisturbed.model

theorem Undisturbed.settledDescription (classId : ClassId) :
    Settled steady (generator.model.describe classId) := by
  have same : generator.model = source.model :=
    congrArg Source.model (undisturbed.common generator member)
  rw [same]
  exact undisturbed.describe classId

theorem Undisturbed.settledScope (classId : ClassId) :
    Settled steady (generator.scopeOf classId) := by
  have same : generator.scopeOf = source.scopeOf :=
    congrArg Source.scopeOf (undisturbed.common generator member)
  rw [same]
  exact undisturbed.scopeOf classId

theorem keepsSteady_trace (unit : String) (image : Image) :
    KeepsSteady steady (generator.trace unit image) := by
  unfold Generator.trace
  cases chosen : generator.sink? with
  | none => exact .report _
  | some sink =>
      refine .bind (.ask (undisturbed.sinks generator member sink chosen unit image)) fun outcome =>
        ?_
      cases outcome with
      | error failure => exact .report _
      | ok written => exact .ofPure _

theorem keepsSteady_install (classId : ClassId) (place : UnitPlace) (context : UInt32) :
    KeepsSteady steady (generator.install classId place context) := by
  have describes := undisturbed.settledDescription member classId
  refine .bind (.ask describes.keeps) fun answer => ?_
  cases answer with
  | none => exact .ofPure _
  | some description =>
      dsimp only
      split
      · exact .ofPure _
      · split
        · refine .bind (keepsSteady_trace undisturbed member place.name _) fun _ => ?_
          exact .installCounted generator place _ _
        · exact .installCounted generator place _ _

theorem keepsSteady_obtain (classId : ClassId) (place : UnitPlace) :
    KeepsSteady steady (generator.obtain classId place) := by
  refine .bind (.resolve place.registry place.scope) fun context => ?_
  split
  · exact .of_world fun _ => rfl
  · exact keepsSteady_install undisturbed member classId place context.id

theorem keepsSteady_generate (classId : ClassId) :
    KeepsSteady steady (generator.generate classId) := by
  have model := undisturbed.settledModel member
  refine .bind (.ask (model.typeName classId).keeps) fun answer => ?_
  cases answer with
  | none => exact .ofPure _
  | some typeName =>
      refine .bind (.ask (undisturbed.settledScope member classId).keeps) fun scope => ?_
      refine .bind (keepsSteady_obtain undisturbed member classId _) fun obtained => ?_
      cases obtained with
      | error error => exact .ofPure _
      | ok unit =>
          dsimp only [instantiate]
          split
          · exact .ofPure _
          · refine .bind (.ask (model.ofImage unit.image).keeps) fun linked => ?_
            cases linked with
            | error fault => exact .ofPure _
            | ok linkage => exact .of_world fun _ => rfl

end Undisturbed

/-! ## Requests in steady worlds -/

/-- The units of a registry are those of the classes that were asked for and have an image, each
with the linkage that its image comes to. -/
structure Reflects (source : Source World) (origin : World) (served : ClassId → Prop)
    (scene : Scene World) : Prop where
  installed : ∀ classId place image, served classId →
    source.place? origin classId = some place →
    source.image origin classId place.name = .ok image →
      ∃ unit, scene.store.unitAt place = some unit ∧ unit.image = image
  stems : ∀ place unit, place.registry = source.registry →
    scene.store.unitAt place = some unit →
      unit.linkages = source.linkages origin unit.image ∧
        ∃ classId, served classId ∧ source.place? origin classId = some place ∧
          source.image origin classId place.name = .ok unit.image

namespace Reflects

variable {source : Source World} {origin : World} {served : ClassId → Prop}
  {scene later : Scene World} {classId : ClassId} {place : UnitPlace}
  {unit : InstalledUnit World}

/-- Where a class has no image, asking for it adds no unit. -/
theorem of_same (reflects : Reflects source origin served scene)
    (none : ∀ place image, source.place? origin classId = some place →
      source.image origin classId place.name ≠ .ok image)
    (units : later.store.unitAt = scene.store.unitAt) :
    Reflects source origin (fun other => served other ∨ other = classId) later where
  installed other place image isServed located built := by
    rw [units]
    rcases isServed with earlier | rfl
    · exact reflects.installed other place image earlier located built
    · exact absurd built (none place image located)
  stems place unit here isThere := by
    rw [units] at isThere
    obtain ⟨linkages, other, earlier, stems⟩ := reflects.stems place unit here isThere
    exact ⟨linkages, other, .inl earlier, stems⟩

/-- Where a class has an image, asking for it leaves the unit with its linkage. -/
theorem update (reflects : Reflects source origin served scene)
    (located : source.place? origin classId = some place)
    (built : source.image origin classId place.name = .ok unit.image)
    (linked : unit.linkages = source.linkages origin unit.image)
    (units : later.store.unitAt = Function.update scene.store.unitAt place (some unit)) :
    Reflects source origin (fun other => served other ∨ other = classId) later where
  installed other otherPlace image isServed locatedToo builtToo := by
    by_cases here : otherPlace = place
    · subst here
      obtain rfl := Source.place?_inj located locatedToo
      refine ⟨unit, (congrFun units _).trans (Function.update_self ..), ?_⟩
      exact Except.ok.inj (built.symm.trans builtToo)
    · have earlier : served other := by
        rcases isServed with earlier | rfl
        · exact earlier
        · exact absurd (Option.some.inj (locatedToo.symm.trans located)) here
      rw [units, Function.update_of_ne here]
      exact reflects.installed other otherPlace image earlier locatedToo builtToo
  stems otherPlace present isHere isThere := by
    rw [units] at isThere
    by_cases here : otherPlace = place
    · subst here
      rw [Function.update_self] at isThere
      obtain rfl := Option.some.inj isThere
      exact ⟨linked, classId, .inr rfl, located, built⟩
    · rw [Function.update_of_ne here] at isThere
      obtain ⟨linkages, other, earlier, stems⟩ := reflects.stems otherPlace present isHere isThere
      exact ⟨linkages, other, .inl earlier, stems⟩

/-- The units at a place are alike, whichever classes were asked for. -/
theorem alike {servedToo : ClassId → Prop} {sceneToo : Scene World} {other : InstalledUnit World}
    (reflects : Reflects source origin served scene)
    (reflectsToo : Reflects source origin servedToo sceneToo)
    (here : place.registry = source.registry) (isUnit : scene.store.unitAt place = some unit)
    (isOther : sceneToo.store.unitAt place = some other) :
    other.image = unit.image ∧ other.linkages = unit.linkages := by
  obtain ⟨linkages, classId, -, located, built⟩ := reflects.stems place unit here isUnit
  obtain ⟨linkagesToo, otherClass, -, locatedToo, builtToo⟩ :=
    reflectsToo.stems place other here isOther
  obtain rfl := Source.place?_inj located locatedToo
  have sameImage : other.image = unit.image := Except.ok.inj (builtToo.symm.trans built)
  exact ⟨sameImage, by rw [linkages, linkagesToo, sameImage]⟩

end Reflects

section Steps

variable {steady : World → Prop} {generators : List (Generator World)} {generator : Generator World}
  (undisturbed : Undisturbed steady generator.source generators) (member : generator ∈ generators)
  {origin : World} (begins : steady origin) {served : ClassId → Prop} {scene later : Scene World}
  {classId : ClassId} {place : UnitPlace} {unit : InstalledUnit World} {world asked : World}
include undisturbed begins

/-- A request in a steady world looks for the unit at its place. -/
theorem Locates.place?_eq (located : Locates generator classId world place asked)
    (holds : steady world) :
    generator.source.place? origin classId = some place ∧ steady asked := by
  cases located with
  | asked named resolved =>
      obtain ⟨isName, holds⟩ := (undisturbed.model.typeName classId).run_eq begins holds named
      obtain ⟨isScope, holds⟩ := (undisturbed.scopeOf classId).run_eq begins holds resolved
      refine ⟨?_, holds⟩
      rw [Source.place?, isName, isScope]
      rfl

theorem Refuses.image_eq {name : String} {error : GenerationError}
    (reason : Refuses generator classId name world error) (holds : steady world) :
    generator.source.image origin classId name = .error error := by
  have settled := undisturbed.describe classId
  cases reason with
  | undescribed answer =>
      simp only [Source.image, (settled.run_eq begins holds answer).1]
  | unbuilt answer failed =>
      simp only [Source.image, (settled.run_eq begins holds answer).1, failed]
  | unaddressable answer built long checked =>
      simp only [Source.image, (settled.run_eq begins holds answer).1, built, checked]

/-- The unit that a request works with has the image of its class, whoever installed it. It is
linked as it should be, or new. -/
theorem Holds.image_eq (holds : Holds generator classId asked place scene.store unit)
    (reflects : Reflects generator.source origin served scene)
    (located : generator.source.place? origin classId = some place) (steadily : steady asked) :
    generator.source.image origin classId place.name = .ok unit.image ∧
      (unit.linkages = generator.source.linkages origin unit.image ∨ unit.linkages = []) := by
  cases holds with
  | reused present =>
      have here : place.registry = generator.source.registry := by
        obtain ⟨typeName, -, rfl⟩ := Option.map_eq_some_iff.mp located
        rfl
      obtain ⟨linkages, other, -, isPlace, built⟩ := reflects.stems place unit here present
      obtain rfl := Source.place?_inj located isPlace
      exact ⟨built, .inl linkages⟩
  | installed missing described built passes =>
      have settled := undisturbed.describe classId
      refine ⟨?_, .inr rfl⟩
      simp only [Source.image, (settled.run_eq begins steadily described).1, built, passes]

include member

/-- Linking in the world that obtaining the unit leaves behind comes to what it always comes to. -/
theorem Leaves.link_eq {start finish : World} {image : Image}
    {result : Except LinkFault (Machine.Linkage World)}
    (leaves : Leaves generator classId place asked start) (holds : steady asked)
    (done : (Machine.Linkage.ofImage generator.model image).run start = (result, finish)) :
    generator.source.link origin image = result := by
  cases leaves with
  | @obtained opened held outcome opens ran =>
      have kept := keepsSteady_obtain undisturbed member classId place opened (opens ▸ holds)
      rw [ran] at kept
      exact ((undisturbed.model.ofImage image).run_eq begins kept done).1

/-- A request in a steady world comes to what its class comes to, and leaves the units of the
classes that were asked for by then. -/
theorem Served.reflects {result : Except GenerationError (Accessor World)}
    (reflects : Reflects generator.source origin served scene) (holds : steady scene.world)
    (outcome : Served generator classId scene later result) :
    result = generator.source.outcome origin classId ∧
      Reflects generator.source origin (fun other => served other ∨ other = classId) later := by
  cases outcome with
  | nameless answer units =>
      have unnamed := ((undisturbed.model.typeName classId).run_eq begins holds answer).1
      have nowhere : generator.source.place? origin classId = none := by
        rw [Source.place?, unnamed]
        rfl
      refine ⟨?_, reflects.of_same ?_ units⟩
      · simp only [Source.outcome, nowhere]
      · intro place image located
        cases nowhere.symm.trans located
  | refused located reason units =>
      obtain ⟨isPlace, steadily⟩ := located.place?_eq undisturbed begins holds
      have refused := reason.image_eq undisturbed begins steadily
      refine ⟨(Source.outcome_of_image_error isPlace refused).symm, reflects.of_same ?_ units⟩
      intro other image locatedToo built
      obtain rfl := Option.some.inj (isPlace.symm.trans locatedToo)
      cases refused.symm.trans built
  | unlinked located held unknown leaves fails units =>
      obtain ⟨isPlace, steadily⟩ := located.place?_eq undisturbed begins holds
      obtain ⟨built, linkages⟩ := held.image_eq undisturbed begins reflects isPlace steadily
      have link := leaves.link_eq undisturbed member begins steadily fails
      refine ⟨?_, reflects.update isPlace built ?_ units⟩
      · simp only [Source.outcome_of_link isPlace built, link]
      · simpa only [Source.linkages_of_link_error link, or_self] using linkages
  | @stored place unit linkage asked located held known units =>
      obtain ⟨isPlace, steadily⟩ := located.place?_eq undisturbed begins holds
      obtain ⟨built, linkages | new⟩ := held.image_eq undisturbed begins reflects isPlace steadily
      · have lookup : (generator.source.linkages origin unit.image).lookup
            generator.source.modelId = some linkage := linkages ▸ known
        refine ⟨?_, reflects.update isPlace built linkages units⟩
        simp only [Source.outcome_of_link isPlace built, Source.link_of_lookup lookup]
        rfl
      · rw [InstalledUnit.linkage?, new] at known
        cases known
  | @linked place unit linkage asked start located held unknown leaves links units =>
      obtain ⟨isPlace, steadily⟩ := located.place?_eq undisturbed begins holds
      obtain ⟨built, linkages⟩ := held.image_eq undisturbed begins reflects isPlace steadily
      have link := leaves.link_eq undisturbed member begins steadily links
      have own := Source.linkages_of_link_ok link
      have new : unit.linkages = [] := by
        refine linkages.resolve_left fun isLinked => ?_
        rw [InstalledUnit.linkage?, isLinked, own] at unknown
        cases List.lookup_cons_self.symm.trans unknown
      have builtToo : generator.source.image origin classId place.name =
          .ok (unit.addLinkage scene.isLive generator.modelId linkage).image := built
      refine ⟨?_, reflects.update isPlace builtToo ?_ units⟩
      · simp only [Source.outcome_of_link isPlace built, link]
        rfl
      · show (unit.linkages.filter _) ++ [(generator.modelId, linkage)] =
          generator.source.linkages origin unit.image
        rw [new, own]
        rfl

end Steps

end OrdinalDispatch.Loader

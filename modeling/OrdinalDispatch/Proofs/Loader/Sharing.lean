import OrdinalDispatch.Proofs.Loader.Runs

/-!
Contract: generators that share a registry generate each unit once.

Owns: what an answered request provides, what a refused one may say, and that
the counts of the generators are the count of the units, in every state that a
run can reach.

Does not own: linkages, see `OrdinalDispatch.Proofs.Loader.ModelIsolation`.
-/

set_option autoImplicit false

namespace OrdinalDispatch.Loader

open OrdinalDispatch.Code

variable {World : Type} {generators : List (Generator World)} {number : Nat}
  {generator : Generator World} {classId : ClassId} {scene later : Scene World}

/-- What a model describes when it is asked for a class is of that class. -/
def DescribesAsked (model : Machine.TypeModel World) (classId : ClassId) : Prop :=
  ∀ start description finish,
    (model.describe classId).run start = (some description, finish) →
      description.classId = classId

/-- A snapshot is of the class that was asked for. -/
theorem describesAsked_of_snapshot {model : Machine.TypeModel World}
    (isSnapshot : model.describe =
      Machine.TypeModel.snapshot model.typeName model.constructors model.methods model.fields)
    (classId : ClassId) : DescribesAsked model classId := by
  intro start description finish described
  rw [isSnapshot, Machine.TypeModel.snapshot, StateT.run_bind] at described
  rcases answered : (model.typeName classId).run start with ⟨name, middle⟩
  rw [answered] at described
  cases name with
  | none => cases described
  | some name =>
      obtain ⟨same, -⟩ := Prod.mk.inj described
      exact congrArg TypeDescription.classId (Option.some.inj same).symm

/-- The image was built from what one of the generators got described for a class. -/
def BuiltFor (generators : List (Generator World)) (classId : ClassId) (image : Image) : Prop :=
  ∃ generator ∈ generators, ∃ asked description finish,
    (generator.model.describe classId).run asked = (some description, finish) ∧
      Image.ofDescription description = .ok image

theorem buildsOnly_builtFor (member : generator ∈ generators) :
    BuildsOnly (BuiltFor generators classId) classId generator := by
  intro asked description finish image described built
  exact ⟨generator, member, asked, description, finish, described, built⟩

/-- An image that was built from descriptions of the class serves it. -/
theorem BuiltFor.target {image : Image} (built : BuiltFor generators classId image)
    (describes : ∀ generator ∈ generators, DescribesAsked generator.model classId) :
    image.target = classId := by
  obtain ⟨generator, member, asked, description, finish, described, built⟩ := built
  exact (target_of_ofDescription built).trans
    (describes generator member asked description finish described)

/-- What an answered request provides: an accessor whose image was built for its class, whichever
generator installed it, and that serves its class as long as the models describe what they are asked
for. The unit that the accessor runs is in the context of the class's scope, under the name that the
type's name makes. -/
structure Provides (generators : List (Generator World)) (generator : Generator World)
    (classId : ClassId) (scene later : Scene World) (accessor : Accessor World) : Prop where
  builtFor : BuiltFor generators classId accessor.linked.image
  target : (∀ other ∈ generators, DescribesAsked other.model classId) →
    accessor.targetClass = classId
  located : ∃ asked, Locates generator classId scene.world accessor.place asked
  hosted : ∃ context unit,
    (later.store.registry generator.registry).context? accessor.place.scope = some context ∧
      context.parent = accessor.place.scope ∧
      context.find? accessor.place.name = some unit ∧
      unit.name = accessor.place.name ∧ unit.context = context.id ∧
      unit.image = accessor.linked.image

/-- What a refused request may say. It never blames a taken name, and it blames the form of an
image only if none could be built from the description that it got, or the image that could is too
long to be addressed. -/
structure Excuses (generator : Generator World) (classId : ClassId) (scene : Scene World)
    (error : GenerationError) : Prop where
  notDuplicate : ∀ unit context, error ≠ .duplicateDefinition unit context
  malformed : ∀ unit cause, error = .malformedImage unit cause →
    ∃ place asked description finish, Locates generator classId scene.world place asked ∧
      (generator.model.describe classId).run asked = (some description, finish) ∧
      ((Image.ofDescription description = .error cause ∧ unit = description.name) ∨
        ∃ image, Image.ofDescription description = .ok image ∧ 2 ^ 32 ≤ image.code.size)

theorem Refuses.excuses {place : UnitPlace} {asked : World} {error : GenerationError}
    (located : Locates generator classId scene.world place asked)
    (reason : Refuses generator classId place.name asked error) :
    Excuses generator classId scene error := by
  cases reason with
  | undescribed answer => exact ⟨nofun, nofun⟩
  | unbuilt described failed =>
      refine ⟨nofun, fun unit cause same => ?_⟩
      obtain ⟨rfl, rfl⟩ := GenerationError.malformedImage.inj same
      exact ⟨place, asked, _, _, located, described, .inl ⟨failed, rfl⟩⟩
  | unaddressable described built long checked =>
      exact ⟨nofun, fun unit cause same =>
        ⟨place, asked, _, _, located, described, .inr ⟨_, built, long⟩⟩⟩

theorem Served.excuses {error : GenerationError}
    (served : Served generator classId scene later (.error error)) :
    Excuses generator classId scene error := by
  cases served with
  | nameless answer units => exact ⟨nofun, nofun⟩
  | refused located reason units => exact reason.excuses located
  | unlinked located holds unknown leaves fails units => exact ⟨nofun, nofun⟩

/-- Where the units of a class were built for it, an answered request provides an accessor. -/
theorem Served.provides (sharing : Sharing generators number) (member : generator ∈ generators)
    (books : Books generators number later) {accessor : Accessor World}
    (served : Served generator classId scene later (.ok accessor))
    (only : HasOnly (BuiltFor generators classId) number classId later) :
    Provides generators generator classId scene later accessor := by
  obtain ⟨asked, unit, located, isThere, runs⟩ := served.unitAt_place
  obtain rfl := sharing.registry generator member
  have built : BuiltFor generators classId accessor.linked.image := by
    rw [← runs]
    generalize accessor.place = place at located isThere
    cases located with
    | asked named resolved => exact only _ _ _ isThere
  refine ⟨built, built.target, ⟨asked, located⟩, ?_⟩
  obtain ⟨context, found, present⟩ := Option.bind_eq_some_iff.mp isThere
  rw [located.registry] at found
  have tidy := books.tidy.contexts context (Registry.mem_of_context? found)
  exact ⟨context, unit, found, Registry.parent_of_context? found, present,
    Context.name_of_find? present, tidy.hosted unit (Context.mem_of_find? present), runs⟩

/-- Generation happens at most once for each context and unit name. In every state that a run
reaches, the generators have counted as many images as there are units, and no two units of a
context share a name. Units stay through all that follows, with their images. A request is never
refused for a taken name, and for the form of an image only if none could be built; an answered
request provides an accessor of its class, whoever installed the unit. Only the class of the accessor
rests on what the models describe. -/
theorem generation_happens_once (sharing : Sharing generators number) {start : Scene World}
    (fresh : Fresh generators number start) {accessors : List (Accessor World)}
    (runs : Runs generators number start accessors scene) :
    totalGenerated generators scene = (scene.store.registry number).unitCount ∧
      (∀ context ∈ (scene.store.registry number).contexts,
        (context.units.map InstalledUnit.name).Nodup) ∧
      (∀ more later, Runs generators number scene more later → ∀ scope name unit,
        scene.store.unit? number scope name = some unit →
          ∃ same, later.store.unit? number scope name = some same ∧
            same.name = unit.name ∧ same.context = unit.context ∧ same.image = unit.image) ∧
      ∀ generator ∈ generators, ∀ classId result later,
        (generator.generate classId).run scene = (result, later) →
          (∀ error, result = .error error → Excuses generator classId scene error) ∧
            ∀ accessor, result = .ok accessor →
              Provides generators generator classId scene later accessor := by
  have books := runs.books sharing fresh.books
  refine ⟨books.counted, fun context member => (books.tidy.contexts context member).names, ?_, ?_⟩
  · intro more later following scope name unit isThere
    obtain ⟨same, isSame, goesOn⟩ := following.continues sharing books
      (rfl : (⟨number, scope, name⟩ : UnitPlace).registry = number) isThere
    exact ⟨same, isSame, goesOn.name, goesOn.context, goesOn.image⟩
  · intro generator member classId result later done
    obtain ⟨kept, -, served⟩ := generate_serves sharing books member done
    constructor
    · rintro error rfl
      exact served.excuses
    · rintro accessor rfl
      exact served.provides sharing member kept ((runs.answered member done).hasOnly sharing fresh
        fun _ => buildsOnly_builtFor)

/-- What the models of counters describe is of the class that was asked for. -/
theorem describesAsked_counter (classId : ClassId) :
    ∀ generator ∈ [counterGenerator 0, counterGenerator 1],
      DescribesAsked generator.model classId := by
  have snapshots (number : Nat) : DescribesAsked (counterGenerator number).model classId :=
    describesAsked_of_snapshot rfl classId
  simp [snapshots]

theorem generation_happens_once_counter :
    ∃ first second third scene,
      Sharing [counterGenerator 0, counterGenerator 1] 0 ∧
      Fresh [counterGenerator 0, counterGenerator 1] 0 counterScene ∧
      Runs [counterGenerator 0, counterGenerator 1] 0 counterScene [third, second, first] scene ∧
      second.place = first.place ∧ second.modelId ≠ first.modelId ∧
      second.targetClass = counter.classId ∧ third.targetClass = secondCounter.classId ∧
      totalGenerated [counterGenerator 0, counterGenerator 1] scene = 2 ∧
      (scene.store.registry 0).unitCount = 2 := by
  obtain ⟨first, second, one, two, hit⟩ := exists_counterHit
  obtain ⟨third, three, installsToo, thirdPlace, completesThree⟩ :=
    hit.runsTwo.exists_counter mem_counterGenerators.2 (.inr rfl)
  have runs := hit.runsTwo.answered mem_counterGenerators.2 installsToo
  -- the first unit is there for the second request, and the second unit only after the third one
  have isThere : (one.store.unitAt (counterPlace counter.classId)).isSome := by
    obtain ⟨unit, isUnit, -⟩ := hit.completesOne.unit
    rw [← hit.firstPlace, isUnit, Option.isSome_some]
  have missing : two.store.unitAt (counterPlace ⟨6⟩) = none := by
    have different : counterPlace ⟨6⟩ ≠ counterPlace counter.classId := by
      intro same
      cases (unitName_inj (congrArg UnitPlace.name same)).2
    rw [hit.completesTwo.others _ (hit.secondPlace ▸ different),
      hit.completesOne.others _ (hit.firstPlace ▸ different)]
    exact fresh_counter.unitAt_eq_none rfl
  have counted : three.generated = [1, 1] := by
    rw [completesThree.counts, thirdPlace, missing, hit.completesTwo.counts, hit.secondPlace,
      if_pos isThere, hit.completesOne.counts, hit.firstPlace,
      fresh_counter.unitAt_eq_none rfl]
    rfl
  have total : totalGenerated [counterGenerator 0, counterGenerator 1] three = 2 := by
    simp only [totalGenerated, Generator.generatedCount, counted]
    rfl
  obtain ⟨agrees, -, -, -⟩ := generation_happens_once sharing_counter fresh_counter runs
  obtain ⟨-, -, -, provides⟩ :=
    generation_happens_once sharing_counter fresh_counter hit.runsOne
  obtain ⟨-, -, -, providesToo⟩ :=
    generation_happens_once sharing_counter fresh_counter hit.runsTwo
  have secondProvides := (provides _ mem_counterGenerators.2 _ _ _ hit.hits).2 second rfl
  have thirdProvides := (providesToo _ mem_counterGenerators.2 _ _ _ installsToo).2 third rfl
  refine ⟨first, second, third, three, sharing_counter, fresh_counter, runs, ?_, ?_,
    secondProvides.target (describesAsked_counter _), thirdProvides.target (describesAsked_counter _),
    total, agrees ▸ total⟩
  · rw [hit.secondPlace, hit.firstPlace]
  · rw [hit.completesTwo.modelId, hit.completesOne.modelId]
    decide

end OrdinalDispatch.Loader

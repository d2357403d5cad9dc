import OrdinalDispatch.Proofs.Loader.ModelIsolation

/-!
Contract: a request that was answered once is answered the same way ever after,
and changes nothing.

Owns: what a request for a linked unit asks for and answers, and that such a unit
is found again at any later point of a run.

Does not own: that units and linkages last, see `OrdinalDispatch.Proofs.Loader.Runs`.
-/

set_option autoImplicit false

namespace OrdinalDispatch.Loader

open OrdinalDispatch.Code

variable {World : Type} {generators : List (Generator World)} {number : Nat}
  {generator again : Generator World} {classId : ClassId} {scene later : Scene World}
  {accessor : Accessor World} {typeName : String} {scope : ScopeId} {named asked : World}

/-- Where the unit of a class is there, a request asks for the type's name and for the scope. It
reports that the unit is used again, and what is left to do is to link it. -/
theorem generate_of_found {unit : InstalledUnit World}
    (isNamed : (generator.model.typeName classId).run scene.world = (some typeName, named))
    (resolved : (generator.scopeOf classId).run named = (scope, asked))
    {context : Context World}
    (found : (scene.store.registry generator.registry).context? scope = some context)
    (present : context.find? (unitName typeName classId) = some unit) :
    (generator.generate classId).run scene =
      (instantiate ⟨generator.registry, scope, unitName typeName classId⟩ unit generator.modelId
        generator.model).run { scene with
          world := asked
          events := scene.events.push (.reusedUnit (unitName typeName classId) context.id) } := by
  have obtains : (generator.obtain classId
      ⟨generator.registry, scope, unitName typeName classId⟩).run { scene with world := asked } =
        (.ok unit, { scene with
          world := asked
          events := scene.events.push (.reusedUnit (unitName typeName classId) context.id) }) := by
    have resolves : (resolve generator.registry scope).run { scene with world := asked } =
        (context, { scene with world := asked }) := resolve_resolved found
    rw [Generator.obtain, run_bind_of_run resolves]
    simp only [present]
    rfl
  rw [Generator.generate, run_bind_of_run (run_ask isNamed)]
  dsimp only
  rw [run_bind_of_run (run_ask resolved), run_bind_of_run obtains]

/-- Where the unit of a class is there and linked to the generator's model, a request changes
nothing but what it reports and asks for. -/
theorem generate_of_linked {unit : InstalledUnit World} {linkage : Machine.Linkage World}
    (isNamed : (generator.model.typeName classId).run scene.world = (some typeName, named))
    (resolved : (generator.scopeOf classId).run named = (scope, asked))
    {context : Context World}
    (found : (scene.store.registry generator.registry).context? scope = some context)
    (present : context.find? (unitName typeName classId) = some unit)
    (known : unit.linkage? generator.modelId = some linkage) :
    (generator.generate classId).run scene =
      (.ok ⟨⟨generator.registry, scope, unitName typeName classId⟩, generator.modelId,
          ⟨unit.image, linkage, generator.model⟩⟩,
        { scene with
          world := asked
          events := scene.events.push (.reusedUnit (unitName typeName classId) context.id) }) := by
  rw [generate_of_found isNamed resolved found present]
  simp only [instantiate, known]
  rfl

/-- An answered request leaves the unit of its class at the accessor's place, linked to the
generator's model as the accessor is. -/
theorem Served.linkedAt (served : Served generator classId scene later (.ok accessor))
    (isNamed : (generator.model.typeName classId).run scene.world = (some typeName, named))
    (resolved : (generator.scopeOf classId).run named = (scope, asked)) :
    ∃ unit, later.store.unitAt accessor.place = some unit ∧
      unit.linkage? generator.modelId = some accessor.linked.linkage ∧
      accessor = ⟨⟨generator.registry, scope, unitName typeName classId⟩, generator.modelId,
        ⟨unit.image, accessor.linked.linkage, generator.model⟩⟩ := by
  have located {place : UnitPlace} {finish : World}
      (located : Locates generator classId scene.world place finish) :
      place = ⟨generator.registry, scope, unitName typeName classId⟩ := by
    cases located with
    | asked isNamedToo resolvedToo =>
        cases isNamed.symm.trans isNamedToo
        cases resolved.symm.trans resolvedToo
        rfl
  cases served with
  | stored isPlace holds known units =>
      obtain rfl := located isPlace
      exact ⟨_, (congrFun units _).trans (Function.update_self ..), known, rfl⟩
  | linked isPlace holds unknown leaves links units =>
      obtain rfl := located isPlace
      exact ⟨_, (congrFun units _).trans (Function.update_self ..),
        InstalledUnit.linkage?_addLinkage unknown, rfl⟩

/-- The unit of an answered request is linked to the generator's model at every later point of the
run, as long as the model lives. -/
theorem Runs.linkedAt (sharing : Sharing generators number) (books : Books generators number scene)
    (member : generator ∈ generators)
    (answered : (generator.generate classId).run scene = (.ok accessor, later))
    (isNamed : (generator.model.typeName classId).run scene.world = (some typeName, named))
    (resolved : (generator.scopeOf classId).run named = (scope, asked))
    {more : List (Accessor World)} {last : Scene World}
    (following : Runs generators number later more last) (live : last.isLive generator.modelId) :
    ∃ unit, last.store.unitAt ⟨number, scope, unitName typeName classId⟩ = some unit ∧
      unit.linkage? generator.modelId = some accessor.linked.linkage ∧
      accessor = ⟨⟨number, scope, unitName typeName classId⟩, generator.modelId,
        ⟨unit.image, accessor.linked.linkage, generator.model⟩⟩ := by
  obtain ⟨kept, -, served⟩ := generate_serves sharing books member answered
  obtain ⟨unit, isThere, known, isAccessor⟩ := served.linkedAt isNamed resolved
  have place : accessor.place = ⟨number, scope, unitName typeName classId⟩ := by
    rw [isAccessor, sharing.registry generator member]
  rw [place] at isThere
  obtain ⟨next, isNext, goesOn⟩ := following.continues sharing kept rfl isThere
  refine ⟨next, isNext, goesOn.linkages _ _ live known, ?_⟩
  rw [goesOn.image, ← sharing.registry generator member]
  exact isAccessor

/-- Repeated generation changes nothing. Once a request for a class was answered, and as long as
the model lives, any generator over the model answers it with the same accessor at every later
point of the run at which the type's name and the scope are the same. The store, the counts and the
released models stay, and the world is the one that the questions for name and scope leave behind.
Nothing else is asked: whatever the generator's model may answer to other questions, and whatever
its settings and its sink are, the scene that it leaves is the same. -/
theorem repeated_generation_changes_nothing (sharing : Sharing generators number)
    {start : Scene World} (fresh : Fresh generators number start)
    {accessors : List (Accessor World)} (runs : Runs generators number start accessors scene)
    (member : generator ∈ generators)
    (answered : (generator.generate classId).run scene = (.ok accessor, later))
    (isNamed : (generator.model.typeName classId).run scene.world = (some typeName, named))
    (resolved : (generator.scopeOf classId).run named = (scope, asked))
    {more : List (Accessor World)} {last : Scene World}
    (following : Runs generators number later more last) (live : last.isLive generator.modelId) :
    ∃ context, ∀ again : Generator World, again.registry = number →
      again.modelId = generator.modelId → ∀ namedAgain askedAgain,
      (again.model.typeName classId).run last.world = (some typeName, namedAgain) →
      (again.scopeOf classId).run namedAgain = (scope, askedAgain) →
        (again.generate classId).run last =
            (.ok { accessor with linked := { accessor.linked with model := again.model } },
              { last with
                world := askedAgain
                events := last.events.push (.reusedUnit accessor.place.name context) }) ∧
          (again.model = generator.model →
            ((again.generate classId).run last).1 = .ok accessor) := by
  obtain ⟨unit, isThere, known, isAccessor⟩ :=
    following.linkedAt sharing (runs.books sharing fresh.books) member answered isNamed resolved
      live
  obtain ⟨context, found, present⟩ := Option.bind_eq_some_iff.mp isThere
  refine ⟨context.id, ?_⟩
  intro again here own namedAgain askedAgain isNamedAgain resolvedAgain
  have repeats := generate_of_linked isNamedAgain resolvedAgain (here ▸ found) present (own ▸ known)
  rw [here, own] at repeats
  constructor
  · rw [repeats, isAccessor]
  · intro sameModel
    rw [repeats, isAccessor, sameModel]

theorem repeated_generation_changes_nothing_counter :
    ∃ accessor later more last context,
      Sharing [counterGenerator 0, counterGenerator 1] 0 ∧
      Fresh [counterGenerator 0, counterGenerator 1] 0 counterScene ∧
      ((counterGenerator 0).generate counter.classId).run counterScene = (.ok accessor, later) ∧
      Runs [counterGenerator 0, counterGenerator 1] 0 later more last ∧ last.isLive ⟨0⟩ ∧
      ((counterGenerator 0).generate counter.classId).run last =
        (.ok accessor, { last with
          events := last.events.push (.reusedUnit accessor.place.name context) }) := by
  have named (world : Int32) : ((counterGenerator 0).model.typeName counter.classId).run world =
      (some counter.name, world) := rfl
  have resolved (world : Int32) : ((counterGenerator 0).scopeOf counter.classId).run world =
      (⟨7⟩, world) := rfl
  obtain ⟨accessor, other, later, between, hit⟩ := exists_counterHit
  -- another model's request comes in between, and then that model is released
  have before := @Runs.start _ [counterGenerator 0, counterGenerator 1] 0 later
  have following :=
    (before.answered mem_counterGenerators.2 hit.hits).apart (Apart.release ⟨1⟩)
  have live : ((release ⟨1⟩).run between).2.isLive ⟨0⟩ := by
    rw [isLive_release, Scene.isLive, hit.completesTwo.released, hit.completesOne.released]
    rfl
  obtain ⟨context, repeats⟩ := repeated_generation_changes_nothing sharing_counter fresh_counter
    .start mem_counterGenerators.1 hit.installs (named _) (resolved _) following live
  obtain ⟨again, same⟩ := repeats (counterGenerator 0) rfl rfl _ _ (named _) (resolved _)
  have isAccessor := same rfl
  rw [again] at isAccessor
  exact ⟨accessor, later, _, _, context, sharing_counter, fresh_counter, hit.installs, following,
    live, again.trans (congrArg (·, _) isAccessor)⟩

end OrdinalDispatch.Loader

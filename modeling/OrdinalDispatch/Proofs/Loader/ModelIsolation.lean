import Mathlib.Data.List.Dedup
import OrdinalDispatch.Proofs.Loader.Runs
import OrdinalDispatch.Proofs.Machine.Confinement

/-!
Contract: models that share units are isolated from each other.

Owns: that every accessor has a linkage of its own model, which its calls stay
within, and what becomes of the linkages of a unit.

Does not own: units themselves, see `OrdinalDispatch.Proofs.Loader.Sharing`.

A unit has at most one linkage for each model. Those of models that are gone are
dropped when another one is added, so the linkages of living models are exactly
those of the models that were ever linked to the unit and still live.
-/

set_option autoImplicit false

namespace OrdinalDispatch.Loader

open OrdinalDispatch.Code

variable {World : Type}

/-- The linkage is what linking the image to the model came to. -/
def Links (model : Machine.TypeModel World) (image : Image) (linkage : Machine.Linkage World) :
    Prop :=
  ∃ start finish, (Machine.Linkage.ofImage model image).run start = (.ok linkage, finish)

/-! ## Linkages of a unit -/

namespace InstalledUnit

variable {unit : InstalledUnit World} {model : ModelId} {linkage : Machine.Linkage World}

theorem mem_of_linkage? (known : unit.linkage? model = some linkage) :
    (model, linkage) ∈ unit.linkages := by
  obtain ⟨front, back, split, -⟩ := List.lookup_eq_some_iff.mp known
  rw [split]
  exact List.mem_append_right front List.mem_cons_self

theorem mem_models_iff : model ∈ unit.linkages.map Prod.fst ↔ (unit.linkage? model).isSome := by
  rw [Option.isSome_iff_ne_none, Ne, linkage?, List.lookup_eq_none_iff]
  simp

/-- Each model has at most one linkage, which comes from linking it to the unit's image. -/
structure Isolated (models : ModelId → Machine.TypeModel World) (unit : InstalledUnit World) :
    Prop where
  distinct : (unit.linkages.map Prod.fst).Nodup
  linked : ∀ model linkage, (model, linkage) ∈ unit.linkages →
    Links (models model) unit.image linkage

variable {models : ModelId → Machine.TypeModel World} {isLive : ModelId → Bool}

theorem isolated_of_none (empty : unit.linkages = []) : unit.Isolated models where
  distinct := by
    rw [empty]
    exact List.nodup_nil
  linked model linkage member := by
    rw [empty] at member
    cases member

section Adding

variable (unknown : unit.linkage? model = none)
include unknown

theorem Isolated.addLinkage (isolated : unit.Isolated models)
    (links : Links (models model) unit.image linkage) :
    (unit.addLinkage isLive model linkage).Isolated models where
  distinct := by
    have absent : model ∉ (unit.linkages.filter fun entry => isLive entry.1).map Prod.fst := by
      intro member
      have earlier := (List.filter_sublist.map Prod.fst).subset member
      rw [mem_models_iff, unknown] at earlier
      cases earlier
    show (((unit.linkages.filter fun entry => isLive entry.1) ++ [(model, linkage)]).map
      Prod.fst).Nodup
    rw [List.map_append]
    exact (isolated.distinct.sublist (List.filter_sublist.map Prod.fst)).append
      (List.nodup_singleton _) (List.disjoint_singleton.mpr absent)
  linked other known member := by
    rcases List.mem_append.mp member with earlier | last
    · exact isolated.linked other known (List.mem_of_mem_filter earlier)
    · obtain ⟨rfl, rfl⟩ := Prod.mk.inj (List.mem_singleton.mp last)
      exact links

/-- The linkage that was added is there, and those of other models are as they were or gone. -/
theorem linkage?_addLinkage :
    (unit.addLinkage isLive model linkage).linkage? model = some linkage := by
  have none : (unit.linkages.filter fun entry => isLive entry.1).lookup model = none := by
    rw [List.lookup_eq_none_iff]
    exact fun entry member =>
      List.lookup_eq_none_iff.mp unknown entry (List.mem_of_mem_filter member)
  rw [linkage?, InstalledUnit.addLinkage, List.lookup_append, none, Option.none_or]
  simp

omit unknown in
theorem linkage?_addLinkage_of_ne {other : ModelId} (different : other ≠ model)
    (live : isLive other) :
    (unit.addLinkage isLive model linkage).linkage? other = unit.linkage? other := by
  have absent : List.lookup other [(model, linkage)] = none := by
    rw [List.lookup_cons, beq_false_of_ne different]
    rfl
  rw [linkage?, InstalledUnit.addLinkage, List.lookup_append, lookup_filter_key live, absent,
    Option.or_none, linkage?]

end Adding

end InstalledUnit

/-! ## Units of a run -/

/-- The models of the accessors that were answered for a place, each once. -/
def modelsLinkedAt (place : UnitPlace) (accessors : List (Accessor World)) : List ModelId :=
  ((accessors.filter fun accessor => accessor.place = place).map Accessor.modelId).dedup

theorem mem_modelsLinkedAt {place : UnitPlace} {accessors : List (Accessor World)}
    {model : ModelId} :
    model ∈ modelsLinkedAt place accessors ↔
      ∃ accessor ∈ accessors, accessor.place = place ∧ accessor.modelId = model := by
  simp [modelsLinkedAt, and_assoc]

/-- An accessor has a linkage of its own model to the image of the unit at its place. While the
model lives, it is the one that the unit stores. -/
structure RunsOwnModel (models : ModelId → Machine.TypeModel World) (number : Nat)
    (scene : Scene World) (accessor : Accessor World) : Prop where
  registry : accessor.place.registry = number
  model : accessor.linked.model = models accessor.modelId
  unit : ∃ unit, scene.store.unitAt accessor.place = some unit ∧
    accessor.linked.image = unit.image ∧
    Links (models accessor.modelId) unit.image accessor.linked.linkage ∧
    (scene.isLive accessor.modelId →
      unit.linkage? accessor.modelId = some accessor.linked.linkage)

/-- What a run with these answers keeps of the models that share a registry. -/
structure Isolation (models : ModelId → Machine.TypeModel World) (number : Nat)
    (accessors : List (Accessor World)) (scene : Scene World) : Prop where
  units : ∀ place unit, place.registry = number → scene.store.unitAt place = some unit →
    unit.Isolated models
  owned : ∀ accessor ∈ accessors, RunsOwnModel models number scene accessor
  answered : ∀ place unit, place.registry = number → scene.store.unitAt place = some unit →
    ∀ model, scene.isLive model → (unit.linkage? model).isSome →
      ∃ accessor ∈ accessors, accessor.place = place ∧ accessor.modelId = model

/-- The models that a unit is linked to and that live are those that its accessors were answered
for and that live. -/
theorem Isolation.linkedModels_eq {models : ModelId → Machine.TypeModel World} {number : Nat}
    {accessors : List (Accessor World)} {scene : Scene World}
    (isolation : Isolation models number accessors scene) {place : UnitPlace}
    (here : place.registry = number) {unit : InstalledUnit World}
    (isThere : scene.store.unitAt place = some unit) :
    unit.linkedModels scene.isLive =
      (modelsLinkedAt place accessors).countP scene.isLive := by
  have counted : unit.linkedModels scene.isLive =
      (unit.linkages.map Prod.fst).countP scene.isLive := by
    rw [List.countP_map]
    rfl
  rw [counted, List.countP_eq_length_filter, List.countP_eq_length_filter]
  refine List.Perm.length_eq ((List.perm_ext_iff_of_nodup ?_ ?_).mpr fun model => ?_)
  · exact (isolation.units place unit here isThere).distinct.filter _
  · exact (List.nodup_dedup _).filter _
  · rw [List.mem_filter, List.mem_filter, and_congr_left_iff]
    intro live
    rw [InstalledUnit.mem_models_iff, mem_modelsLinkedAt]
    constructor
    · exact isolation.answered place unit here isThere model live
    · rintro ⟨accessor, member, rfl, rfl⟩
      obtain ⟨same, isSame, -, -, stored⟩ := (isolation.owned accessor member).unit
      obtain rfl := Option.some.inj (isSame.symm.trans isThere)
      rw [stored live]
      rfl

section Step

variable {generator : Generator World} {classId : ClassId} {scene later : Scene World}

/-- A unit after a request: it was there before, or it is new and has no linkage, or it is the unit
of the accessor that is answered, and the linkage of this one was added. -/
inductive Arises (generator : Generator World) (scene : Scene World) (place : UnitPlace)
    (result : Except GenerationError (Accessor World)) : InstalledUnit World → Prop where
  | kept {unit : InstalledUnit World} (present : scene.store.unitAt place = some unit) :
      Arises generator scene place result unit
  | new {unit : InstalledUnit World} (missing : scene.store.unitAt place = none)
      (empty : unit.linkages = []) : Arises generator scene place result unit
  | linked {base : InstalledUnit World} {linkage : Machine.Linkage World}
      (earlier : scene.store.unitAt place = some base ∨ base.linkages = [])
      (unknown : base.linkage? generator.modelId = none)
      (links : Links generator.model base.image linkage)
      (answers : result =
        .ok ⟨place, generator.modelId, ⟨base.image, linkage, generator.model⟩⟩) :
      Arises generator scene place result
        (base.addLinkage scene.isLive generator.modelId linkage)

/-- The unit that a request works with is as it was, or new. -/
theorem Holds.arises {asked : World} {place other : UnitPlace} {unit next : InstalledUnit World}
    {result : Except GenerationError (Accessor World)}
    (holds : Holds generator classId asked place scene.store unit)
    (isThere : Function.update scene.store.unitAt place (some unit) other = some next) :
    Arises generator scene other result next := by
  by_cases here : other = place
  · subst here
    rw [Function.update_self] at isThere
    obtain rfl := Option.some.inj isThere
    cases holds with
    | reused present => exact .kept present
    | installed missing described built passes => exact .new missing rfl
  · rw [Function.update_of_ne here] at isThere
    exact .kept isThere

theorem Served.arises {result : Except GenerationError (Accessor World)}
    (served : Served generator classId scene later result) {place : UnitPlace}
    {unit : InstalledUnit World} (isThere : later.store.unitAt place = some unit) :
    Arises generator scene place result unit := by
  cases served with
  | nameless answer units | refused located reason units =>
      rw [units] at isThere
      exact .kept isThere
  | unlinked located holds unknown leaves fails units | stored located holds known units =>
      rw [units] at isThere
      exact holds.arises isThere
  | @linked own base linkage asked start located holds unknown leaves links units =>
      rw [units] at isThere
      by_cases here : place = own
      · subst here
        rw [Function.update_self] at isThere
        obtain rfl := Option.some.inj isThere
        have earlier : scene.store.unitAt place = some base ∨ base.linkages = [] := by
          cases holds with
          | reused present => exact .inl present
          | installed missing described built passes => exact .inr rfl
        exact .linked earlier unknown ⟨start, later.world, links⟩ rfl
      · rw [Function.update_of_ne here] at isThere
        exact .kept isThere

/-- A request that fails leaves every unit as it was. One that it installs has no linkage. -/
theorem Served.units_of_error {error : GenerationError}
    (served : Served generator classId scene later (.error error)) (place : UnitPlace) :
    later.store.unitAt place = scene.store.unitAt place ∨
      scene.store.unitAt place = none ∧
        ∃ unit, later.store.unitAt place = some unit ∧ unit.linkages = [] := by
  cases present : scene.store.unitAt place with
  | none =>
      cases isThere : later.store.unitAt place with
      | none => exact .inl rfl
      | some unit =>
          cases served.arises isThere with
          | kept earlier => cases present.symm.trans earlier
          | new missing empty => exact .inr ⟨rfl, unit, rfl, empty⟩
          | linked earlier unknown links answers => cases answers
  | some unit =>
      obtain ⟨next, isNext, -⟩ := served.continues present
      cases served.arises isNext with
      | kept earlier => exact .inl (isNext.trans (earlier.symm.trans present))
      | new missing empty => cases missing.symm.trans present
      | linked earlier unknown links answers => cases answers

/-- What an accessor runs stays its own as long as the unit at its place goes on. -/
theorem RunsOwnModel.continues {models : ModelId → Machine.TypeModel World} {number : Nat}
    {accessor : Accessor World} (own : RunsOwnModel models number scene accessor)
    (goesOn : ∀ unit, scene.store.unitAt accessor.place = some unit →
      ∃ next, later.store.unitAt accessor.place = some next ∧ Continues later.isLive unit next)
    (fewer : ∀ model, later.isLive model → scene.isLive model) :
    RunsOwnModel models number later accessor where
  registry := own.registry
  model := own.model
  unit := by
    obtain ⟨unit, isThere, runs, links, stored⟩ := own.unit
    obtain ⟨next, isNext, continues⟩ := goesOn unit isThere
    refine ⟨next, isNext, runs.trans continues.image.symm, continues.image ▸ links, ?_⟩
    exact fun live => continues.linkages _ _ live (stored (fewer _ live))

variable {models : ModelId → Machine.TypeModel World} {number : Nat}
  {generators : List (Generator World)} {accessors more : List (Accessor World)}

theorem Holds.isolated {asked : World} {place : UnitPlace} {unit : InstalledUnit World}
    (holds : Holds generator classId asked place scene.store unit)
    (isolation : Isolation models number accessors scene) (here : place.registry = number) :
    unit.Isolated models := by
  cases holds with
  | reused present => exact isolation.units place unit here present
  | installed missing described built passes => exact InstalledUnit.isolated_of_none rfl

theorem Isolation.apart (isolation : Isolation models number accessors scene)
    (apart : Apart generators number scene later) :
    Isolation models number accessors later where
  units place unit here isThere :=
    isolation.units place unit here ((apart.unitAt here).symm.trans isThere)
  owned accessor member := by
    have own := isolation.owned accessor member
    refine own.continues (fun unit isThere => ?_) apart.released
    exact ⟨unit, (apart.unitAt own.registry).trans isThere, .refl _ unit⟩
  answered place unit here isThere model live :=
    isolation.answered place unit here ((apart.unitAt here).symm.trans isThere) model
      (apart.released model live)

variable (sharing : Sharing generators number)
  (modelled : ∀ generator ∈ generators, generator.model = models generator.modelId)
  (member : generator ∈ generators)
include sharing modelled member

/-- An accessor that is answered runs its own model. -/
theorem Served.runsOwnModel (isolation : Isolation models number accessors scene)
    {accessor : Accessor World} (served : Served generator classId scene later (.ok accessor)) :
    RunsOwnModel models number later accessor := by
  have own := modelled generator member
  cases served with
  | stored located holds known units =>
      have here := located.registry.trans (sharing.registry generator member)
      have links := (holds.isolated isolation here).linked _ _
        (InstalledUnit.mem_of_linkage? known)
      exact ⟨here, own, _, (congrFun units _).trans (Function.update_self ..), rfl, links,
        fun _ => known⟩
  | linked located holds unknown leaves links units =>
      have here := located.registry.trans (sharing.registry generator member)
      rw [own] at links
      exact ⟨here, own, _, (congrFun units _).trans (Function.update_self ..), rfl,
        ⟨_, _, links⟩, fun _ => InstalledUnit.linkage?_addLinkage unknown⟩

/-- A request keeps models isolated. -/
theorem Isolation.served {result : Except GenerationError (Accessor World)}
    (isolation : Isolation models number accessors scene)
    (released : later.released = scene.released)
    (served : Served generator classId scene later result)
    (covers : ∀ accessor, accessor ∈ more ↔ accessor ∈ accessors ∨ result = .ok accessor) :
    Isolation models number more later := by
  have live := Scene.isLive_of_released released
  constructor
  · intro place unit here isThere
    cases served.arises isThere with
    | kept present => exact isolation.units place unit here present
    | new missing empty => exact InstalledUnit.isolated_of_none empty
    | @linked base linkage earlier unknown links answers =>
        have isolated : base.Isolated models := by
          rcases earlier with present | empty
          · exact isolation.units place base here present
          · exact InstalledUnit.isolated_of_none empty
        rw [modelled generator member] at links
        exact isolated.addLinkage unknown links
  · intro accessor isAnswer
    rcases (covers accessor).mp isAnswer with earlier | rfl
    · refine (isolation.owned accessor earlier).continues (fun unit isThere => ?_) fun _ => ?_
      · rw [live]
        exact served.continues isThere
      · rw [live]
        exact id
    · exact served.runsOwnModel sharing modelled member isolation
  · intro place unit here isThere model isLive known
    rw [live] at isLive
    have keeps : ∀ {unit : InstalledUnit World}, scene.store.unitAt place = some unit →
        (unit.linkage? model).isSome →
          ∃ accessor ∈ more, accessor.place = place ∧ accessor.modelId = model := by
      intro unit present known
      obtain ⟨accessor, earlier, isPlace, isModel⟩ :=
        isolation.answered place unit here present model isLive known
      exact ⟨accessor, (covers accessor).mpr (.inl earlier), isPlace, isModel⟩
    cases served.arises isThere with
    | kept present => exact keeps present known
    | new missing empty =>
        rw [InstalledUnit.linkage?, empty] at known
        cases known
    | @linked base linkage earlier unknown links answers =>
        by_cases own : model = generator.modelId
        · exact ⟨_, (covers _).mpr (.inr answers), rfl, own.symm⟩
        · rw [InstalledUnit.linkage?_addLinkage_of_ne own isLive] at known
          rcases earlier with present | empty
          · exact keeps present known
          · rw [InstalledUnit.linkage?, empty] at known
            cases known

end Step

/-! ## Runs -/

section Runs

variable {models : ModelId → Machine.TypeModel World} {number : Nat}
  {generators : List (Generator World)} {accessors : List (Accessor World)}
  {start scene : Scene World} (sharing : Sharing generators number)
  (modelled : ∀ generator ∈ generators, generator.model = models generator.modelId)
include sharing modelled

/-- A run from a fresh registry keeps models isolated. -/
theorem Runs.isolation (fresh : Fresh generators number start)
    (runs : Runs generators number start accessors scene) :
    Isolation models number accessors scene := by
  have books := fresh.books
  induction runs with
  | start =>
      refine ⟨fun place unit here isThere => ?_, nofun, fun place unit here isThere => ?_⟩
      · cases (fresh.unitAt_eq_none here).symm.trans isThere
      · cases (fresh.unitAt_eq_none here).symm.trans isThere
  | apart before apart inductionHypothesis => exact inductionHypothesis.apart apart
  | refused before member done inductionHypothesis =>
      obtain ⟨-, released, served⟩ :=
        generate_serves sharing (before.books sharing books) member done
      exact inductionHypothesis.served sharing modelled member released served (by simp)
  | answered before member done inductionHypothesis =>
      obtain ⟨-, released, served⟩ :=
        generate_serves sharing (before.books sharing books) member done
      refine inductionHypothesis.served sharing modelled member released served fun accessor => ?_
      rw [List.mem_cons, Except.ok.injEq, or_comm, eq_comm]

/-- Models that share a registry are isolated from each other. In every state that a run reaches,
each accessor has a linkage of its own model to the image of its unit, and its calls stay within
this model. A unit has one linkage for each model at most, and counts the living models that it was
ever linked to. Whatever follows, the linkage of a living model stays, and every later accessor of
the model has it. A request that fails changes no linkage. -/
theorem models_stay_isolated (fresh : Fresh generators number start)
    (runs : Runs generators number start accessors scene) :
    (∀ accessor ∈ accessors,
      accessor.linked.model = models accessor.modelId ∧
        (∃ unit, scene.store.unitAt accessor.place = some unit ∧
          accessor.linked.image = unit.image ∧
          Links (models accessor.modelId) unit.image accessor.linked.linkage) ∧
        ∀ {Answer : Type} (call : Machine.Call World Answer), accessor.linked.Calls call →
          Machine.Within (models accessor.modelId) call.run) ∧
      (∀ place unit, place.registry = number → scene.store.unitAt place = some unit →
        (unit.linkages.map Prod.fst).Nodup ∧
          unit.linkedModels scene.isLive =
            (modelsLinkedAt place accessors).countP scene.isLive ∧
          ∀ more later, Runs generators number scene more later → ∀ model linkage,
            later.isLive model → unit.linkage? model = some linkage →
              (∃ next, later.store.unitAt place = some next ∧
                next.linkage? model = some linkage) ∧
              ∀ accessor ∈ more, accessor.place = place → accessor.modelId = model →
                accessor.linked.linkage = linkage) ∧
      ∀ generator ∈ generators, ∀ classId error later,
        (generator.generate classId).run scene = (.error error, later) → ∀ place,
          later.store.unitAt place = scene.store.unitAt place ∨
            scene.store.unitAt place = none ∧
              ∃ unit, later.store.unitAt place = some unit ∧ unit.linkages = [] := by
  have isolation := runs.isolation sharing modelled fresh
  have books := runs.books sharing fresh.books
  refine ⟨?_, ?_, ?_⟩
  · intro accessor member
    obtain ⟨-, model, unit, isThere, image, links, -⟩ := isolation.owned accessor member
    refine ⟨model, ⟨unit, isThere, image, links⟩, fun call calls => ?_⟩
    obtain ⟨before, after, linked⟩ := links
    rw [← model, ← image] at linked
    exact model ▸ calls.within linked
  · intro place unit here isThere
    refine ⟨(isolation.units place unit here isThere).distinct,
      isolation.linkedModels_eq here isThere, ?_⟩
    intro more later following model linkage live known
    obtain ⟨next, isNext, goesOn⟩ := following.continues sharing books here isThere
    have stays := goesOn.linkages model linkage live known
    refine ⟨⟨next, isNext, stays⟩, ?_⟩
    rintro accessor member rfl rfl
    have later := (runs.trans following).isolation sharing modelled fresh
    obtain ⟨-, -, same, isSame, -, -, stored⟩ :=
      later.owned accessor (List.mem_append_left _ member)
    obtain rfl := Option.some.inj (isSame.symm.trans isNext)
    exact Option.some.inj ((stored live).symm.trans stays)
  · intro generator member classId error later done place
    obtain ⟨-, -, served⟩ := generate_serves sharing books member done
    exact served.units_of_error place

end Runs

/-- Models of counters tell by the steps that their counters take. -/
theorem counterModels_ne : counterModels ⟨0⟩ ≠ counterModels ⟨1⟩ := by
  intro same
  let add (model : Machine.TypeModel Int32) : StateM Int32 (Option (Except String Value)) := do
    (← model.methodHandle counter.classId 0).mapM fun handle => handle .null [.int 1]
  have once : ((add (counterModels ⟨0⟩)).run 0).2 = 1 := rfl
  have twice : ((add (counterModels ⟨1⟩)).run 0).2 = 2 := rfl
  rw [same, twice] at once
  cases once

theorem models_stay_isolated_counter :
    ∃ first second linked last unit,
      Sharing [counterGenerator 0, counterGenerator 1] 0 ∧
      (∀ generator ∈ [counterGenerator 0, counterGenerator 1],
        generator.model = counterModels generator.modelId) ∧
      counterModels ⟨0⟩ ≠ counterModels ⟨1⟩ ∧
      Fresh [counterGenerator 0, counterGenerator 1] 0 counterScene ∧
      Runs [counterGenerator 0, counterGenerator 1] 0 counterScene [second, first] linked ∧
      first.linked.model = counterModels ⟨0⟩ ∧ second.linked.model = counterModels ⟨1⟩ ∧
      linked.store.unitAt first.place = some unit ∧ linked.store.unitAt second.place = some unit ∧
      unit.linkedModels linked.isLive = 2 ∧
      last = ((release ⟨1⟩).run
        ((ask (second.linked.invoke (.object ⟨0, ⟨5⟩⟩) 0 (some [.int 1])).run).run linked).2).2 ∧
      last.store.unitAt first.place = some unit ∧ unit.linkedModels last.isLive = 1 := by
  have modelled : ∀ generator ∈ [counterGenerator 0, counterGenerator 1],
      generator.model = counterModels generator.modelId := by
    simp [counterGenerator]
  obtain ⟨first, second, one, two, hit⟩ := exists_counterHit
  have released : two.released = [] :=
    hit.completesTwo.released.trans hit.completesOne.released
  obtain ⟨unit, isThere, -⟩ := hit.completesTwo.unit
  rw [hit.secondPlace] at isThere
  have models : modelsLinkedAt (counterPlace counter.classId) [second, first] = [⟨1⟩, ⟨0⟩] := by
    simp [modelsLinkedAt, hit.firstPlace, hit.secondPlace, hit.completesOne.modelId,
      hit.completesTwo.modelId, counterGenerator]
  -- the second accessor is called, and then its model is released
  let call := (second.linked.invoke (.object ⟨0, ⟨5⟩⟩) 0 (some [.int 1])).run
  have runsOn := (hit.runsTwo.apart (Apart.ask call)).apart (Apart.release ⟨1⟩)
  have stays : ((release ⟨1⟩).run ((ask call).run two).2).2.store.unitAt
      (counterPlace counter.classId) = some unit := by
    rw [store_release, store_ask]
    exact isThere
  obtain ⟨owned, units, -⟩ :=
    models_stay_isolated sharing_counter modelled fresh_counter hit.runsTwo
  obtain ⟨-, unitsToo, -⟩ := models_stay_isolated sharing_counter modelled fresh_counter runsOn
  have counted := (units (counterPlace counter.classId) unit rfl isThere).2.1
  have countedToo := (unitsToo (counterPlace counter.classId) unit rfl stays).2.1
  rw [models] at counted countedToo
  refine ⟨first, second, two, _, unit, sharing_counter, modelled, counterModels_ne, fresh_counter,
    hit.runsTwo, ?_, ?_, hit.firstPlace ▸ isThere, hit.secondPlace ▸ isThere, ?_, rfl,
    hit.firstPlace ▸ stays, ?_⟩
  · rw [(owned first (by simp)).1, hit.completesOne.modelId]
    rfl
  · rw [(owned second (by simp)).1, hit.completesTwo.modelId]
    rfl
  · rw [counted]
    simp [Scene.isLive, released]
  · rw [countedToo, List.countP_cons, List.countP_singleton, isLive_release, isLive_release,
      isLive_ask]
    simp [Scene.isLive, released]

end OrdinalDispatch.Loader

import OrdinalDispatch.Proofs.Loader.SettledAnswers

/-!
Contract: the order of requests does not matter while the answers to all
questions stay the same.

Owns: requests in a row, the contexts and units that they leave, and that both
depend on the classes alone that were asked for.

Does not own: what a single request comes to, see
`OrdinalDispatch.Proofs.Loader.SettledAnswers`.
-/

set_option autoImplicit false

namespace OrdinalDispatch.Loader

open OrdinalDispatch.Code

variable {World : Type}

/-! ## What a registry holds -/

theorem Context.find?_of_mem {context : Context World} {unit : InstalledUnit World}
    (distinct : (context.units.map InstalledUnit.name).Nodup) (member : unit ∈ context.units) :
    context.find? unit.name = some unit := by
  cases found : context.find? unit.name with
  | none => exact absurd (beq_self_eq_true unit.name) (List.find?_eq_none.mp found unit member)
  | some other =>
      rw [List.inj_on_of_nodup_map distinct (Context.mem_of_find? found) member
        (Context.name_of_find? found)]

namespace Registry

/-- The scopes that have contexts. -/
def scopes (registry : Registry World) : List ScopeId :=
  registry.contexts.map Context.parent

/-- The units with the scopes of their contexts, their names and their images. -/
def installations (registry : Registry World) : List (ScopeId × String × Image) :=
  registry.contexts.flatMap fun context =>
    context.units.map fun unit => (context.parent, unit.name, unit.image)

variable {registry : Registry World}

theorem length_installations : registry.installations.length = registry.unitCount := by
  simp [installations, unitCount, List.length_flatMap]

theorem mem_scopes_opened {scope other : ScopeId} (id : UInt32) :
    other ∈ (registry.opened scope id).scopes ↔ other = scope ∨ other ∈ registry.scopes := by
  cases found : registry.context? scope with
  | none =>
      rw [scopes, contexts_opened_of_none found, List.map_append, List.mem_append, or_comm]
      simp [scopes]
  | some context =>
      have present : scope ∈ registry.scopes :=
        parent_of_context? found ▸ List.mem_map_of_mem (mem_of_context? found)
      rw [opened, found]
      constructor
      · exact .inr
      · rintro (rfl | earlier)
        · exact present
        · exact earlier

theorem scopes_updateContext {scope : ScopeId} {update : Context World → Context World}
    (tidy : registry.Tidy)
    (keeps : ∀ context, context.parent = scope → (update context).parent = scope) :
    (registry.updateContext scope update).scopes = registry.scopes := by
  rw [scopes, contexts_updateContext tidy.scopes, List.map_map]
  exact List.map_congr_left fun context _ => parent_changing keeps context

/-- Names tell the units of a context apart, and scopes the contexts. -/
theorem Tidy.nodup_installations (tidy : registry.Tidy) : registry.installations.Nodup := by
  apply List.nodup_flatMap.mpr
  constructor
  · intro context member
    apply List.Nodup.of_map fun row : ScopeId × String × Image => row.2.1
    rw [List.map_map]
    exact (tidy.contexts context member).names
  · apply (List.pairwise_map.mp tidy.scopes).imp
    intro context other different row isHere isThere
    obtain ⟨unit, -, rfl⟩ := List.mem_map.mp isHere
    obtain ⟨otherUnit, -, same⟩ := List.mem_map.mp isThere
    exact different (congrArg Prod.fst same).symm

end Registry

/-- What is installed is what is found. -/
theorem Store.mem_installations {store : Store World} {number : Nat}
    (tidy : (store.registry number).Tidy) {scope : ScopeId} {name : String} {image : Image} :
    (scope, name, image) ∈ (store.registry number).installations ↔
      ∃ unit, store.unitAt ⟨number, scope, name⟩ = some unit ∧ unit.image = image := by
  constructor
  · intro member
    obtain ⟨context, isContext, isRow⟩ := List.mem_flatMap.mp member
    obtain ⟨unit, isUnit, same⟩ := List.mem_map.mp isRow
    cases same
    refine ⟨unit, Option.bind_eq_some_iff.mpr ⟨context, ?_, ?_⟩, rfl⟩
    · exact Registry.context?_of_mem tidy.scopes isContext
    · exact Context.find?_of_mem (tidy.contexts context isContext).names isUnit
  · rintro ⟨unit, isThere, rfl⟩
    obtain ⟨context, found, present⟩ := Option.bind_eq_some_iff.mp isThere
    refine List.mem_flatMap.mpr ⟨context, Registry.mem_of_context? found, ?_⟩
    refine List.mem_map.mpr ⟨unit, Context.mem_of_find? present, ?_⟩
    rw [Registry.parent_of_context? found, Context.name_of_find? present]

/-! ## The contexts that a request opens -/

section Opening

variable {generators : List (Generator World)} {number : Nat} {generator : Generator World}
  {classId : ClassId} {place : UnitPlace} {scene later : Scene World}

/-- Obtaining a unit opens the context of its scope, and no other. -/
theorem Obtained.mem_scopes (books : Books generators number scene) (here : place.registry = number)
    {result : Except GenerationError (InstalledUnit World)}
    (obtained : Obtained generator classId place scene later result) {scope : ScopeId} :
    scope ∈ (later.store.registry number).scopes ↔
      scope = place.scope ∨ scope ∈ (scene.store.registry number).scopes := by
  subst here
  have opened := Store.registry_resolve books.inRange place.scope
  cases obtained with
  | refused reason store generated | reused found store generated =>
      rw [store, opened]
      exact Registry.mem_scopes_opened _
  | installed free described built passes store generated =>
      have inRange : place.registry <
          (scene.store.resolve place.registry place.scope).2.1.registries.length := by
        rw [Store.length_resolve]
        exact books.inRange
      have parent := Registry.parent_of_context? (Store.context?_resolve books.inRange place.scope)
      rw [store, Store.registry_updateContext inRange, Registry.scopes_updateContext, opened]
      · exact Registry.mem_scopes_opened _
      · exact opened ▸ books.tidy.opened place.scope _
      · exact fun _ _ => parent

/-- Linking opens no context. -/
theorem Instantiated.scopes (books : Books generators number scene) (here : place.registry = number)
    {unit : InstalledUnit World} {modelId : ModelId} {model : Machine.TypeModel World}
    {result : Except GenerationError (Accessor World)}
    (instantiated : Instantiated place unit modelId model scene later result) :
    (later.store.registry number).scopes = (scene.store.registry number).scopes := by
  subst here
  cases instantiated with
  | unlinked unknown fails same | stored known same => rw [same.store]
  | linked unknown links store generated released =>
      rw [store, Store.registry_updateContext books.inRange]
      apply Registry.scopes_updateContext books.tidy
      exact fun _ same => same

/-- A request opens the context of its class's scope, if the class has a name, and no other. -/
theorem generate_scopes (sharing : Sharing generators number)
    (books : Books generators number scene) (member : generator ∈ generators)
    {result : Except GenerationError (Accessor World)}
    (done : (generator.generate classId).run scene = (result, later)) :
    ((∃ finish, (generator.model.typeName classId).run scene.world = (none, finish)) ∧
        (later.store.registry number).scopes = (scene.store.registry number).scopes) ∨
      ∃ place asked, Locates generator classId scene.world place asked ∧
        ∀ scope, scope ∈ (later.store.registry number).scopes ↔
          scope = place.scope ∨ scope ∈ (scene.store.registry number).scopes := by
  rcases generate_run done with ⟨-, same, unnamed⟩ |
    ⟨typeName, scope, named, middle, outcome, installed, isNamed, resolved, same, isObtained,
      following⟩
  · exact .inl ⟨⟨_, unnamed⟩, by rw [same.store]⟩
  · refine .inr ⟨_, _, .asked isNamed resolved, fun other => ?_⟩
    rw [sharing.registry generator member] at isObtained following
    have start := books.of_same same.store same.generated
    obtain ⟨-, obtained⟩ := obtain_run start.inRange isObtained
    have opens : other ∈ (installed.store.registry number).scopes ↔
        other = scope ∨ other ∈ (middle.store.registry number).scopes :=
      obtained.mem_scopes start rfl
    rw [same.store] at opens
    obtain ⟨kept, -⟩ := start.obtained sharing member obtained
    rcases following with ⟨error, rfl, rfl, rfl⟩ | ⟨unit, rfl, isInstantiated⟩
    · exact opens
    · rw [(instantiate_run isInstantiated).scopes kept rfl]
      exact opens

end Opening

/-! ## Requests in a row -/

/-- Requests one after the other, with their answers. -/
def serveAll (requests : List (Generator World × ClassId)) :
    Loading World (List (Except GenerationError (Accessor World))) :=
  requests.mapM fun request => request.1.generate request.2

theorem serveAll_cons_run {request : Generator World × ClassId}
    {rest : List (Generator World × ClassId)} {scene later : Scene World}
    {answers : List (Except GenerationError (Accessor World))}
    (done : (serveAll (request :: rest)).run scene = (answers, later)) :
    ∃ first middle others, (request.1.generate request.2).run scene = (first, middle) ∧
      (serveAll rest).run middle = (others, later) ∧ answers = first :: others := by
  rw [serveAll, List.mapM_cons] at done
  obtain ⟨first, middle, isFirst, following⟩ := exists_of_bind_run done
  obtain ⟨others, last, isRest, following⟩ := exists_of_bind_run following
  obtain ⟨rfl, rfl⟩ := Prod.mk.inj following
  exact ⟨first, middle, others, isFirst, isRest, rfl⟩

/-- What a registry is like once certain classes were asked for. -/
structure Standing (steady : World → Prop) (source : Source World)
    (generators : List (Generator World)) (origin : World) (systemScope : ScopeId)
    (served : ClassId → Prop) (scene : Scene World) : Prop where
  steadily : steady scene.world
  books : Books generators source.registry scene
  reflects : Reflects source origin served scene
  scopes : ∀ scope, scope ∈ (scene.store.registry source.registry).scopes ↔
    scope = systemScope ∨
      ∃ classId, served classId ∧ ∃ place, source.place? origin classId = some place ∧
        place.scope = scope

section Rows

variable {steady : World → Prop} {source : Source World} {generators : List (Generator World)}
  {origin : World} {systemScope : ScopeId} {served : ClassId → Prop} {scene later : Scene World}
  (undisturbed : Undisturbed steady source generators) (begins : steady origin)
  (sharing : Sharing generators source.registry)

/-- What is installed depends on the classes alone that were asked for. -/
theorem Standing.mem_installations
    (standing : Standing steady source generators origin systemScope served scene)
    {scope : ScopeId} {name : String} {image : Image} :
    (scope, name, image) ∈ (scene.store.registry source.registry).installations ↔
      ∃ classId, served classId ∧
        source.place? origin classId = some ⟨source.registry, scope, name⟩ ∧
        source.image origin classId name = .ok image := by
  rw [Store.mem_installations standing.books.tidy]
  constructor
  · rintro ⟨unit, isThere, rfl⟩
    exact (standing.reflects.stems ⟨source.registry, scope, name⟩ unit rfl isThere).2
  · rintro ⟨classId, isServed, located, built⟩
    exact standing.reflects.installed classId ⟨source.registry, scope, name⟩ image isServed located
      built

include undisturbed begins sharing

/-- A request comes to what its class comes to, and adds the class to those that were asked for. -/
theorem Standing.generate
    (standing : Standing steady source generators origin systemScope served scene)
    {generator : Generator World} (member : generator ∈ generators) {classId : ClassId}
    {result : Except GenerationError (Accessor World)}
    (done : (generator.generate classId).run scene = (result, later)) :
    result = source.outcome origin classId ∧
      Standing steady source generators origin systemScope
        (fun other => served other ∨ other = classId) later := by
  obtain rfl := undisturbed.common generator member
  obtain ⟨books, -, outcome⟩ := generate_serves sharing standing.books member done
  obtain ⟨isOutcome, reflects⟩ :=
    outcome.reflects undisturbed member begins standing.reflects standing.steadily
  have steadily : steady later.world := by
    have kept := keepsSteady_generate undisturbed member classId scene standing.steadily
    rwa [done] at kept
  refine ⟨isOutcome, steadily, books, reflects, fun scope => ?_⟩
  rcases generate_scopes sharing standing.books member done with
    ⟨⟨finish, unnamed⟩, same⟩ | ⟨place, asked, located, opens⟩
  · have nowhere : generator.source.place? origin classId = none := by
      rw [Source.place?,
        ((undisturbed.model.typeName classId).run_eq begins standing.steadily unnamed).1]
      rfl
    rw [same, standing.scopes]
    simp [or_and_right, exists_or, nowhere]
  · obtain ⟨isPlace, -⟩ := located.place?_eq undisturbed begins standing.steadily
    rw [opens, standing.scopes]
    simp only [or_and_right, exists_or, exists_eq_left, isPlace, Option.some.injEq,
      exists_eq_left']
    rw [eq_comm]
    exact or_comm.trans or_assoc

/-- Requests in a row come to what their classes come to, in any order. -/
theorem Standing.serveAll {requests : List (Generator World × ClassId)}
    (members : ∀ request ∈ requests, request.1 ∈ generators)
    (standing : Standing steady source generators origin systemScope served scene)
    {answers : List (Except GenerationError (Accessor World))}
    (done : (serveAll requests).run scene = (answers, later)) :
    answers = requests.map (fun request => source.outcome origin request.2) ∧
      Standing steady source generators origin systemScope
        (fun classId => served classId ∨ classId ∈ requests.map Prod.snd) later := by
  induction requests generalizing served scene answers with
  | nil =>
      obtain ⟨rfl, rfl⟩ := Prod.mk.inj done
      simpa using standing
  | cons request rest inductionHypothesis =>
      obtain ⟨first, middle, others, isFirst, isRest, rfl⟩ := serveAll_cons_run done
      obtain ⟨rfl, stands⟩ := standing.generate undisturbed begins sharing
        (members request List.mem_cons_self) isFirst
      obtain ⟨rfl, standsToo⟩ := inductionHypothesis
        (fun other later => members other (List.mem_cons_of_mem _ later)) stands isRest
      refine ⟨rfl, ?_⟩
      simpa [or_assoc] using standsToo

end Rows

/-- Before any request a fresh registry has the context of the system scope alone, and no unit. -/
theorem Fresh.standing {steady : World → Prop} {source : Source World}
    {generators : List (Generator World)} {start : Scene World}
    (fresh : Fresh generators source.registry start) (begins : steady start.world) :
    ∃ systemScope, Standing steady source generators start.world systemScope (fun _ => False)
      start := by
  obtain ⟨systemScope, id, created⟩ := fresh.registry
  refine ⟨systemScope, begins, fresh.books, ⟨nofun, ?_⟩, ?_⟩
  · intro place unit here isThere
    cases (fresh.unitAt_eq_none here).symm.trans isThere
  · intro scope
    rw [Store.registry, List.getD_eq_getElem?_getD, created]
    simp [Registry.scopes, Registry.contexts, Registry.start]

/-- The order of requests does not matter. Generators that share a model, a resolver of scopes and a
fresh registry are asked for classes, any of them any number of times. As long as no answer depends
on what was asked before, two orders of the same requests leave the same units in contexts of the
same scopes, with the same linkages, and the same count of images over all generators. Each request
for a class comes to the same, in both orders and wherever it stands. -/
theorem request_order_is_irrelevant {steady : World → Prop} {source : Source World}
    {generators : List (Generator World)} (undisturbed : Undisturbed steady source generators)
    (sharing : Sharing generators source.registry) {start : Scene World}
    (fresh : Fresh generators source.registry start) (begins : steady start.world)
    {requests others : List (Generator World × ClassId)}
    (members : ∀ request ∈ requests, request.1 ∈ generators) (sameRequests : requests.Perm others)
    {answers otherAnswers : List (Except GenerationError (Accessor World))}
    {last otherLast : Scene World} (done : (serveAll requests).run start = (answers, last))
    (otherDone : (serveAll others).run start = (otherAnswers, otherLast)) :
    ((last.store.registry source.registry).installations.Perm
        (otherLast.store.registry source.registry).installations ∧
      (last.store.registry source.registry).scopes.Perm
        (otherLast.store.registry source.registry).scopes ∧
      (∀ scope name unit other, last.store.unit? source.registry scope name = some unit →
        otherLast.store.unit? source.registry scope name = some other →
          other.image = unit.image ∧ other.linkages = unit.linkages) ∧
      totalGenerated generators last = totalGenerated generators otherLast) ∧
      ∃ outcome : ClassId → Except GenerationError (Accessor World),
        answers = requests.map (fun request => outcome request.2) ∧
          otherAnswers = others.map fun request => outcome request.2 := by
  obtain ⟨systemScope, standing⟩ := fresh.standing begins
  have otherMembers : ∀ request ∈ others, request.1 ∈ generators :=
    fun request member => members request (sameRequests.mem_iff.mpr member)
  obtain ⟨isAnswer, stands⟩ := standing.serveAll undisturbed begins sharing members done
  obtain ⟨isOtherAnswer, otherStands⟩ :=
    standing.serveAll undisturbed begins sharing otherMembers otherDone
  -- from here on only the classes matter that were asked for
  have classes : (fun classId => False ∨ classId ∈ others.map Prod.snd) =
      fun classId => False ∨ classId ∈ requests.map Prod.snd := by
    funext classId
    rw [(sameRequests.map Prod.snd).mem_iff]
  rw [classes] at otherStands
  have installations : (last.store.registry source.registry).installations.Perm
      (otherLast.store.registry source.registry).installations := by
    rw [List.perm_ext_iff_of_nodup stands.books.tidy.nodup_installations
      otherStands.books.tidy.nodup_installations]
    rintro ⟨scope, name, image⟩
    rw [stands.mem_installations, otherStands.mem_installations]
  refine ⟨⟨installations, ?_, ?_, ?_⟩, source.outcome start.world, isAnswer, isOtherAnswer⟩
  · apply (List.perm_ext_iff_of_nodup stands.books.tidy.scopes otherStands.books.tidy.scopes).mpr
    intro scope
    exact (stands.scopes scope).trans (otherStands.scopes scope).symm
  · intro scope name unit other isUnit isOther
    have here : (⟨source.registry, scope, name⟩ : UnitPlace).registry = source.registry := rfl
    exact stands.reflects.alike otherStands.reflects here isUnit isOther
  · rw [stands.books.counted, otherStands.books.counted, ← Registry.length_installations,
      ← Registry.length_installations, installations.length_eq]

/-! ## Generators over one counter -/

/-- A generator over the model of a counter, which it has in common with others. -/
def sharedCounter (number : Nat) : Generator Int32 :=
  { counterGenerator number with
    modelId := ⟨0⟩
    model := counterModels ⟨0⟩ }

/-- Two generators are asked for the counter, and one of them for another class as well. -/
def counterRequests : List (Generator Int32 × ClassId) :=
  [(sharedCounter 0, counter.classId), (sharedCounter 1, ⟨1⟩), (sharedCounter 1, counter.classId)]

/-- No answer of the counter's model depends on the total. -/
theorem undisturbed_counter :
    Undisturbed (fun _ => True) (sharedCounter 0).source [sharedCounter 0, sharedCounter 1] where
  common := by simp [sharedCounter, counterGenerator, Generator.source]
  model := ⟨fun _ => .ofPure _, fun _ => .ofPure _, fun _ => .ofPure _, fun _ => .ofPure _,
    fun _ _ => .ofPure _, fun _ _ => .ofPure _, fun _ _ => .ofPure _⟩
  describe _ := .ofPure _
  scopeOf _ := .ofPure _
  sinks _ _ _ _ _ _ _ _ := trivial

theorem request_order_is_irrelevant_counter :
    ∃ answers last otherAnswers otherLast,
      Sharing [sharedCounter 0, sharedCounter 1] 0 ∧
      Fresh [sharedCounter 0, sharedCounter 1] 0 counterScene ∧
      counterRequests.Perm counterRequests.reverse ∧
      (serveAll counterRequests).run counterScene = (answers, last) ∧
      (serveAll counterRequests.reverse).run counterScene = (otherAnswers, otherLast) ∧
      (last.store.registry 0).installations.Perm (otherLast.store.registry 0).installations ∧
      (last.store.registry 0).scopes.Perm (otherLast.store.registry 0).scopes ∧
      ∃ outcome : ClassId → Except GenerationError (Accessor Int32),
        answers = counterRequests.map (fun request => outcome request.2) ∧
          otherAnswers = counterRequests.reverse.map fun request => outcome request.2 := by
  have sharing : Sharing [sharedCounter 0, sharedCounter 1] 0 :=
    ⟨by simp [sharedCounter, counterGenerator], by simp [sharedCounter, counterGenerator]⟩
  have fresh : Fresh [sharedCounter 0, sharedCounter 1] 0 counterScene :=
    ⟨⟨⟨0⟩, 0, rfl⟩, by simp [sharedCounter, counterGenerator, counterScene]⟩
  have members : ∀ request ∈ counterRequests, request.1 ∈ [sharedCounter 0, sharedCounter 1] := by
    simp [counterRequests]
  have sameRequests : counterRequests.Perm counterRequests.reverse :=
    (List.reverse_perm counterRequests).symm
  obtain ⟨⟨answers, last⟩, done⟩ :
      ∃ outcome, (serveAll counterRequests).run counterScene = outcome := ⟨_, rfl⟩
  obtain ⟨⟨otherAnswers, otherLast⟩, otherDone⟩ :
      ∃ outcome, (serveAll counterRequests.reverse).run counterScene = outcome := ⟨_, rfl⟩
  obtain ⟨⟨installations, scopes, -, -⟩, alike⟩ := request_order_is_irrelevant undisturbed_counter
    sharing fresh trivial members sameRequests done otherDone
  exact ⟨answers, last, otherAnswers, otherLast, sharing, fresh, sameRequests, done, otherDone,
    installations, scopes, alike⟩

end OrdinalDispatch.Loader

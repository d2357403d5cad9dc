import OrdinalDispatch.Proofs.Code.CodeSize
import OrdinalDispatch.Proofs.Loader.Serving
import OrdinalDispatch.Proofs.Machine.Handles

/-!
Contract: runs of requests by any generators that share a registry.

Owns: what a run consists of, that it keeps the books of the registry, that
installed units go on through all of it, and which images the units of a class
can have.

Does not own: who may run an accessor's linkage, see
`OrdinalDispatch.Proofs.Loader.ModelIsolation`.

Between requests anything may happen that leaves the registry and the counts of
its generators alone: calls through accessors, classes that are defined anew,
models that are released, requests to other registries.
-/

set_option autoImplicit false

namespace OrdinalDispatch.Loader

open OrdinalDispatch.Code

variable {World : Type}

/-! ## Units that go on -/

/-- A unit keeps its name, its context and its image, and the linkages of living models. -/
structure Continues (isLive : ModelId → Bool) (unit later : InstalledUnit World) : Prop where
  name : later.name = unit.name
  context : later.context = unit.context
  image : later.image = unit.image
  linkages : ∀ model linkage, isLive model → unit.linkage? model = some linkage →
    later.linkage? model = some linkage

theorem Continues.refl (isLive : ModelId → Bool) (unit : InstalledUnit World) :
    Continues isLive unit unit :=
  ⟨rfl, rfl, rfl, fun _ _ _ known => known⟩

/-- Units go on through two stretches, if no model comes back to life. -/
theorem Continues.trans {isLive stillLive : ModelId → Bool}
    {first second third : InstalledUnit World} (front : Continues isLive first second)
    (back : Continues stillLive second third)
    (fewer : ∀ model, stillLive model → isLive model) : Continues stillLive first third where
  name := back.name.trans front.name
  context := back.context.trans front.context
  image := back.image.trans front.image
  linkages model linkage live known :=
    back.linkages model linkage live (front.linkages model linkage (fewer model live) known)

/-- Dropping entries by their keys leaves the look-up of any other key as it was. -/
theorem lookup_filter_key {Key Item : Type} [BEq Key] [LawfulBEq Key] {keep : Key → Bool}
    {key : Key} (kept : keep key) (entries : List (Key × Item)) :
    (entries.filter fun entry => keep entry.1).lookup key = entries.lookup key := by
  induction entries with
  | nil => rfl
  | cons entry rest inductionHypothesis =>
      obtain ⟨first, item⟩ := entry
      by_cases same : key = first
      · subst same
        simp [kept]
      · have different : (key == first) = false := beq_false_of_ne same
        rw [List.lookup_cons, different, List.filter_cons]
        split
        · rw [List.lookup_cons, different]
          exact inductionHypothesis
        · exact inductionHypothesis

/-- A linkage is added for a model that has none, so those of the living go on. -/
theorem continues_addLinkage (isLive : ModelId → Bool) (unit : InstalledUnit World)
    (model : ModelId) (linkage : Machine.Linkage World) :
    Continues isLive unit (unit.addLinkage isLive model linkage) where
  name := rfl
  context := rfl
  image := rfl
  linkages other known live isKnown := by
    show List.lookup other
      ((unit.linkages.filter fun entry => isLive entry.1) ++ [(model, linkage)]) = some known
    have stays : unit.linkages.lookup other = some known := isKnown
    rw [List.lookup_append, lookup_filter_key live, stays, Option.some_or]

section Step

variable {generator : Generator World} {classId : ClassId} {place : UnitPlace}
  {asked : World} {scene later : Scene World} {unit next : InstalledUnit World}

/-- A change at the place of a request's unit that lets this one go on lets all go on. -/
theorem Holds.continues {isLive : ModelId → Bool}
    (holds : Holds generator classId asked place scene.store unit)
    (goesOn : Continues isLive unit next) {other : UnitPlace} {present : InstalledUnit World}
    (isThere : scene.store.unitAt other = some present) :
    ∃ following, Function.update scene.store.unitAt place (some next) other = some following ∧
      Continues isLive present following := by
  by_cases here : other = place
  · subst here
    refine ⟨next, Function.update_self .., ?_⟩
    cases holds with
    | reused isUnit => exact Option.some.inj (isUnit.symm.trans isThere) ▸ goesOn
    | installed missing described built passes => rw [missing] at isThere; cases isThere
  · exact ⟨present, (Function.update_of_ne here ..).trans isThere, .refl isLive present⟩

/-- Units go on through a request. -/
theorem Served.continues {result : Except GenerationError (Accessor World)}
    (served : Served generator classId scene later result)
    (isThere : scene.store.unitAt place = some unit) :
    ∃ next, later.store.unitAt place = some next ∧ Continues scene.isLive unit next := by
  cases served with
  | nameless answer units | refused located reason units =>
      exact ⟨unit, units ▸ isThere, .refl _ unit⟩
  | unlinked located holds unknown leaves fails units | stored located holds known units =>
      rw [units]
      exact holds.continues (.refl _ _) isThere
  | linked located holds unknown leaves links units =>
      rw [units]
      exact holds.continues (continues_addLinkage ..) isThere

end Step

/-! ## Runs -/

/-- What may happen apart from requests. The registry and the counts of its generators stay as they
are, and a released model never comes back. -/
structure Apart (generators : List (Generator World)) (number : Nat) (scene later : Scene World) :
    Prop where
  inRange : scene.store.registries.length ≤ later.store.registries.length
  registry : later.store.registry number = scene.store.registry number
  numbered : scene.generated.length ≤ later.generated.length
  counts : ∀ generator ∈ generators,
    generator.generatedCount later = generator.generatedCount scene
  released : ∀ model, later.isLive model → scene.isLive model

/-- A run of requests by generators of a registry, with the accessors that they answered, the last
one in front. -/
inductive Runs (generators : List (Generator World)) (number : Nat) (start : Scene World) :
    List (Accessor World) → Scene World → Prop where
  | start : Runs generators number start [] start
  | apart {accessors : List (Accessor World)} {scene later : Scene World}
      (before : Runs generators number start accessors scene)
      (apart : Apart generators number scene later) : Runs generators number start accessors later
  | refused {accessors : List (Accessor World)} {scene later : Scene World}
      {generator : Generator World} {classId : ClassId} {error : GenerationError}
      (before : Runs generators number start accessors scene) (member : generator ∈ generators)
      (done : (generator.generate classId).run scene = (.error error, later)) :
      Runs generators number start accessors later
  | answered {accessors : List (Accessor World)} {scene later : Scene World}
      {generator : Generator World} {classId : ClassId} {accessor : Accessor World}
      (before : Runs generators number start accessors scene) (member : generator ∈ generators)
      (done : (generator.generate classId).run scene = (.ok accessor, later)) :
      Runs generators number start (accessor :: accessors) later

section Runs

variable {generators : List (Generator World)} {number : Nat} {start scene later : Scene World}
  {accessors more : List (Accessor World)}

/-- A question to the world releases no model. -/
theorem isLive_ask {Answer : Type} (question : StateM World Answer) (scene : Scene World) :
    ((ask question).run scene).2.isLive = scene.isLive :=
  rfl

/-- A question to the world changes no unit. -/
theorem store_ask {Answer : Type} (question : StateM World Answer) (scene : Scene World) :
    ((ask question).run scene).2.store = scene.store :=
  rfl

/-- A question to the world, such as a call through an accessor, happens apart. -/
theorem Apart.ask {Answer : Type} (question : StateM World Answer) :
    Apart generators number scene ((ask question).run scene).2 :=
  ⟨Nat.le_refl _, rfl, Nat.le_refl _, fun _ _ => rfl, fun _ live => live⟩

/-- A release changes nothing but which models are released. -/
theorem release_run (model : ModelId) (scene : Scene World) :
    ((release model).run scene).2 =
      { scene with released :=
          if scene.released.contains model then scene.released else model :: scene.released } := by
  by_cases already : scene.released.contains model
  · have same : ((release model).run scene).2 = scene := if_pos already
    rw [same, if_pos already]
  · have adds : ((release model).run scene).2 =
        { scene with released := model :: scene.released } := if_neg already
    rw [adds, if_neg already]

theorem store_release (model : ModelId) (scene : Scene World) :
    ((release model).run scene).2.store = scene.store := by
  rw [release_run]

theorem isLive_release (model other : ModelId) (scene : Scene World) :
    ((release model).run scene).2.isLive other = (other != model && scene.isLive other) := by
  rw [release_run, Scene.isLive, Scene.isLive]
  split
  · rename_i already
    by_cases isModel : other = model
    · rw [isModel, already]
      simp
    · simp [isModel]
  · rw [List.contains_cons, Bool.not_or]
    rfl

/-- The release of a model happens apart. -/
theorem Apart.release (model : ModelId) :
    Apart generators number scene ((release model).run scene).2 where
  inRange := Nat.le_of_eq (by rw [release_run])
  registry := by rw [release_run]
  numbered := Nat.le_of_eq (by rw [release_run])
  counts generator member := by rw [Generator.generatedCount, release_run]; rfl
  released other live := by
    rw [isLive_release, Bool.and_eq_true] at live
    exact live.2

/-- Two runs, one after the other. -/
theorem Runs.trans (front : Runs generators number start accessors scene)
    (back : Runs generators number scene more later) :
    Runs generators number start (more ++ accessors) later := by
  induction back with
  | start => exact front
  | apart before apart inductionHypothesis => exact .apart inductionHypothesis apart
  | refused before member done inductionHypothesis =>
      exact .refused inductionHypothesis member done
  | answered before member done inductionHypothesis =>
      exact .answered inductionHypothesis member done

/-- What happens apart changes no unit of the registry. -/
theorem Apart.unitAt (apart : Apart generators number scene later) {place : UnitPlace}
    (here : place.registry = number) : later.store.unitAt place = scene.store.unitAt place := by
  unfold Store.unitAt Store.unit?
  rw [here, apart.registry]

theorem Apart.books (apart : Apart generators number scene later)
    (books : Books generators number scene) : Books generators number later where
  inRange := Nat.lt_of_lt_of_le books.inRange apart.inRange
  tidy := apart.registry ▸ books.tidy
  numbered generator member :=
    Nat.lt_of_lt_of_le (books.numbered generator member) apart.numbered
  counted := by
    rw [apart.registry, ← books.counted]
    exact congrArg List.sum (List.map_congr_left apart.counts)

variable (sharing : Sharing generators number)
include sharing

/-- A run keeps the books. -/
theorem Runs.books (runs : Runs generators number start accessors scene)
    (books : Books generators number start) : Books generators number scene := by
  induction runs with
  | start => exact books
  | apart before apart inductionHypothesis => exact apart.books inductionHypothesis
  | refused before member done inductionHypothesis
  | answered before member done inductionHypothesis =>
      exact (generate_serves sharing inductionHypothesis member done).1

/-- Units go on through a run. -/
theorem Runs.continues (runs : Runs generators number start accessors scene)
    (books : Books generators number start) {place : UnitPlace} (here : place.registry = number)
    {unit : InstalledUnit World} (isThere : start.store.unitAt place = some unit) :
    ∃ next, scene.store.unitAt place = some next ∧ Continues scene.isLive unit next := by
  induction runs with
  | start => exact ⟨unit, isThere, .refl _ unit⟩
  | apart before apart inductionHypothesis =>
      obtain ⟨next, isNext, goesOn⟩ := inductionHypothesis
      exact ⟨next, (apart.unitAt here).trans isNext,
        goesOn.trans (.refl _ next) apart.released⟩
  | refused before member done inductionHypothesis
  | answered before member done inductionHypothesis =>
      obtain ⟨next, isNext, goesOn⟩ := inductionHypothesis
      obtain ⟨-, released, served⟩ := generate_serves sharing (before.books sharing books) member
        done
      obtain ⟨last, isLast, goesOnToo⟩ := served.continues isNext
      rw [Scene.isLive_of_released released]
      exact ⟨last, isLast, goesOn.trans goesOnToo fun _ live => live⟩

end Runs

/-- A registry as it is created, whose generators have counted nothing. -/
structure Fresh (generators : List (Generator World)) (number : Nat) (scene : Scene World) :
    Prop where
  registry : ∃ systemScope id,
    scene.store.registries[number]? = some (Registry.start systemScope id)
  counts : ∀ generator ∈ generators, scene.generated[generator.number]? = some 0

/-- The books of a fresh registry are in order. -/
theorem Fresh.books {generators : List (Generator World)} {number : Nat} {scene : Scene World}
    (fresh : Fresh generators number scene) : Books generators number scene := by
  obtain ⟨systemScope, id, created⟩ := fresh.registry
  have isStart : scene.store.registry number = Registry.start systemScope id := by
    rw [Store.registry, List.getD_eq_getElem?_getD, created, Option.getD_some]
  have none : ∀ generator ∈ generators, generator.generatedCount scene = 0 := by
    intro generator member
    rw [Generator.generatedCount, List.getD_eq_getElem?_getD, fresh.counts generator member,
      Option.getD_some]
  constructor
  · exact (List.getElem?_eq_some_iff.mp created).1
  · rw [isStart]
    exact Registry.tidy_start systemScope id
  · exact fun generator member =>
      (List.getElem?_eq_some_iff.mp (fresh.counts generator member)).1
  · rw [isStart, totalGenerated, List.map_congr_left none]
    simp [Registry.unitCount, Registry.contexts, Registry.start]

/-- A fresh registry has no unit. -/
theorem Fresh.unitAt_eq_none {generators : List (Generator World)} {number : Nat}
    {scene : Scene World} (fresh : Fresh generators number scene) {place : UnitPlace}
    (here : place.registry = number) : scene.store.unitAt place = none := by
  obtain ⟨systemScope, id, created⟩ := fresh.registry
  have isStart : scene.store.registry number = Registry.start systemScope id := by
    rw [Store.registry, List.getD_eq_getElem?_getD, created, Option.getD_some]
  rw [Store.unitAt, Store.unit?, here, isStart, Option.bind_eq_none_iff]
  intro context found
  obtain rfl := List.mem_singleton.mp (Registry.mem_of_context? found)
  rfl

/-! ## Images of units -/

/-- Every image that a generator can build for a class is sound. -/
def BuildsOnly (sound : Image → Prop) (classId : ClassId) (generator : Generator World) : Prop :=
  ∀ asked description finish image,
    (generator.model.describe classId).run asked = (some description, finish) →
      Image.ofDescription description = .ok image → sound image

/-- The units that are named after a class have sound images, in whatever context of a registry. -/
def HasOnly (sound : Image → Prop) (number : Nat) (classId : ClassId) (scene : Scene World) :
    Prop :=
  ∀ scope typeName unit,
    scene.store.unitAt ⟨number, scope, unitName typeName classId⟩ = some unit → sound unit.image

/-- Where one image can be built, no other one is. -/
theorem CanBuild.buildsOnly {generator : Generator World} {classId : ClassId} {image : Image}
    (can : CanBuild generator classId image) : BuildsOnly (· = image) classId generator := by
  intro asked description finish made described built
  exact Except.ok.inj (built.symm.trans (can.built described))

section Images

variable {sound : Image → Prop} {generators : List (Generator World)} {number : Nat}
  {generator : Generator World} {classId asking : ClassId} {start scene later : Scene World}
  {accessors : List (Accessor World)}

/-- The unit that a request works with has a sound image if it is named after the class, as the
request that installed it was for that class. -/
theorem HasOnly.held (only : HasOnly sound number classId scene)
    (builds : BuildsOnly sound classId generator) {scope : ScopeId} {typeName : String}
    {world asked : World} {unit : InstalledUnit World}
    (located : Locates generator asking world ⟨number, scope, unitName typeName classId⟩ asked)
    (holds : Holds generator asking asked ⟨number, scope, unitName typeName classId⟩ scene.store
      unit) : sound unit.image := by
  cases holds with
  | reused present => exact only scope typeName unit present
  | installed missing described built passes =>
      generalize isPlace : (⟨number, scope, unitName typeName classId⟩ : UnitPlace) = place
        at located
      cases located with
      | asked named resolved =>
          obtain ⟨-, rfl⟩ := unitName_inj (congrArg UnitPlace.name isPlace)
          exact builds _ _ _ _ described built

/-- A request for any class leaves the units of a class with sound images. -/
theorem HasOnly.served {result : Except GenerationError (Accessor World)}
    (only : HasOnly sound number classId scene) (builds : BuildsOnly sound classId generator)
    (served : Served generator asking scene later result) :
    HasOnly sound number classId later := by
  intro scope typeName unit isThere
  cases served with
  | nameless answer units | refused located reason units =>
      rw [units] at isThere
      exact only scope typeName unit isThere
  | @unlinked place base fault asked start located holds unknown leaves fails units
  | @stored place base linkage asked located holds known units
  | @linked place base linkage asked start located holds unknown leaves links units =>
      rw [units] at isThere
      by_cases here : (⟨number, scope, unitName typeName classId⟩ : UnitPlace) = place
      · subst here
        have isSound := only.held builds located holds
        rw [Function.update_self] at isThere
        obtain rfl := Option.some.inj isThere
        exact isSound
      · rw [Function.update_of_ne here] at isThere
        exact only scope typeName unit isThere

variable (sharing : Sharing generators number) (fresh : Fresh generators number start)
include sharing fresh

/-- Throughout a run the units of a class have sound images, if no generator can build any other
image for it. -/
theorem Runs.hasOnly (builds : ∀ generator ∈ generators, BuildsOnly sound classId generator)
    (runs : Runs generators number start accessors scene) : HasOnly sound number classId scene := by
  induction runs with
  | start =>
      intro scope typeName unit isThere
      cases (fresh.unitAt_eq_none rfl).symm.trans isThere
  | apart before apart inductionHypothesis =>
      intro scope typeName unit isThere
      exact inductionHypothesis scope typeName unit ((apart.unitAt rfl).symm.trans isThere)
  | @refused accessors scene later generator asking error before member done inductionHypothesis
  | @answered accessors scene later generator asking accessor before member done
      inductionHypothesis =>
      have books := before.books sharing fresh.books
      exact inductionHypothesis.served (builds generator member)
        (generate_serves sharing books member done).2.2

variable {image : Image}

/-- Where all generators can build one image for a class, a request for it is settled in every state
that a run reaches by linking this image. -/
theorem Runs.settled (can : ∀ generator ∈ generators, CanBuild generator classId image)
    (runs : Runs generators number start accessors scene) (member : generator ∈ generators)
    {result : Except GenerationError (Accessor World)}
    (done : (generator.generate classId).run scene = (result, later)) :
    (∃ start fault, ((Machine.Linkage.ofImage generator.model image).run start).1 = .error fault ∧
        result = .error (.instantiation image.typeName fault)) ∨
      ∃ accessor, result = .ok accessor ∧ accessor.linked.image = image ∧
        ((scene.store.unitAt accessor.place).isSome ∨
          ∃ start linkage,
            ((Machine.Linkage.ofImage generator.model image).run start).1 = .ok linkage) := by
  have only := runs.hasOnly sharing fresh fun other isOther => (can other isOther).buildsOnly
  have served := (generate_serves sharing (runs.books sharing fresh.books) member done).2.2
  apply served.settled (can generator member)
  intro place asked unit located isThere
  cases located with
  | asked named resolved =>
      rw [sharing.registry generator member] at isThere
      exact only _ _ unit isThere

/-- Where all generators can answer requests for a class, and with one image, each of them does in
every state that a run reaches. -/
theorem Runs.exists_answered (can : ∀ generator ∈ generators, CanAnswer generator classId image)
    (runs : Runs generators number start accessors scene) (member : generator ∈ generators) :
    ∃ accessor later, (generator.generate classId).run scene = (.ok accessor, later) ∧
      accessor.linked.image = image := by
  rcases done : (generator.generate classId).run scene with ⟨result, later⟩
  rcases runs.settled sharing fresh (fun other isOther => (can other isOther).toCanBuild) member
    done with ⟨start, fault, fails, -⟩ | ⟨accessor, rfl, isImage, -⟩
  · have links := (can generator member).links start
    rw [fails] at links
    cases links
  · exact ⟨accessor, later, rfl, isImage⟩

end Images

/-! ## Generators of counters -/

/-- For each id a model of counters, whose steps have a length of their own. -/
def counterModels (id : ModelId) : Machine.TypeModel Int32 :=
  { Machine.counterModel with
    methodHandle _ _ := return some fun _ arguments => do
      match arguments with
      | [.int amount] =>
          modify fun total => total + Int32.ofNat (id.number + 1) * amount
          return .ok (.int (← get))
      | _ => return .error "not an amount" }

/-- A generator over a model of counters of its own, in the first registry. -/
def counterGenerator (number : Nat) : Generator Int32 where
  number
  modelId := ⟨number⟩
  model := counterModels ⟨number⟩
  scopeOf _ := return ⟨7⟩
  registry := 0
  settings := {}
  sink := none
  writeFile _ _ _ := return .ok ()

/-- The place of the unit of a class of counters. -/
def counterPlace (classId : ClassId) : UnitPlace :=
  ⟨0, ⟨7⟩, unitName counter.name classId⟩

/-- A new registry and two generators that have counted nothing. -/
def counterScene : Scene Int32 where
  world := 0
  store := ({} : Store Int32).addRegistry ⟨0⟩
  generated := [0, 0]

theorem sharing_counter : Sharing [counterGenerator 0, counterGenerator 1] 0 where
  registry := by simp [counterGenerator]
  distinct := by simp [counterGenerator]

theorem fresh_counter : Fresh [counterGenerator 0, counterGenerator 1] 0 counterScene where
  registry := ⟨⟨0⟩, 0, rfl⟩
  counts := by simp [counterGenerator, counterScene]

/-- A class with the members of the counter. -/
def secondCounter : TypeDescription :=
  { counter with classId := ⟨6⟩ }

/-- The image of the second class is as long as the counter's, and its constants are known. -/
theorem exists_image_secondCounter :
    ∃ image, Image.ofDescription secondCounter = .ok image ∧ image.code.size < 2 ^ 32 ∧
      image.constants.toList = (Dispatcher.constantsOf secondCounter).eraseDups := by
  have short : Dispatcher.overlong? (Dispatcher.parameterLists secondCounter) = none := rfl
  have few : (Dispatcher.constantsOf secondCounter).length ≤ ConstantPool.capacity := by decide
  have sameSize : Dispatcher.codeSize secondCounter = Dispatcher.codeSize counter := rfl
  rcases Image.ofDescription_cases short with ⟨-, image, built, constants⟩ | ⟨overfull, -⟩
  · refine ⟨image, built, ?_, ?_⟩
    · rw [Dispatcher.size_code_of_built built, sameSize, ← Dispatcher.size_code_of_built counter_built]
      exact counter_short
    · rw [constants, ConstantPool.toList_entries_ofList]
      exact List.take_of_length_le (by decide)
  · exact absurd (Nat.le_trans (List.toFinset_card_le _) few) overfull

/-- Every generator of counters can answer requests for either class, all with one image. -/
theorem canAnswer_counter {classId : ClassId} (known : classId = ⟨5⟩ ∨ classId = ⟨6⟩) :
    ∃ image, ∀ number, CanAnswer (counterGenerator number) classId image := by
  rcases known with rfl | rfl
  · refine ⟨counterImage, fun number => ⟨⟨fun _ => rfl, fun _ => ?_, counter_short⟩, fun _ => rfl⟩⟩
    exact ⟨counter, rfl, counter_built⟩
  · obtain ⟨image, built, short, constants⟩ := exists_image_secondCounter
    refine ⟨image, fun number => ⟨⟨fun _ => rfl, fun _ => ?_, short⟩, fun world => ?_⟩⟩
    · exact ⟨secondCounter, rfl, built⟩
    · rw [Machine.Linkage.ofImage, constants]
      rfl

/-- In every state of a run a request for a class of counters is answered. -/
theorem Runs.exists_counter {number : Nat} {accessors : List (Accessor Int32)}
    {scene : Scene Int32}
    (runs : Runs [counterGenerator 0, counterGenerator 1] 0 counterScene accessors scene)
    (member : counterGenerator number ∈ [counterGenerator 0, counterGenerator 1])
    {classId : ClassId} (known : classId = ⟨5⟩ ∨ classId = ⟨6⟩) :
    ∃ accessor later,
      ((counterGenerator number).generate classId).run scene = (.ok accessor, later) ∧
        accessor.place = counterPlace classId ∧
        Completes (counterGenerator number) classId scene later accessor := by
  obtain ⟨image, able⟩ := canAnswer_counter known
  have all : ∀ generator ∈ [counterGenerator 0, counterGenerator 1],
      CanAnswer generator classId image := by
    simp [able]
  obtain ⟨accessor, later, done, -⟩ :=
    runs.exists_answered sharing_counter fresh_counter all member
  have completes := generate_completes sharing_counter
    (runs.books sharing_counter fresh_counter.books) member done
  refine ⟨accessor, later, done, ?_, completes⟩
  obtain ⟨asked, located⟩ := completes.located
  generalize accessor.place = place at located
  cases located with
  | asked named resolved =>
      cases named
      cases resolved
      rfl

/-- Two generators of counters are asked for the counter, one after the other. -/
structure CounterHit (first second : Accessor Int32) (one two : Scene Int32) : Prop where
  runsOne : Runs [counterGenerator 0, counterGenerator 1] 0 counterScene [first] one
  runsTwo : Runs [counterGenerator 0, counterGenerator 1] 0 counterScene [second, first] two
  installs : ((counterGenerator 0).generate counter.classId).run counterScene = (.ok first, one)
  hits : ((counterGenerator 1).generate counter.classId).run one = (.ok second, two)
  firstPlace : first.place = counterPlace counter.classId
  secondPlace : second.place = counterPlace counter.classId
  completesOne : Completes (counterGenerator 0) counter.classId counterScene one first
  completesTwo : Completes (counterGenerator 1) counter.classId one two second

theorem mem_counterGenerators :
    counterGenerator 0 ∈ [counterGenerator 0, counterGenerator 1] ∧
      counterGenerator 1 ∈ [counterGenerator 0, counterGenerator 1] := by
  simp

theorem exists_counterHit : ∃ first second one two, CounterHit first second one two := by
  have before := @Runs.start _ [counterGenerator 0, counterGenerator 1] 0 counterScene
  obtain ⟨first, one, installs, firstPlace, completesOne⟩ :=
    before.exists_counter mem_counterGenerators.1 (.inl rfl)
  have runsOne := before.answered mem_counterGenerators.1 installs
  obtain ⟨second, two, hits, secondPlace, completesTwo⟩ :=
    runsOne.exists_counter mem_counterGenerators.2 (.inl rfl)
  have runsTwo := runsOne.answered mem_counterGenerators.2 hits
  exact ⟨first, second, one, two, runsOne, runsTwo, installs, hits, firstPlace, secondPlace,
    completesOne, completesTwo⟩

end OrdinalDispatch.Loader

import OrdinalDispatch.Loader.Store

/-!
Contract: the state in which loading happens, and its elementary operations.

Owns: the scene of a store, a world of models, the counts of generated images
and the events so far; resolving a context, installing and linking a unit.

Does not own: generation, see `OrdinalDispatch.Loader.Generator`.
-/

set_option autoImplicit false

namespace OrdinalDispatch.Loader

/-- All that loading reads and changes. `generated` counts the images that each generator built
and installed, and `released` names the models that nothing refers to any more. -/
structure Scene (World : Type) where
  world : World
  store : Store World := {}
  generated : List Nat := []
  released : List ModelId := []
  events : Array Event := #[]

abbrev Loading (World α : Type) := StateM (Scene World) α

/-- The place of a unit: its registry, the scope of its context, and its name. -/
structure UnitPlace where
  registry : Nat
  scope : ScopeId
  name : String
deriving DecidableEq, Repr

/-- An accessor: the unit it runs, and that unit's image linked to the accessor's own model. -/
structure Accessor (World : Type) where
  place : UnitPlace
  modelId : ModelId
  linked : Machine.LinkedImage World

variable {World : Type}

/-- Whether something still refers to a model. -/
def Scene.isLive (scene : Scene World) (model : ModelId) : Bool :=
  !scene.released.contains model

def ask {α : Type} (question : StateM World α) : Loading World α := fun scene =>
  let (answer, world) := question.run scene.world
  (answer, { scene with world })

def report (event : Event) : Loading World Unit :=
  modify fun scene => { scene with events := scene.events.push event }

/-- The context of a scope, created on the first request. -/
def resolve (registry : Nat) (scope : ScopeId) : Loading World (Context World) := do
  let (context, store, created) := (← get).store.resolve registry scope
  modify fun scene => { scene with store }
  if created then report (.createdContext scope context.id)
  return context

def findUnit (place : UnitPlace) : Loading World (Option (InstalledUnit World)) := do
  let context ← resolve place.registry place.scope
  return context.find? place.name

def defineUnit (place : UnitPlace) (image : Code.Image) :
    Loading World (Except GenerationError (InstalledUnit World)) := do
  let context ← resolve place.registry place.scope
  match context.install place.name image with
  | .error error => return .error error
  | .ok (unit, installed) =>
      modify fun scene =>
        { scene with
          store := scene.store.updateContext place.registry place.scope fun _ => installed }
      report (.installedUnit place.name context.id)
      return .ok unit

def storeLinkage (place : UnitPlace) (modelId : ModelId) (linkage : Machine.Linkage World) :
    Loading World Unit :=
  modify fun scene =>
    { scene with
      store := scene.store.updateContext place.registry place.scope fun context =>
        context.updateUnit place.name fun unit =>
          unit.addLinkage scene.isLive modelId linkage }

/-- The accessor of an installed unit for a model. The unit is linked on the first request of each
model; a linking that fails is not stored. -/
def instantiate (place : UnitPlace) (unit : InstalledUnit World) (modelId : ModelId)
    (model : Machine.TypeModel World) :
    Loading World (Except GenerationError (Accessor World)) := do
  match unit.linkage? modelId with
  | some linkage => return .ok ⟨place, modelId, ⟨unit.image, linkage, model⟩⟩
  | none =>
      match ← ask (Machine.Linkage.ofImage model unit.image) with
      | .error fault => return .error (.instantiation unit.image.typeName fault)
      | .ok linkage =>
          report (.linkedUnit unit.name linkage.memberCount)
          storeLinkage place modelId linkage
          return .ok ⟨place, modelId, ⟨unit.image, linkage, model⟩⟩

/-- Notes that nothing refers to a model any more. -/
def release (model : ModelId) : Loading World Unit :=
  modify fun scene =>
    if scene.released.contains model then scene
    else { scene with released := model :: scene.released }

namespace Accessor

def targetClass (accessor : Accessor World) : ClassId := accessor.linked.image.target

def display (accessor : Accessor World) : String :=
  Code.Constant.record "GeneratedDispatcher"
    [("unit", Text.Quoted.text accessor.place.name),
      ("linkage", accessor.linked.linkage.display)]

end Accessor

end OrdinalDispatch.Loader

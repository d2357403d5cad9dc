import OrdinalDispatch.Code.Dispatcher
import OrdinalDispatch.Code.Listing
import OrdinalDispatch.Loader.Scene
import OrdinalDispatch.Loader.UnitName
import OrdinalDispatch.Settings.Basic

/-!
Contract: generation of accessors on request.

Owns: the order of the steps from a class to an accessor, the reuse of installed
units, the count of what was generated, and tracing.

Does not own: how a trace is written; a sink or a directory's writer does that,
and its failure is reported without any other effect.

A request names the unit of the class and looks for it in the context of the
class's scope. Only if it is missing is the type described, its image assembled,
traced and installed. Linking comes last, and always to the generator's own
model.
-/

set_option autoImplicit false

namespace OrdinalDispatch.Loader

/-- Takes the image of a unit for a trace, or says why it cannot. -/
abbrev TraceSink (World : Type) := String → Code.Image → StateM World (Except String Unit)

/-- Writes a file of a directory, or says why it cannot. -/
abbrev DirectoryWriter (World : Type) :=
  (directory fileName content : String) → StateM World (Except String Unit)

/-- A generator: its number among all generators, its model, the scopes of classes, the registry
that it installs units in, its settings, and where its traces go. -/
structure Generator (World : Type) where
  number : Nat
  modelId : ModelId
  model : Machine.TypeModel World
  scopeOf : ClassId → StateM World ScopeId
  registry : Nat
  settings : Settings
  sink : Option (TraceSink World)
  writeFile : DirectoryWriter World

namespace Generator

variable {World : Type}

/-- The count of images that a generator built and installed. -/
def generatedCount (generator : Generator World) (scene : Scene World) : Nat :=
  scene.generated.getD generator.number 0

def count (generator : Generator World) : Loading World Unit :=
  modify fun scene =>
    { scene with generated := scene.generated.modify generator.number (· + 1) }

/-- The sink of a generator: its own, else files of the trace directory. -/
def sink? (generator : Generator World) : Option (TraceSink World) :=
  generator.sink <|> generator.settings.traceDirectory.map fun directory unit image =>
    generator.writeFile directory (traceFileName unit) image.listing

def trace (generator : Generator World) (unit : String) (image : Code.Image) :
    Loading World Unit :=
  match generator.sink? with
  | none => report (.nowhereToTrace unit)
  | some sink => do
      match ← ask (sink unit image) with
      | .ok () => return ()
      | .error failure => report (.traceFailed unit failure)

/-- Builds, traces and installs the image of a class whose unit is missing. -/
def install (generator : Generator World) (classId : ClassId) (place : UnitPlace)
    (context : UInt32) : Loading World (Except GenerationError (InstalledUnit World)) := do
  match ← ask (generator.model.describe classId) with
  | none => return .error (.unknownType classId)
  | some description =>
      match Code.Image.ofDescription description with
      | .error cause => return .error (.malformedImage description.name cause)
      | .ok image =>
          if generator.settings.traceEnabled then generator.trace place.name image
          match ← defineUnit place image with
          | .error error => return .error error
          | .ok unit =>
              generator.count
              report (.generatedUnit place.name context description.memberCount)
              return .ok unit

/-- The installed unit of a class, which is generated on the first request. -/
def obtain (generator : Generator World) (classId : ClassId) (place : UnitPlace) :
    Loading World (Except GenerationError (InstalledUnit World)) := do
  let context ← resolve place.registry place.scope
  match context.find? place.name with
  | some unit =>
      report (.reusedUnit place.name context.id)
      return .ok unit
  | none => generator.install classId place context.id

def generate (generator : Generator World) (classId : ClassId) :
    Loading World (Except GenerationError (Accessor World)) := do
  match ← ask (generator.model.typeName classId) with
  | none => return .error (.unknownType classId)
  | some typeName =>
      let scope ← ask (generator.scopeOf classId)
      let place : UnitPlace := ⟨generator.registry, scope, unitName typeName classId⟩
      match ← generator.obtain classId place with
      | .error error => return .error error
      | .ok unit => instantiate place unit generator.modelId generator.model

def display (generator : Generator World) (scene : Scene World) : String :=
  Code.Constant.record "AccessorCompiler"
    [("config", generator.settings.display),
      ("generated", toString (generator.generatedCount scene))]

end Generator

end OrdinalDispatch.Loader

import OrdinalDispatch.Loader.Event
import OrdinalDispatch.Machine.Accessor

/-!
Contract: where installed units live.

Owns: units with their linkages, loading contexts, registries that keep one
context for each scope, and the operations that create contexts, install units
and store linkages.

Does not own: what is installed and when, see `OrdinalDispatch.Loader.Generator`.

Contexts, units and linkages of living models are only ever added. A context is
named by its registry and its scope, and a unit by its context and its name.
-/

set_option autoImplicit false

namespace OrdinalDispatch.Loader

structure ModelId where
  number : Nat
deriving DecidableEq, Repr

/-- A verified image under its name, with its linkage for each model that asked for one. -/
structure InstalledUnit (World : Type) where
  name : String
  context : UInt32
  image : Code.Image
  linkages : List (ModelId × Machine.Linkage World)

namespace InstalledUnit

variable {World : Type}

def linkage? (unit : InstalledUnit World) (model : ModelId) : Option (Machine.Linkage World) :=
  unit.linkages.lookup model

/-- The count of living models that the unit is linked to. -/
def linkedModels (unit : InstalledUnit World) (isLive : ModelId → Bool) : Nat :=
  unit.linkages.countP fun entry => isLive entry.1

/-- Adds a linkage, and drops those of models that are gone. -/
def addLinkage (unit : InstalledUnit World) (isLive : ModelId → Bool) (model : ModelId)
    (linkage : Machine.Linkage World) : InstalledUnit World :=
  { unit with
    linkages := (unit.linkages.filter fun entry => isLive entry.1) ++ [(model, linkage)] }

end InstalledUnit

/-- The units of one scope, in order of installation. -/
structure Context (World : Type) where
  id : UInt32
  parent : ScopeId
  units : List (InstalledUnit World)

namespace Context

variable {World : Type}

def find? (context : Context World) (name : String) : Option (InstalledUnit World) :=
  context.units.find? fun unit => unit.name == name

/-- Installs an image under a name. The image must pass verification, and the name must be free;
the first is checked first. -/
def install (context : Context World) (name : String) (image : Code.Image) :
    Except GenerationError (InstalledUnit World × Context World) :=
  match image.fault? with
  | some fault => .error (.malformedImage name (.verification fault))
  | none =>
      match context.find? name with
      | some _ => .error (.duplicateDefinition name context.id)
      | none =>
          let unit : InstalledUnit World := ⟨name, context.id, image, []⟩
          .ok (unit, { context with units := context.units ++ [unit] })

def updateUnit (context : Context World) (name : String)
    (update : InstalledUnit World → InstalledUnit World) : Context World :=
  { context with
    units := context.units.map fun unit => if unit.name == name then update unit else unit }

end Context

/-- The contexts of a registry: the system scope's own, which is there from the start, and those
of other scopes in the order of their first request. -/
structure Registry (World : Type) where
  system : Context World
  others : List (Context World)

namespace Registry

variable {World : Type}

/-- A registry with the system scope's context alone. -/
def start (systemScope : ScopeId) (id : UInt32) : Registry World :=
  ⟨⟨id, systemScope, []⟩, []⟩

instance : Inhabited (Registry World) := ⟨start ⟨0⟩ 0⟩

/-- The scope that the registry serves from the start. -/
def systemScope (registry : Registry World) : ScopeId := registry.system.parent

def context? (registry : Registry World) (scope : ScopeId) : Option (Context World) :=
  if scope = registry.systemScope then some registry.system
  else registry.others.find? fun context => context.parent = scope

def updateContext (registry : Registry World) (scope : ScopeId)
    (update : Context World → Context World) : Registry World :=
  if scope = registry.systemScope then { registry with system := update registry.system }
  else
    { registry with
      others := registry.others.map fun context =>
        if context.parent = scope then update context else context }

def contextCount (registry : Registry World) : Nat := registry.others.length + 1

end Registry

/-- The registries in order of creation, and the number of the next context of any of them. -/
structure Store (World : Type) where
  registries : List (Registry World) := []
  nextContext : UInt32 := 0

namespace Store

variable {World : Type}

def registry (store : Store World) (number : Nat) : Registry World :=
  store.registries.getD number default

/-- Creates a registry; its system context takes the next number. -/
def addRegistry (store : Store World) (systemScope : ScopeId) : Store World :=
  { registries := store.registries ++ [Registry.start systemScope store.nextContext]
    nextContext := store.nextContext + 1 }

def updateContext (store : Store World) (number : Nat) (scope : ScopeId)
    (update : Context World → Context World) : Store World :=
  { store with
    registries :=
      store.registries.modify number fun registry => registry.updateContext scope update }

/-- The context of a scope, the store with it, and whether it had to be created. -/
def resolve (store : Store World) (number : Nat) (scope : ScopeId) :
    Context World × Store World × Bool :=
  match (store.registry number).context? scope with
  | some context => (context, store, false)
  | none =>
      let context : Context World := ⟨store.nextContext, scope, []⟩
      let registries :=
        store.registries.modify number fun registry =>
          { registry with others := registry.others ++ [context] }
      (context, { registries, nextContext := store.nextContext + 1 }, true)

def unit? (store : Store World) (number : Nat) (scope : ScopeId) (name : String) :
    Option (InstalledUnit World) :=
  ((store.registry number).context? scope).bind fun context => context.find? name

end Store

end OrdinalDispatch.Loader

import OrdinalDispatch.Proofs.Loader.Accounts

/-!
Contract: the loader's store after any operations on any registries.

Owns: operations and their histories, what a history accounts for, and that the
store holds just that.

Does not own: requests for accessors, see `OrdinalDispatch.Proofs.Loader.Runs`.

Units are reached through contexts, so installing a unit and looking for one
resolve the scope first.
-/

set_option autoImplicit false

namespace OrdinalDispatch.Loader

open OrdinalDispatch.Code

variable {World : Type}

/-! ## Operations -/

/-- An operation on the loader: creating a registry for a system scope, resolving a scope in a
registry, installing an image at a place, or looking for the unit there. -/
inductive Operation where
  | create (systemScope : ScopeId)
  | resolve (registry : Nat) (scope : ScopeId)
  | define (place : UnitPlace) (image : Image)
  | find (place : UnitPlace)

namespace Operation

/-- What an operation does, without its answer. -/
def perform : Operation → Loading World Unit
  | .create systemScope =>
      modify fun scene => { scene with store := scene.store.addRegistry systemScope }
  | .resolve registry scope => do
      let _ ← Loader.resolve registry scope
  | .define place image => do
      let _ ← defineUnit place image
  | .find place => do
      let _ ← findUnit place

/-- The registry and the scope that an operation resolves. -/
def resolves? : Operation → Option (Nat × ScopeId)
  | .create _ => none
  | .resolve registry scope => some (registry, scope)
  | .define place _ | .find place => some (place.registry, place.scope)

/-- An operation may resolve scopes in registries that there are. -/
def Allowed (store : Store World) (operation : Operation) : Prop :=
  ∀ number scope, operation.resolves? = some (number, scope) → number < store.registries.length

/-- The scope of a registry that an operation asks for. -/
def asks? (number : Nat) (operation : Operation) : Option ScopeId :=
  operation.resolves?.bind fun resolved => if resolved.1 = number then some resolved.2 else none

/-- The system scope that an operation creates a registry for. -/
def creates? : Operation → Option ScopeId
  | .create systemScope => some systemScope
  | _ => none

/-- The image that an operation is to install at a place, if it is sound. -/
def installs? (place : UnitPlace) : Operation → Option Image
  | .define other image => if other = place ∧ image.fault? = none then some image else none
  | _ => none

end Operation

/-- Operations one after the other, in the order of the history. -/
inductive Performs (start : Scene World) : List Operation → Scene World → Prop where
  | start : Performs start [] start
  | next {history : List Operation} {operation : Operation} {scene later : Scene World}
      (before : Performs start history scene) (allowed : operation.Allowed scene.store)
      (done : operation.perform.run scene = ((), later)) :
      Performs start (history ++ [operation]) later

/-- The system scopes of the registries, in the order of their creation. -/
def systemScopes (history : List Operation) : List ScopeId :=
  history.filterMap Operation.creates?

/-- The scopes of a registry that were asked for. -/
def asked (history : List Operation) (number : Nat) : List ScopeId :=
  history.filterMap (Operation.asks? number)

/-- The first sound image that was to be installed at a place. -/
def firstSound (history : List Operation) (place : UnitPlace) : Option Image :=
  history.findSome? (Operation.installs? place)

section Histories

variable {history : List Operation} {operation : Operation}

theorem systemScopes_append :
    systemScopes (history ++ [operation]) = systemScopes history ++ operation.creates?.toList := by
  rw [systemScopes, List.filterMap_append, systemScopes, List.filterMap_cons]
  cases operation.creates? <;> rfl

theorem asked_append_of_none (resolves : operation.resolves? = none) :
    asked (history ++ [operation]) = asked history := by
  funext number
  have none : operation.asks? number = none := by rw [Operation.asks?, resolves]; rfl
  rw [asked, List.filterMap_append, List.filterMap_cons_none none]
  exact List.append_nil _

theorem asked_append_of_some {number : Nat} {scope : ScopeId}
    (resolves : operation.resolves? = some (number, scope)) :
    asked (history ++ [operation]) =
      Function.update (asked history) number (asked history number ++ [scope]) := by
  funext other
  by_cases here : other = number
  · subst here
    have some : operation.asks? other = some scope := by
      rw [Operation.asks?, resolves]
      exact if_pos rfl
    rw [Function.update_self, asked, List.filterMap_append, List.filterMap_cons_some some]
    rfl
  · have none : operation.asks? other = none := by
      rw [Operation.asks?, resolves]
      exact if_neg (Ne.symm here)
    rw [Function.update_of_ne here, asked, List.filterMap_append, List.filterMap_cons_none none]
    exact List.append_nil _

theorem firstSound_append (place : UnitPlace) :
    firstSound (history ++ [operation]) place =
      (firstSound history place).or (operation.installs? place) := by
  rw [firstSound, List.findSome?_append, firstSound]
  congr 1
  rw [List.findSome?_cons]
  cases operation.installs? place <;> rfl

/-- An operation that installs nothing where there is nothing changes no first image. -/
theorem firstSound_append_eq
    (known : ∀ place, firstSound history place = none → operation.installs? place = none) :
    firstSound (history ++ [operation]) = firstSound history := by
  funext place
  rw [firstSound_append]
  cases isFirst : firstSound history place with
  | some image => rfl
  | none => rw [known place isFirst, Option.none_or]

/-- A sound image that is to be installed where there was none is the first one there, and changes
nothing elsewhere. -/
theorem firstSound_append_define {place : UnitPlace} {image : Image}
    (free : firstSound history place = none) (passes : image.fault? = none) :
    firstSound (history ++ [.define place image]) =
      Function.update (firstSound history) place (some image) := by
  funext other
  rw [firstSound_append]
  by_cases here : other = place
  · subst here
    rw [Function.update_self, free, Option.none_or]
    exact if_pos ⟨rfl, passes⟩
  · have none : (Operation.define place image).installs? other = none :=
      if_neg fun both => here both.1.symm
    rw [Function.update_of_ne here, none, Option.or_none]

end Histories

theorem Performs.trans {start scene later : Scene World} {history more : List Operation}
    (front : Performs start history scene) (back : Performs scene more later) :
    Performs start (history ++ more) later := by
  induction back with
  | start => rwa [List.append_nil]
  | next before allowed done inductionHypothesis =>
      rw [← List.append_assoc]
      exact .next inductionHypothesis allowed done

/-! ## What single operations do -/

section Single

variable {scene opened later : Scene World} {place : UnitPlace} {context : Context World}

/-- Looking for a unit resolves the scope and answers from the context. -/
theorem findUnit_run
    (resolved : (resolve place.registry place.scope).run scene = (context, opened)) :
    (findUnit place).run scene = (context.find? place.name, opened) := by
  rw [findUnit, run_bind_of_run resolved]
  rfl

/-- Installing a unit resolves the scope. A malformed image is refused, and so is one under a name
that is taken; both leave the scene as it is. Otherwise the context has one unit more. -/
theorem defineUnit_eq
    (resolved : (resolve place.registry place.scope).run scene = (context, opened))
    (image : Image) :
    (defineUnit place image).run scene =
      match image.fault? with
      | some fault => (.error (.malformedImage place.name (.verification fault)), opened)
      | none =>
          if (context.find? place.name).isSome then
            (.error (.duplicateDefinition place.name context.id), opened)
          else
            (.ok ⟨place.name, context.id, image, []⟩,
              { opened with
                store := opened.store.updateContext place.registry place.scope fun _ =>
                  context.adding ⟨place.name, context.id, image, []⟩
                events := opened.events.push (.installedUnit place.name context.id) }) := by
  rw [defineUnit, run_bind_of_run resolved, Context.install]
  cases image.fault? with
  | some fault => rfl
  | none =>
      cases context.find? place.name with
      | some unit => rfl
      | none => rfl

end Single

/-! ## What histories do -/

section Steps

variable {scene later : Scene World} {first : UInt32} {history : List Operation}
  {operation : Operation}

/-- The accounts that a history makes of a store. -/
abbrev AccountedFor (first : UInt32) (history : List Operation) (store : Store World) : Prop :=
  store.Accounts first (systemScopes history) (asked history) (firstSound history)

/-- Resolving a scope keeps the accounts, and finds the context in its registry. -/
theorem AccountedFor.resolved {number : Nat} {scope : ScopeId} {context : Context World}
    {opened : Scene World} (accounts : AccountedFor first history scene.store)
    (inRange : number < scene.store.registries.length)
    (done : (resolve number scope).run scene = (context, opened)) :
    opened.store.Accounts first (systemScopes history)
        (Function.update (asked history) number (asked history number ++ [scope]))
        (firstSound history) ∧
      scene.store.Extends opened.store ∧ number < opened.store.registries.length ∧
      (opened.store.registry number).context? scope = some context := by
  obtain ⟨rfl, store, -⟩ := resolve_run done
  rw [store]
  refine ⟨accounts.opened inRange scope, Store.extends_resolve inRange scope, ?_,
    Store.context?_resolve inRange scope⟩
  rw [Store.length_resolve]
  exact inRange

/-- The unit that is found in a context is the first sound one. -/
theorem AccountedFor.find?_eq {systems : List ScopeId} {asks : Nat → List ScopeId}
    {installed : UnitPlace → Option Image} {store : Store World}
    (accounts : store.Accounts first systems asks installed) {place : UnitPlace}
    {context : Context World} (inRange : place.registry < store.registries.length)
    (found : (store.registry place.registry).context? place.scope = some context) :
    context.find? place.name =
      (installed place).map fun image => ⟨place.name, context.id, image, []⟩ := by
  obtain ⟨systemScope, created⟩ := accounts.exists_systemScope inRange
  exact (accounts.registries _ systemScope created).find?_eq found place.name

/-- An operation is accounted for, and contexts stay. -/
theorem AccountedFor.next (accounts : AccountedFor first history scene.store)
    (allowed : operation.Allowed scene.store)
    (done : operation.perform.run scene = ((), later)) :
    AccountedFor first (history ++ [operation]) later.store ∧
      scene.store.Extends later.store := by
  unfold AccountedFor
  cases operation with
  | create systemScope =>
      obtain ⟨-, rfl⟩ := Prod.mk.inj done
      rw [systemScopes_append, asked_append_of_none rfl, firstSound_append_eq fun _ _ => rfl]
      exact ⟨accounts.created systemScope, Store.extends_addRegistry _ _⟩
  | resolve number scope =>
      obtain ⟨context, opened, isResolved, following⟩ := exists_of_bind_run done
      obtain ⟨-, rfl⟩ := Prod.mk.inj following
      obtain ⟨opens, stay, -⟩ := accounts.resolved (allowed number scope rfl) isResolved
      rw [systemScopes_append, asked_append_of_some rfl, firstSound_append_eq fun _ _ => rfl]
      exact ⟨by simpa [Operation.creates?] using opens, stay⟩
  | find place =>
      obtain ⟨unit, opened, isFound, following⟩ := exists_of_bind_run done
      obtain ⟨-, rfl⟩ := Prod.mk.inj following
      obtain ⟨context, opened, isResolved, following⟩ := exists_of_bind_run isFound
      obtain ⟨-, rfl⟩ := Prod.mk.inj following
      obtain ⟨opens, stay, -⟩ := accounts.resolved (allowed _ _ rfl) isResolved
      rw [systemScopes_append, asked_append_of_some rfl, firstSound_append_eq fun _ _ => rfl]
      exact ⟨by simpa [Operation.creates?] using opens, stay⟩
  | define place image =>
      obtain ⟨result, last, isDefined, following⟩ := exists_of_bind_run done
      obtain ⟨-, rfl⟩ := Prod.mk.inj following
      rcases isResolved : (resolve place.registry place.scope).run scene with ⟨context, opened⟩
      obtain ⟨opens, stay, inRange, found⟩ := accounts.resolved (allowed _ _ rfl) isResolved
      have present := AccountedFor.find?_eq opens inRange found
      rw [defineUnit_eq isResolved] at isDefined
      rw [systemScopes_append, asked_append_of_some rfl]
      -- what is refused leaves the context that was opened, and no first image
      have refused (known : ∀ other, firstSound history other = none →
          (Operation.define place image).installs? other = none)
          (same : opened = last) :
          last.store.Accounts first (systemScopes history ++ [])
            (Function.update (asked history) place.registry
              (asked history place.registry ++ [place.scope]))
            (firstSound (history ++ [.define place image])) ∧ scene.store.Extends last.store := by
        rw [firstSound_append_eq known, List.append_nil, ← same]
        exact ⟨opens, stay⟩
      cases checked : image.fault? with
      | some fault =>
          simp only [checked] at isDefined
          apply refused _ (Prod.mk.inj isDefined).2
          intro other _
          simp [Operation.installs?, checked]
      | none =>
          simp only [checked] at isDefined
          cases isFirst : firstSound history place with
          | some sound =>
              rw [present, isFirst, Option.map_some, Option.isSome_some, if_pos rfl] at isDefined
              apply refused _ (Prod.mk.inj isDefined).2
              intro other free
              refine if_neg ?_
              rintro ⟨rfl, -⟩
              cases free.symm.trans isFirst
          | none =>
              rw [isFirst, Option.map_none] at present
              rw [present, Option.isSome_none, if_neg Bool.false_ne_true] at isDefined
              obtain ⟨-, rfl⟩ := Prod.mk.inj isDefined
              obtain ⟨systemScope, isCreated⟩ := opens.exists_systemScope inRange
              have distinct := (opens.registries _ systemScope isCreated).distinct
              rw [firstSound_append_define isFirst checked]
              constructor
              · simpa [Operation.creates?] using opens.installs inRange found present checked
              · exact stay.trans (Store.extends_adding inRange distinct found _)

/-- Further operations are accounted for, and contexts stay. -/
theorem AccountedFor.performs {more : List Operation}
    (accounts : AccountedFor first history scene.store) (performed : Performs scene more later) :
    AccountedFor first (history ++ more) later.store ∧ scene.store.Extends later.store := by
  induction performed with
  | start => exact ⟨(List.append_nil history).symm ▸ accounts, .refl _⟩
  | next before allowed done inductionHypothesis =>
      obtain ⟨accountsBefore, front⟩ := inductionHypothesis
      obtain ⟨accountsAfter, back⟩ := accountsBefore.next allowed done
      rw [List.append_assoc] at accountsAfter
      exact ⟨accountsAfter, front.trans back⟩

/-- A store without registries has nothing to account for. -/
theorem accountedFor_empty {store : Store World} (empty : store.registries = []) :
    AccountedFor store.nextContext [] store where
  length := by rw [empty]; rfl
  registries number systemScope created := by cases created
  beyond number _ := ⟨rfl, fun _ _ => rfl⟩
  numbered := by
    have none : store.ids = [] := by rw [Store.ids, empty, List.flatMap_nil]
    constructor
    · rw [none]
      exact (UInt32.add_zero _).symm
    · rw [none]
      exact .refl _

end Steps

/-! ## What the loader keeps -/

/-- A registry has one context for each scope: the system scope's, and one for every other scope
that was asked for. Resolving a scope finds its context, and ever after finds it again, with the
units that it had and perhaps more; other scopes have contexts of other numbers. -/
structure OneContextEach (history : List Operation) (number : Nat) (systemScope : ScopeId)
    (scene : Scene World) : Prop where
  system : (scene.store.registry number).systemScope = systemScope
  count : (scene.store.registry number).contextCount =
    1 + ((asked history number).toFinset.erase systemScope).card
  distinct : ((scene.store.registry number).others.map Context.parent).Nodup
  unscanned : systemScope ∉ (scene.store.registry number).others.map Context.parent
  parent : ∀ scope context opened,
    (resolve number scope).run scene = (context, opened) → context.parent = scope
  again : ∀ scope context opened, (resolve number scope).run scene = (context, opened) →
    ∀ more later, Performs opened more later →
      ∃ units, (resolve number scope).run later =
        ({ context with units := context.units ++ units }, later)
  different : ∀ scope context opened other otherContext later, scope ≠ other →
    (resolve number scope).run scene = (context, opened) →
      (resolve number other).run opened = (otherContext, later) →
        later.store.ids.length ≤ 2 ^ 32 → context.id ≠ otherContext.id

/-- All that a successful installation changes: the context of the place has the new unit for its
last one, and the installation is reported. -/
structure InstallsOnly (place : UnitPlace) (context : Context World) (unit : InstalledUnit World)
    (scene later : Scene World) : Prop where
  there : (later.store.registry place.registry).context? place.scope = some (context.adding unit)
  elsewhere : ∀ number scope, (number, scope) ≠ (place.registry, place.scope) →
    (later.store.registry number).context? scope = (scene.store.registry number).context? scope
  registries : later.store.registries.length = scene.store.registries.length
  nextContext : later.store.nextContext = scene.store.nextContext
  world : later.world = scene.world
  generated : later.generated = scene.generated
  released : later.released = scene.released
  events : later.events = scene.events.push (.installedUnit place.name context.id)

/-- The first sound image that is installed at a place is the one that is found there, ever after. A
malformed image is refused, and a sound one only under a name that is taken. What is refused changes
nothing. -/
structure FirstWriterWins (history : List Operation) (place : UnitPlace) (scene : Scene World) :
    Prop where
  finds : ∀ context opened, (resolve place.registry place.scope).run scene = (context, opened) →
    (findUnit place).run scene =
      ((firstSound history place).map fun image => ⟨place.name, context.id, image, []⟩, opened)
  stays : ∀ unit opened, (findUnit place).run scene = (some unit, opened) →
    ∀ more later, Performs scene more later → (findUnit place).run later = (some unit, later)
  defines : ∀ context opened, (resolve place.registry place.scope).run scene = (context, opened) →
    ∀ image result later, (defineUnit place image).run scene = (result, later) →
      result =
          (match image.fault? with
          | some fault => .error (.malformedImage place.name (.verification fault))
          | none =>
              if (firstSound history place).isSome then
                .error (.duplicateDefinition place.name context.id)
              else .ok ⟨place.name, context.id, image, []⟩) ∧
        (∀ error, result = .error error → later = opened) ∧
        ∀ unit, result = .ok unit → InstallsOnly place context unit opened later

section Kept

variable {scene : Scene World} {first : UInt32} {history : List Operation}

/-- A context that a store holds is resolved, later on, without any change. -/
theorem resolve_of_extends {number : Nat} {scope : ScopeId} {context : Context World}
    {later : Scene World} (stay : scene.store.Extends later.store)
    (inRange : number < scene.store.registries.length)
    (found : (scene.store.registry number).context? scope = some context) :
    ∃ units, (resolve number scope).run later =
      ({ context with units := context.units ++ units }, later) := by
  obtain ⟨-, units, foundLater⟩ := stay number scope context inRange found
  exact ⟨units, resolve_resolved foundLater⟩

/-- Resolving a scope is an operation. -/
theorem AccountedFor.resolve (accounts : AccountedFor first history scene.store) {number : Nat}
    {scope : ScopeId} {context : Context World} {opened : Scene World}
    (inRange : number < scene.store.registries.length)
    (done : (resolve number scope).run scene = (context, opened)) :
    AccountedFor first (history ++ [.resolve number scope]) opened.store := by
  have allowed : (Operation.resolve number scope).Allowed scene.store := by
    rintro _ _ ⟨⟩
    exact inRange
  have performed : (Operation.resolve number scope).perform.run scene = ((), opened) := by
    rw [Operation.perform, run_bind_of_run done]
    rfl
  exact (accounts.next allowed performed).1

theorem AccountedFor.oneContextEach (accounts : AccountedFor first history scene.store)
    {number : Nat} {systemScope : ScopeId}
    (created : (systemScopes history)[number]? = some systemScope) :
    OneContextEach history number systemScope scene := by
  have inRange := accounts.inRange created
  have registry := accounts.registries number systemScope created
  obtain ⟨distinct, unscanned⟩ := registry.nodup_others
  refine ⟨registry.system, registry.contextCount_eq, distinct, unscanned, ?_, ?_, ?_⟩
  · intro scope context opened done
    obtain ⟨-, -, -, found⟩ := accounts.resolved inRange done
    exact Registry.parent_of_context? found
  · intro scope context opened done more later performed
    obtain ⟨-, -, inRangeToo, found⟩ := accounts.resolved inRange done
    obtain ⟨-, stay⟩ := (accounts.resolve inRange done).performs performed
    exact resolve_of_extends stay inRangeToo found
  · intro scope context opened other otherContext later different done doneToo few same
    obtain ⟨-, -, inRangeToo, found⟩ := accounts.resolved inRange done
    have accountsToo := accounts.resolve inRange done
    obtain ⟨-, stay, inRangeLater, foundOther⟩ := accountsToo.resolved inRangeToo doneToo
    obtain ⟨-, units, foundLater⟩ := stay number scope context inRangeToo found
    have numbers := (accountsToo.resolve inRangeToo doneToo).numbered.nodup few
    have distinctIds := (List.nodup_flatMap.mp numbers).1 _
      (List.mem_of_getElem? (Store.getElem?_registries inRangeLater))
    have isOther := List.inj_on_of_nodup_map distinctIds (Registry.mem_of_context? foundLater)
      (Registry.mem_of_context? foundOther) same
    apply different
    rw [← Registry.parent_of_context? foundLater, isOther, Registry.parent_of_context? foundOther]

/-- A successful installation changes the context of its place alone. -/
theorem installsOnly_of_found {place : UnitPlace} {context : Context World}
    {unit : InstalledUnit World} (inRange : place.registry < scene.store.registries.length)
    (distinct : ((scene.store.registry place.registry).contexts.map Context.parent).Nodup)
    (found : (scene.store.registry place.registry).context? place.scope = some context) :
    InstallsOnly place context unit scene
      { scene with
        store := scene.store.updateContext place.registry place.scope fun _ => context.adding unit
        events := scene.events.push (.installedUnit place.name context.id) } := by
  have parent := Registry.parent_of_context? found
  have keeps : ∀ before : Context World, before.parent = place.scope →
      (context.adding unit).parent = place.scope := fun _ _ => parent
  have updated := Store.registry_updateContext inRange place.scope fun _ => context.adding unit
  refine ⟨?_, ?_, List.length_modify .., rfl, rfl, rfl, rfl, rfl⟩
  · show ((scene.store.updateContext _ _ _).registry place.registry).context? place.scope = _
    rw [updated, Registry.context?_updateContext distinct keeps, if_pos rfl, found]
    rfl
  · intro number scope different
    show ((scene.store.updateContext _ _ _).registry number).context? scope = _
    by_cases here : number = place.registry
    · subst here
      have elsewhere : scope ≠ place.scope := fun same => different (same ▸ rfl)
      rw [updated, Registry.context?_updateContext distinct keeps, if_neg elsewhere]
    · have same : (scene.store.updateContext place.registry place.scope fun _ =>
          context.adding unit).registry number = scene.store.registry number :=
        Store.registry_modify_of_ne here _
      rw [same]

/-- A context in which a unit is found was there before it was resolved. -/
theorem found_of_find?_resolved {number : Nat} {scope : ScopeId} {context : Context World}
    {opened : Scene World} {name : String} {unit : InstalledUnit World}
    (done : (Loader.resolve number scope).run scene = (context, opened))
    (present : context.find? name = some unit) :
    (scene.store.registry number).context? scope = some context ∧ opened = scene := by
  cases found : (scene.store.registry number).context? scope with
  | some there =>
      obtain ⟨rfl, rfl⟩ := Prod.mk.inj ((resolve_resolved found).symm.trans done)
      exact ⟨rfl, rfl⟩
  | none =>
      obtain ⟨rfl, -⟩ := resolve_run done
      rw [Store.resolve, found] at present
      cases present

theorem AccountedFor.firstWriterWins (accounts : AccountedFor first history scene.store)
    {place : UnitPlace} (inRange : place.registry < scene.store.registries.length) :
    FirstWriterWins history place scene := by
  constructor
  · intro context opened done
    obtain ⟨opens, -, inRangeToo, found⟩ := accounts.resolved inRange done
    rw [findUnit_run done, AccountedFor.find?_eq opens inRangeToo found]
  · intro unit opened isFound more later performed
    rcases done : (Loader.resolve place.registry place.scope).run scene with ⟨context, opens⟩
    rw [findUnit_run done] at isFound
    obtain ⟨present, rfl⟩ := Prod.mk.inj isFound
    obtain ⟨found, -⟩ := found_of_find?_resolved done present
    obtain ⟨-, stay⟩ := accounts.performs performed
    obtain ⟨units, resolved⟩ := resolve_of_extends stay inRange found
    rw [findUnit_run resolved, Context.find?, List.find?_append]
    rw [Context.find?] at present
    rw [present, Option.some_or]
  · intro context opened done image result later defined
    obtain ⟨opens, -, inRangeToo, found⟩ := accounts.resolved inRange done
    have present := AccountedFor.find?_eq opens inRangeToo found
    rw [defineUnit_eq done, present] at defined
    cases checked : image.fault? with
    | some fault =>
        simp only [checked] at defined
        obtain ⟨rfl, rfl⟩ := Prod.mk.inj defined
        exact ⟨rfl, fun _ _ => rfl, by rintro _ ⟨⟩⟩
    | none =>
        simp only [checked, Option.isSome_map] at defined
        by_cases taken : (firstSound history place).isSome = true
        · rw [if_pos taken] at defined ⊢
          obtain ⟨rfl, rfl⟩ := Prod.mk.inj defined
          exact ⟨rfl, fun _ _ => rfl, by rintro _ ⟨⟩⟩
        · rw [if_neg taken] at defined ⊢
          obtain ⟨rfl, rfl⟩ := Prod.mk.inj defined
          refine ⟨rfl, by rintro _ ⟨⟩, ?_⟩
          rintro unit ⟨⟩
          obtain ⟨systemScope, created⟩ := opens.exists_systemScope inRangeToo
          exact installsOnly_of_found inRangeToo (opens.registries _ systemScope created).distinct
            found

end Kept

/-- The store invariant of the loader. Whatever scopes are resolved, images installed and units
looked for in whatever order in any registries: each registry keeps one context for each scope that
was asked for; as many contexts as there are numbers have different numbers, over all registries;
every unit's image is sound; and at each place the first sound image stays, malformed ones and later
ones being refused without any effect. -/
theorem operations_keep_the_store {start scene : Scene World} {history : List Operation}
    (empty : start.store.registries = []) (performed : Performs start history scene) :
    scene.store.registries.length = (systemScopes history).length ∧
      (∀ number systemScope, (systemScopes history)[number]? = some systemScope →
        OneContextEach history number systemScope scene) ∧
      (scene.store.ids.length ≤ 2 ^ 32 → scene.store.ids.Nodup) ∧
      (∀ registry ∈ scene.store.registries, ∀ context ∈ registry.contexts,
        ∀ unit ∈ context.units, unit.image.fault? = none) ∧
      ∀ place : UnitPlace, place.registry < (systemScopes history).length →
        FirstWriterWins history place scene := by
  obtain ⟨accounts, -⟩ := (accountedFor_empty empty).performs performed
  rw [List.nil_append] at accounts
  refine ⟨accounts.length, fun number systemScope created => accounts.oneContextEach created,
    accounts.numbered.nodup, ?_, ?_⟩
  · intro registry member context isContext unit isUnit
    obtain ⟨number, inRange, rfl⟩ := List.getElem_of_mem member
    obtain ⟨systemScope, created⟩ := accounts.exists_systemScope inRange
    have isRegistry := Store.getElem?_registries inRange
    rw [List.getElem?_eq_getElem inRange] at isRegistry
    rw [Option.some.inj isRegistry] at isContext
    exact (accounts.registries number systemScope created).sound context isContext unit isUnit
  · intro place inRange
    exact accounts.firstWriterWins (accounts.length ▸ inRange)

/-! ## A history -/

/-- An operation on a registry that was created can be performed. -/
theorem Performs.exists_next {start scene : Scene World} {history : List Operation}
    (empty : start.store.registries = []) (performed : Performs start history scene)
    (operation : Operation)
    (created : ∀ number scope, operation.resolves? = some (number, scope) →
      number < (systemScopes history).length) :
    ∃ later, Performs start (history ++ [operation]) later := by
  obtain ⟨accounts, -⟩ := (accountedFor_empty empty).performs performed
  refine ⟨_, .next performed ?_ (Eq.refl (operation.perform.run scene))⟩
  intro number scope resolves
  rw [accounts.length]
  exact created number scope resolves

/-- A place in a registry for the system scope zero. -/
def scopedPlace : UnitPlace := ⟨0, ⟨7⟩, "unit"⟩

/-- An image is to be installed at a place twice, and then looked for. -/
def installedTwice : List Operation :=
  [.create ⟨0⟩, .resolve 0 ⟨7⟩, .define scopedPlace counterImage, .define scopedPlace counterImage,
    .find scopedPlace]

theorem performs_installedTwice :
    ∃ scene, Performs ({ world := () } : Scene Unit) installedTwice scene := by
  have empty : ({ world := () } : Scene Unit).store.registries = [] := rfl
  obtain ⟨created, performed⟩ := Performs.exists_next empty .start (.create ⟨0⟩) nofun
  obtain ⟨resolved, performed⟩ := performed.exists_next empty (.resolve 0 ⟨7⟩) (by
    rintro _ _ ⟨⟩
    decide)
  obtain ⟨defined, performed⟩ := performed.exists_next empty (.define scopedPlace counterImage) (by
    rintro _ _ ⟨⟩
    exact Nat.one_pos)
  obtain ⟨refused, performed⟩ := performed.exists_next empty (.define scopedPlace counterImage) (by
    rintro _ _ ⟨⟩
    exact Nat.one_pos)
  exact performed.exists_next empty (.find scopedPlace) (by
    rintro _ _ ⟨⟩
    exact Nat.one_pos)

theorem firstSound_installedTwice : firstSound installedTwice scopedPlace = some counterImage := by
  have passes : counterImage.fault? = none := Image.fault?_eq_none_iff.mpr counter_verified
  have defines : (Operation.define scopedPlace counterImage).installs? scopedPlace =
      some counterImage := if_pos ⟨rfl, passes⟩
  rw [firstSound, installedTwice, List.findSome?_cons, List.findSome?_cons, List.findSome?_cons,
    defines]
  rfl

theorem operations_keep_the_store_counter :
    ∃ scene, ({ world := () } : Scene Unit).store.registries = [] ∧
      Performs { world := () } installedTwice scene ∧
      (scene.store.registry 0).contextCount = 2 ∧
      ∀ context opened, (resolve 0 ⟨7⟩).run scene = (context, opened) →
        (findUnit scopedPlace).run scene =
          (some ⟨scopedPlace.name, context.id, counterImage, []⟩, opened) := by
  obtain ⟨scene, performed⟩ := performs_installedTwice
  obtain ⟨-, contexts, -, -, writers⟩ := operations_keep_the_store rfl performed
  refine ⟨scene, rfl, performed, (contexts 0 ⟨0⟩ rfl).count.trans (by decide), ?_⟩
  intro context opened resolved
  rw [(writers scopedPlace Nat.one_pos).finds context opened resolved, firstSound_installedTwice]
  rfl

end OrdinalDispatch.Loader

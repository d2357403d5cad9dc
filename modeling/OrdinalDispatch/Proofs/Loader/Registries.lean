import Mathlib.Algebra.Ring.Nat
import Mathlib.Data.List.Nodup
import Mathlib.Logic.Function.Basic
import OrdinalDispatch.Loader.Scene

/-!
Contract: registries as maps from scopes and names to units.

Owns: order in a registry, the count of its units, and what opening a context,
installing a unit and changing one do to both and to every look-up.

Does not own: when any of that happens, see `OrdinalDispatch.Proofs.Loader.Requests`.

A context is found by its scope and a unit by its name. Every change is made to
the context of one scope, so all other look-ups answer what they did before.
-/

set_option autoImplicit false

namespace OrdinalDispatch.Loader

variable {World : Type}

/-! ## Contexts -/

namespace Context

/-- Units have different names, and they know the context that they live in. -/
structure Tidy (context : Context World) : Prop where
  names : (context.units.map InstalledUnit.name).Nodup
  hosted : ∀ unit ∈ context.units, unit.context = context.id

/-- The context with one unit more. -/
def adding (context : Context World) (unit : InstalledUnit World) : Context World :=
  { context with units := context.units ++ [unit] }

/-- The change of a unit leaves all but its linkages as they were. -/
def KeepsIdentity (update : InstalledUnit World → InstalledUnit World) : Prop :=
  ∀ unit, (update unit).name = unit.name ∧ (update unit).context = unit.context ∧
    (update unit).image = unit.image

theorem keepsIdentity_addLinkage (isLive : ModelId → Bool) (model : ModelId)
    (linkage : Machine.Linkage World) :
    KeepsIdentity fun unit => unit.addLinkage isLive model linkage :=
  fun _ => ⟨rfl, rfl, rfl⟩

variable {context : Context World} {name : String} {unit : InstalledUnit World}
  {update : InstalledUnit World → InstalledUnit World}

theorem name_of_find? (found : context.find? name = some unit) : unit.name = name :=
  beq_iff_eq.mp
    (@List.find?_some _ (fun unit : InstalledUnit World => unit.name == name) unit context.units
      found)

theorem mem_of_find? (found : context.find? name = some unit) : unit ∈ context.units :=
  List.mem_of_find?_eq_some found

theorem find?_adding (other : String) (free : context.find? unit.name = none) :
    (context.adding unit).find? other =
      if other = unit.name then some unit else context.find? other := by
  unfold find? adding
  rw [List.find?_append]
  by_cases same : other = unit.name
  · subst same
    rw [if_pos rfl, show context.units.find? (fun candidate => candidate.name == unit.name) = none
      from free]
    simp
  · rw [if_neg same]
    simp [Ne.symm same]

theorem find?_updateUnit (keeps : KeepsIdentity update) (other : String) :
    (context.updateUnit name update).find? other =
      if other = name then (context.find? other).map update else context.find? other := by
  have named : ∀ candidate : InstalledUnit World,
      (if candidate.name == name then update candidate else candidate).name = candidate.name := by
    intro candidate
    split
    · exact (keeps candidate).1
    · rfl
  unfold find? updateUnit
  rw [List.find?_map]
  simp only [Function.comp_def, named]
  cases found : context.units.find? fun candidate => candidate.name == other with
  | none => simp
  | some unit =>
      have isOther : unit.name = other := name_of_find? found
      by_cases same : other = name
      · simp [isOther, same]
      · simp [isOther, same]

theorem Tidy.adding (tidy : context.Tidy) (free : context.find? unit.name = none)
    (hosted : unit.context = context.id) : (context.adding unit).Tidy where
  names := by
    have absent : unit.name ∉ context.units.map InstalledUnit.name := by
      intro present
      obtain ⟨other, member, same⟩ := List.mem_map.mp present
      exact List.find?_eq_none.mp free other member (beq_iff_eq.mpr same)
    show ((context.units ++ [unit]).map InstalledUnit.name).Nodup
    rw [List.map_append]
    exact tidy.names.append (List.nodup_singleton _) (List.disjoint_singleton.mpr absent)
  hosted other member := by
    rcases List.mem_append.mp member with earlier | last
    · exact tidy.hosted other earlier
    · exact List.mem_singleton.mp last ▸ hosted

theorem Tidy.updateUnit (tidy : context.Tidy) (keeps : KeepsIdentity update) (name : String) :
    (context.updateUnit name update).Tidy := by
  have identity : ∀ unit : InstalledUnit World,
      (if unit.name == name then update unit else unit).name = unit.name ∧
        (if unit.name == name then update unit else unit).context = unit.context := by
    intro unit
    split
    · exact ⟨(keeps unit).1, (keeps unit).2.1⟩
    · exact ⟨rfl, rfl⟩
  constructor
  · unfold Context.updateUnit
    rw [List.map_map]
    simp only [Function.comp_def, identity]
    exact tidy.names
  · intro unit member
    obtain ⟨before, isBefore, rfl⟩ := List.mem_map.mp member
    rw [(identity before).2]
    exact tidy.hosted before isBefore

end Context

/-! ## Registries -/

namespace Registry

/-- All contexts of a registry. -/
def contexts (registry : Registry World) : List (Context World) :=
  registry.system :: registry.others

/-- The count of units over all contexts. -/
def unitCount (registry : Registry World) : Nat :=
  (registry.contexts.map fun context => context.units.length).sum

/-- No two contexts serve one scope, and each is in order. -/
structure Tidy (registry : Registry World) : Prop where
  scopes : (registry.contexts.map Context.parent).Nodup
  contexts : ∀ context ∈ registry.contexts, context.Tidy

/-- The registry with a context for a scope, new if there was none. -/
def opened (registry : Registry World) (scope : ScopeId) (id : UInt32) : Registry World :=
  match registry.context? scope with
  | some _ => registry
  | none => { registry with others := registry.others ++ [⟨id, scope, []⟩] }

variable {registry : Registry World} {scope : ScopeId} {context : Context World}
  {update : Context World → Context World}

theorem tidy_start (systemScope : ScopeId) (id : UInt32) :
    (start systemScope id : Registry World).Tidy where
  scopes := List.nodup_singleton _
  contexts context member := by
    obtain rfl := List.mem_singleton.mp member
    exact ⟨List.nodup_nil, nofun⟩

theorem context?_eq_find? (registry : Registry World) (scope : ScopeId) :
    registry.context? scope = registry.contexts.find? fun context => context.parent = scope := by
  unfold context? contexts systemScope
  by_cases isSystem : scope = registry.system.parent
  · simp [isSystem]
  · simp [isSystem, Ne.symm isSystem]

theorem parent_of_context? (found : registry.context? scope = some context) :
    context.parent = scope := by
  rw [context?_eq_find?] at found
  simpa using List.find?_some found

theorem mem_of_context? (found : registry.context? scope = some context) :
    context ∈ registry.contexts := by
  rw [context?_eq_find?] at found
  exact List.mem_of_find?_eq_some found

/-- There is no context of a scope just if no context serves the scope. -/
theorem context?_eq_none_iff :
    registry.context? scope = none ↔ scope ∉ registry.contexts.map Context.parent := by
  rw [context?_eq_find?, List.find?_eq_none, List.mem_map]
  constructor
  · rintro none ⟨context, member, serves⟩
    exact none context member (decide_eq_true serves)
  · intro absent context member serves
    exact absent ⟨context, member, of_decide_eq_true serves⟩

/-- Where no two contexts serve one scope, each is found by its scope. -/
theorem context?_of_mem (distinct : (registry.contexts.map Context.parent).Nodup)
    (member : context ∈ registry.contexts) : registry.context? context.parent = some context := by
  cases found : registry.context? context.parent with
  | none => exact absurd (List.mem_map_of_mem member) (context?_eq_none_iff.mp found)
  | some other =>
      rw [List.inj_on_of_nodup_map distinct (mem_of_context? found) member
        (parent_of_context? found)]

/-! ### Opening a context -/

theorem contexts_opened_of_none (missing : registry.context? scope = none) (id : UInt32) :
    (registry.opened scope id).contexts = registry.contexts ++ [⟨id, scope, []⟩] := by
  simp [opened, missing, contexts]

/-- A context that there is stays when one is opened. -/
theorem context?_opened {other : ScopeId} (found : registry.context? other = some context)
    (id : UInt32) : (registry.opened scope id).context? other = some context := by
  cases foundScope : registry.context? scope with
  | some present => rwa [opened, foundScope]
  | none =>
      rw [context?_eq_find?] at found ⊢
      rw [contexts_opened_of_none foundScope, List.find?_append, found]
      rfl

/-- A context that was just opened has no unit, so no look-up sees it. -/
theorem bind_find?_opened (registry : Registry World) (scope other : ScopeId) (id : UInt32)
    (name : String) :
    ((registry.opened scope id).context? other).bind (·.find? name) =
      (registry.context? other).bind (·.find? name) := by
  cases found : registry.context? scope with
  | some context => rw [opened, found]
  | none =>
      rw [context?_eq_find?, contexts_opened_of_none found, List.find?_append,
        ← context?_eq_find?]
      cases foundOther : registry.context? other with
      | some context => rfl
      | none =>
          by_cases same : scope = other
          · simp [same, Context.find?]
          · simp [same]

theorem unitCount_opened (registry : Registry World) (scope : ScopeId) (id : UInt32) :
    (registry.opened scope id).unitCount = registry.unitCount := by
  cases found : registry.context? scope with
  | some context => rw [opened, found]
  | none =>
      rw [unitCount, contexts_opened_of_none found, List.map_append, List.sum_append]
      rfl

theorem Tidy.opened (tidy : registry.Tidy) (scope : ScopeId) (id : UInt32) :
    (registry.opened scope id).Tidy := by
  cases found : registry.context? scope with
  | some context =>
      rw [Registry.opened, found]
      exact tidy
  | none =>
      have fresh := context?_eq_none_iff.mp found
      constructor
      · rw [contexts_opened_of_none found, List.map_append]
        exact tidy.scopes.append (List.nodup_singleton _) (List.disjoint_singleton.mpr fresh)
      · intro context member
        rw [contexts_opened_of_none found, List.mem_append, List.mem_singleton] at member
        rcases member with earlier | rfl
        · exact tidy.contexts context earlier
        · exact ⟨List.nodup_nil, nofun⟩

/-! ### Changing a context -/

/-- The change of the context of one scope, on all of them. -/
def changing (scope : ScopeId) (update : Context World → Context World)
    (context : Context World) : Context World :=
  if context.parent = scope then update context else context

theorem map_changing_eq_self {contexts : List (Context World)}
    (absent : scope ∉ contexts.map Context.parent) :
    contexts.map (changing scope update) = contexts := by
  refine (List.map_congr_left fun context member => ?_).trans (List.map_id contexts)
  have different : context.parent ≠ scope := fun same => absent (same ▸ List.mem_map_of_mem member)
  exact if_neg different

/-- Where no two contexts serve one scope, the registry changes the one that serves it. -/
theorem contexts_updateContext (distinct : (registry.contexts.map Context.parent).Nodup) :
    (registry.updateContext scope update).contexts =
      registry.contexts.map (changing scope update) := by
  rw [contexts, List.map_cons, List.nodup_cons] at distinct
  unfold updateContext contexts
  by_cases isSystem : scope = registry.systemScope
  · rw [if_pos isSystem, List.map_cons, isSystem]
    exact congrArg₂ List.cons (if_pos rfl).symm (map_changing_eq_self distinct.1).symm
  · rw [if_neg isSystem, List.map_cons]
    exact congrArg₂ List.cons (if_neg (Ne.symm isSystem)).symm rfl

section Changes

variable (distinct : (registry.contexts.map Context.parent).Nodup)
  (keeps : ∀ context, context.parent = scope → (update context).parent = scope)
include distinct keeps

omit distinct in
theorem parent_changing (context : Context World) :
    (changing scope update context).parent = context.parent := by
  unfold changing
  split
  · rename_i here
    exact (keeps context here).trans here.symm
  · rfl

omit distinct in
theorem systemScope_updateContext :
    (registry.updateContext scope update).systemScope = registry.systemScope := by
  unfold updateContext
  split
  · rename_i isSystem
    exact (keeps registry.system isSystem.symm).trans isSystem
  · rfl

theorem context?_updateContext (other : ScopeId) :
    (registry.updateContext scope update).context? other =
      if other = scope then (registry.context? other).map update else registry.context? other := by
  rw [context?_eq_find?, contexts_updateContext distinct, List.find?_map, context?_eq_find?]
  simp only [Function.comp_def, parent_changing keeps]
  cases found : registry.contexts.find? fun context => context.parent = other with
  | none => simp
  | some context =>
      have here : context.parent = other := by simpa using List.find?_some found
      by_cases same : other = scope
      · simp [changing, here, same]
      · simp [changing, here, same]

theorem Tidy.updateContext (tidy : registry.Tidy)
    (orderly : ∀ context, registry.context? scope = some context → (update context).Tidy) :
    (registry.updateContext scope update).Tidy where
  scopes := by
    rw [contexts_updateContext distinct, List.map_map]
    simp only [Function.comp_def, parent_changing keeps]
    exact distinct
  contexts context member := by
    rw [contexts_updateContext distinct] at member
    obtain ⟨before, isBefore, rfl⟩ := List.mem_map.mp member
    unfold changing
    split
    · rename_i here
      obtain rfl := here
      exact orderly before (context?_of_mem distinct isBefore)
    · exact tidy.contexts before isBefore

end Changes

/-- Only the one context of a scope counts differently when it is changed. -/
theorem sum_changing {contexts : List (Context World)}
    (distinct : (contexts.map Context.parent).Nodup) (member : context ∈ contexts)
    (update : Context World → Context World) :
    ((contexts.map (changing context.parent update)).map fun context => context.units.length).sum +
        context.units.length =
      (contexts.map fun context => context.units.length).sum + (update context).units.length := by
  induction contexts with
  | nil => cases member
  | cons first rest inductionHypothesis =>
      rw [List.map_cons, List.nodup_cons] at distinct
      rcases List.mem_cons.mp member with rfl | later
      · rw [List.map_cons, map_changing_eq_self distinct.1, changing, if_pos rfl]
        simp only [List.map_cons, List.sum_cons]
        omega
      · have different : first.parent ≠ context.parent := fun same =>
          distinct.1 (same ▸ List.mem_map_of_mem later)
        have others := inductionHypothesis distinct.2 later
        rw [List.map_cons, changing, if_neg different]
        simp only [List.map_cons, List.sum_cons]
        omega

theorem unitCount_updateContext (distinct : (registry.contexts.map Context.parent).Nodup)
    (found : registry.context? scope = some context)
    (update : Context World → Context World) :
    (registry.updateContext scope update).unitCount + context.units.length =
      registry.unitCount + (update context).units.length := by
  obtain rfl := parent_of_context? found
  rw [unitCount, contexts_updateContext distinct]
  exact sum_changing distinct (mem_of_context? found) update

end Registry

/-! ## Stores -/

namespace Store

/-- The unit at a place. -/
def unitAt (store : Store World) (place : UnitPlace) : Option (InstalledUnit World) :=
  store.unit? place.registry place.scope place.name

variable {store : Store World} {number : Nat} {scope : ScopeId} {context : Context World}
  {unit : InstalledUnit World} {update : Context World → Context World}

section Modified

variable {change : Registry World → Registry World} (inRange : number < store.registries.length)

theorem registry_modify_of_ne {other : Nat} (different : other ≠ number) (next : UInt32) :
    (⟨store.registries.modify number change, next⟩ : Store World).registry other =
      store.registry other := by
  simp [registry, List.getD_eq_getElem?_getD, Ne.symm different]

include inRange

theorem registry_modify (next : UInt32) :
    (⟨store.registries.modify number change, next⟩ : Store World).registry number =
      change (store.registry number) := by
  simp [registry, List.getD_eq_getElem?_getD, inRange]

end Modified

section Changes

variable (inRange : number < store.registries.length)
include inRange

theorem registry_updateContext (scope : ScopeId) (update : Context World → Context World) :
    (store.updateContext number scope update).registry number =
      (store.registry number).updateContext scope update :=
  registry_modify inRange store.nextContext

/-- Resolving a scope opens its context. -/
theorem registry_resolve (scope : ScopeId) :
    (store.resolve number scope).2.1.registry number =
      (store.registry number).opened scope store.nextContext := by
  unfold resolve Registry.opened
  cases (store.registry number).context? scope with
  | some context => rfl
  | none => exact registry_modify inRange _

omit inRange in
theorem registry_resolve_of_ne {other : Nat} (different : other ≠ number) {scope : ScopeId} :
    (store.resolve number scope).2.1.registry other = store.registry other := by
  unfold resolve
  cases (store.registry number).context? scope with
  | some context => rfl
  | none => exact registry_modify_of_ne different _

/-- The context that is resolved is the one in the registry. -/
theorem context?_resolve (scope : ScopeId) :
    ((store.resolve number scope).2.1.registry number).context? scope =
      some (store.resolve number scope).1 := by
  rw [registry_resolve inRange]
  unfold resolve Registry.opened
  cases found : (store.registry number).context? scope with
  | some context => exact found
  | none =>
      have opens := Registry.contexts_opened_of_none found store.nextContext
      rw [Registry.opened, found] at opens
      rw [Registry.context?_eq_find?] at found ⊢
      rw [opens, List.find?_append, found]
      simp

omit inRange in
theorem length_resolve (number : Nat) (scope : ScopeId) :
    (store.resolve number scope).2.1.registries.length = store.registries.length := by
  unfold resolve
  cases (store.registry number).context? scope with
  | some context => rfl
  | none => exact List.length_modify ..

/-- Resolving a scope changes no unit. -/
theorem unitAt_resolve (scope : ScopeId) (place : UnitPlace) :
    (store.resolve number scope).2.1.unitAt place = store.unitAt place := by
  by_cases here : place.registry = number
  · rw [unitAt, unit?, here, registry_resolve inRange]
    rw [Registry.bind_find?_opened, unitAt, unit?, here]
  · rw [unitAt, unit?, registry_resolve_of_ne here, unitAt, unit?]

/-- The context that is resolved has the unit of a name just if the store has it. -/
theorem find?_resolve (scope : ScopeId) (name : String) :
    (store.resolve number scope).1.find? name = store.unitAt ⟨number, scope, name⟩ := by
  rw [← unitAt_resolve inRange scope, unitAt, unit?, context?_resolve inRange, Option.bind_some]

variable (tidy : (store.registry number).Tidy)
  (found : (store.registry number).context? scope = some context)
include tidy found

/-- A change of one context that answers for one name as it should changes one place. -/
theorem unitAt_updateContext
    (keeps : ∀ context, context.parent = scope → (update context).parent = scope) {name : String}
    {unit : InstalledUnit World}
    (answers : ∀ other, (update context).find? other =
      if other = name then some unit else context.find? other) :
    (store.updateContext number scope update).unitAt =
      Function.update store.unitAt ⟨number, scope, name⟩ (some unit) := by
  funext ⟨registry, other, otherName⟩
  by_cases here : registry = number
  · subst here
    rw [unitAt, unit?, registry_updateContext inRange,
      Registry.context?_updateContext tidy.scopes keeps]
    by_cases same : other = scope
    · subst same
      rw [if_pos rfl, found, Option.map_some, Option.bind_some, answers]
      by_cases isName : otherName = name
      · subst isName
        rw [if_pos rfl, Function.update_self]
      · rw [if_neg isName, Function.update_of_ne (by simp [isName]), unitAt, unit?, found,
          Option.bind_some]
    · rw [if_neg same, Function.update_of_ne (by simp [same]), unitAt, unit?]
  · have same : (store.updateContext number scope update).registry registry =
        store.registry registry := registry_modify_of_ne here _
    rw [Function.update_of_ne (by simp [here]), unitAt, unit?, same, unitAt, unit?]

theorem unitAt_install {unit : InstalledUnit World} (free : context.find? unit.name = none) :
    (store.updateContext number scope fun _ => context.adding unit).unitAt =
      Function.update store.unitAt ⟨number, scope, unit.name⟩ (some unit) := by
  apply unitAt_updateContext inRange tidy found
  · exact fun _ _ => (Registry.parent_of_context? found : context.parent = scope)
  · exact fun other => Context.find?_adding other free

theorem unitAt_updateUnit {unit : InstalledUnit World} {name : String}
    {update : InstalledUnit World → InstalledUnit World} (present : context.find? name = some unit)
    (keeps : Context.KeepsIdentity update) :
    (store.updateContext number scope fun context => context.updateUnit name update).unitAt =
      Function.update store.unitAt ⟨number, scope, name⟩ (some (update unit)) := by
  apply unitAt_updateContext inRange tidy found
  · exact fun _ same => same
  · intro other
    rw [Context.find?_updateUnit keeps]
    by_cases same : other = name
    · subst same
      rw [if_pos rfl, if_pos rfl, present, Option.map_some]
    · rw [if_neg same, if_neg same]

end Changes

end Store

end OrdinalDispatch.Loader

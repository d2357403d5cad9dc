import Mathlib.Data.Finset.Dedup
import Mathlib.Data.Finset.Card
import OrdinalDispatch.Proofs.Loader.Requests

/-!
Contract: what a registry and a store hold once certain scopes were asked for
and certain images installed.

Owns: the accounts of a registry, the numbers of contexts, and what creating a
registry, opening a context and installing a unit do to both.

Does not own: which operations happened, see
`OrdinalDispatch.Proofs.Loader.Operations`.
-/

set_option autoImplicit false

namespace OrdinalDispatch.Loader

open OrdinalDispatch.Code

variable {World : Type}

/-! ## Registries -/

namespace Registry

/-- What a registry holds, whose scopes were asked for and in which images were installed under
names. There is one context for each scope that was asked for, and one for the system scope. The
units of a context are just those that were installed, and their images are sound. -/
structure Accounts (systemScope : ScopeId) (asked : List ScopeId)
    (installed : ScopeId → String → Option Image) (registry : Registry World) : Prop where
  system : registry.systemScope = systemScope
  distinct : (registry.contexts.map Context.parent).Nodup
  scopes : ∀ scope,
    scope ∈ registry.contexts.map Context.parent ↔ scope = systemScope ∨ scope ∈ asked
  units : ∀ context ∈ registry.contexts, ∀ name, context.find? name =
    (installed context.parent name).map fun image => ⟨name, context.id, image, []⟩
  known : ∀ scope name image, installed scope name = some image →
    scope ∈ registry.contexts.map Context.parent
  sound : ∀ context ∈ registry.contexts, ∀ unit ∈ context.units, unit.image.fault? = none

variable {registry : Registry World} {systemScope scope : ScopeId} {asked : List ScopeId}
  {installed : ScopeId → String → Option Image} {context : Context World}

/-- A registry as it is created has been asked for nothing. -/
theorem accounts_start (systemScope : ScopeId) (id : UInt32) :
    (start systemScope id : Registry World).Accounts systemScope [] fun _ _ => none where
  system := rfl
  distinct := List.nodup_singleton _
  scopes scope := by simp [start, contexts]
  units context member name := by
    obtain rfl := List.mem_singleton.mp member
    rfl
  known _ _ _ isInstalled := by cases isInstalled
  sound context member := by
    obtain rfl := List.mem_singleton.mp member
    rintro _ ⟨⟩

namespace Accounts

variable (accounts : registry.Accounts systemScope asked installed)
include accounts

/-- The system scope's context is kept apart from the others. -/
theorem nodup_others :
    (registry.others.map Context.parent).Nodup ∧
      systemScope ∉ registry.others.map Context.parent := by
  have distinct := accounts.distinct
  rw [contexts, List.map_cons, List.nodup_cons] at distinct
  exact ⟨distinct.2, accounts.system ▸ distinct.1⟩

/-- There are as many contexts as scopes that were asked for, the system scope always among them. -/
theorem contextCount_eq :
    registry.contextCount = 1 + (asked.toFinset.erase systemScope).card := by
  obtain ⟨distinct, absent⟩ := accounts.nodup_others
  have same : (registry.others.map Context.parent).toFinset = asked.toFinset.erase systemScope := by
    ext scope
    have asks := accounts.scopes scope
    have isSystem : registry.system.parent = systemScope := accounts.system
    rw [contexts, List.map_cons, List.mem_cons, isSystem] at asks
    rw [List.mem_toFinset, Finset.mem_erase, List.mem_toFinset]
    constructor
    · intro member
      have different : scope ≠ systemScope := fun isSystem => absent (isSystem ▸ member)
      exact ⟨different, (asks.mp (.inr member)).resolve_left different⟩
    · rintro ⟨different, member⟩
      exact (asks.mpr (.inr member)).resolve_left different
  rw [← same, List.toFinset_card_of_nodup distinct, List.length_map, contextCount, Nat.add_comm]

/-- A unit that is found is the one that was installed. -/
theorem find?_eq (found : registry.context? scope = some context) (name : String) :
    context.find? name =
      (installed scope name).map fun image => ⟨name, context.id, image, []⟩ := by
  rw [accounts.units context (mem_of_context? found), parent_of_context? found]

/-- Opening a context is asking for its scope. -/
theorem opened (scope : ScopeId) (id : UInt32) :
    (registry.opened scope id).Accounts systemScope (asked ++ [scope]) installed := by
  cases found : registry.context? scope with
  | some context =>
      have present : scope ∈ registry.contexts.map Context.parent :=
        parent_of_context? found ▸ List.mem_map_of_mem (mem_of_context? found)
      rw [Registry.opened, found]
      refine ⟨accounts.system, accounts.distinct, fun other => ?_, accounts.units, accounts.known,
        accounts.sound⟩
      rw [accounts.scopes, List.mem_append, List.mem_singleton, ← or_assoc, iff_self_or]
      rintro rfl
      exact (accounts.scopes other).mp present
  | none =>
      have fresh := context?_eq_none_iff.mp found
      have contexts := contexts_opened_of_none found id
      constructor
      · rw [Registry.opened, found]
        exact accounts.system
      · rw [contexts, List.map_append]
        exact accounts.distinct.append (List.nodup_singleton _)
          (List.disjoint_singleton.mpr fresh)
      · intro other
        rw [contexts, List.map_append, List.mem_append, accounts.scopes, List.mem_append, or_assoc]
        rfl
      · intro context member name
        rw [contexts, List.mem_append, List.mem_singleton] at member
        rcases member with earlier | rfl
        · exact accounts.units context earlier name
        · have none : installed scope name = none := by
            cases isInstalled : installed scope name with
            | none => rfl
            | some image => exact absurd (accounts.known scope name image isInstalled) fresh
          simp [Context.find?, none]
      · intro other name image isInstalled
        rw [contexts, List.map_append]
        exact List.mem_append_left _ (accounts.known other name image isInstalled)
      · intro context member
        rw [contexts, List.mem_append, List.mem_singleton] at member
        rcases member with earlier | rfl
        · exact accounts.sound context earlier
        · rintro _ ⟨⟩

/-- Installing a sound image under a free name is accounted for at its place, and nowhere else. -/
theorem adding (found : registry.context? scope = some context) {name : String} {image : Image}
    (free : context.find? name = none) (passes : image.fault? = none) :
    (registry.updateContext scope fun _ =>
        context.adding ⟨name, context.id, image, []⟩).Accounts systemScope asked
      fun other otherName =>
        if other = scope ∧ otherName = name then some image else installed other otherName := by
  have parent := parent_of_context? found
  have keeps : ∀ other : Context World, other.parent = scope →
      (context.adding ⟨name, context.id, image, []⟩).parent = scope := fun _ _ => parent
  have contexts := @contexts_updateContext _ _ scope
    (fun _ => context.adding ⟨name, context.id, image, []⟩) accounts.distinct
  have parents : (registry.contexts.map (changing scope fun _ =>
      context.adding ⟨name, context.id, image, []⟩)).map Context.parent =
        registry.contexts.map Context.parent := by
    rw [List.map_map]
    exact List.map_congr_left fun other _ => parent_changing keeps other
  -- the one context of the scope is the one that was found
  have isFound : ∀ other ∈ registry.contexts, other.parent = scope → other = context :=
    fun other member here => List.inj_on_of_nodup_map accounts.distinct member
      (mem_of_context? found) (here.trans parent.symm)
  constructor
  · rw [systemScope_updateContext keeps]
    exact accounts.system
  · rw [contexts, parents]
    exact accounts.distinct
  · intro other
    rw [contexts, parents]
    exact accounts.scopes other
  · intro other member otherName
    rw [contexts] at member
    obtain ⟨before, isBefore, rfl⟩ := List.mem_map.mp member
    rw [parent_changing keeps]
    by_cases here : before.parent = scope
    · obtain rfl := isFound before isBefore here
      rw [changing, if_pos here, Context.find?_adding otherName free]
      by_cases isName : otherName = name
      · rw [if_pos isName, if_pos ⟨here, isName⟩, isName]
        rfl
      · rw [if_neg isName, if_neg fun both => isName both.2, accounts.units before isBefore]
        rfl
    · rw [changing, if_neg here, if_neg fun both => here both.1,
        accounts.units before isBefore]
  · intro other otherName otherImage isInstalled
    rw [contexts, parents]
    split at isInstalled
    · rename_i here
      rw [here.1, ← parent]
      exact List.mem_map_of_mem (mem_of_context? found)
    · exact accounts.known other otherName otherImage isInstalled
  · intro other member unit isUnit
    rw [contexts] at member
    obtain ⟨before, isBefore, rfl⟩ := List.mem_map.mp member
    by_cases here : before.parent = scope
    · obtain rfl := isFound before isBefore here
      rw [changing, if_pos here] at isUnit
      rcases List.mem_append.mp isUnit with earlier | last
      · exact accounts.sound before isBefore unit earlier
      · obtain rfl := List.mem_singleton.mp last
        exact passes
    · rw [changing, if_neg here] at isUnit
      exact accounts.sound before isBefore unit isUnit

end Accounts

end Registry

/-! ## Numbers of contexts -/

/-- Changing one item of a list adds to what the items make if it adds to what that item makes. -/
theorem perm_flatMap_modify {Item Made : Type} {makes : Item → List Made} {change : Item → Item}
    {more : List Made} {items : List Item} {place : Nat} {item : Item}
    (isItem : items[place]? = some item) (adds : makes (change item) = makes item ++ more) :
    ((items.modify place change).flatMap makes).Perm (items.flatMap makes ++ more) := by
  induction items generalizing place with
  | nil => cases isItem
  | cons first rest inductionHypothesis =>
      cases place with
      | zero =>
          obtain rfl := Option.some.inj isItem
          rw [List.modify_zero_cons, List.flatMap_cons, List.flatMap_cons, adds, List.append_assoc,
            List.append_assoc]
          exact List.perm_append_comm.append_left _
      | succ place =>
          rw [List.modify_succ_cons, List.flatMap_cons, List.flatMap_cons, List.append_assoc]
          exact (inductionHypothesis isItem).append_left _

namespace Store

/-- The numbers of all contexts of all registries. -/
def ids (store : Store World) : List UInt32 :=
  store.registries.flatMap fun registry => registry.contexts.map Context.id

/-- Contexts are numbered in a row, from some number on. -/
structure Numbered (first : UInt32) (store : Store World) : Prop where
  next : store.nextContext = first + UInt32.ofNat store.ids.length
  ids : store.ids.Perm ((List.range store.ids.length).map fun place => first + UInt32.ofNat place)

variable {store later : Store World} {first : UInt32}

theorem registry_addRegistry {number : Nat} (inRange : number < store.registries.length)
    {systemScope : ScopeId} :
    (store.addRegistry systemScope).registry number = store.registry number := by
  rw [registry, registry, List.getD_eq_getElem?_getD, List.getD_eq_getElem?_getD, addRegistry,
    List.getElem?_append_left inRange]

theorem getElem?_registries {number : Nat} (inRange : number < store.registries.length) :
    store.registries[number]? = some (store.registry number) := by
  rw [registry, List.getD_eq_getElem?_getD, List.getElem?_eq_getElem inRange, Option.getD_some]

namespace Numbered

/-- As many contexts as there are numbers have different numbers. -/
theorem nodup (numbered : store.Numbered first) (few : store.ids.length ≤ 2 ^ 32) :
    store.ids.Nodup := by
  rw [numbered.ids.nodup_iff]
  apply List.nodup_range.map_on
  intro place isPlace other isOther same
  rw [List.mem_range] at isPlace isOther
  have words := congrArg UInt32.toNat ((UInt32.add_right_inj first).mp same)
  rw [UInt32.toNat_ofNat_of_lt' (by show place < 2 ^ 32; omega),
    UInt32.toNat_ofNat_of_lt' (by show other < 2 ^ 32; omega)] at words
  exact words

/-- The next context takes the next number. -/
theorem extended (numbered : store.Numbered first)
    (ids : later.ids.Perm (store.ids ++ [store.nextContext]))
    (next : later.nextContext = store.nextContext + 1) : later.Numbered first := by
  have length : later.ids.length = store.ids.length + 1 := by
    rw [ids.length_eq, List.length_append, List.length_singleton]
  constructor
  · rw [next, length, numbered.next, UInt32.ofNat_add, UInt32.add_assoc]
    rfl
  · rw [length, List.range_succ, List.map_append, List.map_singleton]
    refine ids.trans ?_
    rw [numbered.next]
    exact numbered.ids.append_right _

/-- Numbers do not depend on the order of the contexts. -/
theorem of_perm (numbered : store.Numbered first) (ids : later.ids.Perm store.ids)
    (next : later.nextContext = store.nextContext) : later.Numbered first := by
  constructor
  · rw [next, ids.length_eq, numbered.next]
  · rw [ids.length_eq]
    exact ids.trans numbered.ids

end Numbered

/-! ## Stores -/

/-- What a store holds, whose registries were created for system scopes, in which scopes were asked
for, and images installed at places. -/
structure Accounts (first : UInt32) (systemScopes : List ScopeId) (asked : Nat → List ScopeId)
    (installed : UnitPlace → Option Image) (store : Store World) : Prop where
  length : store.registries.length = systemScopes.length
  registries : ∀ number systemScope, systemScopes[number]? = some systemScope →
    (store.registry number).Accounts systemScope (asked number) fun scope name =>
      installed ⟨number, scope, name⟩
  beyond : ∀ number, systemScopes.length ≤ number →
    asked number = [] ∧ ∀ scope name, installed ⟨number, scope, name⟩ = none
  numbered : store.Numbered first

namespace Accounts

variable {systemScopes : List ScopeId} {asked : Nat → List ScopeId}
  {installed : UnitPlace → Option Image}
  (accounts : store.Accounts first systemScopes asked installed)
include accounts

theorem exists_systemScope {number : Nat} (inRange : number < store.registries.length) :
    ∃ systemScope, systemScopes[number]? = some systemScope :=
  ⟨_, List.getElem?_eq_getElem (accounts.length ▸ inRange)⟩

theorem inRange {number : Nat} {systemScope : ScopeId}
    (created : systemScopes[number]? = some systemScope) : number < store.registries.length := by
  rw [accounts.length]
  exact (List.getElem?_eq_some_iff.mp created).1

/-- Creating a registry adds its system scope. -/
theorem created (systemScope : ScopeId) :
    (store.addRegistry systemScope).Accounts first (systemScopes ++ [systemScope]) asked
      installed where
  length := by
    show (store.registries ++ [_]).length = _
    rw [List.length_append, List.length_append, accounts.length]
    rfl
  registries number scope isCreated := by
    rcases Nat.lt_trichotomy number systemScopes.length with earlier | isLast | beyond
    · rw [List.getElem?_append_left earlier] at isCreated
      rw [registry_addRegistry (accounts.length ▸ earlier)]
      exact accounts.registries number scope isCreated
    · obtain ⟨asks, installs⟩ := accounts.beyond number (Nat.le_of_eq isLast.symm)
      have new : (store.addRegistry systemScope).registry number =
          Registry.start systemScope store.nextContext := by
        rw [registry, List.getD_eq_getElem?_getD, addRegistry, isLast, ← accounts.length,
          List.getElem?_concat_length, Option.getD_some]
      rw [isLast, List.getElem?_concat_length] at isCreated
      rw [new, asks, ← Option.some.inj isCreated]
      simp only [installs]
      exact Registry.accounts_start systemScope store.nextContext
    · rw [List.getElem?_append_right (Nat.le_of_lt beyond), List.getElem?_singleton,
        if_neg (by omega)] at isCreated
      cases isCreated
  beyond number outside := by
    rw [List.length_append] at outside
    exact accounts.beyond number (Nat.le_of_add_right_le outside)
  numbered := accounts.numbered.extended (by
    show List.Perm (List.flatMap _ (store.registries ++ [_])) _
    rw [List.flatMap_append]
    exact .refl _) rfl

/-- Resolving a scope is asking for it. -/
theorem opened {number : Nat} (inRange : number < store.registries.length) (scope : ScopeId) :
    (store.resolve number scope).2.1.Accounts first systemScopes
      (Function.update asked number (asked number ++ [scope])) installed where
  length := (length_resolve number scope).trans accounts.length
  registries other systemScope isCreated := by
    have before := accounts.registries other systemScope isCreated
    by_cases here : other = number
    · subst here
      rw [registry_resolve inRange, Function.update_self]
      exact before.opened scope _
    · rw [registry_resolve_of_ne here, Function.update_of_ne here]
      exact before
  beyond other outside := by
    have different : other ≠ number := by
      rintro rfl
      exact absurd (accounts.length ▸ inRange) (Nat.not_lt.mpr outside)
    rw [Function.update_of_ne different]
    exact accounts.beyond other outside
  numbered := by
    unfold resolve
    cases found : (store.registry number).context? scope with
    | some context => exact accounts.numbered
    | none =>
        refine accounts.numbered.extended ?_ rfl
        apply perm_flatMap_modify (getElem?_registries inRange)
        simp [Registry.contexts]

/-- Installing a sound image under a free name is accounted for at its place. -/
theorem installs {place : UnitPlace} {context : Context World} {image : Image}
    (inRange : place.registry < store.registries.length)
    (found : (store.registry place.registry).context? place.scope = some context)
    (free : context.find? place.name = none) (passes : image.fault? = none) :
    (store.updateContext place.registry place.scope fun _ =>
        context.adding ⟨place.name, context.id, image, []⟩).Accounts first systemScopes asked
      (Function.update installed place (some image)) where
  length := by
    rw [updateContext, List.length_modify]
    exact accounts.length
  registries other systemScope isCreated := by
    have before := accounts.registries other systemScope isCreated
    by_cases here : other = place.registry
    · subst here
      have places : (fun scope name =>
          Function.update installed place (some image) ⟨place.registry, scope, name⟩) =
            fun scope name => if scope = place.scope ∧ name = place.name then some image
              else installed ⟨place.registry, scope, name⟩ := by
        funext scope name
        by_cases here : scope = place.scope ∧ name = place.name
        · obtain ⟨rfl, rfl⟩ := here
          rw [if_pos ⟨rfl, rfl⟩]
          exact Function.update_self ..
        · rw [if_neg here, Function.update_of_ne]
          intro same
          exact here ⟨congrArg UnitPlace.scope same, congrArg UnitPlace.name same⟩
      rw [registry_updateContext inRange, places]
      exact before.adding found free passes
    · have same : (store.updateContext place.registry place.scope fun _ =>
          context.adding ⟨place.name, context.id, image, []⟩).registry other =
            store.registry other := registry_modify_of_ne here _
      rw [same]
      have elsewhere : ∀ scope name, (⟨other, scope, name⟩ : UnitPlace) ≠ place := by
        rintro scope name rfl
        exact here rfl
      simp only [Function.update_of_ne (elsewhere _ _)]
      exact before
  beyond other outside := by
    have elsewhere : ∀ scope name, (⟨other, scope, name⟩ : UnitPlace) ≠ place := by
      rintro scope name rfl
      exact absurd (accounts.length ▸ inRange) (Nat.not_lt.mpr outside)
    simp only [Function.update_of_ne (elsewhere _ _)]
    exact accounts.beyond other outside
  numbered := by
    obtain ⟨systemScope, isCreated⟩ := accounts.exists_systemScope inRange
    have distinct := (accounts.registries _ _ isCreated).distinct
    have keepsId : ∀ other ∈ (store.registry place.registry).contexts,
        (Registry.changing place.scope (fun _ =>
          context.adding ⟨place.name, context.id, image, []⟩) other).id = other.id := by
      intro other member
      unfold Registry.changing
      split
      · rename_i here
        rw [List.inj_on_of_nodup_map distinct member (Registry.mem_of_context? found)
          (here.trans (Registry.parent_of_context? found).symm)]
        rfl
      · rfl
    refine accounts.numbered.of_perm ?_ rfl
    rw [← List.append_nil store.ids]
    apply perm_flatMap_modify (getElem?_registries inRange)
    rw [Registry.contexts_updateContext distinct, List.map_map, List.append_nil]
    exact List.map_congr_left keepsId

end Accounts

/-! ## Contexts stay -/

/-- Every context stays where it is, and has the units that it had and perhaps more. -/
def Extends (store later : Store World) : Prop :=
  ∀ number scope context, number < store.registries.length →
    (store.registry number).context? scope = some context →
      number < later.registries.length ∧
        ∃ more, (later.registry number).context? scope =
          some { context with units := context.units ++ more }

theorem Extends.refl (store : Store World) : store.Extends store :=
  fun _ _ context inRange found =>
    ⟨inRange, [], found.trans (by rw [List.append_nil])⟩

theorem Extends.trans {last : Store World} (front : store.Extends later)
    (back : later.Extends last) : store.Extends last := by
  intro number scope context inRange found
  obtain ⟨inRangeToo, more, foundLater⟩ := front number scope context inRange found
  obtain ⟨inRangeLast, evenMore, foundLast⟩ := back number scope _ inRangeToo foundLater
  exact ⟨inRangeLast, more ++ evenMore, by rw [foundLast, List.append_assoc]⟩

theorem extends_addRegistry (store : Store World) (systemScope : ScopeId) :
    store.Extends (store.addRegistry systemScope) := by
  intro number scope context inRange found
  constructor
  · show number < (store.registries ++ [_]).length
    rw [List.length_append]
    exact Nat.lt_add_right _ inRange
  · refine ⟨[], ?_⟩
    rw [registry_addRegistry inRange, found, List.append_nil]

variable {number : Nat} (inRange : number < store.registries.length)
include inRange

theorem extends_resolve (scope : ScopeId) : store.Extends (store.resolve number scope).2.1 := by
  intro other otherScope context otherInRange found
  refine ⟨(length_resolve number scope).symm ▸ otherInRange, [], ?_⟩
  rw [List.append_nil]
  by_cases here : other = number
  · subst here
    rw [registry_resolve inRange]
    exact Registry.context?_opened found _
  · rw [registry_resolve_of_ne here, found]

theorem extends_adding (distinct : ((store.registry number).contexts.map Context.parent).Nodup)
    {scope : ScopeId} {context : Context World}
    (found : (store.registry number).context? scope = some context)
    (unit : InstalledUnit World) :
    store.Extends (store.updateContext number scope fun _ => context.adding unit) := by
  have parent : context.parent = scope := Registry.parent_of_context? found
  intro other otherScope otherContext otherInRange isThere
  constructor
  · rw [updateContext, List.length_modify]
    exact otherInRange
  · by_cases here : other = number
    · subst here
      have keeps : ∀ before : Context World, before.parent = scope →
          (context.adding unit).parent = scope := fun _ _ => parent
      rw [registry_updateContext inRange, Registry.context?_updateContext distinct keeps]
      by_cases same : otherScope = scope
      · subst same
        obtain rfl := Option.some.inj (isThere.symm.trans found)
        exact ⟨[unit], by rw [if_pos rfl, isThere]; rfl⟩
      · exact ⟨[], by rw [if_neg same, isThere, List.append_nil]⟩
    · have same : (store.updateContext number scope fun _ => context.adding unit).registry other =
          store.registry other := registry_modify_of_ne here _
      exact ⟨[], by rw [same, isThere, List.append_nil]⟩

end Store

end OrdinalDispatch.Loader

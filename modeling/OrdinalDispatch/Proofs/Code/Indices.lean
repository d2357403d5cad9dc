import OrdinalDispatch.Proofs.Code.Acceptance

/-!
Contract: the indices that constants are answered while code is assembled.

Owns: that the pool depends on the requests alone and only grows, the index that
each request is answered at every point of any calls, and what becomes of code
whose pool had no room for a constant.

Does not own: which other faults there are, and in which order they are
reported, see `OrdinalDispatch.Proofs.Code.Acceptance`.

A full pool answers a new constant with an index that looks like any other. It
is told from the others by the fault alone, which no later call takes back.
-/

set_option autoImplicit false

namespace OrdinalDispatch.Code

/-! ## Pools -/

namespace ConstantPool

/-- All room of the pool has gone to other constants. -/
def ClosedTo (pool : ConstantPool) (constant : Constant) : Prop :=
  pool.entries.size = 65536 ∧ constant ∉ pool.entries.toList

section Sound

variable {pool : ConstantPool} {constant : Constant} (sound : pool.Sound)
include sound

/-- A full pool has no index for another constant. -/
theorem intern_of_closed (closed : pool.ClosedTo constant) :
    pool.intern constant = (none, pool) := by
  rcases intern_cases sound constant with ⟨place, present, -, -⟩ | ⟨-, room, -⟩ | ⟨-, -, refused⟩
  · rw [← Array.getElem?_toList] at present
    exact absurd (List.mem_of_getElem? present) closed.2
  · exact absurd closed.1 (Nat.ne_of_lt room)
  · exact refused

theorem exists_index_of_not_closed (isOpen : ¬pool.ClosedTo constant) :
    ∃ index, (pool.intern constant).1 = some index := by
  rcases intern_cases sound constant with ⟨place, -, -, same⟩ | ⟨-, -, added⟩ | ⟨absent, full, -⟩
  · exact ⟨_, congrArg Prod.fst same⟩
  · exact ⟨_, congrArg Prod.fst added⟩
  · exact absurd ⟨full, sound.not_mem absent⟩ isOpen

end Sound

end ConstantPool

namespace Accounts

/-! ## What calls keep -/

/-- The pool depends on the requests alone. -/
theorem pool_ofCalls (calls : List Call) :
    (Assembler.ofCalls calls).pool = .ofList (requests (Call.effects calls)) := by
  induction calls using List.reverseRecOn with
  | nil => rfl
  | append_singleton front call inductionHypothesis =>
      rw [ofCalls_concat, ← Effect.perform_effect, pool_perform, inductionHypothesis, Call.effects,
        Call.effects, List.map_append, List.map_singleton, ofList_requests_concat]

/-- No effect takes a fault back. -/
theorem faults_prefix_perform (effect : Effect) (assembler : Assembler) :
    assembler.faults.toList <+: (effect.perform assembler).faults.toList := by
  cases effect with
  | emission fragment bytesBeforeTaking taken given =>
      simp only [Effect.perform, Assembler.give, faults_take, Assembler.faults_append]
      exact List.prefix_append _ _
  | request constant =>
      rw [Effect.perform, Assembler.intern_eq]
      split
      · exact Array.toList_push ▸ List.prefix_append _ _
      · exact List.prefix_refl _
  | marking label =>
      rw [Effect.perform, Assembler.mark]
      split
      · exact Array.toList_push ▸ List.prefix_append _ _
      · exact List.prefix_refl _
  | definition => exact List.prefix_refl _
  | nothing => exact List.prefix_refl _

theorem faults_ofCalls_append (calls more : List Call) :
    (Assembler.ofCalls calls).faults.toList <+:
      (Assembler.ofCalls (calls ++ more)).faults.toList := by
  induction more using List.reverseRecOn with
  | nil => rw [List.append_nil]
  | append_singleton front call inductionHypothesis =>
      rw [← List.append_assoc, ofCalls_concat, ← Effect.perform_effect]
      exact inductionHypothesis.trans (faults_prefix_perform _ _)

end Accounts

open Accounts

/-- A fault that was noted is reported at the end. -/
theorem Assembler.finish_of_mem_faults {assembler : Assembler} {fault : AssemblyFault}
    (noted : fault ∈ assembler.faults.toList) :
    ∃ faults, assembler.finish = .error faults ∧ fault ∈ faults := by
  have reported : fault ∈ assembler.allFaults := List.mem_append_left _ noted
  refine ⟨assembler.allFaults, ?_, reported⟩
  rw [finish]
  split
  · rename_i none
    rw [none] at reported
    cases reported
  · rfl

/-! ## Requests behind calls -/

/-- The pool of the code that calls make. -/
def poolAfter (calls : List Call) : ConstantPool := (Assembler.ofCalls calls).pool

/-- The index that a request for a constant is answered behind calls. -/
def indexAfter (calls : List Call) (constant : Constant) : UInt16 :=
  ((Assembler.ofCalls calls).intern constant).1

section Requests

variable (calls more : List Call) {constant : Constant}

theorem sound_poolAfter : (poolAfter calls).Sound := by
  rw [poolAfter, pool_ofCalls]
  exact ConstantPool.sound_ofList _

theorem entries_poolAfter_append :
    (poolAfter calls).entries.toList <+: (poolAfter (calls ++ more)).entries.toList := by
  rw [poolAfter, poolAfter, pool_ofCalls, pool_ofCalls, Call.effects, Call.effects,
    List.map_append, requests, requests, List.filterMap_append]
  exact ConstantPool.entries_ofList_append _ _

/-- A request changes the pool, and notes a fault if the pool has no room. -/
theorem ofCalls_intern (constant : Constant) :
    Assembler.ofCalls (calls ++ [.intern constant]) =
      { Assembler.ofCalls calls with
        pool := ((poolAfter calls).intern constant).2
        faults := if ((poolAfter calls).intern constant).1.isNone
          then (Assembler.ofCalls calls).faults.push .poolOverflow
          else (Assembler.ofCalls calls).faults } := by
  rw [ofCalls_concat, Call.perform, Assembler.intern_eq, poolAfter]

theorem poolAfter_intern (constant : Constant) :
    poolAfter (calls ++ [.intern constant]) = ((poolAfter calls).intern constant).2 := by
  rw [poolAfter, ofCalls_intern]

theorem indexAfter_eq (constant : Constant) :
    indexAfter calls constant = ((poolAfter calls).intern constant).1.getD 0 := by
  rw [indexAfter, Assembler.intern_eq, poolAfter]

/-- An entry stays where it is, whatever is called. -/
theorem entry_poolAfter_append {place : Nat}
    (here : (poolAfter calls).entries[place]? = some constant) :
    (poolAfter (calls ++ more)).entries[place]? = some constant := by
  rw [← Array.getElem?_toList] at here ⊢
  obtain ⟨inside, -⟩ := List.getElem?_eq_some_iff.mp here
  obtain ⟨rest, grown⟩ := entries_poolAfter_append calls more
  rw [← grown, List.getElem?_append_left inside, here]

/-- From its request on a constant stands at the index that was answered. -/
theorem entry_of_indexAfter (isOpen : ¬(poolAfter calls).ClosedTo constant) :
    (poolAfter (calls ++ .intern constant :: more)).entries[(indexAfter calls constant).toNat]? =
      some constant := by
  have sound := sound_poolAfter calls
  obtain ⟨index, answered⟩ := ConstantPool.exists_index_of_not_closed sound isOpen
  have stands := ConstantPool.entry_of_intern sound answered
  rw [← poolAfter_intern] at stands
  rw [List.append_cons, indexAfter_eq, answered, Option.getD_some]
  exact entry_poolAfter_append _ more stands

theorem faults_of_not_closed (isOpen : ¬(poolAfter calls).ClosedTo constant) :
    (Assembler.ofCalls (calls ++ [.intern constant])).faults =
      (Assembler.ofCalls calls).faults := by
  obtain ⟨index, answered⟩ :=
    ConstantPool.exists_index_of_not_closed (sound_poolAfter calls) isOpen
  rw [ofCalls_intern, answered]
  rfl

/-- Two requests are answered the same index just if they are for the same constant. -/
theorem indexAfter_eq_iff {other : Constant} (isOpen : ¬(poolAfter calls).ClosedTo constant)
    (isOpenLater : ¬(poolAfter (calls ++ .intern constant :: more)).ClosedTo other) :
    indexAfter calls constant = indexAfter (calls ++ .intern constant :: more) other ↔
      constant = other := by
  have entry := entry_of_indexAfter calls (more ++ [.intern other]) isOpen
  have later := entry_of_indexAfter (calls ++ .intern constant :: more) [] isOpenLater
  rw [List.append_assoc, List.cons_append] at later
  constructor
  · intro same
    rw [same, later] at entry
    exact (Option.some.inj entry).symm
  · rintro rfl
    exact UInt16.toNat_inj.mp ((sound_poolAfter _).place_unique entry later)

/-- A request for a constant that is there already is answered its place and changes nothing. -/
theorem indexAfter_of_present {place : Nat}
    (present : (poolAfter calls).entries[place]? = some constant) :
    (indexAfter calls constant).toNat = place ∧
      Assembler.ofCalls (calls ++ [.intern constant]) = Assembler.ofCalls calls := by
  obtain ⟨small, found⟩ := ConstantPool.intern_of_present (sound_poolAfter calls) present
  constructor
  · rw [indexAfter_eq, found, Option.getD_some, UInt16.toNat_ofNat_of_lt' small]
  · rw [ofCalls_intern, found]
    rfl

/-- A request that finds no room is answered zero and leaves the pool as it is. -/
theorem indexAfter_of_closed (closed : (poolAfter calls).ClosedTo constant) :
    indexAfter calls constant = 0 ∧
      poolAfter (calls ++ [.intern constant]) = poolAfter calls := by
  have refused := ConstantPool.intern_of_closed (sound_poolAfter calls) closed
  constructor
  · rw [indexAfter_eq, refused, Option.getD_none]
  · rw [poolAfter_intern, refused]

/-- Code with a request that found no room is never finished, whatever is called later. -/
theorem finish_of_closed (closed : (poolAfter calls).ClosedTo constant) :
    ∃ faults, (Assembler.ofCalls (calls ++ .intern constant :: more)).finish = .error faults ∧
      .poolOverflow ∈ faults := by
  have refused := ConstantPool.intern_of_closed (sound_poolAfter calls) closed
  have noted : .poolOverflow ∈
      (Assembler.ofCalls (calls ++ [.intern constant])).faults.toList := by
    simp [ofCalls_intern, refused]
  rw [List.append_cons]
  exact Assembler.finish_of_mem_faults ((faults_ofCalls_append _ more).subset noted)

end Requests

/-- Constants keep the indices that they are answered. After any calls the pool has no constant
twice, the places are those of the entries, and no entry ever moves. A request is answered the index
at which its constant stands from then on, one for a constant that is there already its own, so that
two requests are answered the same index just if they are for the same constant. The one exception
is a request for a constant that a pool of 65536 entries lacks: it is answered zero, the pool stays
as it is, and whatever is called later the code is never finished. -/
theorem constants_keep_their_indices (calls : List Call) :
    (poolAfter calls).entries.toList.Nodup ∧
    (∀ (constant : Constant) (place : Nat), (poolAfter calls).places[constant]? = some place ↔
      (poolAfter calls).entries[place]? = some constant) ∧
    (∀ more : List Call,
      (poolAfter calls).entries.toList <+: (poolAfter (calls ++ more)).entries.toList) ∧
    (∀ constant : Constant, ¬(poolAfter calls).ClosedTo constant →
      (Assembler.ofCalls (calls ++ [.intern constant])).faults =
        (Assembler.ofCalls calls).faults ∧
      ∀ more : List Call,
        (poolAfter (calls ++ .intern constant :: more)).entries[
          (indexAfter calls constant).toNat]? = some constant ∧
        ∀ other : Constant, ¬(poolAfter (calls ++ .intern constant :: more)).ClosedTo other →
          (indexAfter calls constant = indexAfter (calls ++ .intern constant :: more) other ↔
            constant = other)) ∧
    (∀ (constant : Constant) (place : Nat), (poolAfter calls).entries[place]? = some constant →
      (indexAfter calls constant).toNat = place ∧
        Assembler.ofCalls (calls ++ [.intern constant]) = Assembler.ofCalls calls) ∧
    ∀ constant : Constant, (poolAfter calls).ClosedTo constant →
      indexAfter calls constant = 0 ∧ poolAfter (calls ++ [.intern constant]) = poolAfter calls ∧
        ∀ more : List Call, ∃ faults,
          (Assembler.ofCalls (calls ++ .intern constant :: more)).finish = .error faults ∧
            .poolOverflow ∈ faults := by
  have sound := sound_poolAfter calls
  refine ⟨sound.nodup, sound.placed, entries_poolAfter_append calls, fun constant isOpen => ?_,
    fun constant place present => indexAfter_of_present calls present, fun constant closed => ?_⟩
  · refine ⟨faults_of_not_closed calls isOpen, fun more => ?_⟩
    exact ⟨entry_of_indexAfter calls more isOpen,
      fun other isOpenLater => indexAfter_eq_iff calls more isOpen isOpenLater⟩
  · obtain ⟨zero, same⟩ := indexAfter_of_closed calls closed
    exact ⟨zero, same, fun more => finish_of_closed calls more closed⟩

/-- As many different constants as a pool has room for. -/
def fillingConstants : List Constant :=
  (List.range 65536).map fun number => .arityTable [UInt16.ofNat number]

/-- Requests that leave no room. -/
def fillingCalls : List Call := fillingConstants.map .intern

theorem nodup_fillingConstants : fillingConstants.Nodup := by
  refine List.nodup_range.map_on fun number inRange other otherInRange same => ?_
  have words : UInt16.ofNat number = UInt16.ofNat other := by simpa using same
  have numbers := congrArg UInt16.toNat words
  rwa [UInt16.toNat_ofNat_of_lt' (List.mem_range.mp inRange),
    UInt16.toNat_ofNat_of_lt' (List.mem_range.mp otherInRange)] at numbers

theorem length_fillingConstants : fillingConstants.length = 65536 := by
  rw [fillingConstants, List.length_map, List.length_range]

theorem entries_poolAfter_fillingCalls :
    (poolAfter fillingCalls).entries.toList = fillingConstants := by
  have requested : requests (Call.effects fillingCalls) = fillingConstants := by
    rw [requests, Call.effects, fillingCalls, List.map_map, List.filterMap_map]
    exact List.filterMap_some
  rw [poolAfter, pool_ofCalls, requested]
  exact ConstantPool.entries_ofList nodup_fillingConstants (Nat.le_of_eq length_fillingConstants)

theorem closedTo_fillingCalls : (poolAfter fillingCalls).ClosedTo (.message "one more") := by
  constructor
  · rw [← Array.length_toList, entries_poolAfter_fillingCalls, length_fillingConstants]
  · rw [entries_poolAfter_fillingCalls]
    simp [fillingConstants]

/-- A full pool refuses one constant more, and has the last of its own at the last index still. -/
theorem constants_keep_their_indices_full :
    (poolAfter fillingCalls).ClosedTo (.message "one more") ∧
      indexAfter fillingCalls (.message "one more") = 0 ∧
      (∃ faults, (Assembler.ofCalls (fillingCalls ++ [.intern (.message "one more")])).finish =
        .error faults ∧ .poolOverflow ∈ faults) ∧
      (indexAfter (fillingCalls ++ [.intern (.message "one more")]) (.arityTable [65535])).toNat =
        65535 := by
  obtain ⟨-, -, -, -, -, refused⟩ := constants_keep_their_indices fillingCalls
  obtain ⟨-, -, -, -, present, -⟩ :=
    constants_keep_their_indices (fillingCalls ++ [.intern (.message "one more")])
  obtain ⟨zero, same, never⟩ := refused _ closedTo_fillingCalls
  refine ⟨closedTo_fillingCalls, zero, never [], (present _ _ ?_).1⟩
  rw [same, ← Array.getElem?_toList, entries_poolAfter_fillingCalls, fillingConstants,
    List.getElem?_map, List.getElem?_range (by decide)]
  rfl

end OrdinalDispatch.Code

import Mathlib.Data.Finset.Card
import OrdinalDispatch.Proofs.Code.Evaluation

/-!
Contract: which of the constants that are interned a pool comes to have.

Owns: that a pool has no constant twice, the constants that a list leaves there
and their order, when the constants of a list fit, and that a pool has all of
them exactly then.

Does not own: which constants there are, and what is reported of a full pool.
-/

set_option autoImplicit false

namespace OrdinalDispatch.Code

namespace ConstantPool

/-- No constant is in a pool twice, since it has one place only. -/
theorem Sound.nodup {pool : ConstantPool} (sound : pool.Sound) : pool.entries.toList.Nodup := by
  rw [List.nodup_iff_getElem?_ne_getElem?]
  intro place other below inside same
  have there := List.getElem?_eq_getElem inside
  rw [there] at same
  rw [Array.getElem?_toList] at same there
  exact Nat.ne_of_lt below (sound.place_unique same there)

/-- A constant without a place is not in the pool. -/
theorem Sound.not_mem {pool : ConstantPool} (sound : pool.Sound) {constant : Constant}
    (absent : pool.places[constant]? = none) : constant ∉ pool.entries.toList := by
  intro member
  obtain ⟨place, present⟩ := List.getElem?_of_mem member
  rw [Array.getElem?_toList, ← sound.placed, absent] at present
  cases present

/-- A pool has the constants that were requested in the order of their first requests, as many of
them as it has room for. -/
theorem toList_entries_ofList (constants : List Constant) :
    (ofList constants).entries.toList = constants.eraseDups.take capacity := by
  induction constants using List.reverseRecOn with
  | nil => rfl
  | append_singleton front last inductionHypothesis =>
      have length : (ofList front).entries.size = min capacity front.eraseDups.length := by
        rw [← Array.length_toList, inductionHypothesis, List.length_take]
      rw [ofList_append, List.eraseDups_append]
      rcases intern_cases (sound_ofList front) last with
        ⟨place, present, -, same⟩ | ⟨absent, room, added⟩ | ⟨-, full, same⟩
      · have known : last ∈ front := by
          rw [← Array.getElem?_toList, inductionHypothesis] at present
          exact List.mem_eraseDups.mp (List.mem_of_mem_take (List.mem_of_getElem? present))
        have nothingNew : [last].removeAll front = [] := by
          simp [List.removeAll, known]
        rw [same, inductionHypothesis, nothingNew, List.eraseDups_nil, List.append_nil]
      · have whole : front.eraseDups.take capacity = front.eraseDups :=
          List.take_of_length_le (by omega)
        have isNew : last ∉ front := by
          have missing := (sound_ofList front).not_mem absent
          rwa [inductionHypothesis, whole, List.mem_eraseDups] at missing
        have oneNew : ([last].removeAll front).eraseDups = [last] := by
          simp [List.removeAll, isNew, List.eraseDups_cons]
        rw [added, Array.toList_push, inductionHypothesis, whole, oneNew, List.take_of_length_le]
        rw [List.length_append, List.length_singleton]
        omega
      · rw [same, inductionHypothesis, List.take_append_of_le_length (by omega)]

/-- No entry moves when more constants are requested. -/
theorem entries_ofList_append (front back : List Constant) :
    (ofList front).entries.toList <+: (ofList (front ++ back)).entries.toList := by
  rw [toList_entries_ofList, toList_entries_ofList, List.eraseDups_append]
  exact (List.prefix_append _ _).take capacity

/-- A pool has an index for each of the constants. -/
def Fits (constants : List Constant) : Prop := constants.toFinset.card ≤ capacity

variable {constants : List Constant} {constant : Constant}

theorem Fits.front (fits : Fits (constants ++ [constant])) : Fits constants := by
  refine Nat.le_trans (Finset.card_le_card ?_) fits
  rw [List.toFinset_append]
  exact Finset.subset_union_left

/-- The pool of a list has no other constants. -/
theorem mem_of_mem_ofList (member : constant ∈ (ofList constants).entries.toList) :
    constant ∈ constants := by
  rw [toList_entries_ofList] at member
  exact List.mem_eraseDups.mp (List.mem_of_mem_take member)

/-- A pool that has all of its constants has as many entries as there are different ones. -/
theorem size_of_complete
    (complete : ∀ constant ∈ constants, constant ∈ (ofList constants).entries.toList) :
    (ofList constants).entries.size = constants.toFinset.card := by
  rw [← Array.length_toList, ← List.toFinset_card_of_nodup (sound_ofList constants).nodup]
  congr 1
  ext constant
  rw [List.mem_toFinset, List.mem_toFinset]
  exact ⟨mem_of_mem_ofList, complete constant⟩

/-- One constant more fits just if it is there already, or a place is left. -/
theorem fits_append_iff
    (complete : ∀ other ∈ constants, other ∈ (ofList constants).entries.toList) :
    Fits (constants ++ [constant]) ↔
      constant ∈ (ofList constants).entries.toList ∨
        (ofList constants).entries.size < capacity := by
  have size := size_of_complete complete
  have small := (sound_ofList constants).small
  rw [Fits, List.toFinset_append, List.toFinset_cons, List.toFinset_nil, insert_empty_eq,
    Finset.union_singleton]
  by_cases present : constant ∈ constants
  · rw [Finset.insert_eq_self.mpr (List.mem_toFinset.mpr present), ← size]
    exact iff_of_true small (.inl (complete constant present))
  · rw [Finset.card_insert_of_notMem (List.mem_toFinset.not.mpr present), ← size]
    constructor
    · exact .inr
    · rintro (member | room)
      · exact absurd (mem_of_mem_ofList member) present
      · exact room

/-- As long as all constants fit, the pool of a list has them all. -/
theorem mem_ofList (fits : Fits constants) :
    ∀ constant ∈ constants, constant ∈ (ofList constants).entries.toList := by
  induction constants using List.reverseRecOn with
  | nil => exact nofun
  | append_singleton front last inductionHypothesis =>
      have complete := inductionHypothesis fits.front
      intro constant member
      rw [ofList_append]
      rw [List.mem_append, List.mem_singleton] at member
      rcases intern_cases (sound_ofList front) last with
        ⟨place, present, -, same⟩ | ⟨-, -, added⟩ | ⟨absent, full, -⟩
      · rw [same]
        rcases member with earlier | rfl
        · exact complete constant earlier
        · rw [← Array.getElem?_toList] at present
          exact List.mem_of_getElem? present
      · rw [added, Array.toList_push, List.mem_append, List.mem_singleton]
        exact member.imp_left (complete constant)
      · -- a full pool that lacks the last one cannot have room for it
        rcases (fits_append_iff complete).mp fits with isThere | room
        · exact absurd isThere ((sound_ofList front).not_mem absent)
        · omega

/-- The pool of a list refuses one constant more just if that does not fit. -/
theorem intern_isNone_iff (fits : Fits constants) :
    ((ofList constants).intern constant).1.isNone = true ↔ ¬Fits (constants ++ [constant]) := by
  rw [fits_append_iff (mem_ofList fits)]
  rcases intern_cases (sound_ofList constants) constant with
    ⟨place, present, -, same⟩ | ⟨-, room, added⟩ | ⟨absent, full, none⟩
  · rw [same]
    rw [← Array.getElem?_toList] at present
    simp [List.mem_of_getElem? present]
  · rw [added]
    simp [room]
  · rw [none]
    simp [(sound_ofList constants).not_mem absent, full]

end ConstantPool

end OrdinalDispatch.Code

import Mathlib.Data.List.TakeWhile
import OrdinalDispatch.Proofs.Code.Capacity

/-!
Contract: which of the requested constants a pool refuses, once it is full.

Owns: that a constant is refused just if all room had gone to others before it
was first requested, however often it is requested.

Does not own: when nothing is refused at all, see
`OrdinalDispatch.Proofs.Code.Capacity`.
-/

set_option autoImplicit false

namespace OrdinalDispatch.Code

namespace ConstantPool

variable {requested : List Constant} {constant : Constant}

/-- All room had gone to other constants before this one was first requested. -/
def Refuses (requested : List Constant) (constant : Constant) : Prop :=
  capacity ≤ (requested.takeWhile (· ≠ constant)).toFinset.card

instance : Decidable (Refuses requested constant) :=
  inferInstanceAs (Decidable (_ ≤ _))

theorem takeWhile_ne_of_notMem (isNew : constant ∉ requested) :
    requested.takeWhile (· ≠ constant) = requested := by
  rw [List.takeWhile_eq_self_iff]
  intro other isOther
  exact decide_eq_true (ne_of_mem_of_not_mem isOther isNew)

/-- The first request for a constant is decided by what stands before it. -/
theorem takeWhile_ne_concat {last : Constant} (known : constant ∈ requested ++ [last]) :
    (requested ++ [last]).takeWhile (· ≠ constant) = requested.takeWhile (· ≠ constant) := by
  by_cases among : constant ∈ requested
  · rw [List.takeWhile_append, if_neg]
    intro whole
    have all := List.takeWhile_eq_self_iff.mp ((List.takeWhile_prefix _).eq_of_length whole)
    exact of_decide_eq_true (all constant among) rfl
  · rw [List.mem_append, List.mem_singleton, or_iff_right among] at known
    rw [List.takeWhile_append, takeWhile_ne_of_notMem among, known]
    simp

theorem refuses_concat_iff {last : Constant} (known : constant ∈ requested ++ [last]) :
    Refuses (requested ++ [last]) constant ↔ Refuses requested constant := by
  rw [Refuses, takeWhile_ne_concat known, Refuses]

/-- A pool has the requested constants that were not refused, and refused none while it had room. -/
structure Admits (requested : List Constant) (pool : ConstantPool) : Prop where
  mem : ∀ constant, constant ∈ pool.entries.toList ↔
    constant ∈ requested ∧ ¬Refuses requested constant
  size : pool.entries.size = min capacity requested.toFinset.card

namespace Admits

variable {pool : ConstantPool} (admits : Admits requested pool)
include admits

theorem not_refuses (room : pool.entries.size < capacity) (constant : Constant) :
    ¬Refuses requested constant := by
  have fewer : (requested.takeWhile (· ≠ constant)).toFinset.card ≤ requested.toFinset.card :=
    Finset.card_le_card fun _ among => List.mem_toFinset.mpr
      ((List.takeWhile_prefix _).subset (List.mem_toFinset.mp among))
  have size := admits.size
  unfold Refuses
  omega

theorem refuses (absent : constant ∉ pool.entries.toList) (full : pool.entries.size = capacity) :
    Refuses requested constant := by
  by_cases known : constant ∈ requested
  · by_contra admitted
    exact absent ((admits.mem constant).mpr ⟨known, admitted⟩)
  · rw [Refuses, takeWhile_ne_of_notMem known]
    have size := admits.size
    omega

/-- A pool may stay as it is if it has the constant or refuses it. -/
theorem keep {last : Constant} (settled : last ∈ requested ∨ Refuses requested last)
    (filled : pool.entries.size = min capacity (requested ++ [last]).toFinset.card) :
    Admits (requested ++ [last]) pool := by
  refine ⟨fun constant => ?_, filled⟩
  rw [admits.mem]
  constructor
  · rintro ⟨known, admitted⟩
    have knownToo := List.mem_append_left [last] known
    exact ⟨knownToo, (refuses_concat_iff knownToo).not.mpr admitted⟩
  · rintro ⟨known, admitted⟩
    rw [refuses_concat_iff known] at admitted
    rw [List.mem_append, List.mem_singleton] at known
    rcases known with known | rfl
    · exact ⟨known, admitted⟩
    · exact ⟨settled.resolve_right admitted, admitted⟩

/-- A pool with room takes a constant that was not requested before. -/
theorem add {last : Constant} (room : pool.entries.size < capacity) (isNew : last ∉ requested)
    {longer : ConstantPool} (added : longer.entries = pool.entries.push last) :
    Admits (requested ++ [last]) longer := by
  constructor
  · intro constant
    rw [added, Array.toList_push, List.mem_append, admits.mem]
    constructor
    · intro member
      have known : constant ∈ requested ++ [last] :=
        List.mem_append.mpr (member.imp_left And.left)
      exact ⟨known, (refuses_concat_iff known).not.mpr (admits.not_refuses room constant)⟩
    · rintro ⟨known, -⟩
      exact (List.mem_append.mp known).imp_left fun known =>
        ⟨known, admits.not_refuses room constant⟩
  · have size := admits.size
    have one : (requested ++ [last]).toFinset.card = requested.toFinset.card + 1 := by
      rw [List.toFinset_append, List.toFinset_cons, List.toFinset_nil, insert_empty_eq,
        Finset.union_singleton, Finset.card_insert_of_notMem (List.mem_toFinset.not.mpr isNew)]
    rw [added, Array.size_push, one]
    omega

end Admits

theorem admits_ofList (requested : List Constant) : Admits requested (ofList requested) := by
  induction requested using List.reverseRecOn with
  | nil => exact ⟨fun _ => iff_of_false nofun fun known => (nomatch known.1), rfl⟩
  | append_singleton front last inductionHypothesis =>
      have sound := sound_ofList front
      have size := inductionHypothesis.size
      rw [ofList_append]
      rcases intern_cases sound last with
        ⟨_, present, -, same⟩ | ⟨absent, room, added⟩ | ⟨absent, full, same⟩
      · rw [← Array.getElem?_toList] at present
        have known := ((inductionHypothesis.mem last).mp (List.mem_of_getElem? present)).1
        have nothingNew : (front ++ [last]).toFinset = front.toFinset := by
          rw [List.toFinset_append, List.toFinset_cons, List.toFinset_nil, insert_empty_eq,
            Finset.union_eq_left, Finset.singleton_subset_iff]
          exact List.mem_toFinset.mpr known
        rw [same]
        exact inductionHypothesis.keep (.inl known) (nothingNew ▸ size)
      · have isNew : last ∉ front := fun known => sound.not_mem absent
          ((inductionHypothesis.mem last).mpr ⟨known, inductionHypothesis.not_refuses room last⟩)
        rw [added]
        exact inductionHypothesis.add room isNew rfl
      · have refused := inductionHypothesis.refuses (sound.not_mem absent) full
        have front_subset : front.toFinset ⊆ (front ++ [last]).toFinset := by simp
        have grows := Finset.card_le_card front_subset
        rw [same]
        exact inductionHypothesis.keep (.inr refused) (by omega)

/-- A pool has no index for a constant just if it refuses it. -/
theorem intern_isNone_iff_refuses :
    ((ofList requested).intern constant).1.isNone = true ↔ Refuses requested constant := by
  have admits := admits_ofList requested
  rcases intern_cases (sound_ofList requested) constant with
    ⟨_, present, -, same⟩ | ⟨-, room, added⟩ | ⟨absent, full, same⟩
  · rw [← Array.getElem?_toList] at present
    rw [same]
    exact iff_of_false nofun ((admits.mem constant).mp (List.mem_of_getElem? present)).2
  · rw [added]
    exact iff_of_false nofun (admits.not_refuses room constant)
  · rw [same]
    exact iff_of_true rfl (admits.refuses ((sound_ofList requested).not_mem absent) full)

end ConstantPool

end OrdinalDispatch.Code

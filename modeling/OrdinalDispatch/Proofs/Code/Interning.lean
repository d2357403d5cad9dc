import OrdinalDispatch.Code.Constant

/-!
Contract: what a constant pool promises while constants are interned.

Owns: the agreement between the entries of a pool and its places, that interning
keeps it, and that no entry ever moves.

Does not own: what the constants are needed for.
-/

set_option autoImplicit false

namespace OrdinalDispatch.Code.ConstantPool

/-- The places are those of the entries, and 16-bit indices name them all. No constant is there
twice, since it has one place only. -/
structure Sound (pool : ConstantPool) : Prop where
  placed : ∀ (constant : Constant) (place : Nat),
    pool.places[constant]? = some place ↔ pool.entries[place]? = some constant
  small : pool.entries.size ≤ capacity

theorem sound_empty : ({} : ConstantPool).Sound where
  placed := by simp
  small := by decide

variable {pool : ConstantPool}

/-- A constant stands at one place only. -/
theorem Sound.place_unique (sound : pool.Sound) {constant : Constant} {place other : Nat}
    (here : pool.entries[place]? = some constant) (there : pool.entries[other]? = some constant) :
    place = other := by
  rw [← sound.placed] at here there
  exact Option.some.inj (here.symm.trans there)

/-- A constant that is there already keeps its place. -/
theorem intern_of_present (sound : pool.Sound) {constant : Constant} {place : Nat}
    (present : pool.entries[place]? = some constant) :
    place < capacity ∧ pool.intern constant = (some (UInt16.ofNat place), pool) := by
  obtain ⟨inside, -⟩ := Array.getElem?_eq_some_iff.mp present
  refine ⟨Nat.lt_of_lt_of_le inside sound.small, ?_⟩
  rw [intern, (sound.placed constant place).mpr present]

/-- Interning finds the constant, or adds it behind all others, or has no room for it. -/
theorem intern_cases (sound : pool.Sound) (constant : Constant) :
    (∃ place, pool.entries[place]? = some constant ∧ place < capacity ∧
      pool.intern constant = (some (UInt16.ofNat place), pool)) ∨
    (pool.places[constant]? = none ∧ pool.entries.size < capacity ∧
      pool.intern constant = (some (UInt16.ofNat pool.entries.size),
        { entries := pool.entries.push constant
          places := pool.places.insert constant pool.entries.size })) ∨
    (pool.places[constant]? = none ∧ pool.entries.size = capacity ∧
      pool.intern constant = (none, pool)) := by
  cases found : pool.places[constant]? with
  | some place =>
      left
      have present := (sound.placed constant place).mp found
      exact ⟨place, present, intern_of_present sound present⟩
  | none =>
      right
      by_cases room : pool.entries.size < capacity
      · left
        refine ⟨rfl, room, ?_⟩
        simp only [intern, found, if_pos room]
      · right
        have full := sound.small
        refine ⟨rfl, by omega, ?_⟩
        simp only [intern, found, if_neg room]

/-- The entry behind all others and its place are known to each other. -/
theorem Sound.push (sound : pool.Sound) {constant : Constant}
    (absent : pool.places[constant]? = none) (room : pool.entries.size < capacity) :
    ConstantPool.Sound
      { entries := pool.entries.push constant
        places := pool.places.insert constant pool.entries.size } where
  placed other place := by
    rw [Std.HashMap.getElem?_insert, Array.getElem?_push]
    by_cases same : constant = other
    · subst same
      have unplaced : pool.entries[place]? ≠ some constant := by
        intro present
        rw [(sound.placed constant place).mpr present] at absent
        cases absent
      by_cases last : place = pool.entries.size
      · simp [last]
      · simp [last, unplaced, Ne.symm last]
    · rw [if_neg (by simpa using same), sound.placed other place]
      by_cases last : place = pool.entries.size
      · simp [last, same]
      · simp [last]
  small := by
    rw [Array.size_push]
    exact room

theorem Sound.intern (sound : pool.Sound) (constant : Constant) :
    (pool.intern constant).2.Sound := by
  rcases intern_cases sound constant with ⟨_, _, _, same⟩ | ⟨absent, room, added⟩ | ⟨_, _, same⟩
  · rw [same]
    exact sound
  · rw [added]
    exact sound.push absent room
  · rw [same]
    exact sound

/-- No entry moves when a constant is interned. -/
theorem entries_intern (sound : pool.Sound) (constant : Constant) :
    pool.entries.toList <+: (pool.intern constant).2.entries.toList := by
  rcases intern_cases sound constant with ⟨_, _, _, same⟩ | ⟨_, _, added⟩ | ⟨_, _, same⟩
  · exact same ▸ List.prefix_refl _
  · rw [added, Array.toList_push]
    exact List.prefix_append _ _
  · exact same ▸ List.prefix_refl _

/-- The index that interning answers is the place of the constant. -/
theorem entry_of_intern (sound : pool.Sound) {constant : Constant} {index : UInt16}
    (answered : (pool.intern constant).1 = some index) :
    (pool.intern constant).2.entries[index.toNat]? = some constant := by
  rcases intern_cases sound constant with ⟨place, present, small, same⟩ | ⟨_, room, added⟩ | ⟨_, _, full⟩
  · rw [same] at answered ⊢
    obtain rfl := Option.some.inj answered
    rwa [UInt16.toNat_ofNat_of_lt' small]
  · rw [added] at answered ⊢
    obtain rfl := Option.some.inj answered
    rw [UInt16.toNat_ofNat_of_lt' room]
    simp
  · rw [full] at answered
    cases answered

end OrdinalDispatch.Code.ConstantPool

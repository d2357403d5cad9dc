import OrdinalDispatch.Loader.UnitName

/-!
Contract: the name of a unit tells its type's name and its class.

Owns: that no two classes, and no two type names, share a unit name.

Does not own: file names, which lose characters.

A type's name may hold the mark itself, and digits behind it. The number of the
class is what stands behind the last hash sign all the same, since numerals have
none.
-/

set_option autoImplicit false

namespace OrdinalDispatch.Loader

/-- A list is split in one way only at its first separator. -/
theorem split_unique {Item : Type} {separator : Item} {front other back otherBack : List Item}
    (absent : separator ∉ front) (absentToo : separator ∉ other)
    (same : front ++ separator :: back = other ++ separator :: otherBack) :
    front = other ∧ back = otherBack := by
  induction front generalizing other with
  | nil =>
      cases other with
      | nil => exact ⟨rfl, (List.cons.inj same).2⟩
      | cons first rest => exact absurd ((List.cons.inj same).1 ▸ List.mem_cons_self) absentToo
  | cons first rest inductionHypothesis =>
      cases other with
      | nil => exact absurd ((List.cons.inj same).1 ▸ List.mem_cons_self) absent
      | cons otherFirst otherRest =>
          obtain ⟨rfl, following⟩ := List.cons.inj same
          obtain ⟨rfl, rfl⟩ := inductionHypothesis (absent ∘ List.mem_cons_of_mem first)
            (absentToo ∘ List.mem_cons_of_mem first) following
          exact ⟨rfl, rfl⟩

theorem hash_notMem_toDigits (value : Nat) : '#' ∉ Nat.toDigits 10 value := by
  intro member
  have isDigit := Nat.isDigit_of_mem_toDigits (by decide) (Nat.le_refl 10) member
  exact absurd isDigit (by decide)

theorem toDigits_inj {value other : Nat} (same : Nat.toDigits 10 value = Nat.toDigits 10 other) :
    value = other := by
  have read := congrArg (fun digits => Nat.ofDigitChars 10 digits 0) same
  simpa using read

/-- The characters of a unit's name, from the last one on. -/
theorem reverse_unitName (typeName : String) (classId : ClassId) :
    (unitName typeName classId).toList.reverse =
      (Nat.toDigits 10 classId.number.toNat).reverse ++
        '#' :: ("$FastAccessor".toList.reverse ++ typeName.toList.reverse) := by
  have mark : "$FastAccessor#".toList.reverse = '#' :: "$FastAccessor".toList.reverse := rfl
  have digits : (toString classId.number.toNat).toList = Nat.toDigits 10 classId.number.toNat := by
    rw [Nat.toString_eq_ofList_toDigits, String.toList_ofList]
  rw [unitName, String.toList_append, String.toList_append, digits, List.reverse_append,
    List.reverse_append, mark, List.cons_append]

theorem unitName_inj {typeName otherName : String} {classId other : ClassId}
    (same : unitName typeName classId = unitName otherName other) :
    typeName = otherName ∧ classId = other := by
  have characters := congrArg (fun name => name.toList.reverse) same
  simp only [reverse_unitName] at characters
  have noHash : ∀ value, '#' ∉ (Nat.toDigits 10 value).reverse := fun value member =>
    hash_notMem_toDigits value (List.mem_reverse.mp member)
  obtain ⟨digits, names⟩ := split_unique (noHash _) (noHash _) characters
  constructor
  · exact String.toList_inj.mp (List.reverse_inj.mp (List.append_cancel_left names))
  · have numbers := toDigits_inj (List.reverse_inj.mp digits)
    cases classId
    cases other
    exact congrArg _ (UInt32.toNat_inj.mp numbers)

end OrdinalDispatch.Loader

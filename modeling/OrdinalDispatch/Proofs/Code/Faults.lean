import OrdinalDispatch.Proofs.Code.Grammar

/-!
Contract: everything that is wrong with an image, of which the check reports the
first.

Owns: the list of all faults in the order of the check, and which faults are
there when the code splits into instructions, and when it does not.

Does not own: what images without faults promise, see
`OrdinalDispatch.Proofs.Code.Sweeping`.
-/

set_option autoImplicit false

namespace OrdinalDispatch.Code

/-- Faults of a code that splits into instructions: a constant operand, an entry point or a jump
target is not what it must be. -/
def ImageFault.IsUnresolved : ImageFault → Prop
  | .undecodable _ _ => False
  | .wrongConstant _ _ _ | .constantOutOfRange _ _ | .entryNotInstruction _ _
  | .jumpNotInstruction _ _ => True

/-- Up to a fault, all instructions stand before it. -/
theorem Splits.lt_fault {code : Array UInt8} {offset stop : Nat} {fault : DecodeFault}
    {listed : List (Nat × Instruction UInt32)}
    (splits : Splits code offset listed (some (stop, fault))) :
    offset ≤ stop ∧ ∀ row ∈ listed, row.1 < stop := by
  generalize stopped : some (stop, fault) = ending at splits
  induction splits with
  | ends _ => cases stopped
  | faults _ =>
      cases stopped
      exact ⟨Nat.le_refl _, nofun⟩
  | @decodes offset instruction rest ending decoded following inductionHypothesis =>
      obtain ⟨behind, later⟩ := inductionHypothesis stopped
      have positive := instruction.size_pos
      refine ⟨by omega, fun row member => ?_⟩
      cases member with
      | head =>
          show offset < stop
          omega
      | tail _ isLater => exact later row isLater

namespace Image

variable {image : Image}

/-- What is wrong with the pool operands of an instruction. -/
def instructionFaults (image : Image) (place : Nat × Instruction UInt32) : List ImageFault :=
  place.2.poolOperands.filterMap (image.operandFault? place.1)

/-- Everything that is wrong with an image, in the order of the check. -/
def faults (image : Image) : List ImageFault :=
  let found := sweep image.code
  let places := found.instructions.toList
  let starts := places.map Prod.fst
  places.flatMap image.instructionFaults
    ++ (found.fault.map fun fault => .undecodable fault.2 fault.1).toList
    ++ (EntryPoint.all.filterMap fun entryPoint =>
      if image.entry entryPoint ∈ starts then none
      else some (.entryNotInstruction entryPoint (image.entry entryPoint)))
    ++ places.flatMap fun place =>
      place.2.targets.filterMap fun target =>
        if target.toNat ∈ starts then none
        else some (.jumpNotInstruction place.1 target.toNat)

/-- The check reports the first fault that there is. -/
theorem fault?_eq_head?_faults (image : Image) : image.fault? = image.faults.head? := by
  have contains {offset : Nat} :
      ((sweep image.code).instructions.toList.foldl (fun starts place => starts.insert place.1)
          (∅ : Std.HashSet Nat)).contains offset = true ↔
        offset ∈ (sweep image.code).instructions.toList.map Prod.fst := by
    rw [contains_starts, Std.HashSet.contains_empty]
    simp
  unfold fault? faults
  simp only [contains, List.head?_append, List.head?_flatMap, List.head?_filterMap,
    Option.head?_toList, Option.orElse_eq_orElse, Option.orElse_eq_or, Option.or_assoc]
  congr
  funext place
  exact List.head?_filterMap.symm

theorem isUnresolved_of_mem_instructionFaults {place : Nat × Instruction UInt32}
    {fault : ImageFault} (member : fault ∈ image.instructionFaults place) :
    fault.IsUnresolved := by
  obtain ⟨operand, -, isFault⟩ := List.mem_filterMap.mp member
  unfold operandFault? at isFault
  split at isFault
  · obtain rfl := Option.some.inj isFault
    trivial
  · split at isFault
    · cases isFault
    · obtain rfl := Option.some.inj isFault
      trivial

/-- A fault is about a constant, an entry point or a jump, unless it is where the sweep stops. -/
theorem mem_faults {fault : ImageFault} (member : fault ∈ image.faults) :
    fault.IsUnresolved ∨
      ∃ offset reason, (sweep image.code).fault = some (offset, reason) ∧
        fault = .undecodable reason offset := by
  simp only [faults, List.mem_append, List.mem_flatMap, List.mem_filterMap, Option.mem_toList,
    Option.map_eq_some_iff, Option.ite_none_left_eq_some, Option.some.injEq, or_assoc] at member
  rcases member with ⟨place, -, isOperand⟩ | ⟨⟨offset, reason⟩, stopped, rfl⟩ |
    ⟨entryPoint, -, -, rfl⟩ | ⟨place, -, target, -, -, rfl⟩
  · exact .inl (isUnresolved_of_mem_instructionFaults isOperand)
  · exact .inr ⟨offset, reason, stopped, rfl⟩
  · exact .inl trivial
  · exact .inl trivial

theorem mem_faults_of_stop {offset : Nat} {reason : DecodeFault}
    (stopped : (sweep image.code).fault = some (offset, reason)) :
    .undecodable reason offset ∈ image.faults := by
  simp only [faults, List.mem_append, stopped, Option.map_some, Option.toList_some,
    List.mem_singleton, true_or, or_true]

/-- The sweep reaches the end of the code exactly if all faults are about constants, entry points
and jumps. -/
theorem decodes_iff_unresolved :
    (sweep image.code).fault = none ↔ ∀ fault ∈ image.faults, fault.IsUnresolved := by
  constructor
  · intro decodes fault member
    refine (mem_faults member).resolve_right ?_
    rintro ⟨offset, reason, stopped, -⟩
    rw [decodes] at stopped
    cases stopped
  · intro unresolved
    cases stopped : (sweep image.code).fault with
    | none => rfl
    | some stop => exact (unresolved _ (mem_faults_of_stop stopped)).elim

/-- Where the sweep stops, the check reports just this, or an operand of an instruction before. -/
theorem fault?_of_stop {offset : Nat} {reason : DecodeFault}
    (stopped : (sweep image.code).fault = some (offset, reason)) :
    image.fault? = some (.undecodable reason offset) ∨
      ∃ place ∈ (sweep image.code).instructions.toList, place.1 < offset ∧
        ∃ fault ∈ image.instructionFaults place, image.fault? = some fault := by
  have splits : Splits image.code 0 _ (some (offset, reason)) := stopped ▸ sweep_splits image.code
  have first := fault?_eq_head?_faults image
  unfold faults at first
  simp only [List.append_assoc, stopped, Option.map_some, Option.toList_some] at first
  cases operands : (sweep image.code).instructions.toList.flatMap image.instructionFaults with
  | nil =>
      rw [operands] at first
      exact .inl first
  | cons fault rest =>
      have member : fault ∈
          (sweep image.code).instructions.toList.flatMap image.instructionFaults :=
        operands ▸ List.mem_cons_self
      obtain ⟨place, isPlace, isOperand⟩ := List.mem_flatMap.mp member
      rw [operands] at first
      exact .inr ⟨place, isPlace, splits.lt_fault.2 place isPlace, fault, isOperand, first⟩

end Image

end OrdinalDispatch.Code

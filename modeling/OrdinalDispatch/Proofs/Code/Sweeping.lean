import OrdinalDispatch.Code.Verification
import OrdinalDispatch.Proofs.Code.Placement

/-!
Contract: what an image promises that passes its check.

Owns: the splitting of a code into instructions, the places where instructions
start, and the equivalence of the check with what it checks.

Does not own: what the promises are good for, see
`OrdinalDispatch.Proofs.Machine.VerifiedRuns`.
-/

set_option autoImplicit false

namespace OrdinalDispatch.Code

/-! ## Sweeps -/

/-- From an offset on, the code splits into instructions, up to its end or to a fault. -/
inductive Splits (code : Array UInt8) :
    Nat → List (Nat × Instruction UInt32) → Option (Nat × DecodeFault) → Prop where
  | ends {offset : Nat} (outside : code.size ≤ offset) : Splits code offset [] none
  | faults {offset : Nat} {fault : DecodeFault}
      (undecodable : Instruction.decode code offset = .error fault) :
      Splits code offset [] (some (offset, fault))
  | decodes {offset : Nat} {instruction : Instruction UInt32}
      {rest : List (Nat × Instruction UInt32)} {fault : Option (Nat × DecodeFault)}
      (decoded : Instruction.decode code offset = .ok instruction)
      (following : Splits code (offset + instruction.size) rest fault) :
      Splits code offset ((offset, instruction) :: rest) fault

/-- A sweep goes on behind an instruction that decodes. -/
theorem sweepFrom_of_decode {code : Array UInt8} {offset : Nat} {instruction : Instruction UInt32}
    (decoded : Instruction.decode code offset = .ok instruction)
    (found : Array (Nat × Instruction UInt32)) :
    sweepFrom code offset found =
      sweepFrom code (offset + instruction.size) (found.push (offset, instruction)) := by
  have read := Instruction.decodeFrom_of_decode decoded
  rw [sweepFrom, if_pos (Instruction.lt_size_of_decode decoded)]
  split
  · rename_i undecodable
    rw [read] at undecodable
    cases undecodable
  · rename_i again
    rw [read] at again
    cases again
    rfl

theorem sweepFrom_splits (code : Array UInt8) (offset : Nat)
    (found : Array (Nat × Instruction UInt32)) :
    ∃ rest, (sweepFrom code offset found).instructions.toList = found.toList ++ rest ∧
      Splits code offset rest (sweepFrom code offset found).fault := by
  fun_induction sweepFrom code offset found with
  | case1 offset found inside fault undecodable =>
      exact ⟨[], (List.append_nil _).symm, .faults (Instruction.decode_of_error undecodable)⟩
  | case2 offset found inside instruction next decoded inductionHypothesis =>
      obtain ⟨isDecoded, rfl⟩ := Instruction.decode_of_decodeFrom decoded
      obtain ⟨rest, listed, splits⟩ := inductionHypothesis
      refine ⟨(offset, instruction) :: rest, ?_, .decodes isDecoded splits⟩
      rw [listed, Array.toList_push, List.append_assoc, List.singleton_append]
  | case3 offset found outside =>
      exact ⟨[], (List.append_nil _).symm, .ends (Nat.not_lt.mp outside)⟩

theorem sweep_splits (code : Array UInt8) :
    Splits code 0 (sweep code).instructions.toList (sweep code).fault := by
  obtain ⟨rest, listed, splits⟩ := sweepFrom_splits code 0 #[]
  rw [List.nil_append] at listed
  exact listed ▸ splits

namespace Splits

variable {code : Array UInt8} {offset place : Nat} {instruction : Instruction UInt32}
  {listed : List (Nat × Instruction UInt32)} {fault : Option (Nat × DecodeFault)}

/-- Each instruction of a sweep is what decodes at its place. -/
theorem decode_of_mem (splits : Splits code offset listed fault)
    (member : (place, instruction) ∈ listed) :
    Instruction.decode code place = .ok instruction := by
  induction splits with
  | ends _ => cases member
  | faults _ => cases member
  | decodes decoded _ inductionHypothesis =>
      cases member with
      | head => exact decoded
      | tail _ later => exact inductionHypothesis later

/-- Without a fault there is something at the start, or the start is the end. -/
theorem start (splits : Splits code offset listed none) (inside : offset ≤ code.size) :
    (∃ first, (offset, first) ∈ listed) ∨ offset = code.size := by
  cases splits with
  | ends outside => exact .inr (Nat.le_antisymm inside outside)
  | decodes _ _ => exact .inl ⟨_, List.mem_cons_self⟩

/-- Without a fault, another instruction stands behind each one, or nothing does. -/
theorem next_of_mem (splits : Splits code offset listed none)
    (member : (place, instruction) ∈ listed) :
    (∃ next, (place + instruction.size, next) ∈ listed) ∨
      place + instruction.size = code.size := by
  generalize unfaulted : (none : Option (Nat × DecodeFault)) = ending at splits
  induction splits with
  | ends _ => cases member
  | faults _ => cases member
  | decodes decoded following inductionHypothesis =>
      subst unfaulted
      cases member with
      | head =>
          refine (following.start (Instruction.end_le_of_decode decoded)).imp_left ?_
          exact fun ⟨first, later⟩ => ⟨first, List.mem_cons_of_mem _ later⟩
      | tail _ later =>
          refine (inductionHypothesis later rfl).imp_left ?_
          exact fun ⟨next, later⟩ => ⟨next, List.mem_cons_of_mem _ later⟩

/-- There are no more instructions than bytes. -/
theorem length_le (splits : Splits code offset listed fault) (inside : offset ≤ code.size) :
    offset + listed.length ≤ code.size := by
  induction splits with
  | ends _ => exact inside
  | faults _ => exact inside
  | @decodes offset instruction rest fault decoded _ inductionHypothesis =>
      have positive := instruction.size_pos
      have following := inductionHypothesis (Instruction.end_le_of_decode decoded)
      rw [List.length_cons]
      omega

/-- A sweep finds the instructions that the code splits into. -/
theorem sweepFrom_eq (splits : Splits code offset listed none)
    (found : Array (Nat × Instruction UInt32)) :
    sweepFrom code offset found = ⟨found ++ listed.toArray, none⟩ := by
  generalize unfaulted : (none : Option (Nat × DecodeFault)) = ending at splits
  induction splits generalizing found with
  | ends outside =>
      rw [sweepFrom, if_neg (Nat.not_lt.mpr outside), Array.append_empty, unfaulted]
  | faults _ => cases unfaulted
  | @decodes offset instruction rest fault decoded following inductionHypothesis =>
      rw [sweepFrom_of_decode decoded, inductionHypothesis _ unfaulted, Array.push_eq_append,
        Array.append_assoc]
      simp

end Splits

/-- Instructions with the places where they stand, one behind the other from an offset on. -/
def placed {Target : Type} : Nat → List (Instruction Target) → List (Nat × Instruction Target)
  | _, [] => []
  | offset, instruction :: rest => (offset, instruction) :: placed (offset + instruction.size) rest

section Placed

variable {Target : Type} {offset : Nat} {instructions : List (Instruction Target)}
  {row : Nat × Instruction Target}

theorem placed_append (offset : Nat) (front back : List (Instruction Target)) :
    placed offset (front ++ back) =
      placed offset front ++ placed (offset + (front.map Instruction.size).sum) back := by
  induction front generalizing offset with
  | nil => rfl
  | cons first rest inductionHypothesis =>
      rw [List.cons_append, placed, inductionHypothesis, placed, List.map_cons, List.sum_cons,
        Nat.add_assoc, List.cons_append]

/-- Jump targets take the same room whatever stands for them. -/
theorem placed_map {Other : Type} (replace : Target → Other) (offset : Nat)
    (instructions : List (Instruction Target)) :
    placed offset (instructions.map (Instruction.mapTargets replace)) =
      (placed offset instructions).map fun row => (row.1, row.2.mapTargets replace) := by
  induction instructions generalizing offset with
  | nil => rfl
  | cons first rest inductionHypothesis =>
      rw [List.map_cons, placed, inductionHypothesis, Instruction.size_mapTargets, placed,
        List.map_cons]

theorem map_snd_placed (offset : Nat) (instructions : List (Instruction Target)) :
    (placed offset instructions).map Prod.snd = instructions := by
  induction instructions generalizing offset with
  | nil => rfl
  | cons first rest inductionHypothesis => rw [placed, List.map_cons, inductionHypothesis]

theorem mem_of_mem_placed (member : row ∈ placed offset instructions) : row.2 ∈ instructions :=
  map_snd_placed offset instructions ▸ List.mem_map_of_mem member

theorem end_le_of_mem_placed (member : row ∈ placed offset instructions) :
    row.1 + row.2.size ≤ offset + (instructions.map Instruction.size).sum := by
  induction instructions generalizing offset with
  | nil => cases member
  | cons first rest inductionHypothesis =>
      rw [List.map_cons, List.sum_cons]
      cases member with
      | head =>
          show offset + first.size ≤ _
          omega
      | tail _ later =>
          have ends := inductionHypothesis later
          omega

end Placed

section Encoded

variable {code : Array UInt8} {offset : Nat} {instructions : List (Instruction UInt32)}
  (few : ∀ instruction ∈ instructions, instruction.targets.length ≤ 2 ^ 32)
include few

/-- A code splits into the instructions whose bytes it is. -/
theorem splits_placed (stands : BytesAt code offset (instructions.flatMap Instruction.encode))
    (whole : offset + (instructions.flatMap Instruction.encode).length = code.size) :
    Splits code offset (placed offset instructions) none := by
  induction instructions generalizing offset with
  | nil => exact .ends (Nat.le_of_eq whole.symm)
  | cons first rest inductionHypothesis =>
      rw [List.flatMap_cons, BytesAt.append_iff, Instruction.length_encode] at stands
      rw [List.flatMap_cons, List.length_append, Instruction.length_encode,
        ← Nat.add_assoc] at whole
      have decoded := Instruction.decode_of_bytesAt stands.1 (few first List.mem_cons_self)
      refine .decodes decoded (inductionHypothesis ?_ stands.2 whole)
      intro instruction later
      exact few instruction (List.mem_cons_of_mem first later)

/-- Nothing is lost between encoding instructions and sweeping their code. -/
theorem sweep_encode (isCode : code.toList = instructions.flatMap Instruction.encode) :
    sweep code = ⟨(placed 0 instructions).toArray, none⟩ := by
  have stands : BytesAt code 0 (instructions.flatMap Instruction.encode) := by
    have split := BytesAt.of_split [] code.toList []
    rwa [List.append_nil, List.nil_append, Array.toArray_toList, isCode] at split
  have whole : 0 + (instructions.flatMap Instruction.encode).length = code.size := by
    rw [← isCode, Array.length_toList, Nat.zero_add]
  rw [sweep, (splits_placed few stands whole).sweepFrom_eq #[], Array.empty_append]

end Encoded

/-- A code that is shorter than its offsets can tell is swept into the instructions whose bytes it
is, with the replacements of their targets. -/
theorem sweep_encode_mapTargets {Target : Type} {code : Array UInt8}
    {instructions : List (Instruction Target)} {replace : Target → UInt32}
    (isCode : code.toList =
      instructions.flatMap fun instruction => (instruction.mapTargets replace).encode)
    (short : code.size < 2 ^ 32) :
    sweep code =
      ⟨((placed 0 instructions).map fun row => (row.1, row.2.mapTargets replace)).toArray,
        none⟩ := by
  have few : ∀ instruction ∈ instructions.map (Instruction.mapTargets replace),
      instruction.targets.length ≤ 2 ^ 32 := by
    intro instruction member
    obtain ⟨original, isOriginal, rfl⟩ := List.mem_map.mp member
    obtain ⟨front, back, split⟩ := List.append_of_mem isOriginal
    have length := congrArg List.length isCode
    rw [split, List.flatMap_append, List.flatMap_cons, List.length_append, List.length_append,
      Instruction.length_encode, Array.length_toList] at length
    have inside : (original.mapTargets replace).size ≤ code.size := by omega
    cases replaced : original.mapTargets replace with
    | tableSwitch fallback targets =>
        rw [replaced] at inside
        simp only [Instruction.size, Instruction.targets, List.length_cons] at inside ⊢
        omega
    | _ => simp [Instruction.targets]
  rw [sweep_encode few (isCode.trans (List.flatMap_map ..).symm), placed_map]

/-! ## Checked images -/

theorem EntryPoint.mem_all (entryPoint : EntryPoint) : entryPoint ∈ all := by
  cases entryPoint <;> decide

namespace Image

variable {image : Image}

/-- Whether the sweep of the code finds an instruction at an offset. -/
def IsStart (image : Image) (offset : Nat) : Prop :=
  ∃ instruction, (offset, instruction) ∈ (sweep image.code).instructions.toList

/-- What is checked: the code decodes from its first byte to its last, operands name constants of
their kinds, and entry points and jumps lead to instructions. -/
structure Verified (image : Image) : Prop where
  decodes : (sweep image.code).fault = none
  operands : ∀ place ∈ (sweep image.code).instructions.toList,
    ∀ operand ∈ place.2.poolOperands,
      ∃ constant, image.constant? operand.1 = some constant ∧ operand.2.admits constant
  entries : ∀ entryPoint, image.IsStart (image.entry entryPoint)
  jumps : ∀ place ∈ (sweep image.code).instructions.toList, ∀ target ∈ place.2.targets,
    image.IsStart target.toNat

theorem operandFault?_eq_none_iff {offset : Nat} {operand : UInt16 × ConstantKind} :
    image.operandFault? offset operand = none ↔
      ∃ constant, image.constant? operand.1 = some constant ∧ operand.2.admits constant := by
  unfold operandFault?
  cases image.constant? operand.1 with
  | none => simp
  | some constant => simp

/-- The starts are gathered from the places. -/
theorem contains_starts {places : List (Nat × Instruction UInt32)} {starts : Std.HashSet Nat}
    {offset : Nat} :
    (places.foldl (fun starts place => starts.insert place.1) starts).contains offset = true ↔
      starts.contains offset = true ∨ ∃ instruction, (offset, instruction) ∈ places := by
  induction places generalizing starts with
  | nil => simp
  | cons place rest inductionHypothesis =>
      obtain ⟨start, content⟩ := place
      rw [List.foldl_cons, inductionHypothesis, Std.HashSet.contains_insert, Bool.or_eq_true,
        beq_iff_eq]
      constructor
      · rintro ((rfl | known) | ⟨instruction, later⟩)
        · exact .inr ⟨content, List.mem_cons_self⟩
        · exact .inl known
        · exact .inr ⟨instruction, List.mem_cons_of_mem _ later⟩
      · rintro (known | ⟨instruction, member⟩)
        · exact .inl (.inr known)
        · cases member with
          | head => exact .inl (.inl rfl)
          | tail _ later => exact .inr ⟨instruction, later⟩

/-- The check finds no fault if and only if there is none. -/
theorem fault?_eq_none_iff : image.fault? = none ↔ image.Verified := by
  have isStart : ∀ offset,
      ((sweep image.code).instructions.toList.foldl (fun starts place => starts.insert place.1)
        (∅ : Std.HashSet Nat)).contains offset = true ↔ image.IsStart offset := by
    intro offset
    rw [contains_starts, Std.HashSet.contains_empty]
    simp [IsStart]
  unfold fault?
  simp only [Option.orElse_eq_orElse, Option.orElse_eq_or, Option.or_eq_none_iff,
    Option.map_eq_none_iff, List.findSome?_eq_none_iff, ite_eq_left_iff, reduceCtorEq, imp_false,
    Classical.not_not, instructionFault?, operandFault?_eq_none_iff, isStart]
  constructor
  · rintro ⟨operands, decodes, entries, jumps⟩
    exact ⟨decodes, operands, fun entryPoint => entries entryPoint entryPoint.mem_all, jumps⟩
  · intro verified
    exact ⟨verified.operands, verified.decodes, fun entryPoint _ => verified.entries entryPoint,
      verified.jumps⟩

instance : Decidable image.Verified :=
  decidable_of_iff (image.fault? = none) fault?_eq_none_iff

namespace Verified

variable (verified : image.Verified) {offset : Nat} {instruction : Instruction UInt32}
include verified

/-- The whole code splits into instructions. -/
theorem splits : Splits image.code 0 (sweep image.code).instructions.toList none :=
  verified.decodes ▸ sweep_splits image.code

/-- Behind an instruction another one starts, or the code ends. -/
theorem isStart_next
    (member : (offset, instruction) ∈ (sweep image.code).instructions.toList) :
    image.IsStart (offset + instruction.size) ∨
      offset + instruction.size = image.code.size :=
  verified.splits.next_of_mem member

/-- An operand of an instruction names a constant of the kind that it needs. -/
theorem admits (member : (offset, instruction) ∈ (sweep image.code).instructions.toList)
    {index : UInt16} {kind : ConstantKind} (operand : (index, kind) ∈ instruction.poolOperands) :
    ∃ constant, image.constant? index = some constant ∧ kind.admits constant :=
  verified.operands (offset, instruction) member (index, kind) operand

omit verified in
/-- The check goes through where it goes through for what the sweep finds. Targets are numbers here:
what holds of all numbers in a list can be decided by trying the numbers in the list. -/
theorem of_sweep {places : List (Nat × Instruction UInt32)}
    (swept : sweep image.code = ⟨places.toArray, none⟩)
    (operands : ∀ place ∈ places, ∀ operand ∈ place.2.poolOperands,
      image.operandFault? place.1 operand = none)
    (entries : ∀ entryPoint, image.entry entryPoint ∈ places.map Prod.fst)
    (jumps : ∀ place ∈ places, ∀ target ∈ place.2.targets.map UInt32.toNat,
      target ∈ places.map Prod.fst) : image.Verified := by
  have isStart {offset : Nat} (present : offset ∈ places.map Prod.fst) :
      image.IsStart offset := by
    obtain ⟨⟨start, instruction⟩, member, rfl⟩ := List.mem_map.mp present
    refine ⟨instruction, ?_⟩
    rw [swept]
    exact member
  constructor
  · rw [swept]
  · rw [swept]
    exact fun place member operand isOperand =>
      operandFault?_eq_none_iff.mp (operands place member operand isOperand)
  · exact fun entryPoint => isStart (entries entryPoint)
  · rw [swept]
    exact fun place member target isTarget =>
      isStart (jumps place member _ (List.mem_map_of_mem isTarget))

end Verified

end Image

end OrdinalDispatch.Code

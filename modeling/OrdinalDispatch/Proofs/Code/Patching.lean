import OrdinalDispatch.Code.Assembler
import OrdinalDispatch.Proofs.Code.Placement

/-!
Contract: the bytes that assembly writes, and what patching makes of them.

Owns: the bytes and the jumps that a fragment adds, the relation between code
under assembly and the instructions that were added to it, and the law that
patched code is their encoding.

Does not own: which operations add an instruction, see
`OrdinalDispatch.Proofs.Code.Assembly`.

Jumps are patched one after the other, by position. Each of them finds its own
four bytes as they were left, since no two jumps share a byte.
-/

set_option autoImplicit false

namespace OrdinalDispatch.Code

/-! ## Overwritten bytes -/

/-- Bytes are written over as many others, and what stands around these stays. -/
theorem overwrite_split (front back : List UInt8) {old new : List UInt8}
    (same : new.length = old.length) :
    overwrite (front ++ (old ++ back)).toArray front.length new =
      (front ++ (new ++ back)).toArray := by
  induction new generalizing front old with
  | nil => rw [overwrite, List.eq_nil_of_length_eq_zero same.symm]
  | cons byte rest inductionHypothesis =>
      obtain ⟨first, others, rfl⟩ := List.exists_cons_of_length_eq_add_one same.symm
      have shifted := inductionHypothesis (front ++ [byte]) (Nat.succ.inj same)
      rw [List.length_append, List.length_singleton] at shifted
      simpa [overwrite] using shifted

/-! ## Labels that are still to be placed -/

/-- Jumps whose places are written one behind the other, from an offset on. -/
def jumpsTo : Nat → List Label → List Jump
  | _, [] => []
  | offset, label :: rest => ⟨offset, label⟩ :: jumpsTo (offset + 4) rest

theorem map_target_jumpsTo (offset : Nat) (labels : List Label) :
    (jumpsTo offset labels).map Jump.target = labels := by
  induction labels generalizing offset with
  | nil => rfl
  | cons label rest inductionHypothesis =>
      rw [jumpsTo, List.map_cons, inductionHypothesis]

namespace Instruction

/-- The bytes of an instruction whose labels have no places yet. -/
def unplaced (instruction : Instruction Label) : List UInt8 :=
  (instruction.mapTargets fun _ => 0).encode

theorem length_unplaced (instruction : Instruction Label) :
    instruction.unplaced.length = instruction.size := by
  rw [unplaced, length_encode, size_mapTargets]

theorem encode_tableSwitch (fallback : UInt32) (targets : List UInt32) :
    (Instruction.tableSwitch fallback targets).encode =
      (Opcode.tableSwitch.byte :: wordBytes (UInt32.ofNat targets.length)) ++
        (fallback :: targets).flatMap wordBytes := by
  simp [encode, operandBytes, opcode]

theorem encode_of_plain {instruction : Instruction Label} (plain : instruction.targets = [])
    (place : Label → UInt32) : (instruction.mapTargets place).encode = instruction.unplaced := by
  cases instruction with
  | tableSwitch fallback targets => cases plain
  | _ => rfl

/-- Labels stand at the end of an instruction, behind five bytes that do not depend on them. -/
theorem exists_encode_eq (instruction : Instruction Label) :
    ∃ head, (instruction.targets = [] ∨ head.length = 5) ∧ ∀ place : Label → UInt32,
      (instruction.mapTargets place).encode =
        head ++ instruction.targets.flatMap fun label => wordBytes (place label) := by
  by_cases plain : instruction.targets = []
  · refine ⟨instruction.unplaced, .inl plain, fun place => ?_⟩
    rw [encode_of_plain plain, plain, List.flatMap_nil, List.append_nil]
  · cases instruction with
    | tableSwitch fallback targets =>
        refine ⟨Opcode.tableSwitch.byte :: wordBytes (UInt32.ofNat targets.length), .inr ?_,
          fun place => ?_⟩
        · rw [List.length_cons, length_wordBytes]
        · rw [mapTargets, encode_tableSwitch, List.length_map, ← List.map_cons, List.flatMap_map]
          rfl
    | _ => exact absurd rfl plain

end Instruction

namespace Fragment

/-- The count of bytes of a fragment. -/
def size : Fragment → Nat
  | .instruction content => content.size
  | .foreignCall _ _ => 3

/-- The labels of a fragment in the order in which they are written. -/
def labels : Fragment → List Label
  | .instruction content => content.targets
  | .foreignCall _ _ => []

/-- The bytes of a fragment whose labels have no places yet. -/
def unplaced : Fragment → List UInt8
  | .instruction content => content.unplaced
  | .foreignCall byte method => byte :: Instruction.indexBytes method

theorem length_unplaced (fragment : Fragment) : fragment.unplaced.length = fragment.size := by
  cases fragment with
  | instruction content => exact content.length_unplaced
  | foreignCall byte method => simp [unplaced, size, Instruction.length_indexBytes]

end Fragment

namespace Assembler

section Append

variable (assembler : Assembler)

theorem offset_write (bytes : List UInt8) :
    (assembler.write bytes).offset = assembler.offset + bytes.length := by
  simp [offset, write]

theorem offset_refer (label : Label) :
    (assembler.refer label).offset = assembler.offset + 4 := by
  simp [offset, refer, Instruction.length_wordBytes]

theorem foldl_refer (labels : List Label) :
    labels.foldl refer assembler =
      { assembler with
        code := assembler.code ++ (labels.flatMap fun _ => Instruction.wordBytes 0).toArray
        jumps := assembler.jumps ++ (jumpsTo assembler.offset labels).toArray } := by
  induction labels generalizing assembler with
  | nil => simp [jumpsTo]
  | cons label rest inductionHypothesis =>
      rw [List.foldl_cons, inductionHypothesis, offset_refer, jumpsTo, List.flatMap_cons,
        ← List.append_toArray, ← Array.append_assoc]
      simp [refer]

/-- A fragment adds its bytes, and a jump for each of its labels. -/
theorem append_eq (fragment : Fragment) :
    assembler.append fragment =
      { assembler with
        code := assembler.code ++ fragment.unplaced.toArray
        jumps := assembler.jumps ++ (jumpsTo (assembler.offset + 5) fragment.labels).toArray } := by
  cases fragment with
  | foreignCall byte method => simp [append, write, Fragment.unplaced, Fragment.labels, jumpsTo]
  | instruction content =>
      cases content with
      | tableSwitch fallback targets =>
          have bytes : Fragment.unplaced (.instruction (.tableSwitch fallback targets)) =
              (Opcode.tableSwitch.byte :: Instruction.wordBytes (UInt32.ofNat targets.length)) ++
                (fallback :: targets).flatMap fun _ => Instruction.wordBytes 0 := by
            rw [Fragment.unplaced, Instruction.unplaced, Instruction.mapTargets,
              Instruction.encode_tableSwitch, List.length_map, List.flatMap_cons,
              List.flatMap_map, List.flatMap_cons]
          have position : (assembler.write (Opcode.tableSwitch.byte ::
              Instruction.wordBytes (UInt32.ofNat targets.length))).offset =
                assembler.offset + 5 := by
            rw [offset_write, List.length_cons, Instruction.length_wordBytes]
          rw [bytes, ← List.append_toArray, ← Array.append_assoc, ← position]
          exact foldl_refer _ (fallback :: targets)
      | _ =>
          simp [append, write, Fragment.unplaced, Fragment.labels, Instruction.unplaced,
            Instruction.targets, jumpsTo]

@[simp]
theorem offset_append (fragment : Fragment) :
    (assembler.append fragment).offset = assembler.offset + fragment.size := by
  rw [append_eq, offset, offset, ← Array.length_toList, Array.toList_append,
    List.length_append, Array.length_toList, fragment.length_unplaced]

@[simp]
theorem pool_append (fragment : Fragment) : (assembler.append fragment).pool = assembler.pool := by
  rw [append_eq]

@[simp]
theorem labelCount_append (fragment : Fragment) :
    (assembler.append fragment).labelCount = assembler.labelCount := by
  rw [append_eq]

@[simp]
theorem placeOf?_append (fragment : Fragment) (label : Label) :
    (assembler.append fragment).placeOf? label = assembler.placeOf? label := by
  rw [append_eq]
  rfl

@[simp]
theorem depth_append (fragment : Fragment) :
    (assembler.append fragment).depth = assembler.depth := by
  rw [append_eq]

@[simp]
theorem maxDepth_append (fragment : Fragment) :
    (assembler.append fragment).maxDepth = assembler.maxDepth := by
  rw [append_eq]

@[simp]
theorem faults_append (fragment : Fragment) :
    (assembler.append fragment).faults = assembler.faults := by
  rw [append_eq]

theorem targets_append (fragment : Fragment) :
    (assembler.append fragment).jumps.toList.map Jump.target =
      assembler.jumps.toList.map Jump.target ++ fragment.labels := by
  rw [append_eq, Array.toList_append, List.map_append, map_target_jumpsTo]

end Append

/-! ## Added instructions -/

/-- The jumps of instructions that stand one behind the other, from an offset on. -/
def jumpsFrom : Nat → List (Instruction Label) → List Jump
  | _, [] => []
  | offset, instruction :: rest =>
      jumpsTo (offset + 5) instruction.targets ++ jumpsFrom (offset + instruction.size) rest

theorem jumpsFrom_append (offset : Nat) (front back : List (Instruction Label)) :
    jumpsFrom offset (front ++ back) =
      jumpsFrom offset front ++ jumpsFrom (offset + (front.map Instruction.size).sum) back := by
  induction front generalizing offset with
  | nil => rfl
  | cons instruction rest inductionHypothesis =>
      rw [List.cons_append, jumpsFrom, inductionHypothesis, jumpsFrom, List.map_cons,
        List.sum_cons, List.append_assoc, Nat.add_assoc]

theorem map_target_jumpsFrom (offset : Nat) (instructions : List (Instruction Label)) :
    (jumpsFrom offset instructions).map Jump.target =
      instructions.flatMap Instruction.targets := by
  induction instructions generalizing offset with
  | nil => rfl
  | cons instruction rest inductionHypothesis =>
      rw [jumpsFrom, List.map_append, inductionHypothesis, map_target_jumpsTo, List.flatMap_cons]

/-- Instructions take the same room wherever their labels are placed. -/
theorem length_flatMap_encode (place : Label → UInt32) (instructions : List (Instruction Label)) :
    (instructions.flatMap fun instruction => (instruction.mapTargets place).encode).length =
      (instructions.map Instruction.size).sum := by
  rw [List.length_flatMap]
  refine congrArg List.sum (List.map_congr_left fun instruction _ => ?_)
  rw [Instruction.length_encode, Instruction.size_mapTargets]

/-- Behind the code that was there stand these instructions, with a jump for each of their
labels. -/
structure Adds (before after : Assembler) (instructions : List (Instruction Label)) : Prop where
  code : after.code.toList = before.code.toList ++ instructions.flatMap Instruction.unplaced
  jumps : after.jumps.toList = before.jumps.toList ++ jumpsFrom before.offset instructions

namespace Adds

variable {before middle after : Assembler} {front back instructions : List (Instruction Label)}

theorem of_same (code : after.code = before.code) (jumps : after.jumps = before.jumps) :
    Adds before after [] where
  code := by rw [code, List.flatMap_nil, List.append_nil]
  jumps := by rw [jumps, jumpsFrom, List.append_nil]

theorem refl (assembler : Assembler) : Adds assembler assembler [] := of_same rfl rfl

/-- Instructions take as many bytes as they have. -/
theorem offset (adds : Adds before after instructions) :
    after.offset = before.offset + (instructions.map Instruction.size).sum := by
  rw [Assembler.offset, ← Array.length_toList, adds.code, List.length_append,
    Array.length_toList, Assembler.offset]
  exact congrArg _ (length_flatMap_encode (fun _ => 0) instructions)

theorem trans (first : Adds before middle front) (second : Adds middle after back) :
    Adds before after (front ++ back) where
  code := by rw [second.code, first.code, List.flatMap_append, List.append_assoc]
  jumps := by rw [second.jumps, first.jumps, first.offset, jumpsFrom_append, List.append_assoc]

/-- One instruction, and nothing else that is written. -/
theorem of_append (assembler : Assembler) (instruction : Instruction Label)
    (code : after.code = (assembler.append (.instruction instruction)).code)
    (jumps : after.jumps = (assembler.append (.instruction instruction)).jumps) :
    Adds assembler after [instruction] where
  code := by
    rw [code, append_eq, Array.toList_append, List.flatMap_singleton, Fragment.unplaced]
  jumps := by
    rw [jumps, append_eq, Array.toList_append, jumpsFrom, jumpsFrom, List.append_nil,
      Fragment.labels]

theorem targets (adds : Adds before after instructions) :
    after.jumps.toList.map Jump.target =
      before.jumps.toList.map Jump.target ++ instructions.flatMap Instruction.targets := by
  rw [adds.jumps, List.map_append, map_target_jumpsFrom]

end Adds

/-! ## Patched code -/

/-- The offset that is written for a label. -/
def writtenPlace (assembler : Assembler) (label : Label) : UInt32 :=
  UInt32.ofNat ((assembler.placeOf? label).getD 0)

section Patched

variable {assembler : Assembler}

theorem patch_of_isSome {jump : Jump} (marked : (assembler.placeOf? jump.target).isSome = true)
    (code : Array UInt8) :
    assembler.patch code jump =
      overwrite code jump.position
        (Instruction.wordBytes (assembler.writtenPlace jump.target)) := by
  obtain ⟨place, found⟩ := Option.isSome_iff_exists.mp marked
  rw [patch, writtenPlace, found, Option.getD_some]

/-- Jumps one behind the other are patched where they stand. -/
theorem foldl_patch_jumpsTo {labels : List Label}
    (marked : ∀ label ∈ labels, (assembler.placeOf? label).isSome = true)
    (front back : List UInt8) :
    (jumpsTo front.length labels).foldl assembler.patch
        (front ++ ((labels.flatMap fun _ => Instruction.wordBytes 0) ++ back)).toArray =
      (front ++ ((labels.flatMap fun label =>
        Instruction.wordBytes (assembler.writtenPlace label)) ++ back)).toArray := by
  induction labels generalizing front with
  | nil => rfl
  | cons label rest inductionHypothesis =>
      obtain ⟨here, others⟩ := List.forall_mem_cons.mp marked
      have patched := overwrite_split front
        ((rest.flatMap fun _ => Instruction.wordBytes 0) ++ back)
        ((Instruction.length_wordBytes (assembler.writtenPlace label)).trans
          (Instruction.length_wordBytes 0).symm)
      have behind := inductionHypothesis others
        (front ++ Instruction.wordBytes (assembler.writtenPlace label))
      rw [List.length_append, Instruction.length_wordBytes] at behind
      rw [jumpsTo, List.foldl_cons, patch_of_isSome here, List.flatMap_cons, List.append_assoc,
        patched]
      simpa using behind

/-- Instructions one behind the other are patched to their encodings. -/
theorem foldl_patch_jumpsFrom {instructions : List (Instruction Label)}
    (marked : ∀ label ∈ instructions.flatMap Instruction.targets,
      (assembler.placeOf? label).isSome = true) (front : List UInt8) :
    (jumpsFrom front.length instructions).foldl assembler.patch
        (front ++ instructions.flatMap Instruction.unplaced).toArray =
      (front ++ instructions.flatMap fun instruction =>
        (instruction.mapTargets assembler.writtenPlace).encode).toArray := by
  induction instructions generalizing front with
  | nil => rfl
  | cons instruction rest inductionHypothesis =>
      rw [List.flatMap_cons, List.forall_mem_append] at marked
      obtain ⟨head, room, isEncoding⟩ := instruction.exists_encode_eq
      have behind := inductionHypothesis marked.2
        (front ++ (instruction.mapTargets assembler.writtenPlace).encode)
      rw [List.length_append, Instruction.length_encode, Instruction.size_mapTargets] at behind
      have patched := foldl_patch_jumpsTo marked.1 (front ++ head)
        (rest.flatMap Instruction.unplaced)
      have position : jumpsTo (front ++ head).length instruction.targets =
          jumpsTo (front.length + 5) instruction.targets := by
        rcases room with none | five
        · rw [none, jumpsTo, jumpsTo]
        · rw [List.length_append, five]
      rw [position, List.append_assoc, ← List.append_assoc head, ← isEncoding, List.append_assoc,
        ← List.append_assoc head, ← isEncoding] at patched
      rw [jumpsFrom, List.foldl_append, List.flatMap_cons, Instruction.unplaced, patched,
        List.flatMap_cons, ← List.append_assoc, behind, List.append_assoc]

/-- With no jump to a label that was never marked, every label in the code has a place. -/
theorem isSome_placeOf?_of_target {instructions : List (Instruction Label)}
    (adds : Adds {} assembler instructions) (marked : assembler.neverMarked = []) {label : Label}
    (isTarget : label ∈ instructions.flatMap Instruction.targets) :
    (assembler.placeOf? label).isSome = true := by
  have targets :
      assembler.jumps.toList.map Jump.target = instructions.flatMap Instruction.targets :=
    adds.targets
  have placed := List.filter_eq_nil_iff.mp marked label (targets ▸ isTarget)
  rwa [Bool.not_eq_true, Option.isNone_eq_false_iff] at placed

/-- With every label marked, patched code is the encoding of the instructions that were added. -/
theorem toList_patched {instructions : List (Instruction Label)}
    (adds : Adds {} assembler instructions) (marked : assembler.neverMarked = []) :
    assembler.patched.toList =
      instructions.flatMap fun instruction =>
        (instruction.mapTargets assembler.writtenPlace).encode := by
  have patched := foldl_patch_jumpsFrom (fun _ => isSome_placeOf?_of_target adds marked) []
  have code : assembler.code = (instructions.flatMap Instruction.unplaced).toArray :=
    Array.toList_inj.mp adds.code
  have jumps : assembler.jumps.toList = jumpsFrom 0 instructions := adds.jumps
  rw [Assembler.patched, ← Array.foldl_toList, jumps, code]
  exact congrArg Array.toList patched

end Patched

end Assembler

end OrdinalDispatch.Code

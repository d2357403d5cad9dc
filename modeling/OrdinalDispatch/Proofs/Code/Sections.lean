import OrdinalDispatch.Proofs.Code.Checking
import OrdinalDispatch.Proofs.Code.CodeSize

/-!
Contract: what a sweep finds in the sections of a dispatcher, and in their
branches.

Owns: the instructions between two offsets, the only check of a selector and the
only switch of a section, and the only access to a member in a branch.

Does not own: which operations these parts consist of, see
`OrdinalDispatch.Proofs.Code.Operations`.
-/

set_option autoImplicit false

namespace OrdinalDispatch.Code

/-! ## Instructions between offsets -/

namespace Image

variable (image : Image)

/-- The instructions of the sweep that start from one offset on and before another. -/
def rowsBetween (start stop : Nat) : List (Nat × Instruction UInt32) :=
  (sweep image.code).instructions.toList.filter fun row => start ≤ row.1 && row.1 < stop

/-- Where the section of an entry point ends: at the next entry point, or with the code. -/
def sectionEnd : EntryPoint → Nat
  | .newDefault => image.entry .newInstance
  | .newInstance => image.entry .invoke
  | .invoke => image.entry .getField
  | .getField => image.entry .setField
  | .setField => image.code.size

/-- The instructions of the section that an entry point starts. -/
def sectionRows (entryPoint : EntryPoint) : List (Nat × Instruction UInt32) :=
  image.rowsBetween (image.entry entryPoint) (image.sectionEnd entryPoint)

end Image

/-- Exactly one of the rows has a selected operation, and it is this instruction. -/
def Only (rows : List (Nat × Instruction UInt32)) (select : Opcode → Bool)
    (instruction : Instruction UInt32) : Prop :=
  ∃ place, rows.filter (fun row => select row.2.opcode) = [(place, instruction)]

/-- A branch of a section: the only switch of the section leads to it for an ordinal, and it is all
the instructions from there on up to the first one that is the last. -/
def Image.IsBranch (image : Image) (stretch : List (Nat × Instruction UInt32)) (ordinal : Nat)
    (last : Instruction UInt32) (branch : List (Nat × Instruction UInt32)) : Prop :=
  ∃ fallback targets target finish back,
    Only stretch (· = .tableSwitch) (.tableSwitch fallback targets) ∧
    targets[ordinal]? = some target ∧
    image.rowsBetween target.toNat image.code.size = branch ++ (finish, last) :: back ∧
    (branch ++ [(finish, last)]).head?.map Prod.fst = some target.toNat ∧
    ∀ row ∈ branch, row.2 ≠ last

/-- One row of a selected operation is the only one if there is only one such operation. -/
theorem only_of_countP {rows : List (Nat × Instruction UInt32)} {opcodes : List Opcode}
    {select : Opcode → Bool} {place : Nat} {instruction : Instruction UInt32}
    (same : rows.map (fun row => row.2.opcode) = opcodes) (one : opcodes.countP select = 1)
    (member : (place, instruction) ∈ rows) (selected : select instruction.opcode = true) :
    Only rows select instruction := by
  rw [← same, List.countP_map, List.countP_eq_length_filter] at one
  obtain ⟨only, isOnly⟩ := List.length_eq_one_iff.mp one
  have found : (place, instruction) ∈ [only] := isOnly ▸ List.mem_filter.mpr ⟨member, selected⟩
  obtain rfl := List.mem_singleton.mp found
  exact ⟨place, isOnly⟩

section Placed

variable {Target : Type}

theorem le_of_mem_placed {offset : Nat} {instructions : List (Instruction Target)}
    {row : Nat × Instruction Target} (member : row ∈ placed offset instructions) :
    offset ≤ row.1 := by
  induction instructions generalizing offset with
  | nil => cases member
  | cons first rest inductionHypothesis =>
      cases member with
      | head => exact Nat.le_refl _
      | tail _ later => exact Nat.le_trans (Nat.le_add_right _ _) (inductionHypothesis later)

/-- The instructions in the middle are those that start behind the front and before the back. -/
theorem filter_placed (front middle back : List (Instruction Target)) :
    (placed 0 (front ++ (middle ++ back))).filter (fun row =>
        (front.map Instruction.size).sum ≤ row.1 &&
          row.1 < (front.map Instruction.size).sum + (middle.map Instruction.size).sum) =
      placed (front.map Instruction.size).sum middle := by
  rw [placed_append, placed_append, List.filter_append, List.filter_append, Nat.zero_add]
  have early : ∀ row ∈ placed 0 front, ¬((front.map Instruction.size).sum ≤ row.1) := by
    intro row member
    have ends := end_le_of_mem_placed member
    have positive := row.2.size_pos
    omega
  have inside : ∀ row ∈ placed (front.map Instruction.size).sum middle,
      row.1 < (front.map Instruction.size).sum + (middle.map Instruction.size).sum := by
    intro row member
    have ends := end_le_of_mem_placed member
    have positive := row.2.size_pos
    omega
  rw [List.filter_eq_nil_iff.mpr, List.filter_eq_self.mpr, List.filter_eq_nil_iff.mpr,
    List.append_nil, List.nil_append]
  · intro row member
    have late := le_of_mem_placed member
    simp only [Bool.and_eq_true, decide_eq_true_eq]
    omega
  · intro row member
    simp [le_of_mem_placed member, inside row member]
  · intro row member
    simp [early row member]

end Placed

namespace Instruction

theorem opcode_mapTargets {Target Other : Type} (replace : Target → Other)
    (instruction : Instruction Target) :
    (instruction.mapTargets replace).opcode = instruction.opcode := by
  cases instruction <;> rfl

/-- The instructions that end a branch have no operands. -/
theorem eq_of_isReturn {Target : Type} {instruction last : Instruction Target}
    (same : instruction.opcode = last.opcode) (isReturn : last.opcode.isReturn = true) :
    instruction = last := by
  cases last with
  | returnTop => cases instruction <;> first | rfl | cases same
  | returnNull => cases instruction <;> first | rfl | cases same
  | _ => cases isReturn

end Instruction

namespace Assembler

namespace Makes

variable {final : Assembler} {image : Image} (makes : final.Makes image)
  {before middle after : Assembler} {opcodes : List Opcode}
include makes

/-- The sweep finds the instructions of a part of the code between its ends. -/
theorem rowsBetween_eq {code : List (Instruction Label)} (adds : Adds before after code)
    (onward : Assembles after final) (sound : before.Sound) (soundAfter : after.Sound) :
    image.rowsBetween before.offset after.offset =
      placed before.offset (code.map (Instruction.mapTargets final.writtenPlace)) := by
  obtain ⟨front, standing⟩ := sound.code
  obtain ⟨back, behind⟩ := (onward.extends_of_sound soundAfter).code
  have whole : Adds {} final (front ++ (code ++ back)) := standing.trans (adds.trans behind)
  have start : before.offset = (front.map Instruction.size).sum :=
    standing.offset.trans (Nat.zero_add _)
  rw [Image.rowsBetween, makes.sweep_eq whole, List.toList_toArray, List.filter_map, adds.offset,
    start, placed_map]
  congr 1
  exact filter_placed front code back

/-- Two parts of the code, one behind the other. -/
theorem rowsBetween_append (front : Assembles before middle) (back : Assembles middle after)
    (onward : Assembles after final) (sound : before.Sound) :
    image.rowsBetween before.offset after.offset =
      image.rowsBetween before.offset middle.offset ++
        image.rowsBetween middle.offset after.offset := by
  have soundMiddle := front.sound sound
  have soundAfter := back.sound soundMiddle
  obtain ⟨code, adds⟩ := (front.extends_of_sound sound).code
  obtain ⟨more, behind⟩ := (back.extends_of_sound soundMiddle).code
  have offset : middle.offset = before.offset +
      ((code.map (Instruction.mapTargets final.writtenPlace)).map Instruction.size).sum := by
    rw [adds.offset, List.map_map]
    congr 2
    exact List.map_congr_left fun instruction _ => (Instruction.size_mapTargets _ instruction).symm
  rw [makes.rowsBetween_eq (adds.trans behind) onward sound soundAfter,
    makes.rowsBetween_eq adds (back.trans onward) sound soundMiddle,
    makes.rowsBetween_eq behind onward soundMiddle soundAfter, List.map_append, placed_append,
    offset]

theorem map_opcode_rowsBetween (emits : Emits before after opcodes)
    (onward : Assembles after final) (sound : before.Sound) (soundAfter : after.Sound) :
    (image.rowsBetween before.offset after.offset).map (fun row => row.2.opcode) = opcodes := by
  obtain ⟨code, adds, rfl⟩ := emits
  rw [makes.rowsBetween_eq adds onward sound soundAfter]
  have opcodes (offset : Nat) (code : List (Instruction UInt32)) :
      (placed offset code).map (fun row => row.2.opcode) = code.map Instruction.opcode := by
    rw [← map_snd_placed offset code, List.map_map, map_snd_placed]
    rfl
  rw [opcodes, List.map_map]
  exact List.map_congr_left fun instruction _ => Instruction.opcode_mapTargets _ instruction

/-- An emitted instruction stands between all offsets that it was emitted between. -/
theorem mem_rowsBetween {argumentCount : UInt64} {instruction : Instruction Label}
    (onward : Assembles (middle.emitCall argumentCount instruction) final) (sound : middle.Sound)
    {start stop : Nat} (low : start ≤ middle.offset) (high : middle.offset < stop) :
    (middle.offset, instruction.mapTargets final.writtenPlace) ∈ image.rowsBetween start stop := by
  have emitted := makes.rowsBetween_eq (adds_emitCall middle argumentCount instruction) onward
    sound ((Move.emitCall middle argumentCount instruction).sound sound)
  have found : (middle.offset, instruction.mapTargets final.writtenPlace) ∈
      image.rowsBetween middle.offset (middle.emitCall argumentCount instruction).offset :=
    emitted ▸ List.mem_cons_self
  refine List.mem_filter.mpr ⟨(List.mem_filter.mp found).1, ?_⟩
  simp [low, high]

/-- An instruction stands in the part of the code in which it is emitted. -/
theorem mem_rowsBetween_of_moves {argumentCount : UInt64} {instruction : Instruction Label}
    (front : Assembles before middle)
    (back : Assembles (middle.emitCall argumentCount instruction) after)
    (onward : Assembles after final) (sound : before.Sound) :
    (middle.offset, instruction.mapTargets final.writtenPlace) ∈
      image.rowsBetween before.offset after.offset := by
  have soundMiddle := front.sound sound
  have emitted := (Move.emitCall middle argumentCount instruction).sound soundMiddle
  have grows := (back.extends_of_sound emitted).offset
  have positive := instruction.size_pos
  rw [offset_emitCall] at grows
  exact makes.mem_rowsBetween (back.trans onward) soundMiddle
    (front.extends_of_sound sound).offset (by omega)

/-- The first instruction of a part stands at its start. -/
theorem head?_rowsBetween (emits : Emits before after opcodes) (occupied : opcodes ≠ [])
    (onward : Assembles after final) (sound : before.Sound) (soundAfter : after.Sound) :
    (image.rowsBetween before.offset after.offset).head?.map Prod.fst = some before.offset := by
  obtain ⟨code, adds, isCode⟩ := emits
  rw [makes.rowsBetween_eq adds onward sound soundAfter]
  cases code with
  | nil => exact absurd isCode.symm occupied
  | cons first rest => rfl

end Makes

end Assembler

namespace Dispatcher

open Assembler

/-! ## Accesses -/

/-- Every branch interns the constant of its member, and emits the instruction that names it. -/
def Accessing {Member : Type} (branch : Nat → Member → Emission)
    (constant : Nat → Member → Constant) (access : Member → UInt16 → Instruction Label) : Prop :=
  ∀ ordinal member before after, branch ordinal member before = .ok after →
    ∃ (interning start : Assembler) (argumentCount : UInt64),
      Assembles before interning ∧
      Assembles (interning.intern (constant ordinal member)).2 start ∧
      Assembles (start.emitCall argumentCount
        (access member (interning.intern (constant ordinal member)).1)) after

section Described

variable (description : TypeDescription)

theorem methodBranch_accessing :
    Accessing (methodBranch description) methodConstant
      fun method => .invoke method.callKind := by
  intro ordinal method before after done
  obtain ⟨loaded, arguments, rfl⟩ := methodBranch_ok done
  exact ⟨loaded, _, _,
    (loadTarget_assembles ..).trans (loadArguments_assembling _ _ _ _ arguments), .refl _,
    (answer_assembles ..).trans (emit_assembles ..)⟩

theorem readBranch_accessing :
    Accessing (readBranch description) fieldConstant
      fun field => .getField field.modifiers.isStatic := by
  intro ordinal field before after done
  obtain rfl := readBranch_ok done
  exact ⟨before, _, 0, .refl _, loadOwner_assembles ..,
    (emitBox_assembles ..).trans (emit_assembles ..)⟩

theorem writeBranch_accessing :
    Accessing (writeBranch description) fieldConstant
      fun field => .putField field.modifiers.isStatic := by
  intro ordinal field before after done
  obtain rfl := writeBranch_ok done
  exact ⟨before, _, 0, .refl _,
    (loadOwner_assembles ..).trans ((emit_assembles ..).trans (coerce_assembles ..)),
    emit_assembles ..⟩

end Described

/-! ## Sections -/

theorem boundsDistance_lt (hasArguments : Bool) (branches : List (List Opcode)) :
    boundsDistance hasArguments < sectionSize hasArguments branches := by
  have checks : boundsDistance hasArguments < switchDistance hasArguments := by
    cases hasArguments <;> decide
  rw [sectionSize, fallbackDistance, branchDistance]
  omega

section Sections

variable {Member : Type} {branch : Nat → Member → Emission} {opcodes : Member → List Opcode}

theorem Plain.inBranches (plain : Plain branch opcodes) (members : List Member) :
    ∀ branch ∈ members.map opcodes, ∀ opcode ∈ branch, opcode.inBranch = true := by
  intro branch isBranch
  obtain ⟨member, -, rfl⟩ := List.mem_map.mp isBranch
  exact plain.inBranch member

variable (plain : Plain branch opcodes) {before after final : Assembler}
  (sound : before.Sound) (onward : Assembles after final) {image : Image}
  (makes : final.Makes image)
include plain sound onward makes

section Branches

variable {constant : Nat → Member → Constant} {access : Member → UInt16 → Instruction Label}
  (accessing : Accessing branch constant access) {last : Instruction UInt32}
  (reaches : ∀ member index, Reaches (access member index).opcode last.opcode (opcodes member))
include accessing reaches

/-- From the start of a branch the sweep goes on to the end of the branch, and on the way reaches
its member only. -/
theorem rows_of_branch {ordinal : Nat} {member : Member}
    (done : branch ordinal member before = .ok after) :
    ∃ rows finish back operand,
      image.rowsBetween before.offset image.code.size = rows ++ (finish, last) :: back ∧
      (rows ++ [(finish, last)]).head?.map Prod.fst = some before.offset ∧
      (∀ row ∈ rows, row.2 ≠ last) ∧
      Only rows Opcode.isAccess ((access member operand).mapTargets final.writtenPlace) ∧
      image.constant? operand = some (constant ordinal member) := by
  have moves := plain.assembling _ _ _ _ done
  have soundAfter := moves.sound sound
  obtain ⟨interning, calling, argumentCount, toIntern, toCall, fromCall⟩ :=
    accessing _ _ _ _ done
  have soundIntern := toIntern.sound sound
  have interns := Assembles.single (.intern interning (constant ordinal member))
  have calls := Assembles.single (.emitCall calling argumentCount
    (access member (interning.intern (constant ordinal member)).1))
  have reached := reaches member (interning.intern (constant ordinal member)).1
  obtain ⟨init, split, one, continues⟩ := reached.exists_init
  -- the instructions of the branch are those up to its end, and its end
  have emits := plain.emitting _ _ _ _ done
  have same := makes.map_opcode_rowsBetween emits onward sound soundAfter
  rw [split] at same
  obtain ⟨rows, ends, isBranch, isInit, isEnd⟩ := List.map_eq_append_iff.mp same
  obtain ⟨⟨finish, closing⟩, rfl, isLast⟩ := List.map_eq_singleton_iff.mp isEnd
  obtain rfl : closing = last := Instruction.eq_of_isReturn isLast reached.isReturn
  have whole : image.rowsBetween before.offset image.code.size =
      rows ++ (finish, closing) :: image.rowsBetween after.offset image.code.size := by
    rw [makes.size_code, makes.rowsBetween_append moves onward (.refl final) sound, isBranch,
      List.append_assoc, List.singleton_append]
  have leaves {row : Nat × Instruction UInt32} (member : row ∈ rows) :
      row.2.opcode.isReturn = false :=
    continues _ (isInit ▸ List.mem_map_of_mem member)
  refine ⟨rows, finish, _, _, whole, ?_, ?_, ?_,
    makes.constant?_intern (toCall.trans (calls.trans (fromCall.trans onward))) soundIntern⟩
  · rw [← isBranch]
    exact makes.head?_rowsBetween emits (by simp [split]) onward sound soundAfter
  · rintro row among isEnd
    have goesOn := leaves among
    rw [isEnd, reached.isReturn] at goesOn
    cases goesOn
  · have found := makes.mem_rowsBetween_of_moves (toIntern.trans (interns.trans toCall))
      fromCall onward sound
    have isAccess := reached.isAccess
    rw [← Instruction.opcode_mapTargets final.writtenPlace] at isAccess
    rw [isBranch, List.mem_append, List.mem_singleton] at found
    rcases found with among | isEnd
    · exact only_of_countP isInit one among isAccess
    · rw [(Prod.mk.inj isEnd).2, Opcode.isAccess_of_isReturn reached.isReturn] at isAccess
      cases isAccess

end Branches

variable {members : List Member} {wrongSelectorText : String} {arities : Option (List UInt16)}
  (done : selectorSection members wrongSelectorText arities branch before = .ok after)
include done

theorem opcodes_of_section :
    (image.rowsBetween before.offset after.offset).map (fun row => row.2.opcode) =
      sectionOpcodes arities.isSome (members.map opcodes) :=
  makes.map_opcode_rowsBetween (selectorSection_emits plain.emitting done) onward sound
    ((selectorSection_assembling plain.assembling _ _ done).sound sound)

/-- The only switch of a section leads to a branch for each of its members, in which the member is
all that is reached. -/
theorem isBranch_of_section {constant : Nat → Member → Constant}
    {access : Member → UInt16 → Instruction Label} (accessing : Accessing branch constant access)
    (last : Instruction UInt32)
    (reaches : ∀ member index, Reaches (access member index).opcode last.opcode (opcodes member))
    {ordinal : Nat} {member : Member} (found : members[ordinal]? = some member) :
    ∃ rows operand,
      image.IsBranch (image.rowsBetween before.offset after.offset) ordinal last rows ∧
      Only rows Opcode.isAccess ((access member operand).mapTargets final.writtenPlace) ∧
      image.constant? operand = some (constant ordinal member) := by
  have same := opcodes_of_section plain sound onward makes done
  obtain ⟨fallback, targets, label, start, finish, front, -, isTarget, isBranch, back⟩ :=
    selectorSection_at plain.assembling done sound found
  have toSwitch := (opening_assembles members.length wrongSelectorText arities before).trans
    (labelled_assembles members.length _)
  have marks := Move.mark start label
  have soundStart := front.sound ((emit_assembles ..).sound (toSwitch.sound sound))
  have fromMark := (plain.assembling _ _ _ _ isBranch).trans back
  have occupied : members.map opcodes ≠ [] := by
    rintro none
    rw [List.map_eq_nil_iff.mp none] at found
    cases found
  have switches : Only (image.rowsBetween before.offset after.offset) (· = .tableSwitch)
      ((Instruction.tableSwitch fallback targets).mapTargets final.writtenPlace) :=
    only_of_countP same (countP_tableSwitch (plain.inBranches members) _ occupied)
      (makes.mem_rowsBetween_of_moves toSwitch
        (front.trans ((Assembles.single marks).trans fromMark)) onward sound) rfl
  have leads : (targets.map final.writtenPlace)[ordinal]? = some (final.writtenPlace label) := by
    rw [List.getElem?_map, isTarget, Option.map_some]
  have place := makes.writtenPlace_mark (fromMark.trans onward) soundStart
  obtain ⟨rows, closing, behind, operand, whole, first, leaves, only, names⟩ :=
    rows_of_branch plain (marks.sound soundStart) (back.trans onward) makes accessing reaches
      isBranch
  rw [offset_mark, ← place] at whole first
  exact ⟨rows, operand, ⟨_, _, _, closing, behind, switches, leads, whole, first, leaves⟩, only,
    names⟩

end Sections

/-! ## Built images -/

theorem branchOpcodes_inBranch (description : TypeDescription) (entryPoint : EntryPoint) :
    ∀ opcodes ∈ branchOpcodes description entryPoint, ∀ opcode ∈ opcodes,
      opcode.inBranch = true := by
  cases entryPoint with
  | newDefault => exact nofun
  | newInstance => exact constructorBranch_plain.inBranches _
  | invoke => exact (methodBranch_plain description).inBranches _
  | getField => exact (readBranch_plain description).inBranches _
  | setField => exact (writeBranch_plain description).inBranches _

namespace Stretches

variable {description : TypeDescription} {entryOffsets : EntryOffsets} {final : Assembler}
  (stretches : Stretches description entryOffsets final)

/-- The code up to the end of the section of an entry point. -/
def through : EntryPoint → Assembler
  | .newDefault => defaultConstruction description {}
  | .newInstance => stretches.afterConstructors
  | .invoke => stretches.afterMethods
  | .getField => stretches.afterReads
  | .setField => final

include stretches

theorem through_assembles (entryPoint : EntryPoint) :
    Assembles (stretches.through entryPoint) final := by
  cases entryPoint with
  | newDefault => exact stretches.constructors_assembles
  | newInstance => exact stretches.methods_assembles
  | invoke => exact stretches.reads_assembles
  | getField => exact stretches.writes_assembles
  | setField => exact .refl final

theorem sound_through (entryPoint : EntryPoint) : (stretches.through entryPoint).Sound := by
  cases entryPoint with
  | newDefault => exact sound_default
  | newInstance => exact stretches.sound_afterConstructors
  | invoke => exact stretches.sound_afterMethods
  | getField => exact stretches.sound_afterReads
  | setField => exact stretches.sound_final

/-- What an entry point that takes a selector starts is a section. -/
theorem section_emits {entryPoint : EntryPoint} (selects : entryPoint ≠ .newDefault) :
    Emits (stretches.front entryPoint) (stretches.through entryPoint)
      (sectionOpcodes (hasArguments entryPoint) (branchOpcodes description entryPoint)) := by
  cases entryPoint with
  | newDefault => exact absurd rfl selects
  | newInstance => exact selectorSection_emits constructorBranch_emitting stretches.constructors
  | invoke => exact selectorSection_emits (methodBranch_emitting description) stretches.methods
  | getField => exact selectorSection_emits (readBranch_emitting description) stretches.reads
  | setField => exact selectorSection_emits (writeBranch_emitting description) stretches.writes

theorem offset_through {entryPoint : EntryPoint} (selects : entryPoint ≠ .newDefault) :
    (stretches.through entryPoint).offset = (stretches.front entryPoint).offset +
      sectionSize (hasArguments entryPoint) (branchOpcodes description entryPoint) := by
  obtain ⟨constructors, methods, reads, writes⟩ := stretches.offset_front_sections
  cases entryPoint with
  | newDefault => exact absurd rfl selects
  | newInstance => exact constructors
  | invoke => exact methods
  | getField => exact reads
  | setField => exact writes

end Stretches

namespace Built

variable {description : TypeDescription} {image : Image} (built : Built description image)
include built

theorem entry_eq_front (entryPoint : EntryPoint) :
    image.entry entryPoint = (built.stretches.front entryPoint).offset := by
  cases entryPoint with
  | newDefault => exact built.entry_newDefault
  | newInstance => exact built.entry_newInstance
  | invoke => exact built.entry_invoke
  | getField => exact built.entry_getField
  | setField => exact built.entry_setField

theorem sectionEnd_eq_through (entryPoint : EntryPoint) :
    image.sectionEnd entryPoint = (built.stretches.through entryPoint).offset := by
  cases entryPoint with
  | newDefault => exact built.entry_newInstance
  | newInstance => exact built.entry_invoke
  | invoke => exact built.entry_getField
  | getField => exact built.entry_setField
  | setField => exact built.makes.size_code

theorem sectionRows_eq (entryPoint : EntryPoint) :
    image.sectionRows entryPoint =
      image.rowsBetween (built.stretches.front entryPoint).offset
        (built.stretches.through entryPoint).offset := by
  rw [Image.sectionRows, built.entry_eq_front, built.sectionEnd_eq_through]

/-- A section checks its selector once, against the count of its branches. -/
theorem only_checkBounds {entryPoint : EntryPoint} (selects : entryPoint ≠ .newDefault) :
    ∃ message, Only (image.sectionRows entryPoint) (· = .checkBounds)
      (.checkBounds (UInt32.ofNat (branchOpcodes description entryPoint).length) message) := by
  have same := built.makes.map_opcode_rowsBetween (built.stretches.section_emits selects)
    (built.stretches.through_assembles entryPoint) (built.stretches.sound_front entryPoint)
    (built.stretches.sound_through entryPoint)
  obtain ⟨message, start, soundStart, onward, here⟩ := (built.stretches.hasSection selects).bounds
  have size := built.stretches.offset_through selects
  have within := boundsDistance_lt (hasArguments entryPoint) (branchOpcodes description entryPoint)
  rw [← built.stretches.offset_front] at here
  rw [built.sectionRows_eq]
  refine ⟨message, only_of_countP same
    (countP_checkBounds (branchOpcodes_inBranch description entryPoint) _)
    (built.makes.mem_rowsBetween onward soundStart ?_ ?_) rfl⟩ <;> omega

/-- The branch of a method calls it, in its own way, and reaches nothing else. -/
theorem isBranch_method {ordinal : Nat} {method : MethodDescription}
    (found : description.methods[ordinal]? = some method) :
    ∃ rows operand, image.IsBranch (image.sectionRows .invoke) ordinal .returnTop rows ∧
      Only rows Opcode.isAccess (.invoke method.callKind operand) ∧
      image.constant? operand = some (methodConstant ordinal method) := by
  rw [built.sectionRows_eq]
  exact isBranch_of_section (methodBranch_plain description)
    built.stretches.sound_afterConstructors built.stretches.reads_assembles built.makes
    built.stretches.methods (methodBranch_accessing description) .returnTop
    (fun method _ => methodOpcodes_reaches description method) found

/-- The branch that reads a field gets it, as a static one just if it is, and reaches nothing
else. -/
theorem isBranch_read {ordinal : Nat} {field : FieldDescription}
    (found : description.fields[ordinal]? = some field) :
    ∃ rows operand, image.IsBranch (image.sectionRows .getField) ordinal .returnTop rows ∧
      Only rows Opcode.isAccess (.getField field.modifiers.isStatic operand) ∧
      image.constant? operand = some (fieldConstant ordinal field) := by
  rw [built.sectionRows_eq]
  exact isBranch_of_section (readBranch_plain description) built.stretches.sound_afterMethods
    built.stretches.writes_assembles built.makes built.stretches.reads
    (readBranch_accessing description) .returnTop
    (fun field _ => readOpcodes_reaches description field) found

/-- The branch that writes a field puts it, as a static one just if it is, and reaches nothing
else. -/
theorem isBranch_write {ordinal : Nat} {field : FieldDescription}
    (found : description.fields[ordinal]? = some field) :
    ∃ rows operand, image.IsBranch (image.sectionRows .setField) ordinal .returnNull rows ∧
      Only rows Opcode.isAccess (.putField field.modifiers.isStatic operand) ∧
      image.constant? operand = some (fieldConstant ordinal field) := by
  rw [built.sectionRows_eq]
  exact isBranch_of_section (writeBranch_plain description) built.stretches.sound_afterReads
    (.refl _) built.makes built.stretches.writes (writeBranch_accessing description) .returnNull
    (fun field _ => writeOpcodes_reaches description field) found

end Built

end Dispatcher

end OrdinalDispatch.Code

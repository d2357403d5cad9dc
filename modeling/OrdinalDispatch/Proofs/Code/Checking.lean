import OrdinalDispatch.Proofs.Code.StraightCode
import OrdinalDispatch.Proofs.Code.Sweeping

/-!
Contract: what a dispatcher is assembled to passes the check of images.

Owns: careful moves, which name their operands and jump ahead only, what they
keep of the code laid so far, and that a built image is verified.

Does not own: what the check is good for when the code runs, see
`OrdinalDispatch.Proofs.Machine.VerifiedRuns`.

A label is placed where the next instruction will start. Only the last
instruction of a code could be missing there, and every section ends with one.
-/

set_option autoImplicit false

namespace OrdinalDispatch.Code

namespace Instruction

variable {Target Other : Type}

theorem poolOperands_mapTargets (replace : Target → Other) (instruction : Instruction Target) :
    (instruction.mapTargets replace).poolOperands = instruction.poolOperands := by
  cases instruction <;> rfl

theorem targets_of_continues {instruction : Instruction Target}
    (continues : instruction.continues = true) : instruction.targets = [] := by
  cases instruction with
  | tableSwitch fallback targets => cases continues
  | _ => rfl

end Instruction

namespace Assembler

/-! ## Careful moves -/

/-- A move of careful code: an instruction has the operands it needs, and jumps only to labels that
are still to come; only a label that was defined is marked. -/
inductive CarefulMove : Assembler → Assembler → Prop where
  | emitCall (assembler : Assembler) (argumentCount : UInt64) (instruction : Instruction Label)
      (fits : assembler.Fits argumentCount instruction)
      (ahead : ∀ label ∈ instruction.targets, assembler.placeOf? label = none) :
      CarefulMove assembler (assembler.emitCall argumentCount instruction)
  | intern (assembler : Assembler) (constant : Constant) :
      CarefulMove assembler (assembler.intern constant).2
  | defineLabel (assembler : Assembler) : CarefulMove assembler assembler.defineLabel.2
  | mark (assembler : Assembler) (label : Label) (defined : label.number < assembler.labelCount) :
      CarefulMove assembler (assembler.mark label)

/-- Any number of careful moves. -/
def Careful : Assembler → Assembler → Prop := Relation.ReflTransGen CarefulMove

theorem CarefulMove.move {before after : Assembler} (careful : CarefulMove before after) :
    Move before after := by
  cases careful with
  | emitCall argumentCount instruction => exact .emitCall before argumentCount instruction
  | intern constant => exact .intern before constant
  | defineLabel => exact .defineLabel before
  | mark label => exact .mark before label

theorem StraightMove.careful {before after : Assembler} (straight : StraightMove before after) :
    CarefulMove before after := by
  cases straight with
  | emitCall argumentCount instruction fits continues _ =>
      refine .emitCall before argumentCount instruction fits fun label isTarget => ?_
      rw [Instruction.targets_of_continues continues] at isTarget
      cases isTarget
  | intern constant => exact .intern before constant
  | defineLabel => exact .defineLabel before
  | mark label defined _ => exact .mark before label defined

namespace Careful

variable {before middle after : Assembler}

theorem refl (assembler : Assembler) : Careful assembler assembler :=
  Relation.ReflTransGen.refl

theorem single (move : CarefulMove before after) : Careful before after :=
  Relation.ReflTransGen.single move

theorem trans (front : Careful before middle) (back : Careful middle after) :
    Careful before after :=
  Relation.ReflTransGen.trans front back

theorem assembles (careful : Careful before after) : Assembles before after := by
  induction careful with
  | refl => exact .refl before
  | tail _ move inductionHypothesis => exact inductionHypothesis.trans (.single move.move)

/-- An instruction that jumps nowhere may stand everywhere. -/
theorem emit {assembler : Assembler} {instruction : Instruction Label}
    (fits : assembler.Fits 0 instruction) (plain : instruction.targets = []) :
    Careful assembler (assembler.emit instruction) := by
  refine .single (.emitCall assembler 0 instruction fits fun label isTarget => ?_)
  rw [plain] at isTarget
  cases isTarget

end Careful

theorem Straight.careful {before after : Assembler} (straight : Straight before after) :
    Careful before after := by
  induction straight with
  | refl => exact .refl before
  | tail _ move inductionHypothesis => exact inductionHypothesis.trans (.single move.careful)

/-- Only labels that were defined have places. -/
def Closed (assembler : Assembler) : Prop :=
  ∀ label place, assembler.placeOf? label = some place → label.number < assembler.labelCount

theorem closed_empty : ({} : Assembler).Closed := nofun

theorem CarefulMove.closed {before after : Assembler} (move : CarefulMove before after)
    (closed : before.Closed) : after.Closed := by
  intro label place found
  cases move with
  | emitCall argumentCount instruction fits ahead =>
      rw [placeOf?_emitCall] at found
      rw [labelCount_emitCall]
      exact closed label place found
  | intern constant =>
      rw [placeOf?_intern] at found
      rw [labelCount_intern]
      exact closed label place found
  | defineLabel => exact Nat.lt_succ_of_lt (closed label place found)
  | mark marked defined =>
      rw [labelCount_mark]
      rcases placeOf?_of_mark found with known | ⟨rfl, -⟩
      · exact closed label place known
      · exact defined

theorem Careful.closed {before after : Assembler} (careful : Careful before after)
    (closed : before.Closed) : after.Closed := by
  induction careful with
  | refl => exact closed
  | tail _ move inductionHypothesis => exact move.closed inductionHypothesis

/-- A label that is still to be defined has no place. -/
theorem Closed.placeOf?_eq_none {assembler : Assembler} (closed : assembler.Closed) {label : Label}
    (isNew : assembler.labelCount ≤ label.number) : assembler.placeOf? label = none := by
  cases found : assembler.placeOf? label with
  | none => rfl
  | some place => exact absurd (closed label place found) (Nat.not_lt.mpr isNew)

/-! ## Code laid so far -/

/-- Where the instructions start. -/
def starts {Target : Type} (instructions : List (Instruction Target)) : List Nat :=
  (placed 0 instructions).map Prod.fst

/-- What careful moves keep: the code is a list of instructions with the operands that they need,
every label is placed where an instruction starts or the next one will, and no jump leads back. -/
structure Laid (assembler : Assembler) (instructions : List (Instruction Label)) : Prop where
  sound : assembler.Sound
  code : Adds {} assembler instructions
  fits : ∀ instruction ∈ instructions, ∃ argumentCount, assembler.Fits argumentCount instruction
  aligned : ∀ label place, assembler.placeOf? label = some place →
    place ∈ starts instructions ∨ place = assembler.offset
  forward : ∀ row ∈ placed 0 instructions, ∀ label ∈ row.2.targets, ∀ place,
    assembler.placeOf? label = some place → row.1 < place

namespace Laid

variable {assembler : Assembler} {instructions : List (Instruction Label)}

theorem empty : Laid {} [] where
  sound := sound_empty
  code := .refl {}
  fits := nofun
  aligned := nofun
  forward := nofun

theorem offset_eq (laid : assembler.Laid instructions) :
    assembler.offset = (instructions.map Instruction.size).sum :=
  laid.code.offset.trans (Nat.zero_add _)

/-- A move without an instruction keeps what is laid, as long as labels are placed only here. -/
theorem of_no_instruction {after : Assembler} (laid : assembler.Laid instructions)
    (move : Move assembler after) (adds : Adds assembler after [])
    (places : ∀ label place, after.placeOf? label = some place →
      assembler.placeOf? label = some place ∨ place = assembler.offset) :
    after.Laid instructions where
  sound := move.sound laid.sound
  code := List.append_nil instructions ▸ laid.code.trans adds
  fits instruction member := by
    obtain ⟨argumentCount, fits⟩ := laid.fits instruction member
    exact ⟨argumentCount, fun operand isOperand =>
      (fits operand isOperand).later (move.extends_of_sound laid.sound)⟩
  aligned label place found := by
    rw [show after.offset = assembler.offset from adds.offset]
    rcases places label place found with known | here
    · exact laid.aligned label place known
    · exact .inr here
  forward row member label isTarget place found := by
    rcases places label place found with known | here
    · exact laid.forward row member label isTarget place known
    · have ends := end_le_of_mem_placed member
      have positive := row.2.size_pos
      rw [← laid.offset_eq] at ends
      omega

theorem starts_append (instructions : List (Instruction Label))
    (instruction : Instruction Label) :
    starts (instructions ++ [instruction]) =
      starts instructions ++ [(instructions.map Instruction.size).sum] := by
  rw [starts, placed_append, List.map_append, Nat.zero_add]
  rfl

/-- With an instruction at the end, every label is placed where an instruction starts. -/
theorem settled (laid : assembler.Laid instructions) (instruction : Instruction Label)
    {label : Label} {place : Nat} (found : assembler.placeOf? label = some place) :
    place ∈ starts (instructions ++ [instruction]) := by
  rw [starts_append, List.mem_append, List.mem_singleton, ← laid.offset_eq]
  exact laid.aligned label place found

theorem emitCall (laid : assembler.Laid instructions) {argumentCount : UInt64}
    {instruction : Instruction Label} (fits : assembler.Fits argumentCount instruction)
    (ahead : ∀ label ∈ instruction.targets, assembler.placeOf? label = none) :
    (assembler.emitCall argumentCount instruction).Laid (instructions ++ [instruction]) where
  sound := (Move.emitCall assembler argumentCount instruction).sound laid.sound
  code := laid.code.trans (adds_emitCall assembler argumentCount instruction)
  fits other member := by
    have keeps := (Move.emitCall assembler argumentCount instruction).extends_of_sound laid.sound
    have known : ∃ argumentCount, assembler.Fits argumentCount other := by
      rcases List.mem_append.mp member with earlier | last
      · exact laid.fits other earlier
      · exact List.mem_singleton.mp last ▸ ⟨argumentCount, fits⟩
    obtain ⟨count, fits⟩ := known
    exact ⟨count, fun operand isOperand => (fits operand isOperand).later keeps⟩
  aligned label place found := by
    rw [placeOf?_emitCall] at found
    exact .inl (laid.settled instruction found)
  forward row member label isTarget place found := by
    rw [placeOf?_emitCall] at found
    rw [placed_append, List.mem_append] at member
    rcases member with earlier | last
    · exact laid.forward row earlier label isTarget place found
    · obtain rfl := List.mem_singleton.mp last
      rw [ahead label isTarget] at found
      cases found

/-- Careful moves keep what is laid, and lay instructions behind it. -/
theorem of_move {before after : Assembler} (laid : before.Laid instructions)
    (move : CarefulMove before after) : ∃ instructions, after.Laid instructions := by
  cases move with
  | emitCall argumentCount instruction fits ahead =>
      exact ⟨instructions ++ [instruction], laid.emitCall fits ahead⟩
  | intern constant =>
      refine ⟨instructions, laid.of_no_instruction (.intern before constant)
        (adds_intern before constant) ?_⟩
      intro label place found
      rw [placeOf?_intern] at found
      exact .inl found
  | defineLabel =>
      refine ⟨instructions, laid.of_no_instruction (.defineLabel before)
        (.of_same rfl rfl) ?_⟩
      intro label place found
      exact .inl found
  | mark label =>
      exact ⟨instructions, laid.of_no_instruction (.mark before label) (adds_mark before label)
        fun _ _ found => (placeOf?_of_mark found).imp_right And.right⟩

theorem of_careful {before after : Assembler} (laid : before.Laid instructions)
    (careful : Careful before after) : ∃ instructions, after.Laid instructions := by
  induction careful with
  | refl => exact ⟨instructions, laid⟩
  | tail _ move inductionHypothesis =>
      obtain ⟨middle, laid⟩ := inductionHypothesis
      exact laid.of_move move

end Laid

/-! ## Checked images -/

section Images

variable {final : Assembler} {image : Image} {instructions : List (Instruction Label)}

/-- The sweep of finished code finds the instructions that were added. -/
theorem Makes.sweep_eq (makes : final.Makes image) (adds : Adds {} final instructions) :
    sweep image.code =
      ⟨((placed 0 instructions).map fun row =>
        (row.1, row.2.mapTargets final.writtenPlace)).toArray, none⟩ := by
  refine sweep_encode_mapTargets ?_ makes.short
  rw [makes.code, toList_patched adds makes.marked]

/-- Instructions start where the sweep finds them. -/
theorem Makes.starts_eq (makes : final.Makes image) (adds : Adds {} final instructions) :
    starts instructions = (sweep image.code).instructions.toList.map Prod.fst := by
  rw [makes.sweep_eq adds, List.toList_toArray, List.map_map]
  rfl

theorem Makes.isStart (makes : final.Makes image) (adds : Adds {} final instructions)
    {offset : Nat} (start : offset ∈ starts instructions) : image.IsStart offset := by
  obtain ⟨row, member, rfl⟩ := List.mem_map.mp start
  refine ⟨row.2.mapTargets final.writtenPlace, ?_⟩
  rw [makes.sweep_eq adds, List.toList_toArray]
  exact List.mem_map_of_mem member

/-- Where more code comes behind, an instruction starts. -/
theorem Makes.offset_mem_starts (makes : final.Makes image) (adds : Adds {} final instructions)
    {before : Assembler} (moves : Assembles before final) (sound : before.Sound)
    (grows : before.offset < final.offset) : before.offset ∈ starts instructions := by
  obtain ⟨front, standing⟩ := sound.code
  obtain ⟨back, behind⟩ := (moves.extends_of_sound sound).code
  have start : before.offset = 0 + (front.map Instruction.size).sum := standing.offset
  rw [makes.starts_eq adds, ← makes.starts_eq (standing.trans behind)]
  cases back with
  | nil => exact absurd behind.offset (Nat.ne_of_gt grows)
  | cons next rest =>
      rw [starts, placed_append, List.map_append, ← start]
      exact List.mem_append_right _ List.mem_cons_self

/-- The place of a label is written as it is. -/
theorem toNat_writtenPlace (laid : final.Laid instructions) (makes : final.Makes image)
    {label : Label} {place : Nat} (found : final.placeOf? label = some place) :
    (final.writtenPlace label).toNat = place := by
  have inside : place ≤ final.offset := by
    rcases laid.aligned label place found with start | here
    · obtain ⟨row, member, rfl⟩ := List.mem_map.mp start
      have ends := end_le_of_mem_placed member
      rw [← laid.offset_eq] at ends
      omega
    · omega
  have short := makes.short
  rw [makes.size_code] at short
  rw [writtenPlace, found, Option.getD_some, UInt32.toNat_ofNat', Nat.mod_eq_of_lt (by omega)]

/-- Every label that an instruction of finished code jumps to has a place. -/
theorem Laid.exists_placeOf? (laid : final.Laid instructions) (makes : final.Makes image)
    {row : Nat × Instruction Label} (member : row ∈ placed 0 instructions) {label : Label}
    (isTarget : label ∈ row.2.targets) : ∃ place, final.placeOf? label = some place := by
  have isPlaced := isSome_placeOf?_of_target laid.code makes.marked
    (List.mem_flatMap.mpr ⟨_, mem_of_mem_placed member, isTarget⟩)
  exact Option.isSome_iff_exists.mp isPlaced

/-- Careful code passes the check, if its entry points are where instructions start and every label
is, too. -/
theorem Laid.verified (laid : final.Laid instructions) (makes : final.Makes image)
    (settled : ∀ label place, final.placeOf? label = some place → place ∈ starts instructions)
    (entries : ∀ entryPoint, image.entry entryPoint ∈ starts instructions) : image.Verified := by
  have rows : ((placed 0 instructions).map fun row =>
      (row.1, row.2.mapTargets final.writtenPlace)).map Prod.fst = starts instructions := by
    rw [List.map_map]
    rfl
  refine Image.Verified.of_sweep (makes.sweep_eq laid.code) ?_ (rows.symm ▸ entries) ?_
  · intro place member operand isOperand
    obtain ⟨row, isRow, rfl⟩ := List.mem_map.mp member
    rw [Instruction.poolOperands_mapTargets] at isOperand
    obtain ⟨argumentCount, fits⟩ := laid.fits row.2 (mem_of_mem_placed isRow)
    obtain ⟨constant, entry, admits, -⟩ := fits operand isOperand makes.faults
    refine Image.operandFault?_eq_none_iff.mpr ⟨constant, ?_, admits⟩
    rw [Image.constant?, makes.constants, entry]
  · intro place member target isTarget
    obtain ⟨row, isRow, rfl⟩ := List.mem_map.mp member
    obtain ⟨word, isWord, rfl⟩ := List.mem_map.mp isTarget
    rw [Instruction.targets_mapTargets] at isWord
    obtain ⟨label, isLabel, rfl⟩ := List.mem_map.mp isWord
    obtain ⟨place, found⟩ := laid.exists_placeOf? makes isRow isLabel
    rw [rows, toNat_writtenPlace laid makes found]
    exact settled label place found

/-- Careful code jumps to labels only, and ahead. -/
theorem Laid.label_of_target (laid : final.Laid instructions) (makes : final.Makes image)
    {row : Nat × Instruction UInt32} (member : row ∈ (sweep image.code).instructions.toList)
    {target : UInt32} (isTarget : target ∈ row.2.targets) :
    ∃ label, final.placeOf? label = some target.toNat ∧ row.1 < target.toNat := by
  rw [makes.sweep_eq laid.code, List.toList_toArray] at member
  obtain ⟨row, isRow, rfl⟩ := List.mem_map.mp member
  rw [Instruction.targets_mapTargets] at isTarget
  obtain ⟨label, isLabel, rfl⟩ := List.mem_map.mp isTarget
  obtain ⟨place, found⟩ := laid.exists_placeOf? makes isRow isLabel
  rw [toNat_writtenPlace laid makes found]
  exact ⟨label, found, laid.forward row isRow label isLabel place found⟩

end Images

end Assembler

/-! ## Sections and programs -/

namespace Dispatcher

open Assembler

section Sections

variable {Member : Type} {need : Member → Nat} {branch : Nat → Member → Emission}

theorem fits_of_isReturn (assembler : Assembler) {answer : Instruction Label}
    (isReturn : answer.IsReturn) : assembler.Fits 0 answer := by
  cases isReturn <;> exact fits_of_no_operands assembler 0 rfl

theorem Returns.careful (returns : Returns need branch) {ordinal : Nat} {member : Member}
    {before after : Assembler} (done : branch ordinal member before = .ok after)
    (sound : before.Sound) (empty : before.depth = 0) : Careful before after := by
  obtain ⟨last, answer, straight, rfl, isReturn, -, -⟩ := returns _ _ _ _ done sound empty
  refine straight.careful.trans (.emit (fits_of_isReturn last isReturn) ?_)
  cases isReturn <;> rfl

theorem branches_careful (returns : Returns need branch) {first : Nat}
    {pairs : List (Label × Member)} {before after : Assembler}
    (done : branches branch first pairs before = .ok after) (sound : before.Sound)
    (defined : ∀ pair ∈ pairs, pair.1.number < before.labelCount) : Careful before after := by
  induction pairs generalizing first before with
  | nil =>
      obtain rfl := Except.ok.inj done
      exact .refl before
  | cons pair rest inductionHypothesis =>
      obtain ⟨label, member⟩ := pair
      obtain ⟨middle, emitted, following⟩ := exists_of_bind_ok done
      have marked := (Move.mark before label).sound sound
      have branched := returns.careful emitted marked (depth_mark before label)
      have stillDefined : ∀ pair ∈ rest, pair.1.number < middle.labelCount := by
        intro pair later
        apply Nat.lt_of_lt_of_le (defined pair (List.mem_cons_of_mem _ later))
        rw [← labelCount_mark before label]
        exact (branched.assembles.extends_of_sound marked).labels
      exact (Careful.single (.mark before label (defined _ List.mem_cons_self))).trans
        (branched.trans
          (inductionHypothesis following (branched.assembles.sound marked) stillDefined))

theorem dispatching_careful (returns : Returns need branch) {members : List Member}
    {opened dispatched : Assembler} (sound : opened.Sound) (closed : opened.Closed)
    (done : dispatching members branch opened = .ok dispatched) : Careful opened dispatched := by
  unfold dispatching at done
  split at done
  · obtain rfl := Except.ok.inj done
    exact .single (.defineLabel opened)
  · have labels := labelled_straight members.length opened
    have switches : Careful (labelled members.length opened)
        ((labelled members.length opened).emit
          (.tableSwitch (fallbackLabel opened) (branchLabels members.length opened))) := by
      refine .single (.emitCall _ 0 _ (fits_of_no_operands _ 0 rfl) fun label isTarget => ?_)
      rw [placeOf?_labelled]
      exact closed.placeOf?_eq_none (mem_sectionLabels.mp isTarget).1
    have switched := switches.assembles.sound (labels.sound sound)
    have branched := branches_careful returns done switched fun pair paired => by
      have isBranch := List.mem_cons_of_mem (fallbackLabel opened) (List.of_mem_zip paired).1
      have below := (mem_sectionLabels.mp isBranch).2
      rw [Assembler.emit, labelCount_emitCall, labelCount_labelled]
      omega
    exact labels.careful.trans (switches.trans branched)

/-- A section is its opening, its switch with the branches, and the report of the selector, whose
message is there by then. -/
theorem selectorSection_ok (assembling : ∀ ordinal member, Assembling (branch ordinal member))
    {members : List Member} {wrongSelectorText : String} {arities : Option (List UInt16)} {before after : Assembler}
    (sound : before.Sound)
    (done : selectorSection members wrongSelectorText arities branch before = .ok after) :
    ∃ dispatched,
      dispatching members branch (opening members.length wrongSelectorText arities before) =
        .ok dispatched ∧
      (dispatched.mark
        (fallbackLabel (opening members.length wrongSelectorText arities before))).Fits 0
          (.throwIllegal (before.message wrongSelectorText).1) ∧
      after = (dispatched.mark
        (fallbackLabel (opening members.length wrongSelectorText arities before))).emit
          (.throwIllegal (before.message wrongSelectorText).1) := by
  rw [selectorSection_eq] at done
  obtain ⟨dispatched, emitted, rest⟩ := exists_of_bind_ok done
  have words : Straight before (before.message wrongSelectorText).2 := .single (.intern before _)
  have dispatches := (Assembles.single (.defineLabel _)).trans
    (dispatching_assembling assembling emitted)
  refine ⟨dispatched, emitted, ?_, (Except.ok.inj rest).symm⟩
  have names : (before.message wrongSelectorText).2.Names 0
      ((before.message wrongSelectorText).1, .message) := names_intern sound rfl nofun
  have behind : Assembles (before.message wrongSelectorText).2 (dispatched.mark
      (fallbackLabel (opening members.length wrongSelectorText arities before))) :=
    (selectorChecks_assembles ..).trans (dispatches.trans (.single (.mark ..)))
  exact fits_of_operand rfl (names.later (behind.extends_of_sound (words.sound sound)))

/-- A section is careful code that ends with the report of the selector. -/
theorem selectorSection_careful (returns : Returns need branch)
    (assembling : ∀ ordinal member, Assembling (branch ordinal member)) {members : List Member}
    {wrongSelectorText : String} {arities : Option (List UInt16)} {before after : Assembler}
    (sound : before.Sound) (closed : before.Closed)
    (done : selectorSection members wrongSelectorText arities branch before = .ok after) :
    ∃ last message, Careful before last ∧ last.Fits 0 (.throwIllegal message) ∧
      after = last.emit (.throwIllegal message) := by
  have opens := opening_straight sound members.length wrongSelectorText arities
  obtain ⟨dispatched, emitted, fits, isAfter⟩ := selectorSection_ok assembling sound done
  have dispatches := dispatching_careful returns (opens.sound sound) (opens.careful.closed closed)
    emitted
  have defined : (fallbackLabel (opening members.length wrongSelectorText arities before)).number <
      dispatched.labelCount := by
    apply Nat.lt_of_lt_of_le (Nat.lt_succ_self _)
    exact ((dispatching_assembling assembling emitted).extends_of_sound
      ((Move.defineLabel _).sound (opens.sound sound))).labels
  exact ⟨_, _, opens.careful.trans (dispatches.trans (.single (.mark dispatched _ defined))), fits,
    isAfter⟩

/-- A section has at least one instruction. -/
theorem selectorSection_grows (assembling : ∀ ordinal member, Assembling (branch ordinal member))
    {members : List Member} {wrongSelectorText : String} {arities : Option (List UInt16)}
    {before after : Assembler} (sound : before.Sound)
    (done : selectorSection members wrongSelectorText arities branch before = .ok after) :
    before.offset < after.offset := by
  obtain ⟨dispatched, emitted, -, rfl⟩ := selectorSection_ok assembling sound done
  have moves := (opening_assembles members.length wrongSelectorText arities before).trans
    ((Assembles.single (.defineLabel _)).trans (dispatching_assembling assembling emitted))
  have reaches := (moves.extends_of_sound sound).offset
  have positive := (Instruction.throwIllegal (before.message wrongSelectorText).1 :
    Instruction Label).size_pos
  rw [offset_emit, offset_mark]
  omega

end Sections

theorem defaultConstruction_careful (description : TypeDescription) :
    Careful {} (defaultConstruction description {}) := by
  rcases defaultConstruction_cases description with ⟨-, last, -, straight, -, -, code⟩ | ⟨-, code⟩
  · rw [code]
    exact straight.careful.trans (.emit (fits_of_no_operands _ 0 rfl) rfl)
  · rw [code]
    exact .emit (fits_of_no_operands _ 0 rfl) rfl

theorem defaultConstruction_grows (description : TypeDescription) :
    0 < (defaultConstruction description {}).offset := by
  rcases defaultConstruction_cases description with ⟨-, last, -, -, -, -, code⟩ | ⟨-, code⟩ <;>
  · rw [code, offset_emit]
    exact Nat.lt_of_lt_of_le (Instruction.size_pos _) (Nat.le_add_left _ _)

namespace Stretches

variable {description : TypeDescription} {entryOffsets : EntryOffsets} {final : Assembler}
  (stretches : Stretches description entryOffsets final)
include stretches

/-- The whole code is careful up to its last instruction, a report of the selector. -/
theorem careful :
    ∃ last message, Careful {} last ∧ last.Fits 0 (.throwIllegal message) ∧
      final = last.emit (.throwIllegal message) := by
  have whole {Member : Type} {need : Member → Nat} {branch : Nat → Member → Emission}
      (returns : Returns need branch)
      (assembling : ∀ ordinal member, Assembling (branch ordinal member)) {members : List Member}
      {wrongSelectorText : String} {arities : Option (List UInt16)} {before after : Assembler}
      (origin : Careful {} before)
      (done : selectorSection members wrongSelectorText arities branch before = .ok after) :
      Careful {} after := by
    obtain ⟨last, message, careful, fits, rfl⟩ := selectorSection_careful returns assembling
      (origin.assembles.sound sound_empty) (origin.closed closed_empty) done
    exact origin.trans (careful.trans (.emit fits rfl))
  have constructors := whole constructorBranch_returns constructorBranch_assembling
    (defaultConstruction_careful description) stretches.constructors
  have methods := whole (methodBranch_returns description) (methodBranch_assembling description)
    constructors stretches.methods
  have reads := whole (readBranch_returns description) (readBranch_assembling description)
    methods stretches.reads
  obtain ⟨last, message, careful, fits, isFinal⟩ :=
    selectorSection_careful (writeBranch_returns description) (writeBranch_assembling description)
      stretches.sound_afterReads (reads.closed closed_empty) stretches.writes
  exact ⟨last, message, reads.trans careful, fits, isFinal⟩

/-- The whole code is laid, with every label where an instruction starts. -/
theorem laid :
    ∃ instructions, final.Laid instructions ∧
      ∀ label place, final.placeOf? label = some place → place ∈ starts instructions := by
  obtain ⟨last, message, careful, fits, rfl⟩ := stretches.careful
  obtain ⟨instructions, laid⟩ := Laid.empty.of_careful careful
  refine ⟨_, laid.emitCall fits nofun, ?_⟩
  intro label place found
  rw [Assembler.emit, placeOf?_emitCall] at found
  exact laid.settled _ found

end Stretches

namespace Built

variable {description : TypeDescription} {image : Image} (built : Built description image)
include built

/-- Behind every entry point there is an instruction. -/
theorem entry_mem_starts {instructions : List (Instruction Label)}
    (laid : built.final.Laid instructions) (entryPoint : EntryPoint) :
    image.entry entryPoint ∈ starts instructions := by
  have writes := selectorSection_grows (writeBranch_assembling description)
    built.stretches.sound_afterReads built.stretches.writes
  have reads := selectorSection_grows (readBranch_assembling description)
    built.stretches.sound_afterMethods built.stretches.reads
  have methods := selectorSection_grows (methodBranch_assembling description)
    built.stretches.sound_afterConstructors built.stretches.methods
  have constructors := selectorSection_grows constructorBranch_assembling Stretches.sound_default
    built.stretches.constructors
  have first := defaultConstruction_grows description
  cases entryPoint with
  | newDefault =>
      rw [built.entry_newDefault]
      have whole := (defaultConstruction_assembles description {}).trans
        built.stretches.constructors_assembles
      have grows : ({} : Assembler).offset < built.final.offset := by
        show 0 < _
        omega
      exact built.makes.offset_mem_starts laid.code whole sound_empty grows
  | newInstance =>
      rw [built.entry_newInstance]
      exact built.makes.offset_mem_starts laid.code built.stretches.constructors_assembles
        Stretches.sound_default (by omega)
  | invoke =>
      rw [built.entry_invoke]
      exact built.makes.offset_mem_starts laid.code built.stretches.methods_assembles
        built.stretches.sound_afterConstructors (by omega)
  | getField =>
      rw [built.entry_getField]
      exact built.makes.offset_mem_starts laid.code built.stretches.reads_assembles
        built.stretches.sound_afterMethods (by omega)
  | setField =>
      rw [built.entry_setField]
      exact built.makes.offset_mem_starts laid.code built.stretches.writes_assembles
        built.stretches.sound_afterReads writes

/-- What a description was built to is verified. -/
theorem verified : image.Verified := by
  obtain ⟨instructions, laid, settled⟩ := built.stretches.laid
  exact laid.verified built.makes settled (built.entry_mem_starts laid)

/-- Every switch leads to labels, and ahead. -/
theorem label_of_target {row : Nat × Instruction UInt32}
    (member : row ∈ (sweep image.code).instructions.toList) {target : UInt32}
    (isTarget : target ∈ row.2.targets) :
    ∃ label, built.final.placeOf? label = some target.toNat ∧ row.1 < target.toNat := by
  obtain ⟨instructions, laid, -⟩ := built.stretches.laid
  exact laid.label_of_target built.makes member isTarget

end Built

end Dispatcher

end OrdinalDispatch.Code

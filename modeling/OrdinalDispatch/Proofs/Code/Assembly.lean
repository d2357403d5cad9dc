import Mathlib.Logic.Relation
import OrdinalDispatch.Code.Image
import OrdinalDispatch.Proofs.Code.Interning
import OrdinalDispatch.Proofs.Code.Patching

/-!
Contract: how code grows while it is assembled, and where it stands once it is
finished.

Owns: the moves that assembly is made of, what every sequence of them keeps, and
the place of each instruction, constant and label in finished code.

Does not own: which moves a dispatcher is made of, see
`OrdinalDispatch.Proofs.Code.Emission`.
-/

set_option autoImplicit false

namespace OrdinalDispatch.Code.Assembler

/-! ## What the single operations leave as it was -/

section Operations

variable (assembler : Assembler)

@[simp]
theorem code_take (needed offset : Nat) :
    (assembler.take needed offset).code = assembler.code := by
  unfold take
  split <;> rfl

@[simp]
theorem jumps_take (needed offset : Nat) :
    (assembler.take needed offset).jumps = assembler.jumps := by
  unfold take
  split <;> rfl

@[simp]
theorem offset_take (needed offset : Nat) :
    (assembler.take needed offset).offset = assembler.offset := by
  unfold take
  split <;> rfl

@[simp]
theorem pool_take (needed offset : Nat) :
    (assembler.take needed offset).pool = assembler.pool := by
  unfold take
  split <;> rfl

@[simp]
theorem labelCount_take (needed offset : Nat) :
    (assembler.take needed offset).labelCount = assembler.labelCount := by
  unfold take
  split <;> rfl

@[simp]
theorem placeOf?_take (needed offset : Nat) (label : Label) :
    (assembler.take needed offset).placeOf? label = assembler.placeOf? label := by
  unfold take
  split <;> rfl

theorem faults_of_take {needed offset : Nat}
    (faultless : (assembler.take needed offset).faults = #[]) : assembler.faults = #[] := by
  unfold take at faultless
  split at faultless
  · simp [report] at faultless
  · exact faultless

@[simp]
theorem offset_give (count : Nat) : (assembler.give count).offset = assembler.offset := rfl

theorem adds_emitCall (argumentCount : UInt64) (instruction : Instruction Label) :
    Adds assembler (assembler.emitCall argumentCount instruction) [instruction] :=
  .of_append assembler instruction (code_take ..) (jumps_take ..)

@[simp]
theorem offset_emitCall (argumentCount : UInt64) (instruction : Instruction Label) :
    (assembler.emitCall argumentCount instruction).offset =
      assembler.offset + instruction.size := by
  simp [emitCall, Fragment.size]

@[simp]
theorem pool_emitCall (argumentCount : UInt64) (instruction : Instruction Label) :
    (assembler.emitCall argumentCount instruction).pool = assembler.pool := by
  simp [emitCall, give]

@[simp]
theorem labelCount_emitCall (argumentCount : UInt64) (instruction : Instruction Label) :
    (assembler.emitCall argumentCount instruction).labelCount = assembler.labelCount := by
  simp [emitCall, give]

@[simp]
theorem placeOf?_emitCall (argumentCount : UInt64) (instruction : Instruction Label)
    (label : Label) :
    (assembler.emitCall argumentCount instruction).placeOf? label = assembler.placeOf? label := by
  show ((assembler.append (.instruction instruction)).take _ _).placeOf? label = _
  rw [placeOf?_take, placeOf?_append]

theorem faults_of_emitCall {argumentCount : UInt64} {instruction : Instruction Label}
    (faultless : (assembler.emitCall argumentCount instruction).faults = #[]) :
    assembler.faults = #[] := by
  rw [← faults_append assembler (.instruction instruction)]
  exact faults_of_take _ faultless

@[simp]
theorem offset_emit (instruction : Instruction Label) :
    (assembler.emit instruction).offset = assembler.offset + instruction.size :=
  offset_emitCall assembler 0 instruction

@[simp]
theorem offset_defineLabel : assembler.defineLabel.2.offset = assembler.offset := rfl

@[simp]
theorem placeOf?_defineLabel (label : Label) :
    assembler.defineLabel.2.placeOf? label = assembler.placeOf? label := rfl

/-- Labels are numbered in the order in which they are defined. -/
theorem defineLabels_eq (count : Nat) :
    defineLabels count assembler =
      ((List.range count).map fun index => ⟨assembler.labelCount + index⟩,
        { assembler with labelCount := assembler.labelCount + count }) := by
  induction count generalizing assembler with
  | zero => simp [defineLabels]
  | succ count inductionHypothesis =>
      have numbers (first : Nat) :
          (List.range (count + 1)).map (fun index => Label.mk (first + index)) =
            ⟨first⟩ :: (List.range count).map fun index => ⟨first + 1 + index⟩ := by
        rw [List.range_succ_eq_map, List.map_cons, List.map_map]
        refine congrArg _ (List.map_congr_left fun index _ => congrArg Label.mk ?_)
        rw [Nat.succ_eq_add_one, Nat.add_right_comm, Nat.add_assoc]
      simp only [defineLabels, defineLabel, inductionHypothesis, numbers, Nat.add_assoc,
        Nat.add_comm 1 count]

/-- Interning changes the pool, and notes a fault if the pool has no room. -/
theorem intern_eq (constant : Constant) :
    assembler.intern constant =
      ((assembler.pool.intern constant).1.getD 0,
        { assembler with
          pool := (assembler.pool.intern constant).2
          faults := if (assembler.pool.intern constant).1.isNone
            then assembler.faults.push .poolOverflow else assembler.faults }) := by
  unfold intern
  cases answered : assembler.pool.intern constant with
  | mk answer pool => cases answer <;> simp [answered]

@[simp]
theorem jumps_intern (constant : Constant) :
    (assembler.intern constant).2.jumps = assembler.jumps := by
  rw [intern_eq]

theorem adds_intern (constant : Constant) : Adds assembler (assembler.intern constant).2 [] :=
  .of_same (by rw [intern_eq]) (jumps_intern assembler constant)

@[simp]
theorem offset_intern (constant : Constant) :
    (assembler.intern constant).2.offset = assembler.offset :=
  (adds_intern assembler constant).offset

@[simp]
theorem labelCount_intern (constant : Constant) :
    (assembler.intern constant).2.labelCount = assembler.labelCount := by
  rw [intern_eq]

@[simp]
theorem placeOf?_intern (constant : Constant) (label : Label) :
    (assembler.intern constant).2.placeOf? label = assembler.placeOf? label := by
  rw [intern_eq]
  rfl

@[simp]
theorem pool_intern (constant : Constant) :
    (assembler.intern constant).2.pool = (assembler.pool.intern constant).2 := by
  rw [intern_eq]

/-- As long as nothing was at fault, an interned constant has the index that the pool gave it. -/
theorem intern_of_faults {constant : Constant}
    (faultless : (assembler.intern constant).2.faults = #[]) :
    assembler.faults = #[] ∧
      (assembler.pool.intern constant).1 = some (assembler.intern constant).1 := by
  rw [intern_eq] at faultless ⊢
  cases answered : (assembler.pool.intern constant).1 with
  | none => simp [answered] at faultless
  | some index => simpa [answered] using faultless

@[simp]
theorem jumps_mark (label : Label) : (assembler.mark label).jumps = assembler.jumps := by
  unfold mark
  split <;> rfl

theorem adds_mark (label : Label) : Adds assembler (assembler.mark label) [] := by
  unfold mark
  split <;> exact .of_same rfl rfl

@[simp]
theorem offset_mark (label : Label) : (assembler.mark label).offset = assembler.offset :=
  (adds_mark assembler label).offset

@[simp]
theorem pool_mark (label : Label) : (assembler.mark label).pool = assembler.pool := by
  unfold mark
  split <;> rfl

@[simp]
theorem labelCount_mark (label : Label) :
    (assembler.mark label).labelCount = assembler.labelCount := by
  unfold mark
  split <;> rfl

theorem places_mark (label : Label) :
    (assembler.mark label).places =
      assembler.places.insert label.number assembler.offset := by
  unfold mark
  split <;> rfl

/-- As long as nothing was at fault, no label was marked a second time. -/
theorem mark_of_faults {label : Label} (faultless : (assembler.mark label).faults = #[]) :
    assembler.faults = #[] ∧ assembler.placeOf? label = none := by
  unfold mark at faultless
  split at faultless
  · simp [report] at faultless
  · rename_i unmarked
    exact ⟨faultless, unmarked⟩

@[simp]
theorem placeOf?_mark (label : Label) :
    (assembler.mark label).placeOf? label = some assembler.offset := by
  rw [placeOf?, places_mark, Std.TreeMap.getElem?_insert_self]

theorem placeOf?_mark_of_ne {label other : Label} (different : other ≠ label) :
    (assembler.mark label).placeOf? other = assembler.placeOf? other := by
  have apart : ¬compare label.number other.number = .eq := by
    intro same
    apply different
    cases other
    exact congrArg Label.mk (compare_eq_iff_eq.mp same).symm
  rw [placeOf?, places_mark, Std.TreeMap.getElem?_insert, if_neg apart, placeOf?]

variable {assembler} in
/-- A label that has a place behind a marking had it before, or was marked here. -/
theorem placeOf?_of_mark {label other : Label} {place : Nat}
    (found : (assembler.mark label).placeOf? other = some place) :
    assembler.placeOf? other = some place ∨ other = label ∧ place = assembler.offset := by
  by_cases same : other = label
  · subst same
    rw [placeOf?_mark] at found
    exact .inr ⟨rfl, (Option.some.inj found).symm⟩
  · rw [placeOf?_mark_of_ne assembler same] at found
    exact .inl found

end Operations

/-! ## Moves -/

/-- One move of assembly. -/
inductive Move : Assembler → Assembler → Prop where
  | emitCall (assembler : Assembler) (argumentCount : UInt64) (instruction : Instruction Label) :
      Move assembler (assembler.emitCall argumentCount instruction)
  | intern (assembler : Assembler) (constant : Constant) :
      Move assembler (assembler.intern constant).2
  | defineLabel (assembler : Assembler) : Move assembler assembler.defineLabel.2
  | mark (assembler : Assembler) (label : Label) : Move assembler (assembler.mark label)

/-- Any number of moves. -/
def Assembles : Assembler → Assembler → Prop := Relation.ReflTransGen Move

/-- The code consists of instructions, and the pool is sound. -/
structure Sound (assembler : Assembler) : Prop where
  code : ∃ instructions, Adds {} assembler instructions
  pool : assembler.pool.Sound

@[simp]
theorem offset_empty : ({} : Assembler).offset = 0 := rfl

theorem sound_empty : ({} : Assembler).Sound where
  code := ⟨[], .refl {}⟩
  pool := ConstantPool.sound_empty

/-- What is there stays where it is. Places of labels stay unless one is marked twice, which is a
fault. -/
structure Extends (before after : Assembler) : Prop where
  code : ∃ instructions, Adds before after instructions
  entries : before.pool.entries.toList <+: after.pool.entries.toList
  offset : before.offset ≤ after.offset
  labels : before.labelCount ≤ after.labelCount
  faults : after.faults = #[] → before.faults = #[]
  places : after.faults = #[] → ∀ label place,
    before.placeOf? label = some place → after.placeOf? label = some place

namespace Extends

theorem refl (assembler : Assembler) : assembler.Extends assembler where
  code := ⟨[], .refl assembler⟩
  entries := List.prefix_refl _
  offset := Nat.le_refl _
  labels := Nat.le_refl _
  faults := id
  places := fun _ _ _ => id

theorem trans {first second third : Assembler} (front : first.Extends second)
    (back : second.Extends third) : first.Extends third where
  code := by
    obtain ⟨instructions, adds⟩ := front.code
    obtain ⟨more, addsMore⟩ := back.code
    exact ⟨instructions ++ more, adds.trans addsMore⟩
  entries := front.entries.trans back.entries
  offset := Nat.le_trans front.offset back.offset
  labels := Nat.le_trans front.labels back.labels
  faults := front.faults ∘ back.faults
  places faultless label place placed :=
    back.places faultless label place (front.places (back.faults faultless) label place placed)

end Extends

namespace Move

variable {before after : Assembler}

/-- A move adds one instruction, or none. -/
theorem adds (move : Move before after) : ∃ instructions, Adds before after instructions := by
  cases move with
  | emitCall argumentCount instruction =>
      exact ⟨[instruction], adds_emitCall before argumentCount instruction⟩
  | intern constant => exact ⟨[], adds_intern before constant⟩
  | defineLabel => exact ⟨[], .of_same rfl rfl⟩
  | mark label => exact ⟨[], adds_mark before label⟩

theorem sound (move : Move before after) (sound : before.Sound) : after.Sound where
  code := by
    obtain ⟨instructions, standing⟩ := sound.code
    obtain ⟨more, adds⟩ := move.adds
    exact ⟨instructions ++ more, standing.trans adds⟩
  pool := by
    cases move with
    | emitCall argumentCount instruction =>
        rw [pool_emitCall]
        exact sound.pool
    | intern constant =>
        rw [pool_intern]
        exact sound.pool.intern _
    | defineLabel => exact sound.pool
    | mark label =>
        rw [pool_mark]
        exact sound.pool

theorem extends_of_sound (move : Move before after) (sound : before.Sound) :
    before.Extends after := by
  cases move with
  | emitCall argumentCount instruction =>
      refine ⟨?_, ?_, ?_, ?_, ?_, ?_⟩
      · exact (Move.emitCall before argumentCount instruction).adds
      · exact pool_emitCall before argumentCount instruction ▸ List.prefix_refl _
      · rw [offset_emitCall]
        omega
      · exact Nat.le_of_eq (labelCount_emitCall before argumentCount instruction).symm
      · exact faults_of_emitCall before
      · intro _ label place placed
        rwa [placeOf?_emitCall]
  | intern constant =>
      refine ⟨?_, ?_, ?_, ?_, ?_, ?_⟩
      · exact (Move.intern before constant).adds
      · rw [pool_intern]
        exact ConstantPool.entries_intern sound.pool constant
      · exact Nat.le_of_eq (offset_intern before constant).symm
      · exact Nat.le_of_eq (labelCount_intern before constant).symm
      · exact fun faultless => (intern_of_faults before faultless).1
      · intro _ label place placed
        rwa [placeOf?_intern]
  | defineLabel =>
      exact {
        code := (Move.defineLabel before).adds
        entries := List.prefix_refl _
        offset := Nat.le_refl _
        labels := Nat.le_succ _
        faults := id
        places := fun _ _ _ => id }
  | mark label =>
      refine ⟨?_, ?_, ?_, ?_, ?_, ?_⟩
      · exact (Move.mark before label).adds
      · exact pool_mark before label ▸ List.prefix_refl _
      · exact Nat.le_of_eq (offset_mark before label).symm
      · exact Nat.le_of_eq (labelCount_mark before label).symm
      · exact fun faultless => (mark_of_faults before faultless).1
      · intro faultless other place placed
        have different : other ≠ label := by
          rintro rfl
          rw [(mark_of_faults before faultless).2] at placed
          cases placed
        rw [placeOf?_mark_of_ne before different]
        exact placed

end Move

namespace Assembles

variable {before after last : Assembler}

theorem refl (assembler : Assembler) : Assembles assembler assembler :=
  Relation.ReflTransGen.refl

theorem single (move : Move before after) : Assembles before after :=
  Relation.ReflTransGen.single move

theorem trans (front : Assembles before after) (back : Assembles after last) :
    Assembles before last :=
  Relation.ReflTransGen.trans front back

theorem defineLabels (count : Nat) (assembler : Assembler) :
    Assembles assembler (assembler.defineLabels count).2 := by
  induction count generalizing assembler with
  | zero => exact .refl assembler
  | succ count inductionHypothesis =>
      exact (single (.defineLabel assembler)).trans (inductionHypothesis _)

theorem sound (moves : Assembles before after) (sound : before.Sound) : after.Sound := by
  induction moves with
  | refl => exact sound
  | tail _ move inductionHypothesis => exact move.sound inductionHypothesis

theorem extends_of_sound (moves : Assembles before after) (sound : before.Sound) :
    before.Extends after := by
  induction moves with
  | refl => exact Extends.refl before
  | tail front move inductionHypothesis =>
      exact inductionHypothesis.trans (move.extends_of_sound (Assembles.sound front sound))

end Assembles

/-! ## Finished code -/

/-- The image holds what the assembler assembled, without faults and short enough for its offsets
to fit 32 bits. -/
structure Makes (assembler : Assembler) (image : Image) : Prop where
  sound : assembler.Sound
  faults : assembler.faults = #[]
  marked : assembler.neverMarked = []
  code : image.code = assembler.patched
  constants : image.constants = assembler.pool.entries
  short : image.code.size < 2 ^ 32

/-- Without a fault and with every used label marked, finishing hands over the patched code. -/
theorem finish_eq {assembler : Assembler} (faultless : assembler.faults = #[])
    (marked : assembler.neverMarked = []) :
    assembler.finish =
      .ok {
        code := assembler.patched
        constants := assembler.pool.entries
        maxStack := assembler.maxDepth } := by
  have noFaults : assembler.allFaults = [] := by
    rw [allFaults, faultless, marked]
    rfl
  rw [finish, noFaults]

/-- Finishing succeeds without faults only, and hands over the patched code. -/
theorem finish_ok {assembler : Assembler} {assembled : AssembledCode}
    (finished : assembler.finish = .ok assembled) :
    assembler.faults = #[] ∧ assembler.neverMarked = [] ∧
      assembled.code = assembler.patched ∧
      assembled.constants = assembler.pool.entries := by
  unfold finish at finished
  split at finished
  · rename_i faultless
    obtain rfl := Except.ok.inj finished
    rw [allFaults, List.append_eq_nil_iff, List.map_eq_nil_iff] at faultless
    exact ⟨by simpa using faultless.1, faultless.2, rfl, rfl⟩
  · cases finished

section Finished

variable {final assembler : Assembler}

/-- Patching changes no offsets. -/
theorem size_patched (sound : final.Sound) (marked : final.neverMarked = []) :
    final.patched.size = final.offset := by
  obtain ⟨instructions, adds⟩ := sound.code
  rw [← Array.length_toList, toList_patched adds marked, adds.offset, length_flatMap_encode]
  exact (Nat.zero_add _).symm

/-- The bytes of an instruction stand where it was emitted. -/
theorem bytesAt_of_emitCall (marked : final.neverMarked = []) {argumentCount : UInt64}
    {instruction : Instruction Label}
    (moves : Assembles (assembler.emitCall argumentCount instruction) final)
    (sound : assembler.Sound) :
    BytesAt final.patched assembler.offset
      (instruction.mapTargets final.writtenPlace).encode := by
  obtain ⟨front, standing⟩ := sound.code
  have emitted := (Move.emitCall assembler argumentCount instruction).sound sound
  obtain ⟨back, behind⟩ := (moves.extends_of_sound emitted).code
  have patched := toList_patched
    (standing.trans ((adds_emitCall assembler argumentCount instruction).trans behind)) marked
  rw [List.flatMap_append, List.flatMap_append, List.flatMap_singleton] at patched
  have start : assembler.offset = (front.flatMap fun instruction =>
      (instruction.mapTargets final.writtenPlace).encode).length := by
    rw [standing.offset, length_flatMap_encode]
    exact Nat.zero_add _
  rw [show final.patched = final.patched.toList.toArray by simp, patched, start]
  exact BytesAt.of_split _ _ _

/-- Without a fault a label keeps the place at which it was marked. -/
theorem placeOf?_of_marked (faultless : final.faults = #[]) {label : Label}
    (moves : Assembles (assembler.mark label) final) (sound : assembler.Sound) :
    final.placeOf? label = some assembler.offset := by
  have marked := (Move.mark assembler label).sound sound
  exact (moves.extends_of_sound marked).places faultless label _ (placeOf?_mark assembler label)

end Finished

namespace Makes

variable {final assembler : Assembler} {image : Image}

theorem size_code (makes : final.Makes image) : image.code.size = final.offset := by
  rw [makes.code, size_patched makes.sound makes.marked]

theorem offset_le (makes : final.Makes image) (moves : Assembles assembler final)
    (sound : assembler.Sound) : assembler.offset ≤ image.code.size := by
  rw [makes.size_code]
  exact (moves.extends_of_sound sound).offset

/-- An instruction that was emitted is decoded at the offset it was emitted at. -/
theorem decode (makes : final.Makes image) {argumentCount : UInt64} {instruction : Instruction Label}
    (moves : Assembles (assembler.emitCall argumentCount instruction) final)
    (sound : assembler.Sound) :
    Instruction.decode image.code assembler.offset =
      .ok (instruction.mapTargets final.writtenPlace) := by
  have stands := makes.code ▸ bytesAt_of_emitCall makes.marked moves sound
  refine Instruction.decode_of_bytesAt stands ?_
  have ends := stands.bound (makes.offset_le ((Assembles.single (.emitCall ..)).trans moves) sound)
  have short := makes.short
  rw [Instruction.length_encode] at ends
  cases target : instruction.mapTargets final.writtenPlace with
  | tableSwitch fallback targets =>
      rw [target] at ends
      simp only [Instruction.size] at ends
      simp only [Instruction.targets, List.length_cons]
      omega
  | _ => simp [Instruction.targets]

/-- A constant that was interned is the one that its index names. -/
theorem constant?_intern (makes : final.Makes image) {constant : Constant}
    (moves : Assembles (assembler.intern constant).2 final) (sound : assembler.Sound) :
    image.constant? (assembler.intern constant).1 = some constant := by
  have interned := (Move.intern assembler constant).sound sound
  have keeps := moves.extends_of_sound interned
  have answered := (intern_of_faults assembler (keeps.faults makes.faults)).2
  have entry := ConstantPool.entry_of_intern sound.pool answered
  obtain ⟨rest, entries⟩ := keeps.entries
  rw [← pool_intern, ← Array.getElem?_toList] at entry
  have below := (List.getElem?_eq_some_iff.mp entry).1
  rw [Image.constant?, makes.constants, ← Array.getElem?_toList, ← entries,
    List.getElem?_append_left below, entry]

/-- A label is written as the offset that it was marked at. -/
theorem writtenPlace_mark (makes : final.Makes image) {label : Label}
    (moves : Assembles (assembler.mark label) final) (sound : assembler.Sound) :
    (final.writtenPlace label).toNat = assembler.offset := by
  have placed := placeOf?_of_marked makes.faults moves sound
  have ends := makes.offset_le ((Assembles.single (.mark ..)).trans moves) sound
  have short := makes.short
  rw [writtenPlace, placed, Option.getD_some, UInt32.toNat_ofNat', Nat.mod_eq_of_lt (by omega)]

end Makes

end OrdinalDispatch.Code.Assembler

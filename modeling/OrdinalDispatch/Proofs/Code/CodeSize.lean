import OrdinalDispatch.Proofs.Code.Operations
import OrdinalDispatch.Proofs.Code.PoolSize

/-!
Contract: how long the code of a dispatcher is, and what is written of its
offsets.

Owns: the offsets that are meant by the entry points and the switches, told from
the description alone, that they are written to 32 bits without a check, and a
description whose code is too long for that.

Does not own: the decoding of code that is short enough, see
`OrdinalDispatch.Proofs.Code.Checking`.

Members are few, since each has a place in the pool, but nothing else bounds the
code: every member may have as many parameters as sixteen bits count.
-/

set_option autoImplicit false

namespace OrdinalDispatch.Code

namespace Assembler

/-- On the way to the code a label is marked at an offset. -/
def MarksAt (final : Assembler) (label : Label) (offset : Nat) : Prop :=
  ∃ start : Assembler, start.Sound ∧ Assembles (start.mark label) final ∧ start.offset = offset

/-- On the way to the code an instruction is emitted at an offset. -/
def EmitsAt (final : Assembler) (offset : Nat) (instruction : Instruction Label) : Prop :=
  ∃ start : Assembler, start.Sound ∧ Assembles (start.emit instruction) final ∧
    start.offset = offset

section Later

variable {final last : Assembler} {label : Label} {offset : Nat}

theorem MarksAt.later (marks : final.MarksAt label offset) (moves : Assembles final last) :
    last.MarksAt label offset := by
  obtain ⟨start, sound, onward, here⟩ := marks
  exact ⟨start, sound, onward.trans moves, here⟩

theorem EmitsAt.later {instruction : Instruction Label}
    (emits : final.EmitsAt offset instruction) (moves : Assembles final last) :
    last.EmitsAt offset instruction := by
  obtain ⟨start, sound, onward, here⟩ := emits
  exact ⟨start, sound, onward.trans moves, here⟩

theorem MarksAt.offset_le (marks : final.MarksAt label offset) : offset ≤ final.offset := by
  obtain ⟨start, sound, onward, rfl⟩ := marks
  have moves := (Assembles.single (.mark start label)).trans onward
  exact (moves.extends_of_sound sound).offset

/-- What is written for a label are the low 32 bits of the offset at which it was marked. -/
theorem MarksAt.writtenPlace (marks : final.MarksAt label offset) (faultless : final.faults = #[]) :
    (final.writtenPlace label).toNat = offset % 2 ^ 32 := by
  obtain ⟨start, sound, onward, rfl⟩ := marks
  rw [Assembler.writtenPlace, placeOf?_of_marked faultless onward sound, Option.getD_some,
    UInt32.toNat_ofNat']

/-- An instruction decodes at the offset at which it was emitted, however long the code is. -/
theorem EmitsAt.decode {instruction : Instruction Label}
    (emits : final.EmitsAt offset instruction) (marked : final.neverMarked = [])
    (few : instruction.targets.length ≤ 2 ^ 32) :
    Instruction.decode final.patched offset =
      .ok (instruction.mapTargets final.writtenPlace) := by
  obtain ⟨start, sound, onward, rfl⟩ := emits
  refine Instruction.decode_of_bytesAt (bytesAt_of_emitCall marked onward sound) ?_
  rwa [Instruction.targets_mapTargets, List.length_map]

end Later

end Assembler

namespace Dispatcher

open Assembler

/-! ## Sections -/

/-- The count of bytes of a switch; without members there is none. -/
def switchSize (count : Nat) : Nat := if count = 0 then 0 else 9 + 4 * count

/-- How far into a section the check of the selector stands. -/
def boundsDistance (hasArguments : Bool) : Nat :=
  if hasArguments then Opcode.checkArguments.size else 0

/-- How far into a section its switch stands. -/
def switchDistance (hasArguments : Bool) : Nat := room (checksOpcodes hasArguments)

/-- How far into a section the branch of an ordinal stands. -/
def branchDistance (hasArguments : Bool) (branches : List (List Opcode)) (ordinal : Nat) : Nat :=
  switchDistance hasArguments + switchSize branches.length + room (branches.take ordinal).flatten

/-- How far into a section its last instruction stands, the report of the selector. -/
def fallbackDistance (hasArguments : Bool) (branches : List (List Opcode)) : Nat :=
  branchDistance hasArguments branches branches.length

/-- The count of bytes of a section. -/
def sectionSize (hasArguments : Bool) (branches : List (List Opcode)) : Nat :=
  fallbackDistance hasArguments branches + Opcode.throwIllegal.size

/-- From an offset on the code has a section: the check of the selector against the count of the
branches, and the switch to them, where there are any. -/
structure HasSection (final : Assembler) (offset : Nat) (hasArguments : Bool)
    (branches : List (List Opcode)) : Prop where
  bounds : ∃ message, final.EmitsAt (offset + boundsDistance hasArguments)
    (.checkBounds (UInt32.ofNat branches.length) message)
  switch : branches ≠ [] → ∃ fallback labels,
    final.EmitsAt (offset + switchDistance hasArguments) (.tableSwitch fallback labels) ∧
    labels.length = branches.length ∧
    final.MarksAt fallback (offset + fallbackDistance hasArguments branches) ∧
    ∀ ordinal label, labels[ordinal]? = some label →
      final.MarksAt label (offset + branchDistance hasArguments branches ordinal)

theorem HasSection.later {final last : Assembler} {offset : Nat} {hasArguments : Bool}
    {branches : List (List Opcode)} (has : HasSection final offset hasArguments branches)
    (moves : Assembles final last) : HasSection last offset hasArguments branches where
  bounds := by
    obtain ⟨message, emits⟩ := has.bounds
    exact ⟨message, emits.later moves⟩
  switch occupied := by
    obtain ⟨fallback, labels, emits, count, marks, branchMarks⟩ := has.switch occupied
    exact ⟨fallback, labels, emits.later moves, count, marks.later moves,
      fun ordinal label found => (branchMarks ordinal label found).later moves⟩

section Sections

variable {Member : Type} {branch : Nat → Member → Emission} {opcodes : Member → List Opcode}

/-- A branch that is emitted consists of the operations of its member, which are those of
branches. -/
structure Plain (branch : Nat → Member → Emission) (opcodes : Member → List Opcode) : Prop where
  emitting : Emitting branch opcodes
  assembling : ∀ ordinal member, Assembling (branch ordinal member)
  inBranch : ∀ member, ∀ opcode ∈ opcodes member, opcode.inBranch = true

theorem Plain.noSwitch (plain : Plain branch opcodes) (member : Member) :
    .tableSwitch ∉ opcodes member :=
  fun switches => nomatch plain.inBranch member _ switches

theorem Plain.offset (plain : Plain branch opcodes) {ordinal : Nat} {member : Member}
    {before after : Assembler} (done : branch ordinal member before = .ok after) :
    after.offset = before.offset + room (opcodes member) :=
  (plain.emitting _ _ _ _ done).offset (plain.noSwitch member)

/-- Branches stand one behind the other, each behind its label. -/
theorem branches_offset (plain : Plain branch opcodes) {first : Nat}
    {pairs : List (Label × Member)} {before after : Assembler}
    (done : branches branch first pairs before = .ok after) (sound : before.Sound) :
    after.offset = before.offset + room ((pairs.map Prod.snd).map opcodes).flatten ∧
      ∀ position label member, pairs[position]? = some (label, member) →
        after.MarksAt label (before.offset +
          room (((pairs.map Prod.snd).map opcodes).take position).flatten) := by
  induction pairs generalizing first before with
  | nil =>
      obtain rfl := Except.ok.inj done
      exact ⟨rfl, nofun⟩
  | cons pair rest inductionHypothesis =>
      obtain ⟨nextLabel, nextMember⟩ := pair
      obtain ⟨middle, emitted, following⟩ := exists_of_bind_ok done
      have marked := (Move.mark before nextLabel).sound sound
      have branched := plain.assembling _ _ _ _ emitted
      have grows := plain.offset emitted
      rw [offset_mark] at grows
      obtain ⟨offset, marks⟩ := inductionHypothesis following (branched.sound marked)
      refine ⟨?_, fun position label member found => ?_⟩
      · rw [offset, grows, List.map_cons, List.map_cons, List.flatten_cons, room_append,
          Nat.add_assoc]
      · cases position with
        | zero =>
            obtain ⟨rfl, rfl⟩ := Prod.mk.inj (Option.some.inj found)
            exact ⟨before, sound,
              branched.trans (branches_assembling plain.assembling _ _ _ _ following), rfl⟩
        | succ position =>
            have marks := marks position label member found
            rwa [grows, Nat.add_assoc, ← room_append] at marks

/-- A switch takes five bytes and four for each place that it leads to. -/
theorem size_tableSwitch {Target : Type} (fallback : Target) {targets : List Target}
    (occupied : targets.length ≠ 0) :
    (Instruction.tableSwitch fallback targets).size = switchSize targets.length := by
  rw [switchSize, if_neg occupied]
  simp only [Instruction.size]
  omega

section Openings

variable (count : Nat) (wrongSelectorText : String) (arities : Option (List UInt16))
  {before : Assembler}

theorem opening_offset :
    (opening count wrongSelectorText arities before).offset =
      before.offset + switchDistance arities.isSome := by
  refine (opening_emits count wrongSelectorText arities before).offset ?_
  cases arities <;> simp [checksOpcodes]

/-- The check of the selector is part of the opening. -/
theorem opening_bounds (sound : before.Sound) :
    ∃ message, (opening count wrongSelectorText arities before).EmitsAt
      (before.offset + boundsDistance arities.isSome)
      (.checkBounds (UInt32.ofNat count) message) := by
  have worded := (Move.intern before (.message wrongSelectorText)).sound sound
  refine ⟨(before.message wrongSelectorText).1, ?_⟩
  cases arities with
  | none =>
      exact ⟨_, worded, .refl _, offset_intern ..⟩
  | some table =>
      have checks := argumentsCheck_assembles (before.message wrongSelectorText).2
      rw [opening_some]
      refine ⟨_, checks.sound worded, arityCheck_assembles .., ?_⟩
      rw [argumentsCheck, offset_emit, message, offset_intern, message, offset_intern]
      rfl

end Openings

variable {members : List Member}

/-- The switch of a section, its branches, and where they end. -/
theorem dispatching_offset (plain : Plain branch opcodes) {opened dispatched : Assembler}
    (sound : opened.Sound) (done : dispatching members branch opened = .ok dispatched) :
    dispatched.offset = opened.offset + switchSize members.length +
        room (members.map opcodes).flatten ∧
      (members ≠ [] → ∃ labels,
        dispatched.EmitsAt opened.offset (.tableSwitch (fallbackLabel opened) labels) ∧
        labels.length = members.length ∧
        ∀ ordinal label, labels[ordinal]? = some label →
          dispatched.MarksAt label (opened.offset + switchSize members.length +
            room ((members.map opcodes).take ordinal).flatten)) := by
  by_cases empty : members = []
  · subst empty
    obtain rfl := Except.ok.inj done
    exact ⟨rfl, fun occupied => absurd rfl occupied⟩
  · rw [dispatching, if_neg (by simpa using empty)] at done
    have switched := (labelled_assembles members.length opened).sound sound
    have emitted := (emit_assembles (labelled members.length opened)
      (.tableSwitch (fallbackLabel opened) (branchLabels members.length opened))).sound switched
    have count := length_branchLabels members.length opened
    have occupied : (branchLabels members.length opened).length ≠ 0 := by
      rwa [count, ne_eq, List.length_eq_zero_iff]
    have pairedMembers : ((branchLabels members.length opened).zip members).map Prod.snd =
        members := List.map_snd_zip (Nat.le_of_eq count.symm)
    obtain ⟨offset, marks⟩ := branches_offset plain done emitted
    rw [pairedMembers, offset_emit, offset_labelled, size_tableSwitch _ occupied,
      count] at offset marks
    refine ⟨offset, fun _ => ⟨branchLabels members.length opened, ?_, count, ?_⟩⟩
    · exact ⟨_, switched, branches_assembling plain.assembling _ _ _ _ done, offset_labelled ..⟩
    · intro ordinal label found
      have below : ordinal < members.length := count ▸ (List.getElem?_eq_some_iff.mp found).1
      refine marks ordinal label members[ordinal] ?_
      rw [List.getElem?_zip_eq_some]
      exact ⟨found, List.getElem?_eq_getElem below⟩

/-- A section that is emitted is there, and takes the bytes that are meant for it. -/
theorem selectorSection_offset (plain : Plain branch opcodes) {wrongSelectorText : String}
    {arities : Option (List UInt16)} {before after : Assembler} (sound : before.Sound)
    (done : selectorSection members wrongSelectorText arities branch before = .ok after) :
    after.offset = before.offset + sectionSize arities.isSome (members.map opcodes) ∧
      HasSection after before.offset arities.isSome (members.map opcodes) := by
  have behind := opening_assembling plain.assembling done
  have openedSound := (opening_assembles members.length wrongSelectorText arities before).sound sound
  have opened := @opening_offset members.length wrongSelectorText arities before
  obtain ⟨message, bounds⟩ := opening_bounds members.length wrongSelectorText arities sound
  rw [selectorSection_eq] at done
  generalize opening members.length wrongSelectorText arities before = opening at *
  obtain ⟨dispatched, emitted, rest⟩ := exists_of_bind_ok done
  obtain rfl := Except.ok.inj rest
  have dispatches := dispatching_assembling plain.assembling emitted
  have defines := (Move.defineLabel opening).sound openedSound
  obtain ⟨offset, switch⟩ := dispatching_offset plain openedSound emitted
  have fallback : dispatched.offset =
      before.offset + fallbackDistance arities.isSome (members.map opcodes) := by
    rw [offset, opened, fallbackDistance, branchDistance, List.take_length, List.length_map]
    omega
  refine ⟨?_, ?_, ?_⟩
  · rw [offset_emit, offset_mark, fallback, sectionSize]
    rfl
  · rw [List.length_map]
    exact ⟨message, bounds.later behind⟩
  · intro occupied
    obtain ⟨labels, switches, count, marks⟩ := switch (by simpa using occupied)
    have closes : Assembles dispatched ((dispatched.mark (fallbackLabel opening)).emit
        (.throwIllegal (before.message wrongSelectorText).1)) :=
      (Assembles.single (.mark dispatched _)).trans (emit_assembles ..)
    refine ⟨_, labels, opened ▸ switches.later closes, by rw [count, List.length_map], ?_, ?_⟩
    · exact ⟨dispatched, dispatches.sound defines, emit_assembles .., fallback⟩
    · intro ordinal label found
      have marked := (marks ordinal label found).later closes
      rwa [opened, Nat.add_assoc, Nat.add_assoc, ← Nat.add_assoc (switchDistance _),
        ← List.length_map opcodes] at marked

end Sections

/-! ## Branches -/

theorem constructorBranch_plain : Plain constructorBranch constructorOpcodes where
  emitting := constructorBranch_emitting
  assembling := constructorBranch_assembling
  inBranch constructor := (constructorOpcodes_reaches constructor).inBranch

section Described

variable (description : TypeDescription)

theorem methodBranch_plain : Plain (methodBranch description) (methodOpcodes description) where
  emitting := methodBranch_emitting description
  assembling := methodBranch_assembling description
  inBranch method := (methodOpcodes_reaches description method).inBranch

theorem readBranch_plain : Plain (readBranch description) (readOpcodes description) where
  emitting := readBranch_emitting description
  assembling := readBranch_assembling description
  inBranch field := (readOpcodes_reaches description field).inBranch

theorem writeBranch_plain : Plain (writeBranch description) (writeOpcodes description) where
  emitting := writeBranch_emitting description
  assembling := writeBranch_assembling description
  inBranch field := (writeOpcodes_reaches description field).inBranch

/-! ## Meant offsets -/

/-- The operations of the entry point that takes no selector. -/
def defaultOpcodes : List Opcode :=
  if description.defaultConstructor?.isSome then [.construct, .returnTop] else [.throwNoDefault]

/-- The operations of each branch of an entry point; one that takes no selector has none. -/
def branchOpcodes : EntryPoint → List (List Opcode)
  | .newDefault => []
  | .newInstance => description.constructors.map constructorOpcodes
  | .invoke => description.methods.map (methodOpcodes description)
  | .getField => description.fields.map (readOpcodes description)
  | .setField => description.fields.map (writeOpcodes description)

/-- Whether the selector of an entry point comes with arguments. -/
def hasArguments : EntryPoint → Bool
  | .newInstance | .invoke => true
  | .newDefault | .getField | .setField => false

/-- The count of bytes that start at an entry point. -/
def stretchSize : EntryPoint → Nat
  | .newDefault => room (defaultOpcodes description)
  | entryPoint => sectionSize (hasArguments entryPoint) (branchOpcodes description entryPoint)

/-- The offset that is meant by an entry point: they stand one behind the other in slot order. -/
def meantEntry (entryPoint : EntryPoint) : Nat :=
  ((EntryPoint.all.takeWhile (· ≠ entryPoint)).map (stretchSize description)).sum

/-- The count of bytes of a dispatcher. -/
def codeSize : Nat := (EntryPoint.all.map (stretchSize description)).sum

theorem defaultConstruction_offset :
    (defaultConstruction description {}).offset = stretchSize description .newDefault := by
  unfold defaultConstruction stretchSize defaultOpcodes
  cases description.defaultConstructor? with
  | none => rfl
  | some ordinal =>
      rw [offset_emit, offset_emitCall, offset_intern]
      rfl

end Described

namespace Stretches

variable {description : TypeDescription} {entryOffsets : EntryOffsets} {final : Assembler}
  (stretches : Stretches description entryOffsets final)

/-- The code in front of an entry point. -/
def front : EntryPoint → Assembler
  | .newDefault => {}
  | .newInstance => defaultConstruction description {}
  | .invoke => stretches.afterConstructors
  | .getField => stretches.afterMethods
  | .setField => stretches.afterReads

include stretches

theorem front_assembles (entryPoint : EntryPoint) :
    Assembles (stretches.front entryPoint) final := by
  cases entryPoint with
  | newDefault =>
      exact (defaultConstruction_assembles description {}).trans stretches.constructors_assembles
  | newInstance => exact stretches.constructors_assembles
  | invoke => exact stretches.methods_assembles
  | getField => exact stretches.reads_assembles
  | setField => exact stretches.writes_assembles

theorem sound_front (entryPoint : EntryPoint) : (stretches.front entryPoint).Sound := by
  cases entryPoint with
  | newDefault => exact sound_empty
  | newInstance => exact sound_default
  | invoke => exact stretches.sound_afterConstructors
  | getField => exact stretches.sound_afterMethods
  | setField => exact stretches.sound_afterReads

theorem of_entryOffsets (entryPoint : EntryPoint) :
    entryOffsets.of entryPoint = UInt32.ofNat (stretches.front entryPoint).offset := by
  refine (congrArg (EntryOffsets.of · entryPoint) stretches.entries).trans ?_
  cases entryPoint <;> rfl

theorem offset_front_sections :
    stretches.afterConstructors.offset =
        (defaultConstruction description {}).offset + stretchSize description .newInstance ∧
      stretches.afterMethods.offset =
        stretches.afterConstructors.offset + stretchSize description .invoke ∧
      stretches.afterReads.offset =
        stretches.afterMethods.offset + stretchSize description .getField ∧
      final.offset = stretches.afterReads.offset + stretchSize description .setField :=
  ⟨(selectorSection_offset constructorBranch_plain sound_default stretches.constructors).1,
    (selectorSection_offset (methodBranch_plain description) stretches.sound_afterConstructors
      stretches.methods).1,
    (selectorSection_offset (readBranch_plain description) stretches.sound_afterMethods
      stretches.reads).1,
    (selectorSection_offset (writeBranch_plain description) stretches.sound_afterReads
      stretches.writes).1⟩

/-- The code goes where it is meant to go, one stretch behind the other. -/
theorem offset_front (entryPoint : EntryPoint) :
    (stretches.front entryPoint).offset = meantEntry description entryPoint := by
  have first := defaultConstruction_offset description
  obtain ⟨constructors, methods, reads, -⟩ := stretches.offset_front_sections
  cases entryPoint <;>
    simp [front, meantEntry, EntryPoint.all, first, constructors, methods, reads, Nat.add_assoc]

theorem offset_final : final.offset = codeSize description := by
  have first := defaultConstruction_offset description
  obtain ⟨constructors, methods, reads, writes⟩ := stretches.offset_front_sections
  simp [codeSize, EntryPoint.all, first, constructors, methods, reads, writes, Nat.add_assoc]

/-- An entry point that takes a selector starts a section. -/
theorem hasSection {entryPoint : EntryPoint} (selects : entryPoint ≠ .newDefault) :
    HasSection final (meantEntry description entryPoint) (hasArguments entryPoint)
      (branchOpcodes description entryPoint) := by
  rw [← stretches.offset_front entryPoint]
  cases entryPoint with
  | newDefault => exact absurd rfl selects
  | newInstance =>
      exact (selectorSection_offset constructorBranch_plain sound_default
        stretches.constructors).2.later stretches.methods_assembles
  | invoke =>
      exact (selectorSection_offset (methodBranch_plain description)
        stretches.sound_afterConstructors stretches.methods).2.later stretches.reads_assembles
  | getField =>
      exact (selectorSection_offset (readBranch_plain description) stretches.sound_afterMethods
        stretches.reads).2.later stretches.writes_assembles
  | setField =>
      exact (selectorSection_offset (writeBranch_plain description) stretches.sound_afterReads
        stretches.writes).2

end Stretches

/-! ## Written offsets -/

section Described

variable (description : TypeDescription) (entryPoint : EntryPoint)

/-- The offset that is meant by the check of the selector. -/
def meantBounds : Nat :=
  meantEntry description entryPoint + boundsDistance (hasArguments entryPoint)

/-- The offset that is meant by the switch of an entry point. -/
def meantSwitch : Nat :=
  meantEntry description entryPoint + switchDistance (hasArguments entryPoint)

/-- The offset that is meant by the branch of an ordinal. -/
def meantBranch (ordinal : Nat) : Nat :=
  meantEntry description entryPoint +
    branchDistance (hasArguments entryPoint) (branchOpcodes description entryPoint) ordinal

/-- The offset that is meant by the report of the selector. -/
def meantFallback : Nat :=
  meantEntry description entryPoint +
    fallbackDistance (hasArguments entryPoint) (branchOpcodes description entryPoint)

end Described

/-- All counts and ordinals of members are written as they are. -/
structure WritesCounts (description : TypeDescription) (image : Image) : Prop where
  bounds : ∀ entryPoint, entryPoint ≠ .newDefault → ∃ count message,
    Instruction.decode image.code (meantBounds description entryPoint) =
      .ok (.checkBounds count message) ∧
    count.toNat = (branchOpcodes description entryPoint).length
  ordinals : ((image.constants.toList.filterMap ordinal?).map UInt32.toNat).Perm
    (List.range description.constructors.length ++
      (List.range description.methods.length ++ List.range description.fields.length))

/-- The entry points and the targets of the switches are the meant offsets, as far as these are
written. -/
structure WritesOffsets (written : Nat → Nat) (description : TypeDescription) (image : Image) :
    Prop where
  entries : ∀ entryPoint, image.entry entryPoint = written (meantEntry description entryPoint)
  switches : ∀ entryPoint, branchOpcodes description entryPoint ≠ [] → ∃ fallback targets,
    Instruction.decode image.code (meantSwitch description entryPoint) =
      .ok (.tableSwitch fallback targets) ∧
    fallback.toNat = written (meantFallback description entryPoint) ∧
    targets.map UInt32.toNat =
      (List.range (branchOpcodes description entryPoint).length).map fun ordinal =>
        written (meantBranch description entryPoint ordinal)

section References

variable {Member : Type} {name : Nat → Member → Constant}

/-- The ordinals of references are the places of members, as long as these fit 32 bits. -/
theorem ordinals_references
    (numbered : ∀ ordinal member, ordinal? (name ordinal member) = some (UInt32.ofNat ordinal))
    {members : List Member} (few : members.length < 2 ^ 16) :
    ((references name members).filterMap ordinal?).map UInt32.toNat =
      List.range members.length := by
  have ordinals : (references name members).filterMap ordinal? =
      (List.range members.length).map UInt32.ofNat := by
    rw [references, List.filterMap_map, List.range_eq_range', ← List.zipIdx_map_snd,
      List.map_map, ← List.filterMap_eq_map]
    exact List.filterMap_congr fun entry _ => numbered entry.2 entry.1
  rw [ordinals, List.map_map]
  refine (List.map_congr_left fun ordinal isOrdinal => ?_).trans (List.map_id _)
  rw [List.mem_range] at isOrdinal
  exact UInt32.toNat_ofNat_of_lt' (Nat.lt_trans (Nat.lt_trans isOrdinal few) (by decide))

end References

/-- An image of a description with the code it was made of, however long that is. -/
structure Finished (description : TypeDescription) (image : Image) where
  final : Assembler
  stretches : Stretches description image.entryOffsets final
  faults : final.faults = #[]
  marked : final.neverMarked = []
  code : image.code = final.patched

theorem finished_of_built {description : TypeDescription} {image : Image}
    (built : Image.ofDescription description = .ok image) :
    Nonempty (Finished description image) := by
  obtain ⟨final, assembled, emitted, finished, isImage⟩ := ofDescription_finish built
  obtain ⟨stretches⟩ := program_ok emitted
  obtain ⟨faults, marked, code, -⟩ := finish_ok finished
  exact ⟨{ final, stretches, faults, marked, code := isImage ▸ code }⟩

section Images

variable {description : TypeDescription} {image : Image}

theorem Finished.size_code (finished : Finished description image) :
    image.code.size = finished.final.offset := by
  rw [finished.code, size_patched finished.stretches.sound_final finished.marked]

theorem Finished.meantEntry_le (finished : Finished description image) (entryPoint : EntryPoint) :
    meantEntry description entryPoint ≤ image.code.size := by
  rw [← finished.stretches.offset_front, finished.size_code]
  exact ((finished.stretches.front_assembles entryPoint).extends_of_sound
    (finished.stretches.sound_front entryPoint)).offset

theorem size_code_of_built (built : Image.ofDescription description = .ok image) :
    image.code.size = codeSize description := by
  obtain ⟨finished⟩ := finished_of_built built
  rw [finished.size_code, finished.stretches.offset_final]

variable (built : Image.ofDescription description = .ok image)
include built

/-- An entry point has as few branches as there are members. -/
theorem length_branchOpcodes_lt (entryPoint : EntryPoint) :
    (branchOpcodes description entryPoint).length < 2 ^ 16 := by
  have few : description.memberCount < 2 ^ 16 := Image.memberCount_lt_capacity built
  rw [TypeDescription.memberCount] at few
  cases entryPoint <;> simp only [branchOpcodes, List.length_map, List.length_nil] <;> omega

theorem writesCounts_of_built : WritesCounts description image where
  bounds entryPoint selects := by
    obtain ⟨finished⟩ := finished_of_built built
    obtain ⟨message, emits⟩ := (finished.stretches.hasSection selects).bounds
    have few := length_branchOpcodes_lt built entryPoint
    exact ⟨_, message, finished.code ▸ emits.decode finished.marked (Nat.zero_le _),
      UInt32.toNat_ofNat_of_lt' (Nat.lt_trans few (by decide))⟩
  ordinals := by
    have few : description.memberCount < 2 ^ 16 := Image.memberCount_lt_capacity built
    rw [TypeDescription.memberCount] at few
    have members := ((Image.perm_memberReferences built).filterMap ordinal?).map UInt32.toNat
    rw [memberReferences, List.filterMap_append, List.filterMap_append, List.map_append,
      List.map_append, ordinals_references (fun _ _ => rfl) (by omega),
      ordinals_references (fun _ _ => rfl) (by omega),
      ordinals_references (fun _ _ => rfl) (by omega), List.filterMap_filter] at members
    have all (constant : Constant) :
        (if (ordinal? constant).isSome then ordinal? constant else none) = ordinal? constant := by
      cases ordinal? constant <;> rfl
    simpa only [all] using members

/-- What is written of an offset are its low 32 bits. -/
theorem writesOffsets_of_built {written : Nat → Nat}
    (low : ∀ offset ≤ image.code.size, written offset = offset % 2 ^ 32) :
    WritesOffsets written description image where
  entries entryPoint := by
    obtain ⟨finished⟩ := finished_of_built built
    rw [low _ (finished.meantEntry_le entryPoint), Image.entry, finished.stretches.of_entryOffsets,
      finished.stretches.offset_front, UInt32.toNat_ofNat']
  switches entryPoint occupied := by
    obtain ⟨finished⟩ := finished_of_built built
    have selects : entryPoint ≠ .newDefault := by
      rintro rfl
      exact occupied rfl
    obtain ⟨fallback, labels, emits, count, marks, branchMarks⟩ :=
      (finished.stretches.hasSection selects).switch occupied
    have few := length_branchOpcodes_lt built entryPoint
    have place {label : Label} {offset : Nat} (marks : finished.final.MarksAt label offset) :
        (finished.final.writtenPlace label).toNat = written offset := by
      rw [low offset (finished.size_code ▸ marks.offset_le), marks.writtenPlace finished.faults]
    have bounded : (Instruction.tableSwitch fallback labels).targets.length ≤ 2 ^ 32 := by
      rw [Instruction.targets, List.length_cons, count]
      omega
    have decoded := emits.decode finished.marked bounded
    rw [← finished.code] at decoded
    refine ⟨_, _, decoded, place marks, ?_⟩
    rw [List.map_map]
    refine List.ext_getElem (by simp [count]) fun ordinal below _ => ?_
    rw [List.length_map] at below
    simp only [List.getElem_map, List.getElem_range, Function.comp_apply]
    exact place (branchMarks ordinal _ (List.getElem?_eq_getElem below))

end Images

/-- Building writes every count and ordinal as it is, but of its offsets only the low 32 bits. So
entry points and switches lead where they are meant to lead as long as the code is shorter than
2 ^ 32 bytes; nothing rejects longer code. -/
theorem offsets_of_built {description : TypeDescription} {image : Image}
    (built : Image.ofDescription description = .ok image) :
    image.code.size = codeSize description ∧
      WritesCounts description image ∧
      WritesOffsets (· % 2 ^ 32) description image ∧
      (codeSize description < 2 ^ 32 → WritesOffsets id description image) := by
  have size := size_code_of_built built
  refine ⟨size, writesCounts_of_built built, writesOffsets_of_built built fun _ _ => rfl, ?_⟩
  intro short
  refine writesOffsets_of_built built fun offset inside => ?_
  rw [id, Nat.mod_eq_of_lt (by omega)]

theorem offsets_of_counter :
    Image.ofDescription counter = .ok counterImage ∧
      counterImage.code.size = codeSize counter ∧
      WritesCounts counter counterImage ∧
      WritesOffsets (· % 2 ^ 32) counter counterImage ∧
      (codeSize counter < 2 ^ 32 → WritesOffsets id counter counterImage) :=
  ⟨counter_built, offsets_of_built counter_built⟩

/-! ## Code that is too long -/

/-- A static method with many parameters of one class. -/
def crowdedMethod (parameters : Nat) : MethodDescription where
  name := "m"
  parameters := List.replicate parameters (.reference .string)
  returnType := .void
  declaringClass := ⟨7⟩
  declaringIsInterface := false
  modifiers := { isStatic := true }

/-- A type of many static methods alike. -/
def crowd (count parameters : Nat) : TypeDescription where
  classId := ⟨7⟩
  name := "app.Vast"
  constructors := []
  methods := List.replicate count (crowdedMethod parameters)
  fields := []

section Crowd

variable {count parameters : Nat}

theorem room_flatten_replicate (count : Nat) (opcodes : List Opcode) :
    room (List.replicate count opcodes).flatten = count * room opcodes := by
  induction count with
  | zero => simp
  | succ count inductionHypothesis =>
      rw [List.replicate_succ, List.flatten_cons, room_append, inductionHypothesis,
        Nat.succ_mul, Nat.add_comm]

/-- Each argument takes three bytes to be loaded and three to be cast. -/
theorem room_crowdedMethod (description : TypeDescription) :
    room (methodOpcodes description (crowdedMethod parameters)) = 6 * parameters + 6 := by
  have arguments : argumentOpcodes (crowdedMethod parameters).parameters =
      (List.replicate parameters [Opcode.loadArgument, .checkCast]).flatten := by
    rw [argumentOpcodes, List.flatMap_def, crowdedMethod, List.map_replicate]
    rfl
  have receives : receiverOpcodes description
      ((crowdedMethod parameters).callKind = .static) = [] := rfl
  have answers : answerOpcodes (crowdedMethod parameters).returnType = [.pop, .constNull] := rfl
  rw [methodOpcodes, callOpcodes, arguments, answers, receives]
  simp only [List.nil_append, room_append, room_cons, room_nil, room_flatten_replicate,
    Opcode.size, Opcode.fixedOperandLength]
  omega

theorem meantEntry_crowd (occupied : count ≠ 0) :
    meantEntry (crowd count parameters) .getField = 46 + count * (6 * parameters + 10) := by
  have branches : branchOpcodes (crowd count parameters) .invoke =
      List.replicate count (methodOpcodes (crowd count parameters) (crowdedMethod parameters)) :=
    List.map_replicate
  have before : meantEntry (crowd count parameters) .getField =
      1 + (18 + (stretchSize (crowd count parameters) .invoke + 0)) := rfl
  have calls : stretchSize (crowd count parameters) .invoke =
      15 + (9 + 4 * count) + count * (6 * parameters + 6) + 3 := by
    show sectionSize true (branchOpcodes (crowd count parameters) .invoke) = _
    rw [sectionSize, fallbackDistance, branchDistance, List.take_length, branches,
      room_flatten_replicate, room_crowdedMethod, List.length_replicate, switchSize,
      if_neg occupied]
    rfl
  rw [before, calls, Nat.mul_add, Nat.mul_add]
  omega

theorem eq_crowdedMethod {method : MethodDescription}
    (among : method ∈ (crowd count parameters).methods) : method = crowdedMethod parameters :=
  List.eq_of_mem_replicate among

theorem eq_of_mem_parameterLists_crowd {list : List ValueType}
    (among : list ∈ parameterLists (crowd count parameters)) :
    list = List.replicate parameters (.reference .string) := by
  obtain ⟨method, isMethod, rfl⟩ := List.mem_map.mp among
  rw [eq_crowdedMethod isMethod, crowdedMethod]

/-- At most two tables of arities and five messages come with the classes and the members. -/
theorem poolSize_le (description : TypeDescription) :
    poolSize description ≤ 7 + (castClasses description).card + description.memberCount := by
  rw [poolSize, TypeDescription.memberCount]
  split <;> omega

/-- The only casts are those of the arguments. -/
theorem card_castClasses_crowd : (castClasses (crowd count parameters)).card ≤ 1 := by
  refine Finset.card_le_one_iff_subset_singleton.mpr ⟨.string, fun target casts => ?_⟩
  rw [Finset.mem_singleton]
  rw [mem_castClasses, classRef_mem_constantsOf] at casts
  obtain ⟨-, declared | ⟨receives, -⟩⟩ := casts
  · rcases List.mem_append.mp declared with inList | isField
    · obtain ⟨list, isList, inList⟩ := List.mem_flatten.mp inList
      rw [eq_of_mem_parameterLists_crowd isList] at inList
      exact ValueType.reference.inj (List.eq_of_mem_replicate inList)
    · cases isField
  · rcases receives with ⟨method, isMethod, isInstance⟩ | ⟨field, isField, -⟩
    · exact absurd (by rw [eq_crowdedMethod isMethod]; rfl) isInstance
    · cases isField

/-- Few enough methods with few enough parameters are built, however long their code is. -/
theorem crowd_built (few : count + 8 ≤ UInt16.size) (fewParameters : parameters < UInt16.size) :
    ∃ image, Image.ofDescription (crowd count parameters) = .ok image := by
  have short : overlong? (parameterLists (crowd count parameters)) = none := by
    refine overlong?_eq_none_iff.mpr fun list isList => ?_
    rwa [eq_of_mem_parameterLists_crowd isList, List.length_replicate]
  have fits : ConstantPool.Fits (constantsOf (crowd count parameters)) := by
    have casts := @card_castClasses_crowd count parameters
    have members : (crowd count parameters).memberCount = count := by
      simp [TypeDescription.memberCount, crowd]
    have size := poolSize_le (crowd count parameters)
    rw [fits_constantsOf_iff short, ConstantPool.capacity]
    omega
  rcases Image.ofDescription_cases short with ⟨-, image, built, -⟩ | ⟨overfull, -⟩
  · exact ⟨image, built⟩
  · exact absurd fits overfull

end Crowd

/-- Code of more than 2 ^ 32 bytes is built, and not all that is written in it leads where it is
meant to lead: the offset 4295142106 is written as 174810. -/
theorem offsets_of_crowd :
    ∃ image, Image.ofDescription (crowd 10923 65535) = .ok image ∧ 2 ^ 32 ≤ image.code.size ∧
      meantEntry (crowd 10923 65535) .getField = 4295142106 ∧
      image.entry .getField = 174810 ∧
      ¬WritesOffsets id (crowd 10923 65535) image := by
  obtain ⟨image, built⟩ := @crowd_built 10923 65535 (by decide) (by decide)
  have meant : meantEntry (crowd 10923 65535) .getField = 4295142106 :=
    meantEntry_crowd (by decide)
  have written : image.entry .getField = 174810 := by
    rw [(writesOffsets_of_built built fun _ _ => rfl).entries .getField, meant]
    rfl
  obtain ⟨finished⟩ := finished_of_built built
  have long := finished.meantEntry_le .getField
  refine ⟨image, built, by omega, meant, written, fun faithful => ?_⟩
  have same := faithful.entries .getField
  rw [written, meant] at same
  cases same

end Dispatcher

end OrdinalDispatch.Code

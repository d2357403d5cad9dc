import Mathlib.Tactic.Choose
import OrdinalDispatch.Proofs.Code.Checking

/-!
Contract: where control goes from each place of a dispatcher.

Owns: the flow from the code assembled so far to every end that the machine can
come to, that the flow of a dispatcher starts at each entry point, and the
highest depth of the operand stack that is tracked on the way.

Does not own: that the machine follows the flow, see
`OrdinalDispatch.Proofs.Machine.StackDiscipline`.

The tracked depth is set to zero at every label, whatever it was before. It is
the depth of the machine's stack nevertheless: control passes a label only where
nothing is on the stack.
-/

set_option autoImplicit false

namespace OrdinalDispatch.Code

namespace Assembler

/-! ## Flow -/

/-- From here on control goes straight to a return that takes all there is, to a failure, or to a
switch with nothing on the stack, and from each label of the switch on again. -/
inductive Leads (final : Assembler) : Assembler → Prop where
  | onward {before after : Assembler} (move : StraightMove before after)
      (rest : Leads final after) : Leads final before
  | returns {before : Assembler} (answer : Instruction Label) (isReturn : answer.IsReturn)
      (exact : before.depth = operandsTaken 0 answer)
      (moves : Assembles (before.emit answer) final) : Leads final before
  | throws {before : Assembler} (failure : Instruction Label) (isThrow : failure.IsThrow)
      (fits : before.Fits 0 failure) (moves : Assembles (before.emit failure) final) :
      Leads final before
  | switches {before : Assembler} (fallback : Label) (targets : List Label)
      (empty : before.depth = 0)
      (moves : Assembles (before.emit (.tableSwitch fallback targets)) final)
      (start : ∀ label ∈ fallback :: targets, Assembler)
      (reaches : ∀ label isTarget,
        Assembles (before.emit (.tableSwitch fallback targets)) (start label isTarget) ∧
          Assembles ((start label isTarget).mark label) final)
      (rest : ∀ label isTarget, Leads final ((start label isTarget).mark label)) :
      Leads final before

variable {final : Assembler}

theorem Leads.of_straight {before after : Assembler} (straight : Straight before after)
    (rest : Leads final after) : Leads final before := by
  induction straight with
  | refl => exact rest
  | tail _ move inductionHypothesis => exact inductionHypothesis (.onward move rest)

theorem Leads.assembles {assembler : Assembler} (leads : Leads final assembler) :
    Assembles assembler final := by
  induction leads with
  | onward move _ inductionHypothesis =>
      exact (Assembles.single move.move).trans inductionHypothesis
  | returns answer _ _ moves => exact (Assembles.single (.emitCall _ 0 answer)).trans moves
  | throws failure _ _ moves => exact (Assembles.single (.emitCall _ 0 failure)).trans moves
  | switches fallback targets _ moves =>
      exact (Assembles.single (.emitCall _ 0 (.tableSwitch fallback targets))).trans moves

/-- An instruction is still to come. -/
theorem Leads.offset_lt {assembler : Assembler} (leads : Leads final assembler)
    (sound : assembler.Sound) : assembler.offset < final.offset := by
  have emits {before : Assembler} (instruction : Instruction Label) (sound : before.Sound)
      (moves : Assembles (before.emit instruction) final) : before.offset < final.offset := by
    have positive := instruction.size_pos
    have grows := (moves.extends_of_sound ((Move.emitCall before 0 instruction).sound sound)).offset
    rw [offset_emit] at grows
    omega
  induction leads with
  | onward move _ inductionHypothesis =>
      exact Nat.lt_of_le_of_lt (move.move.extends_of_sound sound).offset
        (inductionHypothesis (move.move.sound sound))
  | returns answer _ _ moves => exact emits answer sound moves
  | throws failure _ _ moves => exact emits failure sound moves
  | switches fallback targets _ moves => exact emits (.tableSwitch fallback targets) sound moves

/-! ## Labels on the way -/

/-- A label that has a place in the end has it already or gets it from here on. -/
theorem Move.placeOf?_before {before after : Assembler} (move : Move before after) {label : Label}
    {place : Nat} (found : after.placeOf? label = some place) :
    before.placeOf? label = some place ∨ before.offset ≤ place := by
  cases move with
  | emitCall argumentCount instruction =>
      rw [placeOf?_emitCall] at found
      exact .inl found
  | intern constant =>
      rw [placeOf?_intern] at found
      exact .inl found
  | defineLabel => exact .inl found
  | mark label =>
      exact (placeOf?_of_mark found).imp_right fun marked => Nat.le_of_eq marked.2.symm

theorem Assembles.placeOf?_before {before after : Assembler} (moves : Assembles before after)
    (sound : before.Sound) {label : Label} {place : Nat}
    (found : after.placeOf? label = some place) :
    before.placeOf? label = some place ∨ before.offset ≤ place := by
  induction moves with
  | refl => exact .inl found
  | tail front move inductionHypothesis =>
      rcases move.placeOf?_before found with known | late
      · exact inductionHypothesis known
      · exact .inr (Nat.le_trans (Assembles.extends_of_sound front sound).offset late)

/-- No label is placed ahead of the code. -/
theorem place_le_offset {assembler : Assembler} (origin : Assembles {} assembler) {label : Label}
    {place : Nat} (found : assembler.placeOf? label = some place) : place ≤ assembler.offset := by
  induction origin with
  | refl => cases found
  | @tail before after front move inductionHypothesis =>
      have grows := (move.extends_of_sound (Assembles.sound front sound_empty)).offset
      cases move with
      | emitCall argumentCount instruction =>
          rw [placeOf?_emitCall] at found
          exact Nat.le_trans (inductionHypothesis found) grows
      | intern constant =>
          rw [placeOf?_intern] at found
          exact Nat.le_trans (inductionHypothesis found) grows
      | defineLabel => exact inductionHypothesis found
      | mark label =>
          rw [offset_mark]
          rcases placeOf?_of_mark found with known | ⟨-, here⟩
          · exact inductionHypothesis known
          · exact Nat.le_of_eq here

/-- Nothing is on the stack where a label is placed. -/
def ClearAtLabels (assembler : Assembler) : Prop :=
  assembler.depth = 0 ∨ ∀ label place, assembler.placeOf? label = some place →
    place < assembler.offset

/-- Behind an instruction there is no label yet. -/
theorem clearAtLabels_emitCall {assembler : Assembler} (origin : Assembles {} assembler)
    (argumentCount : UInt64) (instruction : Instruction Label) :
    (assembler.emitCall argumentCount instruction).ClearAtLabels := by
  right
  intro label place found
  rw [placeOf?_emitCall] at found
  have behind := place_le_offset origin found
  have positive := instruction.size_pos
  rw [offset_emitCall]
  omega

theorem StraightMove.clearAtLabels {before after : Assembler} (move : StraightMove before after)
    (origin : Assembles {} before) (clear : before.ClearAtLabels) : after.ClearAtLabels := by
  cases move with
  | emitCall argumentCount instruction =>
      exact clearAtLabels_emitCall origin argumentCount instruction
  | intern constant =>
      refine clear.imp (depth_intern before constant).trans fun behind label place found => ?_
      rw [placeOf?_intern] at found
      rw [offset_intern]
      exact behind label place found
  | defineLabel => exact clear
  | mark label => exact .inl (depth_mark before label)

/-- Where an instruction comes next, every label that will be placed here is placed here
already. -/
theorem depth_eq_zero_of_emit {assembler : Assembler} (origin : Assembles {} assembler)
    (clear : assembler.ClearAtLabels) {argumentCount : UInt64} {instruction : Instruction Label}
    (moves : Assembles (assembler.emitCall argumentCount instruction) final) {label : Label}
    (found : final.placeOf? label = some assembler.offset) : assembler.depth = 0 := by
  have emits := Move.emitCall assembler argumentCount instruction
  have positive := instruction.size_pos
  rcases moves.placeOf?_before (emits.sound (origin.sound sound_empty)) found with known | late
  · rw [placeOf?_emitCall] at known
    rcases clear with empty | behind
    · exact empty
    · exact absurd (behind label _ known) (Nat.lt_irrefl _)
  · rw [offset_emitCall] at late
    omega

/-- Along the flow the stack is empty wherever a label will be placed. -/
theorem Leads.depth_eq_zero {assembler : Assembler} (leads : Leads final assembler)
    (origin : Assembles {} assembler) (clear : assembler.ClearAtLabels) {label : Label}
    (found : final.placeOf? label = some assembler.offset) : assembler.depth = 0 := by
  induction leads with
  | @onward before after move rest inductionHypothesis =>
      have onward := inductionHypothesis (origin.trans (.single move.move))
        (move.clearAtLabels origin clear)
      cases move with
      | emitCall argumentCount instruction =>
          exact depth_eq_zero_of_emit origin clear rest.assembles found
      | intern constant =>
          rw [offset_intern, depth_intern] at onward
          exact onward found
      | defineLabel => exact onward found
      | mark label _ empty => exact empty
  | returns answer _ _ moves => exact depth_eq_zero_of_emit origin clear moves found
  | throws failure _ _ moves => exact depth_eq_zero_of_emit origin clear moves found
  | switches _ _ empty => exact empty

end Assembler

/-! ## Sections -/

namespace Dispatcher

open Assembler

/-- The most that members of a list need. -/
def highestNeed {Member : Type} (need : Member → Nat) (members : List Member) : Nat :=
  (members.map need).foldr max 0

section Sections

variable {Member : Type} {need : Member → Nat} {branch : Nat → Member → Emission}
  {final : Assembler}

/-- The branch of a member leads to its return. -/
theorem Returns.leads (returns : Returns need branch) {ordinal : Nat} {member : Member}
    {before after : Assembler} (done : branch ordinal member before = .ok after)
    (sound : before.Sound) (empty : before.depth = 0) (moves : Assembles after final) :
    Leads final before := by
  obtain ⟨last, answer, straight, rfl, isReturn, exact, -⟩ := returns _ _ _ _ done sound empty
  exact .of_straight straight (.returns answer isReturn exact moves)

theorem Returns.assembling (returns : Returns need branch) {ordinal : Nat} {member : Member}
    {before after : Assembler} (done : branch ordinal member before = .ok after)
    (sound : before.Sound) (empty : before.depth = 0) : Assembles before after :=
  (returns.careful done sound empty).assembles

/-- The branches of a section come to the highest need among their members. -/
theorem branches_maxDepth (returns : Returns need branch) {first : Nat}
    {pairs : List (Label × Member)} {before after : Assembler}
    (done : branches branch first pairs before = .ok after) (sound : before.Sound) :
    after.maxDepth = max before.maxDepth (highestNeed need (pairs.map Prod.snd)) := by
  induction pairs generalizing first before with
  | nil =>
      obtain rfl := Except.ok.inj done
      exact (Nat.max_eq_left (Nat.zero_le _)).symm
  | cons pair rest inductionHypothesis =>
      obtain ⟨label, member⟩ := pair
      obtain ⟨middle, emitted, following⟩ := exists_of_bind_ok done
      have marked := (Move.mark before label).sound sound
      have empty := depth_mark before label
      obtain ⟨-, -, -, -, -, -, highest⟩ := returns _ _ _ _ emitted marked empty
      have others := inductionHypothesis following
        ((returns.assembling emitted marked empty).sound marked)
      rw [others, highest, maxDepth_mark, Nat.max_assoc]
      rfl

/-- The opening of a section leaves an empty stack as it is. -/
theorem opening_levels (count : Nat) (wrongSelectorText : String)
    (arities : Option (List UInt16)) {before : Assembler} (empty : before.depth = 0) :
    (opening count wrongSelectorText arities before).depth = 0 ∧
      (opening count wrongSelectorText arities before).maxDepth = before.maxDepth := by
  cases arities with
  | none =>
      simp [opening, selectorChecks, message, empty, operandsTaken, operandsGiven.eq_def]
  | some table =>
      simp [opening_some, arityCheck, argumentsCheck, message, empty, operandsTaken,
        operandsGiven.eq_def]

/-- Each label of a switch is marked at a place that leads on. -/
theorem switch_leads (returns : Returns need branch)
    (assembling : ∀ ordinal member, Assembling (branch ordinal member)) {members : List Member}
    {opened switched dispatched : Assembler} (sound : switched.Sound)
    (done : branches branch 0 ((branchLabels members.length opened).zip members) switched =
      .ok dispatched)
    (reports : Leads final (dispatched.mark (fallbackLabel opened))) {label : Label}
    (isTarget : label ∈ fallbackLabel opened :: branchLabels members.length opened) :
    ∃ start, Assembles switched start ∧ Assembles (start.mark label) final ∧
      Leads final (start.mark label) := by
  have front := branches_assembling assembling _ _ _ _ done
  rcases List.mem_cons.mp isTarget with rfl | isBranch
  · exact ⟨dispatched, front, reports.assembles, reports⟩
  · obtain ⟨ordinal, inside, isLabel⟩ := List.mem_iff_getElem.mp isBranch
    have many : ordinal < members.length := by rwa [length_branchLabels] at inside
    have paired : ((branchLabels members.length opened).zip members)[ordinal]? =
        some (label, members[ordinal]) := by
      rw [List.getElem?_zip_eq_some, List.getElem?_eq_getElem inside, isLabel]
      exact ⟨rfl, List.getElem?_eq_getElem many⟩
    obtain ⟨start, finish, before, isBranch, behind⟩ := branches_at assembling done paired
    have marked := (Move.mark start label).sound (before.sound sound)
    have leads := returns.leads isBranch marked (depth_mark start label)
      (behind.trans ((Assembles.single (.mark dispatched _)).trans reports.assembles))
    exact ⟨start, before, leads.assembles, leads⟩

/-- Behind its opening a section leads to the report of the selector or through its switch. -/
theorem dispatching_leads (returns : Returns need branch)
    (assembling : ∀ ordinal member, Assembling (branch ordinal member)) {members : List Member}
    {opened dispatched : Assembler} (sound : opened.Sound) (empty : opened.depth = 0)
    (done : dispatching members branch opened = .ok dispatched)
    (reports : Leads final (dispatched.mark (fallbackLabel opened))) : Leads final opened := by
  unfold dispatching at done
  split at done
  · obtain rfl := Except.ok.inj done
    exact .onward (.defineLabel opened) (.onward (.mark _ _ (Nat.lt_succ_self _) empty) reports)
  · have labels := labelled_straight members.length opened
    have switchSound := (emit_assembles (labelled members.length opened)
      (.tableSwitch (fallbackLabel opened) (branchLabels members.length opened))).sound
        (labels.sound sound)
    have front := branches_assembling assembling _ _ _ _ done
    have targets := fun label => @switch_leads _ _ _ final returns assembling members opened _
      dispatched switchSound done reports label
    choose start reaches marks leads using targets
    refine .of_straight labels (.switches (fallbackLabel opened)
      (branchLabels members.length opened) ((depth_labelled ..).trans empty) ?_ start ?_ leads)
    · exact front.trans ((Assembles.single (.mark dispatched _)).trans reports.assembles)
    · exact fun label isTarget => ⟨reaches label isTarget, marks label isTarget⟩

/-- A section leads on from its start, and ends with nothing on the stack. -/
theorem selectorSection_leads (returns : Returns need branch)
    (assembling : ∀ ordinal member, Assembling (branch ordinal member)) {members : List Member}
    {wrongSelectorText : String} {arities : Option (List UInt16)} {before after : Assembler}
    (sound : before.Sound) (empty : before.depth = 0)
    (done : selectorSection members wrongSelectorText arities branch before = .ok after)
    (moves : Assembles after final) : Leads final before := by
  have opens := opening_straight sound members.length wrongSelectorText arities
  have level := (opening_levels members.length wrongSelectorText arities empty).1
  obtain ⟨dispatched, emitted, fits, rfl⟩ := selectorSection_ok assembling sound done
  exact .of_straight opens (dispatching_leads returns assembling (opens.sound sound) level emitted
    (.throws _ (.illegal _) fits moves))

theorem selectorSection_levels (returns : Returns need branch)
    (assembling : ∀ ordinal member, Assembling (branch ordinal member)) {members : List Member}
    {wrongSelectorText : String} {arities : Option (List UInt16)} {before after : Assembler}
    (sound : before.Sound) (empty : before.depth = 0)
    (done : selectorSection members wrongSelectorText arities branch before = .ok after) :
    after.depth = 0 ∧ after.maxDepth = max before.maxDepth (highestNeed need members) := by
  have opens := opening_straight sound members.length wrongSelectorText arities
  obtain ⟨level, highest⟩ := opening_levels members.length wrongSelectorText arities empty
  obtain ⟨dispatched, emitted, -, rfl⟩ := selectorSection_ok assembling sound done
  have climbs : dispatched.maxDepth = max before.maxDepth (highestNeed need members) := by
    rw [← highest]
    generalize opening members.length wrongSelectorText arities before = opened at *
    unfold dispatching at emitted
    split at emitted
    · rename_i none
      obtain rfl := Except.ok.inj emitted
      rw [List.isEmpty_iff.mp none]
      exact (Nat.max_eq_left (Nat.zero_le _)).symm
    · have labels := labelled_straight members.length opened
      have switches := branches_maxDepth returns emitted
        ((emit_assembles (labelled members.length opened) _).sound
          (labels.sound (opens.sound sound)))
      rw [List.map_snd_zip (Nat.le_of_eq (length_branchLabels ..).symm), maxDepth_emit,
        depth_labelled, maxDepth_labelled, level] at switches
      exact switches.trans (congrArg (max · _) (Nat.max_eq_left (Nat.zero_le _)))
  constructor
  · simp [operandsTaken, operandsGiven.eq_def]
  · simp [operandsTaken, operandsGiven.eq_def, climbs]

end Sections

/-! ## The whole program -/

/-- Enough for some members is enough for others that need less. -/
theorem highestNeed_mono {Member : Type} {less more : Member → Nat}
    (within : ∀ member, less member ≤ more member) (members : List Member) :
    highestNeed less members ≤ highestNeed more members := by
  induction members with
  | nil => exact Nat.le_refl _
  | cons member rest inductionHypothesis =>
      have first := within member
      simp only [highestNeed, List.map_cons, List.foldr_cons] at inductionHypothesis ⊢
      omega

theorem le_highestNeed {Member : Type} (need : Member → Nat) {members : List Member}
    {member : Member} (present : member ∈ members) : need member ≤ highestNeed need members := by
  induction present with
  | head rest => exact Nat.le_max_left _ _
  | tail other _ inductionHypothesis =>
      exact Nat.le_trans inductionHypothesis (Nat.le_max_right _ _)

theorem foldr_max_append (front back : List Nat) :
    (front ++ back).foldr max 0 = max (front.foldr max 0) (back.foldr max 0) := by
  induction front with
  | nil => exact (Nat.max_eq_right (Nat.zero_le _)).symm
  | cons first rest inductionHypothesis =>
      rw [List.cons_append, List.foldr_cons, inductionHypothesis, List.foldr_cons, Nat.max_assoc]

theorem operands_eq (description : TypeDescription) :
    description.operands =
      max (max (highestNeed ConstructorDescription.operands description.constructors)
        (highestNeed MethodDescription.operands description.methods))
        (highestNeed FieldDescription.operands description.fields) := by
  rw [TypeDescription.operands, foldr_max_append, foldr_max_append]
  rfl

/-- The entry without a selector needs no more than the constructors do. -/
theorem defaultConstruction_levels (description : TypeDescription) :
    (defaultConstruction description {}).depth = 0 ∧
      (defaultConstruction description {}).maxDepth ≤
        highestNeed ConstructorDescription.operands description.constructors := by
  rcases defaultConstruction_cases description with
    ⟨ordinal, last, isDefault, -, single, highest, code⟩ | ⟨-, code⟩
  · obtain ⟨below, -⟩ := List.findIdx?_eq_some_iff_getElem.mp isDefault
    have enough := le_highestNeed ConstructorDescription.operands (List.getElem_mem below)
    have object : 1 ≤ description.constructors[ordinal].operands := Nat.le_max_left _ _
    rw [code, depth_emit, maxDepth_emit, single, highest]
    exact ⟨rfl, Nat.le_trans object enough⟩
  · rw [code]
    simp [operandsTaken, operandsGiven.eq_def]

namespace Stretches

variable {description : TypeDescription} {entryOffsets : EntryOffsets} {final : Assembler}
  (stretches : Stretches description entryOffsets final)
include stretches

theorem levels_afterConstructors :
    stretches.afterConstructors.depth = 0 ∧ stretches.afterConstructors.maxDepth =
      highestNeed ConstructorDescription.operands description.constructors := by
  obtain ⟨empty, within⟩ := defaultConstruction_levels description
  obtain ⟨level, highest⟩ := selectorSection_levels constructorBranch_returns
    constructorBranch_assembling sound_default empty stretches.constructors
  exact ⟨level, highest.trans (Nat.max_eq_right within)⟩

theorem levels_afterMethods :
    stretches.afterMethods.depth = 0 ∧ stretches.afterMethods.maxDepth =
      max (highestNeed ConstructorDescription.operands description.constructors)
        (highestNeed MethodDescription.operands description.methods) := by
  obtain ⟨empty, before⟩ := stretches.levels_afterConstructors
  rw [← before]
  exact selectorSection_levels (methodBranch_returns description)
    (methodBranch_assembling description) stretches.sound_afterConstructors empty stretches.methods

theorem levels_afterReads :
    stretches.afterReads.depth = 0 ∧ stretches.afterReads.maxDepth =
      max stretches.afterMethods.maxDepth (highestNeed (fun _ => 1) description.fields) :=
  selectorSection_levels (readBranch_returns description) (readBranch_assembling description)
    stretches.sound_afterMethods stretches.levels_afterMethods.1 stretches.reads

/-- The highest depth is what the description needs; reading a field needs no more than writing
it. -/
theorem maxDepth_final : final.maxDepth = description.operands := by
  obtain ⟨empty, before⟩ := stretches.levels_afterReads
  obtain ⟨-, highest⟩ := selectorSection_levels (writeBranch_returns description)
    (writeBranch_assembling description) stretches.sound_afterReads empty stretches.writes
  have within : highestNeed (fun _ => 1) description.fields ≤
      highestNeed FieldDescription.operands description.fields := by
    refine highestNeed_mono (fun field => ?_) _
    unfold FieldDescription.operands
    split <;> omega
  rw [highest, before, stretches.levels_afterMethods.2, operands_eq]
  omega

end Stretches

namespace Built

variable {description : TypeDescription} {image : Image} (built : Built description image)
include built

/-- An entry point is where assembly stood with nothing on the stack, at the start of a flow. -/
theorem entry_leads (entryPoint : EntryPoint) :
    ∃ assembler : Assembler, image.entry entryPoint = assembler.offset ∧ assembler.depth = 0 ∧
      Assembles {} assembler ∧ Leads built.final assembler := by
  have first := defaultConstruction_assembles description {}
  have second := selectorSection_assembling constructorBranch_assembling _ _
    built.stretches.constructors
  have third := selectorSection_assembling (methodBranch_assembling description) _ _
    built.stretches.methods
  have fourth := selectorSection_assembling (readBranch_assembling description) _ _
    built.stretches.reads
  cases entryPoint with
  | newDefault =>
      refine ⟨{}, built.entry_newDefault, rfl, .refl _, ?_⟩
      have behind := built.stretches.constructors_assembles
      rcases defaultConstruction_cases description with
        ⟨-, last, -, straight, single, -, code⟩ | ⟨-, code⟩
      · rw [code] at behind
        exact .of_straight straight (.returns .returnTop .top single behind)
      · rw [code] at behind
        exact .throws .throwNoDefault .noDefault (fits_of_no_operands _ 0 rfl) behind
  | newInstance =>
      obtain ⟨empty, -⟩ := defaultConstruction_levels description
      exact ⟨_, built.entry_newInstance, empty, first,
        selectorSection_leads constructorBranch_returns constructorBranch_assembling
          Stretches.sound_default empty built.stretches.constructors
          built.stretches.methods_assembles⟩
  | invoke =>
      obtain ⟨empty, -⟩ := built.stretches.levels_afterConstructors
      exact ⟨_, built.entry_invoke, empty, first.trans second,
        selectorSection_leads (methodBranch_returns description)
          (methodBranch_assembling description) built.stretches.sound_afterConstructors empty
          built.stretches.methods built.stretches.reads_assembles⟩
  | getField =>
      obtain ⟨empty, -⟩ := built.stretches.levels_afterMethods
      exact ⟨_, built.entry_getField, empty, first.trans (second.trans third),
        selectorSection_leads (readBranch_returns description)
          (readBranch_assembling description) built.stretches.sound_afterMethods empty
          built.stretches.reads built.stretches.writes_assembles⟩
  | setField =>
      obtain ⟨empty, -⟩ := built.stretches.levels_afterReads
      exact ⟨_, built.entry_setField, empty, first.trans (second.trans (third.trans fourth)),
        selectorSection_leads (writeBranch_returns description)
          (writeBranch_assembling description) built.stretches.sound_afterReads empty
          built.stretches.writes (.refl _)⟩

/-- Along the flow instructions start. -/
theorem isStart_of_leads {assembler : Assembler} (leads : Leads built.final assembler)
    (sound : assembler.Sound) : image.IsStart assembler.offset := by
  obtain ⟨instructions, laid, -⟩ := built.stretches.laid
  exact built.makes.isStart laid.code
    (built.makes.offset_mem_starts laid.code leads.assembles sound (leads.offset_lt sound))

end Built

end Dispatcher

end OrdinalDispatch.Code

import OrdinalDispatch.Proofs.Machine.Loading

/-!
Contract: the code of an entry point that takes a selector comes to the branch
of the selected member, or to the failure of the first check.

Owns: the checks in front of a switch, the switch, and that there are never more
members than 32 bits count.

Does not own: what the branches come to.
-/

set_option autoImplicit false

namespace OrdinalDispatch.Machine.LinkedImage

open OrdinalDispatch.Code

variable {World : Type}

/-! ## Selectors -/

section Selectors

variable {Member : Type} {members : List Member} {selector : Int32}

/-- A selector that passes the check names a member. -/
theorem selected?_of_selects (inside : selects selector members.length = true) :
    ∃ ordinal member, Direct.selected? members selector = some (ordinal, member) ∧
      selector.toInt = ordinal ∧ members[ordinal]? = some member := by
  simp only [selects, Bool.and_eq_true, decide_eq_true_eq] at inside
  have below : selector.toInt.toNat < members.length := by omega
  refine ⟨selector.toInt.toNat, members[selector.toInt.toNat], ?_, by omega,
    List.getElem?_eq_getElem below⟩
  rw [Direct.selected?, if_neg (by omega), List.getElem?_eq_getElem below, Option.map_some]

/-- A selector that does not pass the check names none. -/
theorem selected?_of_not_selects (outside : selects selector members.length = false) :
    Direct.selected? members selector = none := by
  simp only [selects, Bool.and_eq_false_iff, decide_eq_false_iff_not] at outside
  unfold Direct.selected?
  split
  · rfl
  · rw [List.getElem?_eq_none (by omega), Option.map_none]

variable {Result : Type} {wrongSelector : String} {use : Nat → Member → Call World Result}

theorem select_of_selects (inside : selects selector members.length = true) :
    ∃ (ordinal : Nat) (member : Member), selector.toInt = ordinal ∧
      members[ordinal]? = some member ∧
      Direct.select members wrongSelector selector use = use ordinal member := by
  obtain ⟨ordinal, member, selected, isOrdinal, found⟩ := selected?_of_selects inside
  refine ⟨ordinal, member, isOrdinal, found, ?_⟩
  simp only [Direct.select, selected]

theorem select_of_not_selects (outside : selects selector members.length = false) :
    Direct.select members wrongSelector selector use =
      throw (.illegalArgument wrongSelector) := by
  simp only [Direct.select, selected?_of_not_selects outside]

end Selectors

/-! ## Sections -/

section Sections

variable {linked : LinkedImage World} {frame : Frame} {final before after : Assembler}
  {Member : Type} {members : List Member} {wrongSelector : String}
  {arities : Option (List UInt16)} {branch : Nat → Member → Dispatcher.Emission}

/-- Behind the checks, the switch comes to the branch of the selected member. -/
theorem answers_switch (makes : final.Makes linked.image) (sound : before.Sound)
    (assembling : ∀ ordinal member, Dispatcher.Assembling (branch ordinal member))
    (done : Dispatcher.selectorSection members wrongSelector arities branch before = .ok after)
    (moves : Assembler.Assembles after final) {ordinal : Nat} {member : Member}
    (selected : frame.selector.toInt = ordinal) (found : members[ordinal]? = some member)
    {outcome : Call World Value}
    (rest : ∀ start finish, branch ordinal member start = .ok finish → start.Sound →
      Assembler.Assembles finish final → linked.Answers frame start.offset [] outcome) :
    linked.Answers frame
      (Dispatcher.opening members.length wrongSelector arities before).offset [] outcome := by
  obtain ⟨fallback, targets, label, start, finish, front, size, isTarget, isBranch, back⟩ :=
    Dispatcher.selectorSection_at assembling done sound found
  have openedSound := (Dispatcher.opening_assembles members.length wrongSelector
    arities before).sound sound
  have labelledSound := (Dispatcher.labelled_assembles members.length _).sound openedSound
  have startSound := front.sound ((Dispatcher.emit_assembles ..).sound labelledSound)
  have marks := Assembler.Assembles.single (.mark start label)
  have onward := (assembling _ _ _ _ isBranch).trans (back.trans moves)
  have further := (front.extends_of_sound
    ((Dispatcher.emit_assembles ..).sound labelledSound)).offset
  have placed := makes.writtenPlace_mark onward startSound
  have decoded := makes.decode (front.trans (marks.trans onward)) labelledSound
  have jump : (targets.map final.writtenPlace)[frame.selector.toInt.toNat]? =
      some (final.writtenPlace label) := by
    rw [selected, Int.toNat_natCast, List.getElem?_map, isTarget, Option.map_some]
  rw [Assembler.offset_emit, Dispatcher.offset_labelled] at further
  rw [← Dispatcher.offset_labelled members.length, ← pure_bind () fun _ => outcome]
  refine Answers.of_step (fun _ => ⟨start.offset, []⟩) decoded ?_ (fun _ => ?_) fun _ => ?_
  · rw [pure_bind, ← placed]
    exact execute_tableSwitch (by omega) jump
  · rw [Dispatcher.offset_labelled]
    exact Nat.lt_of_lt_of_le (Nat.lt_add_of_pos_right (Instruction.size_pos _)) further
  · rw [← Assembler.offset_mark start label]
    exact rest (start.mark label) finish isBranch (marks.sound startSound) (back.trans moves)

/-- The bounds check counts the members of the section. -/
theorem toNat_length (small : members.length < 2 ^ 32) :
    (UInt32.ofNat members.length).toNat = members.length := by
  rw [UInt32.toNat_ofNat', Nat.mod_eq_of_lt small]

/-- A section without arguments comes to the branch of the selected member. -/
theorem answers_select (makes : final.Makes linked.image) (sound : before.Sound)
    (assembling : ∀ ordinal member, Dispatcher.Assembling (branch ordinal member))
    (done : Dispatcher.selectorSection members wrongSelector none branch before = .ok after)
    (moves : Assembler.Assembles after final) {use : Nat → Member → Call World Value}
    (branchAnswers : ∀ ordinal member start finish, members[ordinal]? = some member →
      branch ordinal member start = .ok finish → start.Sound → Assembler.Assembles finish final →
      linked.Answers frame start.offset [] (use ordinal member)) :
    linked.Answers frame before.offset []
      (Direct.select members wrongSelector frame.selector use) := by
  have small := Dispatcher.length_lt_of_section makes sound assembling done moves
  have opens := (Dispatcher.opening_assembling assembling done).trans moves
  have worded := (Assembler.Assembles.single (.intern before (.message wrongSelector))).sound sound
  have named := makes.constant?_intern ((Dispatcher.selectorChecks_assembles ..).trans opens) sound
  rw [← Assembler.offset_intern before (.message wrongSelector)]
  cases inside : selects frame.selector members.length with
  | false =>
      rw [select_of_not_selects inside]
      rw [← toNat_length small] at inside
      exact Answers.of_emit_throw makes worded opens (execute_checkBounds_outside named inside)
  | true =>
      obtain ⟨ordinal, member, isOrdinal, found, isUse⟩ := select_of_selects inside
      rw [isUse]
      rw [← toNat_length small] at inside
      refine Answers.of_emit makes worded opens (execute_checkBounds inside) ?_
      exact answers_switch makes sound assembling done moves isOrdinal found
        fun start finish => branchAnswers ordinal member start finish found

/-- The check of the arguments fails when there are none. -/
theorem answers_argumentsCheck_missing (makes : final.Makes linked.image) (sound : before.Sound)
    (moves : Assembler.Assembles (Dispatcher.argumentsCheck before) final)
    (missing : frame.arguments = none) :
    linked.Answers frame before.offset []
      (throw (.illegalArgument AccessError.argumentsMissing)) := by
  have worded := Assembler.Move.intern before (.message AccessError.argumentsMissing)
  have named := makes.constant?_intern ((Dispatcher.emit_assembles ..).trans moves) sound
  rw [← Assembler.offset_intern before (.message AccessError.argumentsMissing)]
  exact Answers.of_emit_throw makes (worded.sound sound) moves
    (execute_checkArguments_missing named missing)

theorem answers_argumentsCheck (makes : final.Makes linked.image) (sound : before.Sound)
    (moves : Assembler.Assembles (Dispatcher.argumentsCheck before) final) {arguments : List Value}
    (present : frame.arguments = some arguments) {outcome : Call World Value}
    (rest : linked.Answers frame (Dispatcher.argumentsCheck before).offset [] outcome) :
    linked.Answers frame before.offset [] outcome := by
  have worded := Assembler.Move.intern before (.message AccessError.argumentsMissing)
  rw [← Assembler.offset_intern before (.message AccessError.argumentsMissing)]
  exact Answers.of_emit makes (worded.sound sound) moves (execute_checkArguments present) rest

/-- The check of the count of arguments goes on or fails. -/
theorem answers_arityCheck {table : List UInt16} {expected : UInt16} {arguments : List Value}
    (makes : final.Makes linked.image) (sound : before.Sound)
    (moves : Assembler.Assembles (Dispatcher.arityCheck table before) final)
    (present : frame.arguments = some arguments) (natural : 0 ≤ frame.selector.toInt)
    (found : table[frame.selector.toInt.toNat]? = some expected) {outcome : Call World Value}
    (rest : arguments.length = expected.toNat →
      linked.Answers frame (Dispatcher.arityCheck table before).offset [] outcome) :
    linked.Answers frame before.offset []
      (if arguments.length = expected.toNat then outcome
        else throw (.illegalArgument AccessError.wrongArgumentCount)) := by
  have tabled := (Assembler.Move.intern before (.arityTable table)).sound sound
  have words := Assembler.Move.intern (before.intern (.arityTable table)).2
    (.message AccessError.wrongArgumentCount)
  have emits := (Dispatcher.emit_assembles ..).trans moves
  have isTable := makes.constant?_intern ((Assembler.Assembles.single words).trans emits) sound
  have named := makes.constant?_intern emits tabled
  have counted : (frame.arguments.getD []).length = arguments.length := by
    rw [present, Option.getD_some]
  rw [← Assembler.offset_intern before (.arityTable table),
    ← Assembler.offset_intern _ (.message AccessError.wrongArgumentCount)]
  by_cases same : arguments.length = expected.toNat
  · rw [if_pos same]
    refine Answers.of_emit makes (words.sound tabled) moves ?_ (rest same)
    exact (execute_checkArity isTable named natural found).trans (if_pos (counted.trans same))
  · rw [if_neg same]
    refine Answers.of_emit_throw makes (words.sound tabled) moves ?_
    exact (execute_checkArity isTable named natural found).trans
      (if_neg fun equal => same (counted.symm.trans equal))

/-- A section with arguments comes to the branch of the selected member, once there are as many of
them as it has parameters. -/
theorem answers_selectCall (makes : final.Makes linked.image) (sound : before.Sound)
    (assembling : ∀ ordinal member, Dispatcher.Assembling (branch ordinal member))
    {parameters : Member → List ValueType} {table : List UInt16}
    (counted : Dispatcher.arityTable (members.map parameters) = .ok table)
    (done : Dispatcher.selectorSection members wrongSelector (some table) branch before = .ok after)
    (moves : Assembler.Assembles after final)
    {use : Nat → Member → List Value → Call World Value}
    (branchAnswers : ∀ arguments ordinal member start finish, frame.arguments = some arguments →
      arguments.length = (parameters member).length → members[ordinal]? = some member →
      branch ordinal member start = .ok finish → start.Sound → Assembler.Assembles finish final →
      linked.Answers frame start.offset [] (use ordinal member arguments)) :
    linked.Answers frame before.offset []
      (Direct.selectCall members parameters wrongSelector frame.selector frame.arguments use) := by
  have small := Dispatcher.length_lt_of_section makes sound assembling done moves
  have opens := (Dispatcher.opening_assembling assembling done).trans moves
  have words := Assembler.Move.intern before (.message wrongSelector)
  have checks := Dispatcher.argumentsCheck_assembles (before.message wrongSelector).2
  have bounds := Dispatcher.emit_assembles
    (Dispatcher.argumentsCheck (before.message wrongSelector).2)
    (.checkBounds (UInt32.ofNat members.length) (before.message wrongSelector).1)
  have arity := Dispatcher.arityCheck_assembles table
    ((Dispatcher.argumentsCheck (before.message wrongSelector).2).emit
      (.checkBounds (UInt32.ofNat members.length) (before.message wrongSelector).1))
  rw [Dispatcher.opening_some] at opens
  have named := makes.constant?_intern (checks.trans (bounds.trans (arity.trans opens))) sound
  have worded := words.sound sound
  have checked := checks.sound worded
  rw [← Assembler.offset_intern before (.message wrongSelector)]
  cases present : frame.arguments with
  | none =>
      exact answers_argumentsCheck_missing makes worded (bounds.trans (arity.trans opens)) present
  | some arguments =>
      refine answers_argumentsCheck makes worded (bounds.trans (arity.trans opens)) present ?_
      rw [Direct.selectCall]
      cases inside : selects frame.selector members.length with
      | false =>
          rw [select_of_not_selects inside]
          rw [← toNat_length small] at inside
          exact Answers.of_emit_throw makes checked (arity.trans opens)
            (execute_checkBounds_outside named inside)
      | true =>
          obtain ⟨ordinal, member, isOrdinal, found, isUse⟩ := select_of_selects inside
          rw [isUse]
          rw [← toNat_length small] at inside
          refine Answers.of_emit makes checked (arity.trans opens) (execute_checkBounds inside) ?_
          have listed : (members.map parameters)[ordinal]? = some (parameters member) := by
            rw [List.getElem?_map, found, Option.map_some]
          obtain ⟨expected, entry, count⟩ := Dispatcher.arityTable_at counted listed
          rw [← count]
          refine answers_arityCheck makes (bounds.sound checked) opens present (by omega)
            (by rwa [isOrdinal, Int.toNat_natCast]) fun same => ?_
          have branched := answers_switch makes sound assembling done moves isOrdinal found
            fun start finish =>
              branchAnswers arguments ordinal member start finish present (same.trans count) found
          rwa [Dispatcher.opening_some] at branched

end Sections

end OrdinalDispatch.Machine.LinkedImage

import OrdinalDispatch.Code.Dispatcher
import OrdinalDispatch.Proofs.Code.Assembly

/-!
Contract: a dispatcher is assembled by moves, part by part.

Owns: that every part of a dispatcher is a sequence of moves, what each part
consists of when it is emitted, where the branch of an ordinal stands, and the
entry points of a finished image.

Does not own: what the parts do when they run, see
`OrdinalDispatch.Proofs.Machine.Dispatching`.
-/

set_option autoImplicit false

namespace OrdinalDispatch.Code.Dispatcher

open Assembler

/-- An emission that succeeds has done nothing but moves. -/
def Assembling (emission : Emission) : Prop :=
  ∀ before after, emission before = .ok after → Assembles before after

/-- A chain of two emissions that succeeded, taken apart. -/
theorem exists_of_bind_ok {Result Next : Type} {first : Except ImageError Result}
    {second : Result → Except ImageError Next} {next : Next}
    (done : (first >>= second) = .ok next) :
    ∃ result, first = .ok result ∧ second result = .ok next := by
  cases first with
  | error error => cases done
  | ok result => exact ⟨result, rfl, done⟩

/-! ## Loads and conversions -/

section Conversions

variable (assembler : Assembler)

theorem emit_assembles (instruction : Instruction Label) :
    Assembles assembler (assembler.emit instruction) :=
  .single (.emitCall assembler 0 instruction)

theorem emitUnbox_assembles (type : ValueType) :
    Assembles assembler (assembler.emitUnbox type) := by
  cases type with
  | primitive kind => exact emit_assembles assembler (.unbox kind)
  | void => exact .refl assembler
  | reference target => exact .refl assembler

theorem emitBox_assembles (type : ValueType) :
    Assembles assembler (assembler.emitBox type) := by
  cases type with
  | primitive kind => exact emit_assembles assembler (.box kind)
  | void => exact .refl assembler
  | reference target => exact .refl assembler

theorem cast_assembles (target : ClassId) : Assembles assembler (cast target assembler) := by
  unfold cast
  split
  · exact .refl assembler
  · exact (Assembles.single (.intern assembler (.classRef target))).trans (emit_assembles ..)

theorem loadReceiver_assembles (description : TypeDescription) :
    Assembles assembler (loadReceiver description assembler) :=
  (emit_assembles assembler .loadReceiver).trans (cast_assembles ..)

theorem coerce_assembles (type : ValueType) : Assembles assembler (coerce type assembler) := by
  cases type with
  | reference target => exact cast_assembles assembler target
  | void => exact .refl assembler
  | primitive kind => exact emitUnbox_assembles assembler (.primitive kind)

theorem loadOwner_assembles (description : TypeDescription) (field : FieldDescription) :
    Assembles assembler (loadOwner description field assembler) := by
  unfold loadOwner
  split
  · exact .refl assembler
  · exact loadReceiver_assembles assembler description

theorem answer_assembles (returnType : ValueType) :
    Assembles assembler (answer returnType assembler) := by
  cases returnType with
  | void => exact (emit_assembles assembler .pop).trans (emit_assembles ..)
  | primitive kind => exact emitBox_assembles assembler (.primitive kind)
  | reference target => exact .refl assembler

end Conversions

theorem loadArguments_assembling (index : Nat) (parameters : List ValueType) :
    Assembling (loadArguments index parameters) := by
  induction parameters generalizing index with
  | nil =>
      intro before after done
      obtain rfl := Except.ok.inj done
      exact .refl before
  | cons type rest inductionHypothesis =>
      intro before after done
      rw [loadArguments] at done
      split at done
      · exact (emit_assembles before _).trans
          ((coerce_assembles _ type).trans (inductionHypothesis _ _ _ done))
      · cases done

/-- An index of sixteen bits for each argument leaves no more than there are such indices. -/
theorem length_le_of_loadArguments {index : Nat} {parameters : List ValueType}
    {before after : Assembler} (done : loadArguments index parameters before = .ok after)
    (within : index ≤ UInt16.size) : index + parameters.length ≤ UInt16.size := by
  induction parameters generalizing index before with
  | nil => exact within
  | cons type rest inductionHypothesis =>
      rw [loadArguments] at done
      split at done
      · rename_i small
        have others := inductionHypothesis done small
        rw [List.length_cons]
        omega
      · cases done

/-! ## Branches -/

/-- What the branch of a constructor consists of. -/
theorem constructorBranch_ok {ordinal : Nat} {constructor : ConstructorDescription}
    {before after : Assembler} (done : constructorBranch ordinal constructor before = .ok after) :
    ∃ loaded, loadArguments 0 constructor.parameters before = .ok loaded ∧
      after =
        ((loaded.intern (.constructor (UInt32.ofNat ordinal) constructor.parameters)).2.emitCall
          (.ofNat constructor.parameters.length)
          (.construct
            (loaded.intern (.constructor (UInt32.ofNat ordinal) constructor.parameters)).1)).emit
          .returnTop := by
  obtain ⟨loaded, arguments, rest⟩ := exists_of_bind_ok done
  exact ⟨loaded, arguments, (Except.ok.inj rest).symm⟩

theorem constructorBranch_assembling (ordinal : Nat) (constructor : ConstructorDescription) :
    Assembling (constructorBranch ordinal constructor) := by
  intro before after done
  obtain ⟨loaded, arguments, rfl⟩ := constructorBranch_ok done
  exact (loadArguments_assembling 0 _ before loaded arguments).trans
    ((Assembles.single (.intern loaded _)).trans
      ((Assembles.single (.emitCall _ _ _)).trans (emit_assembles ..)))

/-- The constant that names a method by its ordinal. -/
def methodConstant (ordinal : Nat) (method : MethodDescription) : Constant :=
  .method (UInt32.ofNat ordinal) method.name method.parameters method.returnType method.callKind

/-- The constant that names a field by its ordinal. -/
def fieldConstant (ordinal : Nat) (field : FieldDescription) : Constant :=
  .field (UInt32.ofNat ordinal) field.name field.valueType field.modifiers.isStatic

/-- The receiver of a method that has one. -/
def loadTarget (description : TypeDescription) (method : MethodDescription)
    (assembler : Assembler) : Assembler :=
  if method.callKind = .static then assembler else loadReceiver description assembler

theorem loadTarget_assembles (assembler : Assembler) (description : TypeDescription)
    (method : MethodDescription) :
    Assembles assembler (loadTarget description method assembler) := by
  unfold loadTarget
  split
  · exact .refl assembler
  · exact loadReceiver_assembles assembler description

/-- What the branch of a method consists of. -/
theorem methodBranch_ok {description : TypeDescription} {ordinal : Nat}
    {method : MethodDescription} {before after : Assembler}
    (done : methodBranch description ordinal method before = .ok after) :
    ∃ loaded,
      loadArguments 0 method.parameters (loadTarget description method before) = .ok loaded ∧
      after =
        (answer method.returnType
          ((loaded.intern (methodConstant ordinal method)).2.emitCall
            (.ofNat method.parameters.length)
            (.invoke method.callKind (loaded.intern (methodConstant ordinal method)).1))).emit
          .returnTop := by
  obtain ⟨loaded, arguments, rest⟩ := exists_of_bind_ok done
  exact ⟨loaded, arguments, (Except.ok.inj rest).symm⟩

theorem methodBranch_assembling (description : TypeDescription) (ordinal : Nat)
    (method : MethodDescription) : Assembling (methodBranch description ordinal method) := by
  intro before after done
  obtain ⟨loaded, arguments, rfl⟩ := methodBranch_ok done
  exact (loadTarget_assembles before description method).trans
    ((loadArguments_assembling 0 _ _ loaded arguments).trans
      ((Assembles.single (.intern loaded _)).trans
        ((Assembles.single (.emitCall _ _ _)).trans
          ((answer_assembles _ method.returnType).trans (emit_assembles ..)))))

/-- What the branch that reads a field consists of. -/
theorem readBranch_ok {description : TypeDescription} {ordinal : Nat} {field : FieldDescription}
    {before after : Assembler} (done : readBranch description ordinal field before = .ok after) :
    after =
      (((loadOwner description field (before.intern (fieldConstant ordinal field)).2).emit
        (.getField field.modifiers.isStatic (before.intern (fieldConstant ordinal field)).1)).emitBox
          field.valueType).emit .returnTop :=
  (Except.ok.inj done).symm

theorem readBranch_assembling (description : TypeDescription) (ordinal : Nat)
    (field : FieldDescription) : Assembling (readBranch description ordinal field) := by
  intro before after done
  obtain rfl := readBranch_ok done
  exact (Assembles.single (.intern before (fieldConstant ordinal field))).trans
    ((loadOwner_assembles _ description field).trans
      ((emit_assembles ..).trans
        ((emitBox_assembles _ field.valueType).trans (emit_assembles ..))))

/-- What the branch that writes a field consists of. -/
theorem writeBranch_ok {description : TypeDescription} {ordinal : Nat} {field : FieldDescription}
    {before after : Assembler} (done : writeBranch description ordinal field before = .ok after) :
    after =
      ((coerce field.valueType
        ((loadOwner description field (before.intern (fieldConstant ordinal field)).2).emit
          .loadValue)).emit
        (.putField field.modifiers.isStatic (before.intern (fieldConstant ordinal field)).1)).emit
          .returnNull :=
  (Except.ok.inj done).symm

theorem writeBranch_assembling (description : TypeDescription) (ordinal : Nat)
    (field : FieldDescription) : Assembling (writeBranch description ordinal field) := by
  intro before after done
  obtain rfl := writeBranch_ok done
  exact (Assembles.single (.intern before (fieldConstant ordinal field))).trans
    ((loadOwner_assembles _ description field).trans
      ((emit_assembles ..).trans
        ((coerce_assembles _ field.valueType).trans
          ((emit_assembles ..).trans (emit_assembles ..)))))

/-! ## Sections -/

section Sections

variable {Member : Type} {branch : Nat → Member → Emission}

theorem branches_assembling (assembling : ∀ ordinal member, Assembling (branch ordinal member))
    (first : Nat) (pairs : List (Label × Member)) : Assembling (branches branch first pairs) := by
  induction pairs generalizing first with
  | nil =>
      intro before after done
      obtain rfl := Except.ok.inj done
      exact .refl before
  | cons pair rest inductionHypothesis =>
      intro before after done
      obtain ⟨label, member⟩ := pair
      obtain ⟨middle, emitted, following⟩ := exists_of_bind_ok done
      exact (Assembles.single (.mark before label)).trans
        ((assembling first member _ _ emitted).trans (inductionHypothesis _ _ _ following))

/-- The branch at a position stands behind its label, with moves before it and behind it. -/
theorem branches_at (assembling : ∀ ordinal member, Assembling (branch ordinal member))
    {first position : Nat} {pairs : List (Label × Member)} {before after : Assembler}
    (done : branches branch first pairs before = .ok after) {label : Label} {member : Member}
    (found : pairs[position]? = some (label, member)) :
    ∃ start finish, Assembles before start ∧
      branch (first + position) member (start.mark label) = .ok finish ∧
      Assembles finish after := by
  induction pairs generalizing first position before with
  | nil => cases found
  | cons pair rest inductionHypothesis =>
      obtain ⟨nextLabel, nextMember⟩ := pair
      obtain ⟨middle, emitted, following⟩ := exists_of_bind_ok done
      cases position with
      | zero =>
          obtain ⟨rfl, rfl⟩ := Prod.mk.inj (Option.some.inj found)
          exact ⟨before, middle, .refl before, emitted,
            branches_assembling assembling _ _ _ _ following⟩
      | succ position =>
          obtain ⟨start, finish, front, isBranch, back⟩ := inductionHypothesis following found
          refine ⟨start, finish, ?_, ?_, back⟩
          · exact (Assembles.single (.mark before nextLabel)).trans
              ((assembling first nextMember _ _ emitted).trans front)
          · rw [show first + (position + 1) = first + 1 + position by omega]
            exact isBranch

/-- The check that arguments are there. -/
def argumentsCheck (assembler : Assembler) : Assembler :=
  (assembler.message AccessError.argumentsMissing).2.emit
    (.checkArguments (assembler.message AccessError.argumentsMissing).1)

/-- The check that there are as many arguments as the table has at the selector. -/
def arityCheck (table : List UInt16) (assembler : Assembler) : Assembler :=
  ((assembler.intern (.arityTable table)).2.message AccessError.wrongArgumentCount).2.emit
    (.checkArity (assembler.intern (.arityTable table)).1
      ((assembler.intern (.arityTable table)).2.message AccessError.wrongArgumentCount).1)

theorem argumentsCheck_assembles (assembler : Assembler) :
    Assembles assembler (argumentsCheck assembler) :=
  (Assembles.single (.intern assembler _)).trans (emit_assembles ..)

theorem arityCheck_assembles (table : List UInt16) (assembler : Assembler) :
    Assembles assembler (arityCheck table assembler) :=
  (Assembles.single (.intern assembler _)).trans
    ((Assembles.single (.intern _ _)).trans (emit_assembles ..))

theorem selectorChecks_some (count : Nat) (wrongSelector : UInt16) (table : List UInt16)
    (assembler : Assembler) :
    selectorChecks count wrongSelector (some table) assembler =
      arityCheck table
        ((argumentsCheck assembler).emit (.checkBounds (UInt32.ofNat count) wrongSelector)) := by
  unfold selectorChecks argumentsCheck arityCheck
  rcases assembler.message AccessError.argumentsMissing with ⟨missing, worded⟩
  dsimp only

theorem selectorChecks_assembles (count : Nat) (wrongSelector : UInt16)
    (arities : Option (List UInt16)) (assembler : Assembler) :
    Assembles assembler (selectorChecks count wrongSelector arities assembler) := by
  cases arities with
  | none => exact emit_assembles ..
  | some table =>
      rw [selectorChecks_some]
      exact (argumentsCheck_assembles assembler).trans
        ((emit_assembles ..).trans (arityCheck_assembles ..))

/-- The code of a section before its switch. -/
def opening (count : Nat) (wrongSelectorText : String) (arities : Option (List UInt16))
    (assembler : Assembler) : Assembler :=
  selectorChecks count (assembler.message wrongSelectorText).1 arities
    (assembler.message wrongSelectorText).2

theorem opening_some (count : Nat) (wrongSelectorText : String) (table : List UInt16)
    (assembler : Assembler) :
    opening count wrongSelectorText (some table) assembler =
      arityCheck table
        ((argumentsCheck (assembler.message wrongSelectorText).2).emit
          (.checkBounds (UInt32.ofNat count) (assembler.message wrongSelectorText).1)) :=
  selectorChecks_some ..

/-- The label of the last instruction of a section is the first one behind its opening. -/
def fallbackLabel (opened : Assembler) : Label := opened.defineLabel.1

/-- The labels of the branches of a section come next. -/
def branchLabels (count : Nat) (opened : Assembler) : List Label :=
  (defineLabels count opened.defineLabel.2).1

/-- A section when all of its labels are defined. -/
def labelled (count : Nat) (opened : Assembler) : Assembler :=
  (defineLabels count opened.defineLabel.2).2

theorem opening_assembles (count : Nat) (wrongSelectorText : String)
    (arities : Option (List UInt16)) (assembler : Assembler) :
    Assembles assembler (opening count wrongSelectorText arities assembler) :=
  (Assembles.single (.intern assembler _)).trans (selectorChecks_assembles ..)

theorem labelled_assembles (count : Nat) (opened : Assembler) :
    Assembles opened (labelled count opened) :=
  (Assembles.single (.defineLabel opened)).trans (.defineLabels count _)

theorem labelled_eq (count : Nat) (opened : Assembler) :
    labelled count opened =
      { opened with labelCount := opened.labelCount + (count + 1) } := by
  rw [labelled, defineLabels_eq]
  simp only [Assembler.defineLabel, Nat.add_assoc, Nat.add_comm 1]

@[simp]
theorem offset_labelled (count : Nat) (opened : Assembler) :
    (labelled count opened).offset = opened.offset := by
  rw [labelled_eq]
  rfl

@[simp]
theorem depth_labelled (count : Nat) (opened : Assembler) :
    (labelled count opened).depth = opened.depth := by
  rw [labelled_eq]

@[simp]
theorem maxDepth_labelled (count : Nat) (opened : Assembler) :
    (labelled count opened).maxDepth = opened.maxDepth := by
  rw [labelled_eq]

@[simp]
theorem length_branchLabels (count : Nat) (opened : Assembler) :
    (branchLabels count opened).length = count := by
  simp [branchLabels, defineLabels_eq]

@[simp]
theorem labelCount_labelled (count : Nat) (opened : Assembler) :
    (labelled count opened).labelCount = opened.labelCount + (count + 1) := by
  rw [labelled_eq]

@[simp]
theorem placeOf?_labelled (count : Nat) (opened : Assembler) (label : Label) :
    (labelled count opened).placeOf? label = opened.placeOf? label := by
  rw [labelled_eq]
  rfl

/-- The labels of a section are numbered on from the one of its fallback. -/
theorem mem_sectionLabels {count : Nat} {opened : Assembler} {label : Label} :
    label ∈ fallbackLabel opened :: branchLabels count opened ↔
      opened.labelCount ≤ label.number ∧ label.number ≤ opened.labelCount + count := by
  obtain ⟨number⟩ := label
  simp only [branchLabels, defineLabels_eq, fallbackLabel, Assembler.defineLabel, List.mem_cons,
    List.mem_map, List.mem_range, Label.mk.injEq]
  constructor
  · rintro (rfl | ⟨index, below, rfl⟩) <;> omega
  · rintro ⟨above, below⟩
    by_cases isFallback : number = opened.labelCount
    · exact .inl isFallback
    · exact .inr ⟨number - (opened.labelCount + 1), by omega, by omega⟩

/-- The switch of a section with its branches; without members there is none. -/
def dispatching (members : List Member) (branch : Nat → Member → Emission)
    (opened : Assembler) : Except ImageError Assembler :=
  if members.isEmpty then .ok opened.defineLabel.2
  else
    branches branch 0 ((branchLabels members.length opened).zip members)
      ((labelled members.length opened).emit
        (.tableSwitch (fallbackLabel opened) (branchLabels members.length opened)))

variable {members : List Member} {wrongSelectorText : String} {arities : Option (List UInt16)}
  {before after : Assembler}

/-- A section is its opening, its switch with the branches, and the report of the selector. -/
theorem selectorSection_eq :
    selectorSection members wrongSelectorText arities branch before =
      dispatching members branch (opening members.length wrongSelectorText arities before) >>=
        fun dispatched => .ok ((dispatched.mark
          (fallbackLabel (opening members.length wrongSelectorText arities before))).emit
            (.throwIllegal (before.message wrongSelectorText).1)) := by
  cases members <;> rfl

/-- Behind the label of the last instruction, a switch with its branches is moves. -/
theorem dispatching_assembling (assembling : ∀ ordinal member, Assembling (branch ordinal member))
    {opened dispatched : Assembler} (done : dispatching members branch opened = .ok dispatched) :
    Assembles opened.defineLabel.2 dispatched := by
  unfold dispatching at done
  split at done
  · obtain rfl := Except.ok.inj done
    exact .refl _
  · exact (Assembles.defineLabels members.length _).trans
      ((emit_assembles ..).trans (branches_assembling assembling _ _ _ _ done))

/-- Behind its opening, a section is moves. -/
theorem opening_assembling (assembling : ∀ ordinal member, Assembling (branch ordinal member))
    (done : selectorSection members wrongSelectorText arities branch before = .ok after) :
    Assembles (opening members.length wrongSelectorText arities before) after := by
  rw [selectorSection_eq] at done
  obtain ⟨dispatched, emitted, rest⟩ := exists_of_bind_ok done
  obtain rfl := Except.ok.inj rest
  exact (Assembles.single (.defineLabel _)).trans ((dispatching_assembling assembling emitted).trans
    ((Assembles.single (.mark dispatched _)).trans (emit_assembles ..)))

theorem selectorSection_assembling
    (assembling : ∀ ordinal member, Assembling (branch ordinal member)) :
    Assembling (selectorSection members wrongSelectorText arities branch) := by
  intro before after done
  exact (opening_assembles ..).trans (opening_assembling assembling done)

/-- The branch of an ordinal stands behind the label that the switch has for it. -/
theorem selectorSection_at (assembling : ∀ ordinal member, Assembling (branch ordinal member))
    (done : selectorSection members wrongSelectorText arities branch before = .ok after)
    (sound : before.Sound) {ordinal : Nat} {member : Member}
    (found : members[ordinal]? = some member) :
    ∃ fallback targets label start finish,
      Assembles
        ((labelled members.length (opening members.length wrongSelectorText arities before)).emit
          (.tableSwitch fallback targets)) start ∧
      targets.length = members.length ∧ targets[ordinal]? = some label ∧
      branch ordinal member (start.mark label) = .ok finish ∧ Assembles finish after := by
  rw [selectorSection_eq] at done
  obtain ⟨dispatched, emitted, rest⟩ := exists_of_bind_ok done
  obtain rfl := Except.ok.inj rest
  have below := (List.getElem?_eq_some_iff.mp found).1
  have occupied : members.isEmpty ≠ true := by
    rintro empty
    rw [List.isEmpty_iff.mp empty] at below
    exact absurd below (Nat.not_lt_zero _)
  rw [dispatching, if_neg occupied] at emitted
  have openedSound :=
    (opening_assembles members.length wrongSelectorText arities before).sound sound
  generalize opening members.length wrongSelectorText arities before = opened at *
  have labelBelow : ordinal < (branchLabels members.length opened).length := by
    rwa [length_branchLabels]
  have label := List.getElem?_eq_getElem labelBelow
  have paired : ((branchLabels members.length opened).zip members)[ordinal]? =
      some ((branchLabels members.length opened)[ordinal], member) := by
    rw [List.getElem?_zip_eq_some]
    exact ⟨label, found⟩
  obtain ⟨start, finish, front, isBranch, back⟩ := branches_at assembling emitted paired
  rw [Nat.zero_add] at isBranch
  exact ⟨_, _, _, start, finish, front, length_branchLabels .., label, isBranch,
    back.trans ((Assembles.single (.mark dispatched _)).trans (emit_assembles ..))⟩

variable {final : Assembler} {image : Image}

/-- A section has a switch with four bytes for each member, so that there are not too many to be
counted. -/
theorem length_lt_of_section (makes : final.Makes image) (sound : before.Sound)
    (assembling : ∀ ordinal member, Assembling (branch ordinal member))
    (done : selectorSection members wrongSelectorText arities branch before = .ok after)
    (moves : Assembles after final) : members.length < 2 ^ 32 := by
  cases members with
  | nil => exact Nat.two_pow_pos 32
  | cons member rest =>
      obtain ⟨fallback, targets, label, start, finish, front, size, -, isBranch, back⟩ :=
        selectorSection_at assembling done sound List.getElem?_cons_zero
      have openedSound := (opening_assembles (member :: rest).length wrongSelectorText
        arities before).sound sound
      have labelledSound := (labelled_assembles (member :: rest).length _).sound openedSound
      have ends := makes.offset_le
        (front.trans ((Assembles.single (.mark start label)).trans
          ((assembling _ _ _ _ isBranch).trans (back.trans moves))))
        ((emit_assembles ..).sound labelledSound)
      have short := makes.short
      rw [offset_emit] at ends
      simp only [Instruction.size, size] at ends
      omega

/-- A constant that each branch of an ordinal interns is in the pool. -/
theorem constant?_of_section (makes : final.Makes image) (sound : before.Sound)
    (assembling : ∀ ordinal member, Assembling (branch ordinal member))
    (done : selectorSection members wrongSelectorText arities branch before = .ok after)
    (moves : Assembles after final) {ordinal : Nat} {member : Member}
    (found : members[ordinal]? = some member) {constant : Constant}
    (interns : ∀ start finish, branch ordinal member start = .ok finish → start.Sound →
      ∃ assembler : Assembler, assembler.Sound ∧ Assembles (assembler.intern constant).2 finish) :
    ∃ index, image.constant? index = some constant := by
  obtain ⟨fallback, targets, label, start, finish, front, -, -, isBranch, back⟩ :=
    selectorSection_at assembling done sound found
  have openedSound := (opening_assembles members.length wrongSelectorText arities before).sound sound
  have labelledSound := (labelled_assembles members.length _).sound openedSound
  have startSound := front.sound ((emit_assembles ..).sound labelledSound)
  have marked := (Move.mark start label).sound startSound
  obtain ⟨assembler, internSound, onward⟩ := interns _ _ isBranch marked
  exact ⟨_, makes.constant?_intern (onward.trans (back.trans moves)) internSound⟩

end Sections

/-! ## The whole program -/

theorem defaultConstruction_assembles (description : TypeDescription) (assembler : Assembler) :
    Assembles assembler (defaultConstruction description assembler) := by
  unfold defaultConstruction
  split
  · exact (Assembles.single (.intern assembler _)).trans ((emit_assembles ..).trans (emit_assembles ..))
  · exact emit_assembles ..

/-- The table has the count of parameters of each member, all of them below 2 ^ 16. -/
theorem arityTable_at {parameterLists : List (List ValueType)} {arities : List UInt16}
    (done : arityTable parameterLists = .ok arities) {ordinal : Nat} {parameters : List ValueType}
    (found : parameterLists[ordinal]? = some parameters) :
    ∃ arity, arities[ordinal]? = some arity ∧ arity.toNat = parameters.length := by
  induction parameterLists generalizing arities ordinal with
  | nil => cases found
  | cons first rest inductionHypothesis =>
      rw [arityTable, List.mapM_cons] at done
      obtain ⟨arity, isArity, following⟩ := exists_of_bind_ok done
      obtain ⟨others, areOthers, whole⟩ := exists_of_bind_ok following
      obtain rfl := Except.ok.inj whole
      cases ordinal with
      | zero =>
          obtain rfl := Option.some.inj found
          split at isArity
          · rename_i small
            obtain rfl := Except.ok.inj isArity
            exact ⟨_, rfl, UInt16.toNat_ofNat_of_lt' small⟩
          · cases isArity
      | succ ordinal => exact inductionHypothesis areOthers found

/-- What the whole code of a description consists of: the stretches that the entry points start,
in order. -/
structure Stretches (description : TypeDescription) (entryOffsets : EntryOffsets)
    (final : Assembler) where
  afterConstructors : Assembler
  afterMethods : Assembler
  afterReads : Assembler
  constructorArities : List UInt16
  methodArities : List UInt16
  constructorsCounted :
    arityTable (description.constructors.map (·.parameters)) = .ok constructorArities
  methodsCounted : arityTable (description.methods.map (·.parameters)) = .ok methodArities
  constructors :
    selectorSection description.constructors AccessError.wrongConstructor (some constructorArities)
      constructorBranch (defaultConstruction description {}) = .ok afterConstructors
  methods :
    selectorSection description.methods AccessError.wrongMethod (some methodArities)
      (methodBranch description) afterConstructors = .ok afterMethods
  reads :
    selectorSection description.fields AccessError.wrongField none (readBranch description)
      afterMethods = .ok afterReads
  writes :
    selectorSection description.fields AccessError.wrongField none (writeBranch description)
      afterReads = .ok final
  entries : entryOffsets =
    { newDefault := 0
      newInstance := UInt32.ofNat (defaultConstruction description {}).offset
      invoke := UInt32.ofNat afterConstructors.offset
      getField := UInt32.ofNat afterMethods.offset
      setField := UInt32.ofNat afterReads.offset }

theorem program_ok {description : TypeDescription} {entryOffsets : EntryOffsets}
    {final : Assembler} (done : program description = .ok (entryOffsets, final)) :
    Nonempty (Stretches description entryOffsets final) := by
  obtain ⟨constructorArities, constructorsCounted, done⟩ := exists_of_bind_ok done
  obtain ⟨afterConstructors, constructors, done⟩ := exists_of_bind_ok done
  obtain ⟨methodArities, methodsCounted, done⟩ := exists_of_bind_ok done
  obtain ⟨afterMethods, methods, done⟩ := exists_of_bind_ok done
  obtain ⟨afterReads, reads, done⟩ := exists_of_bind_ok done
  obtain ⟨last, writes, done⟩ := exists_of_bind_ok done
  obtain ⟨rfl, rfl⟩ := Prod.mk.inj (Except.ok.inj done)
  exact ⟨{
    afterConstructors, afterMethods, afterReads, constructorArities, methodArities
    constructorsCounted, methodsCounted, constructors, methods, reads, writes, entries := rfl }⟩

namespace Stretches

variable {description : TypeDescription} {entryOffsets : EntryOffsets} {final : Assembler}
  (stretches : Stretches description entryOffsets final)
include stretches

theorem writes_assembles : Assembles stretches.afterReads final :=
  selectorSection_assembling (writeBranch_assembling description) _ _ stretches.writes

theorem reads_assembles : Assembles stretches.afterMethods final :=
  (selectorSection_assembling (readBranch_assembling description) _ _ stretches.reads).trans
    stretches.writes_assembles

theorem methods_assembles : Assembles stretches.afterConstructors final :=
  (selectorSection_assembling (methodBranch_assembling description) _ _ stretches.methods).trans
    stretches.reads_assembles

theorem constructors_assembles : Assembles (defaultConstruction description {}) final :=
  (selectorSection_assembling constructorBranch_assembling _ _ stretches.constructors).trans
    stretches.methods_assembles

omit stretches in
theorem sound_default : (defaultConstruction description {}).Sound :=
  (defaultConstruction_assembles description {}).sound sound_empty

theorem sound_afterConstructors : stretches.afterConstructors.Sound :=
  (selectorSection_assembling constructorBranch_assembling _ _ stretches.constructors).sound
    sound_default

theorem sound_afterMethods : stretches.afterMethods.Sound :=
  (selectorSection_assembling (methodBranch_assembling description) _ _ stretches.methods).sound
    stretches.sound_afterConstructors

theorem sound_afterReads : stretches.afterReads.Sound :=
  (selectorSection_assembling (readBranch_assembling description) _ _ stretches.reads).sound
    stretches.sound_afterMethods

theorem sound_final : final.Sound :=
  stretches.writes_assembles.sound stretches.sound_afterReads

end Stretches

/-- An image that was made of a description, with the code it was made of. -/
structure Built (description : TypeDescription) (image : Image) where
  final : Assembler
  stretches : Stretches description image.entryOffsets final
  makes : final.Makes image
  maxStack : image.maxStack = final.maxDepth
  target : image.target = description.classId
  typeName : image.typeName = description.name

/-- An image is made of the finished program of its description. -/
theorem ofDescription_finish {description : TypeDescription} {image : Image}
    (built : Image.ofDescription description = .ok image) :
    ∃ final assembled, program description = .ok (image.entryOffsets, final) ∧
      final.finish = .ok assembled ∧
      image = {
        target := description.classId
        typeName := description.name
        code := assembled.code
        constants := assembled.constants
        entryOffsets := image.entryOffsets
        maxStack := assembled.maxStack } := by
  obtain ⟨⟨entryOffsets, final⟩, emitted, rest⟩ := exists_of_bind_ok built
  cases finished : final.finish with
  | error faults =>
      simp only [finished] at rest
      cases rest
  | ok assembled =>
      simp only [finished] at rest
      obtain rfl := Except.ok.inj rest
      exact ⟨final, assembled, emitted, finished, rfl⟩

theorem ofDescription_ok {description : TypeDescription} {image : Image}
    (built : Image.ofDescription description = .ok image) (short : image.code.size < 2 ^ 32) :
    Nonempty (Built description image) := by
  obtain ⟨final, assembled, emitted, finished, isImage⟩ := ofDescription_finish built
  obtain ⟨stretches⟩ := program_ok emitted
  obtain ⟨faults, marked, code, constants⟩ := finish_ok finished
  have maxStack : assembled.maxStack = final.maxDepth := by
    rw [finish_eq faults marked] at finished
    rw [← Except.ok.inj finished]
  rw [isImage] at short
  exact ⟨{
    final, stretches, maxStack := by rw [isImage, maxStack]
    makes := isImage ▸ ⟨stretches.sound_final, faults, marked, code, constants, short⟩
    target := by rw [isImage]
    typeName := by rw [isImage] }⟩

namespace Built

variable {description : TypeDescription} {image : Image} (built : Built description image)
include built

/-- An offset that was reached fits the 32 bits of an entry. -/
theorem toNat_offset {assembler : Assembler} (moves : Assembles assembler built.final)
    (sound : assembler.Sound) : (UInt32.ofNat assembler.offset).toNat = assembler.offset := by
  have inside := built.makes.offset_le moves sound
  have short := built.makes.short
  rw [UInt32.toNat_ofNat', Nat.mod_eq_of_lt (by omega)]

/-- An entry point is what the program gave it. -/
theorem entry_eq (entryPoint : EntryPoint) :
    image.entry entryPoint =
      (EntryOffsets.of
        { newDefault := 0
          newInstance := UInt32.ofNat (defaultConstruction description {}).offset
          invoke := UInt32.ofNat built.stretches.afterConstructors.offset
          getField := UInt32.ofNat built.stretches.afterMethods.offset
          setField := UInt32.ofNat built.stretches.afterReads.offset } entryPoint).toNat :=
  congrArg (fun offsets => (EntryOffsets.of offsets entryPoint).toNat) built.stretches.entries

theorem entry_newDefault : image.entry .newDefault = 0 :=
  built.entry_eq .newDefault

theorem entry_newInstance :
    image.entry .newInstance = (defaultConstruction description {}).offset :=
  (built.entry_eq .newInstance).trans
    (built.toNat_offset built.stretches.constructors_assembles Stretches.sound_default)

theorem entry_invoke : image.entry .invoke = built.stretches.afterConstructors.offset :=
  (built.entry_eq .invoke).trans
    (built.toNat_offset built.stretches.methods_assembles
      built.stretches.sound_afterConstructors)

theorem entry_getField : image.entry .getField = built.stretches.afterMethods.offset :=
  (built.entry_eq .getField).trans
    (built.toNat_offset built.stretches.reads_assembles built.stretches.sound_afterMethods)

theorem entry_setField : image.entry .setField = built.stretches.afterReads.offset :=
  (built.entry_eq .setField).trans
    (built.toNat_offset built.stretches.writes_assembles built.stretches.sound_afterReads)

/-! ## The members of a finished image -/

theorem length_constructors_lt : description.constructors.length < 2 ^ 32 :=
  length_lt_of_section built.makes Stretches.sound_default constructorBranch_assembling
    built.stretches.constructors built.stretches.methods_assembles

theorem length_methods_lt : description.methods.length < 2 ^ 32 :=
  length_lt_of_section built.makes built.stretches.sound_afterConstructors
    (methodBranch_assembling description) built.stretches.methods built.stretches.reads_assembles

theorem length_fields_lt : description.fields.length < 2 ^ 32 :=
  length_lt_of_section built.makes built.stretches.sound_afterMethods
    (readBranch_assembling description) built.stretches.reads built.stretches.writes_assembles

theorem constant?_constructor {ordinal : Nat} {constructor : ConstructorDescription}
    (found : description.constructors[ordinal]? = some constructor) :
    ∃ index, image.constant? index =
      some (.constructor (UInt32.ofNat ordinal) constructor.parameters) := by
  refine constant?_of_section built.makes Stretches.sound_default constructorBranch_assembling
    built.stretches.constructors built.stretches.methods_assembles found ?_
  intro start finish isBranch sound
  obtain ⟨loaded, arguments, rfl⟩ := constructorBranch_ok isBranch
  exact ⟨loaded, (loadArguments_assembling 0 _ _ _ arguments).sound sound,
    (Assembles.single (.emitCall ..)).trans (emit_assembles ..)⟩

theorem constant?_method {ordinal : Nat} {method : MethodDescription}
    (found : description.methods[ordinal]? = some method) :
    ∃ index, image.constant? index = some (methodConstant ordinal method) := by
  refine constant?_of_section built.makes built.stretches.sound_afterConstructors
    (methodBranch_assembling description) built.stretches.methods built.stretches.reads_assembles
    found ?_
  intro start finish isBranch sound
  obtain ⟨loaded, arguments, rfl⟩ := methodBranch_ok isBranch
  have owned := (loadTarget_assembles start description method).sound sound
  exact ⟨loaded, (loadArguments_assembling 0 _ _ _ arguments).sound owned,
    (Assembles.single (.emitCall ..)).trans ((answer_assembles ..).trans (emit_assembles ..))⟩

theorem constant?_field {ordinal : Nat} {field : FieldDescription}
    (found : description.fields[ordinal]? = some field) :
    ∃ index, image.constant? index = some (fieldConstant ordinal field) := by
  refine constant?_of_section built.makes built.stretches.sound_afterMethods
    (readBranch_assembling description) built.stretches.reads built.stretches.writes_assembles
    found ?_
  intro start finish isBranch sound
  obtain rfl := readBranch_ok isBranch
  exact ⟨start, sound, (loadOwner_assembles ..).trans
    ((emit_assembles ..).trans ((emitBox_assembles ..).trans (emit_assembles ..)))⟩

end Built

end OrdinalDispatch.Code.Dispatcher

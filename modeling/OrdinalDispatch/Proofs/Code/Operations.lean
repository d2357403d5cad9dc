import OrdinalDispatch.Proofs.Code.Emission
import OrdinalDispatch.Proofs.Code.Sweeping

/-!
Contract: which operations each part of a dispatcher consists of.

Owns: the operations of a branch and of the checks of a section, in order, told
from a description alone, and the room that they take.

Does not own: the operands of the operations, and where labels are placed.
-/

set_option autoImplicit false

namespace OrdinalDispatch.Code

/-- The count of bytes of an operation that is no switch. -/
def Opcode.size (opcode : Opcode) : Nat := 1 + opcode.fixedOperandLength

/-- The count of bytes of operations none of which is a switch. -/
def room (opcodes : List Opcode) : Nat := (opcodes.map Opcode.size).sum

@[simp]
theorem room_nil : room [] = 0 := rfl

@[simp]
theorem room_cons (first : Opcode) (rest : List Opcode) :
    room (first :: rest) = first.size + room rest := rfl

@[simp]
theorem room_append (front back : List Opcode) : room (front ++ back) = room front + room back := by
  rw [room, List.map_append, List.sum_append, room, room]

namespace Opcode

/-- An operation that only works on operands: it neither looks at the selector, nor reaches a
member, nor ends a branch. -/
def isLocal : Opcode → Bool
  | loadReceiver | loadArgument | loadValue | constNull | pop | unbox | box | checkCast => true
  | _ => false

/-- An operation that reaches a member. -/
def isAccess : Opcode → Bool
  | construct | invoke _ | getField _ | putField _ => true
  | _ => false

/-- An operation that ends a branch. -/
def isReturn : Opcode → Bool
  | returnTop | returnNull => true
  | _ => false

/-- An operation that a branch may have. -/
def inBranch (opcode : Opcode) : Bool := opcode.isLocal || opcode.isAccess || opcode.isReturn

theorem isAccess_of_isReturn {opcode : Opcode} (isReturn : opcode.isReturn = true) :
    opcode.isAccess = false := by
  cases opcode <;> first | rfl | cases isReturn

end Opcode

namespace Assembler

/-! ## Emitted operations -/

/-- Behind the code that was there stand instructions with these operations. -/
def Emits (before after : Assembler) (opcodes : List Opcode) : Prop :=
  ∃ code, Adds before after code ∧ code.map Instruction.opcode = opcodes

namespace Emits

variable {before middle after : Assembler} {front back opcodes : List Opcode}

theorem of_adds (adds : Adds before after []) : Emits before after [] := ⟨[], adds, rfl⟩

theorem refl (assembler : Assembler) : Emits assembler assembler [] := of_adds (.refl assembler)

theorem trans (first : Emits before middle front) (second : Emits middle after back) :
    Emits before after (front ++ back) := by
  obtain ⟨code, adds, rfl⟩ := first
  obtain ⟨more, addsMore, rfl⟩ := second
  exact ⟨code ++ more, adds.trans addsMore, List.map_append⟩

theorem of_eq {others : List Opcode} (emits : Emits before after opcodes)
    (same : opcodes = others) : Emits before after others := same ▸ emits

theorem emitCall (assembler : Assembler) (argumentCount : UInt64) (instruction : Instruction Label) :
    Emits assembler (assembler.emitCall argumentCount instruction) [instruction.opcode] :=
  ⟨[instruction], adds_emitCall assembler argumentCount instruction, rfl⟩

theorem emit (assembler : Assembler) (instruction : Instruction Label) :
    Emits assembler (assembler.emit instruction) [instruction.opcode] :=
  emitCall assembler 0 instruction

theorem intern (assembler : Assembler) (constant : Constant) :
    Emits assembler (assembler.intern constant).2 [] := of_adds (adds_intern ..)

theorem mark (assembler : Assembler) (label : Label) : Emits assembler (assembler.mark label) [] :=
  of_adds (adds_mark ..)

/-- Operations without a switch take the room of their operands. -/
theorem offset (emits : Emits before after opcodes) (plain : .tableSwitch ∉ opcodes) :
    after.offset = before.offset + room opcodes := by
  obtain ⟨code, adds, rfl⟩ := emits
  rw [adds.offset, room, List.map_map]
  congr 2
  refine List.map_congr_left fun instruction among => ?_
  have noSwitch : instruction.opcode ≠ .tableSwitch := fun switches =>
    plain (List.mem_map.mpr ⟨instruction, among, switches⟩)
  exact Instruction.size_eq_of_opcode noSwitch

end Emits

end Assembler

namespace Dispatcher

open Assembler

/-! ## The operations of each part -/

/-- A cast; everything is an object, so that cast is left out. -/
def castOpcodes (target : ClassId) : List Opcode :=
  if target = ClassId.object then [] else [.checkCast]

/-- The conversion to a declared type. -/
def coerceOpcodes : ValueType → List Opcode
  | .reference target => castOpcodes target
  | .primitive _ => [.unbox]
  | .void => []

/-- The check of a result. -/
def boxOpcodes : ValueType → List Opcode
  | .primitive _ => [.box]
  | _ => []

/-- The receiver of a member that has one. -/
def receiverOpcodes (description : TypeDescription) (isStatic : Bool) : List Opcode :=
  if isStatic then [] else .loadReceiver :: castOpcodes description.classId

/-- The arguments, each converted to its declared type. -/
def argumentOpcodes (parameters : List ValueType) : List Opcode :=
  parameters.flatMap fun type => .loadArgument :: coerceOpcodes type

/-- The result of a call as it is answered. -/
def answerOpcodes : ValueType → List Opcode
  | .void => [.pop, .constNull]
  | returnType => boxOpcodes returnType

/-- The branch of a constructor. -/
def constructorOpcodes (constructor : ConstructorDescription) : List Opcode :=
  argumentOpcodes constructor.parameters ++ [.construct, .returnTop]

/-- The branch of a method up to its call. -/
def callOpcodes (description : TypeDescription) (method : MethodDescription) : List Opcode :=
  receiverOpcodes description (method.callKind = .static) ++ argumentOpcodes method.parameters

/-- The branch of a method. -/
def methodOpcodes (description : TypeDescription) (method : MethodDescription) : List Opcode :=
  callOpcodes description method ++ .invoke method.callKind :: answerOpcodes method.returnType ++
    [.returnTop]

/-- The branch that reads a field. -/
def readOpcodes (description : TypeDescription) (field : FieldDescription) : List Opcode :=
  receiverOpcodes description field.modifiers.isStatic ++
    .getField field.modifiers.isStatic :: boxOpcodes field.valueType ++ [.returnTop]

/-- The branch that writes a field. -/
def writeOpcodes (description : TypeDescription) (field : FieldDescription) : List Opcode :=
  receiverOpcodes description field.modifiers.isStatic ++
    .loadValue :: coerceOpcodes field.valueType ++ [.putField field.modifiers.isStatic, .returnNull]

/-- The checks of a section; only calls check their arguments. -/
def checksOpcodes (hasArguments : Bool) : List Opcode :=
  if hasArguments then [.checkArguments, .checkBounds, .checkArity] else [.checkBounds]

/-- The switch to so many branches; without branches there is none. -/
def switchOpcodes (count : Nat) : List Opcode :=
  if count = 0 then [] else [.tableSwitch]

/-- A section with these branches. -/
def sectionOpcodes (hasArguments : Bool) (branches : List (List Opcode)) : List Opcode :=
  checksOpcodes hasArguments ++
    (switchOpcodes branches.length ++ (branches.flatten ++ [.throwIllegal]))

section Sections

variable {branches : List (List Opcode)}
  (inBranch : ∀ opcodes ∈ branches, ∀ opcode ∈ opcodes, opcode.inBranch = true)
include inBranch

theorem countP_flatten_eq_zero {select : Opcode → Bool}
    (apart : ∀ opcode, opcode.inBranch = true → select opcode = false) :
    branches.flatten.countP select = 0 := by
  refine List.countP_eq_zero.mpr fun opcode among => ?_
  obtain ⟨opcodes, isBranch, inOpcodes⟩ := List.mem_flatten.mp among
  rw [apart opcode (inBranch opcodes isBranch opcode inOpcodes)]
  exact Bool.false_ne_true

/-- A section checks its selector once. -/
theorem countP_checkBounds (hasArguments : Bool) :
    (sectionOpcodes hasArguments branches).countP (· = .checkBounds) = 1 := by
  have checks : (checksOpcodes hasArguments).countP (· = .checkBounds) = 1 := by
    cases hasArguments <;> rfl
  have switch : (switchOpcodes branches.length).countP (· = .checkBounds) = 0 := by
    unfold switchOpcodes
    split <;> rfl
  have inBranches : branches.flatten.countP (· = .checkBounds) = 0 :=
    countP_flatten_eq_zero inBranch fun opcode isInBranch => by
      cases opcode <;> first | rfl | cases isInBranch
  rw [sectionOpcodes, List.countP_append, List.countP_append, List.countP_append, checks, switch,
    inBranches]
  rfl

/-- A section with branches has one switch. -/
theorem countP_tableSwitch (hasArguments : Bool) (occupied : branches ≠ []) :
    (sectionOpcodes hasArguments branches).countP (· = .tableSwitch) = 1 := by
  have checks : (checksOpcodes hasArguments).countP (· = .tableSwitch) = 0 := by
    cases hasArguments <;> rfl
  have inBranches : branches.flatten.countP (· = .tableSwitch) = 0 :=
    countP_flatten_eq_zero inBranch fun opcode isInBranch => by
      cases opcode <;> first | rfl | cases isInBranch
  rw [sectionOpcodes, List.countP_append, List.countP_append, List.countP_append, checks,
    inBranches, switchOpcodes, if_neg (by simpa using occupied)]
  rfl

end Sections

/-! ## Operations that only work on operands -/

section Locals

/-- All of the operations only work on operands. -/
def Local (opcodes : List Opcode) : Prop := ∀ opcode ∈ opcodes, opcode.isLocal = true

theorem castOpcodes_local (target : ClassId) : Local (castOpcodes target) := by
  unfold castOpcodes
  split <;> simp [Local, Opcode.isLocal]

theorem coerceOpcodes_local (type : ValueType) : Local (coerceOpcodes type) := by
  cases type with
  | reference target => exact castOpcodes_local target
  | _ => simp [Local, coerceOpcodes, Opcode.isLocal]

theorem boxOpcodes_local (type : ValueType) : Local (boxOpcodes type) := by
  cases type <;> simp [Local, boxOpcodes, Opcode.isLocal]

theorem answerOpcodes_local (returnType : ValueType) : Local (answerOpcodes returnType) := by
  cases returnType <;> simp [Local, answerOpcodes, boxOpcodes, Opcode.isLocal]

theorem receiverOpcodes_local (description : TypeDescription) (isStatic : Bool) :
    Local (receiverOpcodes description isStatic) := by
  unfold receiverOpcodes
  split
  · exact nofun
  · exact List.forall_mem_cons.mpr ⟨rfl, castOpcodes_local _⟩

theorem argumentOpcodes_local (parameters : List ValueType) :
    Local (argumentOpcodes parameters) := by
  intro opcode member
  obtain ⟨type, -, among⟩ := List.mem_flatMap.mp member
  rcases List.mem_cons.mp among with rfl | converts
  · rfl
  · exact coerceOpcodes_local type opcode converts

theorem callOpcodes_local (description : TypeDescription) (method : MethodDescription) :
    Local (callOpcodes description method) :=
  List.forall_mem_append.mpr ⟨receiverOpcodes_local description _, argumentOpcodes_local _⟩

end Locals

/-! ## Operations of branches -/

/-- A branch reaches one member, in the midst of operations on operands, and then ends. -/
structure Reaches (access last : Opcode) (opcodes : List Opcode) : Prop where
  isAccess : access.isAccess = true
  isReturn : last.isReturn = true
  split : ∃ front back, Local front ∧ Local back ∧ opcodes = front ++ access :: (back ++ [last])

theorem Reaches.inBranch {access last : Opcode} {opcodes : List Opcode}
    (reaches : Reaches access last opcodes) : ∀ opcode ∈ opcodes, opcode.inBranch = true := by
  obtain ⟨front, back, localFront, localBack, rfl⟩ := reaches.split
  intro opcode among
  simp only [List.mem_append, List.mem_cons, List.not_mem_nil, or_false] at among
  rcases among with inFront | rfl | inBack | rfl
  · simp [Opcode.inBranch, localFront opcode inFront]
  · simp [Opcode.inBranch, reaches.isAccess]
  · simp [Opcode.inBranch, localBack opcode inBack]
  · simp [Opcode.inBranch, reaches.isReturn]

/-- Up to its end a branch has one operation that reaches a member, and none that ends it. -/
theorem Reaches.exists_init {access last : Opcode} {opcodes : List Opcode}
    (reaches : Reaches access last opcodes) :
    ∃ init, opcodes = init ++ [last] ∧ init.countP Opcode.isAccess = 1 ∧
      ∀ opcode ∈ init, opcode.isReturn = false := by
  obtain ⟨front, back, localFront, localBack, rfl⟩ := reaches.split
  refine ⟨front ++ access :: back, by simp, ?_, ?_⟩
  · have none {opcodes : List Opcode} (only : Local opcodes) :
        opcodes.countP Opcode.isAccess = 0 := by
      refine List.countP_eq_zero.mpr fun opcode among => ?_
      have isLocal := only opcode among
      cases opcode <;> first | exact Bool.false_ne_true | cases isLocal
    rw [List.countP_append, List.countP_cons, none localFront, none localBack,
      if_pos reaches.isAccess]
  · have continues {opcode : Opcode} (works : opcode.isLocal = true ∨ opcode.isAccess = true) :
        opcode.isReturn = false := by
      cases opcode <;> first | rfl | (rcases works with works | works <;> cases works)
    intro opcode among
    rcases List.mem_append.mp among with inFront | inRest
    · exact continues (.inl (localFront opcode inFront))
    · rcases List.mem_cons.mp inRest with rfl | inBack
      · exact continues (.inr reaches.isAccess)
      · exact continues (.inl (localBack opcode inBack))

theorem constructorOpcodes_reaches (constructor : ConstructorDescription) :
    Reaches .construct .returnTop (constructorOpcodes constructor) where
  isAccess := rfl
  isReturn := rfl
  split := ⟨_, [], argumentOpcodes_local _, nofun, rfl⟩

section Described

variable (description : TypeDescription)

theorem methodOpcodes_reaches (method : MethodDescription) :
    Reaches (.invoke method.callKind) .returnTop (methodOpcodes description method) where
  isAccess := rfl
  isReturn := rfl
  split := ⟨_, _, callOpcodes_local description method, answerOpcodes_local method.returnType,
    by simp [methodOpcodes]⟩

theorem readOpcodes_reaches (field : FieldDescription) :
    Reaches (.getField field.modifiers.isStatic) .returnTop (readOpcodes description field) where
  isAccess := rfl
  isReturn := rfl
  split := ⟨_, _, receiverOpcodes_local description field.modifiers.isStatic,
    boxOpcodes_local field.valueType, by simp [readOpcodes]⟩

theorem writeOpcodes_reaches (field : FieldDescription) :
    Reaches (.putField field.modifiers.isStatic) .returnNull (writeOpcodes description field) where
  isAccess := rfl
  isReturn := rfl
  split := by
    refine ⟨receiverOpcodes description field.modifiers.isStatic ++
      .loadValue :: coerceOpcodes field.valueType, [], ?_, nofun, by simp [writeOpcodes]⟩
    exact List.forall_mem_append.mpr ⟨receiverOpcodes_local description _,
      List.forall_mem_cons.mpr ⟨rfl, coerceOpcodes_local _⟩⟩

end Described

/-! ## What each part emits -/

section Parts

variable (assembler : Assembler)

theorem emitBox_emits (type : ValueType) :
    Emits assembler (assembler.emitBox type) (boxOpcodes type) := by
  cases type with
  | primitive kind => exact .emit assembler (.box kind)
  | void => exact .refl assembler
  | reference target => exact .refl assembler

theorem cast_emits (target : ClassId) :
    Emits assembler (cast target assembler) (castOpcodes target) := by
  unfold cast castOpcodes
  split
  · exact .refl assembler
  · exact (Emits.intern assembler (.classRef target)).trans (.emit ..)

theorem loadReceiver_emits (description : TypeDescription) :
    Emits assembler (loadReceiver description assembler)
      (.loadReceiver :: castOpcodes description.classId) :=
  (Emits.emit assembler .loadReceiver).trans (cast_emits ..)

theorem coerce_emits (type : ValueType) :
    Emits assembler (coerce type assembler) (coerceOpcodes type) := by
  cases type with
  | reference target => exact cast_emits assembler target
  | void => exact .refl assembler
  | primitive kind => exact .emit assembler (.unbox kind)

theorem loadTarget_emits (description : TypeDescription) (method : MethodDescription) :
    Emits assembler (loadTarget description method assembler)
      (receiverOpcodes description (method.callKind = .static)) := by
  unfold loadTarget receiverOpcodes
  by_cases isStatic : method.callKind = .static
  · rw [if_pos isStatic, if_pos (decide_eq_true isStatic)]
    exact .refl assembler
  · rw [if_neg isStatic, if_neg (by simpa using isStatic)]
    exact loadReceiver_emits assembler description

theorem loadOwner_emits (description : TypeDescription) (field : FieldDescription) :
    Emits assembler (loadOwner description field assembler)
      (receiverOpcodes description field.modifiers.isStatic) := by
  unfold loadOwner receiverOpcodes
  split
  · exact .refl assembler
  · exact loadReceiver_emits assembler description

theorem answer_emits (returnType : ValueType) :
    Emits assembler (answer returnType assembler) (answerOpcodes returnType) := by
  cases returnType with
  | void => exact (Emits.emit assembler .pop).trans (.emit ..)
  | primitive kind => exact emitBox_emits assembler (.primitive kind)
  | reference target => exact .refl assembler

end Parts

theorem loadArguments_emits {index : Nat} {parameters : List ValueType} {before after : Assembler}
    (done : loadArguments index parameters before = .ok after) :
    Emits before after (argumentOpcodes parameters) := by
  induction parameters generalizing index before with
  | nil =>
      obtain rfl := Except.ok.inj done
      exact .refl before
  | cons type rest inductionHypothesis =>
      rw [loadArguments] at done
      split at done
      · have loads := (Emits.emit before (.loadArgument (UInt16.ofNat index))).trans
          (coerce_emits _ type)
        exact loads.trans (inductionHypothesis done)
      · cases done

/-- Every branch that is emitted consists of the operations of its member. -/
def Emitting {Member : Type} (branch : Nat → Member → Emission)
    (opcodes : Member → List Opcode) : Prop :=
  ∀ ordinal member before after, branch ordinal member before = .ok after →
    Emits before after (opcodes member)

theorem constructorBranch_emitting : Emitting constructorBranch constructorOpcodes := by
  intro ordinal constructor before after done
  obtain ⟨loaded, arguments, rfl⟩ := constructorBranch_ok done
  exact (loadArguments_emits arguments).trans
    ((Emits.intern loaded _).trans ((Emits.emitCall ..).trans (.emit ..)))

theorem methodBranch_emitting (description : TypeDescription) :
    Emitting (methodBranch description) (methodOpcodes description) := by
  intro ordinal method before after done
  obtain ⟨loaded, arguments, rfl⟩ := methodBranch_ok done
  have loads := (loadTarget_emits before description method).trans (loadArguments_emits arguments)
  refine ((((loads.trans (.intern ..)).trans (.emitCall ..)).trans (answer_emits ..)).trans
    (.emit ..)).of_eq ?_
  simp [methodOpcodes, callOpcodes, Instruction.opcode]

theorem readBranch_emitting (description : TypeDescription) :
    Emitting (readBranch description) (readOpcodes description) := by
  intro ordinal field before after done
  obtain rfl := readBranch_ok done
  refine (((((Emits.intern before (fieldConstant ordinal field)).trans
    (loadOwner_emits ..)).trans (.emit ..)).trans (emitBox_emits ..)).trans (.emit ..)).of_eq ?_
  simp [readOpcodes, Instruction.opcode]

theorem writeBranch_emitting (description : TypeDescription) :
    Emitting (writeBranch description) (writeOpcodes description) := by
  intro ordinal field before after done
  obtain rfl := writeBranch_ok done
  refine ((((((Emits.intern before (fieldConstant ordinal field)).trans
    (loadOwner_emits ..)).trans (.emit ..)).trans (coerce_emits ..)).trans (.emit ..)).trans
      (.emit ..)).of_eq ?_
  simp [writeOpcodes, Instruction.opcode]

/-! ## What a section emits -/

theorem opening_emits (count : Nat) (wrongSelectorText : String) (arities : Option (List UInt16))
    (assembler : Assembler) :
    Emits assembler (opening count wrongSelectorText arities assembler)
      (checksOpcodes arities.isSome) := by
  cases arities with
  | none => exact (Emits.intern assembler _).trans (.emit ..)
  | some table =>
      rw [opening_some]
      have checks : Emits assembler (argumentsCheck (assembler.message wrongSelectorText).2)
          [.checkArguments] :=
        (Emits.intern assembler _).trans ((Emits.intern ..).trans (.emit ..))
      exact (checks.trans (.emit ..)).trans ((Emits.intern ..).trans
        ((Emits.intern ..).trans (.emit ..)))

section Sections

variable {Member : Type} {branch : Nat → Member → Emission} {opcodes : Member → List Opcode}
  (emitting : Emitting branch opcodes) {members : List Member}
include emitting

theorem branches_emits {first : Nat} {pairs : List (Label × Member)} {before after : Assembler}
    (done : branches branch first pairs before = .ok after) :
    Emits before after ((pairs.map Prod.snd).map opcodes).flatten := by
  induction pairs generalizing first before with
  | nil =>
      obtain rfl := Except.ok.inj done
      exact .refl before
  | cons pair rest inductionHypothesis =>
      obtain ⟨label, member⟩ := pair
      obtain ⟨middle, emitted, following⟩ := exists_of_bind_ok done
      exact ((Emits.mark before label).trans (emitting _ _ _ _ emitted)).trans
        (inductionHypothesis following)

theorem dispatching_emits {opened dispatched : Assembler}
    (done : dispatching members branch opened = .ok dispatched) :
    Emits opened dispatched (switchOpcodes members.length ++ (members.map opcodes).flatten) := by
  unfold dispatching at done
  by_cases empty : members.isEmpty
  · rw [if_pos empty] at done
    obtain rfl := Except.ok.inj done
    rw [List.isEmpty_iff.mp empty]
    exact .of_adds (.of_same rfl rfl)
  · rw [if_neg empty] at done
    have switches := Emits.emit (labelled members.length opened)
      (.tableSwitch (fallbackLabel opened) (branchLabels members.length opened))
    have labels : Emits opened (labelled members.length opened) [] :=
      .of_adds (.of_same (by rw [labelled_eq]) (by rw [labelled_eq]))
    have branches := branches_emits emitting done
    rw [List.map_snd_zip (Nat.le_of_eq (length_branchLabels ..).symm)] at branches
    rw [List.isEmpty_iff, ← List.length_eq_zero_iff] at empty
    rw [switchOpcodes, if_neg empty]
    exact (labels.trans switches).trans branches

/-- A section consists of its checks, its switch with the branches, and the report of the
selector. -/
theorem selectorSection_emits {wrongSelectorText : String} {arities : Option (List UInt16)}
    {before after : Assembler}
    (done : selectorSection members wrongSelectorText arities branch before = .ok after) :
    Emits before after (sectionOpcodes arities.isSome (members.map opcodes)) := by
  rw [selectorSection_eq] at done
  obtain ⟨dispatched, emitted, rest⟩ := exists_of_bind_ok done
  obtain rfl := Except.ok.inj rest
  refine ((((opening_emits members.length wrongSelectorText arities before).trans
    (dispatching_emits emitting emitted)).trans (.mark ..)).trans (.emit ..)).of_eq ?_
  simp [sectionOpcodes, Instruction.opcode]

end Sections

end Dispatcher

end OrdinalDispatch.Code

import OrdinalDispatch.Proofs.Code.Emission

/-!
Contract: how deep the operand stack is tracked to be.

Owns: the depth behind each part of a dispatcher and the highest depth on the
way, and how many operands a description needs.

Does not own: that the machine's stack is as deep as tracked, see
`OrdinalDispatch.Proofs.Machine.StackDiscipline`.

The highest depth of a part is a maximum with the one before, which already
covers the depth that the part starts at.
-/

set_option autoImplicit false

namespace OrdinalDispatch

/-! ## Operands of a description -/

/-- The arguments of a constructor, or the object that it answers with. -/
def ConstructorDescription.operands (constructor : ConstructorDescription) : Nat :=
  max 1 constructor.parameters.length

/-- The arguments of a method with its receiver, if it has one, or the result that it answers
with. -/
def MethodDescription.operands (method : MethodDescription) : Nat :=
  max 1 (method.parameters.length + if method.callKind = .static then 0 else 1)

/-- The new content of a field with its receiver, if it has one. -/
def FieldDescription.operands (field : FieldDescription) : Nat :=
  if field.modifiers.isStatic then 1 else 2

/-- What the most demanding member needs; nothing without members. -/
def TypeDescription.operands (description : TypeDescription) : Nat :=
  (description.constructors.map (·.operands) ++ description.methods.map (·.operands) ++
    description.fields.map (·.operands)).foldr max 0

namespace Code

/-! ## Single operations -/

namespace Assembler

section Operations

variable (assembler : Assembler)

@[simp]
theorem depth_take (needed offset : Nat) :
    (assembler.take needed offset).depth = assembler.depth - needed := by
  unfold take
  split <;> rfl

@[simp]
theorem maxDepth_take (needed offset : Nat) :
    (assembler.take needed offset).maxDepth = assembler.maxDepth := by
  unfold take
  split <;> rfl

/-- Without a fault there was as much as was taken. -/
theorem le_depth_of_take {needed offset : Nat}
    (faultless : (assembler.take needed offset).faults = #[]) : needed ≤ assembler.depth := by
  unfold take at faultless
  split at faultless
  · simp [report] at faultless
  · omega

@[simp]
theorem depth_emitCall (argumentCount : UInt64) (instruction : Instruction Label) :
    (assembler.emitCall argumentCount instruction).depth =
      assembler.depth - operandsTaken argumentCount instruction + operandsGiven instruction := by
  simp [emitCall, give]

@[simp]
theorem maxDepth_emitCall (argumentCount : UInt64) (instruction : Instruction Label) :
    (assembler.emitCall argumentCount instruction).maxDepth =
      max assembler.maxDepth (assembler.depth - operandsTaken argumentCount instruction +
        operandsGiven instruction) := by
  simp [emitCall, give]

theorem le_depth_of_emitCall {argumentCount : UInt64} {instruction : Instruction Label}
    (faultless : (assembler.emitCall argumentCount instruction).faults = #[]) :
    operandsTaken argumentCount instruction ≤ assembler.depth := by
  rw [← depth_append assembler (.instruction instruction)]
  exact le_depth_of_take _ faultless

@[simp]
theorem depth_emit (instruction : Instruction Label) :
    (assembler.emit instruction).depth =
      assembler.depth - operandsTaken 0 instruction + operandsGiven instruction :=
  depth_emitCall assembler 0 instruction

@[simp]
theorem maxDepth_emit (instruction : Instruction Label) :
    (assembler.emit instruction).maxDepth =
      max assembler.maxDepth (assembler.depth - operandsTaken 0 instruction +
        operandsGiven instruction) :=
  maxDepth_emitCall assembler 0 instruction

@[simp]
theorem depth_intern (constant : Constant) :
    (assembler.intern constant).2.depth = assembler.depth := by
  rw [intern_eq]

@[simp]
theorem maxDepth_intern (constant : Constant) :
    (assembler.intern constant).2.maxDepth = assembler.maxDepth := by
  rw [intern_eq]

@[simp]
theorem depth_mark (label : Label) : (assembler.mark label).depth = 0 := by
  unfold mark
  split <;> rfl

@[simp]
theorem maxDepth_mark (label : Label) :
    (assembler.mark label).maxDepth = assembler.maxDepth := by
  unfold mark
  split <;> rfl

end Operations

/-- The highest depth is never below the depth. -/
def Covered (assembler : Assembler) : Prop := assembler.depth ≤ assembler.maxDepth

theorem Move.covered {before after : Assembler} (move : Move before after)
    (covered : before.Covered) : after.Covered := by
  unfold Covered at *
  cases move with
  | emitCall argumentCount instruction =>
      rw [depth_emitCall, maxDepth_emitCall]
      exact Nat.le_max_right _ _
  | intern constant =>
      rw [depth_intern, maxDepth_intern]
      exact covered
  | defineLabel => exact covered
  | mark label =>
      rw [depth_mark]
      exact Nat.zero_le _

theorem Move.maxDepth_le {before after : Assembler} (move : Move before after) :
    before.maxDepth ≤ after.maxDepth := by
  cases move with
  | emitCall argumentCount instruction =>
      rw [maxDepth_emitCall]
      exact Nat.le_max_left _ _
  | intern constant => exact Nat.le_of_eq (maxDepth_intern before constant).symm
  | defineLabel => exact Nat.le_refl _
  | mark label => exact Nat.le_of_eq (maxDepth_mark before label).symm

namespace Assembles

variable {before after : Assembler}

theorem covered (moves : Assembles before after) (covered : before.Covered) : after.Covered := by
  induction moves with
  | refl => exact covered
  | tail _ move inductionHypothesis => exact move.covered inductionHypothesis

theorem maxDepth_le (moves : Assembles before after) : before.maxDepth ≤ after.maxDepth := by
  induction moves with
  | refl => exact Nat.le_refl _
  | tail _ move inductionHypothesis => exact Nat.le_trans inductionHypothesis move.maxDepth_le

end Assembles

end Assembler

/-! ## Parts of branches -/

namespace Dispatcher

open Assembler

/-- A part leaves so many operands behind, on the way to so many, counted from its start. -/
structure Climbs (before after : Assembler) (rise peak : Nat) : Prop where
  depth : after.depth = before.depth + rise
  maxDepth : after.maxDepth = max before.maxDepth (before.depth + peak)

namespace Climbs

variable {before middle after : Assembler} {rise peak further higher : Nat}

theorem refl (covered : before.Covered) : Climbs before before 0 0 where
  depth := rfl
  maxDepth := (Nat.max_eq_left covered).symm

theorem trans (front : Climbs before middle rise peak) (back : Climbs middle after further higher) :
    Climbs before after (rise + further) (max peak (rise + higher)) where
  depth := by rw [back.depth, front.depth, Nat.add_assoc]
  maxDepth := by
    rw [back.maxDepth, front.maxDepth, front.depth]
    omega

theorem covered (climbs : Climbs before after rise peak) (enough : rise ≤ peak) :
    after.Covered := by
  unfold Covered
  rw [climbs.depth, climbs.maxDepth]
  omega

/-- An instruction that takes nothing climbs by what it gives. -/
theorem emit (before : Assembler) {instruction : Instruction Label}
    (takes : operandsTaken 0 instruction = 0) :
    Climbs before (before.emit instruction) (operandsGiven instruction)
      (operandsGiven instruction) where
  depth := by rw [depth_emit, takes, Nat.sub_zero]
  maxDepth := by rw [maxDepth_emit, takes, Nat.sub_zero]

theorem intern (covered : before.Covered) (constant : Constant) :
    Climbs before (before.intern constant).2 0 0 where
  depth := depth_intern before constant
  maxDepth := by
    rw [maxDepth_intern]
    exact (Nat.max_eq_left covered).symm

end Climbs

section Parts

variable {assembler : Assembler} (covered : assembler.Covered)
include covered

theorem emitUnbox_climbs (type : ValueType) : Climbs assembler (assembler.emitUnbox type) 0 0 := by
  cases type with
  | primitive kind => exact Climbs.emit assembler rfl
  | void => exact .refl covered
  | reference target => exact .refl covered

theorem emitBox_climbs (type : ValueType) : Climbs assembler (assembler.emitBox type) 0 0 := by
  cases type with
  | primitive kind => exact Climbs.emit assembler rfl
  | void => exact .refl covered
  | reference target => exact .refl covered

theorem cast_climbs (target : ClassId) : Climbs assembler (cast target assembler) 0 0 := by
  unfold cast
  split
  · exact .refl covered
  · have interned := Climbs.intern covered (.classRef target)
    exact interned.trans (Climbs.emit _ rfl)

omit covered in
theorem loadReceiver_climbs (description : TypeDescription) :
    Climbs assembler (loadReceiver description assembler) 1 1 := by
  have loads : Climbs assembler (assembler.emit .loadReceiver) 1 1 := Climbs.emit _ rfl
  exact loads.trans (cast_climbs (loads.covered (Nat.le_refl _)) description.classId)

theorem coerce_climbs (type : ValueType) : Climbs assembler (coerce type assembler) 0 0 := by
  cases type with
  | reference target => exact cast_climbs covered target
  | void => exact .refl covered
  | primitive kind => exact emitUnbox_climbs covered (.primitive kind)

theorem loadArguments_climbs {index : Nat} {parameters : List ValueType} {loaded : Assembler}
    (done : loadArguments index parameters assembler = .ok loaded) :
    Climbs assembler loaded parameters.length parameters.length := by
  induction parameters generalizing index assembler with
  | nil =>
      obtain rfl := Except.ok.inj done
      exact .refl covered
  | cons type rest inductionHypothesis =>
      rw [loadArguments] at done
      split at done
      · have loads : Climbs assembler
            (assembler.emit (.loadArgument (UInt16.ofNat index))) 1 1 := Climbs.emit _ rfl
        have converts := loads.trans (coerce_climbs (loads.covered (Nat.le_refl _)) type)
        have whole := converts.trans
          (inductionHypothesis (converts.covered (Nat.le_refl _)) done)
        rw [List.length_cons]
        have rise : 1 + 0 + rest.length = rest.length + 1 := by omega
        have peak : max (max 1 (1 + 0)) (rest.length + 1) = rest.length + 1 := by omega
        rwa [rise, peak] at whole
      · cases done

theorem loadOwner_climbs (description : TypeDescription) (field : FieldDescription) :
    Climbs assembler (loadOwner description field assembler)
      (if field.modifiers.isStatic then 0 else 1)
      (if field.modifiers.isStatic then 0 else 1) := by
  unfold loadOwner
  split
  · exact .refl covered
  · exact loadReceiver_climbs description

theorem loadTarget_climbs (description : TypeDescription) (method : MethodDescription) :
    Climbs assembler (loadTarget description method assembler)
      (if method.callKind = .static then 0 else 1)
      (if method.callKind = .static then 0 else 1) := by
  unfold loadTarget
  split
  · exact .refl covered
  · exact loadReceiver_climbs description

/-- The result of a call is replaced, never joined. -/
theorem answer_levels {returnType : ValueType} (single : assembler.depth = 1) :
    (answer returnType assembler).depth = 1 ∧
      (answer returnType assembler).maxDepth = assembler.maxDepth := by
  have keeps : ∀ type, (assembler.emitBox type).depth = 1 ∧
      (assembler.emitBox type).maxDepth = assembler.maxDepth := by
    intro type
    have climbs := emitBox_climbs covered type
    exact ⟨climbs.depth.trans single, climbs.maxDepth.trans (Nat.max_eq_left covered)⟩
  cases returnType with
  | void =>
      unfold Covered at covered
      rw [single] at covered
      constructor
      · simp only [answer, depth_emit, operandsTaken, operandsGiven.eq_def, single]
      · simp only [answer, depth_emit, maxDepth_emit, operandsTaken, operandsGiven.eq_def, single]
        omega
  | primitive kind => exact keeps (.primitive kind)
  | reference target => exact keeps (.reference target)

end Parts

end Dispatcher

end Code

end OrdinalDispatch

import OrdinalDispatch.Machine.Accessor
import OrdinalDispatch.Proofs.Code.Assembly
import OrdinalDispatch.Proofs.Machine.Fetching

/-!
Contract: what a run from a place in the code comes to, without counting its
steps.

Owns: the relation between a place with a stack and the outcome of the run from
there, how it is built from single steps that go forward in the code, and that
the operations of an accessor have fuel enough for it.

Does not own: runs that go back in the code.
-/

set_option autoImplicit false

namespace OrdinalDispatch.Machine.LinkedImage

open OrdinalDispatch.Code

variable {World : Type}

/-- From an offset and a stack on, the machine comes to the outcome. It needs no more fuel than
there are offsets from here on, since it never goes back. -/
def Answers (linked : LinkedImage World) (frame : Frame) (offset : Nat) (stack : List Value)
    (outcome : Call World Value) : Prop :=
  ∀ fuel, linked.image.code.size < offset + fuel →
    run linked.image linked.linkage linked.model frame fuel ⟨offset, stack⟩ = some <$> outcome

variable {linked : LinkedImage World} {frame : Frame}

/-- The fuel of an entry is enough for every outcome that is come to without going back. -/
theorem Answers.enter {entryPoint : EntryPoint} {outcome : Call World Value}
    (answers : linked.Answers frame (linked.image.entry entryPoint) [] outcome) :
    linked.enter entryPoint frame = some <$> outcome := by
  refine answers linked.fuel ?_
  have enough : linked.image.code.size < linked.fuel := by
    unfold fuel
    calc linked.image.code.size
        < (linked.image.code.size + 1) * 1 := by omega
      _ ≤ (linked.image.code.size + 1) * (linked.image.code.size + UInt16.size) :=
          Nat.mul_le_mul_left _ (Nat.le_add_left_of_le (by decide))
  omega

/-- A step that works and then goes forward comes to what the work and the rest come to. -/
theorem Answers.of_step {offset : Nat} {stack : List Value} {instruction : Instruction UInt32}
    {Result : Type} {work : Call World Result} {onward : Result → Call World Value}
    (next : Result → State)
    (decoded : Instruction.decode linked.image.code offset = .ok instruction)
    (effect : execute linked.image linked.linkage linked.model frame stack offset
        (offset + instruction.size) instruction =
      work >>= fun result => pure (.next (next result)))
    (forward : ∀ result, offset < (next result).offset)
    (rest : ∀ result,
      linked.Answers frame (next result).offset (next result).stack (onward result)) :
    linked.Answers frame offset stack (work >>= onward) := by
  intro fuel enough
  have inside := Instruction.lt_size_of_decode decoded
  cases fuel with
  | zero => omega
  | succ fuel =>
      rw [run, step_eq decoded, effect]
      simp only [bind_assoc, pure_bind, map_bind]
      refine bind_congr fun result => ?_
      have further := forward result
      exact rest result fuel (by omega)

/-- A step that answers comes to its answer. -/
theorem Answers.of_last {offset : Nat} {stack : List Value} {instruction : Instruction UInt32}
    {work : Call World Value}
    (decoded : Instruction.decode linked.image.code offset = .ok instruction)
    (effect : execute linked.image linked.linkage linked.model frame stack offset
        (offset + instruction.size) instruction =
      work >>= fun value => pure (.answer value)) :
    linked.Answers frame offset stack work := by
  intro fuel enough
  have inside := Instruction.lt_size_of_decode decoded
  cases fuel with
  | zero => omega
  | succ fuel =>
      rw [run, step_eq decoded, effect]
      simp only [bind_assoc, pure_bind, map_eq_pure_bind]

/-! ## Steps of assembled code -/

section Assembled

variable {final assembler : Assembler} {stack : List Value} {argumentCount : UInt64}
  {instruction : Instruction Label}

/-- An instruction that works on the stack and goes on comes to what the work and the code behind
it come to. -/
theorem Answers.of_emitCall (makes : final.Makes linked.image) (sound : assembler.Sound)
    (moves : Assembler.Assembles (assembler.emitCall argumentCount instruction) final)
    {Result : Type} {work : Call World Result} {onward : Result → Call World Value}
    (next : Result → List Value)
    (effect : execute linked.image linked.linkage linked.model frame stack assembler.offset
        (assembler.offset + instruction.size) (instruction.mapTargets final.writtenPlace) =
      work >>= fun result =>
        pure (.next ⟨assembler.offset + instruction.size, next result⟩))
    (rest : ∀ result,
      linked.Answers frame (assembler.emitCall argumentCount instruction).offset (next result)
        (onward result)) :
    linked.Answers frame assembler.offset stack (work >>= onward) := by
  have further := instruction.size_pos
  rw [Assembler.offset_emitCall] at rest
  rw [← Instruction.size_mapTargets final.writtenPlace] at effect rest further
  exact Answers.of_step _ (makes.decode moves sound) effect
    (fun _ => Nat.lt_add_of_pos_right further) rest

/-- An instruction that only changes the stack comes to what the code behind it comes to. -/
theorem Answers.of_emit (makes : final.Makes linked.image) (sound : assembler.Sound)
    (moves : Assembler.Assembles (assembler.emitCall argumentCount instruction) final)
    {changed : List Value} {outcome : Call World Value}
    (effect : execute linked.image linked.linkage linked.model frame stack assembler.offset
        (assembler.offset + instruction.size) (instruction.mapTargets final.writtenPlace) =
      pure (.next ⟨assembler.offset + instruction.size, changed⟩))
    (rest : linked.Answers frame (assembler.emitCall argumentCount instruction).offset changed
      outcome) :
    linked.Answers frame assembler.offset stack outcome := by
  rw [← pure_bind () fun _ => outcome]
  refine Answers.of_emitCall makes sound moves (fun _ => changed) ?_ fun _ => rest
  rw [effect, pure_bind]

/-- An instruction that ends the run comes to its answer or failure. -/
theorem Answers.of_emit_last (makes : final.Makes linked.image) (sound : assembler.Sound)
    (moves : Assembler.Assembles (assembler.emitCall argumentCount instruction) final)
    {work : Call World Value}
    (effect : execute linked.image linked.linkage linked.model frame stack assembler.offset
        (assembler.offset + instruction.size) (instruction.mapTargets final.writtenPlace) =
      work >>= fun value => pure (.answer value)) :
    linked.Answers frame assembler.offset stack work := by
  rw [← Instruction.size_mapTargets final.writtenPlace] at effect
  exact Answers.of_last (makes.decode moves sound) effect

theorem Answers.of_emit_throw (makes : final.Makes linked.image) (sound : assembler.Sound)
    (moves : Assembler.Assembles (assembler.emitCall argumentCount instruction) final)
    {error : AccessError}
    (effect : execute linked.image linked.linkage linked.model frame stack assembler.offset
        (assembler.offset + instruction.size) (instruction.mapTargets final.writtenPlace) = throw error) :
    linked.Answers frame assembler.offset stack (throw error) := by
  refine Answers.of_emit_last makes sound moves ?_
  rw [effect, ExceptT.bind_throw]

end Assembled

end OrdinalDispatch.Machine.LinkedImage

import OrdinalDispatch.Machine.Step
import OrdinalDispatch.Proofs.Code.Reading

/-!
Contract: the machine runs the instructions that the check decodes.

Owns: what the machine reads where an instruction decodes, and the step from
there.

Does not own: which instructions decode, see `OrdinalDispatch.Proofs.Code.Sweeping`.

The machine never looks up a length. Of a switch it reads the count, the fallback
and one target, in the middle of the operands, and jumps from there.
-/

set_option autoImplicit false

namespace OrdinalDispatch.Machine

open OrdinalDispatch.Code
open OrdinalDispatch.Code.Instruction (wordAt wordsAt kindAt kindOf ofOperands lengthAt)

variable {code : Array UInt8} {offset : Nat} {selector : Int32}

/-- The machine reads all of an instruction but a switch, as the check does. -/
theorem run_fetch {opcode : Opcode} {instruction : Instruction UInt32}
    (plain : opcode ≠ .tableSwitch) (inside : offset + lengthAt code offset opcode ≤ code.size)
    (read : ofOperands code offset opcode = .ok instruction) :
    (fetch code selector opcode).run offset =
      some (instruction, offset + lengthAt code offset opcode) := by
  cases opcode with
  | tableSwitch => exact absurd rfl plain
  | checkBounds =>
      have within : offset + 6 ≤ code.size := inside
      obtain rfl := Except.ok.inj read
      rw [fetch, run_bind_of_some (run_readWord (by omega)),
        run_bind_of_some (run_readIndex (by omega))]
      rfl
  | checkArity =>
      have within : offset + 4 ≤ code.size := inside
      obtain rfl := Except.ok.inj read
      rw [fetch, run_bind_of_some (run_readIndex (by omega)),
        run_bind_of_some (run_readIndex (by omega))]
      rfl
  | unbox | box =>
      rw [fetch, run_bind_of_some (run_readByte inside)]
      rw [ofOperands, kindAt, kindOf] at read
      cases named : Primitive.ofCode? (code.getD offset 0) with
      | none =>
          simp only [named] at read
          cases read
      | some kind =>
          simp only [named] at read
          obtain rfl := Except.ok.inj read
          rfl
  | throwNoDefault | loadReceiver | loadValue | constNull | pop | returnTop | returnNull =>
      obtain rfl := Except.ok.inj read
      rfl
  | _ =>
      obtain rfl := Except.ok.inj read
      rw [fetch, run_bind_of_some (run_readIndex inside)]
      rfl

/-- The target that a selector picks of a switch. -/
def pickedTarget (selector : Int32) (fallback : UInt32) (targets : List UInt32) : UInt32 :=
  if selects selector targets.length then targets.getD selector.toInt.toNat fallback else fallback

/-- A switch that has nothing to pick from jumps to its fallback. -/
theorem pickedTarget_nil (selector : Int32) (fallback : UInt32) :
    pickedTarget selector fallback [] = fallback := by
  unfold pickedTarget
  split <;> rfl

theorem toNat_lt_of_selects {count : Nat} (selected : selects selector count = true) :
    selector.toInt.toNat < count := by
  simp only [selects, Bool.and_eq_true, decide_eq_true_eq] at selected
  omega

/-- Of a switch the machine reads the target that the selector picks. -/
theorem run_fetch_tableSwitch (selector : Int32)
    (inside : offset + lengthAt code offset .tableSwitch ≤ code.size) :
    ∃ behind, (fetch code selector .tableSwitch).run offset =
      some (.tableSwitch (pickedTarget selector (wordAt code (offset + 4))
        (wordsAt code (offset + 8) (readBytes code offset 4))) [], behind) := by
  have count := toNat_wordAt code offset
  rw [lengthAt, if_pos rfl] at inside
  rw [fetch, run_bind_of_some (run_readWord (by omega)),
    run_bind_of_some (run_readWord (by omega)), count]
  rw [pickedTarget, length_wordsAt]
  by_cases selected : selects selector (readBytes code offset 4)
  · have below := toNat_lt_of_selects selected
    rw [if_pos selected, if_pos selected, getD_wordsAt below,
      run_bind_of_some (run_passOver _), run_bind_of_some (run_readWord (by omega))]
    exact ⟨_, rfl⟩
  · rw [if_neg selected, if_neg selected]
    exact ⟨_, rfl⟩

section Steps

variable {World : Type} {image : Image} {linkage : Linkage World} {model : TypeModel World}
  {frame : Frame} {state : State}

theorem execute_tableSwitch_eq (stack : List Value) (offset behind : Nat) (fallback : UInt32)
    (targets : List UInt32) :
    execute image linkage model frame stack offset behind (.tableSwitch fallback targets) =
      pure (.next ⟨(pickedTarget frame.selector fallback targets).toNat, stack⟩) := rfl

/-- Where an instruction decodes, the machine executes it. -/
theorem step_eq {instruction : Instruction UInt32}
    (decoded : Instruction.decode image.code state.offset = .ok instruction) :
    step image linkage model frame state =
      execute image linkage model frame state.stack state.offset
        (state.offset + instruction.size) instruction := by
  obtain ⟨byte, opcode, present, known, inside, read⟩ := Instruction.exists_of_decode decoded
  simp only [step, present, known]
  by_cases switched : opcode = .tableSwitch
  · subst switched
    obtain rfl := Except.ok.inj read
    obtain ⟨behind, fetched⟩ := run_fetch_tableSwitch frame.selector inside
    simp only [fetched, execute_tableSwitch_eq, pickedTarget_nil]
  · rw [run_fetch switched inside read, Instruction.size_of_ofOperands read, ← Nat.add_assoc]

end Steps

end OrdinalDispatch.Machine

import Mathlib.Order.Bounds.Basic
import OrdinalDispatch.Proofs.Code.Admission
import OrdinalDispatch.Proofs.Code.Calls

/-!
Contract: when code under assembly is finished, and what is reported otherwise.

Owns: the effect of every call, the depth, labels, constants and faults that a
sequence of effects comes to, and that finishing depends on nothing else.

Does not own: the bytes of finished code, see `OrdinalDispatch.Proofs.Code.Calls`.

All faults are told from the effects alone: the assembler's own books agree with
these accounts after every sequence of calls.
-/

set_option autoImplicit false

namespace OrdinalDispatch.Code

/-! ## Effects -/

/-- What a call does. -/
inductive Effect where
  /-- A fragment is added. Once so many bytes of it are written operands are taken, and in the end
  operands are given. -/
  | emission (fragment : Fragment) (bytesBeforeTaking taken given : Nat)
  | request (constant : Constant)
  | marking (label : Label)
  | definition
  | nothing
deriving DecidableEq

namespace Effect

/-- The documented effect of an instruction. What takes no operands has nothing to write before it
does; a field access has written its operation only, all others are written as a whole. -/
def ofInstruction (argumentCount : Nat) (instruction : Instruction Label) : Effect :=
  let adds := emission (.instruction instruction)
  match instruction with
  | .checkArguments _ | .checkBounds _ _ | .checkArity _ _ => adds 0 0 0
  | .tableSwitch _ _ | .throwIllegal _ | .throwNoDefault => adds 0 0 0
  | .loadReceiver | .loadArgument _ | .loadValue | .constNull => adds 0 0 1
  | .pop => adds 1 1 0
  | .unbox _ | .box _ | .checkCast _ => adds 0 0 0
  | .construct _ => adds 3 argumentCount 1
  | .invoke .static _ => adds 3 argumentCount 1
  | .invoke .special _ | .invoke .virtual _ | .invoke .interface _ => adds 3 (argumentCount + 1) 1
  | .getField true _ => adds 0 0 1
  | .getField false _ => adds 1 1 1
  | .putField true _ => adds 1 1 0
  | .putField false _ => adds 1 2 0
  | .returnTop => adds 1 1 0
  | .returnNull => adds 0 0 0

/-- The documented effect of a call through an operation byte, which is written as it is given; only
the byte of a static call takes no receiver. -/
def ofInvoke (byte : UInt8) (method : UInt16) (argumentCount : Nat) : Effect :=
  .emission
    (match Opcode.ofByte? byte with
      | some (.invoke kind) => .instruction (.invoke kind method)
      | _ => .foreignCall byte method)
    3 (if byte = (Opcode.invoke .static).byte then argumentCount else argumentCount + 1) 1

/-- How many operands an effect takes. -/
def taken : Effect → Nat
  | .emission _ _ taken _ => taken
  | _ => 0

/-- The effect when the operands that it takes are counted in 64 bits. -/
def counted : Effect → Effect
  | .emission fragment bytesBeforeTaking taken given =>
      .emission fragment bytesBeforeTaking (taken % 2 ^ 64) given
  | effect => effect

/-- What an effect makes of code under assembly. -/
def perform : Effect → Assembler → Assembler
  | .emission fragment bytesBeforeTaking taken given, assembler =>
      ((assembler.append fragment).take taken (assembler.offset + bytesBeforeTaking)).give given
  | .request constant, assembler => (assembler.intern constant).2
  | .marking label, assembler => assembler.mark label
  | .definition, assembler => assembler.defineLabel.2
  | .nothing, assembler => assembler

end Effect

namespace Call

/-- The documented effect of a call. -/
def documented : Call → Effect
  | .defineLabel => .definition
  | .mark label => .marking label
  | .intern constant => .request constant
  | .message text => .request (.message text)
  | .emit argumentCount instruction => .ofInstruction argumentCount.toNat instruction
  | .unbox (.primitive kind) => .ofInstruction 0 (.unbox kind)
  | .unbox _ => .nothing
  | .box (.primitive kind) => .ofInstruction 0 (.box kind)
  | .box _ => .nothing
  | .invoke byte method argumentCount => .ofInvoke byte method argumentCount.toNat

/-- The effect that a call has. -/
def effect (call : Call) : Effect := call.documented.counted

/-- The effects of calls. -/
def effects (calls : List Call) : List Effect := calls.map effect

end Call

namespace Effect

section Emission

variable (assembler : Assembler)

/-- Where nothing is taken it does not matter where. -/
theorem take_zero (one other : Nat) : assembler.take 0 one = assembler.take 0 other := by
  simp [Assembler.take]

/-- An instruction is emitted with the operands that the assembler has in its books for it. -/
theorem emitCall_eq_perform {argumentCount : UInt64} {instruction : Instruction Label}
    {bytesBeforeTaking taken given : Nat}
    (takes : Assembler.operandsTaken argumentCount instruction = taken)
    (gives : Assembler.operandsGiven instruction = given)
    (written : taken = 0 ∨ Assembler.bytesBeforeTaking instruction = bytesBeforeTaking) :
    assembler.emitCall argumentCount instruction =
      (emission (.instruction instruction) bytesBeforeTaking taken given).perform assembler := by
  rw [Assembler.emitCall, perform, takes, gives]
  rcases written with rfl | rfl
  · rw [take_zero]
  · rfl

/-- A receiver is added to the arguments as 64 bits have it. -/
theorem toNat_add_one (argumentCount : UInt64) :
    (argumentCount + 1).toNat = (argumentCount.toNat + 1) % 2 ^ 64 :=
  UInt64.toNat_add argumentCount 1

theorem toNat_mod (argumentCount : UInt64) :
    argumentCount.toNat = argumentCount.toNat % 2 ^ 64 :=
  (Nat.mod_eq_of_lt argumentCount.toNat_lt).symm

theorem perform_ofInstruction (argumentCount : UInt64) (instruction : Instruction Label) :
    (ofInstruction argumentCount.toNat instruction).counted.perform assembler =
      assembler.emitCall argumentCount instruction := by
  symm
  cases instruction with
  | construct constructor =>
      exact emitCall_eq_perform assembler (toNat_mod argumentCount) rfl (.inr rfl)
  | invoke kind method =>
      cases kind with
      | static => exact emitCall_eq_perform assembler (toNat_mod argumentCount) rfl (.inr rfl)
      | _ => exact emitCall_eq_perform assembler (toNat_add_one argumentCount) rfl (.inr rfl)
  | getField isStatic field =>
      cases isStatic with
      | true => exact emitCall_eq_perform assembler rfl rfl (.inl rfl)
      | false => exact emitCall_eq_perform assembler rfl rfl (.inr rfl)
  | putField isStatic field =>
      cases isStatic <;> exact emitCall_eq_perform assembler rfl rfl (.inr rfl)
  | pop | returnTop => exact emitCall_eq_perform assembler rfl rfl (.inr rfl)
  | _ => exact emitCall_eq_perform assembler rfl rfl (.inl rfl)

theorem perform_ofInvoke (byte : UInt8) (method : UInt16) (argumentCount : UInt64) :
    (ofInvoke byte method argumentCount.toNat).counted.perform assembler =
      assembler.emitCallThrough byte method argumentCount := by
  by_cases isCall : ∃ kind, Opcode.ofByte? byte = some (.invoke kind)
  · obtain ⟨kind, found⟩ := isCall
    obtain rfl := Opcode.byte_of_ofByte? found
    have through : assembler.emitCallThrough (Opcode.invoke kind).byte method argumentCount =
        assembler.emitCall argumentCount (.invoke kind method) := by
      simp only [Assembler.emitCallThrough, found]
    rw [through, ← perform_ofInstruction]
    cases kind <;> rfl
  · have other : byte ≠ (Opcode.invoke .static).byte := by
      rintro rfl
      exact isCall ⟨_, Opcode.ofByte?_byte _⟩
    unfold ofInvoke Assembler.emitCallThrough
    split
    · exact (isCall ⟨_, ‹_›⟩).elim
    · simp only [counted, perform, if_neg other, toNat_add_one, Assembler.offset_append,
        Fragment.size]

end Emission

/-- A call has its effect. -/
theorem perform_effect (call : Call) (assembler : Assembler) :
    call.effect.perform assembler = call.perform assembler := by
  cases call with
  | emit argumentCount instruction => exact perform_ofInstruction assembler argumentCount instruction
  | unbox type => cases type <;> rfl
  | box type => cases type <;> rfl
  | invoke byte method argumentCount => exact perform_ofInvoke assembler byte method argumentCount
  | _ => rfl

/-- The count of bytes that an effect adds. -/
def size : Effect → Nat
  | .emission fragment _ _ _ => fragment.size
  | _ => 0

/-- The labels that an effect jumps to, the fallback of a switch before its targets. -/
def references : Effect → List Label
  | .emission fragment _ _ _ => fragment.labels
  | _ => []

/-- The label that an effect marks. -/
def marked? : Effect → Option Label
  | .marking label => some label
  | _ => none

/-- The constant that an effect requests. -/
def requested? : Effect → Option Constant
  | .request constant => some constant
  | _ => none

/-- The depth behind an effect. Less than nothing is nothing. -/
def depthAfter (depth : Nat) : Effect → Nat
  | .emission _ _ taken given => depth - taken + given
  | .marking _ => 0
  | _ => depth

end Effect

/-! ## Accounts of effects -/

namespace Accounts

/-- The count of bytes so far. -/
def bytes (effects : List Effect) : Nat := (effects.map Effect.size).sum

/-- The simulated depth: zero at first and behind every marking, and never below. -/
def depth (effects : List Effect) : Nat := effects.foldl Effect.depthAfter 0

/-- The depths that were ever reached. -/
def depths (effects : List Effect) : Set Nat :=
  {reached | ∃ front, front <+: effects ∧ depth front = reached}

/-- The jumps in the order in which they are emitted. -/
def references (effects : List Effect) : List Label := effects.flatMap Effect.references

/-- The labels that were marked, once for each marking. -/
def marks (effects : List Effect) : List Label := effects.filterMap Effect.marked?

/-- The constants that were requested, once for each request. -/
def requests (effects : List Effect) : List Constant := effects.filterMap Effect.requested?

/-- What goes wrong with an effect behind others. -/
def fault? (front : List Effect) : Effect → Option AssemblyFault
  | .emission _ bytesBeforeTaking taken _ =>
      if depth front < taken then
        some (.stackUnderflow (bytes front + bytesBeforeTaking) taken (depth front))
      else none
  | .request constant =>
      if ConstantPool.Refuses (requests front) constant then some .poolOverflow else none
  | .marking label => if label ∈ marks front then some (.markedTwice label) else none
  | _ => none

/-- What goes wrong on the way, in order: `front` stands before. -/
def faultsFrom (front : List Effect) : List Effect → List AssemblyFault
  | [] => []
  | effect :: rest => (fault? front effect).toList ++ faultsFrom (front ++ [effect]) rest

/-- What goes wrong on the way, in order. -/
def faults (effects : List Effect) : List AssemblyFault := faultsFrom [] effects

/-- The jumps to labels that are never marked. -/
def unresolved (effects : List Effect) : List Label :=
  (references effects).filter (· ∉ marks effects)

/-- All that goes wrong: what does so on the way, and then the jumps that are never resolved. -/
def report (effects : List Effect) : List AssemblyFault :=
  faults effects ++ (unresolved effects).map .neverMarked

section Concat

variable (front : List Effect) (effect : Effect)

theorem bytes_concat : bytes (front ++ [effect]) = bytes front + effect.size := by
  simp [bytes]

theorem depth_concat : depth (front ++ [effect]) = effect.depthAfter (depth front) := by
  simp [depth]

theorem depths_concat :
    depths (front ++ [effect]) = insert (effect.depthAfter (depth front)) (depths front) := by
  ext reached
  simp only [depths, List.prefix_concat_iff, Set.mem_ofPred_eq, Set.mem_insert_iff]
  constructor
  · rintro ⟨_, rfl | earlier, rfl⟩
    · exact .inl (depth_concat front effect)
    · exact .inr ⟨_, earlier, rfl⟩
  · rintro (rfl | ⟨other, earlier, rfl⟩)
    · exact ⟨_, .inl rfl, depth_concat front effect⟩
    · exact ⟨other, .inr earlier, rfl⟩

theorem references_concat :
    references (front ++ [effect]) = references front ++ effect.references := by
  simp [references]

theorem marks_concat : marks (front ++ [effect]) = marks front ++ effect.marked?.toList := by
  cases marked : effect.marked? <;> simp [marks, marked]

theorem requests_concat :
    requests (front ++ [effect]) = requests front ++ effect.requested?.toList := by
  cases requested : effect.requested? <;> simp [requests, requested]

theorem ofList_requests_concat :
    ConstantPool.ofList (requests (front ++ [effect])) =
      effect.requested?.toList.foldl (fun pool constant => (pool.intern constant).2)
        (.ofList (requests front)) := by
  rw [requests_concat, ConstantPool.ofList, ConstantPool.ofList, List.foldl_append]

theorem faultsFrom_concat (start : List Effect) :
    faultsFrom start (front ++ [effect]) =
      faultsFrom start front ++ (fault? (start ++ front) effect).toList := by
  induction front generalizing start with
  | nil => simp [faultsFrom]
  | cons first rest inductionHypothesis =>
      rw [List.cons_append, faultsFrom, inductionHypothesis, faultsFrom, List.append_assoc,
        List.append_assoc, List.singleton_append]

theorem faults_concat :
    faults (front ++ [effect]) = faults front ++ (fault? front effect).toList :=
  faultsFrom_concat front effect []

end Concat

/-! ## The assembler's own books -/

section Performed

variable (effect : Effect) (assembler : Assembler)

theorem offset_perform :
    (effect.perform assembler).offset = assembler.offset + effect.size := by
  cases effect <;> simp [Effect.perform, Effect.size]

theorem depth_perform :
    (effect.perform assembler).depth = effect.depthAfter assembler.depth := by
  cases effect <;>
    simp [Effect.perform, Assembler.give, Assembler.defineLabel,
      Effect.depthAfter]

/-- The highest depth notices every depth, as long as it is not below the depth before. -/
theorem maxDepth_perform (covered : assembler.depth ≤ assembler.maxDepth) :
    (effect.perform assembler).maxDepth =
      max assembler.maxDepth (effect.depthAfter assembler.depth) := by
  cases effect <;>
    simp [Effect.perform, Assembler.give, Assembler.defineLabel,
      Effect.depthAfter, covered]

theorem pool_perform :
    (effect.perform assembler).pool =
      effect.requested?.toList.foldl (fun pool constant => (pool.intern constant).2)
        assembler.pool := by
  cases effect <;>
    simp [Effect.perform, Assembler.give, Assembler.defineLabel,
      Effect.requested?]

theorem references_perform :
    (effect.perform assembler).jumps.toList.map Jump.target =
      assembler.jumps.toList.map Jump.target ++ effect.references := by
  cases effect <;>
    simp [Effect.perform, Assembler.give, Assembler.defineLabel, Assembler.targets_append,
      Effect.references]

/-- A label gets a place just if it is marked. -/
theorem isSome_placeOf?_perform (label : Label) :
    ((effect.perform assembler).placeOf? label).isSome = true ↔
      (assembler.placeOf? label).isSome = true ∨ effect.marked? = some label := by
  cases effect with
  | emission fragment bytesBeforeTaking taken given =>
      show (((assembler.append fragment).take _ _).placeOf? label).isSome = true ↔ _
      simp [Effect.marked?]
  | marking other =>
      by_cases here : label = other
      · subst here
        simp [Effect.perform, Effect.marked?]
      · simp [Effect.perform, Assembler.placeOf?_mark_of_ne assembler here, Effect.marked?,
          Ne.symm here]
  | _ => simp [Effect.perform, Effect.marked?]

end Performed

/-- What code under assembly has noted agrees with the accounts of the effects. -/
structure Agrees (effects : List Effect) (assembler : Assembler) : Prop where
  offset : assembler.offset = bytes effects
  depth : assembler.depth = depth effects
  maxDepth : IsGreatest (depths effects) assembler.maxDepth
  pool : assembler.pool = .ofList (requests effects)
  references : assembler.jumps.toList.map Jump.target = references effects
  marked : ∀ label, (assembler.placeOf? label).isSome = true ↔ label ∈ marks effects
  faults : assembler.faults.toList = faults effects

theorem faults_take (assembler : Assembler) (needed offset : Nat) :
    (assembler.take needed offset).faults.toList = assembler.faults.toList ++
      if assembler.depth < needed then [.stackUnderflow offset needed assembler.depth] else [] := by
  unfold Assembler.take
  split <;> simp [Assembler.report]

namespace Agrees

variable {front : List Effect} {assembler : Assembler} (agrees : Agrees front assembler)
include agrees

theorem covered : assembler.depth ≤ assembler.maxDepth :=
  agrees.maxDepth.2 ⟨front, List.prefix_refl _, agrees.depth.symm⟩

/-- An effect notes the fault that it has by the accounts. -/
theorem faults_perform (effect : Effect) :
    (effect.perform assembler).faults.toList =
      assembler.faults.toList ++ (fault? front effect).toList := by
  cases effect with
  | emission fragment bytesBeforeTaking taken given =>
      simp only [Effect.perform, Assembler.give, faults_take, Assembler.faults_append,
        Assembler.depth_append, agrees.depth, agrees.offset, fault?]
      split <;> rfl
  | request constant =>
      rw [Effect.perform, Assembler.intern_eq, agrees.pool]
      simp only [ConstantPool.intern_isNone_iff_refuses, fault?]
      split <;> simp
  | marking label =>
      rw [Effect.perform, fault?, Assembler.mark]
      have marked := agrees.marked label
      cases found : assembler.placeOf? label with
      | none => simp_all
      | some place => simp_all [Assembler.report]
  | definition => simp [Effect.perform, Assembler.defineLabel, fault?]
  | nothing => simp [Effect.perform, fault?]

theorem step (effect : Effect) : Agrees (front ++ [effect]) (effect.perform assembler) where
  offset := by rw [offset_perform, bytes_concat, agrees.offset]
  depth := by rw [depth_perform, depth_concat, agrees.depth]
  maxDepth := by
    rw [maxDepth_perform effect assembler agrees.covered, depths_concat, agrees.depth, max_comm]
    exact agrees.maxDepth.insert _
  pool := by rw [pool_perform, agrees.pool, ofList_requests_concat]
  references := by rw [references_perform, references_concat, agrees.references]
  marked label := by
    rw [isSome_placeOf?_perform, agrees.marked, marks_concat, List.mem_append, Option.mem_toList]
  faults := by rw [agrees.faults_perform, faults_concat, agrees.faults]

end Agrees

section Concat

variable {front : List Effect} {effect : Effect}

theorem fault?_eq_none_iff :
    fault? front effect = none ↔
      (∀ label, effect.marked? = some label → label ∉ marks front) ∧
        (∀ constant, effect.requested? = some constant →
          ¬ConstantPool.Refuses (requests front) constant) ∧
        effect.taken ≤ depth front := by
  cases effect <;>
    simp [fault?, Effect.marked?, Effect.requested?, Effect.taken]

end Concat

end Accounts

open Accounts

end OrdinalDispatch.Code

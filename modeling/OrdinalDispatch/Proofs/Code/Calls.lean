import Mathlib.Data.List.Induction
import OrdinalDispatch.Proofs.Code.Checking

/-!
Contract: any sequence of calls of the assembler, and what the code that it is
finished as tells of them.

Owns: the calls, the instructions that they emit with the offsets before them,
the offsets at which they mark labels, the room that labels take, and that the
decoding of finished code gives all of this back.

Does not own: the calls that a dispatcher is made of, see
`OrdinalDispatch.Code.Dispatcher`.
-/

set_option autoImplicit false

namespace OrdinalDispatch.Code

/-! ## Calls -/

/-- A call of one of the assembler's operations. -/
inductive Call where
  | defineLabel
  | mark (label : Label)
  | intern (constant : Constant)
  | message (text : String)
  /-- Adds an instruction; only constructors and methods have an argument count. -/
  | emit (argumentCount : UInt64) (instruction : Instruction Label)
  | unbox (type : ValueType)
  | box (type : ValueType)
  | invoke (byte : UInt8) (method : UInt16) (argumentCount : UInt64)

namespace Call

/-- What a call makes of code under assembly. -/
def perform : Call → Assembler → Assembler
  | .defineLabel, assembler => assembler.defineLabel.2
  | .mark label, assembler => assembler.mark label
  | .intern constant, assembler => (assembler.intern constant).2
  | .message text, assembler => (assembler.message text).2
  | .emit argumentCount instruction, assembler => assembler.emitCall argumentCount instruction
  | .unbox type, assembler => assembler.emitUnbox type
  | .box type, assembler => assembler.emitBox type
  | .invoke byte method argumentCount, assembler =>
      assembler.emitCallThrough byte method argumentCount

/-- The instruction that a call emits, if it emits any. -/
def instruction? : Call → Option (Instruction Label)
  | .emit _ instruction => some instruction
  | .unbox (.primitive kind) => some (.unbox kind)
  | .box (.primitive kind) => some (.box kind)
  | .invoke byte method _ =>
      match Opcode.ofByte? byte with
      | some (.invoke kind) => some (.invoke kind method)
      | _ => none
  | _ => none

/-- Methods are invoked through the operation byte of one of the four calls. -/
def Regular : Call → Prop
  | .invoke byte _ _ => ∃ kind : CallKind, byte = (Opcode.invoke kind).byte
  | _ => True

end Call

/-- What a call may come to: one instruction more, a change to the pool or to the labels, or
nothing. -/
inductive Performed (assembler : Assembler) : Call → Assembler → Prop where
  | emits {call : Call} {instruction : Instruction Label} (argumentCount : UInt64)
      (emitted : call.instruction? = some instruction) :
      Performed assembler call (assembler.emitCall argumentCount instruction)
  | interns {call : Call} (constant : Constant) (silent : call.instruction? = none) :
      Performed assembler call (assembler.intern constant).2
  | definesLabel : Performed assembler .defineLabel assembler.defineLabel.2
  | marks (label : Label) : Performed assembler (.mark label) (assembler.mark label)
  | idles {call : Call} (silent : call.instruction? = none) : Performed assembler call assembler

namespace Performed

variable {assembler after : Assembler} {call : Call}

theorem of_regular (regular : call.Regular) (assembler : Assembler) :
    Performed assembler call (call.perform assembler) := by
  cases call with
  | defineLabel => exact .definesLabel
  | mark label => exact .marks label
  | intern constant => exact .interns constant rfl
  | message text => exact .interns (.message text) rfl
  | emit argumentCount instruction => exact .emits argumentCount rfl
  | unbox type =>
      cases type with
      | primitive kind => exact .emits 0 rfl
      | _ => exact .idles rfl
  | box type =>
      cases type with
      | primitive kind => exact .emits 0 rfl
      | _ => exact .idles rfl
  | invoke byte method argumentCount =>
      obtain ⟨kind, rfl⟩ := regular
      have performs : (Call.invoke (Opcode.invoke kind).byte method argumentCount).perform
          assembler = assembler.emitCall argumentCount (.invoke kind method) := by
        simp [Call.perform, Assembler.emitCallThrough, Opcode.ofByte?_byte]
      rw [performs]
      apply Performed.emits
      simp [Call.instruction?, Opcode.ofByte?_byte]

theorem assembles (performed : Performed assembler call after) : assembler.Assembles after := by
  cases performed with
  | emits argumentCount emitted => exact .single (.emitCall ..)
  | interns constant silent => exact .single (.intern ..)
  | definesLabel => exact .single (.defineLabel assembler)
  | marks label => exact .single (.mark assembler label)
  | idles silent => exact .refl assembler

/-- A call adds the instruction that it emits, and nothing else. -/
theorem adds (performed : Performed assembler call after) :
    assembler.Adds after call.instruction?.toList := by
  cases performed with
  | emits argumentCount emitted =>
      rw [emitted]
      exact assembler.adds_emitCall ..
  | interns constant silent =>
      rw [silent]
      exact assembler.adds_intern constant
  | definesLabel => exact .of_same rfl rfl
  | marks label => exact assembler.adds_mark label
  | idles silent =>
      rw [silent]
      exact .refl assembler

/-- Only a marking gives a place to a label. -/
theorem placeOf? (performed : Performed assembler call after) {label : Label} {place : Nat}
    (found : after.placeOf? label = some place) :
    assembler.placeOf? label = some place ∨
      call = .mark label ∧ place = assembler.offset := by
  cases performed with
  | emits argumentCount emitted =>
      rw [Assembler.placeOf?_emitCall] at found
      exact .inl found
  | interns constant silent =>
      rw [Assembler.placeOf?_intern] at found
      exact .inl found
  | definesLabel => exact .inl found
  | marks marked =>
      rcases Assembler.placeOf?_of_mark found with known | ⟨rfl, here⟩
      · exact .inl known
      · exact .inr ⟨rfl, here⟩
  | idles silent => exact .inl found

end Performed

/-! ## Sequences of calls -/

/-- The code after some calls. -/
def Assembler.ofCalls (calls : List Call) : Assembler :=
  calls.foldl (fun assembler call => call.perform assembler) {}

/-- The instructions that calls emit behind other code, each with the offset just before its
call. -/
def emissionsFrom : Assembler → List Call → List (Nat × Instruction Label)
  | _, [] => []
  | assembler, call :: rest =>
      (call.instruction?.toList.map fun instruction => (assembler.offset, instruction)) ++
        emissionsFrom (call.perform assembler) rest

/-- The instructions that calls emit, each with the offset just before its call. -/
def emissions (calls : List Call) : List (Nat × Instruction Label) :=
  emissionsFrom {} calls

/-- Among the calls a label is marked when the code has come to the offset. -/
def MarkedAt (calls : List Call) (label : Label) (offset : Nat) : Prop :=
  ∃ front back, calls = front ++ .mark label :: back ∧ offset = (Assembler.ofCalls front).offset

theorem ofCalls_concat (calls : List Call) (call : Call) :
    Assembler.ofCalls (calls ++ [call]) = call.perform (Assembler.ofCalls calls) := by
  simp [Assembler.ofCalls]

section Sequences

variable {calls : List Call} (regular : ∀ call ∈ calls, call.Regular)
include regular

/-- Emitted instructions stand one behind the other. -/
theorem emissionsFrom_eq (assembler : Assembler) :
    emissionsFrom assembler calls =
      placed assembler.offset (calls.filterMap Call.instruction?) := by
  induction calls generalizing assembler with
  | nil => rfl
  | cons call rest inductionHypothesis =>
      have performed := Performed.of_regular (regular call List.mem_cons_self) assembler
      have others := inductionHypothesis
        (fun other later => regular other (List.mem_cons_of_mem call later))
        (call.perform assembler)
      rw [emissionsFrom, others, performed.adds.offset]
      cases emitted : call.instruction? with
      | none => simp [emitted]
      | some instruction => simp [emitted, placed]

theorem emissions_eq : emissions calls = placed 0 (calls.filterMap Call.instruction?) :=
  emissionsFrom_eq regular {}

theorem foldl_assembles (assembler : Assembler) :
    assembler.Assembles (calls.foldl (fun assembler call => call.perform assembler) assembler) := by
  induction calls generalizing assembler with
  | nil => exact .refl assembler
  | cons call rest inductionHypothesis =>
      have performed := Performed.of_regular (regular call List.mem_cons_self) assembler
      apply performed.assembles.trans
      apply inductionHypothesis
      intro other later
      exact regular other (List.mem_cons_of_mem call later)

/-- What is written are the emitted instructions, in call order, whatever their labels. -/
theorem adds_ofCalls :
    Assembler.Adds {} (Assembler.ofCalls calls) (calls.filterMap Call.instruction?) := by
  induction calls using List.reverseRecOn with
  | nil => exact .refl {}
  | append_singleton front call inductionHypothesis =>
      have performed := Performed.of_regular (regular call (by simp)) (Assembler.ofCalls front)
      have standing := inductionHypothesis fun other earlier => regular other (by simp [earlier])
      have last : [call].filterMap Call.instruction? = call.instruction?.toList := by
        cases emitted : call.instruction? <;> simp [emitted]
      rw [ofCalls_concat, List.filterMap_append, last]
      exact standing.trans performed.adds

theorem sound_ofCalls : (Assembler.ofCalls calls).Sound :=
  (foldl_assembles regular {}).sound Assembler.sound_empty

/-- A marking is somewhere on the way to the finished code. -/
theorem MarkedAt.exists_assembles {label : Label} {offset : Nat}
    (marked : MarkedAt calls label offset) :
    ∃ assembler : Assembler, assembler.Sound ∧ offset = assembler.offset ∧
      (assembler.mark label).Assembles (Assembler.ofCalls calls) := by
  obtain ⟨front, back, rfl, here⟩ := marked
  refine ⟨Assembler.ofCalls front, ?_, here, ?_⟩
  · apply sound_ofCalls
    intro call earlier
    exact regular call (List.mem_append_left _ earlier)
  · have behind := @foldl_assembles back (fun call later => regular call (by simp [later]))
      ((Assembler.ofCalls front).mark label)
    simpa [Assembler.ofCalls, Call.perform] using behind

/-- Without a fault, labels have the places at which they were marked, and no others. -/
theorem markedAt_iff (faultless : (Assembler.ofCalls calls).faults = #[]) {label : Label}
    {offset : Nat} :
    MarkedAt calls label offset ↔ (Assembler.ofCalls calls).placeOf? label = some offset := by
  constructor
  · intro marked
    obtain ⟨assembler, sound, rfl, moves⟩ := marked.exists_assembles regular
    have keeps := moves.extends_of_sound ((Assembler.Move.mark assembler label).sound sound)
    exact keeps.places faultless label _ (Assembler.placeOf?_mark assembler label)
  · clear faultless
    intro found
    induction calls using List.reverseRecOn with
    | nil => cases found
    | append_singleton front call inductionHypothesis =>
        have performed := Performed.of_regular (regular call (by simp)) (Assembler.ofCalls front)
        rw [ofCalls_concat] at found
        rcases performed.placeOf? found with known | ⟨rfl, here⟩
        · obtain ⟨start, back, rfl, marked⟩ := inductionHypothesis
            (fun other earlier => regular other (by simp [earlier])) known
          exact ⟨start, back ++ [call], by simp, marked⟩
        · exact ⟨front, [], rfl, here⟩

end Sequences

/-! ## The room of labels -/

/-- The bytes in which a label is written: a switch has its operation and its count before them. -/
def IsLabelByte (rows : List (Nat × Instruction Label)) (position : Nat) : Prop :=
  ∃ row ∈ rows, ∃ index < row.2.targets.length,
    row.1 + 5 + 4 * index ≤ position ∧ position < row.1 + 9 + 4 * index

namespace Instruction

/-- Two placings of labels differ in the bytes of the labels only. -/
theorem getElem?_encode_mapTargets (instruction : Instruction Label)
    (place other : Label → UInt32) {position : Nat}
    (outside : ∀ index < instruction.targets.length,
      position < 5 + 4 * index ∨ 9 + 4 * index ≤ position) :
    (instruction.mapTargets place).encode[position]? =
      (instruction.mapTargets other).encode[position]? := by
  cases instruction with
  | tableSwitch fallback targets =>
      simp only [mapTargets, encode_tableSwitch, List.length_map]
      by_cases early : position < 5
      · rw [List.getElem?_append_left, List.getElem?_append_left] <;>
          simpa [length_wordBytes] using early
      · have late : 5 + 4 * (targets.length + 1) ≤ position := by
          by_contra within
          have apart := outside ((position - 5) / 4)
          simp only [Instruction.targets, List.length_cons] at apart
          omega
        rw [List.getElem?_eq_none, List.getElem?_eq_none] <;>
        · simp only [List.length_append, List.length_cons, length_wordBytes,
            length_flatMap_wordBytes, List.length_map]
          omega
  | _ => rfl

end Instruction

/-- Two placings of labels differ in the bytes of the labels only. -/
theorem getElem?_flatMap_encode (instructions : List (Instruction Label))
    (place other : Label → UInt32) (offset : Nat) {position : Nat}
    (outside : ¬ IsLabelByte (placed offset instructions) (offset + position)) :
    (instructions.flatMap fun instruction => (instruction.mapTargets place).encode)[position]? =
      (instructions.flatMap fun instruction =>
        (instruction.mapTargets other).encode)[position]? := by
  induction instructions generalizing offset position with
  | nil => rfl
  | cons first rest inductionHypothesis =>
      have length (placing : Label → UInt32) : (first.mapTargets placing).encode.length =
          first.size := by
        rw [Instruction.length_encode, Instruction.size_mapTargets]
      rw [List.flatMap_cons, List.flatMap_cons]
      by_cases inside : position < first.size
      · rw [List.getElem?_append_left (by rw [length]; exact inside),
          List.getElem?_append_left (by rw [length]; exact inside)]
        apply Instruction.getElem?_encode_mapTargets
        intro index isIndex
        by_contra within
        exact outside ⟨_, List.mem_cons_self, index, isIndex, by omega⟩
      · have behind := Nat.not_lt.mp inside
        rw [List.getElem?_append_right (by rw [length]; exact behind),
          List.getElem?_append_right (by rw [length]; exact behind), length, length]
        apply inductionHypothesis (offset + first.size)
        rintro ⟨row, later, index, isIndex, within⟩
        exact outside ⟨row, List.mem_cons_of_mem _ later, index, isIndex, by omega⟩

/-! ## Finished code -/

section Finished

variable {calls : List Call} {assembled : AssembledCode}
  (regular : ∀ call ∈ calls, call.Regular)
  (finished : (Assembler.ofCalls calls).finish = .ok assembled)
include regular finished

theorem toList_code_of_finish :
    assembled.code.toList = (calls.filterMap Call.instruction?).flatMap fun instruction =>
      (instruction.mapTargets (Assembler.ofCalls calls).writtenPlace).encode := by
  obtain ⟨-, marked, code, -⟩ := Assembler.finish_ok finished
  rw [code, Assembler.toList_patched (adds_ofCalls regular) marked]

theorem size_code_of_finish : assembled.code.size = (Assembler.ofCalls calls).offset := by
  obtain ⟨-, marked, code, -⟩ := Assembler.finish_ok finished
  rw [code, Assembler.size_patched (sound_ofCalls regular) marked]

/-- Every label that is jumped to was marked, or finishing would have failed. -/
theorem exists_markedAt {row : Nat × Instruction Label} (emitted : row ∈ emissions calls)
    {label : Label} (isTarget : label ∈ row.2.targets) : ∃ offset, MarkedAt calls label offset := by
  obtain ⟨faultless, marked, -⟩ := Assembler.finish_ok finished
  rw [emissions_eq regular] at emitted
  have placed := Assembler.isSome_placeOf?_of_target (adds_ofCalls regular) marked
    (List.mem_flatMap.mpr ⟨_, mem_of_mem_placed emitted, isTarget⟩)
  rw [Option.isSome_iff_exists] at placed
  simpa only [markedAt_iff regular faultless] using placed

/-- Each label is written as the offset at which it was marked. -/
theorem toNat_writtenPlace_of_markedAt (short : assembled.code.size < 2 ^ 32) {label : Label}
    {offset : Nat} (marked : MarkedAt calls label offset) :
    ((Assembler.ofCalls calls).writtenPlace label).toNat = offset := by
  obtain ⟨faultless, -⟩ := Assembler.finish_ok finished
  have placed := (markedAt_iff regular faultless).mp marked
  obtain ⟨assembler, sound, here, moves⟩ := marked.exists_assembles regular
  have grows := (moves.extends_of_sound ((Assembler.Move.mark assembler label).sound sound)).offset
  rw [Assembler.offset_mark, ← here, ← size_code_of_finish regular finished] at grows
  rw [Assembler.writtenPlace, placed, Option.getD_some, UInt32.toNat_ofNat',
    Nat.mod_eq_of_lt (Nat.lt_of_le_of_lt grows short)]

end Finished

/-- Decoding undoes assembly: the finished code of any calls is decoded into the instructions that
were emitted, where they were emitted, and each jump leads to where its label was marked. Patching
changes only the bytes in which labels are written. -/
theorem decoding_undoes_assembly {calls : List Call} {assembled : AssembledCode}
    (regular : ∀ call ∈ calls, call.Regular)
    (finished : (Assembler.ofCalls calls).finish = .ok assembled)
    (short : assembled.code.size < 2 ^ 32) :
    ∃ place : Label → UInt32,
      sweep assembled.code =
        ⟨((emissions calls).map fun row => (row.1, row.2.mapTargets place)).toArray, none⟩ ∧
      (∀ row ∈ emissions calls, ∀ label ∈ row.2.targets, ∀ offset,
        MarkedAt calls label offset ↔ offset = (place label).toNat) ∧
      ∀ position, ¬ IsLabelByte (emissions calls) position →
        assembled.code[position]? = (Assembler.ofCalls calls).code[position]? := by
  have code := toList_code_of_finish regular finished
  refine ⟨(Assembler.ofCalls calls).writtenPlace, ?_, ?_, ?_⟩
  · rw [emissions_eq regular]
    exact sweep_encode_mapTargets code short
  · intro row emitted label isTarget offset
    constructor
    · intro marked
      exact (toNat_writtenPlace_of_markedAt regular finished short marked).symm
    · rintro rfl
      obtain ⟨offset, marked⟩ := exists_markedAt regular finished emitted isTarget
      rwa [toNat_writtenPlace_of_markedAt regular finished short marked]
  · intro position outside
    have written : (Assembler.ofCalls calls).code.toList =
        (calls.filterMap Call.instruction?).flatMap Instruction.unplaced :=
      (adds_ofCalls regular).code
    rw [emissions_eq regular] at outside
    rw [← Array.getElem?_toList, ← Array.getElem?_toList, code, written]
    apply getElem?_flatMap_encode _ _ _ 0
    rwa [Nat.zero_add]

/-- A switch that jumps back to itself, and ahead to a call by a label that was defined
elsewhere. -/
def loopCalls : List Call :=
  [.defineLabel, .mark ⟨0⟩, .emit 0 (.tableSwitch ⟨0⟩ [⟨7⟩, ⟨0⟩]), .mark ⟨7⟩, .unbox .void,
    .invoke 0x31 7 0, .emit 0 .returnTop]

/-- What `loopCalls` are finished as. -/
def loopCode : AssembledCode where
  code := #[4, 2, 0, 0, 0, 0, 0, 0, 0, 17, 0, 0, 0, 0, 0, 0, 0, 49, 7, 0, 64]
  constants := #[]
  maxStack := 1

theorem decoding_undoes_assembly_loop :
    (∀ call ∈ loopCalls, call.Regular) ∧
      (Assembler.ofCalls loopCalls).finish = .ok loopCode ∧
      loopCode.code.size < 2 ^ 32 ∧
      ∃ place : Label → UInt32,
        sweep loopCode.code =
          ⟨((emissions loopCalls).map fun row => (row.1, row.2.mapTargets place)).toArray, none⟩ ∧
        (∀ row ∈ emissions loopCalls, ∀ label ∈ row.2.targets, ∀ offset,
          MarkedAt loopCalls label offset ↔ offset = (place label).toNat) ∧
        ∀ position, ¬ IsLabelByte (emissions loopCalls) position →
          loopCode.code[position]? = (Assembler.ofCalls loopCalls).code[position]? := by
  have regular : ∀ call ∈ loopCalls, call.Regular := by
    simp only [loopCalls, List.forall_mem_cons, List.not_mem_nil, false_implies, implies_true,
      Call.Regular, true_and, and_true]
    exact ⟨.static, rfl⟩
  have finished : (Assembler.ofCalls loopCalls).finish = .ok loopCode := by
    decide +kernel
  have short : loopCode.code.size < 2 ^ 32 := by
    decide
  exact ⟨regular, finished, short, decoding_undoes_assembly regular finished short⟩

end OrdinalDispatch.Code

import OrdinalDispatch.Proofs.Code.Evaluation

/-!
Contract: the check of images accepts exactly the code that is written in
instructions.

Owns: that what decodes is what encoding writes, the grammar of images, and that
a code is written in one list of instructions only.

Does not own: what a run of accepted code may come to, see
`OrdinalDispatch.Proofs.Machine.VerifiedRuns`.

The grammar says nothing of sweeps or decoding. It speaks of encodings that
stand one behind the other, of their lengths, and of the pool.
-/

set_option autoImplicit false

namespace OrdinalDispatch.Code

/-! ## What decodes is what encoding writes -/

/-- As many bytes as there are from an offset on stand there. -/
theorem exists_bytesAt {code : Array UInt8} {offset width : Nat}
    (inside : offset + width ≤ code.size) :
    ∃ bytes, bytes.length = width ∧ BytesAt code offset bytes := by
  induction width generalizing offset with
  | zero => exact ⟨[], rfl, trivial⟩
  | succ width inductionHypothesis =>
      have later : offset + 1 + width ≤ code.size := by omega
      obtain ⟨rest, length, following⟩ := inductionHypothesis later
      have here : code[offset]? = some code[offset] := Array.getElem?_eq_getElem (by omega)
      exact ⟨code[offset] :: rest, congrArg (· + 1) length, here, following⟩

/-- The bytes that a number is read from are those that it is written in. -/
theorem bytesAt_readBytes {code : Array UInt8} {offset width : Nat}
    (inside : offset + width ≤ code.size) :
    BytesAt code offset (toBytes width (readBytes code offset width)) := by
  obtain ⟨bytes, rfl, stands⟩ := exists_bytesAt inside
  rw [stands.readBytes_eq, toBytes_ofBytes]
  exact stands

/-- A whole code is the bytes that stand in it from its first byte to its last. -/
theorem toList_eq_of_bytesAt {code : Array UInt8} {bytes : List UInt8}
    (stands : BytesAt code 0 bytes) (whole : bytes.length = code.size) : code.toList = bytes := by
  have each : ∀ (rest : List UInt8) (offset : Nat), BytesAt code offset rest →
      ∀ place < rest.length, code[offset + place]? = rest[place]? := by
    intro rest
    induction rest with
    | nil => intro offset _ place below; cases below
    | cons byte rest inductionHypothesis =>
        intro offset stands place below
        cases place with
        | zero => exact stands.1
        | succ place =>
            rw [List.getElem?_cons_succ, ← inductionHypothesis _ stands.2 place
              (Nat.lt_of_succ_lt_succ below), Nat.add_right_comm]
            rfl
  apply List.ext_getElem?
  intro place
  by_cases below : place < bytes.length
  · have same := each bytes 0 stands place below
    rwa [Nat.zero_add, ← Array.getElem?_toList] at same
  · rw [List.getElem?_eq_none (by rw [Array.length_toList]; omega),
      List.getElem?_eq_none (by omega)]

namespace Instruction

variable {code : Array UInt8} {offset : Nat} {instruction : Instruction UInt32}

theorem bytesAt_indexAt (inside : offset + 2 ≤ code.size) :
    BytesAt code offset (indexBytes (indexAt code offset)) := by
  have small := readBytes_lt code offset 2
  rw [indexBytes, indexAt, UInt16.toNat_ofNat_of_lt' small]
  exact bytesAt_readBytes inside

theorem bytesAt_wordAt (inside : offset + 4 ≤ code.size) :
    BytesAt code offset (wordBytes (wordAt code offset)) := by
  have small := readBytes_lt code offset 4
  rw [wordBytes, wordAt, UInt32.toNat_ofNat_of_lt' small]
  exact bytesAt_readBytes inside

theorem bytesAt_kindAt {kind : Primitive} (inside : offset + 1 ≤ code.size)
    (found : kindAt code offset = .ok kind) : BytesAt code offset [kind.code] := by
  have present : code[offset]? = some (code.getD offset 0) := by
    rw [Array.getD_eq_getD_getElem?, Array.getElem?_eq_getElem (by omega), Option.getD_some]
  unfold kindAt kindOf at found
  cases named : Primitive.ofCode? (code.getD offset 0) with
  | none =>
      simp only [named] at found
      cases found
  | some other =>
      simp only [named] at found
      obtain rfl := Except.ok.inj found
      have isCode : other.code = code.getD offset 0 := by simpa using List.find?_some named
      exact ⟨isCode ▸ present, trivial⟩

theorem bytesAt_wordsAt {count : Nat} (inside : offset + 4 * count ≤ code.size) :
    BytesAt code offset
      ((wordsAt code offset count).flatMap wordBytes) := by
  induction count generalizing offset with
  | zero => trivial
  | succ count inductionHypothesis =>
      rw [wordsAt_succ, List.flatMap_cons, BytesAt.append_iff, length_wordBytes]
      exact ⟨bytesAt_wordAt (by omega), inductionHypothesis (by omega)⟩

/-- The operands of a decoded instruction stand where they were read. -/
theorem bytesAt_of_ofOperands {opcode : Opcode}
    (decoded : ofOperands code offset opcode = .ok instruction)
    (inside : offset + instruction.operandBytes.length ≤ code.size) :
    BytesAt code offset instruction.operandBytes := by
  cases opcode with
  | checkArguments | throwIllegal | loadArgument | checkCast | construct | invoke kind
  | getField isStatic | putField isStatic =>
      obtain rfl := Except.ok.inj decoded
      rw [operandBytes, length_indexBytes] at inside
      exact bytesAt_indexAt inside
  | checkBounds =>
      obtain rfl := Except.ok.inj decoded
      rw [operandBytes, List.length_append, length_wordBytes, length_indexBytes] at inside
      rw [operandBytes, BytesAt.append_iff, length_wordBytes]
      exact ⟨bytesAt_wordAt (by omega), bytesAt_indexAt (by omega)⟩
  | checkArity =>
      obtain rfl := Except.ok.inj decoded
      rw [operandBytes, List.length_append, length_indexBytes, length_indexBytes] at inside
      rw [operandBytes, BytesAt.append_iff, length_indexBytes]
      exact ⟨bytesAt_indexAt (by omega), bytesAt_indexAt (by omega)⟩
  | tableSwitch =>
      obtain rfl := Except.ok.inj decoded
      have isCount : UInt32.ofNat (readBytes code offset 4) = wordAt code offset := rfl
      generalize readBytes code offset 4 = count at inside isCount ⊢
      simp only [operandBytes, List.length_append, length_wordBytes, length_flatMap_wordBytes,
        length_wordsAt] at inside
      simp only [operandBytes, BytesAt.append_iff, List.length_append, length_wordBytes,
        length_wordsAt, isCount]
      exact ⟨⟨bytesAt_wordAt (by omega), bytesAt_wordAt (by omega)⟩, bytesAt_wordsAt (by omega)⟩
  | unbox | box =>
      cases found : kindAt code offset with
      | error fault =>
          rw [ofOperands, found] at decoded
          cases decoded
      | ok kind =>
          rw [ofOperands, found] at decoded
          obtain rfl := Except.ok.inj decoded
          exact bytesAt_kindAt inside found
  | throwNoDefault | loadReceiver | loadValue | constNull | pop | returnTop | returnNull =>
      obtain rfl := Except.ok.inj decoded
      trivial

/-- The encoding of a decoded instruction stands where it was decoded. -/
theorem bytesAt_of_decode (decoded : decode code offset = .ok instruction) :
    BytesAt code offset instruction.encode := by
  have ends := end_le_of_decode decoded
  have operands : instruction.operandBytes.length + 1 = instruction.encode.length := rfl
  rw [length_encode] at operands
  obtain ⟨byte, opcode, present, known, -, read⟩ := exists_of_decode decoded
  have isByte := Opcode.byte_of_ofByte? known
  rw [← opcode_of_ofOperands read] at isByte
  exact ⟨isByte ▸ present, bytesAt_of_ofOperands read (by omega)⟩

/-- Four bytes count no more targets than this, the fallback among them. -/
theorem length_targets_of_decode (decoded : decode code offset = .ok instruction) :
    instruction.targets.length ≤ 2 ^ 32 := by
  obtain ⟨byte, opcode, -, -, -, read⟩ := exists_of_decode decoded
  have isOpcode := opcode_of_ofOperands read
  cases instruction with
  | tableSwitch fallback targets =>
      obtain rfl := isOpcode
      have counted := readBytes_lt code (offset + 1) 4
      obtain ⟨-, rfl⟩ := Instruction.tableSwitch.inj (Except.ok.inj read)
      rw [Instruction.targets, List.length_cons, length_wordsAt]
      exact counted
  | _ => exact Nat.zero_le _

end Instruction

/-- A sweep without a fault reads the whole code, one instruction behind the other. -/
theorem Splits.written {code : Array UInt8} {offset : Nat}
    {listed : List (Nat × Instruction UInt32)} (splits : Splits code offset listed none)
    (inside : offset ≤ code.size) :
    listed = placed offset (listed.map Prod.snd) ∧
      BytesAt code offset ((listed.map Prod.snd).flatMap Instruction.encode) ∧
      offset + ((listed.map Prod.snd).flatMap Instruction.encode).length = code.size := by
  generalize unfaulted : (none : Option (Nat × DecodeFault)) = ending at splits
  induction splits with
  | ends outside => exact ⟨rfl, trivial, Nat.le_antisymm inside outside⟩
  | faults _ => cases unfaulted
  | @decodes offset instruction rest fault decoded following inductionHypothesis =>
      obtain ⟨isPlaced, stands, whole⟩ :=
        inductionHypothesis (Instruction.end_le_of_decode decoded) unfaulted
      refine ⟨congrArg _ isPlaced, ?_, ?_⟩
      · rw [List.map_cons, List.flatMap_cons, BytesAt.append_iff, Instruction.length_encode]
        exact ⟨Instruction.bytesAt_of_decode decoded, stands⟩
      · rw [List.map_cons, List.flatMap_cons, List.length_append, Instruction.length_encode,
          ← Nat.add_assoc]
        exact whole

/-! ## Codes that split -/

/-- A code splits into instructions: it is their encodings, and a switch has no more targets than
four bytes can count. -/
structure SplitsInto (code : Array UInt8) (instructions : List (Instruction UInt32)) : Prop where
  encoded : code.toList = instructions.flatMap Instruction.encode
  counted : ∀ fallback targets, .tableSwitch fallback targets ∈ instructions →
    targets.length < 2 ^ 32

section SplitsInto

variable {code : Array UInt8} {instructions : List (Instruction UInt32)}

/-- The sweep of a code that splits into instructions finds them, and nothing else. -/
theorem SplitsInto.sweep_eq (splits : SplitsInto code instructions) :
    sweep code = ⟨(placed 0 instructions).toArray, none⟩ := by
  refine sweep_encode (fun instruction member => ?_) splits.encoded
  cases instruction with
  | tableSwitch fallback targets => exact splits.counted fallback targets member
  | _ => exact Nat.zero_le _

/-- A code that is swept to its end splits into what the sweep finds. -/
theorem splitsInto_of_decodes (decodes : (sweep code).fault = none) :
    SplitsInto code ((sweep code).instructions.toList.map Prod.snd) := by
  have splits : Splits code 0 (sweep code).instructions.toList none :=
    decodes ▸ sweep_splits code
  obtain ⟨-, stands, whole⟩ := splits.written (Nat.zero_le _)
  rw [Nat.zero_add] at whole
  constructor
  · exact toList_eq_of_bytesAt stands whole
  · intro fallback targets member
    obtain ⟨place, isRow, same⟩ := List.mem_map.mp member
    have few := Instruction.length_targets_of_decode (splits.decode_of_mem isRow)
    rw [same, Instruction.targets] at few
    exact few

end SplitsInto

/-! ## The grammar of images -/

/-- The pool has, at every index in an instruction, a constant of the kind that the instruction
needs. -/
def Instruction.Resolved (constants : Array Constant) : Instruction UInt32 → Prop
  | .checkArguments message | .checkBounds _ message | .throwIllegal message =>
      ∃ text, constants[message.toNat]? = some (.message text)
  | .checkArity table message =>
      (∃ arities, constants[table.toNat]? = some (.arityTable arities)) ∧
        ∃ text, constants[message.toNat]? = some (.message text)
  | .checkCast target => ∃ classId, constants[target.toNat]? = some (.classRef classId)
  | .construct constructor =>
      ∃ ordinal parameters, constants[constructor.toNat]? = some (.constructor ordinal parameters)
  | .invoke kind method =>
      ∃ ordinal name parameters returnType,
        constants[method.toNat]? = some (.method ordinal name parameters returnType kind)
  | .getField isStatic field | .putField isStatic field =>
      ∃ ordinal name valueType,
        constants[field.toNat]? = some (.field ordinal name valueType isStatic)
  | .tableSwitch _ _ | .throwNoDefault | .loadReceiver | .loadArgument _ | .loadValue | .constNull
  | .pop | .unbox _ | .box _ | .returnTop | .returnNull => True

/-- One of the instructions starts at an offset: the encodings before it take as many bytes. -/
def StartsAt (instructions : List (Instruction UInt32)) (offset : Nat) : Prop :=
  ∃ front instruction back, instructions = front ++ instruction :: back ∧
    offset = (front.flatMap Instruction.encode).length

/-- An image is written in a list of instructions: its code is their encodings, and a switch has no
more targets than four bytes can count; they find their constants in the pool; and every jump target
and every entry point is the start of one of them. -/
structure Image.WrittenIn (image : Image) (instructions : List (Instruction UInt32)) : Prop where
  code : image.code.toList = instructions.flatMap Instruction.encode
  counted : ∀ fallback targets, .tableSwitch fallback targets ∈ instructions →
    targets.length < 2 ^ 32
  resolved : ∀ instruction ∈ instructions, instruction.Resolved image.constants
  jumps : ∀ instruction ∈ instructions, ∀ target ∈ instruction.targets,
    StartsAt instructions target.toNat
  entries : ∀ entryPoint, StartsAt instructions (image.entry entryPoint)

/-! ## Acceptance -/

/-- What an entry of the pool must be to be admitted, kind by kind. -/
theorem ConstantKind.admitted_iff {kind : ConstantKind} {entry : Option Constant} :
    (∃ constant, entry = some constant ∧ kind.admits constant = true) ↔
      match kind with
      | .message => ∃ text, entry = some (.message text)
      | .arityTable => ∃ arities, entry = some (.arityTable arities)
      | .classRef => ∃ classId, entry = some (.classRef classId)
      | .constructor => ∃ ordinal parameters, entry = some (.constructor ordinal parameters)
      | .method kind => ∃ ordinal name parameters returnType,
          entry = some (.method ordinal name parameters returnType kind)
      | .field isStatic => ∃ ordinal name valueType,
          entry = some (.field ordinal name valueType isStatic) := by
  cases entry with
  | none => cases kind <;> simp
  | some constant =>
      simp only [Option.some.injEq, exists_eq_left']
      cases kind <;> cases constant <;> simp [admits]

theorem Instruction.resolved_iff {constants : Array Constant} {instruction : Instruction UInt32} :
    instruction.Resolved constants ↔
      ∀ operand ∈ instruction.poolOperands, ∃ constant,
        constants[operand.1.toNat]? = some constant ∧ operand.2.admits constant = true := by
  simp only [ConstantKind.admitted_iff]
  cases instruction <;>
    simp only [Resolved, poolOperands, List.forall_mem_cons, List.not_mem_nil, false_implies,
      implies_true, and_true]

theorem length_flatMap_encode (instructions : List (Instruction UInt32)) :
    (instructions.flatMap Instruction.encode).length =
      (instructions.map Instruction.size).sum := by
  rw [List.length_flatMap]
  exact congrArg List.sum (List.map_congr_left fun instruction _ => instruction.length_encode)

/-- The rows of instructions in a list are those that stand behind what is before them. -/
theorem mem_placed_iff {start : Nat} {instructions : List (Instruction UInt32)}
    {row : Nat × Instruction UInt32} :
    row ∈ placed start instructions ↔
      ∃ front back, instructions = front ++ row.2 :: back ∧
        row.1 = start + (front.map Instruction.size).sum := by
  constructor
  · intro member
    induction instructions generalizing start with
    | nil => cases member
    | cons first rest inductionHypothesis =>
        cases member with
        | head => exact ⟨[], rest, rfl, rfl⟩
        | tail _ later =>
            obtain ⟨front, back, rfl, behind⟩ := inductionHypothesis later
            refine ⟨first :: front, back, rfl, ?_⟩
            rw [behind, List.map_cons, List.sum_cons, Nat.add_assoc]
  · rintro ⟨front, back, rfl, behind⟩
    rw [placed_append, placed, ← behind]
    exact List.mem_append_right _ List.mem_cons_self

theorem startsAt_iff {instructions : List (Instruction UInt32)} {offset : Nat} :
    StartsAt instructions offset ↔
      ∃ instruction, (offset, instruction) ∈ placed 0 instructions := by
  simp only [StartsAt, length_flatMap_encode, mem_placed_iff, Nat.zero_add]
  constructor
  · rintro ⟨front, instruction, back, split⟩
    exact ⟨instruction, front, back, split⟩
  · rintro ⟨instruction, front, back, split⟩
    exact ⟨front, instruction, back, split⟩

namespace Image

variable {image : Image} {instructions : List (Instruction UInt32)}

/-- The sweep of code that instructions are written in finds them, and nothing else. -/
theorem WrittenIn.sweep_eq (written : image.WrittenIn instructions) :
    sweep image.code = ⟨(placed 0 instructions).toArray, none⟩ :=
  SplitsInto.sweep_eq ⟨written.code, written.counted⟩

theorem WrittenIn.verified (written : image.WrittenIn instructions) : image.Verified where
  decodes := by rw [written.sweep_eq]
  operands place member := by
    rw [written.sweep_eq] at member
    exact Instruction.resolved_iff.mp (written.resolved place.2 (mem_of_mem_placed member))
  entries entryPoint := by
    rw [IsStart, written.sweep_eq]
    exact startsAt_iff.mp (written.entries entryPoint)
  jumps place member target isTarget := by
    rw [written.sweep_eq] at member
    rw [IsStart, written.sweep_eq]
    exact startsAt_iff.mp (written.jumps place.2 (mem_of_mem_placed member) target isTarget)

/-- What is verified is written in the instructions that the sweep finds. -/
theorem Verified.writtenIn (verified : image.Verified) :
    image.WrittenIn ((sweep image.code).instructions.toList.map Prod.snd) := by
  obtain ⟨isPlaced, -, -⟩ := verified.splits.written (Nat.zero_le _)
  obtain ⟨encoded, counted⟩ := splitsInto_of_decodes verified.decodes
  have startsAt {offset : Nat} (isStart : image.IsStart offset) :
      StartsAt ((sweep image.code).instructions.toList.map Prod.snd) offset := by
    rw [startsAt_iff, ← isPlaced]
    exact isStart
  refine ⟨encoded, counted, ?_, ?_, ?_⟩
  · intro instruction member
    obtain ⟨place, isRow, rfl⟩ := List.mem_map.mp member
    exact Instruction.resolved_iff.mpr (verified.operands place isRow)
  · intro instruction member target isTarget
    obtain ⟨place, isRow, rfl⟩ := List.mem_map.mp member
    exact startsAt (verified.jumps place isRow target isTarget)
  · exact fun entryPoint => startsAt (verified.entries entryPoint)

/-- The check accepts exactly the images that are written in instructions, and there is one list of
instructions only that an image is written in. -/
theorem accepts_exactly_grammar (image : Image) :
    (image.fault? = none ↔ ∃ instructions, image.WrittenIn instructions) ∧
      ∀ instructions others, image.WrittenIn instructions → image.WrittenIn others →
        instructions = others := by
  refine ⟨fault?_eq_none_iff.trans ⟨fun verified => ⟨_, verified.writtenIn⟩, ?_⟩, ?_⟩
  · rintro ⟨instructions, written⟩
    exact written.verified
  · intro instructions others written writtenToo
    have rows := congrArg (fun found => found.instructions.toList.map Prod.snd)
      (written.sweep_eq.symm.trans writtenToo.sweep_eq)
    simpa only [map_snd_placed] using rows

theorem accepts_exactly_grammar_counter :
    counterImage.fault? = none ∧ ∃ instructions, counterImage.WrittenIn instructions ∧
      ∀ others, counterImage.WrittenIn others → others = instructions := by
  have accepted : counterImage.fault? = none := fault?_eq_none_iff.mpr counter_verified
  obtain ⟨accepts, unique⟩ := accepts_exactly_grammar counterImage
  obtain ⟨instructions, written⟩ := accepts.mp accepted
  exact ⟨accepted, instructions, written, fun others writtenToo =>
    unique others instructions writtenToo written⟩

end Image

end OrdinalDispatch.Code

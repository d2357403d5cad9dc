import OrdinalDispatch.Proofs.Code.Faults
import OrdinalDispatch.Proofs.Code.ListingReading

/-!
Contract: the listing of an image agrees with its check.

Owns: the line at which a listing stops and how it is told from all other lines,
the layout of a listing that does not stop, and the places of the entry points
in it.

Does not own: what the check finds, see `OrdinalDispatch.Proofs.Code.Faults`.

A line of code begins with two blanks and a numeral, and the text behind its
next blanks begins with a letter unless the listing stops there. No other line
begins in this way.
-/

set_option autoImplicit false

namespace OrdinalDispatch.Code

variable {image : Image} {instructions : List (Instruction UInt32)} {place : Nat}

/-! ## Operation bytes -/

/-- Skipping operands by their lengths leads from one instruction to the next. -/
theorem Splits.operationBytesFrom_eq {code : Array UInt8} {offset : Nat}
    {listed : List (Nat × Instruction UInt32)} (splits : Splits code offset listed none)
    (found : Array UInt8) :
    (operationBytesFrom code offset found).toList =
      found.toList ++ listed.map fun row => row.2.opcode.byte := by
  generalize unfaulted : (none : Option (Nat × DecodeFault)) = ending at splits
  induction splits generalizing found with
  | ends outside =>
      rw [operationBytesFrom, dif_neg (Nat.not_lt.mpr outside), List.map_nil, List.append_nil]
  | faults _ => cases unfaulted
  | @decodes offset instruction rest ending decoded following inductionHypothesis =>
      obtain ⟨byte, opcode, present, known, within, read⟩ := Instruction.exists_of_decode decoded
      have measured := Instruction.operandLength?_of_inside present known within
      have size := Instruction.size_of_ofOperands read
      obtain ⟨inside, isByte⟩ := Array.getElem?_eq_some_iff.mp present
      have operation : instruction.opcode.byte = byte := by
        rw [Instruction.opcode_of_ofOperands read]
        exact Opcode.byte_of_ofByte? known
      rw [operationBytesFrom, dif_pos inside, measured]
      simp only [isByte]
      rw [Nat.add_assoc, ← size, inductionHypothesis _ unfaulted, Array.toList_push,
        List.append_assoc, List.map_cons, List.singleton_append, operation]

theorem pairwise_placed (offset : Nat) (instructions : List (Instruction UInt32)) :
    ((placed offset instructions).map Prod.fst).Pairwise (· < ·) := by
  induction instructions generalizing offset with
  | nil => exact .nil
  | cons first rest inductionHypothesis =>
      rw [placed, List.map_cons]
      refine .cons (fun later isLater => ?_) (inductionHypothesis _)
      obtain ⟨row, member, rfl⟩ := List.mem_map.mp isLater
      obtain ⟨front, back, -, behind⟩ := mem_placed_iff.mp member
      have positive := first.size_pos
      omega

namespace Listing

/-! ## Characters of lines -/

theorem isAlphanum_of_mem_toDigits {value : Nat} {character : Char}
    (member : character ∈ Nat.toDigits 16 value) : character.isAlphanum = true := by
  have digit : ∀ value < 16, (Nat.digitChar value).isAlphanum = true := by decide
  induction value using Nat.strongRecOn with
  | ind value inductionHypothesis =>
      rw [Nat.toDigits_eq_if (by decide)] at member
      split at member
      · rename_i small
        obtain rfl := List.mem_singleton.mp member
        exact digit value small
      · rename_i large
        rcases List.mem_append.mp member with leading | last
        · exact inductionHypothesis (value / 16) (by omega) leading
        · obtain rfl := List.mem_singleton.mp last
          exact digit (value % 16) (Nat.mod_lt _ (by decide))

theorem isAlphanum_of_mem_offset {character : Char} (member : character ∈ (offset place).toList) :
    character.isAlphanum = true := by
  rw [offset, Text.hexadecimal, String.toList_ofList, List.mem_append] at member
  rcases member with padding | digit
  · obtain rfl := List.eq_of_mem_replicate padding
    decide
  · exact isAlphanum_of_mem_toDigits digit

theorem toList_lineAt (place : Nat) (text : String) :
    (lineAt place text).toList =
      ' ' :: ' ' :: ((offset place).toList ++ ' ' :: ' ' :: text.toList) := by
  have blanks : "  ".toList = [' ', ' '] := rfl
  simp only [lineAt, String.toList_append, blanks, List.append_assoc, List.cons_append,
    List.nil_append]

/-- Lines at offsets are the same only with the same text. -/
theorem text_eq_of_lineAt_eq {other : Nat} {text otherText : String}
    (same : lineAt place text = lineAt other otherText) : text = otherText := by
  have behind (place : Nat) (text : String) :
      ((offset place).toList ++ ' ' :: ' ' :: text.toList).dropWhile Char.isAlphanum =
        ' ' :: ' ' :: text.toList := by
    rw [List.dropWhile_append_of_pos fun _ => isAlphanum_of_mem_offset,
      List.dropWhile_cons_of_neg (by decide)]
  have characters := congrArg String.toList same
  rw [toList_lineAt, toList_lineAt] at characters
  have texts := congrArg (fun line => line.tail.tail.dropWhile Char.isAlphanum) characters
  simp only [List.tail_cons, behind, List.cons.injEq, true_and] at texts
  exact String.toList_inj.mp texts

theorem head?_lineAt (place : Nat) (text : String) :
    (lineAt place text).toList.head? = some ' ' := by
  rw [toList_lineAt, List.head?_cons]

/-- The text of an instruction begins with its mnemonic. -/
theorem instruction_eq_append (image : Image) (shown : Instruction UInt32) :
    ∃ rest, instruction image shown = shown.opcode.mnemonic ++ rest := by
  have padded (opcode : Opcode) (operands : String) :
      ∃ rest, withOperands opcode operands = opcode.mnemonic ++ rest :=
    ⟨_, by rw [withOperands, Text.padRight, String.append_assoc, String.append_assoc]⟩
  cases shown with
  | throwNoDefault | loadReceiver | loadValue | constNull | pop | returnTop | returnNull =>
      exact ⟨"", String.append_empty.symm⟩
  | _ => exact padded _ _

theorem mnemonic_begins (opcode : Opcode) :
    ∃ first rest, opcode.mnemonic.toList = first :: rest ∧ first.isAlpha = true := by
  cases opcode with
  | invoke kind => cases kind <;> exact ⟨_, _, rfl, by decide⟩
  | getField isStatic => cases isStatic <;> exact ⟨_, _, rfl, by decide⟩
  | putField isStatic => cases isStatic <;> exact ⟨_, _, rfl, by decide⟩
  | _ => exact ⟨_, _, rfl, by decide⟩

theorem instruction_ne_undecodable (image : Image) (shown : Instruction UInt32) :
    instruction image shown ≠ "<undecodable>" := by
  obtain ⟨rest, isAppend⟩ := instruction_eq_append image shown
  obtain ⟨first, letters, isMnemonic, isLetter⟩ := mnemonic_begins shown.opcode
  intro same
  have characters := congrArg (fun text => text.toList.head?) (isAppend.symm.trans same)
  rw [String.toList_append, isMnemonic] at characters
  obtain rfl := Option.some.inj (characters : some first = some '<')
  exact absurd isLetter (by decide)

/-! ## Lines of a listing -/

/-- The two lines above the code. -/
def headerLines (image : Image) : List String :=
  ["; " ++ image.typeName ++ " (" ++ image.target.text ++ ")",
    "; " ++ toString image.code.size ++ " bytes, " ++ toString image.constants.size
      ++ " constants, max_stack " ++ toString image.maxStack]

/-- The lines below the code. -/
def poolLines (image : Image) : List String :=
  ["", "constants:"] ++ image.constants.toList.mapIdx constantRow

/-- The lines of a listing whose code splits into instructions. -/
def layout (image : Image) (instructions : List (Instruction UInt32)) : List String :=
  headerLines image ++ (placed 0 instructions).flatMap (rowLines image) ++ poolLines image

/-- The lines of a listing follow the sweep of the code. -/
theorem lines_eq (image : Image) :
    lines image = headerLines image ++ sweptLines image (sweep image.code) ++ poolLines image := by
  rw [lines, toList_codeLinesFrom #[] #[] rfl, poolLines, ← List.append_assoc]
  rfl

theorem lines_eq_layout (splits : SplitsInto image.code instructions) :
    lines image = layout image instructions := by
  rw [lines_eq, splits.sweep_eq, sweptLines, Option.toList_none, List.flatMap_nil, List.append_nil,
    layout]

theorem stopLine_mem_of_stop {reason : DecodeFault}
    (stopped : (sweep image.code).fault = some (place, reason)) :
    stopLine place ∈ lines image := by
  rw [lines_eq, sweptLines, stopped, Option.toList_some, List.flatMap_singleton]
  refine List.mem_append_left _ (List.mem_append_right _ (List.mem_append_right _ ?_))
  exact List.mem_append_right _ (List.mem_singleton.mpr rfl)

theorem head?_of_mem_entryHeaders {line : String} (member : line ∈ entryHeaders image place) :
    line.toList.head? ≠ some ' ' := by
  obtain ⟨entryPoint, -, isHeader⟩ := List.mem_flatMap.mp member
  split at isHeader
  · rw [List.mem_cons, List.mem_singleton] at isHeader
    rcases isHeader with rfl | rfl
    · decide
    · cases entryPoint <;> decide
  · cases isHeader

theorem head?_of_mem_headerLines {line : String} (member : line ∈ headerLines image) :
    line.toList.head? = some ';' := by
  have mark : "; ".toList = [';', ' '] := rfl
  simp only [headerLines, List.mem_cons, List.not_mem_nil, or_false] at member
  rcases member with rfl | rfl <;>
    simp only [String.toList_append, mark, List.cons_append, List.head?_cons]

/-- The row of a constant begins like a line of code, but with a mark where that has a numeral. -/
theorem toList_constantRow (index : Nat) (constant : Constant) :
    (constantRow index constant).toList =
      ' ' :: ' ' :: '#' ::
        (Text.padRight 3 (toString index) ++ " " ++ constant.listing).toList := by
  have mark : "  #".toList = [' ', ' ', '#'] := rfl
  simp only [constantRow, String.toList_append, mark, List.cons_append, List.nil_append,
    List.append_assoc]

theorem constantRow_ne_lineAt (index : Nat) (constant : Constant) (text : String) :
    constantRow index constant ≠ lineAt place text := by
  intro same
  have third := congrArg (fun line => line.toList.tail.tail.head?) same
  simp only [toList_constantRow, toList_lineAt, List.tail_cons, List.head?_cons] at third
  have marked : '#' ∈ (offset place).toList ∨ '#' = ' ' := by
    cases digits : (offset place).toList with
    | nil =>
        rw [digits] at third
        exact .inr (Option.some.inj third)
    | cons first digits' =>
        rw [digits] at third
        obtain rfl := Option.some.inj (third : some '#' = some first)
        exact .inl List.mem_cons_self
  rcases marked with isDigit | isBlank
  · exact absurd (isAlphanum_of_mem_offset isDigit) (by decide)
  · exact absurd isBlank (by decide)

/-- A listing of code that splits into instructions does not stop. -/
theorem stopLine_notMem_layout : stopLine place ∉ layout image instructions := by
  have blank : (stopLine place).toList.head? = some ' ' := head?_lineAt place "<undecodable>"
  unfold layout poolLines
  simp only [List.mem_append, List.mem_flatMap, List.mem_mapIdx, rowLines, List.mem_singleton]
  rintro ((header | ⟨row, -, entry | own⟩) | pool | ⟨index, inside, isRow⟩)
  · rw [head?_of_mem_headerLines header] at blank
    exact absurd blank (by decide)
  · exact head?_of_mem_entryHeaders entry blank
  · exact instruction_ne_undecodable image row.2 (text_eq_of_lineAt_eq own).symm
  · rw [List.mem_cons, List.mem_singleton] at pool
    rcases pool with empty | title
    · rw [empty] at blank
      exact absurd blank (by decide)
    · rw [title] at blank
      exact absurd blank (by decide)
  · exact constantRow_ne_lineAt _ _ _ isRow

/-! ## Headers of entry points -/

theorem count_eq_zero_of_head? {lines : List String} {line : String} {first : Option Char}
    (all : ∀ other ∈ lines, other.toList.head? = first) (differs : line.toList.head? ≠ first) :
    lines.count line = 0 :=
  List.count_eq_zero.mpr fun member => differs (all line member)

theorem head?_entry (entryPoint : EntryPoint) :
    (entryPoint.name ++ ":").toList.head? ≠ some ' ' ∧
      (entryPoint.name ++ ":").toList.head? ≠ some ';' := by
  cases entryPoint <;> decide

theorem count_entryHeaders (image : Image) (place : Nat) (entryPoint : EntryPoint) :
    (entryHeaders image place).count (entryPoint.name ++ ":") =
      if image.entry entryPoint = place then 1 else 0 := by
  have one (other : EntryPoint) :
      ["", other.name ++ ":"].count (entryPoint.name ++ ":") =
        if other = entryPoint then 1 else 0 := by
    cases entryPoint <;> cases other <;> decide
  have each (other : EntryPoint) :
      (if image.entry other = place then ["", other.name ++ ":"] else []).count
          (entryPoint.name ++ ":") =
        if other = entryPoint then if image.entry entryPoint = place then 1 else 0 else 0 := by
    by_cases same : other = entryPoint
    · subst same
      rw [apply_ite (List.count _), one, if_pos rfl, if_pos rfl, List.count_nil]
    · rw [apply_ite (List.count _), one, if_neg same, if_neg same, List.count_nil, ite_self]
  rw [entryHeaders, List.count_flatMap]
  simp only [Function.comp_def, each]
  cases entryPoint <;>
    simp only [EntryPoint.all, List.map_cons, List.map_nil, List.sum_cons, List.sum_nil,
      reduceCtorEq, if_true, if_false, Nat.zero_add, Nat.add_zero]

theorem count_rowLines (image : Image) (row : Nat × Instruction UInt32)
    (entryPoint : EntryPoint) :
    (rowLines image row).count (entryPoint.name ++ ":") =
      if image.entry entryPoint = row.1 then 1 else 0 := by
  have own : [lineAt row.1 (instruction image row.2)].count (entryPoint.name ++ ":") = 0 := by
    refine count_eq_zero_of_head? (fun other member => ?_) (head?_entry entryPoint).1
    obtain rfl := List.mem_singleton.mp member
    exact head?_lineAt _ _
  rw [rowLines, List.count_append, own, Nat.add_zero, count_entryHeaders]

theorem sum_map_ite (rows : List (Nat × Instruction UInt32)) (offset : Nat) :
    (rows.map fun row => if offset = row.1 then 1 else 0).sum =
      (rows.map Prod.fst).count offset := by
  induction rows with
  | nil => rfl
  | cons row rest inductionHypothesis =>
      rw [List.map_cons, List.sum_cons, inductionHypothesis, List.map_cons, List.count_cons,
        Nat.add_comm]
      by_cases here : offset = row.1
      · simp [here]
      · simp [here, Ne.symm here]

/-- An entry point that is the start of an instruction has one header. -/
theorem count_layout {entryPoint : EntryPoint}
    (isStart : image.entry entryPoint ∈ (placed 0 instructions).map Prod.fst) :
    (layout image instructions).count (entryPoint.name ++ ":") = 1 := by
  obtain ⟨noBlank, noSemicolon⟩ := head?_entry entryPoint
  have distinct : ((placed 0 instructions).map Prod.fst).Nodup :=
    (pairwise_placed 0 instructions).imp Nat.ne_of_lt
  have header : (headerLines image).count (entryPoint.name ++ ":") = 0 :=
    count_eq_zero_of_head? (fun _ => head?_of_mem_headerLines) noSemicolon
  have title : ["", "constants:"].count (entryPoint.name ++ ":") = 0 := by
    cases entryPoint <;> decide
  have rows : (image.constants.toList.mapIdx constantRow).count (entryPoint.name ++ ":") = 0 := by
    refine count_eq_zero_of_head? (fun other member => ?_) noBlank
    obtain ⟨index, inside, rfl⟩ := List.mem_mapIdx.mp member
    rw [toList_constantRow, List.head?_cons]
  have code : ((placed 0 instructions).flatMap (rowLines image)).count (entryPoint.name ++ ":") =
      1 := by
    rw [List.count_flatMap]
    simp only [Function.comp_def, count_rowLines]
    rw [sum_map_ite, List.count_eq_one_of_mem distinct isStart]
  rw [layout, poolLines, List.count_append, List.count_append, List.count_append, header, code,
    title, rows]

/-! ## Constants -/

theorem head?_append {front : String} {first : Char}
    (begins : front.toList.head? = some first) (back : String) :
    (front ++ back).toList.head? = some first := by
  rw [String.toList_append, List.head?_append, begins, Option.some_or]

/-- The text of a constant begins with a quotation mark or with the word for its kind. -/
theorem listing_begins (constant : Constant) :
    ∃ first, constant.listing.toList.head? = some first ∧ first ≠ '<' := by
  cases constant with
  | message text =>
      refine ⟨'"', ?_, by decide⟩
      show (Text.Quoted.enclose '"' text.toList).toList.head? = some '"'
      rw [Text.Quoted.enclose, String.toList_ofList]
      rfl
  | arityTable arities => exact ⟨'a', head?_append (head?_append rfl _) _, by decide⟩
  | classRef target => exact ⟨'c', head?_append rfl _, by decide⟩
  | constructor ordinal parameters =>
      refine ⟨'c', ?_, by decide⟩
      iterate 4 apply head?_append
      rfl
  | method ordinal name parameters returnType kind =>
      refine ⟨'m', ?_, by decide⟩
      iterate 10 apply head?_append
      rfl
  | field ordinal name valueType isStatic =>
      refine ⟨'f', ?_, by decide⟩
      iterate 6 apply head?_append
      rfl

theorem listing_ne_missing (constant : Constant) : constant.listing ≠ "<missing>" := by
  intro same
  obtain ⟨first, begins, notMark⟩ := listing_begins constant
  rw [same] at begins
  exact notMark (Option.some.inj begins).symm

theorem reference_of_constant {place : UInt16} {constant : Constant}
    (present : image.constant? place = some constant) :
    reference image place = index place ++ " " ++ constant.listing := by
  rw [reference, present]

/-! ## Agreement -/

/-- The listing of an image is the layout of instructions that its code splits into. They stand at
the boundaries that the check collects, in increasing order, and their operations are those that are
listed on their own. Each entry point has one header, and operands show the constants they name. -/
structure Lists (image : Image) (instructions : List (Instruction UInt32)) : Prop where
  splits : SplitsInto image.code instructions
  text : image.listing = Text.unlines
    (headerLines image ++ (placed 0 instructions).flatMap (rowLines image) ++ poolLines image)
  increasing : ((placed 0 instructions).map Prod.fst).Pairwise (· < ·)
  boundaries : ∀ offset, image.IsStart offset ↔ offset ∈ (placed 0 instructions).map Prod.fst
  operations : image.operationBytes.toList = instructions.map fun shown => shown.opcode.byte
  entries : ∀ entryPoint : EntryPoint, (lines image).count (entryPoint.name ++ ":") = 1
  operands : ∀ row ∈ placed 0 instructions, ∀ operand ∈ row.2.poolOperands,
    ∃ constant, image.constant? operand.1 = some constant ∧ operand.2.admits constant = true ∧
      reference image operand.1 = index operand.1 ++ " " ++ constant.listing ∧
      constant.listing ≠ "<missing>"

theorem isStart_iff (splits : SplitsInto image.code instructions) {offset : Nat} :
    image.IsStart offset ↔ offset ∈ (placed 0 instructions).map Prod.fst := by
  rw [Image.IsStart, splits.sweep_eq]
  simp

theorem lists_of_verified (verified : image.Verified)
    (splits : SplitsInto image.code instructions) : Lists image instructions where
  splits := splits
  text := by rw [Image.listing, lines_eq_layout splits, layout]
  increasing := pairwise_placed 0 instructions
  boundaries _ := isStart_iff splits
  operations := by
    have bytes := verified.splits.operationBytesFrom_eq #[]
    rw [splits.sweep_eq] at bytes
    calc image.operationBytes.toList
        = (placed 0 instructions).map fun row => row.2.opcode.byte := bytes
      _ = ((placed 0 instructions).map Prod.snd).map fun shown => shown.opcode.byte :=
          by rw [List.map_map, Function.comp_def]
      _ = instructions.map fun shown => shown.opcode.byte := by rw [map_snd_placed]
  entries entryPoint := by
    rw [lines_eq_layout splits]
    exact count_layout ((isStart_iff splits).mp (verified.entries entryPoint))
  operands row member operand isOperand := by
    have found : row ∈ (sweep image.code).instructions.toList := by
      rw [splits.sweep_eq]
      exact member
    obtain ⟨constant, present, admitted⟩ := verified.operands row found operand isOperand
    exact ⟨constant, present, admitted, reference_of_constant present, listing_ne_missing constant⟩

theorem splits_iff_decodes :
    (∃ instructions, SplitsInto image.code instructions) ↔ (sweep image.code).fault = none := by
  constructor
  · rintro ⟨instructions, splits⟩
    rw [splits.sweep_eq]
  · exact fun decodes => ⟨_, splitsInto_of_decodes decodes⟩

theorem complete_iff_splits :
    (∀ place, stopLine place ∉ lines image) ↔
      ∃ instructions, SplitsInto image.code instructions := by
  constructor
  · intro complete
    rw [splits_iff_decodes]
    cases stopped : (sweep image.code).fault with
    | none => rfl
    | some stop => exact absurd (stopLine_mem_of_stop stopped) (complete stop.1)
  · rintro ⟨instructions, splits⟩ place
    rw [lines_eq_layout splits]
    exact stopLine_notMem_layout

/-- The listing of an image agrees with its check.

It does not stop exactly if the code splits into instructions, and exactly if everything that is
wrong with the image is about a constant operand, an entry point or a jump target; the check reports
the first of what is wrong. Where the listing stops, that is this place, or a constant operand of an
instruction before it. The listing of an image that passes the check shows all its instructions with
the entry points above them, and its pool. -/
theorem listing_agrees_with_check (image : Image) :
    ((∀ place, stopLine place ∉ lines image) ↔
      ∃ instructions, SplitsInto image.code instructions) ∧
    (∀ instructions, SplitsInto image.code instructions →
      lines image = layout image instructions) ∧
    ((∃ instructions, SplitsInto image.code instructions) ↔
      ∀ fault ∈ image.faults, fault.IsUnresolved) ∧
    image.fault? = image.faults.head? ∧
    (∀ place reason, .undecodable reason place ∈ image.faults →
      stopLine place ∈ lines image ∧
        (image.fault? = some (.undecodable reason place) ∨
          ∃ row ∈ (sweep image.code).instructions.toList, row.1 < place ∧
            ∃ fault ∈ image.instructionFaults row, image.fault? = some fault)) ∧
    (image.fault? = none → ∃ instructions, Lists image instructions) := by
  refine ⟨complete_iff_splits, fun _ => lines_eq_layout,
    splits_iff_decodes.trans Image.decodes_iff_unresolved, Image.fault?_eq_head?_faults image,
    ?_, ?_⟩
  · intro place reason member
    obtain unresolved | ⟨_, _, stopped, same⟩ := Image.mem_faults member
    · exact unresolved.elim
    · cases same
      exact ⟨stopLine_mem_of_stop stopped, Image.fault?_of_stop stopped⟩
  · intro passes
    have verified : image.Verified := Image.fault?_eq_none_iff.mp passes
    exact (splits_iff_decodes.mpr verified.decodes).imp fun _ => lists_of_verified verified

theorem listing_agrees_with_check_counter :
    counterImage.fault? = none ∧ (∀ place, stopLine place ∉ lines counterImage) ∧
      (lines counterImage).count "invoke:" = 1 := by
  obtain ⟨complete, -, -, -, -, lists⟩ := listing_agrees_with_check counterImage
  have passes : counterImage.fault? = none := Image.fault?_eq_none_iff.mpr counter_verified
  obtain ⟨instructions, isListed⟩ := lists passes
  exact ⟨passes, complete.mpr ⟨instructions, isListed.splits⟩, isListed.entries .invoke⟩

end Listing

end OrdinalDispatch.Code

import OrdinalDispatch.Code.Listing
import OrdinalDispatch.CommandLine.Summary
import OrdinalDispatch.Proofs.Code.Sections

/-!
Contract: the summary of a description and the listing of its dispatcher tell of
the same members.

Owns: where a summary has its counts and its members, and the agreement of each
with the section, the branch and the constant that the code has for it.

Does not own: the layout of a listing, see
`OrdinalDispatch.Proofs.Code.ListingLayout`.

A summary is made from the description alone, and a listing from the code alone.
-/

set_option autoImplicit false

namespace OrdinalDispatch.CommandLine

open Code Code.Dispatcher

/-! ## Lines of a summary -/

namespace Summary

variable (description : TypeDescription) (settings : Settings)

/-- The place of the line that counts the constructors. -/
def constructorsPlace : Nat := 1

/-- The place of the line that counts the methods. -/
def methodsPlace : Nat := constructorsPlace + description.constructors.length + 1

/-- The place of the line that counts the fields. -/
def fieldsPlace : Nat := methodsPlace description + description.methods.length + 1

/-- Lines in which a heading stands at a place, with rows behind it. -/
def HasBlock (lines : List String) (place : Nat) (heading : String) (rows : List String) : Prop :=
  ∃ front back, lines = front ++ heading :: (rows ++ back) ∧ front.length = place

namespace HasBlock

variable {lines rows : List String} {place : Nat} {heading : String}
  (has : HasBlock lines place heading rows)
include has

theorem getElem?_heading : lines[place]? = some heading := by
  obtain ⟨front, back, rfl, rfl⟩ := has
  rw [List.getElem?_append_right (Nat.le_refl _), Nat.sub_self]
  rfl

theorem getElem?_row {position : Nat} {row : String} (found : rows[position]? = some row) :
    lines[place + 1 + position]? = some row := by
  obtain ⟨front, back, rfl, rfl⟩ := has
  have below := (List.getElem?_eq_some_iff.mp found).1
  rw [List.getElem?_append_right (by omega), Nat.add_assoc, Nat.add_sub_cancel_left, Nat.add_comm,
    List.getElem?_cons_succ, List.getElem?_append_left below, found]

end HasBlock

/-- A summary is a title, the three lists of members behind their counts, and a verdict. -/
theorem lines_eq :
    ∃ title verdict, lines description settings =
      title :: ("Constructors: " ++ toString description.constructors.length) ::
        (description.constructors.mapIdx constructorRow ++
          ("Methods:      " ++ toString description.methods.length) ::
            (description.methods.mapIdx methodRow ++
              ("Fields:       " ++ toString description.fields.length) ::
                (description.fields.mapIdx fieldRow ++ [verdict]))) := by
  simp only [lines, List.append_assoc, List.cons_append, List.nil_append]
  exact ⟨_, _, rfl⟩

theorem lines_constructors :
    HasBlock (lines description settings) constructorsPlace
      ("Constructors: " ++ toString description.constructors.length)
      (description.constructors.mapIdx constructorRow) := by
  obtain ⟨title, verdict, split⟩ := lines_eq description settings
  exact ⟨[title], _, split, rfl⟩

theorem lines_methods :
    HasBlock (lines description settings) (methodsPlace description)
      ("Methods:      " ++ toString description.methods.length)
      (description.methods.mapIdx methodRow) := by
  obtain ⟨title, verdict, split⟩ := lines_eq description settings
  refine ⟨title :: ("Constructors: " ++ toString description.constructors.length) ::
    description.constructors.mapIdx constructorRow, _, split, ?_⟩
  rw [List.length_cons, List.length_cons, List.length_mapIdx, methodsPlace, constructorsPlace]
  omega

theorem lines_fields :
    HasBlock (lines description settings) (fieldsPlace description)
      ("Fields:       " ++ toString description.fields.length)
      (description.fields.mapIdx fieldRow) := by
  obtain ⟨⟨front, back, split, length⟩, title, verdict, whole⟩ :=
    And.intro (lines_methods description settings) (lines_eq description settings)
  refine ⟨title :: ("Constructors: " ++ toString description.constructors.length) ::
    (description.constructors.mapIdx constructorRow ++
      ("Methods:      " ++ toString description.methods.length) ::
        description.methods.mapIdx methodRow), [verdict], ?_, ?_⟩
  · rw [whole]
    simp only [List.append_assoc, List.cons_append]
  · simp only [List.length_cons, List.length_append, List.length_mapIdx, fieldsPlace, methodsPlace,
      constructorsPlace]
    omega

end Summary

/-! ## What a summary and a listing have in common -/

section Agreement

variable (description : TypeDescription) (settings : Settings) (image : Image)

/-- The only check of the selector in a section is against the count in a line of the summary. -/
def CountAgrees (entryPoint : EntryPoint) (place : Nat) (heading : String) : Prop :=
  ∃ count message,
    Only (image.sectionRows entryPoint) (· = .checkBounds) (.checkBounds count message) ∧
    (Summary.lines description settings)[place]? = some (heading ++ toString count.toNat)

/-- All that the branch of a method reaches is a method, by a call. The signature in the constant of
the call is in the row of the summary. The mnemonic of the call is both there and in the row that
the listing has for the constant. -/
def MethodAgrees (ordinal : Nat) : Prop :=
  ∃ branch kind operand number name parameters, ∃ returnType : ValueType, ∃ named,
    image.IsBranch (image.sectionRows .invoke) ordinal .returnTop branch ∧
    Only branch Opcode.isAccess (.invoke kind operand) ∧
    image.constant? operand = some (.method number name parameters returnType named) ∧
    number.toNat = ordinal ∧
    (Summary.lines description settings)[Summary.methodsPlace description + 1 + ordinal]? =
      some (Summary.row ordinal (name ++ "(" ++ ValueType.listText parameters ++ ") -> "
        ++ returnType.text ++ "  " ++ (Opcode.invoke kind).mnemonic)) ∧
    Listing.constantRow operand.toNat (.method number name parameters returnType named) ∈
      Listing.lines image ∧
    (Constant.method number name parameters returnType named).listing =
      "method[" ++ toString ordinal ++ "] " ++ name ++ "(" ++ ValueType.listText parameters
        ++ ") -> " ++ returnType.text ++ " [" ++ (Opcode.invoke kind).mnemonic ++ "]"

/-- All that the two branches of a field reach is the field, in both of them by the operations for
static fields just if the row of the summary has that word. -/
def FieldAgrees (ordinal : Nat) : Prop :=
  ∃ reads writes isStaticRead isStaticWrite readOperand writeOperand number name,
    ∃ valueType : ValueType, ∃ isStatic word,
    image.IsBranch (image.sectionRows .getField) ordinal .returnTop reads ∧
    Only reads Opcode.isAccess (.getField isStaticRead readOperand) ∧
    image.constant? readOperand = some (.field number name valueType isStatic) ∧
    image.IsBranch (image.sectionRows .setField) ordinal .returnNull writes ∧
    Only writes Opcode.isAccess (.putField isStaticWrite writeOperand) ∧
    image.constant? writeOperand = some (.field number name valueType isStatic) ∧
    number.toNat = ordinal ∧
    (Summary.lines description settings)[Summary.fieldsPlace description + 1 + ordinal]? =
      some (Summary.row ordinal (name ++ ": " ++ valueType.text ++ "  " ++ word)) ∧
    (isStaticRead = true ↔ word = "static") ∧ (isStaticWrite = true ↔ word = "static")

/-- The summary of a description agrees with the code of an image, and with its listing. -/
structure SummaryAgrees : Prop where
  constructors : CountAgrees description settings image .newInstance Summary.constructorsPlace
    "Constructors: "
  methods : CountAgrees description settings image .invoke (Summary.methodsPlace description)
    "Methods:      "
  reads : CountAgrees description settings image .getField (Summary.fieldsPlace description)
    "Fields:       "
  writes : CountAgrees description settings image .setField (Summary.fieldsPlace description)
    "Fields:       "
  eachMethod : ∀ ordinal < description.methods.length,
    MethodAgrees description settings image ordinal
  eachField : ∀ ordinal < description.fields.length,
    FieldAgrees description settings image ordinal

end Agreement

/-- A constant that is looked up has its row in the listing. -/
theorem constantRow_mem_lines {image : Image} {index : UInt16} {constant : Constant}
    (found : image.constant? index = some constant) :
    Listing.constantRow index.toNat constant ∈ Listing.lines image := by
  unfold Listing.lines
  refine List.mem_append_right _ (List.mem_mapIdx.mpr ?_)
  rw [Image.constant?, ← Array.getElem?_toList] at found
  obtain ⟨below, isConstant⟩ := List.getElem?_eq_some_iff.mp found
  exact ⟨_, below, by rw [isConstant]⟩

/-- The words for a kind of call and for the operation that makes it stand in two tables. -/
theorem mnemonic_invoke (kind : CallKind) : (Opcode.invoke kind).mnemonic = kind.mnemonic := by
  cases kind <;> rfl

/-- The text of a method has the mnemonic of the operation that calls it. -/
theorem listing_method (number : UInt32) (name : String) (parameters : List ValueType)
    (returnType : ValueType) (kind : CallKind) :
    (Constant.method number name parameters returnType kind).listing =
      "method[" ++ toString number.toNat ++ "] " ++ name ++ "(" ++ ValueType.listText parameters
        ++ ") -> " ++ returnType.text ++ " [" ++ (Opcode.invoke kind).mnemonic ++ "]" := by
  rw [mnemonic_invoke]
  rfl

section Built

variable {description : TypeDescription} {image : Image} (built : Built description image)
  (settings : Settings)
include built

theorem methodAgrees {ordinal : Nat} (below : ordinal < description.methods.length) :
    MethodAgrees description settings image ordinal := by
  have found := List.getElem?_eq_getElem below
  obtain ⟨branch, operand, isBranch, only, names⟩ := built.isBranch_method found
  have number := UInt32.toNat_ofNat_of_lt' (Nat.lt_trans below built.length_methods_lt)
  have row := (Summary.lines_methods description settings).getElem?_row
    (List.getElem?_mapIdx.trans (congrArg (Option.map _) found))
  rw [Summary.methodRow, ← mnemonic_invoke] at row
  refine ⟨branch, _, operand, _, _, _, _, _, isBranch, only, names, number, row,
    constantRow_mem_lines names, ?_⟩
  rw [listing_method, number]

theorem fieldAgrees {ordinal : Nat} (below : ordinal < description.fields.length) :
    FieldAgrees description settings image ordinal := by
  have found := List.getElem?_eq_getElem below
  obtain ⟨reads, readOperand, isRead, onlyRead, readNames⟩ := built.isBranch_read found
  obtain ⟨writes, writeOperand, isWrite, onlyWrite, writeNames⟩ := built.isBranch_write found
  have number := UInt32.toNat_ofNat_of_lt' (Nat.lt_trans below built.length_fields_lt)
  have row := (Summary.lines_fields description settings).getElem?_row
    (List.getElem?_mapIdx.trans (congrArg (Option.map _) found))
  have word : description.fields[ordinal].modifiers.isStatic = true ↔
      (if description.fields[ordinal].modifiers.isStatic then "static" else "instance") =
        "static" := by
    cases description.fields[ordinal].modifiers.isStatic <;> decide
  exact ⟨reads, writes, _, _, readOperand, writeOperand, _, _, _, _, _, isRead, onlyRead, readNames,
    isWrite, onlyWrite, writeNames, number, row, word, word⟩

theorem countAgrees {entryPoint : EntryPoint} (selects : entryPoint ≠ .newDefault)
    {count place : Nat} {heading : String} {rows : List String}
    (counted : (branchOpcodes description entryPoint).length = count) (few : count < 2 ^ 32)
    (has : Summary.HasBlock (Summary.lines description settings) place
      (heading ++ toString count) rows) :
    CountAgrees description settings image entryPoint place heading := by
  obtain ⟨message, only⟩ := built.only_checkBounds selects
  refine ⟨_, message, only, ?_⟩
  rw [has.getElem?_heading, counted, UInt32.toNat_ofNat_of_lt' few]

end Built

/-- The summary of a description and the listing of its image tell of the same members: the counts
are those that the sections check their selectors against, and in the branch of each ordinal the
member is reached that the summary has there, in the way that it says. -/
theorem summary_agrees_with_listing {description : TypeDescription} {image : Image}
    (settings : Settings) (built : Image.ofDescription description = .ok image)
    (short : image.code.size < 2 ^ 32) : SummaryAgrees description settings image := by
  obtain ⟨built⟩ := ofDescription_ok built short
  exact {
    constructors := countAgrees built settings (by decide) (List.length_map _)
      built.length_constructors_lt (Summary.lines_constructors description settings)
    methods := countAgrees built settings (by decide) (List.length_map _)
      built.length_methods_lt (Summary.lines_methods description settings)
    reads := countAgrees built settings (by decide) (List.length_map _)
      built.length_fields_lt (Summary.lines_fields description settings)
    writes := countAgrees built settings (by decide) (List.length_map _)
      built.length_fields_lt (Summary.lines_fields description settings)
    eachMethod := fun _ => methodAgrees built settings
    eachField := fun _ => fieldAgrees built settings }

theorem summary_agrees_with_listing_counter :
    Image.ofDescription counter = .ok counterImage ∧ counterImage.code.size < 2 ^ 32 ∧
      SummaryAgrees counter {} counterImage :=
  ⟨counter_built, counter_short, summary_agrees_with_listing {} counter_built counter_short⟩

end OrdinalDispatch.CommandLine

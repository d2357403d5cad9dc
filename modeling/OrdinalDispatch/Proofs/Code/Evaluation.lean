import Mathlib.Data.List.Nodup
import Mathlib.Data.List.Induction
import OrdinalDispatch.Proofs.Code.Emission
import OrdinalDispatch.Proofs.Code.Sweeping

/-!
Contract: assembly over a pool whose constants are known.

Owns: the pool of a list of constants, that interning there depends on the list
alone, and the image of a counter, which is evaluated with it.

Does not own: which constants a description needs.
-/

set_option autoImplicit false

namespace OrdinalDispatch.Code

namespace ConstantPool

/-- The pool that constants were interned to one by one. -/
def ofList (constants : List Constant) : ConstantPool :=
  constants.foldl (fun pool constant => (pool.intern constant).2) {}

theorem ofList_append (constants : List Constant) (constant : Constant) :
    ofList (constants ++ [constant]) = ((ofList constants).intern constant).2 := by
  rw [ofList, List.foldl_append, List.foldl_cons, List.foldl_nil, ofList]

theorem sound_ofList (constants : List Constant) : (ofList constants).Sound := by
  unfold ofList
  induction constants using List.reverseRecOn with
  | nil => exact sound_empty
  | append_singleton front last inductionHypothesis =>
      rw [List.foldl_append, List.foldl_cons, List.foldl_nil]
      exact inductionHypothesis.intern last

variable {constants : List Constant} {constant : Constant}

/-- Different constants come to stand in the order in which they are interned. -/
theorem entries_ofList (distinct : constants.Nodup) (few : constants.length ≤ capacity) :
    (ofList constants).entries.toList = constants := by
  induction constants using List.reverseRecOn with
  | nil => rfl
  | append_singleton front last inductionHypothesis =>
      rw [List.length_append, List.length_singleton] at few
      have isFront := inductionHypothesis (List.Nodup.of_append_left distinct) (by omega)
      have size : (ofList front).entries.size = front.length := by
        rw [← Array.length_toList, isFront]
      have absent : last ∉ front := by
        intro member
        exact List.disjoint_of_nodup_append distinct member (List.mem_singleton_self last)
      rw [ofList_append]
      rcases intern_cases (sound_ofList front) last with
        ⟨place, present, -, -⟩ | ⟨-, -, added⟩ | ⟨-, full, -⟩
      · rw [← Array.getElem?_toList, isFront] at present
        exact absurd (List.mem_of_getElem? present) absent
      · rw [added, Array.toList_push, isFront]
      · omega

/-- A constant that is there already keeps its place. -/
theorem intern_of_stands {place : Nat} (distinct : constants.Nodup)
    (few : constants.length ≤ capacity) (stands : constants[place]? = some constant) :
    (ofList constants).intern constant = (some (UInt16.ofNat place), ofList constants) := by
  have present : (ofList constants).entries[place]? = some constant := by
    rw [← Array.getElem?_toList, entries_ofList distinct few, stands]
  exact (intern_of_present (sound_ofList constants) present).2

/-- A constant that is not there gets the next place. -/
theorem intern_of_not_mem (distinct : constants.Nodup) (room : constants.length < capacity)
    (absent : constant ∉ constants) :
    (ofList constants).intern constant =
      (some (UInt16.ofNat constants.length), ofList (constants ++ [constant])) := by
  have isList := entries_ofList distinct (Nat.le_of_lt room)
  have size : (ofList constants).entries.size = constants.length := by
    rw [← Array.length_toList, isList]
  refine Prod.ext ?_ (ofList_append constants constant).symm
  rcases intern_cases (sound_ofList constants) constant with
    ⟨place, present, -, -⟩ | ⟨-, -, added⟩ | ⟨-, full, -⟩
  · rw [← Array.getElem?_toList, isList] at present
    exact absurd (List.mem_of_getElem? present) absent
  · rw [added, size]
  · omega

end ConstantPool

namespace Assembler

section Evaluation

variable (assembler : Assembler)

/-- The same code over another pool. -/
def withPool (pool : ConstantPool) : Assembler :=
  { assembler with pool }

/-- The same code with so many labels defined. -/
def withLabels (labelCount : Nat) : Assembler :=
  { assembler with labelCount }

theorem pool_withPool (pool : ConstantPool) : (assembler.withPool pool).pool = pool := rfl

theorem labelCount_withPool (pool : ConstantPool) :
    (assembler.withPool pool).labelCount = assembler.labelCount := rfl

theorem pool_withLabels (labelCount : Nat) :
    (assembler.withLabels labelCount).pool = assembler.pool := rfl

theorem labelCount_withLabels (labelCount : Nat) :
    (assembler.withLabels labelCount).labelCount = labelCount := rfl

theorem withLabels_withLabels (labelCount later : Nat) :
    (assembler.withLabels labelCount).withLabels later = assembler.withLabels later := rfl

/-- Where the pool has an index for a constant, interning changes the pool only. -/
theorem intern_of_isSome {constant : Constant}
    (indexed : (assembler.pool.intern constant).1.isSome) :
    assembler.intern constant =
      ((assembler.pool.intern constant).1.getD 0,
        assembler.withPool (assembler.pool.intern constant).2) := by
  have faultless : (assembler.pool.intern constant).1.isNone = false := by
    rw [Option.isNone_eq_false_iff, indexed]
  simp only [intern_eq, faultless, Bool.false_eq_true, if_false]
  rfl

theorem defineLabel_eq :
    assembler.defineLabel =
      (⟨assembler.labelCount⟩, assembler.withLabels (assembler.labelCount + 1)) := rfl

theorem defineLabels_one :
    defineLabels 1 assembler =
      ([⟨assembler.labelCount⟩], assembler.withLabels (assembler.labelCount + 1)) := rfl

open Dispatcher in
/-- The code of a section with one member only. -/
theorem selectorSection_singleton {Member : Type} (member : Member) (text : String)
    (arities : Option (List UInt16)) (branch : Nat → Member → Emission) :
    selectorSection [member] text arities branch assembler =
      let (wrongSelector, opened) := assembler.message text
      let checked := selectorChecks 1 wrongSelector arities opened
      let fallback : Label := ⟨checked.labelCount⟩
      let target : Label := ⟨checked.labelCount + 1⟩
      let labelled := checked.withLabels (checked.labelCount + 1 + 1)
      let switched := labelled.emit (.tableSwitch fallback [target])
      (branch 0 member (switched.mark target)).map fun branched =>
        (branched.mark fallback).emit (.throwIllegal wrongSelector) := by
  simp only [selectorSection, List.length_singleton, List.isEmpty_cons, Bool.false_eq_true,
    if_false, defineLabel_eq, defineLabels_one, List.zip_cons_cons, List.zip_nil_left, branches,
    labelCount_withLabels, withLabels_withLabels, bind, Except.bind]
  generalize branch 0 member _ = branched
  cases branched <;> rfl

end Evaluation

end Assembler

/-! ## The dispatcher of a counter -/

/-- A type with a constructor, a method and a field. -/
def counter : TypeDescription where
  classId := ⟨5⟩
  name := "Counter"
  constructors := [⟨[], {}⟩]
  methods := [⟨"add", [.primitive .int], .primitive .int, ⟨5⟩, false, {}⟩]
  fields := [⟨"total", .primitive .int, ⟨5⟩, {}⟩]

/-- The instructions of a counter's dispatcher, a line for each entry point, branch and
fallback. -/
def counterInstructions : List (Instruction Label) :=
  [.construct 0, .returnTop,
    .checkArguments 2, .checkBounds 1 1, .checkArity 3 4, .tableSwitch ⟨0⟩ [⟨1⟩],
    .construct 0, .returnTop,
    .throwIllegal 1,
    .checkArguments 2, .checkBounds 1 5, .checkArity 6 4, .tableSwitch ⟨2⟩ [⟨3⟩],
    .loadReceiver, .checkCast 7, .loadArgument 0, .unbox .int, .invoke .virtual 8, .box .int,
      .returnTop,
    .throwIllegal 5,
    .checkBounds 1 9, .tableSwitch ⟨4⟩ [⟨5⟩],
    .loadReceiver, .checkCast 7, .getField false 10, .box .int, .returnTop,
    .throwIllegal 9,
    .checkBounds 1 9, .tableSwitch ⟨6⟩ [⟨7⟩],
    .loadReceiver, .checkCast 7, .loadValue, .unbox .int, .putField false 10, .returnNull,
    .throwIllegal 9]

/-- The places of the labels as they are marked: the only branch and the fallback of each section. -/
def counterPlaces : List (Nat × Nat) :=
  [(1, 32), (0, 36), (3, 67), (2, 82), (5, 105), (4, 115), (7, 138), (6, 149)]

/-- The constants of a counter's dispatcher. -/
def counterConstants : List Constant :=
  [.constructor 0 [], .message AccessError.wrongConstructor,
    .message AccessError.argumentsMissing, .arityTable [0],
    .message AccessError.wrongArgumentCount, .message AccessError.wrongMethod, .arityTable [1],
    .classRef ⟨5⟩, .method 0 "add" [.primitive .int] (.primitive .int) .virtual,
    .message AccessError.wrongField, .field 0 "total" (.primitive .int) false]

/-- A counter's dispatcher. -/
def counterImage : Image where
  target := ⟨5⟩
  typeName := "Counter"
  code := #[48, 0, 0, 64,
    1, 2, 0, 2, 1, 0, 0, 0, 1, 0, 3, 3, 0, 4, 0, 4, 1, 0, 0, 0, 36, 0, 0, 0, 32, 0, 0, 0,
    48, 0, 0, 64, 6, 1, 0,
    1, 2, 0, 2, 1, 0, 0, 0, 5, 0, 3, 6, 0, 4, 0, 4, 1, 0, 0, 0, 82, 0, 0, 0, 67, 0, 0, 0,
    16, 34, 7, 0, 17, 0, 0, 32, 5, 51, 8, 0, 33, 5, 64, 6, 5, 0,
    2, 1, 0, 0, 0, 9, 0, 4, 1, 0, 0, 0, 115, 0, 0, 0, 105, 0, 0, 0,
    16, 34, 7, 0, 54, 10, 0, 33, 5, 64, 6, 9, 0,
    2, 1, 0, 0, 0, 9, 0, 4, 1, 0, 0, 0, 149, 0, 0, 0, 138, 0, 0, 0,
    16, 34, 7, 0, 18, 32, 5, 56, 10, 0, 65, 6, 9, 0]
  constants := counterConstants.toArray
  entryOffsets := { newDefault := 0, newInstance := 4, invoke := 39, getField := 85, setField := 118 }
  maxStack := 2

theorem nodup_counterConstants : counterConstants.Nodup := by
  decide

theorem length_counterConstants_le : counterConstants.length ≤ ConstantPool.capacity := by
  decide

/-- The pool of a counter's dispatcher with so many constants. -/
def counterPool (count : Nat) : ConstantPool := .ofList (counterConstants.take count)

section

variable (place : Nat) {count : Nat} {constant : Constant}

theorem intern_counterPool_old (stands : counterConstants[place]? = some constant)
    (earlier : place < count) :
    (counterPool count).intern constant = (some (UInt16.ofNat place), counterPool count) := by
  have distinct := nodup_counterConstants.sublist (List.take_sublist count counterConstants)
  have few := Nat.le_trans (List.length_take_le' count _) length_counterConstants_le
  apply ConstantPool.intern_of_stands distinct few
  rw [List.getElem?_take_of_lt earlier, stands]

theorem intern_counterPool_new (stands : counterConstants[place]? = some constant) :
    (counterPool place).intern constant =
      (some (UInt16.ofNat place), counterPool (place + 1)) := by
  obtain ⟨below, -⟩ := List.getElem?_eq_some_iff.mp stands
  have length := List.length_take_of_le (Nat.le_of_lt below)
  have room : (counterConstants.take place).length < ConstantPool.capacity := by
    rw [length]
    exact Nat.lt_of_lt_of_le below length_counterConstants_le
  have split : counterConstants.take (place + 1) = counterConstants.take place ++ [constant] := by
    rw [List.take_add_one, stands, Option.toList_some]
  have distinct := nodup_counterConstants.sublist (List.take_sublist (place + 1) _)
  rw [split] at distinct
  have absent : constant ∉ counterConstants.take place := by
    intro member
    exact List.disjoint_of_nodup_append distinct member (List.mem_singleton_self constant)
  rw [counterPool, counterPool, split,
    ConstantPool.intern_of_not_mem (List.Nodup.of_append_left distinct) room absent, length]

end

/-- A counter's dispatcher with so many instructions, constants and labels. -/
def counterUpTo (instructions constants labels maxDepth : Nat) : Assembler where
  code := ((counterInstructions.take instructions).flatMap Instruction.unplaced).toArray
  jumps := (Assembler.jumpsFrom 0 (counterInstructions.take instructions)).toArray
  pool := counterPool constants
  labelCount := labels
  places := (counterPlaces.take labels).foldl (fun places row => places.insert row.1 row.2) ∅
  maxDepth

section

open Assembler Dispatcher

-- Hashes of texts do not compute, so in each section the pool is rewritten; all else computes.

theorem defaultConstruction_counter :
    defaultConstruction counter {} = counterUpTo 2 1 0 1 := by
  have empty : ({} : Assembler) = counterUpTo 0 0 0 0 := rfl
  have start : (counterUpTo 0 0 0 0).pool = counterPool 0 := rfl
  have first : counter.defaultConstructor? = some 0 := rfl
  have ordinal : UInt32.ofNat 0 = 0 := rfl
  rw [empty, defaultConstruction, first]
  simp only [start, ordinal, intern_of_isSome, Option.isSome_some, Option.getD_some,
    intern_counterPool_new 0 rfl]
  rfl

theorem constructors_counter :
    selectorSection counter.constructors AccessError.wrongConstructor (some [0]) constructorBranch
        (counterUpTo 2 1 0 1) =
      .ok (counterUpTo 9 5 2 1) := by
  have start : (counterUpTo 2 1 0 1).pool = counterPool 1 := rfl
  have members : counter.constructors = [⟨[], {}⟩] := rfl
  have ordinal : UInt32.ofNat 0 = 0 := rfl
  rw [members, selectorSection_singleton]
  simp only [start, ordinal, selectorChecks, constructorBranch, loadArguments, bind, Except.bind,
    message, emit, intern_of_isSome, Option.isSome_some, Option.getD_some, pool_emitCall,
    pool_mark, pool_withPool, pool_withLabels, labelCount_emitCall, labelCount_withPool,
    intern_counterPool_new 1 rfl, intern_counterPool_new 2 rfl, intern_counterPool_new 3 rfl,
    intern_counterPool_new 4 rfl, intern_counterPool_old 0 rfl, Nat.reduceLT, Nat.reduceAdd]
  rfl

theorem methods_counter :
    selectorSection counter.methods AccessError.wrongMethod (some [1]) (methodBranch counter)
        (counterUpTo 9 5 2 1) =
      .ok (counterUpTo 21 9 4 2) := by
  have start : (counterUpTo 9 5 2 1).pool = counterPool 5 := rfl
  have members : counter.methods =
      [⟨"add", [.primitive .int], .primitive .int, ⟨5⟩, false, {}⟩] := rfl
  have kind : MethodDescription.callKind
      ⟨"add", [.primitive .int], .primitive .int, ⟨5⟩, false, {}⟩ = .virtual := rfl
  have ordinal : UInt32.ofNat 0 = 0 := rfl
  have few : 0 < UInt16.size := by decide
  have isType : counter.classId = ⟨5⟩ := rfl
  have notObject : (⟨5⟩ : ClassId) ≠ ClassId.object := by decide
  rw [members, selectorSection_singleton]
  simp only [start, ordinal, selectorChecks, methodBranch, kind, reduceCtorEq, if_false, if_true,
    loadReceiver, Dispatcher.cast, isType, notObject, loadArguments, few, coerce, emitUnbox,
    answer, emitBox, bind, Except.bind, message, emit, intern_of_isSome, Option.isSome_some,
    Option.getD_some, pool_emitCall, pool_mark, pool_withPool, pool_withLabels, labelCount_emitCall,
    labelCount_withPool, intern_counterPool_new 5 rfl, intern_counterPool_old 2 rfl,
    intern_counterPool_new 6 rfl, intern_counterPool_old 4 rfl, intern_counterPool_new 7 rfl,
    intern_counterPool_new 8 rfl, Nat.reduceLT, Nat.reduceAdd]
  rfl

set_option maxRecDepth 2048 in
theorem reads_counter :
    selectorSection counter.fields AccessError.wrongField none (readBranch counter)
        (counterUpTo 21 9 4 2) =
      .ok (counterUpTo 29 11 6 2) := by
  have start : (counterUpTo 21 9 4 2).pool = counterPool 9 := rfl
  have members : counter.fields = [⟨"total", .primitive .int, ⟨5⟩, {}⟩] := rfl
  have ordinal : UInt32.ofNat 0 = 0 := rfl
  have isType : counter.classId = ⟨5⟩ := rfl
  have notObject : (⟨5⟩ : ClassId) ≠ ClassId.object := by decide
  rw [members, selectorSection_singleton]
  simp only [start, ordinal, selectorChecks, readBranch, fieldIndex, loadOwner, if_false,
    Bool.false_eq_true, loadReceiver, Dispatcher.cast, isType, notObject, emitBox, message, emit,
    intern_of_isSome, Option.isSome_some, Option.getD_some, pool_emitCall, pool_mark,
    pool_withPool, pool_withLabels, labelCount_emitCall, labelCount_withPool,
    intern_counterPool_new 9 rfl, intern_counterPool_new 10 rfl, intern_counterPool_old 7 rfl,
    Nat.reduceLT, Nat.reduceAdd]
  rfl

set_option maxRecDepth 2048 in
theorem writes_counter :
    selectorSection counter.fields AccessError.wrongField none (writeBranch counter)
        (counterUpTo 29 11 6 2) =
      .ok (counterUpTo 38 11 8 2) := by
  have start : (counterUpTo 29 11 6 2).pool = counterPool 11 := rfl
  have members : counter.fields = [⟨"total", .primitive .int, ⟨5⟩, {}⟩] := rfl
  have ordinal : UInt32.ofNat 0 = 0 := rfl
  have isType : counter.classId = ⟨5⟩ := rfl
  have notObject : (⟨5⟩ : ClassId) ≠ ClassId.object := by decide
  rw [members, selectorSection_singleton]
  simp only [start, ordinal, selectorChecks, writeBranch, fieldIndex, loadOwner, if_false,
    Bool.false_eq_true, loadReceiver, Dispatcher.cast, isType, notObject, coerce, emitUnbox,
    message, emit, intern_of_isSome, Option.isSome_some, Option.getD_some, pool_emitCall,
    pool_mark, pool_withPool, pool_withLabels, labelCount_emitCall, labelCount_withPool,
    intern_counterPool_old 9 rfl, intern_counterPool_old 10 rfl, intern_counterPool_old 7 rfl,
    Nat.reduceLT]
  rfl

theorem program_counter :
    program counter = .ok (counterImage.entryOffsets, counterUpTo 38 11 8 2) := by
  have constructors : arityTable (counter.constructors.map (·.parameters)) = .ok [0] := rfl
  have methods : arityTable (counter.methods.map (·.parameters)) = .ok [1] := rfl
  simp only [program, bind, Except.bind, defaultConstruction_counter, constructors,
    constructors_counter, methods, methods_counter, reads_counter, writes_counter]
  rfl

end

/-- The instructions of a counter's dispatcher, with the offsets they jump to. -/
def counterCode : List (Instruction UInt32) :=
  counterInstructions.map fun instruction =>
    instruction.mapTargets (counterUpTo 38 11 8 2).writtenPlace

theorem toList_code_counter :
    counterImage.code.toList = counterCode.flatMap Instruction.encode := by
  decide +kernel

theorem patched_counter : (counterUpTo 38 11 8 2).patched = counterImage.code := by
  have adds : Assembler.Adds {} (counterUpTo 38 11 8 2) counterInstructions := ⟨rfl, rfl⟩
  rw [← Array.toList_inj, Assembler.toList_patched adds rfl, toList_code_counter, counterCode,
    List.flatMap_map]

theorem counter_built : Image.ofDescription counter = .ok counterImage := by
  have finished := @Assembler.finish_eq (counterUpTo 38 11 8 2) rfl rfl
  have constants : (counterUpTo 38 11 8 2).pool.entries = counterImage.constants := by
    rw [← Array.toList_inj]
    exact ConstantPool.entries_ofList nodup_counterConstants length_counterConstants_le
  rw [patched_counter, constants] at finished
  simp only [Image.ofDescription, program_counter, bind, Except.bind, finished]
  rfl

theorem counter_short : counterImage.code.size < 2 ^ 32 := by
  decide +kernel

theorem counter_verified : counterImage.Verified := by
  have few : ∀ instruction ∈ counterCode, instruction.targets.length ≤ 2 ^ 32 := by
    decide
  apply Image.Verified.of_sweep (sweep_encode few toList_code_counter)
  · decide +kernel
  · intro entryPoint
    cases entryPoint <;> decide +kernel
  · decide +kernel

end OrdinalDispatch.Code

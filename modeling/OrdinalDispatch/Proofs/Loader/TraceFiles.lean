import OrdinalDispatch.CommandLine.FileTree
import OrdinalDispatch.Proofs.Loader.Naming

/-!
Contract: which units share a trace file, and where trace files lie.

Owns: the paths of trace files and the names on them, and that units of
different classes have different files directly in the directory of traces.

Does not own: unit names, see `OrdinalDispatch.Proofs.Loader.Naming`.

A file name keeps the portable characters of a unit's name. The mark and the
number of the class are portable, so of a unit's name only the type's name can
lose anything.
-/

set_option autoImplicit false

namespace OrdinalDispatch.Loader

open CommandLine (FileTree)

/-! ## Portable names -/

@[simp]
theorem toList_portableName (name : String) :
    (portableName name).toList =
      name.toList.map fun character => if isPortable character then character else '_' :=
  String.toList_map

theorem portableName_append (front back : String) :
    portableName (front ++ back) = portableName front ++ portableName back := by
  apply String.toList_inj.mp
  simp only [toList_portableName, String.toList_append, List.map_append]

theorem portableName_eq_self {name : String}
    (portable : ∀ character ∈ name.toList, isPortable character = true) :
    portableName name = name := by
  apply String.toList_inj.mp
  rw [toList_portableName]
  refine (List.map_congr_left fun character member => ?_).trans (List.map_id name.toList)
  exact if_pos (portable character member)

/-- What is written for a character that is not portable is portable itself. -/
theorem isPortable_of_mem_portableName {name : String} {character : Char}
    (member : character ∈ (portableName name).toList) : isPortable character = true := by
  rw [toList_portableName] at member
  obtain ⟨original, -, rfl⟩ := List.mem_map.mp member
  split
  · assumption
  · rfl

theorem isPortable_of_mem_toString {number : Nat} {character : Char}
    (member : character ∈ (toString number).toList) : isPortable character = true := by
  rw [Nat.toString_eq_ofList_toDigits, String.toList_ofList] at member
  have isDigit := Nat.isDigit_of_mem_toDigits (by decide) (Nat.le_refl 10) member
  simp [isPortable, Char.isAlphanum, isDigit]

/-- The portable form of a unit's name is the name of the unit of the portable type's name. -/
theorem portableName_unitName (typeName : String) (classId : ClassId) :
    portableName (unitName typeName classId) = unitName (portableName typeName) classId := by
  have mark : portableName "$FastAccessor#" = "$FastAccessor#" :=
    portableName_eq_self (List.all_eq_true.mp (by decide))
  have digits : portableName (toString classId.number.toNat) = toString classId.number.toNat :=
    portableName_eq_self fun _ => isPortable_of_mem_toString
  rw [unitName, portableName_append, portableName_append, mark, digits, unitName]

theorem traceFileName_eq_iff {unit other : String} :
    traceFileName unit = traceFileName other ↔ portableName unit = portableName other := by
  constructor
  · intro same
    have characters := congrArg String.toList same
    simp only [traceFileName, String.toList_append] at characters
    exact String.toList_inj.mp (List.append_cancel_right characters)
  · intro same
    rw [traceFileName, same, traceFileName]

/-! ## File names -/

theorem isPortable_of_mem_traceFileName {unit : String} {character : Char}
    (member : character ∈ (traceFileName unit).toList) : isPortable character = true := by
  rw [traceFileName, String.toList_append] at member
  rcases List.mem_append.mp member with inName | inEnding
  · exact isPortable_of_mem_portableName inName
  · have ending : ".fxasm".toList.all isPortable = true := by decide
    exact List.all_eq_true.mp ending character inEnding

theorem slash_notMem_traceFileName (unit : String) : '/' ∉ (traceFileName unit).toList :=
  fun member => absurd (isPortable_of_mem_traceFileName member) (by decide)

theorem backslash_notMem_traceFileName (unit : String) : '\\' ∉ (traceFileName unit).toList :=
  fun member => absurd (isPortable_of_mem_traceFileName member) (by decide)

/-- A file name is longer than the names that lead nowhere or back. -/
theorem traceFileName_ne {unit short : String} (few : short.toList.length < 6) :
    traceFileName unit ≠ short := by
  rintro rfl
  rw [traceFileName, String.toList_append, List.length_append] at few
  exact Nat.not_lt.mpr (Nat.le_add_left 6 _) few

/-! ## Paths -/

/-- The path of the file that traces a unit in a directory. A slash goes between them, unless the
directory is empty or brings one. -/
def tracePath (directory unit : String) : String :=
  if directory = "" ∨ directory.toList.getLast? = some '/' then directory ++ traceFileName unit
  else directory ++ "/" ++ traceFileName unit

/-- The names on a path, less those that lead nowhere. -/
def pathNames (path : String) : List String :=
  ((path.toList.splitOn '/').map String.ofList).filter fun name => name ≠ "" ∧ name ≠ "."

theorem tracePath_eq_iff {directory unit other : String} :
    tracePath directory unit = tracePath directory other ↔
      traceFileName unit = traceFileName other := by
  constructor
  · intro same
    have characters := congrArg String.toList same
    unfold tracePath at characters
    split at characters <;>
    · simp only [String.toList_append] at characters
      exact String.toList_inj.mp (List.append_cancel_left characters)
  · intro same
    unfold tracePath
    rw [same]

theorem names_traceFileName (unit : String) :
    ((([(traceFileName unit).toList] : List (List Char)).map String.ofList).filter
      fun name => name ≠ "" ∧ name ≠ ".") = [traceFileName unit] := by
  have nonempty : traceFileName unit ≠ "" := traceFileName_ne (by decide)
  have notHere : traceFileName unit ≠ "." := traceFileName_ne (by decide)
  rw [List.map_singleton, String.ofList_toList]
  simp [nonempty, notHere]

/-- The path of a trace file leads one name further than its directory. -/
theorem pathNames_tracePath (directory unit : String) :
    pathNames (tracePath directory unit) = pathNames directory ++ [traceFileName unit] := by
  have single : (traceFileName unit).toList.splitOn '/' = [(traceFileName unit).toList] :=
    List.splitOn_eq_singleton (slash_notMem_traceFileName unit)
  unfold tracePath pathNames
  split
  · rename_i brings
    rcases brings with rfl | last
    · rw [String.empty_append, single, names_traceFileName]
      rfl
    · obtain ⟨front, split⟩ := List.getLast?_eq_some_iff.mp last
      rw [String.toList_append, split, List.append_assoc, List.singleton_append,
        List.splitOn_append_cons_self, List.splitOn_append_cons_self, single, List.map_append,
        List.map_append, List.filter_append, List.filter_append, names_traceFileName]
      simp
  · have slash : (directory ++ "/" ++ traceFileName unit).toList =
        directory.toList ++ '/' :: (traceFileName unit).toList := by
      simp
    rw [slash, List.splitOn_append_cons_self, single, List.map_append, List.filter_append,
      names_traceFileName]

/-- In any tree of files, a trace file lies directly in the directory that its name is walked
from. -/
theorem walk_traceFileName {tree : FileTree} {place : List String} {unit : String}
    (present : tree.holdsDirectory place = true)
    (short : (traceFileName unit).utf8ByteSize ≤ CommandLine.maximumNameBytes) :
    tree.walk place [traceFileName unit] = .ok (place ++ [traceFileName unit]) := by
  have nonempty : traceFileName unit ≠ "" := traceFileName_ne (by decide)
  have notHere : traceFileName unit ≠ "." := traceFileName_ne (by decide)
  have notBack : traceFileName unit ≠ ".." := traceFileName_ne (by decide)
  simp [FileTree.walk, present, nonempty, notHere, notBack, Nat.not_lt.mpr short]

/-! ## Units and their files -/

/-- Unit names and trace files tell units apart. A unit's name tells its type's name and its class.
In one directory, two units are traced to one path just if their classes are the same and their
types' names are the same but for characters that are not portable; no other spelling of the path
brings them together. A file name holds no separator and is no step in place or back, so the file
lies directly in the directory. -/
theorem trace_files_tell_units_apart (directory typeName otherName : String)
    (classId other : ClassId) :
    (unitName typeName classId = unitName otherName other →
      typeName = otherName ∧ classId = other) ∧
    (tracePath directory (unitName typeName classId) =
        tracePath directory (unitName otherName other) ↔
      classId = other ∧ portableName typeName = portableName otherName) ∧
    (pathNames (tracePath directory (unitName typeName classId)) =
        pathNames (tracePath directory (unitName otherName other)) ↔
      classId = other ∧ portableName typeName = portableName otherName) ∧
    ∀ unit, ('/' ∉ (traceFileName unit).toList ∧ '\\' ∉ (traceFileName unit).toList ∧
        traceFileName unit ≠ "." ∧ traceFileName unit ≠ "..") ∧
      pathNames (tracePath directory unit) = pathNames directory ++ [traceFileName unit] ∧
      ∀ (tree : FileTree) (place : List String), tree.holdsDirectory place = true →
        (traceFileName unit).utf8ByteSize ≤ CommandLine.maximumNameBytes →
          tree.walk place [traceFileName unit] = .ok (place ++ [traceFileName unit]) := by
  have files : traceFileName (unitName typeName classId) =
        traceFileName (unitName otherName other) ↔
      classId = other ∧ portableName typeName = portableName otherName := by
    rw [traceFileName_eq_iff, portableName_unitName, portableName_unitName]
    constructor
    · exact fun same => (unitName_inj same).symm
    · rintro ⟨rfl, same⟩
      rw [same]
  refine ⟨unitName_inj, tracePath_eq_iff.trans files, ?_, fun unit => ⟨⟨?_, ?_, ?_, ?_⟩, ?_, ?_⟩⟩
  · rw [pathNames_tracePath, pathNames_tracePath, List.append_cancel_left_eq,
      List.singleton_inj, files]
  · exact slash_notMem_traceFileName unit
  · exact backslash_notMem_traceFileName unit
  · exact traceFileName_ne (by decide)
  · exact traceFileName_ne (by decide)
  · exact pathNames_tracePath directory unit
  · exact fun tree place => walk_traceFileName

/-- Two types' names that differ in a character that is not portable share a file if they have one
class, and none if they have not. -/
theorem trace_files_tell_units_apart_slash :
    tracePath "out" (unitName "a/b" ⟨4⟩) = tracePath "out" (unitName "a_b" ⟨4⟩) ∧
      tracePath "out" (unitName "a/b" ⟨4⟩) ≠ tracePath "out" (unitName "a_b" ⟨5⟩) ∧
      ({} : FileTree).walk [] [traceFileName (unitName "a/b" ⟨4⟩)] =
        .ok ["a_b$FastAccessor#4.fxasm"] := by
  have apart (other : ClassId) := trace_files_tell_units_apart "out" "a/b" "a_b" ⟨4⟩ other
  have portable : portableName "a/b" = "a_b" := by
    apply String.toList_inj.mp
    rw [toList_portableName]
    decide
  have same : portableName "a_b" = "a_b" := portableName_eq_self (List.all_eq_true.mp (by decide))
  have name : traceFileName (unitName "a/b" ⟨4⟩) = "a_b$FastAccessor#4.fxasm" := by
    rw [traceFileName, portableName_unitName, portable]
    rfl
  refine ⟨(apart ⟨4⟩).2.1.mpr ⟨rfl, portable.trans same.symm⟩, fun shared => ?_, ?_⟩
  · exact absurd ((apart ⟨5⟩).2.1.mp shared).1 (by decide)
  · have walks := ((apart ⟨4⟩).2.2.2 (unitName "a/b" ⟨4⟩)).2.2 {} [] rfl
    rw [name] at walks ⊢
    exact walks (by decide +kernel)

end OrdinalDispatch.Loader

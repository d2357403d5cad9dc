import OrdinalDispatch.Schema.ValueType

/-!
Contract: the names of installed units and of their trace files.

Owns: the name of the unit of a class, and the file name of a unit's trace.

Does not own: the directory of trace files.
-/

set_option autoImplicit false

namespace OrdinalDispatch.Loader

/-- The name of the unit of a class: the type's name, a fixed mark, and the number of the class. -/
def unitName (typeName : String) (classId : ClassId) : String :=
  typeName ++ "$FastAccessor#" ++ toString classId.number.toNat

/-- The characters that file names keep. -/
def isPortable (character : Char) : Bool :=
  character.isAlphanum || character == '.' || character == '_' || character == '-'
    || character == '$' || character == '#'

/-- A name with every other character replaced by an underscore. -/
def portableName (name : String) : String :=
  name.map fun character => if isPortable character then character else '_'

def traceFileName (unit : String) : String :=
  portableName unit ++ ".fxasm"

end OrdinalDispatch.Loader

import OrdinalDispatch.Schema.Member
import OrdinalDispatch.Settings.Basic
import OrdinalDispatch.Text.Lines

/-!
Contract: the summary of a described type.

Owns: its lines: the type, the members of each list with their ordinals, and
whether their count reaches the threshold.

Does not own: the settings that the threshold comes from.
-/

set_option autoImplicit false

namespace OrdinalDispatch.CommandLine

namespace Summary

def row (ordinal : Nat) (text : String) : String :=
  "  [" ++ toString ordinal ++ "] " ++ text

def constructorRow (ordinal : Nat) (constructor : ConstructorDescription) : String :=
  row ordinal ("(" ++ ValueType.listText constructor.parameters ++ ")")

def methodRow (ordinal : Nat) (method : MethodDescription) : String :=
  row ordinal
    (method.name ++ "(" ++ ValueType.listText method.parameters ++ ") -> "
      ++ method.returnType.text ++ "  " ++ method.callKind.mnemonic)

def fieldRow (ordinal : Nat) (field : FieldDescription) : String :=
  row ordinal
    (field.name ++ ": " ++ field.valueType.text ++ "  "
      ++ if field.modifiers.isStatic then "static" else "instance")

def lines (description : TypeDescription) (settings : Settings) : List String :=
  let verdict :=
    if settings.shouldGenerate description.memberCount then "generate" else "below threshold"
  ["Type:         " ++ description.name ++ " (" ++ description.classId.text ++ ")",
    "Constructors: " ++ toString description.constructors.length]
    ++ description.constructors.mapIdx constructorRow
    ++ ["Methods:      " ++ toString description.methods.length]
    ++ description.methods.mapIdx methodRow
    ++ ["Fields:       " ++ toString description.fields.length]
    ++ description.fields.mapIdx fieldRow
    ++ ["Members:      " ++ toString description.memberCount ++ " (threshold "
      ++ toString settings.generationThreshold ++ ": " ++ verdict ++ ")"]

end Summary

def summary (description : TypeDescription) (settings : Settings) : String :=
  Text.unlines (Summary.lines description settings)

end OrdinalDispatch.CommandLine

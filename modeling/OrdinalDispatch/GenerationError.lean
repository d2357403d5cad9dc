import OrdinalDispatch.Code.Assembler
import OrdinalDispatch.Code.Verification

/-!
Contract: why an accessor cannot be generated.

Owns: the causes, from assembly through installation to linking, and their
wording.

Does not own: when each arises.
-/

set_option autoImplicit false

namespace OrdinalDispatch

/-- Why a description or an image cannot become an installed image. -/
inductive ImageError where
  | tooManyParameters (count : Nat)
  | argumentIndexOverflow
  | assembly (faults : List Code.AssemblyFault)
  | verification (fault : Code.ImageFault)
deriving DecidableEq, Repr

def ImageError.message : ImageError → String
  | .tooManyParameters count => toString count ++ " parameters exceed the encodable limit"
  | .argumentIndexOverflow => "argument index overflow"
  | .assembly faults => Code.AssemblyFault.listMessage faults
  | .verification fault => fault.message

/-- Why an image cannot be linked to a type model. -/
inductive LinkFault where
  | constructorGone (ordinal : Nat)
  | constructorChanged (ordinal : Nat) (recorded current : List ValueType)
  | constructorWithoutHandle (ordinal : Nat)
  | methodGone (ordinal : Nat)
  | methodChanged (ordinal : Nat) (name : String) (recorded : List ValueType)
      (currentName : String) (current : List ValueType)
  | methodWithoutHandle (ordinal : Nat) (name : String)
  | fieldGone (ordinal : Nat)
  | fieldChanged (ordinal : Nat) (name : String)
  | fieldWithoutHandle (ordinal : Nat) (name : String)
deriving DecidableEq, Repr

def LinkFault.message : LinkFault → String
  | .constructorGone ordinal => "constructor " ++ toString ordinal ++ " no longer exists"
  | .constructorChanged ordinal recorded current =>
      "constructor " ++ toString ordinal ++ " signature changed: (" ++ ValueType.listText recorded
        ++ ") became (" ++ ValueType.listText current ++ ")"
  | .constructorWithoutHandle ordinal => "missing handle for constructor " ++ toString ordinal
  | .methodGone ordinal => "method " ++ toString ordinal ++ " no longer exists"
  | .methodChanged ordinal name recorded currentName current =>
      "method " ++ toString ordinal ++ " signature changed: " ++ name ++ "("
        ++ ValueType.listText recorded ++ ") became " ++ currentName ++ "("
        ++ ValueType.listText current ++ ")"
  | .methodWithoutHandle ordinal name =>
      "missing handle for method " ++ toString ordinal ++ " (" ++ name ++ ")"
  | .fieldGone ordinal => "field " ++ toString ordinal ++ " no longer exists"
  | .fieldChanged ordinal name =>
      "field " ++ toString ordinal ++ " (" ++ name ++ ") signature changed"
  | .fieldWithoutHandle ordinal name =>
      "missing handle for field " ++ toString ordinal ++ " (" ++ name ++ ")"

inductive GenerationError where
  | unknownType (classId : ClassId)
  | duplicateDefinition (unit : String) (context : UInt32)
  | malformedImage (unit : String) (cause : ImageError)
  | instantiation (typeName : String) (cause : LinkFault)
deriving DecidableEq, Repr

def GenerationError.message : GenerationError → String
  | .unknownType classId => "unknown type " ++ classId.text
  | .duplicateDefinition unit context =>
      "unit `" ++ unit ++ "` is already defined in loading context " ++ toString context.toNat
  | .malformedImage unit cause => "malformed image for `" ++ unit ++ "`: " ++ cause.message
  | .instantiation typeName cause =>
      "failed to instantiate accessor for `" ++ typeName ++ "`: " ++ cause.message

end OrdinalDispatch

import OrdinalDispatch.Settings.Basic
import OrdinalDispatch.Text.Blank

/-!
Contract: settings from environment variables.

Owns: the names of the variables, the readings of their values, and the error
for a value without a reading.

Does not own: the environment; a look-up by name stands for it.
-/

set_option autoImplicit false

namespace OrdinalDispatch.Settings

def thresholdVariable : String := "FASTACCESS_THRESHOLD"

def traceVariable : String := "FASTACCESS_TRACE"

def directoryVariable : String := "FASTACCESS_TRACE_DIR"

def variableNames : List String := [thresholdVariable, traceVariable, directoryVariable]

/-- A variable with a value that has no reading. -/
structure InvalidVariable where
  name : String
  value : String
deriving DecidableEq, Repr

def InvalidVariable.message (invalid : InvalidVariable) : String :=
  "invalid value " ++ Text.Quoted.text invalid.value ++ " for " ++ invalid.name

/-- A count in decimal digits, with an optional plus sign. -/
def count? (characters : List Char) : Option Nat :=
  let digits :=
    match characters with
    | '+' :: rest => rest
    | all => all
  (Text.numeral? 10 digits).filter (· ≤ largestThreshold)

/-- Reads a threshold; blanks around it do not count. -/
def thresholdOf? (value : String) : Option Nat :=
  count? (Text.trimBlanks value.toList)

/-- Reads a flag by its word in any ASCII case; blanks around it do not count, and nothing at all
means no. -/
def flagOf? (value : String) : Option Bool :=
  let word := String.ofList ((Text.trimBlanks value.toList).map Char.toLower)
  if ["1", "true", "yes", "on"].contains word then some true
  else if ["0", "false", "no", "off", ""].contains word then some false
  else none

/-- A reading of one variable; an unset variable keeps the default. -/
def readVariable {α : Type} (lookup : String → Option String) (name : String) (default : α)
    (read : String → Option α) : Except InvalidVariable α :=
  match lookup name with
  | none => .ok default
  | some value =>
      match read value with
      | some found => .ok found
      | none => .error ⟨name, value⟩

/-- The defaults, overridden by the variables that are set. An empty directory counts as unset. -/
def ofEnvironment (lookup : String → Option String) : Except InvalidVariable Settings := do
  let defaults : Settings := {}
  return {
    generationThreshold :=
      ← readVariable lookup thresholdVariable defaults.generationThreshold thresholdOf?
    traceEnabled := ← readVariable lookup traceVariable defaults.traceEnabled flagOf?
    traceDirectory := (lookup directoryVariable).filter fun directory => !directory.isEmpty }

end OrdinalDispatch.Settings

import OrdinalDispatch.Code.Constant

/-!
Contract: the settings of generators and of the command line.

Owns: the settings, their defaults and the threshold test.

Does not own: where settings are read from, see
`OrdinalDispatch.Settings.Environment` and `OrdinalDispatch.Settings.Table`.
-/

set_option autoImplicit false

namespace OrdinalDispatch

/-- The settings: from how many members on a caller should ask for a generated accessor, whether
generated images are traced, and the directory that traces go to without another sink. -/
structure Settings where
  generationThreshold : Nat := 3
  traceEnabled : Bool := false
  traceDirectory : Option String := none
deriving DecidableEq, Repr

namespace Settings

/-- The largest threshold: counts are 64-bit words. -/
def largestThreshold : Nat := UInt64.size - 1

/-- Whether a type with so many members reaches the threshold. -/
def shouldGenerate (settings : Settings) (memberCount : Nat) : Bool :=
  settings.generationThreshold ≤ memberCount

def flagText (flag : Bool) : String := if flag then "true" else "false"

def display (settings : Settings) : String :=
  Code.Constant.record "CompilerConfig"
    [("generation_threshold", toString settings.generationThreshold),
      ("trace_enabled", flagText settings.traceEnabled),
      ("trace_dir",
        match settings.traceDirectory with
        | none => "None"
        | some directory => "Some(" ++ Text.Quoted.text directory ++ ")")]

end Settings

end OrdinalDispatch

import OrdinalDispatch.CommandLine.Program
import OrdinalDispatch.CommandLine.SystemFault

/-!
Contract: the command line as a program.

Owns: files, environment and the standard streams.

Does not own: anything else; all decisions are made in
`OrdinalDispatch.CommandLine.Program`.
-/

set_option autoImplicit false

namespace OrdinalDispatch.CommandLine

/-- The number and the words of a failed access, if the system gave any. A number may come
negated, as a word. -/
def refusal? : IO.Error → Option (UInt32 × String)
  | .alreadyExists _ number words
  | .interrupted _ number words
  | .noFileOrDirectory _ number words
  | .invalidArgument _ number words
  | .permissionDenied _ number words
  | .resourceExhausted _ number words
  | .inappropriateType _ number words
  | .noSuchThing _ number words
  | .otherError number words
  | .resourceBusy number words
  | .resourceVanished number words
  | .unsupportedOperation number words
  | .hardwareFault number words
  | .unsatisfiedConstraints number words
  | .illegalOperation number words
  | .protocolError number words
  | .timeExpired number words => some (number, words)
  | .unexpectedEof | .userError _ => none

/-- The text of a failed access. Without a refusal of the system the content is at fault. -/
def accessFailure (error : IO.Error) : String :=
  match refusal? error with
  | none => "stream did not contain valid UTF-8"
  | some (number, words) =>
      let number :=
        if UInt32.size / 2 ≤ number.toNat then UInt32.size - number.toNat else number.toNat
      (SystemFault.ofNumber number words).message

/-- An access to the system whose failure is a value. -/
def attempt {α : Type} (access : IO α) : IO (Except String α) := do
  try
    return .ok (← access)
  catch failure => return .error (accessFailure failure)

def systemHost : Host IO where
  readFile path := attempt (IO.FS.readFile path)
  writeFile path content := attempt (IO.FS.writeFile path content)
  environment name := IO.getEnv name
  outputIsTerminal := do (← IO.getStdout).isTty

end OrdinalDispatch.CommandLine

def main (arguments : List String) : IO UInt32 := do
  let outcome ← OrdinalDispatch.CommandLine.run OrdinalDispatch.CommandLine.systemHost arguments
  IO.print outcome.output
  IO.eprint outcome.errorOutput
  return UInt32.ofNat outcome.exitCode

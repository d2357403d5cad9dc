import OrdinalDispatch.Code.Dispatcher
import OrdinalDispatch.Code.Listing
import OrdinalDispatch.CommandLine.Help
import OrdinalDispatch.CommandLine.Summary
import OrdinalDispatch.Json.Reader
import OrdinalDispatch.Schema.JsonForm
import OrdinalDispatch.Settings.Table

/-!
Contract: what the command line does.

Owns: the commands, their failures with the wording of those, and the exit codes.

Does not own: files and environment. A host stands for them, in any monad.
-/

set_option autoImplicit false

namespace OrdinalDispatch.CommandLine

/-- The surroundings of a run. A failed access says why. -/
structure Host (m : Type → Type) where
  readFile : (path : String) → m (Except String String)
  writeFile : (path content : String) → m (Except String Unit)
  environment : (name : String) → m (Option String)
  outputIsTerminal : m Bool

inductive Failure where
  | unreadable (path cause : String)
  | invalidDescription (path : String)
  | unbuildable (typeName : String) (cause : GenerationError)
  | unwritable (path cause : String)
  | invalidSettings (path : String)
  | invalidVariable (invalid : Settings.InvalidVariable)
deriving DecidableEq, Repr

/-- The wording of a failure, from the command's point of view down to the cause. -/
def Failure.chain : Failure → List String
  | .unreadable path cause => ["failed to read " ++ path, cause]
  | .invalidDescription path =>
      ["invalid type description in " ++ path, "not the JSON form of a type description"]
  | .unbuildable typeName cause =>
      ["failed to build dispatcher for " ++ typeName, cause.message]
  | .unwritable path cause => ["failed to write " ++ path, cause]
  | .invalidSettings path =>
      ["invalid settings in " ++ path, "not a flat table of known settings"]
  | .invalidVariable invalid => [invalid.message]

def Failure.line (failure : Failure) : String :=
  "Error: " ++ String.intercalate ": " failure.chain ++ "\n"

/-- What a run leaves: its exit code and its two outputs. -/
structure Outcome where
  exitCode : Nat
  output : String := ""
  errorOutput : String := ""
deriving DecidableEq, Repr

variable {m : Type → Type} [Monad m]

/-- Looks up variables of the environment; all others count as unset. -/
def Host.lookup (host : Host m) (names : List String) : m (String → Option String) := do
  let values ← names.mapM fun name => do return (name, ← host.environment name)
  return fun name => (values.lookup name).join

def loadDescription (host : Host m) (path : String) : ExceptT Failure m TypeDescription := do
  match ← host.readFile path with
  | .error cause => throw (.unreadable path cause)
  | .ok source =>
      match (Json.parse? source).bind TypeDescription.ofJson? with
      | none => throw (.invalidDescription path)
      | some description => return description

/-- Lists the dispatcher of a described type, on the output or in a file. -/
def listDispatcher (host : Host m) (file : String) (output : Option String) :
    ExceptT Failure m String := do
  let description ← loadDescription host file
  match Code.Image.ofDescription description with
  | .error cause =>
      throw (.unbuildable description.name (.malformedImage description.name cause))
  | .ok image =>
      match output with
      | none => return image.listing
      | some path =>
          match ← host.writeFile path image.listing with
          | .error cause => throw (.unwritable path cause)
          | .ok () =>
              return "Wrote " ++ path ++ " (" ++ toString image.code.size ++ " bytes of code)\n"

/-- The settings of a file, or those of the environment. -/
def loadSettings (host : Host m) (config : Option String) : ExceptT Failure m Settings := do
  match config with
  | some path =>
      match ← host.readFile path with
      | .error cause => throw (.unreadable path cause)
      | .ok source =>
          match Settings.Table.settings? source with
          | none => throw (.invalidSettings path)
          | some settings => return settings
  | none =>
      match Settings.ofEnvironment (← host.lookup Settings.variableNames) with
      | .error invalid => throw (.invalidVariable invalid)
      | .ok settings => return settings

/-- Summarises a described type. A threshold among the arguments wins over all settings. -/
def summarize (host : Host m) (file : String) (threshold : Option Nat) (config : Option String) :
    ExceptT Failure m String := do
  let description ← loadDescription host file
  let settings ← loadSettings host config
  return summary description
    { settings with generationThreshold := threshold.getD settings.generationThreshold }

def Command.run (host : Host m) : Command → ExceptT Failure m String
  | .disasm file output => listDispatcher host file output
  | .inspect file threshold config => summarize host file threshold config

def Request.answer (host : Host m) : Request → m Outcome
  | .help page => do
      let styled := Styling.isStyled (← host.lookup Styling.variableNames) (← host.outputIsTerminal)
      return { exitCode := 0, output := page.text styled }
  | .version => pure { exitCode := 0, output := versionText }
  | .misuse =>
      pure {
        exitCode := 2
        errorOutput := "error: the arguments cannot be read\n\n" ++ HelpPage.overview.text false }
  | .run command => do
      match ← (command.run host).run with
      | .ok output => pure { exitCode := 0, output }
      | .error failure => pure { exitCode := 1, errorOutput := failure.line }

def run (host : Host m) (arguments : List String) : m Outcome :=
  (Request.ofArguments arguments).answer host

end OrdinalDispatch.CommandLine

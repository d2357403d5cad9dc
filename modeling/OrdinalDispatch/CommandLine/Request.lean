import OrdinalDispatch.Settings.Environment

/-!
Contract: what the arguments of the command line ask for.

Owns: the commands with their options, the names of the pages of help, and the
rules by which arguments are read.

Does not own: what a command does, see `OrdinalDispatch.CommandLine.Program`, and
what a page says, see `OrdinalDispatch.CommandLine.Help`.

Arguments are read from left to right, and the first that settles the matter
does so: a request for help wins over later mistakes and loses to earlier ones.
-/

set_option autoImplicit false

namespace OrdinalDispatch.CommandLine

inductive Command where
  | disasm (file : String) (output : Option String)
  | inspect (file : String) (threshold : Option Nat) (config : Option String)
deriving DecidableEq, Repr

inductive HelpPage where
  | overview
  | disasm
  | inspect
  | help
deriving DecidableEq, Repr

inductive Request where
  | run (command : Command)
  | help (page : HelpPage)
  | version
  | misuse
deriving DecidableEq, Repr

structure ValueOption where
  long : String
  short : Option Char
deriving DecidableEq, Repr

/-- What the arguments of a command hold: the file, the values of options, and whether `--` was
met, behind which nothing is an option. -/
structure Parsed where
  file : Option String := none
  values : List (String × String) := []
  onlyFiles : Bool := false
deriving DecidableEq, Repr

namespace Parsed

/-- Takes the file, of which there is one. -/
def addFile (parsed : Parsed) (file : String) : Option Parsed :=
  if parsed.file.isSome then none else some { parsed with file := some file }

/-- Takes the value of an option, which comes once and must be acceptable. -/
def addValue (parsed : Parsed) (accepts : String → String → Bool) (option value : String) :
    Option Parsed :=
  if (parsed.values.lookup option).isSome || !accepts option value then none
  else some { parsed with values := parsed.values ++ [(option, value)] }

end Parsed

/-- An argument by its form. -/
inductive Argument where
  | plain (text : String)
  | endOfOptions
  | long (name : String) (value : Option String)
  | short (letters : List Char)
deriving DecidableEq, Repr

/-- The form of an argument. A lone dash is plain. -/
def Argument.ofText (text : String) : Argument :=
  match text.toList with
  | ['-', '-'] => .endOfOptions
  | '-' :: '-' :: rest =>
      match rest.dropWhile (· != '=') with
      | _ :: value =>
          .long (String.ofList (rest.takeWhile (· != '='))) (some (String.ofList value))
      | [] => .long (String.ofList rest) none
  | '-' :: letter :: rest => .short (letter :: rest)
  | _ => .plain text

/-- What a cluster of letters asks for: help, or the value of an option, which may be attached. -/
inductive Cluster where
  | help
  | valueOf (name : String) (attached : Option String)
  | unknown
deriving DecidableEq, Repr

/-- Reads a cluster by its first letter; no letter but that of help stands without a value. -/
def Cluster.ofLetters (options : List ValueOption) : List Char → Cluster
  | [] => .unknown
  | letter :: rest =>
      if letter = 'h' then .help
      else
        match options.find? fun option => option.short == some letter with
        | none => .unknown
        | some option =>
            match rest with
            | [] => .valueOf option.long none
            | '=' :: value => .valueOf option.long (some (String.ofList value))
            | value => .valueOf option.long (some (String.ofList value))

/-- Why reading stops before the end. -/
inductive Stop where
  | help
  | misuse
deriving DecidableEq, Repr

/-- Misuse if there is nothing. -/
def orMisuse {α : Type} : Option α → Except Stop α
  | some value => .ok value
  | none => .error .misuse

/-- The options that an argument opens, if it needs the next argument for its value. -/
inductive Reading where
  | done (parsed : Parsed)
  | awaiting (option : String)

def readArgument (options : List ValueOption) (accepts : String → String → Bool)
    (parsed : Parsed) (text : String) : Except Stop Reading := do
  if parsed.onlyFiles then return .done (← orMisuse (parsed.addFile text))
  match Argument.ofText text with
  | .plain file => return .done (← orMisuse (parsed.addFile file))
  | .endOfOptions => return .done { parsed with onlyFiles := true }
  | .long name value =>
      if name = "help" then
        throw (if value.isSome then .misuse else .help)
      else if options.any fun option => option.long == name then
        match value with
        | some value => return .done (← orMisuse (parsed.addValue accepts name value))
        | none => return .awaiting name
      else throw .misuse
  | .short letters =>
      match Cluster.ofLetters options letters with
      | .help => throw .help
      | .unknown => throw .misuse
      | .valueOf name (some value) =>
          return .done (← orMisuse (parsed.addValue accepts name value))
      | .valueOf name none => return .awaiting name

/-- Reads the arguments of a command. `awaiting` is the option whose value comes next; an argument
in the form of an option is no value. -/
def readArguments (options : List ValueOption) (accepts : String → String → Bool) :
    (awaiting : Option String) → Parsed → List String → Except Stop Parsed
  | none, parsed, [] => .ok parsed
  | some _, _, [] => .error .misuse
  | some option, parsed, text :: rest =>
      match Argument.ofText text with
      | .plain value => do
          let parsed ← orMisuse (parsed.addValue accepts option value)
          readArguments options accepts none parsed rest
      | _ => .error .misuse
  | none, parsed, text :: rest => do
      match ← readArgument options accepts parsed text with
      | .done parsed => readArguments options accepts none parsed rest
      | .awaiting option => readArguments options accepts (some option) parsed rest

def disasmOptions : List ValueOption := [⟨"output", some 'o'⟩]

def inspectOptions : List ValueOption := [⟨"threshold", none⟩, ⟨"config", none⟩]

/-- A threshold must be a count; all other values are free. -/
def acceptsValue (option value : String) : Bool :=
  option != "threshold" || (Settings.count? value.toList).isSome

def commandRequest (page : HelpPage) (options : List ValueOption)
    (command : String → (String → Option String) → Command) (arguments : List String) : Request :=
  match readArguments options acceptsValue none {} arguments with
  | .error .help => .help page
  | .error .misuse => .misuse
  | .ok parsed =>
      match parsed.file with
      | none => .misuse
      | some file => .run (command file fun option => parsed.values.lookup option)

/-- The page that the names behind `help` ask for. -/
def helpRequest : List String → Request
  | [] => .help .overview
  | ["disasm"] => .help .disasm
  | ["inspect"] => .help .inspect
  | ["help"] => .help .help
  | _ => .misuse

namespace Request

/-- The request of all arguments. Before the command only help and the version can be asked
for. -/
def ofArguments : List String → Request
  | [] => .misuse
  | "disasm" :: rest =>
      commandRequest .disasm disasmOptions (fun file value => .disasm file (value "output")) rest
  | "inspect" :: rest =>
      commandRequest .inspect inspectOptions
        (fun file value =>
          .inspect file ((value "threshold").bind fun count => Settings.count? count.toList)
            (value "config"))
        rest
  | "help" :: rest => helpRequest rest
  | text :: _ =>
      match Argument.ofText text with
      | .long "help" none => .help .overview
      | .long "version" none => .version
      | .short ('h' :: _) => .help .overview
      | .short ('V' :: _) => .version
      | _ => .misuse

end Request

end OrdinalDispatch.CommandLine

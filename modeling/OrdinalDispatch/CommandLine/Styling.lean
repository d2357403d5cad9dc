/-!
Contract: text that stands out on a terminal.

Owns: stretches of text with an emphasis, the control sequences that show one,
and the rule by which the environment decides whether any are written.

Does not own: what is emphasised, see `OrdinalDispatch.CommandLine.Help`.
-/

set_option autoImplicit false

namespace OrdinalDispatch.CommandLine

/-- How a stretch of text stands out. -/
inductive Emphasis where
  | plain
  /-- What is typed as it stands: names of commands and options. -/
  | literal
  /-- What opens a paragraph. -/
  | heading
deriving DecidableEq, Repr

/-- The control sequences before an emphasised stretch: bold, and for a heading underlined. -/
def Emphasis.opening : Emphasis → String
  | .plain => ""
  | .literal => "\x1b[1m"
  | .heading => "\x1b[1m\x1b[4m"

def Emphasis.closing : Emphasis → String
  | .plain => ""
  | .literal | .heading => "\x1b[0m"

/-- A stretch of text with one emphasis. -/
structure Span where
  emphasis : Emphasis
  content : String
deriving DecidableEq, Repr

namespace Span

def plain (content : String) : Span := ⟨.plain, content⟩

def literal (content : String) : Span := ⟨.literal, content⟩

def heading (content : String) : Span := ⟨.heading, content⟩

/-- The text of a stretch, with its control sequences if it is styled. -/
def text (styled : Bool) (span : Span) : String :=
  if styled then span.emphasis.opening ++ span.content ++ span.emphasis.closing
  else span.content

def lineText (styled : Bool) (spans : List Span) : String :=
  String.join (spans.map (text styled))

/-- The columns that stretches in a row take; control sequences take none. -/
def width (spans : List Span) : Nat :=
  spans.foldl (fun columns span => columns + span.content.length) 0

end Span

namespace Styling

/-- The variable that forbids styles unless it is empty. -/
def forbidVariable : String := "NO_COLOR"

/-- The variable that forces styles unless it is empty. -/
def forceVariable : String := "CLICOLOR_FORCE"

/-- The variable that forbids styles if it is `0` and otherwise welcomes them. -/
def welcomeVariable : String := "CLICOLOR"

/-- The variable that names the kind of terminal. -/
def terminalVariable : String := "TERM"

/-- The variable whose presence means an automatic build, whose log shows styles. -/
def automaticVariable : String := "CI"

def variableNames : List String :=
  [forbidVariable, forceVariable, welcomeVariable, terminalVariable, automaticVariable]

/-- Whether a variable is set and not empty. -/
def isFilled (lookup : String → Option String) (name : String) : Bool :=
  (lookup name).any fun value => !value.isEmpty

/-- Whether the output is styled. To forbid wins over to force; without either, a terminal that
can show styles gets them, and nothing else does. -/
def isStyled (lookup : String → Option String) (onTerminal : Bool) : Bool :=
  if isFilled lookup forbidVariable then false
  else if isFilled lookup forceVariable then true
  else if lookup welcomeVariable == some "0" then false
  else
    onTerminal
      && ((lookup terminalVariable).any (· != "dumb") || (lookup welcomeVariable).isSome
        || (lookup automaticVariable).isSome)

end Styling

end OrdinalDispatch.CommandLine

import OrdinalDispatch.CommandLine.Request
import OrdinalDispatch.CommandLine.Styling
import OrdinalDispatch.Text.Lines

/-!
Contract: what the pages of help say and how they are laid out.

Owns: the wording of each page, its paragraphs in two columns, and the text of
the version.

Does not own: which page is asked for, see `OrdinalDispatch.CommandLine.Request`.
-/

set_option autoImplicit false

namespace OrdinalDispatch.CommandLine

namespace Help

/-- An entry of a paragraph: a label and what it means. -/
structure Entry where
  label : List Span
  meaning : String
deriving DecidableEq, Repr

/-- A paragraph: its title and its entries. -/
structure Paragraph where
  title : String
  entries : List Entry
deriving DecidableEq, Repr

/-- What a page says: what the command is for, how it is called, and its paragraphs. -/
structure Content where
  purpose : String
  call : String
  operands : String
  paragraphs : List Paragraph
deriving DecidableEq, Repr

/-- The line of an entry. Meanings begin two columns behind the widest label. -/
def Entry.line (styled : Bool) (column : Nat) (entry : Entry) : String :=
  "  " ++ Span.lineText styled entry.label
    ++ String.ofList (List.replicate (column + 2 - Span.width entry.label) ' ') ++ entry.meaning

/-- The lines of a paragraph, with an empty one before them. -/
def Paragraph.lines (styled : Bool) (paragraph : Paragraph) : List String :=
  let column := (paragraph.entries.map fun entry => Span.width entry.label).foldl max 0
  "" :: (Span.heading (paragraph.title ++ ":")).text styled
    :: paragraph.entries.map (Entry.line styled column)

def Content.lines (styled : Bool) (content : Content) : List String :=
  let usage : List Span :=
    [.heading "Usage:", .plain " ", .literal content.call, .plain (" " ++ content.operands)]
  content.purpose :: "" :: Span.lineText styled usage
    :: content.paragraphs.flatMap (Paragraph.lines styled)

def commandEntry (name meaning : String) : Entry := ⟨[.literal name], meaning⟩

def operandEntry (operand meaning : String) : Entry := ⟨[.plain operand], meaning⟩

def flagEntry (letter long meaning : String) : Entry :=
  ⟨[.literal letter, .plain ", ", .literal long], meaning⟩

def helpEntry : Entry := flagEntry "-h" "--help" "Print help"

def fileParagraph : Paragraph := ⟨"Arguments", [operandEntry "<FILE>" "JSON type description"]⟩

def disasmPurpose : String := "Build the dispatcher for a type description and print its listing"

def inspectPurpose : String := "Summarize a type description's members and ordinals"

def helpPurpose : String := "Print this message or the help of the given subcommand(s)"

def overview : Content where
  purpose := "Build and inspect ordinal-indexed accessor dispatchers"
  call := "fastaccess"
  operands := "<COMMAND>"
  paragraphs :=
    [⟨"Commands",
        [commandEntry "disasm" disasmPurpose, commandEntry "inspect" inspectPurpose,
          commandEntry "help" helpPurpose]⟩,
      ⟨"Options", [helpEntry, flagEntry "-V" "--version" "Print version"]⟩]

def disasm : Content where
  purpose := disasmPurpose
  call := "fastaccess disasm"
  operands := "[OPTIONS] <FILE>"
  paragraphs :=
    [fileParagraph,
      ⟨"Options",
        [⟨[.literal "-o", .plain ", ", .literal "--output", .plain " <OUTPUT>"],
            "Write the listing to this file instead of stdout"⟩,
          helpEntry]⟩]

def inspect : Content where
  purpose := inspectPurpose
  call := "fastaccess inspect"
  operands := "[OPTIONS] <FILE>"
  paragraphs :=
    [fileParagraph,
      ⟨"Options",
        [⟨[.plain "    ", .literal "--threshold", .plain " <THRESHOLD>"],
            "Generation threshold (defaults to FASTACCESS_THRESHOLD or 3)"⟩,
          ⟨[.plain "    ", .literal "--config", .plain " <CONFIG>"], "TOML settings file"⟩,
          helpEntry]⟩]

def help : Content where
  purpose := helpPurpose
  call := "fastaccess help"
  operands := "[COMMAND]..."
  paragraphs :=
    [⟨"Arguments", [operandEntry "[COMMAND]..." "Print help for the subcommand(s)"]⟩]

end Help

def HelpPage.content : HelpPage → Help.Content
  | .overview => Help.overview
  | .disasm => Help.disasm
  | .inspect => Help.inspect
  | .help => Help.help

def HelpPage.text (styled : Bool) (page : HelpPage) : String :=
  Text.unlines (page.content.lines styled)

def versionText : String := "fastaccess 0.1.0\n"

end OrdinalDispatch.CommandLine

import OrdinalDispatch.Settings.Basic
import OrdinalDispatch.Text.Digits

/-!
Contract: settings from a flat TOML table.

Owns: the part of TOML that such a table can use: comments, bare and quoted
keys, integers, truth values and the four forms of strings.

Does not own: the rest of TOML. Every setting is an integer, a truth value or a
string, and no other key is known, so a document with a header, a dotted key or
a value of another kind is refused as much as one that is not TOML at all.

Readers take the characters ahead and answer what they read together with the
characters behind it.
-/

set_option autoImplicit false

namespace OrdinalDispatch.Settings.Table

inductive Scalar where
  | integer (value : Int)
  | flag (value : Bool)
  | text (value : String)
deriving DecidableEq, Repr

/-- TOML's blanks within a line. -/
def isBlank (character : Char) : Bool := character == ' ' || character == '\t'

/-- The characters of comments and strings: no controls but the tabulator. -/
def isVisible (character : Char) : Bool :=
  character == '\t' || (0x20 ≤ character.toNat && character.toNat != 0x7F)

/-- Drops a line end, if there is one ahead. -/
def lineEnd? : List Char → Option (List Char)
  | '\n' :: rest => some rest
  | '\r' :: '\n' :: rest => some rest
  | _ => none

def letterEscape? : Char → Option Char
  | 'b' => some '\x08'
  | 't' => some '\t'
  | 'n' => some '\n'
  | 'f' => some '\x0c'
  | 'r' => some '\r'
  | '"' => some '"'
  | '\\' => some '\\'
  | _ => none

/-- The character of a code point, which must not be a surrogate. -/
def scalarValue? (digits : List Char) : Option Char :=
  (Text.numeral? 16 digits).bind fun codePoint =>
    if codePoint.isValidChar then some (Char.ofNat codePoint) else none

/-- The character that an escape stands for; the backslash is behind already. -/
def escape? : List Char → Option (Char × List Char)
  | 'u' :: a :: b :: c :: d :: rest =>
      (scalarValue? [a, b, c, d]).map fun character => (character, rest)
  | 'U' :: a :: b :: c :: d :: e :: f :: g :: h :: rest =>
      (scalarValue? [a, b, c, d, e, f, g, h]).map fun character => (character, rest)
  | letter :: rest => (letterEscape? letter).map fun character => (character, rest)
  | [] => none

/-- The rest of a one-line string between double quotation marks. -/
def basicString? : (fuel : Nat) → List Char → List Char → Option (String × List Char)
  | 0, _, _ => none
  | fuel + 1, reversed, ahead =>
      match ahead with
      | [] => none
      | '"' :: rest => some (String.ofList reversed.reverse, rest)
      | '\\' :: rest =>
          (escape? rest).bind fun (character, rest) =>
            basicString? fuel (character :: reversed) rest
      | character :: rest =>
          if isVisible character then basicString? fuel (character :: reversed) rest else none

/-- The rest of a one-line string between single quotation marks. -/
def literalString? : List Char → List Char → Option (String × List Char)
  | _, [] => none
  | reversed, '\x27' :: rest => some (String.ofList reversed.reverse, rest)
  | reversed, character :: rest =>
      if isVisible character then literalString? (character :: reversed) rest else none

/-- The end of a string of several lines: three marks, behind up to two that belong to it. -/
def tripleEnd? (mark : Char) (reversed ahead : List Char) : Option (String × List Char) :=
  let marks := (ahead.takeWhile (· == mark)).length
  if 3 ≤ marks then
    let kept := min (marks - 3) 2
    some (String.ofList (List.replicate kept mark ++ reversed).reverse, ahead.drop (kept + 3))
  else none

def skipBlankLines : List Char → List Char
  | ' ' :: rest => skipBlankLines rest
  | '\t' :: rest => skipBlankLines rest
  | '\n' :: rest => skipBlankLines rest
  | '\r' :: '\n' :: rest => skipBlankLines rest
  | ahead => ahead

/-- The rest of a string of several lines. Line ends become line feeds. Between double marks there
are escapes, and a backslash at the end of a line drops it with the blanks that follow. -/
def multilineString? (mark : Char) (escapes : Bool) :
    (fuel : Nat) → List Char → List Char → Option (String × List Char)
  | 0, _, _ => none
  | fuel + 1, reversed, ahead =>
      match tripleEnd? mark reversed ahead with
      | some found => some found
      | none =>
          match ahead with
          | [] => none
          | '\n' :: rest => multilineString? mark escapes fuel ('\n' :: reversed) rest
          | '\r' :: '\n' :: rest => multilineString? mark escapes fuel ('\n' :: reversed) rest
          | character :: rest =>
              if escapes && character == '\\' then
                match lineEnd? (rest.dropWhile isBlank) with
                | some next => multilineString? mark escapes fuel reversed (skipBlankLines next)
                | none =>
                    (escape? rest).bind fun (character, rest) =>
                      multilineString? mark escapes fuel (character :: reversed) rest
              else if isVisible character then
                multilineString? mark escapes fuel (character :: reversed) rest
              else none

/-- Drops one line end at the start of a string of several lines. -/
def skipFirstLineEnd (ahead : List Char) : List Char := (lineEnd? ahead).getD ahead

/-- A string on one line, as a key may be quoted. -/
def lineString? : List Char → Option (String × List Char)
  | '"' :: rest => basicString? (rest.length + 1) [] rest
  | '\x27' :: rest => literalString? [] rest
  | _ => none

/-- A string in any of its four forms. -/
def string? : List Char → Option (String × List Char)
  | '"' :: '"' :: '"' :: rest =>
      multilineString? '"' true (rest.length + 1) [] (skipFirstLineEnd rest)
  | '\x27' :: '\x27' :: '\x27' :: rest =>
      multilineString? '\x27' false (rest.length + 1) [] (skipFirstLineEnd rest)
  | ahead => lineString? ahead

/-- The digits of a numeral whose underscores each stand between two digits. -/
def ungrouped? : List Char → Option (List Char)
  | [] => some []
  | ['_'] => none
  | '_' :: '_' :: _ => none
  | '_' :: rest => ungrouped? rest
  | digit :: rest => (ungrouped? rest).map (digit :: ·)

def grouped? (base : Nat) (characters : List Char) : Option Nat :=
  match characters with
  | '_' :: _ => none
  | all => (ungrouped? all).bind (Text.numeral? base)

/-- A decimal numeral has no needless zero in front. -/
def decimal? (characters : List Char) : Option Nat :=
  match characters with
  | '0' :: _ :: _ => none
  | all => grouped? 10 all

/-- The value of an integer: a decimal one with an optional sign, or one with a base before it and
no sign. Integers are 64-bit words. -/
def integer? (characters : List Char) : Option Int :=
  let value : Option Int :=
    match characters with
    | '+' :: digits => (decimal? digits).map Int.ofNat
    | '-' :: digits => (decimal? digits).map fun magnitude => -Int.ofNat magnitude
    | '0' :: 'x' :: digits => (grouped? 16 digits).map Int.ofNat
    | '0' :: 'o' :: digits => (grouped? 8 digits).map Int.ofNat
    | '0' :: 'b' :: digits => (grouped? 2 digits).map Int.ofNat
    | digits => (decimal? digits).map Int.ofNat
  value.filter fun value => Int64.minValue.toInt ≤ value && value ≤ Int64.maxValue.toInt

/-- The characters of words and bare keys. -/
def isWordCharacter (character : Char) : Bool :=
  character.isAlphanum || character == '_' || character == '-'

def scalar? (ahead : List Char) : Option (Scalar × List Char) :=
  match string? ahead with
  | some (text, rest) => some (.text text, rest)
  | none =>
      let isPart (character : Char) : Bool := isWordCharacter character || character == '+'
      let word := ahead.takeWhile isPart
      let rest := ahead.dropWhile isPart
      if word = "true".toList then some (.flag true, rest)
      else if word = "false".toList then some (.flag false, rest)
      else (integer? word).map fun value => (.integer value, rest)

/-- A key, bare or quoted. -/
def key? (ahead : List Char) : Option (String × List Char) :=
  match lineString? ahead with
  | some found => some found
  | none =>
      match ahead.takeWhile isWordCharacter with
      | [] => none
      | word => some (String.ofList word, ahead.dropWhile isWordCharacter)

/-- Drops the end of a line: blanks, a comment, and the line end or the end of the document. -/
def restOfLine? (ahead : List Char) : Option (List Char) :=
  let afterComment :=
    match ahead.dropWhile isBlank with
    | '#' :: comment => comment.dropWhile isVisible
    | other => other
  match afterComment with
  | [] => some []
  | other => lineEnd? other

/-- One line's key and value, if the line has them, and the lines behind it. -/
def entry? (ahead : List Char) : Option (Option (String × Scalar) × List Char) :=
  match restOfLine? ahead with
  | some rest => some (none, rest)
  | none => do
      let (key, afterKey) ← key? (ahead.dropWhile isBlank)
      match afterKey.dropWhile isBlank with
      | '=' :: afterSign =>
          let (value, afterValue) ← scalar? (afterSign.dropWhile isBlank)
          return (some (key, value), ← restOfLine? afterValue)
      | _ => none

/-- All keys and values in order. Each line takes a character at least, so `fuel` need not exceed
the number of characters. -/
def entries? : (fuel : Nat) → List Char → Option (List (String × Scalar))
  | _, [] => some []
  | 0, _ :: _ => none
  | fuel + 1, ahead => do
      let (found, rest) ← entry? ahead
      return found.toList ++ (← entries? fuel rest)

/-- One entry among the settings read so far. -/
def withEntry? (settings : Settings) : String × Scalar → Option Settings
  | ("generation_threshold", .integer (.ofNat value)) =>
      some { settings with generationThreshold := value }
  | ("trace_enabled", .flag value) => some { settings with traceEnabled := value }
  | ("trace_dir", .text value) => some { settings with traceDirectory := some value }
  | _ => none

/-- Settings from a document; no key comes twice. A byte order mark ahead is dropped. -/
def settings? (document : String) : Option Settings := do
  let characters :=
    match document.toList with
    | '\ufeff' :: rest => rest
    | all => all
  let entries ← entries? characters.length characters
  if (entries.map (·.1)).Nodup then entries.foldlM withEntry? {} else none

end OrdinalDispatch.Settings.Table

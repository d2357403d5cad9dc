import OrdinalDispatch.Json.Value
import OrdinalDispatch.Text.Digits

/-!
Contract: JSON text to JSON values, strictly by the grammar.

Owns: the tokens, their text, and the assembly of tokens into one value.

Does not own: any limit on depth; an open array or object waits on a list, so
deep texts need no deep recursion.

The text is cut into tokens first. Where two tokens may meet is left to the
second stage, which accepts a token only where the grammar expects it.
-/

set_option autoImplicit false

namespace OrdinalDispatch.Json

inductive Token where
  | openArray
  | closeArray
  | openObject
  | closeObject
  | comma
  | colon
  | scalar (value : Json)
deriving Repr

namespace Token

/-- A string under way: its characters so far, last one first; a leading surrogate that waits for
its partner; and whether all surrogates so far were paired. -/
structure Draft where
  reversed : List Char := []
  leading : Option Nat := none
  paired : Bool := true

namespace Draft

/-- Adds a character; a waiting surrogate stays alone for good. -/
def push (draft : Draft) (character : Char) : Draft :=
  { reversed := character :: draft.reversed
    leading := none
    paired := draft.paired && draft.leading.isNone }

def pushUnit (draft : Draft) (unit : Nat) : Draft :=
  if 0xD800 ≤ unit ∧ unit < 0xDC00 then
    { draft with leading := some unit, paired := draft.paired && draft.leading.isNone }
  else if 0xDC00 ≤ unit ∧ unit < 0xE000 then
    match draft.leading with
    | some leading =>
        { draft with
          reversed := Char.ofNat (0x10000 + (leading - 0xD800) * 0x400 + (unit - 0xDC00))
            :: draft.reversed
          leading := none }
    | none => { draft with paired := false }
  else draft.push (Char.ofNat unit)

def finish (draft : Draft) : Json :=
  if draft.paired && draft.leading.isNone then .text (String.ofList draft.reversed.reverse)
  else .unpaired

end Draft

/-- The rest of a string after its opening mark, and what follows the closing mark. -/
def string? : Draft → List Char → Option (Json × List Char)
  | _, [] => none
  | draft, '"' :: rest => some (draft.finish, rest)
  | draft, '\\' :: 'u' :: a :: b :: c :: d :: rest =>
      match Text.numeral? 16 [a, b, c, d] with
      | some unit => string? (draft.pushUnit unit) rest
      | none => none
  | draft, '\\' :: escape :: rest =>
      match escape with
      | '"' => string? (draft.push '"') rest
      | '\\' => string? (draft.push '\\') rest
      | '/' => string? (draft.push '/') rest
      | 'b' => string? (draft.push '\x08') rest
      | 'f' => string? (draft.push '\x0c') rest
      | 'n' => string? (draft.push '\n') rest
      | 'r' => string? (draft.push '\r') rest
      | 't' => string? (draft.push '\t') rest
      | _ => none
  | draft, character :: rest =>
      if character.toNat < 0x20 || character == '\\' then none
      else string? (draft.push character) rest

/-- The leading digits of a text and what follows them. -/
def digits (characters : List Char) : List Char × List Char :=
  (characters.takeWhile Char.isDigit, characters.dropWhile Char.isDigit)

/-- The whole part of a numeral: no digit may follow a leading zero. -/
def wholePart? (characters : List Char) : Option (List Char × List Char) :=
  match digits characters with
  | ([], _) => none
  | ('0' :: _ :: _, _) => none
  | (whole, rest) => some (whole, rest)

/-- An optional part of a numeral: after `mark`, and an optional sign where one is allowed, at
least one digit must follow. -/
def part? (isMark : Char → Bool) (signs : Bool) (characters : List Char) :
    Option (List Char × List Char) :=
  match characters with
  | [] => some ([], [])
  | mark :: rest =>
      if isMark mark then
        let (sign, afterSign) :=
          match rest with
          | sign :: afterSign =>
              if signs && (sign == '+' || sign == '-') then ([sign], afterSign) else ([], rest)
          | [] => ([], rest)
        match digits afterSign with
        | ([], _) => none
        | (found, after) => some (mark :: sign ++ found, after)
      else some ([], characters)

/-- A numeral and what follows it. -/
def number? (negative : Bool) (characters : List Char) : Option (Json × List Char) := do
  let (whole, afterWhole) ← wholePart? characters
  let (fraction, afterFraction) ← part? (· == '.') false afterWhole
  let (exponent, rest) ← part? (fun mark => mark == 'e' || mark == 'E') true afterFraction
  let value ← Text.numeral? 10 whole
  if fraction.isEmpty && exponent.isEmpty && !(negative && value == 0) then
    return (.integer (if negative then -(value : Int) else value), rest)
  else
    let sign := if negative then ['-'] else []
    return (.decimal (String.ofList (sign ++ whole ++ fraction ++ exponent)), rest)

/-- The next token of a text that starts with one, and what follows it. -/
def next? : List Char → Option (Token × List Char)
  | '[' :: rest => some (.openArray, rest)
  | ']' :: rest => some (.closeArray, rest)
  | '\x7b' :: rest => some (.openObject, rest)
  | '\x7d' :: rest => some (.closeObject, rest)
  | ',' :: rest => some (.comma, rest)
  | ':' :: rest => some (.colon, rest)
  | 'n' :: 'u' :: 'l' :: 'l' :: rest => some (.scalar .null, rest)
  | 't' :: 'r' :: 'u' :: 'e' :: rest => some (.scalar (.bool true), rest)
  | 'f' :: 'a' :: 'l' :: 's' :: 'e' :: rest => some (.scalar (.bool false), rest)
  | '"' :: rest => (string? {} rest).map fun (value, after) => (.scalar value, after)
  | '-' :: rest => (number? true rest).map fun (value, after) => (.scalar value, after)
  | characters => (number? false characters).map fun (value, after) => (.scalar value, after)

/-- JSON's blanks. -/
def isBlank (character : Char) : Bool :=
  character == ' ' || character == '\n' || character == '\t' || character == '\r'

/-- Cuts a text into tokens. A token takes at least one character, so `fuel` need not exceed the
number of characters. -/
def scan : (fuel : Nat) → Array Token → List Char → Option (Array Token)
  | 0, tokens, rest => if rest.all isBlank then some tokens else none
  | fuel + 1, tokens, characters =>
      match characters.dropWhile isBlank with
      | [] => some tokens
      | rest =>
          match next? rest with
          | some (token, after) => scan fuel (tokens.push token) after
          | none => none

end Token

/-- An array or object that is still open: its members so far, last one first. -/
inductive Open where
  | array (reversed : List Json)
  | object (reversed : List (String × Json)) (readable : Bool) (key : Option String)

/-- What the grammar expects next. `first` marks the place right behind an opening bracket, where
the closing one may follow. -/
inductive Expected where
  | value (first : Bool)
  | key (first : Bool)
  | colon
  | separator

/-- Puts a finished value into the innermost open array or object. -/
def Open.put (value : Json) : Open → Open
  | .array reversed => .array (value :: reversed)
  | .object reversed readable (some key) => .object ((key, value) :: reversed) readable none
  | .object reversed _ none => .object reversed false none

/-- The value of a closed array or object; one with an unreadable key is unreadable. -/
def Open.close : Open → Json
  | .array reversed => .array reversed.reverse
  | .object reversed readable _ =>
      if readable then .object reversed.reverse else .unpaired

/-- Assembles one value from tokens. `open` lists what is still open, innermost first. -/
def assemble : List Open → Expected → List Token → Option Json
  | _, _, [] => none
  | outer, .value _, .openArray :: tokens => assemble (.array [] :: outer) (.value true) tokens
  | outer, .value _, .openObject :: tokens =>
      assemble (.object [] true none :: outer) (.key true) tokens
  | [], .value _, [.scalar value] => some value
  | [], .value _, .scalar _ :: _ => none
  | inner :: outer, .value _, .scalar value :: tokens =>
      assemble (inner.put value :: outer) .separator tokens
  | .object reversed readable _ :: outer, .key _, .scalar (.text key) :: tokens =>
      assemble (.object reversed readable (some key) :: outer) .colon tokens
  | .object reversed _ _ :: outer, .key _, .scalar .unpaired :: tokens =>
      assemble (.object reversed false none :: outer) .colon tokens
  | outer, .colon, .colon :: tokens => assemble outer (.value false) tokens
  | .array reversed :: outer, .separator, .comma :: tokens =>
      assemble (.array reversed :: outer) (.value false) tokens
  | .object reversed readable key :: outer, .separator, .comma :: tokens =>
      assemble (.object reversed readable key :: outer) (.key false) tokens
  | inner :: outer, expected, closing :: tokens =>
      let closes : Bool :=
        match inner, expected, closing with
        | .array _, .value true, .closeArray => true
        | .array _, .separator, .closeArray => true
        | .object .., .key true, .closeObject => true
        | .object .., .separator, .closeObject => true
        | _, _, _ => false
      if closes then
        match outer, tokens with
        | [], [] => some inner.close
        | [], _ :: _ => none
        | parent :: rest, tokens => assemble (parent.put inner.close :: rest) .separator tokens
      else none
  | [], _, _ :: _ => none

/-- Reads a text that holds exactly one value. -/
def parse? (text : String) : Option Json :=
  let characters := text.toList
  (Token.scan characters.length #[] characters).bind fun tokens =>
    assemble [] (.value false) tokens.toList

end OrdinalDispatch.Json

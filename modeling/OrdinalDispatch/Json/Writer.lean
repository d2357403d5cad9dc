import OrdinalDispatch.Json.Value
import OrdinalDispatch.Text.Digits

/-!
Contract: JSON values to JSON text in ASCII.

Owns: the escapes of strings, with characters beyond ASCII as UTF-16 units, and
the punctuation. No blank is written.

Does not own: the order of an object's members, which is the value's.
-/

set_option autoImplicit false

namespace OrdinalDispatch.Json

/-- An escaped UTF-16 unit. -/
def escapedUnit (unit : Nat) : String :=
  "\\u" ++ Text.hexadecimal 4 unit

def escapedCharacter (character : Char) : String :=
  let codePoint := character.toNat
  if character = '"' then "\\\""
  else if character = '\\' then "\\\\"
  else if 0x20 ≤ codePoint ∧ codePoint < 0x7F then character.toString
  else if codePoint < 0x10000 then escapedUnit codePoint
  else
    escapedUnit (0xD800 + (codePoint - 0x10000) / 0x400)
      ++ escapedUnit (0xDC00 + (codePoint - 0x10000) % 0x400)

def writtenText (content : String) : String :=
  content.foldl (fun written character => written ++ escapedCharacter character) "\"" ++ "\""

mutual

def writeTo (written : String) : Json → String
  | .null => written ++ "null"
  | .bool value => written ++ (if value then "true" else "false")
  | .integer value => written ++ toString value
  | .decimal numeral => written ++ numeral
  | .text content => written ++ writtenText content
  | .unpaired => written ++ "null"
  | .array items => writeItems (written ++ "[") true items ++ "]"
  | .object members => writeMembers (written ++ "\x7b") true members ++ "\x7d"

/-- Appends items with commas between them. -/
def writeItems (written : String) (first : Bool) : List Json → String
  | [] => written
  | item :: rest =>
      writeItems (writeTo (if first then written else written ++ ",") item) false rest

/-- Appends members with commas between them. -/
def writeMembers (written : String) (first : Bool) : List (String × Json) → String
  | [] => written
  | (key, value) :: rest =>
      let start := if first then written else written ++ ","
      writeMembers (writeTo (start ++ writtenText key ++ ":") value) false rest

end

def render (value : Json) : String := writeTo "" value

end OrdinalDispatch.Json

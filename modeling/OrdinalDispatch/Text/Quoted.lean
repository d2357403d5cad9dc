import OrdinalDispatch.Text.Digits
import OrdinalDispatch.Text.Unprintable

/-!
Contract: texts and characters as they appear between quotation marks in
messages, listings and traces.

Owns: the escapes. The mark in use and the backslash are escaped by a
backslash, the usual controls have letters, and every other unprintable
character is written by its code point in braces.

Does not own: JSON strings, whose escapes differ.
-/

set_option autoImplicit false

namespace OrdinalDispatch.Text.Quoted

/-- One character as written between two `mark`s. -/
def escape (mark character : Char) : List Char :=
  if character = '\x00' then ['\\', '0']
  else if character = '\t' then ['\\', 't']
  else if character = '\r' then ['\\', 'r']
  else if character = '\n' then ['\\', 'n']
  else if character = '\\' || character = mark then ['\\', character]
  else if Unprintable.isUnprintable character then
    '\\' :: 'u' :: '\x7b' :: (hexadecimal 1 character.toNat).toList ++ ['\x7d']
  else [character]

/-- Characters between two `mark`s. -/
def enclose (mark : Char) (characters : List Char) : String :=
  String.ofList (mark :: characters.flatMap (escape mark) ++ [mark])

/-- A text between double quotation marks. -/
def text (content : String) : String :=
  enclose '"' content.toList

/-- A character between single quotation marks. -/
def character (content : Char) : String :=
  enclose '\x27' [content]

end OrdinalDispatch.Text.Quoted

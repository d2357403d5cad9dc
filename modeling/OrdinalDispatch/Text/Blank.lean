/-!
Contract: the blank characters that surround a setting's value.

Owns: the Unicode `White_Space` property and the removal of blanks at both ends.

Does not own: the blanks of JSON and TOML, which are fewer.
-/

set_option autoImplicit false

namespace OrdinalDispatch.Text

/-- The characters with the `White_Space` property. -/
def isBlank (character : Char) : Bool :=
  let codePoint := character.toNat
  (0x09 ≤ codePoint && codePoint ≤ 0x0D) || codePoint == 0x20 || codePoint == 0x85
    || codePoint == 0xA0 || codePoint == 0x1680
    || (0x2000 ≤ codePoint && codePoint ≤ 0x200A)
    || codePoint == 0x2028 || codePoint == 0x2029 || codePoint == 0x202F
    || codePoint == 0x205F || codePoint == 0x3000

/-- What is left once the blanks at both ends are gone. -/
def trimBlanks (characters : List Char) : List Char :=
  ((characters.dropWhile isBlank).reverse.dropWhile isBlank).reverse

end OrdinalDispatch.Text

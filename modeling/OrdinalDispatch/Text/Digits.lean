/-!
Contract: numerals with a fixed base or a fixed width, and padding.

Owns: lower-case hexadecimal text, left padding with zeros, right padding with
blanks, and reading a run of digits in a base.

Does not own: the text of binary fractions, see `OrdinalDispatch.Number.Shortest`.
-/

set_option autoImplicit false

namespace OrdinalDispatch.Text

/-- Lower-case hexadecimal digits, at least `width` of them. -/
def hexadecimal (width value : Nat) : String :=
  let digits := Nat.toDigits 16 value
  String.ofList (List.replicate (width - digits.length) '0' ++ digits)

/-- Blanks are added on the right up to `width` characters. -/
def padRight (width : Nat) (text : String) : String :=
  text ++ String.ofList (List.replicate (width - text.length) ' ')

/-- The value of an ASCII digit in a base up to sixteen, letters in either case. -/
def digit? (base : Nat) (character : Char) : Option Nat :=
  let value :=
    if character.isDigit then some (character.toNat - '0'.toNat)
    else if 'a' ≤ character ∧ character ≤ 'f' then some (character.toNat - 'a'.toNat + 10)
    else if 'A' ≤ character ∧ character ≤ 'F' then some (character.toNat - 'A'.toNat + 10)
    else none
  value.filter (· < base)

/-- Reads a run of digits, most significant first; a foreign character or no digit at all fails. -/
def numeral? (base : Nat) (characters : List Char) : Option Nat :=
  if characters.isEmpty then none
  else
    characters.foldlM (m := Option) (fun total character =>
      (digit? base character).map fun value => total * base + value) 0

end OrdinalDispatch.Text

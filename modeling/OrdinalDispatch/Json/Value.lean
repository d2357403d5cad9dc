/-!
Contract: JSON values as a description is read from them.

Owns: the values, and the one view of a record through which all records are
read: an object looked up by key, or an array taken by position.

Does not own: JSON text, see `OrdinalDispatch.Json.Reader` and
`OrdinalDispatch.Json.Writer`.

Members of an object keep their order and may repeat a key, since only the
reader of a record knows which keys matter to it. A number counts as an integer
only when its text is a plain integer; every other numeral, `-0` among them, is
kept as its text. A string whose escapes leave a surrogate unpaired denotes no
text; it is well formed where nobody reads it, so it is a value of its own kind,
and an object with such a key likewise.
-/

set_option autoImplicit false

namespace OrdinalDispatch

inductive Json where
  | null
  | bool (value : Bool)
  | integer (value : Int)
  | decimal (numeral : String)
  | text (content : String)
  | unpaired
  | array (items : List Json)
  | object (members : List (String × Json))
deriving Repr, BEq, Inhabited

namespace Json

/-- What an object holds under a key: nothing, one value, or a forbidden repetition. -/
inductive Lookup where
  | absent
  | found (value : Json)
  | repeated
deriving Repr

/-- All values under a key decide. -/
def lookup (key : String) (members : List (String × Json)) : Lookup :=
  match members.filter fun member => member.1 == key with
  | [] => .absent
  | [member] => .found member.2
  | _ => .repeated

/-- The fields of a record in the order of `keys`, each absent or present. An object may hold
other keys but no known key twice; an array holds the leading fields in order and no more. -/
def fields? (keys : List String) : Json → Option (List (Option Json))
  | .object members =>
      keys.mapM fun key =>
        match lookup key members with
        | .absent => some none
        | .found value => some (some value)
        | .repeated => none
  | .array items =>
      if items.length ≤ keys.length then
        some (items.map some ++ List.replicate (keys.length - items.length) none)
      else none
  | _ => none

def required {α : Type} (read : Json → Option α) (field : Option Json) : Option α :=
  field.bind read

/-- A field that stands for `default` when absent. -/
def optional {α : Type} (default : α) (read : Json → Option α) : Option Json → Option α
  | none => some default
  | some value => read value

def bool? : Json → Option Bool
  | .bool value => some value
  | _ => none

def text? : Json → Option String
  | .text content => some content
  | _ => none

def word? : Json → Option UInt32
  | .integer (.ofNat value) => if value < UInt32.size then some (UInt32.ofNat value) else none
  | _ => none

/-- A list whose items are all readable. -/
def list? {α : Type} (read : Json → Option α) : Json → Option (List α)
  | .array items => items.mapM read
  | _ => none

end Json

end OrdinalDispatch

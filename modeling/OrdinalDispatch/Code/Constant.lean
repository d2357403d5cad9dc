import Std.Data.HashMap
import OrdinalDispatch.Schema.Member
import OrdinalDispatch.Text.Quoted

/-!
Contract: the constants that instructions refer to, and the pool that holds each
of them once.

Owns: the kinds of constants, their two texts, and interning.

Does not own: what a reference to a member is linked to, see
`OrdinalDispatch.Machine.Linkage`.
-/

set_option autoImplicit false

namespace OrdinalDispatch.Code

/-- A constant. Members are named by their ordinal together with the signature they had when the
code was assembled. -/
inductive Constant where
  | message (text : String)
  | arityTable (arities : List UInt16)
  | classRef (target : ClassId)
  | constructor (ordinal : UInt32) (parameters : List ValueType)
  | method (ordinal : UInt32) (name : String) (parameters : List ValueType)
      (returnType : ValueType) (kind : CallKind)
  | field (ordinal : UInt32) (name : String) (valueType : ValueType) (isStatic : Bool)
deriving DecidableEq, Repr, Hashable

namespace Constant

def listing : Constant → String
  | .message text => Text.Quoted.text text
  | .arityTable arities =>
      "arity [" ++ String.intercalate ", " (arities.map fun arity => toString arity.toNat) ++ "]"
  | .classRef target => "class " ++ target.text
  | .constructor ordinal parameters =>
      "ctor[" ++ toString ordinal.toNat ++ "](" ++ ValueType.listText parameters ++ ")"
  | .method ordinal name parameters returnType kind =>
      "method[" ++ toString ordinal.toNat ++ "] " ++ name ++ "(" ++ ValueType.listText parameters
        ++ ") -> " ++ returnType.text ++ " [" ++ kind.mnemonic ++ "]"
  | .field ordinal name valueType isStatic =>
      "field[" ++ toString ordinal.toNat ++ "] " ++ (if isStatic then "static " else "") ++ name
        ++ ": " ++ valueType.text

def capitalized (text : String) : String :=
  match text.toList with
  | [] => ""
  | first :: rest => String.ofList (first.toUpper :: rest)

/-- A class by its structure. -/
def structureOfClass (classId : ClassId) : String :=
  "ClassId(" ++ toString classId.number.toNat ++ ")"

def structureOfType : ValueType → String
  | .reference target => "Reference(" ++ structureOfClass target ++ ")"
  | plain => capitalized plain.text

def bracketed (items : List String) : String :=
  "[" ++ String.intercalate ", " items ++ "]"

def record (name : String) (fields : List (String × String)) : String :=
  name ++ " \x7b " ++ String.intercalate ", " (fields.map fun field => field.1 ++ ": " ++ field.2)
    ++ " \x7d"

def structureOfKind : CallKind → String
  | .static => "Static"
  | .special => "Special"
  | .virtual => "Virtual"
  | .interface => "Interface"

/-- The text of a constant by its structure, as verification reports it. -/
def structureText : Constant → String
  | .message text => "Message(" ++ Text.Quoted.text text ++ ")"
  | .arityTable arities =>
      "ArityTable(" ++ bracketed (arities.map fun arity => toString arity.toNat) ++ ")"
  | .classRef target => "Class(" ++ structureOfClass target ++ ")"
  | .constructor ordinal parameters =>
      record "Constructor"
        [("ordinal", toString ordinal.toNat),
          ("parameters", bracketed (parameters.map structureOfType))]
  | .method ordinal name parameters returnType kind =>
      record "Method"
        [("ordinal", toString ordinal.toNat),
          ("name", Text.Quoted.text name),
          ("parameters", bracketed (parameters.map structureOfType)),
          ("return_type", structureOfType returnType),
          ("kind", structureOfKind kind)]
  | .field ordinal name valueType isStatic =>
      record "Field"
        [("ordinal", toString ordinal.toNat),
          ("name", Text.Quoted.text name),
          ("value_type", structureOfType valueType),
          ("is_static", if isStatic then "true" else "false")]

end Constant

/-- The constants of a code in order, each with its place. -/
structure ConstantPool where
  entries : Array Constant := #[]
  places : Std.HashMap Constant Nat := ∅

namespace ConstantPool

/-- The count of entries that 16-bit indices can name. -/
def capacity : Nat := UInt16.size

/-- The place of a constant, which is added unless it is there already; a full pool takes no new
one. -/
def intern (pool : ConstantPool) (constant : Constant) : Option UInt16 × ConstantPool :=
  match pool.places[constant]? with
  | some place => (some (UInt16.ofNat place), pool)
  | none =>
      let place := pool.entries.size
      if place < capacity then
        (some (UInt16.ofNat place),
          { entries := pool.entries.push constant, places := pool.places.insert constant place })
      else (none, pool)

end ConstantPool

end OrdinalDispatch.Code

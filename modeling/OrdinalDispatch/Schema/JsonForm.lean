import OrdinalDispatch.Json.Value
import OrdinalDispatch.Schema.Member

/-!
Contract: the JSON form of descriptions, written and read.

Owns: the names of fields and variants, which fields may be missing, and what a
missing one stands for.

Does not own: JSON text.

Every field is written. In reading, a record is an object or the array of its
fields, a missing list is empty, missing modifiers are the default ones, and a
variant without a payload may be its name or an object from its name to null.
-/

set_option autoImplicit false

namespace OrdinalDispatch

/-- The name of a variant without a payload, in either of its two forms. -/
def Json.variant? : Json → Option String
  | .text name => some name
  | .object [(name, .null)] => some name
  | _ => none

namespace ClassId

def toJson (classId : ClassId) : Json := .integer classId.number.toNat

def ofJson? (json : Json) : Option ClassId := json.word?.map fun number => ⟨number⟩

end ClassId

namespace ValueType

/-- The types without a payload. -/
def plain : List ValueType := .void :: Primitive.all.map .primitive

def toJson : ValueType → Json
  | .reference target => .object [("reference", target.toJson)]
  | plain => .text plain.text

def ofJson? : Json → Option ValueType
  | .object [("reference", target)] => (ClassId.ofJson? target).map .reference
  | json => json.variant?.bind fun name => plain.find? fun candidate => candidate.text == name

end ValueType

namespace Visibility

def text : Visibility → String
  | .everywhere => "public"
  | .subclasses => "protected"
  | .declaringType => "private"

def toJson (visibility : Visibility) : Json := .text visibility.text

def ofJson? (json : Json) : Option Visibility :=
  json.variant?.bind fun name =>
    [Visibility.everywhere, .subclasses, .declaringType].find? fun candidate =>
      candidate.text == name

end Visibility

namespace Modifiers

def keys : List String := ["visibility", "is_static", "is_final", "is_abstract"]

def toJson (modifiers : Modifiers) : Json :=
  .object
    [("visibility", modifiers.visibility.toJson),
      ("is_static", .bool modifiers.isStatic),
      ("is_final", .bool modifiers.isFinal),
      ("is_abstract", .bool modifiers.isAbstract)]

/-- Reads modifiers; every field may be missing. -/
def ofJson? (json : Json) : Option Modifiers :=
  match json.fields? keys with
  | some [visibility, isStatic, isFinal, isAbstract] => do
      return {
        visibility := ← Json.optional .everywhere Visibility.ofJson? visibility
        isStatic := ← Json.optional false Json.bool? isStatic
        isFinal := ← Json.optional false Json.bool? isFinal
        isAbstract := ← Json.optional false Json.bool? isAbstract }
  | _ => none

end Modifiers

def ValueType.listToJson (types : List ValueType) : Json := .array (types.map ValueType.toJson)

namespace ConstructorDescription

def keys : List String := ["parameters", "modifiers"]

def toJson (constructor : ConstructorDescription) : Json :=
  .object
    [("parameters", ValueType.listToJson constructor.parameters),
      ("modifiers", constructor.modifiers.toJson)]

/-- Reads a constructor; both fields may be missing. -/
def ofJson? (json : Json) : Option ConstructorDescription :=
  match json.fields? keys with
  | some [parameters, modifiers] => do
      return {
        parameters := ← Json.optional [] (Json.list? ValueType.ofJson?) parameters
        modifiers := ← Json.optional {} Modifiers.ofJson? modifiers }
  | _ => none

end ConstructorDescription

namespace MethodDescription

def keys : List String :=
  ["name", "parameters", "return_type", "declaring_class", "declaring_is_interface", "modifiers"]

def toJson (method : MethodDescription) : Json :=
  .object
    [("name", .text method.name),
      ("parameters", ValueType.listToJson method.parameters),
      ("return_type", method.returnType.toJson),
      ("declaring_class", method.declaringClass.toJson),
      ("declaring_is_interface", .bool method.declaringIsInterface),
      ("modifiers", method.modifiers.toJson)]

/-- Reads a method; the name, the result and the declaring class must be there. -/
def ofJson? (json : Json) : Option MethodDescription :=
  match json.fields? keys with
  | some [name, parameters, returnType, declaringClass, declaringIsInterface, modifiers] => do
      return {
        name := ← Json.required Json.text? name
        parameters := ← Json.optional [] (Json.list? ValueType.ofJson?) parameters
        returnType := ← Json.required ValueType.ofJson? returnType
        declaringClass := ← Json.required ClassId.ofJson? declaringClass
        declaringIsInterface := ← Json.optional false Json.bool? declaringIsInterface
        modifiers := ← Json.optional {} Modifiers.ofJson? modifiers }
  | _ => none

end MethodDescription

namespace FieldDescription

def keys : List String := ["name", "value_type", "declaring_class", "modifiers"]

def toJson (field : FieldDescription) : Json :=
  .object
    [("name", .text field.name),
      ("value_type", field.valueType.toJson),
      ("declaring_class", field.declaringClass.toJson),
      ("modifiers", field.modifiers.toJson)]

/-- Reads a field; all but the modifiers must be there. -/
def ofJson? (json : Json) : Option FieldDescription :=
  match json.fields? keys with
  | some [name, valueType, declaringClass, modifiers] => do
      return {
        name := ← Json.required Json.text? name
        valueType := ← Json.required ValueType.ofJson? valueType
        declaringClass := ← Json.required ClassId.ofJson? declaringClass
        modifiers := ← Json.optional {} Modifiers.ofJson? modifiers }
  | _ => none

end FieldDescription

namespace TypeDescription

def keys : List String := ["class", "name", "constructors", "methods", "fields"]

def toJson (description : TypeDescription) : Json :=
  .object
    [("class", description.classId.toJson),
      ("name", .text description.name),
      ("constructors", .array (description.constructors.map ConstructorDescription.toJson)),
      ("methods", .array (description.methods.map MethodDescription.toJson)),
      ("fields", .array (description.fields.map FieldDescription.toJson))]

/-- Reads a type; the class and the name must be there. -/
def ofJson? (json : Json) : Option TypeDescription :=
  match json.fields? keys with
  | some [classId, name, constructors, methods, fields] => do
      return {
        classId := ← Json.required ClassId.ofJson? classId
        name := ← Json.required Json.text? name
        constructors :=
          ← Json.optional [] (Json.list? ConstructorDescription.ofJson?) constructors
        methods := ← Json.optional [] (Json.list? MethodDescription.ofJson?) methods
        fields := ← Json.optional [] (Json.list? FieldDescription.ofJson?) fields }
  | _ => none

end TypeDescription

end OrdinalDispatch

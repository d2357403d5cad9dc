import OrdinalDispatch.Proofs.Schema.Records
import OrdinalDispatch.Schema.JsonForm

/-!
Contract: a description is read back from every form it may be written in.

Owns: the forms of each record and variant of a description, and what is read
from them.

Does not own: JSON text.

Every record is read by a condition on each of its fields, so all that is shown
for one of them is which conditions these are, that they ignore the rewriting of
their fields, and that they fail where a required field is dropped.
-/

set_option autoImplicit false

namespace OrdinalDispatch

open Json

/-- A variant without a payload may be written as an object from its name to null. -/
inductive Json.VariantRewriting : Rewriting where
  | asObject (name : String) : VariantRewriting (.text name) (.object [(name, .null)])

/-! ## Variants and classes -/

theorem ClassId.ofJson?_toJson (classId : ClassId) : ofJson? classId.toJson = some classId := by
  have small : classId.number.toNat < UInt32.size := classId.number.toNat_lt
  have read : Json.word? classId.toJson = some classId.number := by
    rw [ClassId.toJson, Json.word?.eq_def]
    simp [small]
  rw [ClassId.ofJson?, read]
  rfl

theorem ValueType.ofJson?_toJson (type : ValueType) : ofJson? type.toJson = some type := by
  cases type with
  | void => rfl
  | primitive kind => cases kind <;> rfl
  | reference target =>
      change (ClassId.ofJson? target.toJson).map ValueType.reference = _
      rw [ClassId.ofJson?_toJson]
      rfl

theorem ValueType.keeps : Keeps VariantRewriting ValueType.ofJson? := by
  rintro _ _ type ⟨name⟩ read
  by_cases payload : name = "reference"
  · subst payload
    cases read
  · rw [ofJson?.eq_def]
    split
    · simp_all
    · exact read

theorem Visibility.ofJson?_toJson (visibility : Visibility) :
    ofJson? visibility.toJson = some visibility := by
  cases visibility <;> rfl

theorem Visibility.keeps : Keeps VariantRewriting Visibility.ofJson? := by
  rintro _ _ visibility ⟨name⟩ read
  exact read

/-! ## What is read from different values -/

theorem Json.text_apart_list {Item : Type} {read : Json → Option Item} :
    Apart Json.text? (Json.list? read) := by
  intro json text items isText isList
  cases json <;> simp_all [Json.text?, Json.list?]

theorem ValueType.apart_classId : Apart ValueType.ofJson? ClassId.ofJson? := by
  intro json type classId isType isClass
  cases json <;> simp_all [ValueType.ofJson?, Json.variant?, ClassId.ofJson?, Json.word?]

theorem ClassId.apart_bool : Apart ClassId.ofJson? Json.bool? := by
  intro json classId truth isClass isTruth
  cases json <;> simp_all [ClassId.ofJson?, Json.word?, Json.bool?]

theorem ClassId.apart_text : Apart ClassId.ofJson? Json.text? := by
  intro json classId text isClass isText
  cases json <;> simp_all [ClassId.ofJson?, Json.word?, Json.text?]

theorem ClassId.apart_modifiers : Apart ClassId.ofJson? Modifiers.ofJson? := by
  intro json classId modifiers isClass isModifiers
  cases json <;> simp_all [ClassId.ofJson?, Json.word?, Modifiers.ofJson?, Json.fields?]

/-! ## Modifiers -/

namespace Modifiers

/-- How the fields of modifiers are written. All of them may be left out. -/
def forms : List FieldForm :=
  [⟨"visibility", some Visibility.everywhere.toJson, VariantRewriting⟩,
    ⟨"is_static", some (.bool false), .never⟩,
    ⟨"is_final", some (.bool false), .never⟩,
    ⟨"is_abstract", some (.bool false), .never⟩]

/-- What the fields of modifiers are read as. -/
def conditions (modifiers : Modifiers) : List (Option Json → Prop) :=
  [fun field => Json.optional .everywhere Visibility.ofJson? field = some modifiers.visibility,
    fun field => Json.optional false Json.bool? field = some modifiers.isStatic,
    fun field => Json.optional false Json.bool? field = some modifiers.isFinal,
    fun field => Json.optional false Json.bool? field = some modifiers.isAbstract]

theorem keys_nodup : keys.Nodup := by decide

theorem ofJson?_eq_some_iff {json : Json} {modifiers : Modifiers} :
    ofJson? json = some modifiers ↔ Meets keys modifiers.conditions json := by
  constructor
  · intro read
    unfold ofJson? at read
    split at read
    · simp only [Option.bind_eq_bind, Option.bind_eq_some_iff, Option.pure_def,
        Option.some.injEq] at read
      obtain ⟨_, visibility, _, isStatic, _, isFinal, _, isAbstract, rfl⟩ := read
      exact ⟨_, ‹_›, .cons visibility (.cons isStatic (.cons isFinal (.cons isAbstract .nil)))⟩
    · cases read
  · intro ⟨_, isValues, .cons visibility (.cons isStatic (.cons isFinal (.cons isAbstract .nil)))⟩
    simp only [ofJson?, isValues, visibility, isStatic, isFinal, isAbstract]
    rfl

theorem keeps : Keeps (RecordRewriting forms) ofJson? :=
  .record forms keys_nodup ofJson?_eq_some_iff fun _ =>
    .cons (.optional Visibility.keeps rfl rfl) (.cons (.optional .never rfl rfl)
      (.cons (.optional .never rfl rfl) (.cons (.optional .never rfl rfl) .nil)))

theorem ofJson?_toJson (modifiers : Modifiers) : ofJson? modifiers.toJson = some modifiers := by
  rw [ofJson?_eq_some_iff]
  exact Meets.object_zip
    [modifiers.visibility.toJson, .bool modifiers.isStatic, .bool modifiers.isFinal,
      .bool modifiers.isAbstract] keys_nodup rfl
    (.cons (Visibility.ofJson?_toJson _) (.cons rfl (.cons rfl (.cons rfl .nil))))

end Modifiers

/-! ## Constructors -/

theorem ValueType.list_keeps :
    Keeps (InItem VariantRewriting) (Json.list? ValueType.ofJson?) := ValueType.keeps.inItem

theorem ValueType.list?_listToJson (types : List ValueType) :
    Json.list? ofJson? (listToJson types) = some types :=
  list?_array_map ofJson?_toJson types

namespace ConstructorDescription

/-- How the fields of a constructor are written. Both may be left out. -/
def forms : List FieldForm :=
  [⟨"parameters", some (ValueType.listToJson []), InItem VariantRewriting⟩,
    ⟨"modifiers", some (Modifiers.toJson {}), RecordRewriting Modifiers.forms⟩]

/-- What the fields of a constructor are read as. -/
def conditions (constructor : ConstructorDescription) : List (Option Json → Prop) :=
  [fun field => Json.optional [] (Json.list? ValueType.ofJson?) field =
      some constructor.parameters,
    fun field => Json.optional {} Modifiers.ofJson? field = some constructor.modifiers]

theorem keys_nodup : keys.Nodup := by decide

theorem ofJson?_eq_some_iff {json : Json} {constructor : ConstructorDescription} :
    ofJson? json = some constructor ↔ Meets keys constructor.conditions json := by
  constructor
  · intro read
    unfold ofJson? at read
    split at read
    · simp only [Option.bind_eq_bind, Option.bind_eq_some_iff, Option.pure_def,
        Option.some.injEq] at read
      obtain ⟨_, parameters, _, modifiers, rfl⟩ := read
      exact ⟨_, ‹_›, .cons parameters (.cons modifiers .nil)⟩
    · cases read
  · intro ⟨_, isValues, .cons parameters (.cons modifiers .nil)⟩
    simp only [ofJson?, isValues, parameters, modifiers]
    rfl

theorem keeps : Keeps (RecordRewriting forms) ofJson? :=
  .record forms keys_nodup ofJson?_eq_some_iff fun _ =>
    .cons (.optional ValueType.list_keeps rfl rfl) (.cons
      (.optional Modifiers.keeps rfl (Modifiers.ofJson?_toJson _)) .nil)

theorem ofJson?_toJson (constructor : ConstructorDescription) :
    ofJson? constructor.toJson = some constructor := by
  rw [ofJson?_eq_some_iff]
  exact Meets.object_zip
    [ValueType.listToJson constructor.parameters, constructor.modifiers.toJson]
    keys_nodup rfl
    (.cons (ValueType.list?_listToJson _) (.cons (Modifiers.ofJson?_toJson _) .nil))

end ConstructorDescription

/-! ## Methods -/

namespace MethodDescription

/-- How the fields of a method are written. -/
def forms : List FieldForm :=
  [⟨"name", none, .never⟩,
    ⟨"parameters", some (ValueType.listToJson []), InItem VariantRewriting⟩,
    ⟨"return_type", none, VariantRewriting⟩,
    ⟨"declaring_class", none, .never⟩,
    ⟨"declaring_is_interface", some (.bool false), .never⟩,
    ⟨"modifiers", some (Modifiers.toJson {}), RecordRewriting Modifiers.forms⟩]

/-- The fields of a method that must be there. -/
def required : List String := ["name", "return_type", "declaring_class"]

/-- What the fields of a method are read as. -/
def conditions (method : MethodDescription) : List (Option Json → Prop) :=
  [fun field => Json.required Json.text? field = some method.name,
    fun field => Json.optional [] (Json.list? ValueType.ofJson?) field = some method.parameters,
    fun field => Json.required ValueType.ofJson? field = some method.returnType,
    fun field => Json.required ClassId.ofJson? field = some method.declaringClass,
    fun field => Json.optional false Json.bool? field = some method.declaringIsInterface,
    fun field => Json.optional {} Modifiers.ofJson? field = some method.modifiers]

theorem keys_nodup : keys.Nodup := by decide

theorem ofJson?_eq_some_iff {json : Json} {method : MethodDescription} :
    ofJson? json = some method ↔ Meets keys method.conditions json := by
  constructor
  · intro read
    unfold ofJson? at read
    split at read
    · simp only [Option.bind_eq_bind, Option.bind_eq_some_iff, Option.pure_def,
        Option.some.injEq] at read
      obtain ⟨_, name, _, parameters, _, returnType, _, declaringClass, _, isInterface, _,
        modifiers, rfl⟩ := read
      exact ⟨_, ‹_›, .cons name (.cons parameters (.cons returnType (.cons declaringClass
        (.cons isInterface (.cons modifiers .nil)))))⟩
    · cases read
  · intro ⟨_, isValues, .cons name (.cons parameters (.cons returnType (.cons declaringClass
      (.cons isInterface (.cons modifiers .nil)))))⟩
    simp only [ofJson?, isValues, name, parameters, returnType, declaringClass, isInterface,
      modifiers]
    rfl

theorem keeps : Keeps (RecordRewriting forms) ofJson? :=
  .record forms keys_nodup ofJson?_eq_some_iff fun _ =>
    .cons (.required .never rfl) (.cons (.optional ValueType.list_keeps rfl rfl)
      (.cons (.required ValueType.keeps rfl) (.cons (.required .never rfl)
      (.cons (.optional .never rfl rfl)
      (.cons (.optional Modifiers.keeps rfl (Modifiers.ofJson?_toJson _)) .nil)))))

theorem ofJson?_toJson (method : MethodDescription) : ofJson? method.toJson = some method := by
  rw [ofJson?_eq_some_iff]
  exact Meets.object_zip
    [.text method.name, ValueType.listToJson method.parameters,
      method.returnType.toJson, method.declaringClass.toJson, .bool method.declaringIsInterface,
      method.modifiers.toJson] keys_nodup rfl
    (.cons rfl (.cons (ValueType.list?_listToJson _) (.cons (ValueType.ofJson?_toJson _)
      (.cons (ClassId.ofJson?_toJson _) (.cons rfl (.cons (Modifiers.ofJson?_toJson _) .nil))))))

/-- Without its name, its result or its declaring class, a method has something else there or
nothing. -/
theorem indispensable (method other : MethodDescription) :
    ∀ key ∈ required, Indispensable keys method.conditions other.conditions key := by
  intro key isRequired
  simp only [required, List.mem_cons, List.not_mem_nil, or_false] at isRequired
  rcases isRequired with rfl | rfl | rfl
  · exact ⟨0, rfl, ⟨_, rfl, nofun⟩, fun
      | _, .cons _ (.cons parameters _), .cons name _ => text_apart_list.optional name parameters⟩
  · exact ⟨2, rfl, ⟨_, rfl, nofun⟩, fun
      | _, .cons _ (.cons _ (.cons _ (.cons declaringClass _))),
        .cons _ (.cons _ (.cons returnType _)) =>
          ValueType.apart_classId.required returnType declaringClass⟩
  · exact ⟨3, rfl, ⟨_, rfl, nofun⟩, fun
      | _, .cons _ (.cons _ (.cons _ (.cons _ (.cons isInterface _)))),
        .cons _ (.cons _ (.cons _ (.cons declaringClass _))) =>
          ClassId.apart_bool.optional declaringClass isInterface⟩

theorem spoiled : Spoils (DropField keys required) ofJson? :=
  .record ofJson?_eq_some_iff fun _ _ method other dropped met =>
    met.not_of_dropField keys_nodup (indispensable method other) dropped

end MethodDescription

/-! ## Fields -/

namespace FieldDescription

/-- How the fields of a field's record are written. -/
def forms : List FieldForm :=
  [⟨"name", none, .never⟩,
    ⟨"value_type", none, VariantRewriting⟩,
    ⟨"declaring_class", none, .never⟩,
    ⟨"modifiers", some (Modifiers.toJson {}), RecordRewriting Modifiers.forms⟩]

/-- The fields of a field's record that must be there. -/
def required : List String := ["name", "value_type", "declaring_class"]

/-- What the fields of a field's record are read as. -/
def conditions (field : FieldDescription) : List (Option Json → Prop) :=
  [fun written => Json.required Json.text? written = some field.name,
    fun written => Json.required ValueType.ofJson? written = some field.valueType,
    fun written => Json.required ClassId.ofJson? written = some field.declaringClass,
    fun written => Json.optional {} Modifiers.ofJson? written = some field.modifiers]

theorem keys_nodup : keys.Nodup := by decide

theorem ofJson?_eq_some_iff {json : Json} {field : FieldDescription} :
    ofJson? json = some field ↔ Meets keys field.conditions json := by
  constructor
  · intro read
    unfold ofJson? at read
    split at read
    · simp only [Option.bind_eq_bind, Option.bind_eq_some_iff, Option.pure_def,
        Option.some.injEq] at read
      obtain ⟨_, name, _, valueType, _, declaringClass, _, modifiers, rfl⟩ := read
      exact ⟨_, ‹_›, .cons name (.cons valueType (.cons declaringClass (.cons modifiers .nil)))⟩
    · cases read
  · intro ⟨_, isValues,
      .cons name (.cons valueType (.cons declaringClass (.cons modifiers .nil)))⟩
    simp only [ofJson?, isValues, name, valueType, declaringClass, modifiers]
    rfl

theorem keeps : Keeps (RecordRewriting forms) ofJson? :=
  .record forms keys_nodup ofJson?_eq_some_iff fun _ =>
    .cons (.required .never rfl) (.cons (.required ValueType.keeps rfl)
      (.cons (.required .never rfl)
      (.cons (.optional Modifiers.keeps rfl (Modifiers.ofJson?_toJson _)) .nil)))

theorem ofJson?_toJson (field : FieldDescription) : ofJson? field.toJson = some field := by
  rw [ofJson?_eq_some_iff]
  exact Meets.object_zip [.text field.name, field.valueType.toJson, field.declaringClass.toJson,
      field.modifiers.toJson] keys_nodup rfl
    (.cons rfl (.cons (ValueType.ofJson?_toJson _) (.cons (ClassId.ofJson?_toJson _)
      (.cons (Modifiers.ofJson?_toJson _) .nil))))

/-- A name may be read from a type, but then the type is read from a class. -/
theorem indispensable (field other : FieldDescription) :
    ∀ key ∈ required, Indispensable keys field.conditions other.conditions key := by
  intro key isRequired
  simp only [required, List.mem_cons, List.not_mem_nil, or_false] at isRequired
  rcases isRequired with rfl | rfl | rfl
  · exact ⟨0, rfl, ⟨_, rfl, nofun⟩, fun
      | _, .cons _ (.cons _ (.cons declaringClass _)), .cons _ (.cons valueType _) =>
          ValueType.apart_classId.required valueType declaringClass⟩
  · exact ⟨1, rfl, ⟨_, rfl, nofun⟩, fun
      | _, .cons _ (.cons _ (.cons declaringClass _)), .cons _ (.cons valueType _) =>
          ValueType.apart_classId.required valueType declaringClass⟩
  · exact ⟨2, rfl, ⟨_, rfl, nofun⟩, fun
      | _, .cons _ (.cons _ (.cons _ (.cons modifiers _))),
        .cons _ (.cons _ (.cons declaringClass _)) =>
          ClassId.apart_modifiers.optional declaringClass modifiers⟩

theorem spoiled : Spoils (DropField keys required) ofJson? :=
  .record ofJson?_eq_some_iff fun _ _ field other dropped met =>
    met.not_of_dropField keys_nodup (indispensable field other) dropped

end FieldDescription

/-! ## Types -/

namespace TypeDescription

/-- How the fields of a type are written. -/
def forms : List FieldForm :=
  [⟨"class", none, .never⟩,
    ⟨"name", none, .never⟩,
    ⟨"constructors", some (.array []), InItem (RecordRewriting ConstructorDescription.forms)⟩,
    ⟨"methods", some (.array []), InItem (RecordRewriting MethodDescription.forms)⟩,
    ⟨"fields", some (.array []), InItem (RecordRewriting FieldDescription.forms)⟩]

/-- The fields of a type that must be there. -/
def required : List String := ["class", "name"]

/-- What the fields of a type are read as. -/
def conditions (description : TypeDescription) : List (Option Json → Prop) :=
  [fun field => Json.required ClassId.ofJson? field = some description.classId,
    fun field => Json.required Json.text? field = some description.name,
    fun field => Json.optional [] (Json.list? ConstructorDescription.ofJson?) field =
      some description.constructors,
    fun field => Json.optional [] (Json.list? MethodDescription.ofJson?) field =
      some description.methods,
    fun field => Json.optional [] (Json.list? FieldDescription.ofJson?) field =
      some description.fields]

theorem keys_nodup : keys.Nodup := by decide

theorem ofJson?_eq_some_iff {json : Json} {description : TypeDescription} :
    ofJson? json = some description ↔ Meets keys description.conditions json := by
  constructor
  · intro read
    unfold ofJson? at read
    split at read
    · simp only [Option.bind_eq_bind, Option.bind_eq_some_iff, Option.pure_def,
        Option.some.injEq] at read
      obtain ⟨_, classId, _, name, _, constructors, _, methods, _, fields, rfl⟩ := read
      exact ⟨_, ‹_›, .cons classId (.cons name (.cons constructors (.cons methods
        (.cons fields .nil))))⟩
    · cases read
  · intro ⟨_, isValues, .cons classId (.cons name (.cons constructors (.cons methods
      (.cons fields .nil))))⟩
    simp only [ofJson?, isValues, classId, name, constructors, methods, fields]
    rfl

theorem keeps : Keeps (RecordRewriting forms) ofJson? :=
  .record forms keys_nodup ofJson?_eq_some_iff fun _ =>
    .cons (.required .never rfl) (.cons (.required .never rfl)
      (.cons (.optional ConstructorDescription.keeps.inItem rfl rfl)
      (.cons (.optional MethodDescription.keeps.inItem rfl rfl)
      (.cons (.optional FieldDescription.keeps.inItem rfl rfl) .nil))))

theorem ofJson?_toJson (description : TypeDescription) :
    ofJson? description.toJson = some description := by
  rw [ofJson?_eq_some_iff]
  exact Meets.object_zip [description.classId.toJson, .text description.name,
      .array (description.constructors.map ConstructorDescription.toJson),
      .array (description.methods.map MethodDescription.toJson),
      .array (description.fields.map FieldDescription.toJson)] keys_nodup rfl
    (.cons (ClassId.ofJson?_toJson _) (.cons rfl
      (.cons (list?_array_map ConstructorDescription.ofJson?_toJson _)
      (.cons (list?_array_map MethodDescription.ofJson?_toJson _)
      (.cons (list?_array_map FieldDescription.ofJson?_toJson _) .nil)))))

theorem indispensable (description other : TypeDescription) :
    ∀ key ∈ required, Indispensable keys description.conditions other.conditions key := by
  intro key isRequired
  simp only [required, List.mem_cons, List.not_mem_nil, or_false] at isRequired
  rcases isRequired with rfl | rfl
  · exact ⟨0, rfl, ⟨_, rfl, nofun⟩, fun
      | _, .cons _ (.cons name _), .cons classId _ => ClassId.apart_text.required classId name⟩
  · exact ⟨1, rfl, ⟨_, rfl, nofun⟩, fun
      | _, .cons _ (.cons _ (.cons constructors _)), .cons _ (.cons name _) =>
          text_apart_list.optional name constructors⟩

/-- A required field of a type, or of one of its methods or fields, is dropped. -/
inductive Drops : Rewriting where
  | own {before after : Json} (dropped : DropField keys required before after) :
      Drops before after
  | ofMethod {before after : Json}
      (dropped : InField keys "methods"
        (InItem (DropField MethodDescription.keys MethodDescription.required)) before after) :
      Drops before after
  | ofField {before after : Json}
      (dropped : InField keys "fields"
        (InItem (DropField FieldDescription.keys FieldDescription.required)) before after) :
      Drops before after

theorem spoiled : Spoils Drops ofJson? := by
  refine .record ofJson?_eq_some_iff fun before after description other drops met => ?_
  cases drops with
  | own dropped => exact met.not_of_dropField keys_nodup (indispensable description other) dropped
  | ofMethod dropped =>
      refine met.not_of_inField 3 keys_nodup rfl rfl rfl ?_ dropped
      intro old new changed readOld readNew
      cases (MethodDescription.spoiled.inItem changed readOld).symm.trans readNew
  | ofField dropped =>
      refine met.not_of_inField 4 keys_nodup rfl rfl rfl ?_ dropped
      intro old new changed readOld readNew
      cases (FieldDescription.spoiled.inItem changed readOld).symm.trans readNew

/-- A description is read back from every form it may be written in, and nothing is read from such a
form without one of the required fields. -/
theorem ofJson?_of_rewritten (description : TypeDescription) {json : Json}
    (rewritten : Relation.ReflTransGen (RecordRewriting forms) description.toJson json) :
    ofJson? json = some description ∧ ∀ incomplete, Drops json incomplete →
      ofJson? incomplete = none := by
  have read := keeps.reflTransGen rewritten description.ofJson?_toJson
  exact ⟨read, fun _ drops => spoiled drops read⟩

/-- A type with one method, for a form that combines several ways of writing. -/
def clock : TypeDescription where
  classId := ⟨7⟩
  name := "app.Clock"
  constructors := []
  methods := [{
    name := "now"
    parameters := []
    returnType := .primitive .long
    declaringClass := ⟨7⟩
    declaringIsInterface := false
    modifiers := {} }]
  fields := []

/-- The type as an array, with a method that leaves out its modifiers, names its result in an object
and has an unknown member. -/
def clockForm (leading : List (String × Json)) : Json :=
  .array [.integer 7, .text "app.Clock", .array [],
    .array [.object (leading ++
      [("parameters", .array []), ("return_type", .object [("long", .null)]),
        ("declaring_class", .integer 7), ("declaring_is_interface", .bool false),
        ("since", .decimal "1.5")])],
    .array []]

theorem ofJson?_clockForm :
    ofJson? (clockForm [("name", .text "now")]) = some clock ∧ ofJson? (clockForm []) = none := by
  have areMethods : (⟨"methods", some (.array []), InItem (RecordRewriting MethodDescription.forms)⟩ :
      FieldForm) ∈ forms := by simp [forms]
  have isResult : (⟨"return_type", none, VariantRewriting⟩ : FieldForm) ∈
      MethodDescription.forms := by simp [MethodDescription.forms]
  have areModifiers : (⟨"modifiers", some (Modifiers.toJson {}), RecordRewriting Modifiers.forms⟩ :
      FieldForm) ∈ MethodDescription.forms := by simp [MethodDescription.forms]
  have unknown : "since" ∉ MethodDescription.forms.map (·.key) := by decide
  have inMethod {before after : Json}
      (rewritten : RecordRewriting MethodDescription.forms before after) : RecordRewriting forms
        (.array [.integer 7, .text "app.Clock", .array [], .array [before], .array []])
        (.array [.integer 7, .text "app.Clock", .array [], .array [after], .array []]) :=
    .inField areMethods (.item [_, _, _] [_] rfl (.item [] [] rewritten))
  have rewritten : Relation.ReflTransGen (RecordRewriting forms) clock.toJson
      (clockForm [("name", .text "now")]) := by
    refine .head (.asArray [_, _, _, _, _] rfl) ?_
    refine .head (inMethod (.leaveOut [_, _, _, _, _] [] areModifiers ⟨_, rfl, .refl⟩)) ?_
    refine .head (inMethod (.addUnknown [_, _, _, _, _] [] unknown (.decimal "1.5"))) ?_
    exact .single (inMethod (.inField isResult (.member [_, _] [_, _, _] (.asObject "long"))))
  obtain ⟨read, incomplete⟩ := ofJson?_of_rewritten clock rewritten
  have isRequired : "name" ∈ MethodDescription.required := by decide
  exact ⟨read, incomplete _ (.ofMethod (.item [_, _, _] [_] rfl (.item [] []
    (.member [] _ isRequired _))))⟩

end TypeDescription

end OrdinalDispatch

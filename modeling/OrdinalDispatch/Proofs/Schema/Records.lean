import Mathlib.Data.List.Nodup
import Mathlib.Data.List.Forall2
import Mathlib.Logic.Relation
import OrdinalDispatch.Json.Value

/-!
Contract: records that are written differently, and what is read from them.

Owns: the ways to rewrite a list or a record, what each of them does to the
fields that a record is read from, and when reading does not notice it or fails
for it.

Does not own: which fields there are, see `OrdinalDispatch.Proofs.Schema.Forms`.

A record is read from the list of its fields in the order of its keys. Whatever
is done to an object or an array, that list stays, changes at one position, or
moves up behind one.
-/

set_option autoImplicit false

namespace OrdinalDispatch.Json

/-! ## Rewriting -/

/-- A way to write a JSON value differently, or to spoil it. -/
abbrev Rewriting := Json → Json → Prop

/-- What is written in one way only is not rewritten. -/
def Rewriting.never : Rewriting := fun _ _ => False

/-- One item of a list is rewritten. -/
inductive InItem (change : Rewriting) : Rewriting where
  | item (front back : List Json) {before after : Json} (changed : change before after) :
      InItem change (.array (front ++ before :: back)) (.array (front ++ after :: back))

/-- One field of a record is rewritten, which an object has under its key and an array at the
position of its key. -/
inductive InField (keys : List String) (key : String) (change : Rewriting) : Rewriting where
  | member (front back : List (String × Json)) {before after : Json}
      (changed : change before after) :
      InField keys key change (.object (front ++ (key, before) :: back))
        (.object (front ++ (key, after) :: back))
  | item (front back : List Json) {before after : Json}
      (position : keys[front.length]? = some key) (changed : change before after) :
      InField keys key change (.array (front ++ before :: back))
        (.array (front ++ after :: back))

/-- How a field of a record is written: its key, the value that it may be left out for, and how its
value may be rewritten. -/
structure FieldForm where
  key : String
  default? : Option Json
  rewriting : Rewriting

/-- The value is the default one of the field, however it is written. -/
def FieldForm.IsDefault (field : FieldForm) (value : Json) : Prop :=
  ∃ default, field.default? = some default ∧ Relation.ReflTransGen field.rewriting default value

/-- One way to write a record differently. -/
inductive RecordRewriting (fields : List FieldForm) : Rewriting where
  | permute {members others : List (String × Json)} (permuted : members.Perm others) :
      RecordRewriting fields (.object members) (.object others)
  | addUnknown (front back : List (String × Json)) {key : String}
      (unknown : key ∉ fields.map (·.key)) (value : Json) :
      RecordRewriting fields (.object (front ++ back)) (.object (front ++ (key, value) :: back))
  | leaveOut (front back : List (String × Json)) {field : FieldForm} (isField : field ∈ fields)
      {value : Json} (isDefault : field.IsDefault value) :
      RecordRewriting fields (.object (front ++ (field.key, value) :: back))
        (.object (front ++ back))
  | asArray (values : List Json) (whole : values.length = fields.length) :
      RecordRewriting fields (.object ((fields.map (·.key)).zip values)) (.array values)
  | inField {field : FieldForm} (isField : field ∈ fields) {before after : Json}
      (rewritten : InField (fields.map (·.key)) field.key field.rewriting before after) :
      RecordRewriting fields before after

/-- A required field is dropped from a record. In an array the fields behind it move up. -/
inductive DropField (keys required : List String) : Rewriting where
  | member (front back : List (String × Json)) {key : String} (isRequired : key ∈ required)
      (value : Json) :
      DropField keys required (.object (front ++ (key, value) :: back)) (.object (front ++ back))
  | item (front back : List Json) {key : String} (isRequired : key ∈ required)
      (position : keys[front.length]? = some key) (value : Json) :
      DropField keys required (.array (front ++ value :: back)) (.array (front ++ back))

/-! ## Objects -/

/-- What a record has under a key of an object, if the key is not repeated. -/
def member? (members : List (String × Json)) (key : String) : Option (Option Json) :=
  match lookup key members with
  | .absent => some none
  | .found value => some (some value)
  | .repeated => none

theorem fields?_object (keys : List String) (members : List (String × Json)) :
    (Json.object members).fields? keys = keys.mapM (member? members) := rfl

section Members

variable {members others front back : List (String × Json)} {key other : String} {value : Json}

theorem member?_eq (members : List (String × Json)) (key : String) :
    member? members key =
      match members.filter fun member => member.1 == key with
      | [] => some none
      | [member] => some (some member.2)
      | _ => none := by
  unfold member? lookup
  split <;> split <;> simp_all

theorem member?_of_perm (permuted : members.Perm others) (key : String) :
    member? members key = member? others key := by
  have kept := permuted.filter fun member => member.1 == key
  rw [member?_eq, member?_eq]
  generalize members.filter (fun member => member.1 == key) = found at kept
  generalize others.filter (fun member => member.1 == key) = foundToo at kept
  match found, foundToo, kept with
  | [], _, kept => rw [kept.symm.eq_nil]
  | [_], _, kept => rw [kept.symm.eq_singleton]
  | _ :: _ :: _, [], kept => exact absurd kept.eq_nil nofun
  | _ :: _ :: _, [_], kept => exact absurd kept.length_eq (by simp)
  | _ :: _ :: _, _ :: _ :: _, _ => rfl

/-- A member does not matter to other keys. -/
theorem member?_middle_of_ne (different : other ≠ key) :
    member? (front ++ (key, value) :: back) other = member? (front ++ back) other := by
  have passes : ((key, value).1 == other) = false := beq_eq_false_iff_ne.mpr different.symm
  rw [member?_eq, member?_eq, List.filter_append, List.filter_cons_of_neg (by simp [passes]),
    List.filter_append]

/-- Where a key is not repeated, a member with this key is the only one. -/
theorem member?_middle {found : Option Json}
    (read : member? (front ++ (key, value) :: back) key = some found) :
    found = some value ∧ member? (front ++ back) key = some none ∧
      ∀ replaced, member? (front ++ (key, replaced) :: back) key = some (some replaced) := by
  have split (content : Json) :
      (front ++ (key, content) :: back).filter (fun member => member.1 == key) =
        front.filter (fun member => member.1 == key) ++
          (key, content) :: back.filter (fun member => member.1 == key) := by
    rw [List.filter_append, List.filter_cons_of_pos (by simp)]
  simp only [member?_eq, split, List.filter_append] at read ⊢
  generalize front.filter (fun member => member.1 == key) = leading at read ⊢
  generalize back.filter (fun member => member.1 == key) = trailing at read ⊢
  match leading, trailing, read with
  | [], [], read => exact ⟨(Option.some.inj read).symm, rfl, fun _ => rfl⟩
  | [], _ :: _, read => cases read
  | [_], _, read => cases read
  | _ :: _ :: _, _, read => cases read

theorem member?_cons_self_of_notMem (absent : key ∉ members.map Prod.fst) :
    member? ((key, value) :: members) key = some (some value) := by
  have none : members.filter (fun member => member.1 == key) = [] := by
    rw [List.filter_eq_nil_iff]
    intro member isMember same
    exact absent (eq_of_beq same ▸ List.mem_map_of_mem isMember)
  rw [member?_eq, List.filter_cons_of_pos (by simp), none]

end Members

/-! ## Lists of fields -/

section Lists

variable {Item Result : Type} {relation : Item → Result → Prop} {items : List Item}
  {results : List Result} {position : Nat} {item : Item} {result : Result}

theorem forall₂_getElem? (related : List.Forall₂ relation items results)
    (isItem : items[position]? = some item) :
    ∃ result, results[position]? = some result ∧ relation item result := by
  induction related generalizing position with
  | nil => simp at isItem
  | cons first _ inductionHypothesis =>
      cases position with
      | zero =>
          cases isItem
          exact ⟨_, rfl, first⟩
      | succ position => exact inductionHypothesis isItem

theorem forall₂_set (related : List.Forall₂ relation items results)
    (isItem : items[position]? = some item) (replaced : relation item result) :
    List.Forall₂ relation items (results.set position result) := by
  induction related generalizing position with
  | nil => simp at isItem
  | cons first rest inductionHypothesis =>
      cases position with
      | zero =>
          cases isItem
          exact .cons replaced rest
      | succ position => exact .cons first (inductionHypothesis isItem)

theorem mapM_eq_some_iff {read : Item → Option Result} :
    items.mapM read = some results ↔
      List.Forall₂ (fun item result => read item = some result) items results := by
  induction items generalizing results with
  | nil => simp [eq_comm]
  | cons item rest inductionHypothesis =>
      simp only [List.mapM_cons, List.forall₂_cons_left_iff, Option.bind_eq_bind,
        Option.bind_eq_some_iff, inductionHypothesis, Option.pure_def, Option.some.injEq]
      constructor
      · rintro ⟨first, isFirst, following, areFollowing, rfl⟩
        exact ⟨first, following, isFirst, areFollowing, rfl⟩
      · rintro ⟨first, following, isFirst, areFollowing, rfl⟩
        exact ⟨first, isFirst, following, areFollowing, rfl⟩

theorem mapM_congr {read reread : Item → Option Result}
    (same : ∀ item ∈ items, reread item = read item) : items.mapM reread = items.mapM read := by
  induction items with
  | nil => rfl
  | cons first rest inductionHypothesis =>
      rw [List.mapM_cons, List.mapM_cons, same first List.mem_cons_self,
        inductionHypothesis fun item isItem => same item (List.mem_cons_of_mem _ isItem)]

/-- Where two ways to read differ for one item only, their results do at its position only. -/
theorem mapM_set {read reread : Item → Option Result} (distinct : items.Nodup)
    (isItem : items[position]? = some item) (done : items.mapM read = some results)
    (here : reread item = some result) (elsewhere : ∀ other ≠ item, reread other = read other) :
    items.mapM reread = some (results.set position result) := by
  rw [mapM_eq_some_iff] at done ⊢
  induction done generalizing position with
  | nil => simp at isItem
  | @cons first _ rest following isFirst others inductionHypothesis =>
      obtain ⟨notAmong, distinctRest⟩ := List.nodup_cons.mp distinct
      cases position with
      | zero =>
          cases isItem
          have reread : rest.mapM reread = some following := by
            rw [← mapM_eq_some_iff.mpr others]
            exact mapM_congr fun other isOther =>
              elsewhere other (ne_of_mem_of_not_mem isOther notAmong)
          exact .cons here (mapM_eq_some_iff.mp reread)
      | succ position =>
          have isOther : first ≠ item := by
            rintro rfl
            exact notAmong (List.mem_of_getElem? isItem)
          exact .cons ((elsewhere _ isOther).trans isFirst) (inductionHypothesis distinctRest isItem)

end Lists

/-! ## What rewriting does to the list of fields -/

section Rewritten

variable {keys : List String} {key : String} {change : Rewriting} {before after : Json}
  {values : List (Option Json)} {fields : List FieldForm}

theorem fields?_array {items : List Json} (fit : items.length ≤ keys.length) :
    (Json.array items).fields? keys =
      some (items.map some ++ List.replicate (keys.length - items.length) none) := if_pos fit

/-- Of an array, at most one item for each key is read. -/
theorem fits_of_fields? {items : List Json} (read : (Json.array items).fields? keys = some values) :
    items.length ≤ keys.length := by
  by_contra tooMany
  rw [Json.fields?, if_neg tooMany] at read
  cases read

/-- A rewritten field is the only one that changes. -/
theorem InField.fields? (distinct : keys.Nodup) (isKey : key ∈ keys)
    (rewritten : InField keys key change before after) (read : before.fields? keys = some values) :
    ∃ position old new, keys[position]? = some key ∧ values[position]? = some (some old) ∧
      change old new ∧ after.fields? keys = some (values.set position (some new)) := by
  cases rewritten with
  | @member front back old new changed =>
      obtain ⟨position, atKey⟩ := List.mem_iff_getElem?.mp isKey
      rw [fields?_object] at read
      obtain ⟨found, isFound, here⟩ := forall₂_getElem? (mapM_eq_some_iff.mp read) atKey
      obtain ⟨rfl, -, replaced⟩ := member?_middle here
      refine ⟨position, old, new, atKey, isFound, changed, ?_⟩
      exact mapM_set distinct atKey read (replaced new) fun other different =>
        (member?_middle_of_ne different).trans (member?_middle_of_ne different).symm
  | @item front back old new position changed =>
      have fit := fits_of_fields? read
      rw [fields?_array fit] at read
      cases read
      refine ⟨front.length, old, new, position, ?_, changed, ?_⟩
      · simp
      · rw [fields?_array (by simpa using fit)]
        simp

/-- A field that is dropped is missing or has the one behind it in its place. -/
theorem DropField.fields? {required : List String} (distinct : keys.Nodup)
    (areKeys : required ⊆ keys) (dropped : DropField keys required before after)
    (read : before.fields? keys = some values) :
    ∃ position key, keys[position]? = some key ∧ key ∈ required ∧
      (after.fields? keys = some (values.set position none) ∨
        after.fields? keys = some (values.eraseIdx position ++ [none])) := by
  cases dropped with
  | @member front back key isRequired value =>
      obtain ⟨position, atKey⟩ := List.mem_iff_getElem?.mp (areKeys isRequired)
      rw [fields?_object] at read
      obtain ⟨found, isFound, here⟩ := forall₂_getElem? (mapM_eq_some_iff.mp read) atKey
      obtain ⟨rfl, without, -⟩ := member?_middle here
      refine ⟨position, key, atKey, isRequired, .inl ?_⟩
      exact mapM_set distinct atKey read without fun other different =>
        (member?_middle_of_ne different).symm
  | @item front back key isRequired position value =>
      have fit := fits_of_fields? read
      rw [fields?_array fit] at read
      cases read
      refine ⟨front.length, key, position, isRequired, .inr ?_⟩
      have shorter : (front ++ back).length + 1 = (front ++ value :: back).length := by
        simp [Nat.add_assoc]
      rw [fields?_array (by omega)]
      have one : keys.length - (front ++ back).length =
          keys.length - (front ++ value :: back).length + 1 := by omega
      rw [one, List.replicate_succ']
      simp [List.eraseIdx_append]

/-- An object that has every key once, in order, is read like the array of its values. -/
theorem fields?_zip {items : List Json} (distinct : keys.Nodup)
    (whole : items.length = keys.length) :
    (Json.object (keys.zip items)).fields? keys = some (items.map some) := by
  rw [fields?_object]
  induction keys generalizing items with
  | nil => rw [List.eq_nil_of_length_eq_zero whole]; rfl
  | cons key rest inductionHypothesis =>
      obtain ⟨notAmong, distinctRest⟩ := List.nodup_cons.mp distinct
      obtain ⟨value, others, rfl⟩ := List.exists_cons_of_length_eq_add_one whole
      have absent : key ∉ (rest.zip others).map Prod.fst := fun among => by
        obtain ⟨member, isMember, rfl⟩ := List.mem_map.mp among
        exact notAmong (List.of_mem_zip isMember).1
      have following : rest.mapM (member? ((key, value) :: rest.zip others)) =
          some (others.map some) := by
        rw [← inductionHypothesis distinctRest (Nat.succ.inj whole)]
        exact mapM_congr fun other isOther =>
          @member?_middle_of_ne [] _ _ _ _ (ne_of_mem_of_not_mem isOther notAmong)
      rw [List.zip_cons_cons, List.mapM_cons, member?_cons_self_of_notMem absent, following]
      rfl

/-- What rewriting a record does to the list of its fields: nothing, or one field is left out or
rewritten. -/
inductive FieldsRewriting (fields : List FieldForm) (values : List (Option Json)) :
    List (Option Json) → Prop where
  | same : FieldsRewriting fields values values
  | leftOut {position : Nat} {field : FieldForm} {value : Json}
      (isField : fields[position]? = some field) (isValue : values[position]? = some (some value))
      (isDefault : field.IsDefault value) :
      FieldsRewriting fields values (values.set position none)
  | rewritten {position : Nat} {field : FieldForm} {old new : Json}
      (isField : fields[position]? = some field) (isValue : values[position]? = some (some old))
      (changed : field.rewriting old new) :
      FieldsRewriting fields values (values.set position (some new))

/-- The key of a field is at the position of the field. -/
theorem getElem?_of_key (distinct : (fields.map (·.key)).Nodup) {field : FieldForm}
    (isField : field ∈ fields) {position : Nat}
    (atKey : (fields.map (·.key))[position]? = some field.key) :
    fields[position]? = some field := by
  rw [List.getElem?_map, Option.map_eq_some_iff] at atKey
  obtain ⟨other, atPosition, sameKey⟩ := atKey
  have isOther := List.mem_of_getElem? atPosition
  rw [atPosition, List.inj_on_of_nodup_map distinct isOther isField sameKey]

theorem RecordRewriting.fields? (distinct : (fields.map (·.key)).Nodup)
    (rewritten : RecordRewriting fields before after)
    (read : before.fields? (fields.map (·.key)) = some values) :
    ∃ others, after.fields? (fields.map (·.key)) = some others ∧
      FieldsRewriting fields values others := by
  cases rewritten with
  | permute permuted =>
      refine ⟨values, ?_, .same⟩
      rw [← read, fields?_object, fields?_object]
      exact mapM_congr fun key _ => (member?_of_perm permuted key).symm
  | addUnknown front back unknown value =>
      refine ⟨values, ?_, .same⟩
      rw [← read, fields?_object, fields?_object]
      exact mapM_congr fun key isKey =>
        member?_middle_of_ne (ne_of_mem_of_not_mem isKey unknown)
  | @leaveOut front back field isField value isDefault =>
      obtain ⟨position, atKey⟩ := List.mem_iff_getElem?.mp (List.mem_map_of_mem isField)
      rw [fields?_object] at read
      obtain ⟨found, isFound, here⟩ := forall₂_getElem? (mapM_eq_some_iff.mp read) atKey
      obtain ⟨rfl, without, -⟩ := member?_middle here
      refine ⟨_, ?_, .leftOut (getElem?_of_key distinct isField atKey) isFound isDefault⟩
      exact mapM_set distinct atKey read without fun other different =>
        (member?_middle_of_ne different).symm
  | asArray items whole =>
      have wholeKeys : items.length = (fields.map (·.key)).length := by
        rw [whole, List.length_map]
      rw [fields?_zip distinct wholeKeys] at read
      cases read
      refine ⟨_, ?_, .same⟩
      rw [fields?_array (Nat.le_of_eq wholeKeys), wholeKeys]
      simp
  | @inField field isField _ _ inField =>
      obtain ⟨position, old, new, atKey, isOld, changed, readAfter⟩ :=
        inField.fields? distinct (List.mem_map_of_mem isField) read
      exact ⟨_, readAfter, .rewritten (getElem?_of_key distinct isField atKey) isOld changed⟩

end Rewritten

/-! ## Reading that does not notice, and reading that fails -/

/-- Reading finds the same after a change. -/
def Keeps {Result : Type} (change : Rewriting) (read : Json → Option Result) : Prop :=
  ∀ ⦃before after result⦄, change before after → read before = some result →
    read after = some result

/-- Reading fails after a change. -/
def Spoils {Result : Type} (change : Rewriting) (read : Json → Option Result) : Prop :=
  ∀ ⦃before after result⦄, change before after → read before = some result → read after = none

section Reading

variable {Result : Type} {change : Rewriting} {read : Json → Option Result}

theorem Keeps.never : Keeps Rewriting.never read := fun _ _ _ impossible => impossible.elim

theorem Keeps.reflTransGen (kept : Keeps change read) :
    Keeps (Relation.ReflTransGen change) read := by
  intro before after result rewritten readBefore
  induction rewritten with
  | refl => exact readBefore
  | tail _ last inductionHypothesis => exact kept last inductionHypothesis

/-- An item of a list that is read is read itself. -/
theorem item_of_list? {front back : List Json} {item : Json} {results : List Result}
    (done : list? read (.array (front ++ item :: back)) = some results) :
    ∃ result, read item = some result := by
  rw [list?, mapM_eq_some_iff] at done
  have atItem : (front ++ item :: back)[front.length]? = some item := by simp
  obtain ⟨result, -, isResult⟩ := forall₂_getElem? done atItem
  exact ⟨result, isResult⟩

theorem Keeps.inItem (kept : Keeps change read) : Keeps (InItem change) (list? read) := by
  rintro _ _ results ⟨front, back, changed⟩ done
  obtain ⟨result, isResult⟩ := item_of_list? done
  rw [← done, list?, list?, List.mapM_append, List.mapM_append, List.mapM_cons, List.mapM_cons,
    kept changed isResult, isResult]

theorem Spoils.inItem (spoiled : Spoils change read) : Spoils (InItem change) (list? read) := by
  rintro _ after results ⟨front, back, changed⟩ done
  obtain ⟨result, isResult⟩ := item_of_list? done
  rw [Option.eq_none_iff_forall_ne_some]
  intro others doneToo
  obtain ⟨other, isOther⟩ := item_of_list? doneToo
  rw [spoiled changed isResult] at isOther
  cases isOther

/-! ## Records by the conditions on their fields -/

/-- The list of fields that a record is read from meets a condition for each field. -/
def Meets (keys : List String) (conditions : List (Option Json → Prop)) (json : Json) : Prop :=
  ∃ values, json.fields? keys = some values ∧
    List.Forall₂ (fun condition value => condition value) conditions values

/-- A condition that does not notice when its field is left out or rewritten. -/
structure FieldForm.Ignored (field : FieldForm) (condition : Option Json → Prop) : Prop where
  leftOut : ∀ ⦃value⦄, field.IsDefault value → condition (some value) → condition none
  rewritten : ∀ ⦃old new⦄, field.rewriting old new → condition (some old) → condition (some new)

variable {conditions : List (Option Json → Prop)} {before after : Json}

theorem FieldForm.Ignored.required {field : FieldForm} {result : Result}
    (kept : Keeps field.rewriting read) (isRequired : field.default? = none) :
    field.Ignored fun value => Json.required read value = some result where
  leftOut := by
    rintro _ ⟨_, isDefault, -⟩
    rw [isRequired] at isDefault
    cases isDefault
  rewritten := fun _ _ changed readOld => kept changed readOld

theorem FieldForm.Ignored.optional {field : FieldForm} {default result : Result} {written : Json}
    (kept : Keeps field.rewriting read) (isWritten : field.default? = some written)
    (isDefault : read written = some default) :
    field.Ignored fun value => Json.optional default read value = some result where
  leftOut := by
    rintro value ⟨_, isWrittenToo, rewritten⟩ readValue
    cases isWritten.symm.trans isWrittenToo
    exact (kept.reflTransGen rewritten isDefault).symm.trans readValue
  rewritten := fun _ _ changed readOld => kept changed readOld

/-- A record whose conditions ignore the rewriting of their fields meets them ever after. -/
theorem Meets.rewritten (fields : List FieldForm) (distinct : (fields.map (·.key)).Nodup)
    (ignored : List.Forall₂ FieldForm.Ignored fields conditions)
    (rewritten : RecordRewriting fields before after)
    (met : Meets (fields.map (·.key)) conditions before) :
    Meets (fields.map (·.key)) conditions after := by
  obtain ⟨values, readBefore, meets⟩ := met
  obtain ⟨others, readAfter, change⟩ := rewritten.fields? distinct readBefore
  refine ⟨others, readAfter, ?_⟩
  cases change with
  | same => exact meets
  | leftOut isField isValue isDefault =>
      obtain ⟨condition, isCondition, ignores⟩ := forall₂_getElem? ignored isField
      obtain ⟨_, isValueToo, held⟩ := forall₂_getElem? meets isCondition
      cases isValue.symm.trans isValueToo
      exact forall₂_set meets isCondition (ignores.leftOut isDefault held)
  | rewritten isField isValue changed =>
      obtain ⟨condition, isCondition, ignores⟩ := forall₂_getElem? ignored isField
      obtain ⟨_, isValueToo, held⟩ := forall₂_getElem? meets isCondition
      cases isValue.symm.trans isValueToo
      exact forall₂_set meets isCondition (ignores.rewritten changed held)

variable {keys : List String} {others : List (Option Json → Prop)}

/-- A record fails its conditions after a field is rewritten into one that fails. -/
theorem Meets.not_of_inField {key : String} (position : Nat)
    {condition other : Option Json → Prop} (distinct : keys.Nodup)
    (atKey : keys[position]? = some key) (isCondition : conditions[position]? = some condition)
    (isOther : others[position]? = some other)
    (spoiled : ∀ ⦃old new⦄, change old new → condition (some old) → ¬ other (some new))
    (rewritten : InField keys key change before after) (met : Meets keys conditions before) :
    ¬ Meets keys others after := by
  rintro ⟨_, readAfter, meetsAfter⟩
  obtain ⟨values, readBefore, meets⟩ := met
  obtain ⟨found, old, new, foundKey, isOld, changed, isAfter⟩ :=
    rewritten.fields? distinct (List.mem_of_getElem? atKey) readBefore
  cases readAfter.symm.trans isAfter
  obtain ⟨inKeys, -⟩ := List.getElem?_eq_some_iff.mp atKey
  obtain rfl := (List.getElem?_inj inKeys distinct).mp (atKey.trans foundKey.symm)
  obtain ⟨_, isOldToo, held⟩ := forall₂_getElem? meets isCondition
  obtain ⟨_, isNew, holds⟩ := forall₂_getElem? meetsAfter isOther
  obtain ⟨inValues, -⟩ := List.getElem?_eq_some_iff.mp isOld
  cases isOld.symm.trans isOldToo
  cases (List.getElem?_set_self inValues).symm.trans isNew
  exact spoiled changed held holds

/-- Of two ways to read, a value is readable in one at most. -/
def Apart {Other : Type} (read : Json → Option Result) (other : Json → Option Other) : Prop :=
  ∀ ⦃json result otherResult⦄, read json = some result → other json ≠ some otherResult

theorem Apart.required {Other : Type} {otherRead : Json → Option Other} {field : Option Json}
    {result : Result} {other : Other} (apart : Apart read otherRead)
    (found : Json.required read field = some result) :
    Json.required otherRead field ≠ some other := by
  obtain ⟨_, rfl, isResult⟩ := Option.bind_eq_some_iff.mp found
  exact apart isResult

theorem Apart.optional {Other : Type} {otherRead : Json → Option Other} {field : Option Json}
    {result : Result} {default other : Other} (apart : Apart read otherRead)
    (found : Json.required read field = some result) :
    Json.optional default otherRead field ≠ some other := by
  obtain ⟨_, rfl, isResult⟩ := Option.bind_eq_some_iff.mp found
  exact apart isResult

/-- What a record cannot be read without: neither nothing nor the field behind it does in its
place. -/
def Indispensable (keys : List String) (conditions others : List (Option Json → Prop))
    (key : String) : Prop :=
  ∃ position : Nat, keys[position]? = some key ∧
    (∃ other, others[position]? = some other ∧ ¬ other none) ∧
    ∀ values, List.Forall₂ (fun condition value => condition value) conditions values →
      ¬ List.Forall₂ (fun other value => other value) others (values.eraseIdx position ++ [none])

/-- A record fails its conditions after a required field is dropped. -/
theorem Meets.not_of_dropField {required : List String} (distinct : keys.Nodup)
    (indispensable : ∀ key ∈ required, Indispensable keys conditions others key)
    (dropped : DropField keys required before after) (met : Meets keys conditions before) :
    ¬ Meets keys others after := by
  rintro ⟨_, readAfter, meetsAfter⟩
  obtain ⟨values, readBefore, meets⟩ := met
  have areKeys : required ⊆ keys := fun key isRequired =>
    have ⟨_, atKey, _⟩ := indispensable key isRequired
    List.mem_of_getElem? atKey
  obtain ⟨found, key, foundKey, isRequired, change⟩ :=
    dropped.fields? distinct areKeys readBefore
  obtain ⟨position, atKey, ⟨other, isOther, fails⟩, distinguished⟩ :=
    indispensable key isRequired
  obtain ⟨inKeys, -⟩ := List.getElem?_eq_some_iff.mp atKey
  obtain rfl := (List.getElem?_inj inKeys distinct).mp (atKey.trans foundKey.symm)
  rcases change with isSet | isShifted
  · cases readAfter.symm.trans isSet
    obtain ⟨value, isValue, holds⟩ := forall₂_getElem? meetsAfter isOther
    rw [List.getElem?_set_self'] at isValue
    cases found : values[position]? with
    | none => simp [found] at isValue
    | some old =>
        rw [found] at isValue
        cases isValue
        exact fails holds
  · cases readAfter.symm.trans isShifted
    exact distinguished values meets meetsAfter

/-- A record whose conditions ignore the rewriting of their fields is read as before. -/
theorem Keeps.record {conditionsOf : Result → List (Option Json → Prop)} (fields : List FieldForm)
    (distinct : (fields.map (·.key)).Nodup)
    (reads : ∀ {json result}, read json = some result ↔
      Meets (fields.map (·.key)) (conditionsOf result) json)
    (ignored : ∀ result, List.Forall₂ FieldForm.Ignored fields (conditionsOf result)) :
    Keeps (RecordRewriting fields) read := fun _ _ result rewritten readBefore =>
  reads.mpr ((reads.mp readBefore).rewritten fields distinct (ignored result) rewritten)

/-- Nothing is read where the conditions for no result are met. -/
theorem Spoils.record {conditionsOf : Result → List (Option Json → Prop)}
    (reads : ∀ {json result}, read json = some result ↔ Meets keys (conditionsOf result) json)
    (fails : ∀ ⦃before after⦄ result other, change before after →
      Meets keys (conditionsOf result) before → ¬ Meets keys (conditionsOf other) after) :
    Spoils change read := by
  intro before after result changed readBefore
  rw [Option.eq_none_iff_forall_ne_some]
  intro other readAfter
  exact fails result other changed (reads.mp readBefore) (reads.mp readAfter)

/-! ## Records and lists as they are written -/

theorem Meets.object_zip (items : List Json) (distinct : keys.Nodup)
    (whole : items.length = keys.length)
    (meets : List.Forall₂ (fun condition item => condition (some item)) conditions items) :
    Meets keys conditions (.object (keys.zip items)) :=
  ⟨items.map some, fields?_zip distinct whole, List.forall₂_map_right_iff.mpr meets⟩

/-- A list is read back if its items are. -/
theorem list?_array_map {write : Result → Json} (readBack : ∀ item, read (write item) = some item)
    (items : List Result) : list? read (.array (items.map write)) = some items := by
  rw [list?, List.mapM_map, mapM_eq_some_iff, List.forall₂_same]
  exact fun item _ => readBack item

end Reading

end OrdinalDispatch.Json

import OrdinalDispatch.Machine.TypeModel

/-!
Contract: classes written down as tables, and the world that their members act on.

Owns: what the body of a member consists of, classes and tables of them, objects
with named slots, the places where values are stored, and the log of calls.

Does not own: what a body does, see `OrdinalDispatch.ClassTable.Execution`, and
the answers to a machine, see `OrdinalDispatch.ClassTable.Model`.

A world holds several tables, known by number, over one set of objects. `Rest`
is whatever else a user of the world keeps in it.
-/

set_option autoImplicit false

namespace OrdinalDispatch.ClassTable

/-- Where a body stores a value: a slot of the receiver, or a static place of the table. -/
inductive Place where
  | slot (name : String)
  | static (name : String)
deriving DecidableEq, Repr

/-- What a body computes. -/
inductive Expression where
  | constant (value : Value)
  /-- An object by its identity; its class is looked up when the body runs. -/
  | object (identity : Nat)
  | argument (index : Nat)
  | receiver
  | stored (place : Place)
  /-- The sum of two 64-bit integers, without overflow. -/
  | sum (left right : Expression)
  | unboxed (operand : Expression) (type : ValueType)
  /-- The text of the receiver and all arguments. -/
  | shown
deriving DecidableEq, Repr, Inhabited

/-- What every body starts with: stores in order, and then perhaps a failure. -/
structure Prelude where
  stores : List (Place × Expression) := []
  failure : Option String := none
deriving Repr

/-- The body of a constructor. The object is of the declaring class unless another is named. -/
structure ConstructorBody extends Prelude where
  slots : List (String × Expression) := []
  objectClass : Option ClassId := none
deriving Repr

/-- The body of a method. Without an answer it answers null. -/
structure MethodBody extends Prelude where
  answer : Option Expression := none
deriving Repr

/-- The two bodies of a field over its place. Without an answer a read answers what is stored. -/
structure FieldBody extends Prelude where
  answer : Option Expression := none
  place : Place
deriving Repr

/-- A class. Bodies are in ordinal order, and a member without one cannot be reached. After
`nameAnswers` answers the class no longer tells its name. -/
structure Class where
  description : TypeDescription
  constructors : Array (Option ConstructorBody)
  methods : Array (Option MethodBody)
  fields : Array (Option FieldBody)
  parent : Option ClassId
  interfaces : List ClassId
  scope : ScopeId
  nameAnswers : Option Nat

/-- A table of classes with its static places and the count of requests for bodies. -/
structure Table where
  classes : List (ClassId × Class) := []
  statics : List (String × Value) := []
  bodyRequests : Nat := 0
deriving Inhabited

structure Object where
  classId : ClassId
  slots : List (String × Value)
deriving Repr

/-- What the members of a table were asked; each names the class whose table holds it. -/
inductive Request where
  | construct (classId : ClassId) (ordinal : Nat) (arguments : List Value)
  | invoke (classId : ClassId) (ordinal : Nat) (receiver : Value) (arguments : List Value)
  | read (classId : ClassId) (ordinal : Nat) (receiver : Value)
  | write (classId : ClassId) (ordinal : Nat) (receiver value : Value)
  /-- The search for the body of a method, from a class upwards. -/
  | search (classId : ClassId) (method : String)
deriving Repr

/-- Tables and objects, the requests so far, and the rest. -/
structure World (Rest : Type) where
  tables : Array Table
  objects : Array Object
  requests : Array Request
  rest : Rest

/-- Puts a value under a name; a new name comes last. -/
def put {α : Type} (name : String) (value : α) (entries : List (String × α)) :
    List (String × α) :=
  if entries.any (·.1 == name) then
    entries.map fun entry => if entry.1 == name then (name, value) else entry
  else entries ++ [(name, value)]

def objectText (reference : ObjectRef) : String := "obj" ++ toString reference.identity

namespace Table

def class? (table : Table) (classId : ClassId) : Option Class := table.classes.lookup classId

def erase (table : Table) (classId : ClassId) : Table :=
  { table with classes := table.classes.filter (·.1 != classId) }

/-- Adds a class, in place of one of the same number. -/
def insert (table : Table) (entry : Class) : Table :=
  { table with
    classes := (entry.description.classId, entry)
      :: (table.erase entry.description.classId).classes }

end Table

namespace World

variable {Rest : Type}

def table (world : World Rest) (number : Nat) : Table := world.tables.getD number default

def updateTable (world : World Rest) (number : Nat) (update : Table → Table) : World Rest :=
  { world with tables := world.tables.modify number update }

/-- The class of an object; there is none outside the world, and the root class stands in. -/
def classOf (world : World Rest) (identity : Nat) : ClassId :=
  match world.objects[identity]? with
  | some object => object.classId
  | none => ClassId.object

def note (world : World Rest) (request : Request) : World Rest :=
  { world with requests := world.requests.push request }

end World

end OrdinalDispatch.ClassTable

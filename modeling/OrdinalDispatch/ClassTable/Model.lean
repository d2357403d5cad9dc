import OrdinalDispatch.ClassTable.Execution

/-!
Contract: a class table as a type model.

Owns: the order of classes that parents and interfaces give, the search for the
body of a method, and the answers to a machine's questions.

Does not own: bodies.

A table may name parents that it does not hold, or hold a class above itself;
both end a search.
-/

set_option autoImplicit false

namespace OrdinalDispatch.ClassTable

namespace Table

/-- The classes right above a class. -/
def directlyAbove (table : Table) (classId : ClassId) : List ClassId :=
  match table.class? classId with
  | none => []
  | some entry => entry.parent.toList ++ entry.interfaces

/-- The classes that are seen or lie above the frontier, in rounds of one step each. -/
def above (table : Table) : (rounds : Nat) → (seen frontier : List ClassId) → List ClassId
  | 0, seen, _ => seen
  | _, seen, [] => seen
  | rounds + 1, seen, frontier =>
      let reached := seen ++ frontier
      table.above rounds reached
        ((frontier.flatMap table.directlyAbove).eraseDups.filter fun classId =>
          !reached.contains classId)

/-- Whether objects of one class may stand where another is declared. Each round but the last two
finds a class of the table that was not seen, so the rounds suffice. -/
def isAssignable (table : Table) (source target : ClassId) : Bool :=
  target = ClassId.object
    || (table.above (table.classes.length + 2) [] [source]).contains target

/-- The first method of a class that may stand in for a method and has a body. -/
def ownOverride? (entry : Class) (method : MethodDescription) : Option (Nat × MethodBody) :=
  (entry.description.methods.zipIdx.find? fun (candidate, ordinal) =>
    method.overridesSignature candidate && !candidate.modifiers.isStatic
      && !candidate.modifiers.isPrivate && (entry.methods.getD ordinal none).isSome).bind
    fun (_, ordinal) => (entry.methods.getD ordinal none).map fun body => (ordinal, body)

/-- The nearest body of a method from a class upwards, with its class and ordinal. A chain of
parents repeats after as many steps as there are classes. -/
def override? (table : Table) (method : MethodDescription) :
    (steps : Nat) → ClassId → Option (ClassId × Nat × MethodBody)
  | 0, _ => none
  | steps + 1, classId => do
      let entry ← table.class? classId
      match ownOverride? entry method with
      | some found => return (classId, found)
      | none => table.override? method steps (← entry.parent)

/-- The scope of a class; unknown classes are in the first scope. -/
def scopeOf (table : Table) (classId : ClassId) : ScopeId :=
  ((table.class? classId).map Class.scope).getD ⟨0⟩

/-- The name that a class tells, and the table after that answer. -/
def tellName (table : Table) (classId : ClassId) : Option String × Table :=
  match table.class? classId with
  | none => (none, table)
  | some entry =>
      match entry.nameAnswers with
      | none => (some entry.description.name, table)
      | some 0 => (none, table)
      | some (left + 1) =>
          (some entry.description.name, table.insert { entry with nameAnswers := some left })

end Table

variable {Rest : Type}

def inspect {α : Type} (number : Nat) (classId : ClassId) (question : Class → α) (absent : α) :
    StateM (World Rest) α := do
  return (((← get).table number).class? classId).elim absent question

/-- Looks for a body, which counts as a request whatever is found. -/
def request {α : Type} (number : Nat) (classId : ClassId) (body : Class → Option α) :
    StateM (World Rest) (Option α) := do
  modify fun world => world.updateTable number fun table =>
    { table with bodyRequests := table.bodyRequests + 1 }
  inspect number classId body none

def scopeOf (number : Nat) (classId : ClassId) : StateM (World Rest) ScopeId := do
  return ((← get).table number).scopeOf classId

def model (number : Nat) : Machine.TypeModel (World Rest) where
  typeName classId := do
    let (name, table) := ((← get).table number).tellName classId
    modify fun world => world.updateTable number fun _ => table
    return name
  constructors classId := inspect number classId (·.description.constructors) []
  methods classId := inspect number classId (·.description.methods) []
  fields classId := inspect number classId (·.description.fields) []
  constructorHandle classId ordinal :=
    request number classId fun entry =>
      (entry.constructors.getD ordinal none).map fun body => body.run number classId ordinal
  methodHandle classId ordinal :=
    request number classId fun entry =>
      (entry.methods.getD ordinal none).map fun body => body.run number classId ordinal
  fieldHandle classId ordinal :=
    request number classId fun entry =>
      (entry.fields.getD ordinal none).map fun body => body.handle number classId ordinal
  resolveOverride classId method := do
    modify fun world => world.note (.search classId method.name)
    let table := (← get).table number
    return (table.override? method (table.classes.length + 1) classId).map
      fun (owner, ordinal, body) => body.run number owner ordinal
  isAssignable source target := do
    return ((← get).table number).isAssignable source target

end OrdinalDispatch.ClassTable

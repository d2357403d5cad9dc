import OrdinalDispatch.Machine.Step

/-!
Contract: the five operations of an accessor.

Owns: the operations over a linked image, and the bound on the length of a run.

Does not own: how an accessor comes about, see `OrdinalDispatch.Loader.Generator`.

Selectors are positions in the member lists that the image was made from.
Arguments may be absent altogether, which is refused before all else.
-/

set_option autoImplicit false

namespace OrdinalDispatch.Machine

/-- A linked image with the model that it is linked to. -/
structure LinkedImage (World : Type) where
  image : Code.Image
  linkage : Linkage World
  model : TypeModel World

namespace LinkedImage

variable {World : Type}

/-- The bound on the steps of a run. Code that only jumps forward takes each instruction at most
once. Code that jumps back goes round until its stack is used up or a member fails, and gets as
many rounds as it has bytes, and a wide margin more. -/
def fuel (linked : LinkedImage World) : Nat :=
  (linked.image.code.size + 1) * (linked.image.code.size + UInt16.size)

/-- Runs an entry point. The answer is none if the run does not end. -/
def enter (linked : LinkedImage World) (entryPoint : Code.EntryPoint) (frame : Frame) :
    Call World (Option Value) :=
  run linked.image linked.linkage linked.model frame linked.fuel
    ⟨linked.image.entry entryPoint, []⟩

/-- Runs an entry point that must answer with an object. -/
def constructAt (linked : LinkedImage World) (entryPoint : Code.EntryPoint) (frame : Frame) :
    Call World (Option ObjectRef) := do
  match ← linked.enter entryPoint frame with
  | none => return none
  | some (.object reference) => return some reference
  | some other => throw (.constructedOther other.typeLabel)

/-- Constructs through the first constructor without parameters. -/
def newDefault (linked : LinkedImage World) : Call World (Option ObjectRef) :=
  linked.constructAt .newDefault {}

def newInstance (linked : LinkedImage World) (selector : Int32)
    (arguments : Option (List Value)) : Call World (Option ObjectRef) :=
  linked.constructAt .newInstance { selector, arguments }

def invoke (linked : LinkedImage World) (receiver : Value) (selector : Int32)
    (arguments : Option (List Value)) : Call World (Option Value) :=
  linked.enter .invoke { receiver, selector, arguments }

def getField (linked : LinkedImage World) (receiver : Value) (selector : Int32) :
    Call World (Option Value) :=
  linked.enter .getField { receiver, selector }

def setField (linked : LinkedImage World) (receiver : Value) (selector : Int32) (value : Value) :
    Call World (Option Unit) := do
  return (← linked.enter .setField { receiver, selector, value := some value }).map fun _ => ()

end LinkedImage

end OrdinalDispatch.Machine

import OrdinalDispatch.Schema.ValueType

/-!
Contract: what the loader and the generators report as they work.

Owns: the events with their levels, messages and fields.

Does not own: who listens.
-/

set_option autoImplicit false

namespace OrdinalDispatch.Loader

/-- How much an event matters. -/
inductive Level where
  | warn
  | debug
  | trace
deriving DecidableEq, Repr

inductive Event where
  | createdContext (scope : ScopeId) (context : UInt32)
  | installedUnit (unit : String) (context : UInt32)
  | reusedUnit (unit : String) (context : UInt32)
  | generatedUnit (unit : String) (context : UInt32) (members : Nat)
  | linkedUnit (unit : String) (members : Nat)
  | nowhereToTrace (unit : String)
  | traceFailed (unit : String) (failure : String)
deriving DecidableEq, Repr

inductive EventField where
  | number (value : Nat)
  | text (value : String)
deriving DecidableEq, Repr

namespace Event

def level : Event → Level
  | createdContext .. | installedUnit .. | generatedUnit .. | linkedUnit .. => .debug
  | reusedUnit .. => .trace
  | nowhereToTrace _ | traceFailed .. => .warn

def message : Event → String
  | createdContext .. => "created loading context"
  | installedUnit .. => "installed accessor unit"
  | reusedUnit .. => "accessor cache hit"
  | generatedUnit .. => "generated accessor"
  | linkedUnit .. => "linked accessor unit"
  | nowhereToTrace _ => "tracing enabled without a debug sink or trace_dir"
  | traceFailed .. => "failed to persist generated accessor"

/-- The fields of an event besides its message. -/
def fields : Event → List (String × EventField)
  | createdContext scope context =>
      [("scope", .number scope.number.toNat), ("context", .number context.toNat)]
  | installedUnit unit context => [("unit", .text unit), ("context", .number context.toNat)]
  | reusedUnit unit context => [("unit", .text unit), ("context", .number context.toNat)]
  | generatedUnit unit context members =>
      [("unit", .text unit), ("context", .number context.toNat), ("members", .number members)]
  | linkedUnit unit members => [("unit", .text unit), ("members", .number members)]
  | nowhereToTrace unit => [("unit", .text unit)]
  | traceFailed unit failure => [("unit", .text unit), ("error", .text failure)]

end Event

end OrdinalDispatch.Loader

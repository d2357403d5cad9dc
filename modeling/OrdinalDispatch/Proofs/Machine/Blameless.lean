import OrdinalDispatch.Proofs.Machine.Outcomes

/-!
Contract: the parts of instructions that never blame the code.

Owns: conversions, receivers, bodies and members, which fail for the caller's,
the model's or their own reasons, whatever code they are part of.

Does not own: operands of the stack and of the pool, which code may lack.
-/

set_option autoImplicit false

namespace OrdinalDispatch.Machine

variable {World : Type}

/-- The call answers, or fails without blame for the code. -/
def Blameless {Result : Type} (call : Call World Result) : Prop :=
  Ensures call (fun _ => True) fun error => ¬BlamesCode error

theorem blameless_nonNull (receiver : Value) :
    Blameless (nonNull receiver : Call World Value) := by
  unfold nonNull
  split
  · exact .ofThrow id
  · exact .ofPure trivial

/-- A member fails with its own failure alone. -/
theorem blameless_ofMember {Result : Type} (outcome : StateM World (Except String Result)) :
    Blameless (ofMember outcome) := by
  refine (Ensures.ofModel outcome).bind fun result _ => ?_
  cases result with
  | ok result => exact .ofPure trivial
  | error failure => exact .ofThrow id

/-- A value that is not of a kind is the caller's or the model's fault. -/
theorem not_blamesCode_mismatch (kind : Primitive) (value : Value) :
    ¬BlamesCode (value.mismatch kind) := by
  cases value <;> exact id

/-- A conversion to a primitive kind fails with the mismatch. -/
theorem not_blamesCode_of_unbox {kind : Primitive} {value : Value} {error : AccessError}
    (failed : value.unbox kind = .error error) : ¬BlamesCode error := by
  unfold Value.unbox at failed
  split at failed
  · cases failed
  · exact Except.error.inj failed ▸ not_blamesCode_mismatch kind value

theorem blameless_unbox (kind : Primitive) (value : Value) :
    Blameless (liftM (value.unbox kind) : Call World Value) :=
  .ofExcept fun _ => not_blamesCode_of_unbox

theorem blameless_boxed (kind : Primitive) (value : Value) :
    Blameless (liftM (value.boxed kind) : Call World Value) := by
  refine .ofExcept fun error failed => ?_
  unfold Value.boxed at failed
  split at failed
  · cases failed
  · exact Except.error.inj failed ▸ not_blamesCode_mismatch kind value

theorem blameless_checkCast (model : TypeModel World) (value : Value) (target : ClassId) :
    Blameless (checkCast model value target) := by
  have decided : ∀ assignable : Bool,
      Blameless (if assignable = true then pure () else
        (liftM (model.typeName target) : Call World (Option String)) >>= fun name =>
          throw (.classCast value.typeLabel (name.getD target.text))) := by
    intro assignable
    cases assignable with
    | true => exact .ofPure trivial
    | false => exact (Ensures.ofModel _).bind fun name _ => .ofThrow id
  unfold checkCast
  by_cases isNull : value.isNull = true
  · rw [if_pos isNull]
    exact .ofPure trivial
  · rw [if_neg isNull]
    cases value.class? with
    | none => exact decided false
    | some found =>
        by_cases same : found = target
        · simp only [if_pos same]
          exact decided true
        · simp only [if_neg same]
          exact (Ensures.ofModel _).bind fun assignable _ => decided assignable

theorem blameless_declaredBody (description : MethodDescription)
    (handle : Option (MethodHandle World)) (receiver : Value) :
    Blameless (declaredBody description handle receiver) := by
  cases handle with
  | none => exact .ofThrow id
  | some handle => exact .ofPure trivial

theorem blameless_dispatchedBody (model : TypeModel World) (target : ClassId)
    (description : MethodDescription) (handle : Option (MethodHandle World)) (receiver : Value) :
    Blameless (dispatchedBody model target description handle receiver) := by
  unfold dispatchedBody
  cases receiver.class? with
  | none => exact blameless_declaredBody description handle receiver
  | some runtimeClass =>
      dsimp only
      split
      · refine (Ensures.ofModel _).bind fun override _ => ?_
        cases override with
        | none => exact blameless_declaredBody description handle receiver
        | some override => exact .ofPure trivial
      · exact blameless_declaredBody description handle receiver

end OrdinalDispatch.Machine

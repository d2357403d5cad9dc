import OrdinalDispatch.Machine.Step

/-!
Contract: the effect of each instruction where it finds what it needs.

Owns: one equation for each instruction, over any stack below its operands and
for any place where the code goes on.

Does not own: what an instruction does with missing operands or with constants
of another kind, see `OrdinalDispatch.Proofs.Machine.VerifiedRuns`.
-/

set_option autoImplicit false

namespace OrdinalDispatch.Machine

open OrdinalDispatch.Code

variable {World : Type} {image : Image} {linkage : Linkage World} {model : TypeModel World}
  {frame : Frame} {stack : List Value} {offset behind : Nat}

/-! ## Checks -/

theorem illegal_eq {message : UInt16} {text : String} {Result : Type}
    (named : image.constant? message = some (.message text)) :
    (illegal image message offset : Call World Result) = throw (.illegalArgument text) := by
  simp only [illegal, named]

theorem execute_checkArguments_missing {message : UInt16} {text : String}
    (named : image.constant? message = some (.message text)) (missing : frame.arguments = none) :
    execute image linkage model frame stack offset behind (.checkArguments message) =
      throw (.illegalArgument text) := by
  simp only [execute, missing, Option.isNone_none, if_true, illegal_eq named]

theorem execute_checkArguments {message : UInt16} {arguments : List Value}
    (present : frame.arguments = some arguments) :
    execute image linkage model frame stack offset behind (.checkArguments message) =
      pure (.next ⟨behind, stack⟩) := by
  simp only [execute, present, Option.isNone_some, Bool.false_eq_true, if_false]

theorem execute_checkBounds_outside {count : UInt32} {message : UInt16} {text : String}
    (named : image.constant? message = some (.message text))
    (outside : selects frame.selector count.toNat = false) :
    execute image linkage model frame stack offset behind (.checkBounds count message) =
      throw (.illegalArgument text) := by
  simp only [execute, outside, Bool.false_eq_true, if_false, illegal_eq named]

theorem execute_checkBounds {count : UInt32} {message : UInt16}
    (inside : selects frame.selector count.toNat = true) :
    execute image linkage model frame stack offset behind (.checkBounds count message) =
      pure (.next ⟨behind, stack⟩) := by
  simp only [execute, inside, if_true]

/-- The expected count of arguments is the table's entry at the selector. -/
theorem execute_checkArity {table message : UInt16} {text : String} {arities : List UInt16}
    {expected : UInt16} (tabled : image.constant? table = some (.arityTable arities))
    (named : image.constant? message = some (.message text)) (natural : 0 ≤ frame.selector.toInt)
    (found : arities[frame.selector.toInt.toNat]? = some expected) :
    execute image linkage model frame stack offset behind (.checkArity table message) =
      if (frame.arguments.getD []).length = expected.toNat then
        pure (.next ⟨behind, stack⟩)
      else throw (.illegalArgument text) := by
  have upward : ¬ frame.selector < 0 := by
    rw [Int32.lt_iff_toInt_lt]
    simpa using natural
  simp only [execute, tabled, upward, if_false, found, illegal_eq named]

/-- A switch jumps to the target at the selector. -/
theorem execute_tableSwitch {fallback target : UInt32} {targets : List UInt32}
    (natural : 0 ≤ frame.selector.toInt)
    (found : targets[frame.selector.toInt.toNat]? = some target) :
    execute image linkage model frame stack offset behind (.tableSwitch fallback targets) =
      pure (.next ⟨target.toNat, stack⟩) := by
  have below := (List.getElem?_eq_some_iff.mp found).1
  have inside : selects frame.selector targets.length = true := by
    simp only [selects, Bool.and_eq_true, decide_eq_true_eq]
    omega
  simp only [execute, inside, if_true, List.getD_eq_getElem?_getD, found, Option.getD_some]

/-! ## Loads and conversions -/

theorem execute_loadReceiver :
    execute image linkage model frame stack offset behind .loadReceiver =
      pure (.next ⟨behind, frame.receiver :: stack⟩) := rfl

theorem execute_loadValue :
    execute image linkage model frame stack offset behind .loadValue =
      pure (.next ⟨behind, frame.value.getD .null :: stack⟩) := rfl

theorem execute_constNull :
    execute image linkage model frame stack offset behind .constNull =
      pure (.next ⟨behind, .null :: stack⟩) := rfl

theorem execute_pop {value : Value} :
    execute image linkage model frame (value :: stack) offset behind .pop =
      pure (.next ⟨behind, stack⟩) := rfl

theorem execute_loadArgument {index : UInt16} {arguments : List Value} {argument : Value}
    (present : frame.arguments = some arguments)
    (found : arguments[index.toNat]? = some argument) :
    execute image linkage model frame stack offset behind (.loadArgument index) =
      pure (.next ⟨behind, argument :: stack⟩) := by
  simp only [execute, present, Option.bind_some, found]

theorem execute_unbox {kind : Primitive} {value : Value} :
    execute image linkage model frame (value :: stack) offset behind (.unbox kind) =
      (liftM (value.unbox kind) : Call World Value) >>= fun converted =>
        pure (.next ⟨behind, converted :: stack⟩) := by
  simp only [execute, popOne, pure_bind]

theorem execute_box {kind : Primitive} {value : Value} :
    execute image linkage model frame (value :: stack) offset behind (.box kind) =
      (liftM (value.boxed kind) : Call World Value) >>= fun checked =>
        pure (.next ⟨behind, checked :: stack⟩) := by
  simp only [execute, popOne, pure_bind]

theorem execute_checkCast {index : UInt16} {target : ClassId} {value : Value}
    (named : image.constant? index = some (.classRef target)) :
    execute image linkage model frame (value :: stack) offset behind (.checkCast index) =
      checkCast model value target >>= fun _ => pure (.next ⟨behind, value :: stack⟩) := by
  simp only [execute, named]

/-! ## Members -/

/-- Operands that were put one by one are taken in the order in which they were put. -/
theorem popMany_reverse {arguments : List Value} {count : Nat}
    (enough : arguments.length = count) :
    (popMany (arguments.reverse ++ stack) count offset : Call World (List Value × List Value)) =
      pure (arguments, stack) := by
  have reversed : arguments.reverse.length = count := by rw [List.length_reverse, enough]
  rw [popMany, if_pos (by rw [List.length_append]; omega), ← reversed, List.take_left,
    List.drop_left, List.reverse_reverse]

theorem execute_construct {index : UInt16} {arity : Nat} {handle : ConstructorHandle World}
    {arguments : List Value} (linked : linkage.member? index = some (.constructor arity handle))
    (enough : arguments.length = arity) :
    execute image linkage model frame (arguments.reverse ++ stack) offset behind (.construct index) =
      ofMember (handle arguments) >>= fun made =>
        pure (.next ⟨behind, .object made :: stack⟩) := by
  simp only [execute, linked, popMany_reverse enough, pure_bind]

theorem execute_invoke_static {index : UInt16} {description : MethodDescription}
    {handle : Option (MethodHandle World)} {arguments : List Value}
    (linked : linkage.member? index = some (.method description handle))
    (enough : arguments.length = description.parameters.length) :
    execute image linkage model frame (arguments.reverse ++ stack) offset behind (.invoke .static index) =
      (do
        let body ← declaredBody description handle .null
        ofMember (body .null arguments)) >>= fun result =>
          pure (.next ⟨behind, result :: stack⟩) := by
  simp only [execute, call, linked, popMany_reverse enough, pure_bind, if_true, bind_assoc]

/-- A method with a receiver has it below its arguments. -/
theorem execute_invoke {kind : CallKind} {index : UInt16} {description : MethodDescription}
    {handle : Option (MethodHandle World)} {owner : Value} {arguments : List Value}
    (linked : linkage.member? index = some (.method description handle))
    (enough : arguments.length = description.parameters.length) (owned : kind ≠ .static) :
    execute image linkage model frame (arguments.reverse ++ owner :: stack) offset behind
        (.invoke kind index) =
      (nonNull owner >>= fun owner =>
        (if kind = .special then declaredBody description handle owner
          else dispatchedBody model image.target description handle owner) >>= fun body =>
            ofMember (body owner arguments)) >>= fun result =>
        pure (.next ⟨behind, result :: stack⟩) := by
  simp only [execute, call, linked, popMany_reverse enough, pure_bind, popOne, owned, if_false,
    bind_assoc]
  refine bind_congr fun owner => ?_
  by_cases special : kind = .special
  · simp only [special, if_true, bind_assoc, pure_bind]
  · simp only [special, if_false, bind_assoc, pure_bind]

theorem execute_getField_static {index : UInt16} {handle : FieldHandle World}
    (linked : linkage.member? index = some (.field handle)) :
    execute image linkage model frame stack offset behind (.getField true index) =
      ofMember (handle.read .null) >>= fun result =>
        pure (.next ⟨behind, result :: stack⟩) := by
  simp only [execute, fieldHandle, linked, fieldOwner, pure_bind, if_true]

theorem execute_getField {index : UInt16} {handle : FieldHandle World} {owner : Value}
    (linked : linkage.member? index = some (.field handle)) :
    execute image linkage model frame (owner :: stack) offset behind (.getField false index) =
      (do
        let owner ← nonNull owner
        ofMember (handle.read owner)) >>= fun result =>
          pure (.next ⟨behind, result :: stack⟩) := by
  simp only [execute, fieldHandle, linked, fieldOwner, popOne, pure_bind, Bool.false_eq_true,
    if_false, bind_assoc]

theorem execute_putField_static {index : UInt16} {handle : FieldHandle World} {value : Value}
    (linked : linkage.member? index = some (.field handle)) :
    execute image linkage model frame (value :: stack) offset behind (.putField true index) =
      ofMember (handle.write .null value) >>= fun _ => pure (.next ⟨behind, stack⟩) := by
  simp only [execute, fieldHandle, linked, fieldOwner, popOne, pure_bind, if_true]

theorem execute_putField {index : UInt16} {handle : FieldHandle World} {owner value : Value}
    (linked : linkage.member? index = some (.field handle)) :
    execute image linkage model frame (value :: owner :: stack) offset behind (.putField false index) =
      (do
        let owner ← nonNull owner
        ofMember (handle.write owner value)) >>= fun _ =>
          pure (.next ⟨behind, stack⟩) := by
  simp only [execute, fieldHandle, linked, fieldOwner, popOne, pure_bind, Bool.false_eq_true,
    if_false, bind_assoc]

/-! ## Answers -/

theorem execute_returnNull :
    execute image linkage model frame stack offset behind .returnNull = pure (.answer .null) := rfl

theorem execute_returnTop {value : Value} :
    execute image linkage model frame (value :: stack) offset behind .returnTop =
      pure (.answer value) := by
  simp only [execute, popOne, pure_bind]

end OrdinalDispatch.Machine

import OrdinalDispatch.Proofs.Code.Emission
import OrdinalDispatch.Proofs.Machine.Answering
import OrdinalDispatch.Proofs.Machine.DirectAccess
import OrdinalDispatch.Proofs.Machine.Effects

/-!
Contract: the code that loads receivers, arguments and values does what their
direct conversions do.

Owns: casts, conversions to declared types, and the loading of whole argument
lists.

Does not own: the calls that the loaded values are for.
-/

set_option autoImplicit false

namespace OrdinalDispatch.Machine

open OrdinalDispatch.Code

variable {World : Type}

/-! ## Casts -/

/-- Only null is null, and it has no class. -/
theorem isNull_eq_false_of_class? {value : Value} {found : ClassId}
    (isClass : value.class? = some found) : value.isNull = false := by
  cases value with
  | null => cases isClass
  | _ => rfl

/-- The machine's cast leaves the value where it is; the direct one hands it on. -/
theorem direct_cast_eq (model : TypeModel World) (target : ClassId) (value : Value) :
    Direct.cast model target value =
      checkCast model value target >>= fun _ => pure value := by
  unfold Direct.cast Direct.passes checkCast
  cases isClass : value.class? with
  | none =>
      by_cases isNull : value.isNull = true
      · simp [isNull]
      · simp [isNull]
  | some found =>
      rw [isNull_eq_false_of_class? isClass]
      by_cases same : found = target
      · simp [same]
      · simp only [same, Bool.false_eq_true, if_false, bind_assoc]
        refine bind_congr fun assignable => ?_
        cases assignable <;> simp

/-! ## Members -/

/-- A member is reached in one way, by the machine and directly. -/
theorem ofMember_eq {Result : Type} (outcome : StateM World (Except String Result)) :
    ofMember outcome = Direct.reach outcome := by
  have asked :
      (liftM outcome : Call World (Except String Result)).run = Except.ok <$> outcome := rfl
  have adapted : (Direct.reach outcome).run = Except.mapError AccessError.target <$> outcome := rfl
  refine ExceptT.ext ?_
  rw [adapted, ofMember, ExceptT.run_bind, asked, bind_map_left, map_eq_pure_bind]
  refine bind_congr fun result => ?_
  cases result with
  | ok result => rfl
  | error failure => rfl

/-- An owner that must not be null. -/
theorem nonNull_bind {Result : Type} (owner : Value) (use : Value → Call World Result) :
    nonNull owner >>= use = if owner = .null then throw .nullReceiver else use owner := by
  cases owner with
  | null => rfl
  | _ => simp [nonNull, Value.isNull]

namespace LinkedImage

/-! ## Conversions -/

section Conversions

variable {linked : LinkedImage World} {frame : Frame} {final assembler : Assembler}
  {stack : List Value} (makes : final.Makes linked.image) (sound : assembler.Sound)
include makes sound

theorem answers_cast {target : ClassId} {value : Value} {onward : Value → Call World Value}
    (moves : Assembler.Assembles (Dispatcher.cast target assembler) final)
    (rest : ∀ same,
      linked.Answers frame (Dispatcher.cast target assembler).offset (same :: stack)
        (onward same)) :
    linked.Answers frame assembler.offset (value :: stack)
      (Direct.castUnlessObject linked.model target value >>= onward) := by
  unfold Direct.castUnlessObject
  by_cases isObject : target = ClassId.object
  · rw [Dispatcher.cast, if_pos isObject] at rest
    rw [if_pos isObject, pure_bind]
    exact rest value
  · rw [Dispatcher.cast, if_neg isObject] at moves rest
    rw [if_neg isObject, direct_cast_eq, bind_assoc]
    simp only [pure_bind]
    have interned := (Assembler.Move.intern assembler (.classRef target)).sound sound
    have named := makes.constant?_intern
      ((Assembler.Assembles.single (.emitCall ..)).trans moves) sound
    rw [← Assembler.offset_intern assembler (.classRef target)]
    exact Answers.of_emitCall makes interned moves (fun _ => value :: stack)
      (execute_checkCast named) fun _ => rest value

theorem answers_loadReceiver {description : TypeDescription} {onward : Value → Call World Value}
    (moves : Assembler.Assembles (Dispatcher.loadReceiver description assembler) final)
    (rest : ∀ owner,
      linked.Answers frame (Dispatcher.loadReceiver description assembler).offset
        (owner :: stack) (onward owner)) :
    linked.Answers frame assembler.offset stack
      (Direct.castUnlessObject linked.model description.classId frame.receiver >>= onward) := by
  have loaded := Dispatcher.cast_assembles (assembler.emit .loadReceiver) description.classId
  have emitted := (Dispatcher.emit_assembles assembler .loadReceiver).sound sound
  exact Answers.of_emit makes sound (loaded.trans moves) execute_loadReceiver
    (answers_cast makes emitted moves rest)

theorem answers_coerce {type : ValueType} {value : Value} {onward : Value → Call World Value}
    (moves : Assembler.Assembles (Dispatcher.coerce type assembler) final)
    (rest : ∀ converted,
      linked.Answers frame (Dispatcher.coerce type assembler).offset (converted :: stack)
        (onward converted)) :
    linked.Answers frame assembler.offset (value :: stack)
      (Direct.convert linked.model type value >>= onward) := by
  cases type with
  | reference target => exact answers_cast makes sound moves rest
  | void =>
      rw [Direct.convert, pure_bind]
      exact rest value
  | primitive kind =>
      exact Answers.of_emitCall makes sound moves (fun converted => converted :: stack)
        execute_unbox rest

/-- Arguments are loaded from left to right, each converted before the next one is looked at, and
come to stand on the stack with the last one on top. -/
theorem answers_loadArguments {arguments loadedArguments : List Value} {index : Nat}
    {parameters : List ValueType} {loaded : Assembler} {onward : List Value → Call World Value}
    (done : Dispatcher.loadArguments index parameters assembler = .ok loaded)
    (moves : Assembler.Assembles loaded final) (present : frame.arguments = some arguments)
    (following : arguments.drop index = loadedArguments)
    (enough : loadedArguments.length = parameters.length)
    (rest : ∀ converted, converted.length = parameters.length →
      linked.Answers frame loaded.offset (converted.reverse ++ stack) (onward converted)) :
    linked.Answers frame assembler.offset stack
      (Direct.convertAll linked.model parameters loadedArguments >>= onward) := by
  induction parameters generalizing index assembler stack loadedArguments onward with
  | nil =>
      obtain rfl := Except.ok.inj done
      rw [Direct.convertAll.eq_def]
      simp only [pure_bind]
      exact rest [] rfl
  | cons type types inductionHypothesis =>
      rw [Dispatcher.loadArguments] at done
      split at done
      · rename_i small
        cases loadedArguments with
        | nil => cases enough
        | cons argument others =>
            have emits := Dispatcher.emit_assembles assembler (.loadArgument (UInt16.ofNat index))
            have coerces := Dispatcher.coerce_assembles
              (assembler.emit (.loadArgument (UInt16.ofNat index))) type
            have loads := Dispatcher.loadArguments_assembling _ _ _ _ done
            have found : arguments[(UInt16.ofNat index).toNat]? = some argument := by
              rw [UInt16.toNat_ofNat_of_lt' small, ← Nat.add_zero index, ← List.getElem?_drop,
                following]
              rfl
            have after : arguments.drop (index + 1) = others := by
              rw [← List.drop_drop, following]
              rfl
            rw [Direct.convertAll, bind_assoc]
            simp only [bind_assoc, pure_bind]
            refine Answers.of_emit makes sound (coerces.trans (loads.trans moves))
              (execute_loadArgument present found) ?_
            refine answers_coerce makes (emits.sound sound) (loads.trans moves)
              fun converted => ?_
            refine inductionHypothesis (coerces.sound (emits.sound sound)) done after
              (Nat.succ.inj enough) fun others size => ?_
            have whole := rest (converted :: others) (congrArg Nat.succ size)
            rwa [List.reverse_cons, List.append_assoc] at whole
      · cases done

/-! ## Answers -/

theorem answers_returnTop {value : Value}
    (moves : Assembler.Assembles (assembler.emit .returnTop) final) :
    linked.Answers frame assembler.offset (value :: stack) (pure value) := by
  refine Answers.of_emit_last makes sound moves ?_
  rw [pure_bind]
  exact execute_returnTop

/-- A result is checked against its declared type before it is answered. -/
theorem answers_boxed {type : ValueType} {result : Value}
    (moves : Assembler.Assembles ((assembler.emitBox type).emit .returnTop) final) :
    linked.Answers frame assembler.offset (result :: stack) (result.boxedAs type) := by
  cases type with
  | void => exact answers_returnTop makes sound moves
  | reference target => exact answers_returnTop makes sound moves
  | primitive kind =>
      have boxes := Dispatcher.emit_assembles assembler (.box kind)
      have returns := (Dispatcher.emit_assembles ..).trans moves
      show linked.Answers frame assembler.offset (result :: stack) (liftM (result.boxed kind))
      rw [← bind_pure (liftM (result.boxed kind) : Call World Value)]
      exact Answers.of_emitCall makes sound returns (fun checked => checked :: stack) execute_box
        fun checked => answers_returnTop makes (boxes.sound sound) moves

end Conversions

end LinkedImage

end OrdinalDispatch.Machine

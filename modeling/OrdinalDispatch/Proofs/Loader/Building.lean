import OrdinalDispatch.Proofs.Code.PoolSize
import OrdinalDispatch.Proofs.Loader.Requests

/-!
Contract: which descriptions have a dispatcher.

Owns: the exact condition under which building fails, the error it fails with,
and the size of the pool if it does not.

Does not own: that the code is addressable, which is checked when an image is
installed.
-/

set_option autoImplicit false

namespace OrdinalDispatch.Loader

open Code Code.Dispatcher

section Failures

variable {World : Type}

/-- A generator fails with the cause that a description cannot be built for, and names the
description. -/
theorem install_of_unbuilt {generator : Generator World} {classId : ClassId} {place : UnitPlace}
    {context : UInt32} {scene : Scene World} {finish : World} {description : TypeDescription}
    {cause : ImageError}
    (described : (generator.model.describe classId).run scene.world = (some description, finish))
    (failed : Image.ofDescription description = .error cause) :
    ((generator.install classId place context).run scene).1 =
      .error (.malformedImage description.name cause) := by
  unfold Generator.install
  rw [run_bind_of_run (run_ask described)]
  simp only [failed]
  rfl

end Failures

variable {description : TypeDescription}

/-- Too many parameters are reported first, and where there are none nothing but the pool can be at
fault. -/
theorem cause_of_failed {cause : ImageError}
    (failed : Image.ofDescription description = .error cause) :
    match overlong? (parameterLists description) with
    | some parameters =>
        cause = .tooManyParameters parameters.length ∧
          cause.message = toString parameters.length ++ " parameters exceed the encodable limit"
    | none => ∃ count, 0 < count ∧ cause = .assembly (List.replicate count .poolOverflow) ∧
        cause.message =
          String.intercalate "; " (List.replicate count "constant pool overflow") := by
  cases long : overlong? (parameterLists description) with
  | some parameters =>
      obtain rfl := Except.error.inj (failed.symm.trans (Image.ofDescription_overlong long))
      exact ⟨rfl, rfl⟩
  | none =>
      rcases Image.ofDescription_cases long with ⟨-, image, built, -⟩ | ⟨-, count, some, overfull⟩
      · rw [built] at failed
        cases failed
      · obtain rfl := Except.error.inj (failed.symm.trans overfull)
        refine ⟨count, some, rfl, ?_⟩
        rw [ImageError.message, AssemblyFault.listMessage, List.map_replicate]
        rfl

/-- Building fails for a list of parameters that is too long, or for a pool that is too small, and
for nothing else. -/
theorem failed_iff :
    (∃ cause, Image.ofDescription description = .error cause) ↔
      (∃ parameters ∈ parameterLists description, 65535 < parameters.length) ∨
        65536 < poolSize description := by
  cases long : overlong? (parameterLists description) with
  | some parameters =>
      have isLong := long_of_overlong? long
      exact iff_of_true ⟨_, Image.ofDescription_overlong long⟩ (.inl ⟨parameters, isLong⟩)
  | none =>
      have few : ¬∃ parameters ∈ parameterLists description, 65535 < parameters.length := by
        rintro ⟨parameters, member, many⟩
        exact Nat.not_le.mpr (overlong?_eq_none_iff.mp long parameters member) many
      have fits := fits_constantsOf_iff long
      rw [or_iff_right few, ← Nat.not_le]
      rcases Image.ofDescription_cases long with ⟨room, image, built, -⟩ | ⟨full, count, -, failed⟩
      · refine iff_of_false ?_ (not_not.mpr (fits.mp room))
        rintro ⟨cause, failed⟩
        rw [built] at failed
        cases failed
      · exact iff_of_true ⟨_, failed⟩ (fits.not.mp full)

/-- A dispatcher can be built unless a constructor or a method has more than 65535 parameters, or
its constants are more than 65536. A generator that is asked for a class described so names the
description, and reports the first such list of parameters, else as many overflows of the pool as
there were. What is built has each of the constants exactly once. -/
theorem descriptions_fail_beyond_the_limits_only (description : TypeDescription) :
    ((∃ cause, Image.ofDescription description = .error cause) ↔
      (∃ parameters ∈ parameterLists description, 65535 < parameters.length) ∨
        65536 < poolSize description) ∧
    (∀ cause, Image.ofDescription description = .error cause →
      (match overlong? (parameterLists description) with
      | some parameters =>
          cause = .tooManyParameters parameters.length ∧
            cause.message = toString parameters.length ++ " parameters exceed the encodable limit"
      | none => ∃ count, 0 < count ∧ cause = .assembly (List.replicate count .poolOverflow) ∧
          cause.message =
            String.intercalate "; " (List.replicate count "constant pool overflow")) ∧
      ∀ (World : Type) (generator : Generator World) (classId : ClassId) (place : UnitPlace)
          (context : UInt32) (scene : Scene World) (finish : World),
        (generator.model.describe classId).run scene.world = (some description, finish) →
        ((generator.install classId place context).run scene).1 =
          .error (.malformedImage description.name cause)) ∧
    ∀ image, Image.ofDescription description = .ok image →
      image.constants.size = poolSize description ∧ image.constants.toList.Nodup := by
  refine ⟨failed_iff, fun cause failed => ⟨cause_of_failed failed, ?_⟩, fun image built => ?_⟩
  · intro World generator classId place context scene finish described
    exact install_of_unbuilt described failed
  · exact ⟨Image.size_constants built, Image.nodup_constants built⟩

example : poolSize counter = 11 := by decide

end OrdinalDispatch.Loader

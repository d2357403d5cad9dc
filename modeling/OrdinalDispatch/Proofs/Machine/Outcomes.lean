import OrdinalDispatch.Machine.Step

/-!
Contract: what a computation of the machine comes to, whatever world it starts
in.

Owns: the statement that every result is good and every failure permitted, and
how it follows from the same statement about the parts.

Does not own: which results and failures the machine has.
-/

set_option autoImplicit false

namespace OrdinalDispatch.Machine

/-- Whether a failure blames the code for it, and not the caller, the model or a member. -/
def BlamesCode : AccessError → Prop
  | .corruptCode _ _ | .constructedOther _ => True
  | _ => False

variable {World Result Next : Type}

/-- In every world, the call answers with a good result or fails for a permitted reason. -/
def Ensures (call : Call World Result) (good : Result → Prop) (permitted : AccessError → Prop) :
    Prop :=
  ∀ world, match (call.run.run world).1 with
    | .ok result => good result
    | .error error => permitted error

/-- A call and what follows it, in one world. -/
theorem run_bind (call : Call World Result) (next : Result → Call World Next) (world : World) :
    (call >>= next).run.run world =
      match call.run.run world with
      | (.ok result, after) => (next result).run.run after
      | (.error error, after) => (.error error, after) := by
  rw [ExceptT.run_bind, StateT.run_bind]
  rcases call.run.run world with ⟨outcome, after⟩
  cases outcome <;> rfl

namespace Ensures

variable {good : Result → Prop} {permitted : AccessError → Prop}

theorem ofPure {result : Result} (isGood : good result) :
    Ensures (pure result : Call World Result) good permitted :=
  fun _ => isGood

theorem ofThrow {error : AccessError} (isPermitted : permitted error) :
    Ensures (throw error : Call World Result) good permitted :=
  fun _ => isPermitted

theorem weaken {call : Call World Result} {better : Result → Prop} {fewer : AccessError → Prop}
    (ensures : Ensures call better fewer) (isGood : ∀ result, better result → good result)
    (isPermitted : ∀ error, fewer error → permitted error) : Ensures call good permitted := by
  intro world
  have outcome := ensures world
  cases answered : (call.run.run world).1 with
  | ok result =>
      rw [answered] at outcome
      exact isGood result outcome
  | error error =>
      rw [answered] at outcome
      exact isPermitted error outcome

/-- What follows may rely on a good result. -/
theorem bind {call : Call World Result} {next : Result → Call World Next}
    {between : Result → Prop} {last : Next → Prop} (ensures : Ensures call between permitted)
    (follows : ∀ result, between result → Ensures (next result) last permitted) :
    Ensures (call >>= next) last permitted := by
  intro world
  have outcome := ensures world
  rw [run_bind]
  rcases answered : call.run.run world with ⟨result, after⟩
  rw [answered] at outcome
  cases result with
  | error error => exact outcome
  | ok result => exact follows result outcome after

/-- A question to the model does not fail. -/
theorem ofModel (question : StateM World Result) :
    Ensures (liftM question : Call World Result) (fun _ => True) permitted :=
  fun _ => trivial

/-- A conversion fails in one way, if it fails. -/
theorem ofExcept {conversion : Except AccessError Result}
    (fails : ∀ error, conversion = .error error → permitted error) :
    Ensures (liftM conversion : Call World Result) (fun _ => True) permitted := by
  cases conversion with
  | ok result => exact fun _ => trivial
  | error error => exact fun _ => fails error rfl

end Ensures

end OrdinalDispatch.Machine

import OrdinalDispatch.Proofs.Code.Flow
import OrdinalDispatch.Proofs.Machine.Effects
import OrdinalDispatch.Proofs.Machine.VerifiedRuns

/-!
Contract: runs of built code go forward only, and keep to the stack that was
tracked when the code was assembled.

Owns: that each instruction takes and gives as many operands as were tracked,
that every state of a run follows the flow of the code, and what that means for
the order of the places it visits, for its stack and for its end.

Does not own: what the run answers, see
`OrdinalDispatch.Proofs.Machine.Invocation`,
`OrdinalDispatch.Proofs.Machine.FieldAccess` and
`OrdinalDispatch.Proofs.Machine.Construction`.
-/

set_option autoImplicit false

namespace OrdinalDispatch.Machine

open OrdinalDispatch.Code

variable {World : Type}

/-! ## Failures that are left -/

/-- Faults of code that lacks neither operands on the stack nor instructions. -/
def LeftByLayout : CodeFault → Prop
  | .argumentOutOfRange | .arityLookupFailed => True
  | _ => False

/-- Failures that runs of built code can end in: no operand was missing, and no end was run off. -/
def Orderly : AccessError → Prop
  | .corruptCode fault _ => LeftByLayout fault
  | .constructedOther _ => False
  | _ => True

theorem Blameless.orderly {Result : Type} {call : Call World Result}
    (blameless : Blameless call) : Ensures call (fun _ => True) Orderly := by
  refine blameless.weaken (fun _ good => good) fun error blames => ?_
  cases error with
  | corruptCode => exact absurd trivial blames
  | constructedOther => exact absurd trivial blames
  | _ => trivial

/-! ## Steps -/

/-- The machine goes on behind an instruction with so many operands on the stack. -/
def Paces (offset : Nat) (depth : Nat) : Progress → Prop
  | .next state => state.offset = offset ∧ state.stack.length = depth
  | .answer _ => False

section Steps

variable {image : Image} {linkage : Linkage World} {model : TypeModel World} {frame : Frame}
  {stack : List Value} {offset : Nat}

theorem popMany_eq {count : Nat} (enough : count ≤ stack.length) :
    (popMany stack count offset : Call World (List Value × List Value)) =
      pure ((stack.take count).reverse, stack.drop count) := by
  rw [popMany, if_pos enough]

theorem exists_cons_of_pos (occupied : 0 < stack.length) :
    ∃ value rest, stack = value :: rest ∧ stack.length = rest.length + 1 := by
  cases stack with
  | nil => cases occupied
  | cons value rest => exact ⟨value, rest, rfl, rfl⟩

theorem illegal_orderly {Result : Type} {good : Result → Prop} {index : UInt16}
    {constant : Constant} (named : image.constant? index = some constant)
    (admits : ConstantKind.message.admits constant) :
    Ensures (illegal image index offset : Call World Result) good Orderly := by
  cases constant with
  | message text =>
      rw [illegal_eq named]
      exact .ofThrow trivial
  | _ => cases admits

/-- What a call needs of its operands to come to its member. -/
theorem call_paces {kind : CallKind} {index : UInt16} {description : MethodDescription}
    {handle : Option (MethodHandle World)}
    (entry : linkage.member? index = some (.method description handle))
    (enough : description.parameters.length + (if kind = .static then 0 else 1) ≤ stack.length) :
    Ensures (call image linkage model stack offset kind index)
      (fun answered => answered.2.length =
        stack.length - (description.parameters.length + if kind = .static then 0 else 1))
      Orderly := by
  unfold call
  simp only [entry]
  rw [popMany_eq (by omega), pure_bind]
  dsimp only
  by_cases isStatic : kind = .static
  · simp only [if_pos isStatic] at enough ⊢
    exact (blameless_declaredBody description handle _).orderly.bind fun body _ =>
      (blameless_ofMember _).orderly.bind fun result _ => .ofPure List.length_drop
  · simp only [if_neg isStatic] at enough ⊢
    obtain ⟨owner, rest, below, length⟩ :=
      @exists_cons_of_pos (stack.drop description.parameters.length) (by
        rw [List.length_drop]
        omega)
    rw [List.length_drop] at length
    rw [below, popOne, pure_bind]
    refine (blameless_nonNull owner).orderly.bind fun receiver _ => ?_
    have runs : ∀ body : MethodHandle World,
        Ensures (ofMember (body receiver
            (stack.take description.parameters.length).reverse) >>= fun result =>
          (pure (result, rest) : Call World (Value × List Value)))
          (fun answered => answered.2.length =
            stack.length - (description.parameters.length + 1)) Orderly :=
      fun body => (blameless_ofMember _).orderly.bind fun result _ => .ofPure (by
        show rest.length = _
        omega)
    by_cases special : kind = .special
    · simp only [if_pos special]
      exact (blameless_declaredBody description handle _).orderly.bind fun body _ => runs body
    · simp only [if_neg special]
      exact (blameless_dispatchedBody model image.target description handle _).orderly.bind
        fun body _ => runs body

/-- The owner of a field is taken off the stack unless the field is static. -/
theorem fieldOwner_paces {isStatic : Bool}
    (enough : (if isStatic then 0 else 1) ≤ stack.length) :
    Ensures (fieldOwner isStatic stack offset : Call World (Value × List Value))
      (fun owned => owned.2.length = stack.length - if isStatic then 0 else 1) Orderly := by
  cases isStatic with
  | true => exact .ofPure rfl
  | false =>
      obtain ⟨owner, rest, rfl, -⟩ := exists_cons_of_pos enough
      exact (blameless_nonNull owner).orderly.bind fun receiver _ => .ofPure rfl

variable {start finish : World} {argumentCount : UInt64} {behind : Nat}
  {instruction : Instruction Label}
  (linked : (Linkage.ofImage model image).run start = (.ok linkage, finish))
  (named : ∀ operand ∈ instruction.poolOperands, ∃ constant,
    image.constant? operand.1 = some constant ∧ operand.2.admits constant = true ∧
      ∀ arity, constant.arity? = some arity → Assembler.Counts argumentCount arity)
include linked named

/-- An instruction that goes on takes and gives what is tracked for it. -/
theorem execute_paces (place : Label → UInt32) (continues : instruction.continues = true)
    (enough : Assembler.operandsTaken argumentCount instruction ≤ stack.length)
    (occupied : instruction.looksAtTop = true → 0 < stack.length) :
    Ensures (execute image linkage model frame stack offset behind (instruction.mapTargets place))
      (Paces behind
        (stack.length - Assembler.operandsTaken argumentCount instruction +
          Assembler.operandsGiven instruction)) Orderly := by
  cases instruction with
  | checkArguments message =>
      obtain ⟨constant, isNamed, admits, -⟩ := named _ (List.mem_singleton_self _)
      unfold execute Instruction.mapTargets
      dsimp only
      split
      · exact illegal_orderly isNamed admits
      · exact .ofPure ⟨rfl, rfl⟩
  | checkBounds count message =>
      obtain ⟨constant, isNamed, admits, -⟩ := named _ (List.mem_singleton_self _)
      unfold execute Instruction.mapTargets
      dsimp only
      split
      · exact .ofPure ⟨rfl, rfl⟩
      · exact illegal_orderly isNamed admits
  | checkArity table message =>
      obtain ⟨tableConstant, tabled, isTable, -⟩ := named _ List.mem_cons_self
      obtain ⟨constant, isNamed, admits, -⟩ :=
        named _ (List.mem_cons_of_mem _ (List.mem_singleton_self _))
      cases tableConstant with
      | arityTable arities =>
          unfold execute Instruction.mapTargets
          simp only [tabled]
          split
          · split
            · exact .ofPure ⟨rfl, rfl⟩
            · exact illegal_orderly isNamed admits
          · exact .ofThrow trivial
      | _ => cases isTable
  | tableSwitch fallback targets => cases continues
  | throwIllegal message => cases continues
  | throwNoDefault => cases continues
  | loadReceiver => exact .ofPure ⟨rfl, rfl⟩
  | loadArgument index =>
      unfold execute Instruction.mapTargets
      dsimp only
      split
      · exact .ofPure ⟨rfl, rfl⟩
      · exact .ofThrow trivial
  | loadValue => exact .ofPure ⟨rfl, rfl⟩
  | constNull => exact .ofPure ⟨rfl, rfl⟩
  | pop =>
      obtain ⟨value, rest, rfl, -⟩ := exists_cons_of_pos enough
      exact .ofPure ⟨rfl, rfl⟩
  | unbox kind =>
      obtain ⟨value, rest, rfl, -⟩ := exists_cons_of_pos (occupied rfl)
      exact (blameless_unbox kind value).orderly.bind fun converted _ => .ofPure ⟨rfl, rfl⟩
  | box kind =>
      obtain ⟨value, rest, rfl, -⟩ := exists_cons_of_pos (occupied rfl)
      exact (blameless_boxed kind value).orderly.bind fun checked _ => .ofPure ⟨rfl, rfl⟩
  | checkCast index =>
      obtain ⟨value, rest, rfl, -⟩ := exists_cons_of_pos (occupied rfl)
      obtain ⟨constant, isNamed, admits, -⟩ := named _ (List.mem_singleton_self _)
      cases constant with
      | classRef target =>
          rw [Instruction.mapTargets, execute_checkCast isNamed]
          exact (blameless_checkCast model value target).orderly.bind fun _ _ => .ofPure ⟨rfl, rfl⟩
      | _ => cases admits
  | construct index =>
      obtain ⟨constant, isNamed, admits, counted⟩ := named _ (List.mem_singleton_self _)
      obtain ⟨ordinal, parameters, handle, rfl, entry⟩ :=
        linked_constructor linked isNamed admits
      rw [Assembler.operandsTaken, (counted _ rfl).1] at enough ⊢
      unfold execute Instruction.mapTargets
      simp only [entry, popMany_eq enough, pure_bind]
      refine (blameless_ofMember _).orderly.bind fun made _ => .ofPure ⟨rfl, ?_⟩
      rw [List.length_cons, List.length_drop]
      rfl
  | invoke kind index =>
      obtain ⟨constant, isNamed, admits, counted⟩ := named _ (List.mem_singleton_self _)
      obtain ⟨ordinal, name, returnType, description, handle, rfl, entry⟩ :=
        linked_method linked isNamed admits
      rw [Dispatcher.operandsTaken_invoke (counted _ rfl)] at enough ⊢
      refine (call_paces entry enough).bind fun answered length => .ofPure ⟨rfl, ?_⟩
      rw [List.length_cons, length]
      rfl
  | getField isStatic index =>
      obtain ⟨constant, isNamed, admits, -⟩ := named _ (List.mem_singleton_self _)
      obtain ⟨handle, entry⟩ := linked_field linked isNamed admits
      rw [Dispatcher.operandsTaken_getField] at enough ⊢
      unfold execute Instruction.mapTargets
      simp only [fieldHandle_eq entry, pure_bind]
      refine (fieldOwner_paces enough).bind fun owned length =>
        (blameless_ofMember _).orderly.bind fun result _ => .ofPure ⟨rfl, ?_⟩
      rw [List.length_cons, length]
      rfl
  | putField isStatic index =>
      obtain ⟨constant, isNamed, admits, -⟩ := named _ (List.mem_singleton_self _)
      obtain ⟨handle, entry⟩ := linked_field linked isNamed admits
      rw [Dispatcher.operandsTaken_putField] at enough ⊢
      have occupied : 0 < stack.length := by omega
      obtain ⟨value, rest, rfl, length⟩ := exists_cons_of_pos occupied
      rw [length] at enough ⊢
      have owned : (if isStatic then 0 else 1) ≤ rest.length := by omega
      unfold execute Instruction.mapTargets
      simp only [fieldHandle_eq entry, popOne, pure_bind]
      refine (fieldOwner_paces owned).bind fun owned below =>
        (blameless_ofMember _).orderly.bind fun _ _ => .ofPure ⟨rfl, ?_⟩
      rw [below]
      simp only [Assembler.operandsGiven.eq_def]
      omega
  | returnTop => cases continues
  | returnNull => cases continues

end Steps

/-! ## Runs -/

/-- The machine stands where assembly stood once, on a flow of the code, with as many operands as
were tracked there. -/
structure Follows (final : Assembler) (state : State) (assembler : Assembler) : Prop where
  origin : Assembler.Assembles {} assembler
  leads : Assembler.Leads final assembler
  clear : assembler.ClearAtLabels
  offset : state.offset = assembler.offset
  depth : state.stack.length = assembler.depth

/-- The run ends at a return, which takes all that is on the stack. -/
def Returns (image : Image) (state : State) (value : Value) : Prop :=
  (Instruction.decode image.code state.offset = .ok .returnTop ∧ state.stack = [value]) ∨
    (Instruction.decode image.code state.offset = .ok .returnNull ∧ state.stack = [] ∧
      value = .null)

/-- The machine goes on further ahead, on a flow of the code, or returns. -/
def Proceeds (image : Image) (final : Assembler) (state : State) : Progress → Prop
  | .next next => state.offset < next.offset ∧ ∃ assembler, Follows final next assembler
  | .answer value => Returns image state value

section Runs

variable {image : Image} {linkage : Linkage World} {model : TypeModel World} {frame : Frame}
  {final assembler : Assembler} {state : State} {start finish : World}

/-- Operands that fit where assembly stood name constants of the finished image. -/
theorem named_of_fits (makes : final.Makes image)
    (moves : Assembler.Assembles assembler final) (sound : assembler.Sound) {argumentCount : UInt64}
    {instruction : Instruction Label} (fits : assembler.Fits argumentCount instruction) :
    ∀ operand ∈ instruction.poolOperands, ∃ constant,
      image.constant? operand.1 = some constant ∧ operand.2.admits constant = true ∧
        ∀ arity, constant.arity? = some arity → Assembler.Counts argumentCount arity := by
  intro operand isOperand
  obtain ⟨constant, entry, isKind⟩ :=
    ((fits operand isOperand).later (moves.extends_of_sound sound)) makes.faults
  exact ⟨constant, by rw [Image.constant?, makes.constants, entry], isKind⟩

variable (makes : final.Makes image)
  (linked : (Linkage.ofImage model image).run start = (.ok linkage, finish))
include makes linked

/-- A step on a flow stays on it, goes ahead, or returns. -/
theorem step_proceeds (follows : Follows final state assembler) :
    Ensures (step image linkage model frame state) (Proceeds image final state) Orderly := by
  obtain ⟨origin, leads, clear, offset, depth⟩ := follows
  -- on the flow only moves without an instruction come before the next instruction
  induction leads with
  | @onward before after move rest inductionHypothesis =>
      have moved := origin.trans (Assembler.Assembles.single move.move)
      have onward := inductionHypothesis moved (move.clearAtLabels origin clear)
      cases move with
      | emitCall argumentCount instruction fits continues occupied =>
          have sound := origin.sound Assembler.sound_empty
          have emitted := (Assembler.Move.emitCall before argumentCount instruction).sound sound
          have enough := Assembler.le_depth_of_emitCall before
            ((rest.assembles.extends_of_sound emitted).faults makes.faults)
          have named := named_of_fits makes
            ((Assembler.Assembles.single (.emitCall ..)).trans rest.assembles) sound fits
          have decoded := makes.decode rest.assembles sound
          rw [← offset] at decoded
          rw [← depth] at enough occupied
          rw [step_eq decoded, Instruction.size_mapTargets]
          refine (execute_paces linked named final.writtenPlace continues enough occupied).weaken
            (fun progress paces => ?_) fun _ orderly => orderly
          cases progress with
          | answer value => exact paces.elim
          | next next =>
              have positive := instruction.size_pos
              refine ⟨by rw [paces.1]; omega, _, moved, rest,
                Assembler.clearAtLabels_emitCall origin argumentCount instruction, ?_, ?_⟩
              · rw [paces.1, offset, Assembler.offset_emitCall]
              · rw [paces.2, depth, Assembler.depth_emitCall]
      | intern constant =>
          exact onward (offset.trans (Assembler.offset_intern before constant).symm)
            (depth.trans (Assembler.depth_intern before constant).symm)
      | defineLabel => exact onward offset depth
      | mark label _ empty =>
          exact onward (offset.trans (Assembler.offset_mark before label).symm)
            (depth.trans (empty.trans (Assembler.depth_mark before label).symm))
  | returns answer isReturn exactly moves =>
      have decoded := makes.decode moves (origin.sound Assembler.sound_empty)
      rw [← offset] at decoded
      rw [exactly] at depth
      cases isReturn with
      | top =>
          obtain ⟨value, isStack⟩ := List.length_eq_one_iff.mp depth
          rw [step_eq decoded, isStack]
          exact .ofPure (.inl ⟨decoded, isStack⟩)
      | null =>
          rw [step_eq decoded]
          exact .ofPure (.inr ⟨decoded, List.length_eq_zero_iff.mp depth, rfl⟩)
  | @throws before failure isThrow fits moves =>
      have sound := origin.sound Assembler.sound_empty
      have decoded := makes.decode moves sound
      rw [← offset] at decoded
      rw [step_eq decoded]
      have named := named_of_fits makes
        ((Assembler.Assembles.single (.emitCall before 0 failure)).trans moves) sound fits
      cases isThrow with
      | illegal message =>
          obtain ⟨constant, isNamed, admits, -⟩ := named _ (List.mem_singleton_self _)
          exact illegal_orderly isNamed admits
      | noDefault => exact .ofThrow trivial
  | @switches before fallback targets empty moves begins reaches rest =>
      have sound := origin.sound Assembler.sound_empty
      have decoded := makes.decode moves sound
      rw [← offset] at decoded
      rw [step_eq decoded]
      have jumps : ∀ target ∈ (fallback :: targets).map final.writtenPlace,
          Proceeds image final state (.next ⟨target.toNat, state.stack⟩) := by
        intro target isTarget
        obtain ⟨label, isLabel, rfl⟩ := List.mem_map.mp isTarget
        obtain ⟨ahead, behind⟩ := reaches label isLabel
        have switched :=
          (Assembler.Move.emitCall before 0 (.tableSwitch fallback targets)).sound sound
        have grows := (ahead.extends_of_sound switched).offset
        have positive := (Instruction.tableSwitch fallback targets).size_pos
        have marked := Assembler.offset_mark (begins label isLabel) label
        have cleared := Assembler.depth_mark (begins label isLabel) label
        rw [makes.writtenPlace_mark behind (ahead.sound switched)]
        rw [Assembler.offset_emit] at grows
        refine ⟨by show state.offset < (begins label isLabel).offset; omega, _, ?_,
          rest label isLabel, .inl cleared, marked.symm, depth.trans (empty.trans cleared.symm)⟩
        exact origin.trans ((Assembler.Assembles.single (.emitCall ..)).trans
          (ahead.trans (.single (.mark ..))))
      refine .ofPure (jumps _ ?_)
      split
      · exact getD_mem_cons _ _ _
      · exact List.mem_cons_self

end Runs

/-- The states that runs from an entry point come to, each with the places that the run has visited
before it, in order, and the world that the run has made. -/
inductive Visits (linked : LinkedImage World) (entryPoint : EntryPoint) (frame : Frame) :
    List Nat → State → World → Prop where
  | enter (world : World) :
      Visits linked entryPoint frame [] ⟨linked.image.entry entryPoint, []⟩ world
  | step {visited : List Nat} {state next : State} {world after : World}
      (reached : Visits linked entryPoint frame visited state world)
      (stepped : (step linked.image linked.linkage linked.model frame state).run.run world =
        (.ok (.next next), after)) :
      Visits linked entryPoint frame (visited ++ [state.offset]) next after

/-- The place of an instruction that a switch jumps to. -/
def IsJumpTarget (image : Image) (offset : Nat) : Prop :=
  ∃ row ∈ (sweep image.code).instructions.toList, ∃ target ∈ row.2.targets, target.toNat = offset

/-- How many instructions start at an offset or behind it. -/
def instructionsFrom (image : Image) (offset : Nat) : Nat :=
  (sweep image.code).instructions.toList.countP fun row => offset ≤ row.1

/-- Fewer instructions are left further ahead. -/
theorem instructionsFrom_lt {image : Image} {offset further : Nat} (start : image.IsStart offset)
    (ahead : offset < further) :
    instructionsFrom image further < instructionsFrom image offset := by
  obtain ⟨instruction, member⟩ := start
  unfold instructionsFrom
  obtain ⟨front, back, rows⟩ := List.append_of_mem member
  have fewer (rows : List (Nat × Instruction UInt32)) :
      rows.countP (fun row => further ≤ row.1) ≤ rows.countP fun row => offset ≤ row.1 :=
    List.countP_mono_left fun row _ => by
      simp only [decide_eq_true_eq]
      omega
  have inFront := fewer front
  have behind := fewer back
  rw [rows, List.countP_append, List.countP_append, List.countP_cons_of_neg (by simpa using ahead),
    List.countP_cons_of_pos (by simp)]
  omega

/-- An accessor's runs may take a step for each instruction. -/
theorem size_sweep_le_fuel (linked : LinkedImage World) :
    (sweep linked.image.code).instructions.size ≤ linked.fuel := by
  have few := (sweep_splits linked.image.code).length_le (Nat.zero_le _)
  rw [Nat.zero_add, Array.length_toList] at few
  refine Nat.le_trans few (Nat.le_trans (Nat.le_add_right _ UInt16.size) ?_)
  exact Nat.le_mul_of_pos_left _ (Nat.succ_pos _)

section Built

variable {description : TypeDescription} {image : Image} {linkage : Linkage World}
  {model : TypeModel World} {frame : Frame} {entryPoint : EntryPoint} {state : State}
  {start finish : World} (built : Dispatcher.Built description image)
include built

/-- A run starts on a flow of the code. -/
theorem follows_entry (entryPoint : EntryPoint) :
    ∃ assembler, Follows built.final ⟨image.entry entryPoint, []⟩ assembler := by
  obtain ⟨assembler, offset, empty, origin, leads⟩ := built.entry_leads entryPoint
  exact ⟨assembler, origin, leads, .inl empty, offset, empty.symm⟩

/-- No more is on the stack than the image announces. -/
theorem Follows.length_le {assembler : Assembler} (follows : Follows built.final state assembler) :
    state.stack.length ≤ image.maxStack := by
  have covered := follows.origin.covered (Nat.le_refl 0)
  have highest := follows.leads.assembles.maxDepth_le
  rw [follows.depth, built.maxStack]
  exact Nat.le_trans covered highest

/-- Nothing is on the stack where a switch may have jumped to. -/
theorem Follows.stack_eq_nil {assembler : Assembler}
    (follows : Follows built.final state assembler)
    (isTarget : IsJumpTarget image state.offset) : state.stack = [] := by
  obtain ⟨row, member, target, isTarget, here⟩ := isTarget
  obtain ⟨label, found, -⟩ := built.label_of_target member isTarget
  rw [here, follows.offset] at found
  have empty := follows.leads.depth_eq_zero follows.origin follows.clear found
  exact List.length_eq_zero_iff.mp (follows.depth.trans empty)

theorem Follows.isStart {assembler : Assembler} (follows : Follows built.final state assembler) :
    image.IsStart state.offset := by
  rw [follows.offset]
  exact built.isStart_of_leads follows.leads (follows.origin.sound Assembler.sound_empty)

variable (linked : (Linkage.ofImage model image).run start = (.ok linkage, finish))
include linked

/-- Every state of a run is on a flow of the code, further ahead than all states before it. -/
theorem visits_follow {visited : List Nat} {world : World}
    (reached : Visits ⟨image, linkage, model⟩ entryPoint frame visited state world) :
    (∃ assembler, Follows built.final state assembler) ∧
      (visited ++ [state.offset]).Pairwise (· < ·) := by
  induction reached with
  | enter world => exact ⟨follows_entry built entryPoint, List.pairwise_singleton _ _⟩
  | @step visited state next world after reached stepped inductionHypothesis =>
      obtain ⟨⟨assembler, follows⟩, ascending⟩ := inductionHypothesis
      have ensures : Ensures (Machine.step image linkage model frame state)
          (Proceeds image built.final state) Orderly := step_proceeds built.makes linked follows
      have outcome := ensures world
      rw [stepped] at outcome
      refine ⟨outcome.2, List.pairwise_append.mpr ⟨ascending, List.pairwise_singleton _ _, ?_⟩⟩
      intro place isBefore last isLast
      obtain rfl := List.mem_singleton.mp isLast
      rcases List.mem_append.mp isBefore with earlier | here
      · have behind := (List.pairwise_append.mp ascending).2.2 place earlier _
          (List.mem_singleton_self _)
        exact Nat.lt_trans behind outcome.1
      · exact List.mem_singleton.mp here ▸ outcome.1

/-- A run that may take a step for each instruction from here on comes to its end. -/
theorem run_ends {assembler : Assembler} (follows : Follows built.final state assembler)
    {fuel : Nat} (enough : instructionsFrom image state.offset ≤ fuel) :
    Ensures (run image linkage model frame fuel state) (fun answer => answer.isSome) Orderly := by
  induction fuel generalizing state assembler with
  | zero =>
      have fewer := instructionsFrom_lt (follows.isStart built) (Nat.lt_succ_self _)
      omega
  | succ fuel inductionHypothesis =>
      refine (step_proceeds built.makes linked follows).bind fun progress proceeds => ?_
      cases progress with
      | answer value => exact .ofPure rfl
      | next next =>
          obtain ⟨ahead, following, onward⟩ := proceeds
          have fewer := instructionsFrom_lt (follows.isStart built) ahead
          exact inductionHypothesis onward (by omega)

end Built

/-- Built code announces the stack that its members need, and its switches lead ahead. In every
state of a run, all places visited so far are behind, no more is on the stack than announced, and
nothing is where a switch leads to; a step goes ahead or returns with all that was on the stack, and
never lacks an operand. The run ends after at most one step for each instruction, and so does every
run that an operation of an accessor starts. -/
theorem built_runs_keep_stack {description : TypeDescription} {image : Image}
    {model : TypeModel World} {linkage : Linkage World} {start finish : World}
    (built : Image.ofDescription description = .ok image) (short : image.code.size < 2 ^ 32)
    (linked : (Linkage.ofImage model image).run start = (.ok linkage, finish))
    (entryPoint : EntryPoint) (frame : Frame) :
    image.maxStack = description.operands ∧
      (∀ row ∈ (sweep image.code).instructions.toList, ∀ target ∈ row.2.targets,
        row.1 < target.toNat) ∧
      (∀ visited state world, Visits ⟨image, linkage, model⟩ entryPoint frame visited state world →
        (visited ++ [state.offset]).Pairwise (· < ·) ∧
          state.stack.length ≤ image.maxStack ∧
          (IsJumpTarget image state.offset → state.stack = []) ∧
          Ensures (step image linkage model frame state)
            (fun progress => match progress with
              | .next next => state.offset < next.offset
              | .answer value => Returns image state value)
            Orderly) ∧
      (∀ fuel, (sweep image.code).instructions.size ≤ fuel →
        Ensures (run image linkage model frame fuel ⟨image.entry entryPoint, []⟩)
          (fun answer => answer.isSome) Orderly) ∧
      Ensures ((LinkedImage.mk image linkage model).enter entryPoint frame)
        (fun answer => answer.isSome) Orderly := by
  obtain ⟨built⟩ := Dispatcher.ofDescription_ok built short
  have ends : ∀ fuel, (sweep image.code).instructions.size ≤ fuel →
      Ensures (run image linkage model frame fuel ⟨image.entry entryPoint, []⟩)
        (fun answer => answer.isSome) Orderly := by
    intro fuel enough
    obtain ⟨assembler, follows⟩ := follows_entry built entryPoint
    refine run_ends built linked follows (Nat.le_trans ?_ enough)
    exact Array.length_toList ▸ List.countP_le_length
  refine ⟨built.maxStack.trans built.stretches.maxDepth_final, ?_, ?_, ends,
    ends _ (size_sweep_le_fuel ⟨image, linkage, model⟩)⟩
  · intro row member target isTarget
    obtain ⟨label, -, ahead⟩ := built.label_of_target member isTarget
    exact ahead
  · intro visited state world reached
    obtain ⟨⟨assembler, follows⟩, ascending⟩ := visits_follow built linked reached
    refine ⟨ascending, follows.length_le built, follows.stack_eq_nil built, ?_⟩
    refine (step_proceeds built.makes linked follows).weaken (fun progress proceeds => ?_)
      fun _ orderly => orderly
    cases progress with
    | next next => exact proceeds.1
    | answer value => exact proceeds

theorem built_runs_keep_stack_counter :
    counterImage.maxStack = 2 ∧
      ∃ linkage, (Linkage.ofImage counterModel counterImage).run 0 = (.ok linkage, 0) ∧
        ∀ entryPoint frame visited state world,
          Visits ⟨counterImage, linkage, counterModel⟩ entryPoint frame visited state world →
            (visited ++ [state.offset]).Pairwise (· < ·) ∧ state.stack.length ≤ 2 := by
  refine ⟨rfl, ?_⟩
  obtain ⟨linkage, linked⟩ := counter_linked
  refine ⟨linkage, linked, fun entryPoint frame visited state world reached => ?_⟩
  have disciplined :=
    (built_runs_keep_stack counter_built counter_short linked entryPoint frame).2.2.1 visited state
      world reached
  exact ⟨disciplined.1, disciplined.2.1⟩

end OrdinalDispatch.Machine

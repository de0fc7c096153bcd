import Deepstrike.Bookkeeping
import Deepstrike.Rewinding

/-!
A kernel restored from its own checkpoint, next to the kernel that took it. What lies behind the
checkpoint is gone from the index: a repeated input is answered by reference. Everything else the
two answer alike, when the checkpoint was taken at rest and covers the whole tail.
-/
namespace Deepstrike.Kernel
open Wire Record Vocabulary Transaction Driver Lockstep KernelTransaction RecordIndex Option

variable {K : Parts}

section Transactions
variable {Step : Type} {C : Codec Step}

/-- An input id that was accepted before a fork. -/
def Seen (fork : KernelTransaction C) (input_id : InputId) : Prop :=
  fork.accepted[input_id]?.isSome ∨ fork.index.toList.any fun (key,_) => key.2 == input_id

/-- An input that settles again what was settled before a fork: an effect, or the cancellation. -/
def resettles (fork : KernelTransaction C) : KernelInput → Bool
  | .ResolveEffect effect_id _ => fork.resolved_effects[effect_id]?.isSome
  | .HostControl (.Cancel _ _) => fork.accepted_cancellation.isSome
  | _ => false

/-- An envelope that repeats what was accepted before a fork. -/
def Repeats (fork : KernelTransaction C) (envelope : WireEnvelope) : Prop :=
  Seen fork envelope.input_id ∨ resettles fork envelope.input

instance (fork : KernelTransaction C) (input_id : InputId) : Decidable (Seen fork input_id) := inferInstanceAs (Decidable (_ ∨ _))
instance (fork : KernelTransaction C) (envelope : WireEnvelope) : Decidable (Repeats fork envelope) := inferInstanceAs (Decidable (_ ∨ _))

variable {input_id : InputId} {envelope : WireEnvelope} {record : KernelRecord C} {input : NormalizedInput}

private theorem unseen_index {fork : KernelTransaction C} (unseen : ¬Seen fork input_id) (operation_id : OperationId) :
    record_for_input fork.index operation_id input_id = none := by
  cases found : record_for_input fork.index operation_id input_id with
  | none => rfl
  | some record =>
  refine absurd (.inr (List.any_eq_true.mpr ⟨((operation_id,input_id),record),?_,by simp⟩)) unseen
  exact Std.ExtTreeMap.mem_toList_iff_getElem?_eq_some.mpr found

private theorem screened_planned {resolve : Resolver} {tx : KernelTransaction C} {context : PlanContext}
    (planned : tx.screened resolve envelope = .ok (.planned context)) : context.input.input_id = envelope.input_id := by
  obtain ⟨input,admitted,normalized⟩ := screened_admits planned
  obtain ⟨_,same,_⟩ | ⟨step_seq,config,same,_⟩ := admit_cases admitted
  · cases same
  · cases same
    exact normalized.input_id

/-- What a checkpoint carries of a transaction: its books but for the index, the steps and the floor. -/
def durable (tx : KernelTransaction C) : KernelTransaction C := { tx.books with index := ∅, steps := ∅, replay_floor := none }

/-- Two transactions behind a fork: the same ledgers, and the same journal of all that came later. -/
structure Forked (fork : KernelTransaction C) (base : Nat) (left right : KernelTransaction C) : Prop where
  same : durable left = durable right
  index : ∀ operation_id input_id, ¬Seen fork input_id → record_for_input left.index operation_id input_id =
    record_for_input right.index operation_id input_id
  steps : ∀ operation_id input_id record, ¬Seen fork input_id →
    record_for_input left.index operation_id input_id = some record →
      record.input_id = input_id ∧ ∃ step, left.steps[input_id]? = some step ∧ right.steps[input_id]? = some step
  leftFloor : ∀ floor, left.replay_floor = some floor → floor ≤ base
  rightFloor : ∀ floor, right.replay_floor = some floor → floor ≤ base
  accepted : ∀ (input_id : InputId) (entry : AcceptedInputState), ¬Seen fork input_id → left.accepted[input_id]? = some entry →
    base < entry.step_seq
  head : ∃ head, left.head = some head ∧ base ≤ head.step_seq
  resolved : ∀ (effect_id : EffectId) (resolution : ResolvedEffectRecord), left.resolved_effects[effect_id]? = some resolution →
    fork.resolved_effects[effect_id]?.isSome ∨ ¬Seen fork resolution.input_id
  cancellation : ∀ cancellation, left.accepted_cancellation = some cancellation →
    fork.accepted_cancellation.isSome ∨ ¬Seen fork cancellation.input_id

variable {fork left right : KernelTransaction C} {base : Nat}

section
variable (forked : Forked fork base left right)
include forked

theorem Forked.shown {α : Type} (view : KernelTransaction C → α)
    (carried : ∀ tx, view tx = view (durable tx)) : view left = view right := by
  rw [carried left,carried right,forked.same]

private theorem Forked.replay_of {operation_id : OperationId} (unseen : ¬Seen fork input_id)
    (found : record_for_input left.index operation_id input_id = some record) :
    left.replay_of record = right.replay_of record := by
  obtain ⟨named,step,leftStep,rightStep⟩ := forked.steps operation_id input_id record unseen found
  simp only [KernelTransaction.replay_of,named,leftStep,rightStep]

private theorem Forked.existing_record (unseen : ¬Seen fork input_id) :
    left.existing_record input_id = right.existing_record input_id := by
  have owners := forked.shown operation_id fun _ => rfl
  unfold KernelTransaction.existing_record
  rw [owners]
  cases right.operation_id with
  | none => rfl
  | some operation_id => simp only [forked.index operation_id input_id unseen]

private theorem Forked.answer (unseen : ¬Seen fork input_id)
    (missing : Except Halt (Option (KernelPreparation C))) :
    (left.existing_record input_id >>= fun
      | none => missing
      | some existing => some <$> refuse (left.replay_of existing)) =
    (right.existing_record input_id >>= fun
      | none => missing
      | some existing => some <$> refuse (right.replay_of existing)) := by
  have owners := forked.shown operation_id fun _ => rfl
  rw [← forked.existing_record unseen]
  unfold KernelTransaction.existing_record
  cases left.operation_id with
  | none => rfl
  | some operation_id =>
  simp only [bind,Except.bind]
  cases found : record_for_input left.index operation_id input_id with
  | none => rfl
  | some record => simp only [forked.replay_of unseen found]

private theorem Forked.duplicate_guard
    (fresh : ∀ reason calls, input.input = .HostControl (.Cancel reason calls) → fork.accepted_cancellation = none) :
    left.duplicate_guard input = right.duplicate_guard input := by
  have cancellations := forked.shown accepted_cancellation fun _ => rfl
  unfold KernelTransaction.duplicate_guard
  split
  next reason calls kind =>
    unfold cancel_guard
    rw [← cancellations]
    cases held : left.accepted_cancellation with
    | none => rfl
    | some accepted =>
    have unseen : ¬Seen fork accepted.input_id := by
      rcases forked.cancellation accepted held with earlier | unseen
      · simp [fresh reason calls kind] at earlier
      · exact unseen
    simp only
    cases refuse (kernel_cancel_digest (C := C) reason calls) with
    | error halt => rfl
    | ok digest =>
    show (if _ then _ else _) = (if _ then _ else _)
    split
    · rfl
    · exact forked.answer unseen _
  next => rfl

private theorem Forked.resolution_guard
    (fresh : ∀ effect_id outcome, input.input = .ResolveEffect effect_id outcome → fork.resolved_effects[effect_id]? = none) :
    left.resolution_guard input = right.resolution_guard input := by
  have resolutions := forked.shown resolved_effects fun _ => rfl
  have pending := forked.shown pending_effects fun _ => rfl
  unfold KernelTransaction.resolution_guard
  split
  next effect_id outcome kind =>
    unfold resolve_effect_guard
    rw [← resolutions,← pending]
    cases held : left.resolved_effects[effect_id]? with
    | none => rfl
    | some resolved =>
    have unseen : ¬Seen fork resolved.input_id := by
      rcases forked.resolved effect_id resolved held with earlier | unseen
      · simp [fresh effect_id outcome kind] at earlier
      · exact unseen
    simp only
    cases refuse (kernel_outcome_digest (C := C) outcome) with
    | error halt => rfl
    | ok digest =>
    show (if _ then _ else _) = (if _ then _ else _)
    split
    · rfl
    · exact forked.answer unseen _
  next => rfl

private theorem Forked.unreferenced (unseen : ¬Seen fork input_id) :
    (left.accepted[input_id]?.filter fun entry => left.below_replay_floor entry.step_seq) = none ∧
      (right.accepted[input_id]?.filter fun entry => right.below_replay_floor entry.step_seq) = none := by
  have ledgers := forked.shown KernelTransaction.accepted fun _ => rfl
  rw [← ledgers]
  cases held : left.accepted[input_id]? with
  | none => exact ⟨rfl,rfl⟩
  | some entry =>
  have later := forked.accepted input_id entry unseen held
  have above : ∀ tx : KernelTransaction C, (∀ floor, tx.replay_floor = some floor → floor ≤ base) →
      tx.below_replay_floor entry.step_seq = false := by
    intro tx bounded
    unfold below_replay_floor
    split
    next floor floored =>
      have bound := bounded floor floored
      simp only [decide_eq_false_iff_not]
      omega
    next => rfl
  simp [Option.filter,above left forked.leftFloor,above right forked.rightFloor]

/-- The guards of both sides answer an input alike that repeats nothing. -/
theorem Forked.admissions (poisons : left.poison = right.poison) (candidates : left.candidate = right.candidate)
    (unseen : ¬Seen fork input.input_id)
    (uncancelled : ∀ reason calls, input.input = .HostControl (.Cancel reason calls) →
    fork.accepted_cancellation = none)
    (unresolved : ∀ effect_id outcome, input.input = .ResolveEffect effect_id outcome →
    fork.resolved_effects[effect_id]? = none) :
    left.admissionOf input = right.admissionOf input := by
  have owners := forked.shown operation_id fun _ => rfl
  have preparable : left.check_preparable input.operation_id = right.check_preparable input.operation_id := by
    simp only [check_preparable,poisons,candidates,owners]
  have configs := forked.shown config fun _ => rfl
  have clocks := forked.shown last_observed_at_ms fun _ => rfl
  have lifecycles := forked.shown lifecycle fun _ => rfl
  have bounds := forked.shown bounds fun _ => rfl
  have tails := forked.shown tail_records fun _ => rfl
  have sequences := forked.shown next_step_seq fun _ => rfl
  have contexts : ∀ step_seq config, left.plan_context input step_seq config = right.plan_context input step_seq config :=
    fun step_seq config => forked.shown (fun tx => tx.plan_context input step_seq config) fun _ => rfl
  obtain ⟨leftLedger,rightLedger⟩ := forked.unreferenced unseen
  unfold admissionOf
  rw [preparable]
  cases refuse (right.check_preparable input.operation_id) with
  | error halt => rfl
  | ok _ =>
  cases refuse ((C.encode_input input).mapError record_fault) with
  | error halt => rfl
  | ok canonical =>
  simp only [bind,Except.bind]
  cases found : record_for_input left.index input.operation_id input.input_id with
  | some existing =>
    simp only [← forked.index input.operation_id input.input_id unseen,found,forked.replay_of unseen found]
  | none =>
  simp only [← forked.index input.operation_id input.input_id unseen,found,leftLedger,rightLedger,configs,clocks,lifecycles,bounds,tails,
    sequences,contexts,forked.duplicate_guard uncancelled,forked.resolution_guard unresolved]

/-- An envelope that repeats nothing passes the same guards on both sides. -/
theorem Forked.screened (poisons : left.poison = right.poison)
    (candidates : left.candidate = right.candidate) (resolve : Resolver) (fresh : ¬Repeats fork envelope) :
    left.screened resolve envelope = right.screened resolve envelope := by
  have owners := forked.shown operation_id fun _ => rfl
  have preparable : left.check_preparable envelope.operation_id = right.check_preparable envelope.operation_id := by
    simp only [check_preparable,poisons,candidates,owners]
  have defaults := forked.shown defaults fun _ => rfl
  unfold KernelTransaction.screened
  rw [preparable,defaults]
  cases refuse (right.check_preparable envelope.operation_id) with
  | error halt => rfl
  | ok _ =>
  cases normalized : NormalizedInput.normalize resolve envelope right.defaults with
  | error rejection => rfl
  | ok input =>
  have facts := normalize_facts normalized
  refine forked.admissions poisons candidates (fun seen => fresh (.inl (facts.input_id ▸ seen))) ?_ ?_
  · intro reason calls kind
    cases held : fork.accepted_cancellation with
    | none => rfl
    | some _ => exact absurd (.inr (by simp [resettles,facts.cancellation reason calls kind,held])) fresh
  · intro effect_id outcome kind
    cases held : fork.resolved_effects[effect_id]? with
    | none => rfl
    | some _ => exact absurd (.inr (by simp [resettles,facts.resolution effect_id outcome kind,held])) fresh

end

private theorem durable_folds : Folds (durable (C := C)) :=
  @Folds.of_books Step C (fun _ => none) (fun _ => ∅) (fun _ => ∅) id fun _ _ _ _ => Respects.of_erased fun _ => rfl

variable [TransitionStep Step]

private theorem Forked.stageable (forked : Forked fork base left right) (context : PlanContext) (step : Step) :
    left.stageable context step = right.stageable context step :=
  stageable_congr (forked.shown pending_effects fun _ => rfl) (forked.shown resolved_effects fun _ => rfl)
    (forked.shown KernelTransaction.launch_tokens fun _ => rfl) (forked.shown KernelTransaction.head fun _ => rfl)
    (forked.shown bounds fun _ => rfl) (forked.shown tail_bytes fun _ => rfl) context step

/-- A record behind the fork keeps it a fork. -/
theorem Forked.folded {step : Step} {record_bytes : Nat} {left' right' : KernelTransaction C}
    (forked : Forked fork base left right) (unseen : ¬Seen fork record.input_id)
    (follows : Follows left.head input record)
    (leftFacts : FoldedTo record step input record_bytes left left')
    (rightFacts : FoldedTo record step input record_bytes right right')
    (same : durable left' = durable right') : Forked fork base left' right' := by
  obtain ⟨head,held,bound⟩ := forked.head
  have later : base < record.step_seq := Nat.lt_of_le_of_lt bound (follows.later head held)
  refine ⟨same,?_,?_,?_,?_,?_,⟨record.anchor,leftFacts.head,Nat.le_of_lt later⟩,?_,?_⟩
  · intro operation_id input_id new
    rw [leftFacts.index,rightFacts.index,record_for_note_committed,record_for_note_committed,forked.index operation_id input_id new]
  · intro operation_id input_id found new held
    rw [leftFacts.steps,rightFacts.steps]
    rw [leftFacts.index,record_for_note_committed] at held
    by_cases named : record.input_id = input_id
    · have noted : (left.steps.insert record.input_id step)[input_id]? = some step ∧
          (right.steps.insert record.input_id step)[input_id]? = some step := by
        simp [named]
      split at held
      · cases held
        exact ⟨named,step,noted⟩
      · exact ⟨(forked.steps operation_id input_id found new held).1,step,noted⟩
    · rw [if_neg (fun same => named same.2)] at held
      have other : compare record.input_id input_id ≠ .eq := fun equal => named (Std.LawfulEqCmp.eq_of_compare equal)
      simp only [Std.ExtTreeMap.getElem?_insert,other,if_false]
      exact forked.steps operation_id input_id found new held
  · intro floor floored
    exact forked.leftFloor floor (leftFacts.replay_floor ▸ floored)
  · intro floor floored
    exact forked.rightFloor floor (rightFacts.replay_floor ▸ floored)
  · intro input_id entry new held
    rw [leftFacts.accepted,Std.ExtTreeMap.getElem?_insert] at held
    split at held
    · cases held
      exact later
    · exact forked.accepted input_id entry new held
  · intro effect_id resolution held
    rcases leftFacts.resolved effect_id resolution held with before | now
    · exact forked.resolved effect_id resolution before
    · exact .inr (now ▸ unseen)
  · intro cancellation held
    rcases leftFacts.cancellation cancellation held with before | now
    · exact forked.cancellation cancellation before
    · exact .inr (now ▸ unseen)

end Transactions

/-- What a host is told about a list of envelopes when it commits all that is prepared: each answer,
    and the terminal behind it. -/
def conversation (kernel : CanonicalKernel K) : List WireEnvelope → List (Call (Preparation K × Option KernelTerminal))
  | [] => []
  | envelope :: rest =>
    match kernel.prepare envelope with
    | .error site => [.error site]
    | .ok (preparation,_) => .ok (preparation,(drive kernel envelope).terminal) :: conversation (drive kernel envelope) rest

/-- The same verdict, with the same step and record, and the same terminal. -/
def ToldAlike : Call (Preparation K × Option KernelTerminal) → Call (Preparation K × Option KernelTerminal) → Prop
  | .ok (left,terminal),.ok (right,terminal') => PreparationsAgree left right ∧ terminal = terminal'
  | .error site,.error site' => site = site'
  | _,_ => False

/-- Two kernels behind a fork: at work on forked transactions with agreeing drivers, or closed by the
    same fault. -/
inductive KernelsForked (fork : KernelTransaction K.codec) (base : Nat) (left right : CanonicalKernel K) : Prop where
  | working : Forked fork base left.transaction right.transaction → left.transaction.poison = none → right.transaction.poison = none →
      left.transaction.candidate = none → right.transaction.candidate = none → left.before_candidate = none →
      right.before_candidate = none → DriversAgree left.driver right.driver → KernelsForked fork base left right
  | closed (fault : KernelFault) : left.transaction.poison = some fault → right.transaction.poison = some fault →
      left.before_candidate.isSome → right.before_candidate.isSome → left.terminal = right.terminal → KernelsForked fork base left right

theorem KernelsForked.terminal {fork : KernelTransaction K.codec} {base : Nat} {left right : CanonicalKernel K}
    (forked : KernelsForked fork base left right) : left.terminal = right.terminal := by
  cases forked with
  | working same => exact same.shown KernelTransaction.terminal fun _ => rfl
  | closed _ _ _ _ _ same => exact same

private theorem settle_note_committed (step_seq : Nat) (driver : OperationDriver K) :
    ∃ noted, CanonicalKernel.settle (note_committed step_seq) driver = .ok (noted,stateOf (note_committed step_seq driver)) := by
  have quiet : ∀ site after, note_committed step_seq driver ≠ .error (.panic site) after := by
    intro site after noted
    rw [note_committed_eq] at noted
    cases poisoned : driver.poison with
    | some fault => simp [poisoned] at noted
    | none =>
    cases held : driver.staged with
    | none => simp [poisoned,held] at noted
    | some staged =>
    simp only [poisoned,held] at noted
    split at noted
    · simp at noted
    · simp at noted
  unfold CanonicalKernel.settle
  cases noted : note_committed step_seq driver with
  | ok value after => exact ⟨_,rfl⟩
  | error halt after =>
  cases halt with
  | fault fault => exact ⟨_,rfl⟩
  | panic site => exact absurd noted (quiet site after)

/-- What becomes of a staged record that an honest host commits. -/
private def driven (kernel : CanonicalKernel K) (point : DriverRestorePoint K) (context : PlanContext) (step : PlannedStep)
    (record : KernelRecord K.codec) (driver : OperationDriver K) : CanonicalKernel K :=
  match KernelTransaction.foldRecord record step context.input record.record_len
      { kernel.transaction with prepare_epoch := kernel.transaction.prepare_epoch+1, candidate := none } with
  | .ok _ transaction =>
    { kernel with transaction, driver := stateOf (note_committed record.step_seq driver), before_candidate := none }
  | .error fault transaction =>
    { kernel with transaction := { transaction with candidate := none, poison := some fault }, driver, before_candidate := some point }

private theorem drive_staged {kernel : CanonicalKernel K} {envelope : WireEnvelope} {point : DriverRestorePoint K} {context : PlanContext}
    {step : PlannedStep} {record : KernelRecord K.codec} {driver : OperationDriver K} (clean : kernel.transaction.poison = none)
    (prepared : kernel.prepare envelope = .ok (settledPlan kernel point (kernel.transaction.filled context step record).1
      (kernel.transaction.filled context step record).2 driver)) :
    drive kernel envelope = driven kernel point context step record driver := by
  rw [settledPlan_staged rfl] at prepared
  have commits := commit_eq (kernel.transaction.filled context step record).2
    (prepare_token context.input.operation_id context.step_seq (kernel.transaction.prepare_epoch+1)) record.record_digest
  simp only [filled,clean,ne_eq,not_true_eq_false,if_false] at commits prepared
  simp only [drive,prepared,CanonicalKernel.commit,commits,driven,clean]
  cases folded : foldRecord record step context.input record.record_len
      { kernel.transaction with prepare_epoch := kernel.transaction.prepare_epoch+1, candidate := none, poison := none } with
  | error fault transaction => rfl
  | ok _ transaction =>
  obtain ⟨noted,settled⟩ := settle_note_committed record.step_seq driver
  simp only [settled,bind,Except.bind]
  rfl

private theorem note_committed_agree {left right : OperationDriver K} (drivers : DriversAgree left right) (step_seq : Nat) :
    DriversAgree (stateOf (note_committed step_seq left)) (stateOf (note_committed step_seq right)) := by
  have noted := note_committed_lockstep step_seq left right drivers
  cases leftNoted : note_committed step_seq left <;> cases rightNoted : note_committed step_seq right <;>
    rw [leftNoted,rightNoted] at noted
  · exact noted.2
  · exact noted.elim
  · exact noted.elim
  · exact noted.2

section
variable {fork : KernelTransaction K.codec} {base : Nat} {left right : CanonicalKernel K}

/-- Committed on both sides, a staged record leaves a fork behind. -/
private theorem driven_forked (forked : Forked fork base left.transaction right.transaction) (leftClean : left.transaction.poison = none)
    (rightClean : right.transaction.poison = none) {point : DriverRestorePoint K} {context : PlanContext} {step : PlannedStep}
    {record : KernelRecord K.codec} {driver driver' : OperationDriver K} (drivers : DriversAgree driver driver')
    (unseen : ¬Seen fork record.input_id) (follows : Follows left.transaction.head context.input record) :
    KernelsForked fork base (driven left point context step record driver) (driven right point context step record driver') := by
  have folds := foldRecord_lockstep durable_folds record step context.input record.record_len
    { left.transaction with prepare_epoch := left.transaction.prepare_epoch+1, candidate := none }
    { right.transaction with prepare_epoch := right.transaction.prepare_epoch+1, candidate := none } forked.same
  have clear : Forked fork base { left.transaction with prepare_epoch := left.transaction.prepare_epoch+1, candidate := none }
      { right.transaction with prepare_epoch := right.transaction.prepare_epoch+1, candidate := none } :=
    ⟨forked.same,forked.index,forked.steps,forked.leftFloor,forked.rightFloor,forked.accepted,forked.head,forked.resolved,
      forked.cancellation⟩
  unfold driven
  cases leftFold : foldRecord record step context.input record.record_len
      { left.transaction with prepare_epoch := left.transaction.prepare_epoch+1, candidate := none } <;>
    cases rightFold : foldRecord record step context.input record.record_len
      { right.transaction with prepare_epoch := right.transaction.prepare_epoch+1, candidate := none } <;>
    rw [leftFold,rightFold] at folds
  · have leftFacts := foldRecord_ok leftFold
    have rightFacts := foldRecord_ok rightFold
    exact .working (clear.folded unseen follows leftFacts rightFacts folds.2) (leftFacts.poison.trans leftClean)
      (rightFacts.poison.trans rightClean) leftFacts.candidate rightFacts.candidate rfl rfl (note_committed_agree drivers record.step_seq)
  · exact folds.elim
  · exact folds.elim
  · obtain ⟨rfl,folds⟩ := folds
    exact .closed _ rfl rfl rfl rfl (congrArg terminal folds :)

/-- One envelope on both sides of a fork: the same answer, and a fork behind it. -/
theorem KernelsForked.step (forked : KernelsForked fork base left right) {envelope : WireEnvelope}
    (fresh : ¬Repeats fork envelope) :
    (∃ site, left.prepare envelope = .error site ∧ right.prepare envelope = .error site) ∨
    ∃ answer answer' staged staged', left.prepare envelope = .ok (answer,staged) ∧
    right.prepare envelope = .ok (answer',staged') ∧
      PreparationsAgree answer answer' ∧ KernelsForked fork base (drive left envelope) (drive right envelope) := by
  cases forked with
  | closed fault leftPoison rightPoison leftPoint rightPoint terminals =>
    have refused : ∀ kernel : CanonicalKernel K, kernel.transaction.poison = some fault → kernel.before_candidate.isSome →
        kernel.prepare envelope = .ok (.Rejected fault,kernel) := by
      intro kernel poisoned held
      refine prepare_held held ?_
      simp only [check_preparable,poisoned]
    have leftRefused := refused left leftPoison leftPoint
    have rightRefused := refused right rightPoison rightPoint
    refine .inr ⟨_,_,_,_,leftRefused,rightRefused,FaultsAgree.refl fault,?_⟩
    rw [drive_unstaged leftRefused rfl,drive_unstaged rightRefused rfl]
    exact .closed fault leftPoison rightPoison leftPoint rightPoint terminals
  | working forked leftClean rightClean leftFree rightFree leftIdle rightIdle drivers =>
  have still : KernelsForked fork base left right := .working forked leftClean rightClean leftFree rightFree leftIdle rightIdle drivers
  have captures : left.capture_driver_restore_point = right.capture_driver_restore_point :=
    capture_agree (forked.shown config fun _ => rfl) (fun root_kind focus =>
      forked.shown (fun tx => tx.transition_state root_kind focus) fun _ => rfl) drivers
  have leftIdleEq := prepare_idle_eq leftIdle envelope
  have rightIdleEq := prepare_idle_eq rightIdle envelope
  rw [captures] at leftIdleEq
  cases captured : right.capture_driver_restore_point with
  | error site =>
    rw [captured] at leftIdleEq rightIdleEq
    exact .inl ⟨site,leftIdleEq,rightIdleEq⟩
  | ok captured' =>
  cases captured' with
  | error fault =>
    rw [captured] at leftIdleEq rightIdleEq
    refine .inr ⟨_,_,_,_,leftIdleEq,rightIdleEq,FaultsAgree.refl fault,?_⟩
    rw [drive_unstaged leftIdleEq rfl,drive_unstaged rightIdleEq rfl]
    exact still
  | ok point =>
  rw [captured] at leftIdleEq rightIdleEq
  have guards := forked.screened (leftClean.trans rightClean.symm) (leftFree.trans rightFree.symm) K.resolve fresh
  obtain ⟨site,leftPlan,rightPlan⟩ | ⟨answer,answer',transaction,transaction',driver,driver',leftPlan,rightPlan,answers,planned,outcome⟩ :=
    plans_lockstep drivers guards forked.stageable
  · rw [leftPlan] at leftIdleEq
    rw [rightPlan] at rightIdleEq
    exact .inl ⟨site,leftIdleEq,rightIdleEq⟩
  rw [leftPlan] at leftIdleEq
  rw [rightPlan] at rightIdleEq
  obtain ⟨unstaged,unstaged',rfl,rfl⟩ | ⟨context,step,record,admitted,able,filled,filled'⟩ := outcome
  · cases rebuilt : CanonicalKernel.rebuild_driver point with
    | error fault =>
      simp only [settledPlan_refused unstaged rebuilt] at leftIdleEq
      simp only [settledPlan_refused unstaged' rebuilt] at rightIdleEq
      refine .inr ⟨_,_,_,_,leftIdleEq,rightIdleEq,FaultsAgree.refl fault,?_⟩
      rw [drive_unstaged leftIdleEq rfl,drive_unstaged rightIdleEq rfl]
      exact .working forked leftClean rightClean leftFree rightFree leftIdle rightIdle planned
    | ok driver'' =>
    simp only [settledPlan_rebuilt unstaged rebuilt] at leftIdleEq
    simp only [settledPlan_rebuilt unstaged' rebuilt] at rightIdleEq
    refine .inr ⟨_,_,_,_,leftIdleEq,rightIdleEq,answers,?_⟩
    rw [drive_unstaged leftIdleEq unstaged,drive_unstaged rightIdleEq unstaged']
    exact .working forked leftClean rightClean leftFree rightFree leftIdle rightIdle (DriversAgree.refl driver'')
  cases filled
  cases filled'
  have follows := chain_after_follows (stageable_chained able)
  have unseen : ¬Seen fork record.input_id := by
    rw [follows.input_id,screened_planned admitted]
    exact fun seen => fresh (.inl seen)
  refine .inr ⟨_,_,_,_,leftIdleEq,rightIdleEq,answers,?_⟩
  rw [drive_staged leftClean leftIdleEq,drive_staged rightClean rightIdleEq]
  exact driven_forked forked leftClean rightClean planned unseen follows

end

private theorem forked_at_checkpoint {defaults : ConfigDefaults} {tx : KernelTransaction K.codec} (sound : KernelTransaction.Sound defaults tx)
    {head : ChainAnchor} (held : tx.head = some head) :
    Forked tx head.step_seq { tx with index := ∅, steps := ∅, replay_floor := some head.step_seq, prepare_epoch := 0 } tx := by
  have unindexed : ∀ operation_id input_id, record_for_input (∅ : RecordIndex K.codec) operation_id input_id = none :=
    fun operation_id input_id => Std.ExtTreeMap.getElem?_empty
  refine ⟨rfl,?_,?_,?_,?_,?_,⟨head,held,Nat.le_refl _⟩,?_,?_⟩
  · intro operation_id input_id unseen
    rw [unindexed,unseen_index unseen]
  · intro operation_id input_id record _ found
    rw [unindexed] at found
    cases found
  · rintro floor ⟨⟩
    exact Nat.le_refl _
  · intro floor floored
    obtain ⟨anchor,same,bound⟩ := sound.floor floor floored
    cases held.symm.trans same
    exact bound
  · intro input_id entry unseen found
    exact absurd (.inl (isSome_of_eq_some found)) unseen
  · intro effect_id resolution found
    exact .inl (isSome_of_eq_some found)
  · intro cancellation found
    exact .inl (isSome_of_eq_some found)

/-- A checkpoint taken at rest forks: its restored kernel and the live one work on from it. -/
theorem restored_forked {S : StateCodec K} {kernel handle restored : CanonicalKernel K}
    {checkpoint : KernelCheckpoint K}
    (reachable : Reachable S kernel) (free : kernel.transaction.candidate = none) (rest : KernelAtRest kernel)
    (covered : kernel.transaction.tail = []) (same : handle.defaults = kernel.defaults)
    (taken : kernel.checkpoint_candidate S = .ok (.ok checkpoint))
    (restores : handle.restore S (some checkpoint) [] = .ok (.ok (),restored)) :
    ∃ base, KernelsForked kernel.transaction base restored kernel := by
  obtain ⟨clean,head,projection,transition,held,owner,genesis,boundary,projected,transited,state⟩ := checkpoint_taken taken
  have sound := reachable.sound.clean clean
  have idle : kernel.before_candidate = none := by
    cases before : kernel.before_candidate with
    | none => rfl
    | some point => simpa [free,clean] using reachable.paired.busy (by simp [before])
  obtain ⟨_,same,_⟩ | ⟨transaction,driver,outcome,rfl⟩ := restore_outcome restores
  · cases same
  obtain ⟨tx,base,_,halves,_,replayed⟩ := restore_from_checkpoint_ok outcome
  cases replayed
  simp only [restore_halves,bind,Except.bind,state] at halves
  split at halves
  · cases halves
  next rebuilt restored =>
  cases halves
  have journal : restore_from_checkpoint checkpoint.operation_id checkpoint.genesis_digest checkpoint.boundary transition
      handle.defaults (from_records []) =
      { kernel.transaction with index := ∅, steps := ∅, replay_floor := some head.step_seq, prepare_epoch := 0 } := by
    rw [boundary,same]
    have own := restore_from_checkpoint_eq sound held owner genesis transited ∅
    rwa [← free,← covered,← clean] at own
  have drivers : DriversAgree driver kernel.driver := by
    unfold transition_state at transited
    cases configured : kernel.transaction.config with
    | none => simp [configured] at transited
    | some config =>
    simp only [configured,Except.ok.injEq] at transited
    subst transited
    obtain ⟨state',rebuilt',projected',restored',agree⟩ := rebuild_at_rest (rest idle config configured)
    cases projected.symm.trans projected'
    cases restored.symm.trans restored'
    exact agree
  refine ⟨head.step_seq,.working ?_ ?_ clean ?_ free rfl idle drivers⟩
  · rw [journal]
    exact forked_at_checkpoint sound held
  · rw [journal]
    exact clean
  · rw [journal]
    exact free

private theorem conversations_alike {fork : KernelTransaction K.codec} {base : Nat} (envelopes : List WireEnvelope)
    (fresh : ∀ envelope ∈ envelopes, ¬Repeats fork envelope) : ∀ {left right : CanonicalKernel K}, KernelsForked fork base left right →
      List.Forall₂ ToldAlike (conversation left envelopes) (conversation right envelopes) := by
  induction envelopes with
  | nil => exact fun _ => .nil
  | cons envelope rest ih =>
  intro left right forked
  unfold conversation
  obtain ⟨site,leftPanic,rightPanic⟩ | ⟨answer,answer',staged,staged',leftAnswer,rightAnswer,answers,next⟩ :=
    forked.step (fresh envelope (by simp))
  · rw [leftPanic,rightPanic]
    exact .cons rfl .nil
  · rw [leftAnswer,rightAnswer]
    exact .cons ⟨answers,next.terminal⟩ (ih (fun other member => fresh other (by simp [member])) next)

/-- A kernel restored from a checkpoint that was taken at rest and covers the tail answers every
    later envelope as the kernel does that took it, but for envelopes that repeat what was accepted
    before. -/
theorem restored_conversation (S : StateCodec K) {kernel handle restored : CanonicalKernel K}
    {checkpoint : KernelCheckpoint K}
    (reachable : Reachable S kernel) (free : kernel.transaction.candidate = none) (rest : KernelAtRest kernel)
    (covered : kernel.transaction.tail = []) (same : handle.defaults = kernel.defaults)
    (taken : kernel.checkpoint_candidate S = .ok (.ok checkpoint))
    (restores : handle.restore S (some checkpoint) [] = .ok (.ok (),restored)) (envelopes : List WireEnvelope)
    (fresh : ∀ envelope ∈ envelopes, ¬Repeats kernel.transaction envelope) :
    List.Forall₂ ToldAlike (conversation restored envelopes) (conversation kernel envelopes) := by
  obtain ⟨base,forked⟩ := restored_forked reachable free rest covered same taken restores
  exact conversations_alike envelopes fresh forked

section Plain
open PlainParts

/-- The kernel that comes back from a kernel's own checkpoint. -/
def restoredFromOwn (S : StateCodec K) (kernel : CanonicalKernel K) : Option (CanonicalKernel K) :=
  match kernel.checkpoint_candidate S with
  | .ok (.ok checkpoint) =>
    match kernel.restore S (some checkpoint) [] with
    | .ok (.ok _,restored) => some restored
    | _ => none
  | _ => none

private theorem restoredFromOwn_some {S : StateCodec K} {kernel restored : CanonicalKernel K} (own : restoredFromOwn S kernel = some restored) :
    ∃ checkpoint, kernel.checkpoint_candidate S = .ok (.ok checkpoint) ∧
      kernel.restore S (some checkpoint) [] = .ok (.ok (),restored) := by
  unfold restoredFromOwn at own
  split at own
  next checkpoint taken =>
    split at own
    next outcome =>
      cases own
      exact ⟨checkpoint,taken,outcome⟩
    next => cases own
  next => cases own

/-- A started agent whose checkpoint was installed and acknowledged. -/
def coveredAgent : CanonicalKernel plain :=
  match startedAgent.transaction.checkpoint_boundary with
  | some boundary => (startedAgent.note_checkpoint_acked boundary).2
  | none => startedAgent

private theorem coveredAgent_reachable : Reachable plainStates coveredAgent := by
  have started : Reachable plainStates startedAgent := Reachable.driven (.new plainDefaults) _
  unfold coveredAgent
  split
  · exact started.ack _
  · exact started

set_option maxRecDepth 100000 in
private theorem coveredAgent_atRest : KernelAtRest coveredAgent := by
  intro _ genesis_config configured
  have genesis : coveredAgent.transaction.config = some (plainConfig everyEffect "ask") := by decide +kernel
  cases configured.symm.trans genesis
  exact atRest_plain (by decide +kernel)

set_option maxRecDepth 100000 in
/-- The turn and the approval behind a covered start: a restored agent answers them as the live one. -/
theorem restored_conversation_covered : ∃ restored, restoredFromOwn plainStates coveredAgent = some restored ∧
    (conversation coveredAgent [providerTurn,approval]).length = 2 ∧
    List.Forall₂ ToldAlike (conversation restored [providerTurn,approval])
    (conversation coveredAgent [providerTurn,approval]) := by
  obtain ⟨restored,own⟩ := isSome_iff_exists.mp (by decide +kernel : (restoredFromOwn plainStates coveredAgent).isSome = true)
  obtain ⟨checkpoint,taken,restores⟩ := restoredFromOwn_some own
  have fresh : ∀ envelope ∈ [providerTurn,approval], ¬Repeats coveredAgent.transaction envelope := by decide +kernel
  exact ⟨restored,own,by decide +kernel,restored_conversation plainStates coveredAgent_reachable (isNone_iff_eq_none.mp (by decide +kernel))
    coveredAgent_atRest (by decide +kernel) rfl taken restores _ fresh⟩

/-- The step a host is told of. -/
def toldStep : Call (Preparation K × Option KernelTerminal) → Option PlannedStep
  | .ok (.Prepared _ _ step,_) => some step
  | .ok (.Replayed _ _ step _,_) => step
  | _ => none

private theorem toldStep_alike {left right : Call (Preparation K × Option KernelTerminal)} (alike : ToldAlike left right) :
    toldStep left = toldStep right := by
  cases left with
  | error site =>
    cases right with
    | error site' => rfl
    | ok told => exact alike.elim
  | ok told =>
  cases right with
  | error site => exact alike.elim
  | ok told' =>
  obtain ⟨answer,terminal⟩ := told
  obtain ⟨answer',terminal'⟩ := told'
  have answers := alike.1
  cases answer <;> cases answer' <;> try exact answers.elim
  case Prepared.Prepared => exact congrArg some answers.2
  case Replayed.Replayed => exact answers.2.2.1
  case Rejected.Rejected => rfl

set_option maxRecDepth 100000 in
/-- Not every envelope is answered alike: a redelivered input is answered from the ledger by the
    restored kernel, without the step the live kernel still has. -/
theorem redelivery_told_apart :
    ¬∀ (kernel handle restored : CanonicalKernel plain) (checkpoint : KernelCheckpoint plain)
    (envelopes : List WireEnvelope), Reachable plainStates kernel → kernel.transaction.candidate = none →
    handle.defaults = kernel.defaults →
      kernel.checkpoint_candidate plainStates = .ok (.ok checkpoint) →
      handle.restore plainStates (some checkpoint) [] = .ok (.ok (),restored) →
      List.Forall₂ ToldAlike (conversation restored envelopes) (conversation kernel envelopes) := by
  intro alike
  obtain ⟨restored,own⟩ := isSome_iff_exists.mp (by decide +kernel : (restoredFromOwn plainStates coveredAgent).isSome = true)
  obtain ⟨checkpoint,taken,restores⟩ := restoredFromOwn_some own
  have told := alike coveredAgent coveredAgent restored checkpoint startEnvelopes coveredAgent_reachable
    (isNone_iff_eq_none.mp (by decide +kernel)) rfl taken restores
  have steps : ∀ (left right : List (Call (Preparation plain × Option KernelTerminal))), List.Forall₂ ToldAlike left right →
      left.map toldStep = right.map toldStep := by
    intro left right alike
    induction alike with
    | nil => rfl
    | cons first _ inductive_step => rw [List.map_cons,List.map_cons,toldStep_alike first,inductive_step]
  have apart : (restoredFromOwn plainStates coveredAgent).map (fun restored => (conversation restored startEnvelopes).map toldStep) ≠
      some ((conversation coveredAgent startEnvelopes).map toldStep) := by decide +kernel
  rw [own,map_some,steps _ _ told] at apart
  exact apart rfl

end Plain

end Deepstrike.Kernel

import Deepstrike.Committing

/-!
The runs of one transaction, apart from any driver. A planner is one call that gives a step or
refuses, so a run may be given another planner at each of its preparations.
-/
namespace Deepstrike.Transaction.KernelTransaction
open Wire Record

variable {Step : Type} {C : Codec Step}

/-- A planner as the transaction sees it: a closure from the plan context to a step or a fault. -/
abbrev PlanFn (Step : Type) := PlanContext → Except KernelFault Step

/-- Such a planner keeps no state of its own. -/
def stateless (plan : PlanFn Step) : Planner Unit Step := fun context => MonadExcept.ofExcept (refuse (plan context))

variable [TransitionStep Step]

/-- A preparation under a planner without state. -/
def prepareWith (resolve : Resolver) (tx : KernelTransaction C) (envelope : WireEnvelope) (plan : PlanFn Step) :
    Except String (KernelPreparation C × KernelTransaction C) :=
  (tx.prepare resolve envelope (stateless plan) ()).map fun (preparation,after,_) => (preparation,after)

omit [TransitionStep Step] in
theorem stateless_eq (plan : PlanFn Step) (context : PlanContext) (state : Unit) :
    stateless plan context state = match plan context with
      | .ok step => .ok step state
      | .error fault => .error (.fault fault) state := by
  unfold stateless
  cases plan context <;> rfl

/-- A preparation is its screening, the plan and the staging. -/
theorem prepareWith_eq (resolve : Resolver) (tx : KernelTransaction C) (envelope : WireEnvelope) (plan : PlanFn Step) :
    tx.prepareWith resolve envelope plan =
      match tx.screened resolve envelope with
      | .error halt => settledHalt (fun fault => (.Rejected fault,tx)) halt
      | .ok (.answered preparation) => .ok (preparation,tx)
      | .ok (.planned context) =>
        match plan context with
        | .error fault => .ok (.Rejected fault,tx)
        | .ok step => .ok (tx.staged context step) := by
  unfold prepareWith
  rw [prepare_eq]
  cases tx.screened resolve envelope with
  | error halt => cases halt <;> rfl
  | ok admission =>
  cases admission with
  | answered preparation => rfl
  | planned context =>
  simp only [stateless_eq]
  cases plan context with
  | error fault => rfl
  | ok step => rfl

variable {resolve : Resolver} {envelope : WireEnvelope} {plan : PlanFn Step} {transition : CommittedTransition C} {plans : PlanFn Step → Prop}
variable {defaults : ConfigDefaults} {index : RecordIndex C} {tx after : KernelTransaction C}

/-- A preparation leaves the transaction alone, or it stages the planned step of an admitted input. -/
theorem prepareWith_cases
    {preparation : KernelPreparation C} (prepared : tx.prepareWith resolve envelope plan = .ok (preparation,after)) :
    (preparation.isPrepared = false ∧ after = tx) ∨
      ∃ input step_seq config step record, Admitted tx input step_seq config ∧
      plan (tx.plan_context input step_seq config) = .ok step ∧
        tx.stageable (tx.plan_context input step_seq config) step = .ok record ∧
        (preparation,after) = tx.filled (tx.plan_context input step_seq config) step record := by
  unfold prepareWith at prepared
  cases outcome : tx.prepare resolve envelope (stateless plan) () with
  | error site =>
    rw [outcome] at prepared
    cases prepared
  | ok result =>
  obtain ⟨answer,moved,state⟩ := result
  rw [outcome] at prepared
  cases prepared
  obtain unstaged | ⟨input,step_seq,config,step,admitted,planned,staging,_⟩ := prepare_cases outcome
  · exact .inl unstaged
  obtain ⟨record,able,same⟩ := stage_cases staging
  refine .inr ⟨input,step_seq,config,step,record,admitted,?_,able,same⟩
  rw [stateless_eq] at planned
  split at planned
  next given =>
    cases planned
    exact given
  next => cases planned

/-- The runs of a transaction from its first state, each with the transitions it committed. `plans`
    says which planners a preparation may be given. -/
inductive Run (resolve : Resolver) (plans : PlanFn Step → Prop) (defaults : ConfigDefaults) (index : RecordIndex C) :
    KernelTransaction C → List (CommittedTransition C) → Prop where
  | new : Run resolve plans defaults index (.new defaults index) []
  | prepare {tx after : KernelTransaction C} {trace : List (CommittedTransition C)} {envelope : WireEnvelope} {plan : PlanFn Step}
      {preparation : KernelPreparation C} : Run resolve plans defaults index tx trace → plans plan →
      tx.prepareWith resolve envelope plan = .ok (preparation,after) → Run resolve plans defaults index after trace
  | commit {tx after : KernelTransaction C} {trace : List (CommittedTransition C)} {token : PrepareToken} {appended_head : Digest}
      {transition : CommittedTransition C} : Run resolve plans defaults index tx trace →
      tx.commit token appended_head = (.ok transition,after) → Run resolve plans defaults index after (trace ++ [transition])
  | refused {tx after : KernelTransaction C} {trace : List (CommittedTransition C)} {token : PrepareToken} {appended_head : Digest}
      {fault : KernelFault} : Run resolve plans defaults index tx trace →
      tx.commit token appended_head = (.error fault,after) → Run resolve plans defaults index after trace
  | abort {tx : KernelTransaction C} {trace : List (CommittedTransition C)} (token : PrepareToken) :
      Run resolve plans defaults index tx trace → Run resolve plans defaults index (tx.abort token).2 trace
  | conflict {tx : KernelTransaction C} {trace : List (CommittedTransition C)} (token : PrepareToken) (observed_head : Option Digest) :
      Run resolve plans defaults index tx trace → Run resolve plans defaults index (tx.note_append_conflict token observed_head).2 trace
  | ack {tx : KernelTransaction C} {trace : List (CommittedTransition C)} (boundary : CheckpointBoundary) :
      Run resolve plans defaults index tx trace → Run resolve plans defaults index (tx.note_checkpoint_acked boundary).2 trace

/-- The records of committed transitions. -/
def recordsOf (trace : List (CommittedTransition C)) : List (KernelRecord C) := trace.map CommittedTransition.record

/-- One input all the way through: prepared, and committed at the digest of its own record. -/
def transact (resolve : Resolver) (tx : KernelTransaction C) (envelope : WireEnvelope) (plan : PlanFn Step) :
    Option (CommittedTransition C × KernelTransaction C) :=
  match tx.prepareWith resolve envelope plan with
  | .ok (.Prepared token record _,staged) =>
    match staged.commit token record.record_digest with
    | (.ok transition,after) => some (transition,after)
    | (.error _,_) => none
  | _ => none

/-- A whole transition is a preparation and the commit of its record. -/
theorem transact_cases (through : tx.transact resolve envelope plan = some (transition,after)) :
    ∃ token record step staged, tx.prepareWith resolve envelope plan = .ok (.Prepared token record step,staged) ∧
      staged.commit token record.record_digest = (.ok transition,after) := by
  unfold transact at through
  split at through
  next token record step staged prepared =>
    split at through
    next committed =>
      cases through
      exact ⟨token,record,step,staged,prepared,committed⟩
    next => cases through
  next => cases through

theorem Run.transact
    {trace : List (CommittedTransition C)} (run : Run resolve plans defaults index tx trace) (allowed : plans plan)
    (through : tx.transact resolve envelope plan = some (transition,after)) :
    Run resolve plans defaults index after (trace ++ [transition]) := by
  obtain ⟨token,record,step,staged,prepared,committed⟩ := transact_cases through
  exact (run.prepare allowed prepared).commit committed

/-- A list of inputs, one after the other. -/
def transactAll (resolve : Resolver) (plan : PlanFn Step) (tx : KernelTransaction C) :
    List WireEnvelope → Option (List (CommittedTransition C) × KernelTransaction C)
  | [] => some ([],tx)
  | envelope :: rest => do
    let (transition,tx) ← tx.transact resolve envelope plan
    let (transitions,tx) ← transactAll resolve plan tx rest
    pure (transition :: transitions,tx)

theorem transactAll_cons
    {rest : List WireEnvelope} {transitions : List (CommittedTransition C)}
    (through : transactAll resolve plan tx (envelope :: rest) = some (transitions,after)) :
    ∃ transition middle later, tx.transact resolve envelope plan = some (transition,middle) ∧
      transactAll resolve plan middle rest = some (later,after) ∧ transitions = transition :: later := by
  obtain ⟨⟨transition,middle⟩,first,behind⟩ := Option.bind_eq_some_iff.mp through
  obtain ⟨⟨later,last⟩,second,same⟩ := Option.bind_eq_some_iff.mp behind
  cases same
  exact ⟨transition,middle,later,first,second,rfl⟩

/-- Any number of whole transitions prolongs a run. -/
theorem Run.transactAll (allowed : plans plan) (envelopes : List WireEnvelope) :
    ∀ {tx after : KernelTransaction C} {trace transitions : List (CommittedTransition C)},
    Run resolve plans defaults index tx trace →
      KernelTransaction.transactAll resolve plan tx envelopes = some (transitions,after) →
      Run resolve plans defaults index after (trace ++ transitions) := by
  induction envelopes with
  | nil =>
    intro tx after trace transitions run through
    cases through
    simpa using run
  | cons envelope rest ih =>
  intro tx after trace transitions run through
  obtain ⟨transition,middle,later,first,second,rfl⟩ := transactAll_cons through
  have stepped := ih (run.transact allowed first) second
  rwa [List.append_assoc,List.singleton_append] at stepped

/-- The transactions a host can bring about: by a run, by a restore from any checkpoint, by a replay
    of any record, and by whatever follows. -/
inductive Reachable (resolve : Resolver) : KernelTransaction C → Prop where
  | new (defaults : ConfigDefaults) (index : RecordIndex C) : Reachable resolve (.new defaults index)
  | restored (operation_id : OperationId) (genesis_digest : Digest) (base : CheckpointBoundary) (state : TransitionState)
      (defaults : ConfigDefaults) (index : RecordIndex C) :
      Reachable resolve (.restore_from_checkpoint operation_id genesis_digest base state defaults index)
  | replayed {tx after : KernelTransaction C} {input : NormalizedInput} {expected : Digest} {plan : PlanFn Step} : Reachable resolve tx →
      tx.replay_committed input expected (stateless plan) () = .ok after () → Reachable resolve after
  | prepare {tx after : KernelTransaction C} {envelope : WireEnvelope} {plan : PlanFn Step} {preparation : KernelPreparation C} :
      Reachable resolve tx → tx.prepareWith resolve envelope plan = .ok (preparation,after) → Reachable resolve after
  | commit {tx : KernelTransaction C} (token : PrepareToken) (appended_head : Digest) :
      Reachable resolve tx → Reachable resolve (tx.commit token appended_head).2
  | abort {tx : KernelTransaction C} (token : PrepareToken) : Reachable resolve tx → Reachable resolve (tx.abort token).2
  | conflict {tx : KernelTransaction C} (token : PrepareToken) (observed_head : Option Digest) :
      Reachable resolve tx → Reachable resolve (tx.note_append_conflict token observed_head).2
  | ack {tx : KernelTransaction C} (boundary : CheckpointBoundary) :
      Reachable resolve tx → Reachable resolve (tx.note_checkpoint_acked boundary).2

end Deepstrike.Transaction.KernelTransaction

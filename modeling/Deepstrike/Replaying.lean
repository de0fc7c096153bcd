import Deepstrike.Bookkeeping
import Deepstrike.Refolding
import Deepstrike.Rewinding

/-!
The journal of a run against the run itself. A live kernel folds each record as it commits it, and
is rewound by every preparation in between that does not end in a commit; a replay folds the same
records and nothing else. As long as the rewinds happen at rest the two end in the same place.
-/
namespace Deepstrike.Kernel
open Wire Record Vocabulary Transaction Driver Lockstep KernelTransaction CanonicalKernel

variable {K : Parts}

/-- The runs of a kernel from genesis, each with the records it committed. Every input is prepared and
    committed, or it is rewound where `rewinds` allows it; checkpoints are acknowledged at will. -/
inductive Run (rewinds : CanonicalKernel K → Prop) (defaults : ConfigDefaults) :
    CanonicalKernel K → List (KernelRecord K.codec) → Prop where
  | genesis : Run rewinds defaults (.new K defaults) []
  | committed {kernel staged after : CanonicalKernel K} {records : List (KernelRecord K.codec)} {envelope : WireEnvelope}
      {token : PrepareToken} {record : KernelRecord K.codec} {step : PlannedStep} {transition : CommittedTransition K.codec} :
      Run rewinds defaults kernel records → kernel.prepare envelope = .ok (.Prepared token record step,staged) →
      staged.commit token record.record_digest = .ok (.ok transition,after) →
      Run rewinds defaults after (records ++ [transition.record])
  | rewound {kernel after : CanonicalKernel K} {records : List (KernelRecord K.codec)} {envelope : WireEnvelope} :
      Run rewinds defaults kernel records → rewinds kernel → Rewound kernel envelope after → Run rewinds defaults after records
  | acked {kernel : CanonicalKernel K} {records : List (KernelRecord K.codec)} (boundary : CheckpointBoundary) :
      Run rewinds defaults kernel records → Run rewinds defaults (kernel.note_checkpoint_acked boundary).2 records

/-- A kernel whose records replay to it. -/
structure Replays (defaults : ConfigDefaults) (kernel : CanonicalKernel K) (records : List (KernelRecord K.codec)) : Prop where
  paired : Paired kernel
  idle : kernel.before_candidate = none
  clean : kernel.transaction.poison = none
  chained : verify_chain_from none records = .ok ()
  head : kernel.transaction.head = records.getLast?.map KernelRecord.anchor
  folded : ∀ index, ∃ transaction driver,
    replay_records fold record_fault (.new defaults index) records (.new K) = .ok transaction driver ∧
      transaction.poison = none ∧ transaction.history = kernel.transaction.history ∧ DriversAgree driver kernel.driver

/-- What one committed input is made of. -/
structure Transition (kernel staged after : CanonicalKernel K) (input : NormalizedInput) (step : PlannedStep)
    (record : KernelRecord K.codec) :
    Prop where
  admitted : ∃ step_seq config, KernelTransaction.Admitted kernel.transaction input step_seq config ∧
    plan (kernel.transaction.plan_context input step_seq config) kernel.driver = .ok step staged.driver ∧
    note_committed record.step_seq staged.driver = .ok () after.driver
  chained : chain_after kernel.transaction.head input step = .ok record
  folded : foldRecord record step input record.record_len
    { kernel.transaction with prepare_epoch := kernel.transaction.prepare_epoch+1, candidate := none } = .ok () after.transaction

variable {kernel : CanonicalKernel K} {envelope : WireEnvelope} {token : PrepareToken} {record : KernelRecord K.codec} {step : PlannedStep}
variable {transition : CommittedTransition K.codec} {defaults : ConfigDefaults} {records : List (KernelRecord K.codec)}
variable {rewinds : CanonicalKernel K → Prop} {staged after : CanonicalKernel K}

private theorem transition_of_commit (idle : kernel.before_candidate = none)
    (prepared : kernel.prepare envelope = .ok (.Prepared token record step,staged))
    (committed : staged.commit token record.record_digest = .ok (.ok transition,after)) :
    transition.record = record ∧ after.before_candidate = none ∧ ∃ input, Transition kernel staged after input step record := by
  obtain ⟨_,_,same,_⟩ | ⟨point,answer,transaction,driver,_,planned,outcome⟩ := prepare_idle_cases idle prepared
  · cases same
  obtain ⟨unstaged,rfl⟩ | ⟨input,step_seq,config,planned_step,admitted,planning,staging,_⟩ := prepare_cases planned
  · have shown : (KernelPreparation.Prepared token record step : Preparation K).isPrepared = false := by
      unfold settledPlan at outcome
      rw [unstaged] at outcome
      simp only [Bool.false_eq_true,if_false] at outcome
      split at outcome
      · cases outcome
      · cases outcome
        exact unstaged
    cases shown
  obtain ⟨staged_record,able,same⟩ := stage_cases staging
  cases same
  rw [settledPlan_staged rfl] at outcome
  cases outcome
  have chained := stageable_chained able
  unfold CanonicalKernel.commit at committed
  split at committed
  · cases committed
  next folded_transition folded_to result =>
  obtain ⟨fault,same,_⟩ | ⟨candidate,_,held,_,_,folded,same⟩ := commit_cases result
  · cases same
  cases same
  cases held
  simp only [bind,Except.bind,settle] at committed
  cases noted : note_committed record.step_seq driver with
  | error halt noted_driver =>
    rw [noted] at committed
    cases halt <;> cases committed
  | ok _ noted_driver =>
  rw [noted] at committed
  cases committed
  exact ⟨rfl,rfl,input,⟨step_seq,config,admitted,planning,noted⟩,chained,folded⟩

/-- A committed transition folds over every driver and transaction that agree with the live ones. -/
theorem Transition.replay {input : NormalizedInput}
    (transition : Transition kernel staged after input step record) {tx : KernelTransaction K.codec}
    {driver : OperationDriver K}
    (clean : tx.poison = none) (same : tx.history = kernel.transaction.history)
    (drivers : DriversAgree driver kernel.driver) :
    ∃ transaction replayed, tx.replay_committed input record.record_digest fold driver = .ok transaction replayed ∧
      transaction.poison = none ∧ transaction.history = after.transaction.history ∧
      DriversAgree replayed after.driver := by
  obtain ⟨⟨step_seq,config,admitted,planned,noted⟩,chained,folded⟩ := transition
  have counted := next_step_seq_of_follows (chain_after_follows chained) admitted.sequenced
  -- The plan and the note of the commit, on the agreeing driver.
  have planning := plan_lockstep (kernel.transaction.plan_context input step_seq config) driver kernel.driver drivers
  rw [planned] at planning
  cases replanned : plan (kernel.transaction.plan_context input step_seq config) driver with
  | error halt driver' =>
    rw [replanned] at planning
    exact planning.elim
  | ok step' driver' =>
  rw [replanned] at planning
  obtain ⟨rfl,drivers⟩ := planning
  have noting := note_committed_lockstep record.step_seq driver' staged.driver drivers
  rw [noted] at noting
  cases renoted : note_committed record.step_seq driver' with
  | error halt driver'' =>
    rw [renoted] at noting
    exact noting.elim
  | ok _ driver'' =>
  rw [renoted] at noting
  obtain ⟨_,drivers⟩ := noting
  have refolded : fold (kernel.transaction.plan_context input step_seq config) driver = .ok step' driver'' := by
    have at_step : (kernel.transaction.plan_context input step_seq config).step_seq = record.step_seq := counted.symm
    simp only [fold,bind,EStateM.bind,replanned,at_step,renoted,pure,EStateM.pure]
  obtain ⟨transaction,again,settled,histories⟩ := replay_committed_of_folds history_folds clean
    (KernelTransaction.PlansAlike.of_history same) same admitted.sequenced admitted.configured refolded chained folded rfl
  exact ⟨transaction,driver'',again,settled,histories,drivers⟩

theorem Replays.committed (trips : K.codec.RoundTrips) (replays : Replays defaults kernel records)
    (prepared : kernel.prepare envelope = .ok (.Prepared token record step,staged))
    (committed : staged.commit token record.record_digest = .ok (.ok transition,after)) :
    Replays defaults after (records ++ [transition.record]) := by
  obtain ⟨rfl,idle,input,made⟩ := transition_of_commit replays.idle prepared committed
  have follows := chain_after_follows made.chained
  have facts := foldRecord_ok made.folded
  refine ⟨(replays.paired.prepare prepared).commit _ _ _ _ committed,idle,facts.poison.trans replays.clean,?_,?_,?_⟩
  · refine verify_chain_snoc replays.chained ?_
    rw [Option.or_none]
    exact (replays.head ▸ follows : Follows _ _ _).verify_follows trips
  · rw [facts.head,List.getLast?_append]
    rfl
  intro index
  obtain ⟨tx,driver,replayed,clean,same,drivers⟩ := replays.folded index
  obtain ⟨transaction,replayed_driver,stepped,settled⟩ := made.replay clean same drivers
  refine ⟨transaction,replayed_driver,?_,settled⟩
  have decoded : transition.record.normalized_input = .ok input := trips _ _ follows.encoded
  rw [replay_records_append fold record_fault records _ replayed]
  simp only [replay_records,decoded,Except.mapError,refuse,MonadExcept.ofExcept,bind,EStateM.bind,pure,EStateM.pure,
    stepped]

theorem Replays.rewound (replays : Replays defaults kernel records) (rest : KernelAtRest kernel)
    (rewound : Rewound kernel envelope after) :
    Replays defaults after records := by
  obtain rfl | ⟨_,paired,idle,agree,epoch,_,same⟩ := rewound_agrees replays.paired rest rewound
  · exact replays
  refine ⟨paired,idle,by rw [same]; exact replays.clean,replays.chained,by rw [same]; exact replays.head,fun index => ?_⟩
  obtain ⟨tx,driver,replayed,clean,histories,drivers⟩ := replays.folded index
  refine ⟨tx,driver,replayed,clean,histories.trans ?_,drivers.trans agree.symm⟩
  rw [same]
  rfl

theorem Replays.acked
    (replays : Replays defaults kernel records) (boundary : CheckpointBoundary) :
    Replays defaults (kernel.note_checkpoint_acked boundary).2 records := by
  have paired := replays.paired.ack boundary
  obtain ⟨tail,acked⟩ := note_checkpoint_acked_tail kernel.transaction boundary
  unfold CanonicalKernel.note_checkpoint_acked at paired ⊢
  simp only [acked] at paired ⊢
  exact ⟨paired,replays.idle,replays.clean,replays.chained,replays.head,replays.folded⟩

theorem Run.replays
    (trips : K.codec.RoundTrips) (run : Run KernelAtRest defaults kernel records) :
    Replays defaults kernel records := by
  induction run with
  | genesis => exact ⟨Paired.new K defaults,rfl,rfl,rfl,rfl,fun index => ⟨_,_,rfl,rfl,rfl,DriversAgree.refl _⟩⟩
  | committed _ prepared committed replays => exact replays.committed trips prepared committed
  | rewound _ rest rewound replays => exact replays.rewound rest rewound
  | acked boundary _ replays => exact replays.acked boundary

/-- Two kernels that tell the same story of an operation. -/
structure SameHistory (left right : CanonicalKernel K) : Prop where
  head : left.head = right.head
  lifecycle : left.lifecycle = right.lifecycle
  pending : left.pending_effects_in_order = right.pending_effects_in_order
  resolved : left.transaction.resolved_effects = right.transaction.resolved_effects
  terminal : left.terminal = right.terminal
  root_kind : left.driver.root_kind = right.driver.root_kind
  focus : left.driver.focus = right.driver.focus
  projection : project_logical_state left.driver = project_logical_state right.driver

/-- In a run that rewinds at rest, the records it committed restore to the kernel it ended in,
    whichever handle of the operation's host they are restored on. -/
theorem restore_from_journal (S : StateCodec K) (trips : K.codec.RoundTrips) {defaults : ConfigDefaults}
    {kernel handle : CanonicalKernel K}
    {records : List (KernelRecord K.codec)} (run : Run KernelAtRest defaults kernel records)
    (same : handle.defaults = defaults) :
    ∃ restored, handle.restore S none records = .ok (.ok (),restored) ∧ SameHistory restored kernel := by
  obtain ⟨_,_,_,chained,_,folded⟩ := run.replays trips
  obtain ⟨transaction,driver,replayed,clean,histories,drivers⟩ := folded (RecordIndex.from_records records)
  have rebuilt : rebuild_from_records records handle.defaults (RecordIndex.from_records records) fold (.new K) =
      .ok transaction driver := by
    rw [rebuild_of_chained chained,same]
    exact replayed
  refine ⟨{ handle with transaction, driver, before_candidate := none },?_,?_⟩
  · simp only [restore,restore_operation,settle,rebuilt,bind,Except.bind]
    rfl
  have shown : ∀ {α : Type} (view : KernelTransaction K.codec → α), view transaction.history = view kernel.transaction.history :=
    fun view => congrArg view histories
  exact ⟨shown head,shown lifecycle,shown pending_effects_in_order,
    shown resolved_effects,shown terminal,
    (congrArg OperationDriver.root_kind drivers.same :),(congrArg OperationDriver.focus drivers.same :),project_agree drivers⟩

/-- The record an honest host commits for an envelope. -/
def committedRecord (kernel : CanonicalKernel K) (envelope : WireEnvelope) : Option (KernelRecord K.codec) :=
  match kernel.prepare envelope with
  | .ok (.Prepared token record _,staged) =>
    match staged.commit token record.record_digest with
    | .ok (.ok transition,_) => some transition.record
    | _ => none
  | _ => none

theorem Run.drive (run : Run rewinds defaults kernel records)
    (commits : committedRecord kernel envelope = some record) :
    Run rewinds defaults (Kernel.drive kernel envelope) (records ++ [record]) := by
  unfold committedRecord at commits
  split at commits
  next token staged_record step staged prepared =>
    split at commits
    next transition after committed =>
      cases commits
      have driven : Kernel.drive kernel envelope = after := by simp only [Kernel.drive,prepared,committed]
      exact driven ▸ run.committed prepared committed
    next => cases commits
  next => cases commits

/-- The records an honest host commits over a list of envelopes. -/
def journal (kernel : CanonicalKernel K) : List WireEnvelope → List (KernelRecord K.codec)
  | [] => []
  | envelope :: rest => (committedRecord kernel envelope).toList ++ journal (drive kernel envelope) rest

theorem Run.journal (envelopes : List WireEnvelope) :
    ∀ {kernel : CanonicalKernel K} {records : List (KernelRecord K.codec)}, Run rewinds defaults kernel records →
      (Kernel.journal kernel envelopes).length = envelopes.length →
      Run rewinds defaults (envelopes.foldl Kernel.drive kernel) (records ++ Kernel.journal kernel envelopes) := by
  have bounded : ∀ (envelopes : List WireEnvelope) (kernel : CanonicalKernel K), (Kernel.journal kernel envelopes).length ≤ envelopes.length := by
    intro envelopes
    induction envelopes with
    | nil => exact fun _ => Nat.le_refl _
    | cons envelope rest ih =>
    intro kernel
    have rest := ih (Kernel.drive kernel envelope)
    simp only [Kernel.journal,List.length_append,List.length_cons]
    cases committedRecord kernel envelope <;> simp <;> omega
  induction envelopes with
  | nil =>
    intro kernel records run _
    simpa [Kernel.journal] using run
  | cons envelope rest ih =>
  intro kernel records run complete
  have bound := bounded rest (Kernel.drive kernel envelope)
  simp only [Kernel.journal,List.length_append,List.length_cons] at complete
  cases commits : committedRecord kernel envelope with
  | none =>
    simp only [commits,Option.toList_none,List.length_nil] at complete
    omega
  | some record =>
  simp only [commits,Option.toList_some,List.length_singleton] at complete
  have next := ih (run.drive commits) (by omega)
  simpa [Kernel.journal,commits] using next

section Plain
open PlainParts

set_option maxRecDepth 100000 in
/-- A started agent that has refused an envelope is restored from its two records. -/
theorem restore_from_journal_started :
    ∃ records restored, Run KernelAtRest plainDefaults (drive startedAgent belated) records ∧
    records.length = 2 ∧ (new plain plainDefaults).restore plainStates none records = .ok (.ok (),restored) ∧
    SameHistory restored (drive startedAgent belated) := by
  have started : Run KernelAtRest plainDefaults startedAgent (journal (.new plain plainDefaults) startEnvelopes) :=
    Run.journal startEnvelopes .genesis (by decide +kernel)
  have run := started.rewound startedAgent_atRest (rewound_of_unstaged belated (by decide +kernel))
  obtain ⟨restored,succeeded,same⟩ := restore_from_journal plainStates plain_round_trips run
    (rfl : (new plain plainDefaults).defaults = plainDefaults)
  exact ⟨_,restored,run,by decide +kernel,succeeded,same⟩

/-- The journal of an agent that was rewound while an approval was out. -/
def rewoundJournal : List (KernelRecord plain.codec) :=
  journal (.new plain plainDefaults) (startEnvelopes ++ [providerTurn]) ++ journal (drive awaitingApproval belated) [approval]

def restoresFrom (kernel : CanonicalKernel plain) (records : List (KernelRecord plain.codec)) : Bool :=
  match kernel.restore plainStates none records with
  | .ok (.ok _,_) => true
  | _ => false

set_option maxRecDepth 100000 in
/-- Not every journal restores: the approval that a rewound agent committed does not replay. -/
theorem journal_unrestorable : ¬∀ (kernel handle : CanonicalKernel plain) (records : List (KernelRecord plain.codec)),
    Run (fun _ => True) plainDefaults kernel records → handle.defaults = plainDefaults →
      ∃ restored, handle.restore plainStates none records = .ok (.ok (),restored) ∧ SameHistory restored kernel := by
  intro restorable
  have awaiting : Run (fun _ => True) plainDefaults awaitingApproval (journal (.new plain plainDefaults) (startEnvelopes ++ [providerTurn])) :=
    Run.journal (startEnvelopes ++ [providerTurn]) .genesis (by decide +kernel)
  have rewound := awaiting.rewound trivial (rewound_of_unstaged belated (by decide +kernel))
  have run := Run.journal [approval] rewound (by decide +kernel)
  obtain ⟨restored,succeeded,_⟩ := restorable _ (.new plain plainDefaults) rewoundJournal run rfl
  have refused : restoresFrom (.new plain plainDefaults) rewoundJournal = false := by decide +kernel
  simp [restoresFrom,succeeded] at refused

end Plain

end Deepstrike.Kernel

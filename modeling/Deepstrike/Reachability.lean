import Deepstrike.Committing
import Deepstrike.Kernel

/-!
The kernels a host can bring about, and how the two halves of such a kernel go together: a restore
point stands exactly behind a candidate, and a driver that has no genesis yet is a new one.
-/
namespace Deepstrike.Kernel
open Wire Record Vocabulary Transaction Driver KernelTransaction CanonicalKernel

variable {K : Parts}

/-- The kernels that come about by any calls of a host, in any order, with whatever it passes. -/
inductive Reachable (S : StateCodec K) : CanonicalKernel K → Prop where
  | new (defaults : ConfigDefaults) : Reachable S (.new K defaults)
  | prepare {kernel after : CanonicalKernel K} {envelope : WireEnvelope} {preparation : Preparation K} :
      Reachable S kernel → kernel.prepare envelope = .ok (preparation,after) → Reachable S after
  | commit {kernel after : CanonicalKernel K} {token : PrepareToken} {appended_head : Digest}
      {committed : Except KernelFault (CommittedTransition K.codec)} :
      Reachable S kernel → kernel.commit token appended_head = .ok (committed,after) → Reachable S after
  | abort {kernel : CanonicalKernel K} (token : PrepareToken) : Reachable S kernel → Reachable S (kernel.abort token).2
  | ack {kernel : CanonicalKernel K} (boundary : CheckpointBoundary) :
      Reachable S kernel → Reachable S (kernel.note_checkpoint_acked boundary).2
  | restore {kernel after : CanonicalKernel K} {checkpoint : Option (KernelCheckpoint K)} {records : List (KernelRecord K.codec)}
      {restored : Except KernelFault Unit} :
      Reachable S kernel → kernel.restore S checkpoint records = .ok (restored,after) → Reachable S after

/-- How the halves of a kernel go together. -/
structure Paired (kernel : CanonicalKernel K) : Prop where
  point : kernel.transaction.candidate.isSome → kernel.before_candidate.isSome
  busy : kernel.before_candidate.isSome → kernel.transaction.candidate.isSome ∨ kernel.transaction.poison.isSome
  unconfigured : kernel.transaction.config = none → match kernel.before_candidate with
    | none => kernel.driver = .new K
    | some point => point = .Fresh
  configured : ∀ candidate, kernel.transaction.candidate = some candidate →
    (candidate.input.resolved_config.or kernel.transaction.config).isSome

theorem Paired.new (K : Parts) (defaults : ConfigDefaults) : Paired (.new K defaults) :=
  ⟨by simp [CanonicalKernel.new,KernelTransaction.new],by simp [CanonicalKernel.new],fun _ => rfl,
    by simp [CanonicalKernel.new,KernelTransaction.new]⟩

theorem Paired.free {kernel : CanonicalKernel K} (paired : Paired kernel) (idle : kernel.before_candidate = none) :
    kernel.transaction.candidate = none := by
  cases candidate : kernel.transaction.candidate with
  | none => rfl
  | some _ => simpa [idle] using paired.point (by simp [candidate])

variable {envelope : WireEnvelope} {answer : Except KernelFault Unit} {S : StateCodec K} {checkpoint : Option (KernelCheckpoint K)}
variable {records : List (KernelRecord K.codec)} {defaults : ConfigDefaults} {index : RecordIndex K.codec}

theorem prepare_held {kernel : CanonicalKernel K} {fault : KernelFault} (held : kernel.before_candidate.isSome)
    (refused : kernel.transaction.check_preparable envelope.operation_id = .error fault) :
    kernel.prepare envelope = .ok (.Rejected fault,kernel) := by
  simp only [CanonicalKernel.prepare,held,if_true,prepare_refused refused,bind,Except.bind]
  rfl

theorem Paired.prepare_busy {kernel : CanonicalKernel K} (paired : Paired kernel)
    (held : kernel.before_candidate.isSome)
    (envelope : WireEnvelope) : ∃ fault, kernel.prepare envelope = .ok (.Rejected fault,kernel) := by
  obtain ⟨fault,refused,_⟩ := check_preparable_busy (paired.busy held) envelope.operation_id
  exact ⟨fault,prepare_held held refused⟩

/-- What becomes of a plan: a staged one leaves its restore point, any other is taken back. -/
def settledPlan (kernel : CanonicalKernel K) (point : DriverRestorePoint K) (preparation : Preparation K)
    (transaction : KernelTransaction K.codec) (driver : OperationDriver K) : Preparation K × CanonicalKernel K :=
  if preparation.isPrepared then (preparation,{ kernel with transaction, driver, before_candidate := some point })
  else match rebuild_driver point with
    | .error fault => (.Rejected fault,{ kernel with transaction, driver })
    | .ok driver => (preparation,{ kernel with transaction, driver })

section
variable {kernel : CanonicalKernel K} {point : DriverRestorePoint K} {preparation : Preparation K} {transaction : KernelTransaction K.codec}
  {driver : OperationDriver K}

theorem settledPlan_staged (staged : preparation.isPrepared = true) :
    settledPlan kernel point preparation transaction driver =
      (preparation,{ kernel with transaction, driver, before_candidate := some point }) := by
  simp [settledPlan,staged]

theorem settledPlan_rebuilt {rebuilt : OperationDriver K} (unstaged : preparation.isPrepared = false)
    (rebuilds : rebuild_driver point = .ok rebuilt) :
    settledPlan kernel point preparation transaction driver =
    (preparation,{ kernel with transaction, driver := rebuilt }) := by
  simp [settledPlan,unstaged,rebuilds]

theorem settledPlan_refused {fault : KernelFault} (unstaged : preparation.isPrepared = false)
    (refused : rebuild_driver point = .error fault) :
    settledPlan kernel point preparation transaction driver =
    (.Rejected fault,{ kernel with transaction, driver }) := by
  simp [settledPlan,unstaged,refused]

end

/-- A preparation of a kernel without a restore point: capture one, plan, settle the plan. -/
theorem prepare_idle_eq {kernel : CanonicalKernel K} (idle : kernel.before_candidate = none) (envelope : WireEnvelope) :
    kernel.prepare envelope =
      match kernel.capture_driver_restore_point with
      | .error site => .error site
      | .ok (.error fault) => .ok (.Rejected fault,kernel)
      | .ok (.ok point) =>
        match kernel.transaction.prepare K.resolve envelope plan kernel.driver with
        | .error site => .error site
        | .ok (preparation,transaction,driver) => .ok (settledPlan kernel point preparation transaction driver) := by
  simp only [CanonicalKernel.prepare,idle,Option.isSome_none,Bool.false_eq_true,if_false,bind,Except.bind]
  cases kernel.capture_driver_restore_point with
  | error site => rfl
  | ok captured =>
  cases captured with
  | error fault => rfl
  | ok point =>
  cases kernel.transaction.prepare K.resolve envelope plan kernel.driver with
  | error site => rfl
  | ok result =>
  obtain ⟨answer,transaction,driver⟩ := result
  cases answer with
  | Prepared token record step => rfl
  | Replayed record digest step step_seq =>
    simp only [settledPlan,KernelPreparation.isPrepared,Bool.false_eq_true,if_false,idle]
    cases rebuild_driver point <;> rfl
  | Rejected fault =>
  simp only [settledPlan,KernelPreparation.isPrepared,Bool.false_eq_true,if_false,idle]
  cases rebuild_driver point <;> rfl

/-- What a preparation of an idle kernel can come to. -/
theorem prepare_idle_cases {kernel after : CanonicalKernel K} {preparation : Preparation K}
    (idle : kernel.before_candidate = none) (prepared : kernel.prepare envelope = .ok (preparation,after)) :
    (∃ fault, kernel.capture_driver_restore_point = .ok (.error fault) ∧ preparation = .Rejected fault ∧
    after = kernel) ∨
    ∃ point answer transaction driver, kernel.capture_driver_restore_point = .ok (.ok point) ∧
      kernel.transaction.prepare K.resolve envelope plan kernel.driver = .ok (answer,transaction,driver) ∧
      (preparation,after) = settledPlan kernel point answer transaction driver := by
  rw [prepare_idle_eq idle] at prepared
  split at prepared
  · cases prepared
  next fault captured =>
    cases prepared
    exact .inl ⟨fault,captured,rfl,rfl⟩
  next point captured =>
  split at prepared
  · cases prepared
  next answer transaction driver planned =>
    exact .inr ⟨point,answer,transaction,driver,captured,planned,(Except.ok.inj prepared).symm⟩

/-- A commit that the transaction refuses changes nothing but the transaction, any other is noted by the driver and frees the slot. -/
theorem commit_outcome {kernel after : CanonicalKernel K} {token : PrepareToken} {appended_head : Digest}
    {answer : Except KernelFault (CommittedTransition K.codec)}
    (committed : kernel.commit token appended_head = .ok (answer,after)) :
    (∃ fault transaction, kernel.transaction.commit token appended_head = (.error fault,transaction) ∧
    after = { kernel with transaction }) ∨
    ∃ transition transaction driver, kernel.transaction.commit token appended_head = (.ok transition,transaction) ∧
      after = { kernel with transaction, driver, before_candidate := none } := by
  simp only [CanonicalKernel.commit,bind,Except.bind] at committed
  split at committed
  next fault transaction refused =>
    cases committed
    exact .inl ⟨fault,transaction,refused,rfl⟩
  next transition transaction folded =>
  split at committed
  · cases committed
  · cases committed
    exact .inr ⟨transition,transaction,_,folded,rfl⟩

theorem abort_transaction (kernel : CanonicalKernel K) (token : PrepareToken) :
    (kernel.abort token).2.transaction = (kernel.transaction.abort token).2 ∧
    (kernel.abort token).2.defaults = kernel.defaults := by
  unfold CanonicalKernel.abort
  cases kernel.transaction.abort token with | mk aborted transaction
  cases aborted with
  | error fault => exact ⟨rfl,rfl⟩
  | ok record =>
  cases kernel.before_candidate with
  | none => exact ⟨rfl,rfl⟩
  | some point => cases rebuilt : rebuild_driver point <;> simp [rebuilt]

/-- A restore refuses and changes nothing, or installs what it rebuilt. -/
theorem restore_outcome {kernel after : CanonicalKernel K}
    (restored : kernel.restore S checkpoint records = .ok (answer,after)) :
    (∃ fault, answer = .error fault ∧ after = kernel) ∨ ∃ transaction driver,
      restore_operation S checkpoint records kernel.defaults (RecordIndex.from_records records) =
      .ok (.ok transaction,driver) ∧
        after = { kernel with transaction, driver, before_candidate := none } := by
  simp only [restore,bind,Except.bind] at restored
  split at restored
  · cases restored
  next result outcome =>
  split at restored
  next fault driver =>
    cases restored
    exact .inl ⟨fault,rfl,rfl⟩
  next transaction driver =>
  cases restored
  exact .inr ⟨transaction,driver,outcome,rfl⟩

theorem capture_unconfigured (kernel : CanonicalKernel K) (unconfigured : kernel.transaction.config = none) :
    kernel.capture_driver_restore_point = .ok (.ok .Fresh) := by
  simp [capture_driver_restore_point,unconfigured]

/-- A staged candidate has a configuration to stand on. -/
theorem stage_configured {tx after : KernelTransaction K.codec} {input : NormalizedInput} {step_seq : Nat}
    {config : ResolvedOperationConfig}
    {step : PlannedStep} {preparation : Preparation K} (admitted : KernelTransaction.Admitted tx input step_seq config)
    (staged : tx.stage (tx.plan_context input step_seq config) step = .ok (preparation,after)) :
    preparation.isPrepared = true ∧ after.config = tx.config ∧ ∃ candidate, after.candidate = some candidate ∧
    candidate.input = input ∧
      (candidate.input.resolved_config.or tx.config).isSome := by
  obtain ⟨record,_,same⟩ := stage_cases staged
  cases same
  exact ⟨rfl,rfl,_,rfl,rfl,by simp [plan_context,admitted.configured]⟩

/-- A preparation keeps transaction and driver paired. -/
theorem Paired.prepare {kernel after : CanonicalKernel K} {envelope : WireEnvelope} {preparation : Preparation K}
    (paired : Paired kernel)
    (prepared : kernel.prepare envelope = .ok (preparation,after)) : Paired after := by
  cases held : kernel.before_candidate with
  | some point =>
    obtain ⟨fault,refused⟩ := paired.prepare_busy (by simp [held]) envelope
    rw [refused] at prepared
    cases prepared
    exact paired
  | none =>
  obtain ⟨_,_,_,rfl⟩ | ⟨point,answer,transaction,driver,captured,planned,outcome⟩ := prepare_idle_cases held prepared
  · exact paired
  have free := paired.free held
  obtain ⟨unstaged,rfl⟩ | ⟨input,step_seq,config,step,admitted,_,staged,_⟩ := prepare_cases planned
  · cases rebuilt : rebuild_driver point with
    | error fault =>
      rw [settledPlan_refused unstaged rebuilt] at outcome
      cases outcome
      refine ⟨by simp [free],by simp [held],?_,by simp [free]⟩
      intro unconfigured
      rw [capture_unconfigured kernel unconfigured] at captured
      cases captured
      cases rebuilt
    | ok driver =>
    rw [settledPlan_rebuilt unstaged rebuilt] at outcome
    cases outcome
    refine ⟨by simp [free],by simp [held],?_,by simp [free]⟩
    intro unconfigured
    rw [capture_unconfigured kernel unconfigured] at captured
    cases captured
    cases rebuilt
    simp [held]
  obtain ⟨isStaged,kept,candidate,staging,_,configured⟩ := stage_configured admitted staged
  rw [settledPlan_staged isStaged] at outcome
  cases outcome
  refine ⟨fun _ => rfl,fun _ => .inl (by simp [staging]),?_,?_⟩
  · intro unconfigured
    rw [capture_unconfigured kernel (kept ▸ unconfigured)] at captured
    cases captured
    rfl
  intro other same
  simp only [staging,Option.some.injEq] at same
  subst same
  rw [kept]
  exact configured

/-- A commit keeps transaction and driver paired. -/
theorem Paired.commit {kernel : CanonicalKernel K} (paired : Paired kernel) (token : PrepareToken)
    (appended_head : Digest)
    (answer : Except KernelFault (CommittedTransition K.codec)) (after : CanonicalKernel K)
    (committed : kernel.commit token appended_head = .ok (answer,after)) : Paired after := by
  obtain ⟨fault,transaction,refused,rfl⟩ | ⟨transition,transaction,driver,done,rfl⟩ := commit_outcome committed
  · obtain ⟨_,_,⟨_,rfl⟩ | ⟨clean,poisoned,dropped,kept⟩⟩ | ⟨_,_,_,_,_,_,same⟩ := commit_cases refused
    · exact paired
    · refine ⟨by simp [dropped],fun _ => .inr poisoned,?_,by simp [dropped]⟩
      exact fun unconfigured => paired.unconfigured (kept unconfigured)
    · cases same
  obtain ⟨_,same,_⟩ | ⟨candidate,_,held,_,_,folded,same⟩ := commit_cases done
  · cases same
  have facts := foldRecord_ok folded
  have configured := paired.configured candidate held
  have kept : transaction.config.isSome := by rw [facts.config]; exact configured
  have empty : transaction.candidate = none := facts.candidate
  exact ⟨by simp [empty],by simp,fun unconfigured => absurd unconfigured (Option.isSome_iff_ne_none.mp kept),by simp [empty]⟩

/-- An abort keeps transaction and driver paired. -/
theorem Paired.abort {kernel : CanonicalKernel K} (paired : Paired kernel) (token : PrepareToken) :
    Paired (kernel.abort token).2 := by
  unfold CanonicalKernel.abort
  obtain ⟨fault,same⟩ | ⟨candidate,_,held,_,outcome⟩ := abort_cases kernel.transaction token
  · rw [same]
    exact paired
  obtain ⟨point,before⟩ := Option.isSome_iff_exists.mp (paired.point (by simp [held]))
  rw [outcome,before]
  simp only
  cases rebuilt : rebuild_driver point with
  | error fault =>
    refine ⟨by simp,by simp,?_,by simp⟩
    intro unconfigured
    have fresh := paired.unconfigured unconfigured
    simp only [before] at fresh
    rw [fresh] at rebuilt
    cases rebuilt
  | ok driver =>
  refine ⟨by simp,by simp,?_,by simp⟩
  intro unconfigured
  have fresh := paired.unconfigured unconfigured
  simp only [before] at fresh
  rw [fresh] at rebuilt
  cases rebuilt
  rfl

theorem Paired.ack {kernel : CanonicalKernel K} (paired : Paired kernel) (boundary : CheckpointBoundary) :
    Paired (kernel.note_checkpoint_acked boundary).2 := by
  obtain ⟨tail,acked⟩ := note_checkpoint_acked_tail kernel.transaction boundary
  unfold CanonicalKernel.note_checkpoint_acked
  simp only [acked]
  exact ⟨paired.point,paired.busy,paired.unconfigured,paired.configured⟩

/-- A transaction that a restore left: nothing is staged, and only an empty journal is
    unconfigured. -/
structure Restored (transaction : KernelTransaction K.codec) (driver : OperationDriver K) : Prop where
  candidate : transaction.candidate = none
  unconfigured : transaction.config = none → driver = .new K

private theorem Restored.replay {relabel : RecordError → KernelFault}
    {tx after : KernelTransaction K.codec} {driver driver' : OperationDriver K} (restored : Restored tx driver)
    (replayed : KernelTransaction.replay_records fold relabel tx records driver = .ok after driver') : Restored after driver' := by
  refine replay_records_invariant Restored ?_ restored replayed
  intro tx after input expected driver driver' restored stepped
  obtain ⟨step_seq,config,step,record,_,_,configured,_,_,_,folded⟩ := replay_committed_ok stepped
  have facts := foldRecord_ok folded
  refine ⟨facts.candidate.trans restored.candidate,fun unconfigured => ?_⟩
  rw [facts.config,configured] at unconfigured
  cases unconfigured

theorem settle_ok {α : Type} {program : DriverProgram K α} {driver driver' : OperationDriver K} {value : α}
    (settled : settle program driver = .ok (.ok value,driver')) : program driver = .ok value driver' := by
  unfold settle at settled
  split at settled
  next ended =>
    cases settled
    exact ended
  all_goals cases settled

/-- A restore from a checkpoint: the checkpoint verifies, its halves come back, they project to
    what was captured, and the records behind it fold. -/
theorem restore_from_checkpoint_ok {checkpoint : KernelCheckpoint K} {transaction : KernelTransaction K.codec}
    {driver : OperationDriver K}
    (restored : restore_operation S (some checkpoint) records defaults index = .ok (.ok transaction,driver)) :
    ∃ tx base, KernelCheckpoint.verify S checkpoint = .ok () ∧
    restore_halves checkpoint defaults index = .ok (tx,base) ∧
      verify_restored_state S tx base checkpoint = .ok (.ok ()) ∧
      fold_records tx records base = .ok transaction driver := by
  simp only [restore_operation] at restored
  split at restored
  · cases restored
  · cases restored
  next tx base verified halves =>
  simp only [bind,Except.bind] at restored
  split at restored
  · cases restored
  next checked =>
  split at restored
  · cases restored
  · exact ⟨tx,base,verified,halves,checked,settle_ok restored⟩

/-- What a checkpoint that was taken is made of. -/
theorem checkpoint_taken {kernel : CanonicalKernel K} {checkpoint : KernelCheckpoint K}
    (taken : kernel.checkpoint_candidate S = .ok (.ok checkpoint)) :
    kernel.transaction.poison = none ∧ ∃ head projection transition, kernel.transaction.head = some head ∧
      kernel.transaction.operation_id = some checkpoint.operation_id ∧
      kernel.transaction.genesis_digest = some checkpoint.genesis_digest ∧
      checkpoint.boundary = ⟨head.step_seq,head.record_digest⟩ ∧ project_logical_state kernel.driver = .ok projection ∧
      kernel.transaction.transition_state projection.root_kind projection.focus = .ok transition ∧
      checkpoint.logical_state = ⟨transition,projection⟩ := by
  simp only [checkpoint_candidate,logical_state,bind,Except.bind] at taken
  cases projected : project_logical_state kernel.driver with
  | error site => simp [projected] at taken
  | ok projection =>
  simp only [projected] at taken
  cases poisoned : kernel.transaction.poison with
  | some fault => simp [poisoned,pure,Except.pure] at taken
  | none =>
  cases held : kernel.transaction.head with
  | none => simp [poisoned,held,checkpoint_boundary,pure,Except.pure] at taken
  | some head =>
  cases owner : kernel.transaction.operation_id with
  | none => simp [poisoned,held,owner,checkpoint_boundary,pure,Except.pure] at taken
  | some operation_id =>
  cases genesis : kernel.transaction.genesis_digest with
  | none => simp [poisoned,held,owner,genesis,checkpoint_boundary,pure,Except.pure] at taken
  | some genesis_digest =>
  simp only [poisoned,held,owner,genesis,checkpoint_boundary,Option.map_some,pure,Except.pure,Except.ok.injEq] at taken
  cases transited : kernel.transaction.transition_state projection.root_kind projection.focus with
  | error fault => simp [transited] at taken
  | ok transition =>
  simp only [transited,KernelCheckpoint.assemble,bind,Except.bind] at taken
  split at taken
  · cases taken
  split at taken
  · cases taken
  cases taken
  exact ⟨rfl,head,projection,transition,rfl,rfl,rfl,rfl,rfl,transited,rfl⟩

private theorem restore_operation_restored {transaction : KernelTransaction K.codec} {driver : OperationDriver K}
    (restored : restore_operation S checkpoint records defaults index = .ok (.ok transaction,driver)) : Restored transaction driver := by
  cases checkpoint with
  | none =>
    have replayed := settle_ok restored
    have fresh : Restored (.new defaults index) (.new K) := ⟨rfl,fun _ => rfl⟩
    simp only [rebuild_from_records_eq] at replayed
    split at replayed
    · cases replayed
      exact fresh
    · cases replayed
    · exact fresh.replay replayed
  | some checkpoint =>
  obtain ⟨tx,base,_,halves,_,replayed⟩ := restore_from_checkpoint_ok restored
  refine Restored.replay ?_ replayed
  unfold restore_halves at halves
  simp only [bind,Except.bind] at halves
  split at halves
  · cases halves
  · cases halves
    exact ⟨rfl,fun unconfigured => by cases unconfigured⟩

theorem Paired.restore {kernel after : CanonicalKernel K} (paired : Paired kernel)
    (restored : kernel.restore S checkpoint records = .ok (answer,after)) : Paired after := by
  obtain ⟨_,_,rfl⟩ | ⟨transaction,driver,outcome,rfl⟩ := restore_outcome restored
  · exact paired
  · have facts := restore_operation_restored outcome
    exact ⟨by simp [facts.candidate],by simp,facts.unconfigured,by simp [facts.candidate]⟩

theorem Reachable.paired {kernel : CanonicalKernel K} (reachable : Reachable S kernel) : Paired kernel := by
  induction reachable with
  | new defaults => exact Paired.new K defaults
  | prepare _ prepared paired => exact paired.prepare prepared
  | commit _ committed paired => exact paired.commit _ _ _ _ committed
  | abort token _ paired => exact paired.abort token
  | ack boundary _ paired => exact paired.ack boundary
  | restore _ restored paired => exact paired.restore restored

/-- An honest host: it appends and commits whatever is prepared. A panic leaves it with the kernel
    it had. -/
def drive (kernel : CanonicalKernel K) (envelope : WireEnvelope) : CanonicalKernel K :=
  match kernel.prepare envelope with
  | .error _ => kernel
  | .ok (.Prepared token record _,staged) =>
    match staged.commit token record.record_digest with
    | .error _ => staged
    | .ok (_,after) => after
  | .ok (_,after) => after

theorem drive_unstaged {kernel after : CanonicalKernel K} {preparation : Preparation K}
    (prepared : kernel.prepare envelope = .ok (preparation,after)) (unstaged : preparation.isPrepared = false) :
    drive kernel envelope = after := by
  unfold drive
  rw [prepared]
  cases preparation with
  | Prepared token record step => cases unstaged
  | Replayed record digest step step_seq => rfl
  | Rejected fault => rfl

theorem Reachable.drive {kernel : CanonicalKernel K} (reachable : Reachable S kernel) (envelope : WireEnvelope) :
    Reachable S (drive kernel envelope) := by
  unfold Kernel.drive
  split
  · exact reachable
  next token record step staged prepared =>
    split
    · exact reachable.prepare prepared
    next committed => exact (reachable.prepare prepared).commit committed
  next prepared => exact reachable.prepare prepared

theorem Reachable.driven {kernel : CanonicalKernel K} (reachable : Reachable S kernel) (envelopes : List WireEnvelope) :
    Reachable S (envelopes.foldl Kernel.drive kernel) := by
  induction envelopes generalizing kernel with
  | nil => exact reachable
  | cons envelope rest ih => exact ih (reachable.drive envelope)

end Deepstrike.Kernel

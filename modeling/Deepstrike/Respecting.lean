import Deepstrike.Steering

/-!
The resolutions and the plans respect every tolerant relation on the tasks, save three inputs: the
acknowledgement of a launch, the completion of a child, and its relaunch. Each of these is named where it occurs.
-/
namespace Deepstrike.Driver
open Wire Vocabulary
open Transaction Loop Frames

variable {K : Parts} {α : Type} {related : Roster → Roster → Prop} [Tolerant related]

theorem guarded_steered {c : Prop} [Decidable c] {code : KernelFaultCode} {message : String}
    {rest : DriverProgram K α} (steered : Steered related rest) :
    Steered related (if c then do (refuseWith code message : DriverProgram K Unit); rest else rest) := by
  split
  · exact (refuseWith_steered _ _).seq fun _ => steered
  · exact steered

/-! A provider turn. -/

private theorem require_pending_provider_call_steered (effect_id : EffectId) :
    Steered (K := K) related (require_pending_provider_call effect_id) := by
  unfold require_pending_provider_call
  refine Spans.of_get fun driver => Spans.here ?_
  split
  · exact steered_pure
  · exact refuseWith_steered _ _

private theorem derive_provider_syscalls_steered (effect_id : EffectId) (pending : PendingProviderCall) (consumed : OrdSet) (seen : List CallId)
    (calls : List ToolCall) : Steered (K := K) related (derive_provider_syscalls effect_id pending consumed seen calls) := by
  induction calls generalizing seen with
  | nil => exact steered_pure
  | cons call rest ih =>
  unfold derive_provider_syscalls
  refine guarded_steered (guarded_steered ?_)
  exact (ih _).seq fun _ => steered_pure

private theorem apply_provider_syscalls_steered (context : PlanContext) (batch : SyscallBatch) (derived : List (SyscallCausation × ToolCall)) :
    Steered (K := K) related (apply_provider_syscalls context batch derived) := by
  induction derived generalizing batch with
  | nil => exact steered_pure
  | cons first rest ih =>
  obtain ⟨causation,call⟩ := first
  unfold apply_provider_syscalls
  extract_lets adjudicated
  have adjudicates (outcome : Adjudicated) : Steered (K := K) related (adjudicated outcome) := by
    unfold adjudicated
    split
    · exact ih _
    · exact (note_rejection_steered _).seq fun _ => ih _
  split
  · exact (apply_syscall_steered _ _ _ _ _).seq adjudicates
  · exact Spans.seq steered_pure adjudicates

theorem merge_syscall_effects_steered (effects : List KernelEffect) (step : PlannedStep) (conflict : String)
    (withhold : Bool) :
    Steered (K := K) related (merge_syscall_effects effects step conflict withhold) := by
  unfold merge_syscall_effects
  split
  · exact steered_pure
  split
  · exact steered_pure
  · exact refuseWith_steered _ _

theorem take_observations_tolerated : Tolerated (K := K.toLoopParts) related take_observations :=
  Spans.of_get fun _ => Spans.here (clear_observations_tolerated.seq fun _ => tolerated_pure)

theorem prepend_observations_steered (observations : List KernelObservation) :
    Steered (K := K) related (prepend_observations observations) :=
  engine_if_any_steered (tolerated_aside fun _ => rfl)

private theorem feed_provider_message_tolerated (completed : ProviderCompleted) :
    Tolerated (K := K.toLoopParts) related (feed_provider_message completed) := by
  unfold feed_provider_message
  extract_lets fed cleared
  have feeds (u : Unit) : Tolerated (K := K.toLoopParts) related (fed u) := by
    unfold fed
    refine (onCtx_tolerated _).seq fun _ => (feed_llm_response_tolerated _).seq fun action => ?_
    exact (onCtx_tolerated _).seq fun _ => tolerated_pure
  have clears (u : Unit) : Tolerated (K := K.toLoopParts) related (cleared u) := by
    unfold cleared
    split
    · exact (onCtx_tolerated _).seq feeds
    · exact feeds ()
  split
  · exact (onCtx_tolerated _).seq clears
  · exact clears ()

private theorem drive_owed_round_steered (context : PlanContext) (root_kind : RootKind) (batch : SyscallBatch) :
    Steered (K := K) related (drive_owed_round context root_kind batch) := by
  unfold drive_owed_round
  split
  · exact steered_pure
  refine Spans.seq (engine_mut_steered (drive_workflow_tolerated _ _)) fun action => ?_
  refine (disposition_for_at_steered _ _ _ _).seq fun ⟨disposition,index⟩ => ?_
  split
  · exact steered_pure
  · exact refuseWith_steered _ _

/-- A step that may have consumed the calls of its syscalls, and has left a loop if it did. -/
structure Spent (related : Roster → Roster → Prop) (before after : OperationDriver K) : Prop where
  unspent : OnDriver related before { after with consumed_calls := before.consumed_calls }
  built : after.engine = none → after.consumed_calls = before.consumed_calls

omit [Tolerant related] in
theorem OnDriver.spent {before after : OperationDriver K} (on_driver : OnDriver related before after) :
    Spent related before after := by
  have same : after.consumed_calls = before.consumed_calls := congrArg Standing.consumed_calls on_driver.standing
  refine ⟨?_,fun _ => same⟩
  rw [← same]
  exact on_driver

omit [Tolerant related] in
theorem Steered.spent {program : DriverProgram K α} (steered : Steered related program) (driver : OperationDriver K) :
    Lands program driver (fun _ after => Spent related driver after) (OnDriver related driver) :=
  (steered driver).mono (fun _ _ both => both.1.spent) fun _ left => left

variable (context : PlanContext) (effect_id : EffectId)

private theorem plan_provider_completed_lands (completed : ProviderCompleted) (driver : OperationDriver K) :
    Lands (plan_provider_completed context effect_id completed) driver (fun _ after => Spent related driver after) (OnDriver related driver) := by
  unfold plan_provider_completed
  refine Lands.step (refl driver) require_root_kind_steered fun root_kind _ reached => ?_
  refine Lands.step reached (require_pending_provider_call_steered _) fun pending between reached => ?_
  refine (lands_bind _ _ _).mpr ((lands_get _).mpr ?_)
  refine Lands.step reached (derive_provider_syscalls_steered _ _ _ _ _) fun derived _ reached => ?_
  refine engine_mut_step reached ?_ fun _ _ reached built => ?_
  · extract_lets noted
    have notes (u : Unit) : Tolerated (K := K.toLoopParts) related (noted u) := tolerated_aside fun _ => rfl
    split
    · exact (onCtx_tolerated _).seq notes
    · exact notes ()
  refine Lands.step reached (apply_provider_syscalls_steered _ _ _) fun batch _ reached => ?_
  extract_lets awaits
  refine Lands.step reached (drive_owed_round_steered _ _ _) fun batch _ reached => ?_
  refine Lands.step reached (engine_mut_steered ?_) fun observations _ reached => ?_
  · exact Spans.seq (tolerated_aside fun _ => rfl) fun _ => take_observations_tolerated
  refine Lands.step reached (engine_mut_steered (feed_provider_message_tolerated _)) fun action _ reached => ?_
  refine Lands.step reached (continue_after_at_steered _ _ _ _) fun ⟨step,_⟩ _ reached => ?_
  refine Lands.step reached (prepend_observations_steered _) fun _ _ reached => ?_
  refine Lands.step reached (merge_syscall_effects_steered _ _ _ _) fun step last reached => ?_
  refine (lands_bind _ _ _).mpr ((lands_modify _ _).mpr ((lands_pure _ _).mpr ⟨?_,fun unbuilt => ?_⟩))
  · refine trans_of (OnDriver related) reached.spent.unspent ?_
    exact .same rfl
  · dsimp only at unbuilt
    rw [← reached.built,unbuilt] at built
    cases built

/-! The other resolutions. -/

private theorem change_residency_tolerated (handle_id : HandleId) (kind : HandleKind) (tokens : Nat) (residency : Residency) (original_size : Nat) :
    Tolerated (K := K.toLoopParts) related (change_residency (K := K) handle_id kind tokens residency original_size) := by
  unfold change_residency
  refine Spans.of_get fun e => ?_
  dsimp only
  exact Lands.set_spans (OnRoster.aside rfl) (observe_tolerated _)

private theorem record_external_payloads_tolerated (results : List ToolResultPayload) :
    Tolerated (K := K.toLoopParts) related (record_external_payloads (K := K) results) := by
  induction results with
  | nil => exact tolerated_pure
  | cons payload rest ih =>
  unfold record_external_payloads
  split
  · exact (change_residency_tolerated _ _ _ _ _).seq fun _ => ih
  · exact ih

private theorem refresh_call_llm_action_tolerated (action : LoopAction) :
    Tolerated (K := K.toLoopParts) related (refresh_call_llm_action action) := by
  unfold refresh_call_llm_action
  split
  · refine Spans.of_get fun e => Spans.here ((onCtx_tolerated _).seq fun _ => Spans.of_get fun e => ?_)
    dsimp only
    exact Lands.set_spans (OnRoster.aside rfl) tolerated_pure
  · exact tolerated_pure

private theorem plan_tools_completed_steered (context : PlanContext) (results : List ToolResultPayload) (measurements : List ToolMeasurement) :
    Steered (K := K) related (plan_tools_completed context results measurements) := by
  unfold plan_tools_completed
  refine require_root_kind_steered.seq fun root_kind => (ofExcept_steered _).seq fun _ => ?_
  refine Spans.seq (engine_mut_steered (Spans.of_get fun e => Spans.here ?_)) fun action => continue_after_steered _ _ _
  refine (feed_tool_results_tolerated _ _).seq fun action => ?_
  exact (record_external_payloads_tolerated _).seq fun _ => refresh_call_llm_action_tolerated _

private theorem keeping_focus_steered (step : PlannedStep) : Steered (K := K) related (keeping_focus step) :=
  Spans.of_get fun _ => Spans.here steered_pure

theorem continue_keeping_steered (context : PlanContext) (action : LoopAction) (root_kind : RootKind) :
    Steered (K := K) related (do keeping_focus (← continue_after context action root_kind)) :=
  (continue_after_steered _ _ _).seq fun _ => keeping_focus_steered _

theorem push_note_tolerated (after_results : Bool) (text : String) :
    Tolerated (K := K.toLoopParts) related (push_note (K := K) after_results text) :=
  tolerated_aside fun _ => rfl

private theorem read_recalls_tolerated (query : AuthoredMemoryQuery) (recalls : List MemoryRecall) :
    Tolerated (K := K.toLoopParts) related (read_recalls (K := K) query recalls) := by
  induction recalls with
  | nil => exact tolerated_pure
  | cons recalled rest ih =>
  unfold read_recalls
  split
  · exact ih.seq fun _ => tolerated_pure
  · split
    · exact (onCtx_tolerated _).seq fun _ => (push_note_tolerated _ _).seq fun _ => ih
    · exact (push_note_tolerated _ _).seq fun _ => ih

private theorem resume_after_query_tolerated (query : AuthoredMemoryQuery) :
    Tolerated (K := K.toLoopParts) related (resume_after_query (K := K) query) := by
  unfold resume_after_query
  split
  · exact emit_reasoning_tolerated
  · exact resume_after_preload_tolerated

private theorem plan_memory_queried_steered (context : PlanContext) (effect_id : EffectId) (recalls : List MemoryRecall) :
    Steered (K := K) related (plan_memory_queried context effect_id recalls) := by
  unfold plan_memory_queried
  refine require_root_kind_steered.seq fun root_kind => Spans.of_get fun driver => Spans.here ?_
  split
  · exact refuseWith_steered _ _
  next query _ =>
  extract_lets text taken
  have takes (u : Unit) : Steered (K := K) related (taken u) := by
    unfold taken
    refine Spans.seq (steered_aside fun _ => rfl) fun _ => ?_
    refine Spans.seq (engine_mut_steered ?_) fun action => continue_keeping_steered _ _ _
    refine Spans.of_get fun e => Spans.here ?_
    extract_lets turn resumed read
    have resumes (u : Unit) : Tolerated (K := K.toLoopParts) related (resumed u) := by
      unfold resumed
      refine (resume_after_query_tolerated _).seq fun action => (observe_tolerated _).seq fun _ => ?_
      exact (observeAll_tolerated _).seq fun _ => tolerated_pure
    have reads (u : Unit) : Tolerated (K := K.toLoopParts) related (read u) := by
      unfold read
      refine (read_recalls_tolerated _ _).seq fun lines => ?_
      split
      · exact (onCtx_tolerated _).seq resumes
      · exact resumes ()
    split
    · split
      · exact (push_note_tolerated _ _).seq reads
      · exact (onCtx_tolerated _).seq reads
    · exact reads ()
  split
  · split
    · exact (refuseWith_steered _ _).seq takes
    · exact takes ()
  · exact takes ()

private theorem verify_page_out_receipt_steered (context : PlanContext) (effect_id : EffectId) (receipt : ArchiveReceipt) :
    Steered (K := K) related (verify_page_out_receipt context effect_id receipt) := by
  unfold verify_page_out_receipt
  split
  · split
    · exact refuseWith_steered _ _
    · exact steered_pure
  · exact refuseWith_steered _ _

private theorem plan_page_out_archived_steered (context : PlanContext) (effect_id : EffectId) (receipt : ArchiveReceipt) :
    Steered (K := K) related (plan_page_out_archived context effect_id receipt) := by
  unfold plan_page_out_archived
  refine require_root_kind_steered.seq fun root_kind => (verify_page_out_receipt_steered _ _ _).seq fun _ => ?_
  refine Spans.seq (engine_mut_steered ?_) fun action => continue_after_steered _ _ _
  refine (commit_page_out_archive_tolerated _).seq fun action => ?_
  exact (change_residency_tolerated _ _ _ _ _).seq fun _ => tolerated_pure

private theorem settle_memory_write_steered (context : PlanContext) (authored : AuthoredMemoryWrite)
    (observation : KernelObservation) (outcome : String) :
    Steered (K := K) related (settle_memory_write context authored observation outcome) := by
  unfold settle_memory_write
  split
  · exact Spans.seq (engine_mut_steered (observe_tolerated _)) fun _ => quiet_step_steered
  refine require_root_kind_steered.seq fun root_kind => ?_
  refine Spans.seq (engine_mut_steered ?_) fun action => continue_keeping_steered _ _ _
  refine (push_note_tolerated _ _).seq fun _ => resume_after_preload_tolerated.seq fun action => ?_
  exact (observe_tolerated _).seq fun _ => tolerated_pure

private theorem take_memory_write_steered (effect_id : EffectId) : Steered (K := K) related (take_memory_write effect_id) := by
  unfold take_memory_write
  refine require_root_kind_steered.seq fun _ => Spans.of_get fun driver => Spans.here ?_
  split
  · exact refuseWith_steered _ _
  · exact Spans.seq (steered_aside fun _ => rfl) fun _ => steered_pure

private theorem commit_memory_write_steered (context : PlanContext) (effect_id : EffectId) (outcome : Except String String) :
    Steered (K := K) related (commit_memory_write context effect_id outcome) := by
  unfold commit_memory_write
  refine (take_memory_write_steered _).seq fun authored => look_steered.seq fun e => ?_
  split <;> exact settle_memory_write_steered _ _ _ _

private theorem commit_memory_candidate_steered (context : PlanContext) (effect_id : EffectId) (candidate : MemoryCandidateReceipt) :
    Steered (K := K) related (commit_memory_candidate context effect_id candidate) := by
  unfold commit_memory_candidate
  refine (take_memory_write_steered _).seq fun authored => guarded_steered ?_
  exact look_steered.seq fun e => settle_memory_write_steered _ _ _ _

private theorem commit_payload_load_steered (context : PlanContext) (effect_id : EffectId) (handle_id : HandleId)
    (content : String) (original_size : Nat) :
    Steered (K := K) related (commit_payload_load context effect_id handle_id content original_size) := by
  unfold commit_payload_load
  refine require_root_kind_steered.seq fun root_kind => Spans.of_get fun driver => Spans.here ?_
  split
  · exact refuseWith_steered _ _
  next pending _ =>
  extract_lets body loaded
  have loads (u : Unit) : Steered (K := K) related (loaded u) := by
    unfold loaded
    refine Spans.seq (steered_aside fun _ => rfl) fun _ => ?_
    refine Spans.seq (engine_mut_steered (Spans.of_get fun e => Spans.here ?_)) fun action => continue_keeping_steered _ _ _
    refine (push_note_tolerated _ _).seq fun _ => Spans.of_get fun e => Spans.here ?_
    refine Spans.seq (tolerated_aside fun _ => rfl) fun _ => resume_after_preload_tolerated.seq fun action => ?_
    exact (observe_tolerated _).seq fun _ => tolerated_pure
  split
  · exact (refuseWith_steered _ _).seq loads
  · exact loads ()

private theorem host_effect_terminal_steered (tag : EffectKindTag) (failure : HostEffectFailure) :
    Steered (K := K) related (host_effect_terminal tag failure) := by
  unfold host_effect_terminal
  refine require_root_kind_steered.seq fun root_kind => Spans.of_get fun driver => Spans.here ?_
  refine Spans.seq (engine_if_any_steered (set_lifecycle_tolerated _ _)) fun _ => ?_
  exact Spans.of_get fun driver => Spans.here steered_pure

/-- The launches a resolution reports as started. -/
def acknowledges : EffectOutcome → List TaskId
  | .Succeeded (.TasksSpawned launched) => launched.filterMap fun
    | (task_id,.Started) => some task_id
    | _ => none
  | _ => []

/-- The tasks of the batch whose launch is waited for. -/
def OperationDriver.launching (driver : OperationDriver K) : List TaskId :=
  (driver.engine.map LoopStateMachine.pending_spawn_agent_ids).getD []

/-- The relation allows for these acknowledgements. -/
def Acknowledged (related : Roster → Roster → Prop) (driver : OperationDriver K) (started : List TaskId) : Prop :=
  ∀ nodes : List WorkflowSpawnInfo, (∀ node ∈ nodes, node.agent_id ∈ started ∧ node.agent_id ∈ driver.launching) →
    Tolerated (K := K.toLoopParts) related (acknowledge_started nodes)

private theorem plan_tasks_spawned_lands (launched : List (TaskId × TaskLaunchStatus)) (driver : OperationDriver K)
    (acknowledged : Acknowledged related driver (acknowledges (.Succeeded (.TasksSpawned launched)))) :
    Lands (plan_tasks_spawned context launched) driver (fun _ after => OnDriver related driver after ∧ True) (OnDriver related driver) := by
  unfold plan_tasks_spawned
  extract_lets started failures
  refine (lands_bind _ _ _).mpr ((lands_modify _ _).mpr ?_)
  refine require_root_kind_lands (.same rfl) fun root_kind => Lands.since (.same rfl) (Lands.seq ?_ fun action => continue_after_steered _ _ _)
  exact engine_mut_lands fun engine held => resolve_workflow_spawn_lands _ _ engine fun nodes named => acknowledged nodes fun node member => by
    unfold OperationDriver.launching
    rw [held]
    exact named node member

private theorem plan_effect_failure_steered (context : PlanContext) (effect_id : EffectId) (failure : HostEffectFailure) :
    Steered (K := K) related (plan_effect_failure context effect_id failure) := by
  unfold plan_effect_failure
  split
  · exact refuseWith_steered _ _
  extract_lets error
  split
  · exact Spans.seq (steered_aside fun _ => rfl) fun _ => host_effect_terminal_steered _ _
  · exact host_effect_terminal_steered _ _
  · refine require_root_kind_steered.seq fun root_kind => Spans.seq (engine_mut_steered ?_) fun action => continue_after_steered _ _ _
    exact Spans.of_get fun e => Spans.here (feed_tool_results_tolerated _ _)
  · refine require_root_kind_steered.seq fun root_kind => Spans.seq (engine_mut_steered ?_) fun action => continue_after_steered _ _ _
    refine Spans.of_get fun e => Spans.here ((resolve_approval_tolerated _ _).seq fun action => ?_)
    exact (observe_tolerated _).seq fun _ => tolerated_pure
  · refine require_root_kind_steered.seq fun root_kind => look_steered.seq fun e => ?_
    refine Spans.seq (steered_aside fun _ => rfl) fun _ => Spans.seq (engine_mut_steered ?_) fun action => continue_after_steered _ _ _
    -- A launch that failed as a whole starts nothing.
    refine fun e => resolve_workflow_spawn_lands _ _ e fun nodes named => ?_
    cases nodes with
    | nil => exact tolerated_pure
    | cons node rest => exact (List.not_mem_nil (named node (List.mem_cons_self ..)).1).elim
  · refine require_root_kind_steered.seq fun root_kind => Spans.seq (engine_mut_steered ?_) fun _ => quiet_step_steered
    exact Spans.of_get fun e => Spans.here (observe_tolerated _)
  · exact commit_memory_write_steered _ _ _
  · refine require_root_kind_steered.seq fun root_kind => Spans.of_get fun driver => Spans.here ?_
    split
    · exact refuseWith_steered _ _
    refine Spans.seq (steered_aside fun _ => rfl) fun _ => Spans.seq (engine_mut_steered ?_) fun action => continue_keeping_steered _ _ _
    refine Spans.of_get fun e => Spans.here ((resume_after_query_tolerated _).seq fun action => ?_)
    exact (observe_tolerated _).seq fun _ => tolerated_pure
  · refine require_root_kind_steered.seq fun root_kind => Spans.seq (engine_mut_steered ?_) fun action => continue_after_steered _ _ _
    exact abandon_page_out_archive_tolerated _
  · refine require_root_kind_steered.seq fun root_kind => Spans.of_get fun driver => Spans.here ?_
    refine Spans.seq (steered_aside fun _ => rfl) fun _ => Spans.seq (engine_mut_steered ?_) fun action => continue_keeping_steered _ _ _
    refine Spans.of_get fun e => Spans.here (resume_after_preload_tolerated.seq fun action => ?_)
    exact (observe_tolerated _).seq fun _ => tolerated_pure

private theorem plan_effect_success_lands (success : EffectSuccess) (driver : OperationDriver K)
    (acknowledged : Acknowledged related driver (acknowledges (.Succeeded success))) :
    Lands (plan_effect_success context effect_id success) driver (fun _ after => Spent related driver after) (OnDriver related driver) := by
  unfold plan_effect_success
  split
  · exact plan_provider_completed_lands _ _ _ driver
  · refine Steered.spent (require_root_kind_steered.seq fun root_kind => (require_pending_provider_call_steered _).seq fun _ => ?_) driver
    refine Spans.seq (engine_mut_steered ?_) fun action => ?_
    · extract_lets recovered
      split
      · exact (onCtx_tolerated _).seq fun _ => recover_from_context_overflow_tolerated
      · exact recover_from_context_overflow_tolerated
    · exact Spans.seq (steered_aside fun _ => rfl) fun _ => continue_after_steered _ _ _
  · exact Steered.spent (plan_tools_completed_steered _ _ _) driver
  · refine Steered.spent (require_root_kind_steered.seq fun root_kind => ?_) driver
    refine Spans.seq (engine_mut_steered ?_) fun action => continue_after_steered _ _ _
    refine (resolve_approval_tolerated _ _).seq fun action => ?_
    exact Spans.seq (onTasks_tolerated fun roster => Tolerant.heard roster (.Approval "pending")) fun _ => tolerated_pure
  · exact (plan_tasks_spawned_lands _ _ driver acknowledged).mono (fun _ _ both => both.1.spent) fun _ left => left
  · refine Steered.spent (require_root_kind_steered.seq fun root_kind => ?_) driver
    refine Spans.seq (steered_aside fun _ => rfl) fun _ => ?_
    exact Spans.seq (engine_mut_steered resolve_preempt_tolerated) fun action => continue_after_steered _ _ _
  · exact Steered.spent (commit_memory_write_steered _ _ _) driver
  · exact Steered.spent (commit_memory_candidate_steered _ _ _) driver
  · exact Steered.spent (refuseWith_steered _ _) driver
  · exact Steered.spent (plan_memory_queried_steered _ _ _) driver
  · exact Steered.spent (plan_page_out_archived_steered _ _ _) driver
  · refine Steered.spent (require_root_kind_steered.seq fun root_kind => ?_) driver
    exact Spans.seq (engine_mut_steered (feed_milestone_result_tolerated _ _ _)) fun action => continue_after_steered _ _ _
  · exact Steered.spent (commit_payload_load_steered _ _ _ _ _) driver

/-- The plan of a resolved effect relates the rosters, also when it is refused. -/
theorem plan_resolve_effect_lands (outcome : EffectOutcome) (driver : OperationDriver K)
    (acknowledged : Acknowledged related driver (acknowledges outcome)) :
    Lands (plan_resolve_effect context effect_id outcome) driver (fun _ after => Spent related driver after)
    (OnDriver related driver) := by
  have settles (step : PlannedStep) (between : OperationDriver K) (spent : Spent related driver between) :
      Lands (do
        engine_mut (onTasks fun tasks => tasks.notify (.Effect effect_id))
        pure step) between (fun _ after => Spent related driver after) (OnDriver related driver) := by
    refine (lands_bind _ _ _).mpr (engine_mut_judged (fun unbuilt => ?_) fun engine held => ?_)
    · have unspent := spent.unspent
      rw [← spent.built unbuilt] at unspent
      exact unspent
    refine (lands_modify _ _).mpr ((lands_pure _ _).mpr ⟨?_,fun unbuilt => by cases unbuilt⟩)
    refine trans_of (OnDriver related) spent.unspent ?_
    refine ⟨?_,rfl⟩
    unfold OperationDriver.roster
    dsimp only
    rw [held]
    exact .some (Tolerant.heard engine.roster (.Effect effect_id))
  unfold plan_resolve_effect
  cases outcome with
  | Succeeded success => exact (lands_bind _ _ _).mpr ((plan_effect_success_lands _ _ _ _ acknowledged).mono settles fun _ left => left)
  | Failed failure => exact (lands_bind _ _ _).mpr ((Steered.spent (plan_effect_failure_steered _ _ _) driver).mono settles fun _ left => left)

end Deepstrike.Driver

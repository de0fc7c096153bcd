import Deepstrike.Agreement
import Deepstrike.Respecting

/-!
The plans of the driver respect every tolerant relation on the tasks. Genesis and a policy patch change
the limits themselves and are left out; the completion of a child depends on what its supervisor does.
-/
namespace Deepstrike.Driver
open Wire Tasks Vocabulary
open Transaction Loop Frames

variable {K : Parts} {α : Type} {related : Roster → Roster → Prop} [Tolerant related]

/-! External events. -/

private theorem notify_waiters_tolerated (key : WaitCondition) : Tolerated (K := K.toLoopParts) related (notify_waiters (K := K) key) := by
  unfold notify_waiters
  refine Spans.of_get fun e => Spans.here (Spans.seq (onTasks_tolerated fun roster => Tolerant.heard roster key) fun _ => ?_)
  refine Spans.of_get fun after => Spans.here ?_
  split
  · exact observe_local_runnable_tasks_tolerated
  · exact tolerated_pure

private theorem require_live_target_steered (signal : LogicalSignal) : Steered (K := K) related (require_live_target signal) := by
  unfold require_live_target
  split
  · refine Spans.of_get fun driver => Spans.here ?_
    extract_lets live
    split
    · exact refuseWith_steered _ _
    · exact steered_pure
  · exact steered_pure

/-- The plan of a signal relates the rosters. -/
theorem plan_signal_steered (context : PlanContext) (delivery : DeliverSignal) :
    Steered (K := K) related (plan_signal context delivery) := by
  unfold plan_signal
  refine require_root_kind_steered.seq fun root_kind => guarded_steered ?_
  refine (require_live_target_steered _).seq fun _ => Spans.of_get fun driver => Spans.here ?_
  extract_lets delivered
  have delivers (u : Unit) : Steered (K := K) related (delivered u) := by
    unfold delivered
    refine Spans.seq (engine_mut_steered ?_) fun action => ?_
    · exact (signal_event_tolerated _ _ _ _ _).seq fun action => (notify_waiters_tolerated _).seq fun _ => tolerated_pure
    split
    · exact continue_after_steered _ _ _
    · exact quiet_step_steered
  split
  · exact (require_effect_support_steered _ _).seq delivers
  · exact delivers ()

private theorem apply_parent_requests_steered (context : PlanContext) (completed : ChildCompleted)
    (seq effect_index : Nat) (effects : List KernelEffect)
    (requests : List SyscallRequest) : Steered (K := K) related (apply_parent_requests context completed seq effect_index effects requests) := by
  induction requests generalizing seq effect_index effects with
  | nil => exact steered_pure
  | cons request rest ih =>
  unfold apply_parent_requests
  dsimp only
  refine Spans.seq (attempt_steered (apply_syscall_steered _ _ _ _ _)) fun adjudicated => ?_
  split
  · exact ih _ _ _
  · exact (note_rejection_steered _).seq fun _ => ih _ _ _
  · exact (note_rejection_steered _).seq fun _ => ih _ _ _

theorem supervision_of_steered (task_id : TaskId) : Steered (K := K) related (supervision_of task_id) := by
  unfold supervision_of
  refine look_steered.seq fun e => ?_
  split
  · exact refuseWith_steered _ _
  · exact steered_pure

theorem completion_steered (context : PlanContext) (completed : ChildCompleted) (root_kind : RootKind)
    (result : ChildResult)
    (joined : ∀ (roster : Roster) (state : TaskLifecycle) (result : ChildResult), state.occupies_slot = false →
      related roster (roster.map fun tasks => tasks.modify completed.task_id fun task =>
      { task with state, result := some result })) :
    Steered (K := K) related (do
      engine_mut (onTasks fun tasks => tasks.notify (.Child completed.task_id))
      modify fun driver => { driver with attempts := driver.attempts.erase completed.task_id }
      let (effect_index,effects) ← apply_parent_requests context completed 0 0 [] completed.parent_requests
      let syscall_observations ← engine_mut take_observations
      let action ← engine_mut (feed_sub_agent_completed completed.task_id result)
      let (step,_) ← continue_after_at context action root_kind effect_index
      prepend_observations syscall_observations
      merge_syscall_effects effects step
        "a completion that terminates the operation cannot also publish the effects its parent requests asked for (§7.12)" false) := by
  refine Spans.seq (engine_mut_steered (onTasks_tolerated fun roster => Tolerant.heard roster (.Child completed.task_id))) fun _ => ?_
  refine Spans.seq (steered_aside fun _ => rfl) fun _ => (apply_parent_requests_steered _ _ _ _ _ _).seq fun ⟨effect_index,effects⟩ => ?_
  refine Spans.seq (engine_mut_steered take_observations_tolerated) fun observations => ?_
  refine Spans.seq (engine_mut_steered (feed_sub_agent_completed_tolerated _ _ fun roster state free =>
    joined roster state result free)) fun action => ?_
  refine (continue_after_at_steered _ _ _ _).seq fun ⟨step,_⟩ => (prepend_observations_steered _).seq fun _ => ?_
  exact merge_syscall_effects_steered _ _ _ _

/-! Host commands. -/

private theorem plan_cancel_steered (context : PlanContext) (reason : CancellationReason) (pending_call_ids : List CallId) :
    Steered (K := K) related (plan_cancel context reason pending_call_ids) := by
  unfold plan_cancel
  refine Spans.of_get fun driver => Spans.here (Spans.seq (engine_mut_steered (cancel_operation_tolerated _ _ _)) fun action => ?_)
  refine Spans.seq (steered_aside fun _ => rfl) fun _ => ?_
  split
  · exact steered_pure
  · exact refuseWith_steered _ _

private theorem plan_dynamic_workflow_append_steered (context : PlanContext) (nodes : List WireNode) (plan : Option Json) :
    Steered (K := K) related (plan_dynamic_workflow_append context nodes plan) := by
  unfold plan_dynamic_workflow_append
  refine guarded_steered (Spans.of_get fun driver => Spans.here (guarded_steered ?_))
  extract_lets fresh checked known
  have grows (u : Unit) : Steered (K := K) related (fresh u) := by
    unfold fresh
    refine Spans.seq (engine_mut_steered ?_) fun ⟨appended,action⟩ => ?_
    · refine (append_workflow_nodes_tolerated _ _ _).seq fun appended => ?_
      split
      · exact (drive_workflow_tolerated _ _).seq fun _ => tolerated_pure
      · exact tolerated_pure
    dsimp only
    split
    · refine Spans.seq (steered_aside fun _ => rfl) fun _ => ?_
      split
      · refine Spans.seq (engine_mut_steered ?_) fun _ => continue_after_steered _ _ _
        exact Spans.of_get fun e => Spans.here (observe_tolerated _)
      · exact continue_after_steered _ _ _
    · exact continue_after_steered _ _ _
  have checks (u : Unit) : Steered (K := K) related (checked u) := by
    unfold checked
    refine (ofExcept_steered _).seq fun _ => ?_
    split
    · exact (refuseWith_steered _ _).seq grows
    · exact grows ()
  have knows (u : Unit) : Steered (K := K) related (known u) := by
    unfold known
    split
    · split
      · exact (refuseWith_steered _ _).seq checks
      · exact checks ()
    · exact checks ()
  split
  · exact (refuseWith_steered _ _).seq knows
  · exact knows ()

private theorem plan_dynamic_workflow_replay_steered (fact : Json) : Steered (K := K) related (plan_dynamic_workflow_replay fact) := by
  unfold plan_dynamic_workflow_replay
  extract_lets recorded replayed
  have records (u : Unit) : Steered (K := K) related (recorded u) := by
    refine Spans.seq (engine_mut_steered ?_) fun _ => quiet_step_steered
    exact Spans.of_get fun e => Spans.here (observe_tolerated _)
  have replays (u : Unit) : Steered (K := K) related (replayed u) := by
    refine Spans.of_get fun driver => Spans.here ?_
    split
    · exact (refuseWith_steered _ _).seq records
    · exact records ()
  split
  · exact (refuseWith_steered _ _).seq replays
  · exact replays ()

private theorem plan_dynamic_workflow_complete_steered (context : PlanContext) :
    Steered (K := K) related (plan_dynamic_workflow_complete context) := by
  unfold plan_dynamic_workflow_complete
  refine Spans.of_get fun driver => Spans.here ?_
  dsimp only
  refine guarded_steered ?_
  exact Spans.seq (engine_mut_steered close_dynamic_workflow_tolerated) fun action => continue_after_steered _ _ _

private theorem plan_update_deadline_steered (deadline_ms : Option Nat) : Steered (K := K) related (plan_update_deadline deadline_ms) := by
  unfold plan_update_deadline
  refine look_steered.seq fun e => ?_
  split
  · exact refuseWith_steered _ _
  · have measured (budget : Option Nat) : Tolerated (K := K.toLoopParts) related
        (modify fun e => { e with policy := { e.policy with max_wall_ms := budget } }) := tolerated_aside fun _ => rfl
    exact Spans.seq (engine_mut_steered (measured _)) fun _ => quiet_step_steered

private theorem plan_admit_memory_write_steered (context : PlanContext) (record_id name : String) (content_bytes : Nat) :
    Steered (K := K) related (plan_admit_memory_write context record_id name content_bytes) := by
  unfold plan_admit_memory_write
  refine Spans.seq (engine_mut_steered (Spans.of_get fun e => Spans.here ?_)) fun _ => quiet_step_steered
  dsimp only
  split
  · exact observe_tolerated _
  · refine evaluate_memory_write_quota_tolerated.seq fun verdict => ?_
    split
    · exact tolerated_pure
    · exact observe_tolerated _

private theorem changeCtx_steered (code : KernelFaultCode) (change : Nat → K.Ctx → Except String (List KernelObservation × K.Ctx)) :
    Steered related (changeCtx code change) := by
  unfold changeCtx
  refine Spans.seq (engine_mut_steered (Spans.of_get fun e => ?_)) fun _ => quiet_step_steered
  split
  · exact lands_throw _ _ (refl e)
  · exact (lands_set _ _).mpr ⟨OnRoster.aside rfl,trivial⟩

/-- A host command that patches nothing relates the rosters. -/
theorem plan_host_control_steered (context : PlanContext) (command : HostCommand)
    (unpatched : ∀ patch, command ≠ .ApplyPolicyPatch patch) :
    Steered (K := K) related (plan_host_control context command) := by
  cases command with
  | Cancel reason pending_call_ids => exact plan_cancel_steered _ _ _
  | ForceCompact =>
    refine require_root_kind_steered.seq fun root_kind => ?_
    exact Spans.seq (engine_mut_steered (Tolerated.discard force_compact_tolerated)) fun _ => continue_after_steered _ _ _
  | UpdateTask update => exact Spans.seq (engine_mut_steered (onCtx_tolerated _)) fun _ => quiet_step_steered
  | AppendWorkflowNodes nodes plan => exact plan_dynamic_workflow_append_steered _ _ _
  | RecordDynamicWorkflowReplay fact => exact plan_dynamic_workflow_replay_steered _
  | CompleteDynamicWorkflow => exact plan_dynamic_workflow_complete_steered _
  | ApplyCapabilityPatch patch => exact changeCtx_steered .InvalidConfig fun turn ctx => .ok (K.capability_patch patch turn ctx)
  | ApplyKnowledgeMutation mutation => exact changeCtx_steered _ _
  | SeedKnowledge entries => exact changeCtx_steered _ _
  | ApplySkillActivation activation =>
    refine Spans.seq (engine_mut_steered (Spans.of_get fun e => ?_)) fun _ => quiet_step_steered
    refine (lands_bind _ _ _).mpr ?_
    cases refuse (K.skill_activation activation e.turn e.ledger e.ctx) with
    | ok ctx => exact (lands_pure _ _).mpr ((lands_set _ _).mpr ⟨OnRoster.aside rfl,trivial⟩)
    | error halt => exact lands_throw _ _ (refl e)
  | ApplyPolicyPatch patch => exact (unpatched patch rfl).elim
  | UpdateDeadline deadline_ms => exact plan_update_deadline_steered _
  | AdmitMemoryWrite record_id name content_bytes => exact plan_admit_memory_write_steered _ _ _ _

/-! The start. -/

private theorem seed_initial_context_tolerated (initial : Json) : Tolerated (K := K.toLoopParts) related (seed_initial_context (K := K) initial) := by
  unfold seed_initial_context
  refine Spans.of_get fun e => ?_
  dsimp only
  exact (lands_set _ _).mpr ⟨OnRoster.aside rfl,trivial⟩

private theorem load_verification_contract_steered (config : ResolvedOperationConfig) (spec : Option LogicalAgentSpec) :
    Steered (K := K) related (load_verification_contract config spec) := by
  unfold load_verification_contract
  split
  · exact steered_pure
  refine (require_effect_support_steered _ _).seq fun _ => Spans.seq (engine_mut_steered ?_) fun _ => steered_aside fun _ => rfl
  exact tolerated_aside fun _ => rfl

private theorem require_known_contract_steered (config : ResolvedOperationConfig) (spec : Option LogicalAgentSpec) :
    Steered (K := K) related (require_known_contract config spec) := by
  unfold require_known_contract
  split
  · exact refuseWith_steered _ _
  · exact steered_pure

private theorem start_agent_steered (context : PlanContext) (goal : String) (criteria : List String)
    (run_spec : Option LogicalAgentSpec) (initial : Json) :
    Steered (K := K) related (start_agent context goal criteria run_spec initial) := by
  unfold start_agent
  refine (require_effect_support_steered _ _).seq fun _ => (require_known_contract_steered _ _).seq fun _ => ?_
  refine (load_verification_contract_steered _ _).seq fun _ => Spans.seq (engine_mut_steered ?_) fun action => ?_
  · refine (seed_initial_context_tolerated _).seq fun _ => Spans.seq (tolerated_aside fun _ => rfl) fun _ => ?_
    split
    · exact (onCtx_tolerated _).seq fun _ => start_tolerated _ _ _
    · exact start_tolerated _ _ _
  exact (disposition_for_steered _ _ _).seq fun disposition => guarded_steered steered_pure

private theorem start_workflow_steered (context : PlanContext) (nodes : List WireNode) (initial : Json) :
    Steered (K := K) related (start_workflow context nodes initial) := by
  unfold start_workflow
  refine (require_effect_support_steered _ _).seq fun _ => ?_
  extract_lets workflow_id built known
  have builds (u : Unit) : Steered (K := K) related (built u) := by
    unfold built
    refine (ofExcept_steered _).seq fun _ => Spans.seq (engine_mut_steered ?_) fun action => ?_
    · refine (seed_initial_context_tolerated _).seq fun _ => Spans.seq (tolerated_aside fun _ => rfl) fun _ => ?_
      exact load_workflow_as_tolerated _ _
    refine (install_nodes_steered _ _).seq fun _ => (disposition_for_steered _ _ _).seq fun disposition => ?_
    exact guarded_steered steered_pure
  have knows (u : Unit) : Steered (K := K) related (known u) := by
    unfold known
    split
    · exact (refuseWith_steered _ _).seq builds
    · exact builds ()
  split
  · exact (refuseWith_steered _ _).seq knows
  · exact knows ()

private theorem start_dynamic_workflow_steered (context : PlanContext) (initial : Json) :
    Steered (K := K) related (start_dynamic_workflow context initial) := by
  unfold start_dynamic_workflow
  refine Spans.seq (engine_mut_steered ?_) fun _ => (install_nodes_steered _ _).seq fun _ => steered_pure
  refine (seed_initial_context_tolerated _).seq fun _ => Spans.seq (tolerated_aside fun _ => rfl) fun _ => ?_
  exact Tolerated.discard (load_workflow_as_tolerated _ _)

theorem plan_start_steered (context : PlanContext) (entry : RootEntry) (initial : Json) :
    Steered (K := K) related (plan_start context entry initial) := by
  unfold plan_start
  refine Spans.of_get fun driver => Spans.here (guarded_steered ?_)
  split
  · exact start_agent_steered _ _ _ _ _
  · exact start_workflow_steered _ _ _
  · exact start_dynamic_workflow_steered _ _

/-! The frame of every plan. -/

private theorem wake_expired_timers_related (roster : Roster) (now_ms : Nat) :
    related roster (roster.map fun tasks => tasks.wake_expired_timers now_ms) := by
  have wakes (deadlines : List Nat) :
    related roster (roster.map fun tasks =>
    deadlines.foldl (fun tasks deadline => tasks.notify (.Timer deadline)) tasks) :=
    Tolerant.folded deadlines (fun roster deadline => Tolerant.heard roster (.Timer deadline)) roster
  exact wakes (roster.tasks.due_timers now_ms)

theorem begin_plan_tolerated (now_ms : Nat) : Tolerated (K := K.toLoopParts) related (begin_plan (K := K) now_ms) := by
  unfold begin_plan
  refine clear_observations_tolerated.seq fun _ => (observe_accepted_time_tolerated _).seq fun _ => ?_
  refine Spans.of_get fun e => Spans.here (Spans.seq (onTasks_tolerated fun roster => wake_expired_timers_related roster now_ms) fun _ => ?_)
  refine Spans.of_get fun after => Spans.here ?_
  split
  · exact observe_local_runnable_tasks_tolerated
  · exact tolerated_pure

/-- What a committed input does to the driver: the accepted time is read, the input is planned, the observations are handed
    over, and the focus moves. -/
theorem fold_ok {context : PlanContext} {driver after : OperationDriver K} {step : PlannedStep}
    (ran : fold context driver = .ok step after) :
    ∃ begun planned planned_step, engine_if_any (begin_plan context.input.observed_at_ms) driver = .ok () begun ∧
      plan_payload context context.input.input begun = .ok planned_step planned ∧
      after = { planned with
        engine := planned.engine.map fun engine : Engine K => { engine with observations := [] }
        staged := none
        root_kind := planned_step.root_kind.or planned.root_kind
        focus := planned_step.focus } := by
  unfold fold at ran
  obtain ⟨folded,committed,planning,noting⟩ := bind_ok ran
  obtain ⟨_,noted,noting,returned⟩ := bind_ok noting
  rw [plan_eq] at planning
  split at planning
  · cases planning
  · cases planning
  split at planning
  next planned_step planned ran_inner =>
    unfold plan_inner at ran_inner
    obtain ⟨_,begun,beginning,ran_payload⟩ := bind_ok ran_inner
    refine ⟨begun,planned,planned_step,beginning,ran_payload,?_⟩
    cases planning
    cases returned
    rw [note_committed_eq] at noting
    split at noting
    · cases noting
    next _ nothing => cases nothing
    next staged _ same =>
    dsimp only at same noting
    cases same
    rw [if_neg (by simp)] at noting
    cases noting
    rfl
  · cases planning

end Deepstrike.Driver

import Deepstrike.Frames
import Deepstrike.LoopHost

/-!
Relations on the task table that every transition of the loop respects. The loop writes rows in few
ways, each behind its own guard: a relation that allows for these is kept by every transition, but for
the acknowledgement of a launch, which takes a task up without any.
-/
namespace Deepstrike.Loop
open Wire Tasks Vocabulary Components Frames Spans Lands

variable {K : LoopParts} {α : Type}

/-- The tasks of an operation and the limits on its children. -/
structure Roster where
  tasks : TaskTable
  quota : Option ResourceQuota
  grant : Option BudgetGrant

namespace Roster

variable (roster : Roster)

def map (change : TaskTable → TaskTable) : Roster := { roster with tasks := change roster.tasks }

/-- The children that may hold a slot at once. -/
def slots : Option Nat := roster.quota.bind ResourceQuota.max_concurrent_subagents

/-- The children that may ever be spawned. -/
def places : Option Nat :=
  least (roster.quota.bind ResourceQuota.max_total_subagents) (roster.grant.bind BudgetGrant.subagents)

/-- One more child fits. -/
def Open : Prop :=
  (∀ most ∈ roster.slots, roster.tasks.running < most) ∧ ∀ most ∈ roster.places, roster.tasks.spawned < most

end Roster

def LoopStateMachine.roster (e : LoopStateMachine K) : Roster := ⟨e.tasks,e.policies.resource_quota,e.budget_grant⟩

/-- The root's row as the loop writes it. -/
def settle_root (state : TaskLifecycle) (wait : Option (WaitMode × List WaitCondition)) (tasks : TaskTable) : TaskTable :=
  let tasks := if (tasks.get "root").isNone then tasks.insert (Tcb.root "root") else tasks
  let tasks := tasks.set_state "root" state
  match wait with
  | some (mode,conditions) => tasks.register_wait_set "root" mode conditions
  | none => tasks.clear_wait "root"

/-- A relation that allows for every way in which the loop writes a row. -/
class Tolerant (related : Roster → Roster → Prop) : Prop where
  same (roster : Roster) : related roster roster
  next {first second third : Roster} : related first second → related second third → related first third
  root (roster : Roster) (state : TaskLifecycle) (wait : Option (WaitMode × List WaitCondition)) : related roster
    (roster.map (settle_root state wait))
  ended (roster : Roster) (id : TaskId) (reason : TerminationReason) : related roster (roster.map fun tasks => tasks.set_state id (.Done reason))
  unwaited (roster : Roster) (id : TaskId) : related roster (roster.map fun tasks => tasks.clear_wait id)
  heard (roster : Roster) (key : WaitCondition) : related roster (roster.map fun tasks => tasks.notify key)
  starting (roster : Roster) (id : TaskId) : related roster (roster.map fun tasks => tasks.modify id fun task =>
    if task.state = .PendingLaunch then { task with state := .Starting } else task)
  spawned (roster : Roster) (parent child : TaskId) (tasks : TaskTable) : roster.Open →
    roster.tasks.spawn_child parent child .PendingLaunch = .ok tasks → related roster { roster with tasks }

variable {related : Roster → Roster → Prop}

/-- The relation between the rosters of two states of the loop. -/
def OnRoster (related : Roster → Roster → Prop) (before after : LoopStateMachine K) : Prop := related before.roster after.roster

instance [Tolerant related] : Std.Refl (OnRoster (K := K) related) := ⟨fun e => Tolerant.same e.roster⟩
instance [Tolerant related] : IsTrans (LoopStateMachine K) (OnRoster related) := ⟨fun _ _ _ => Tolerant.next⟩

/-- A program whose every run is related. -/
abbrev Tolerated (related : Roster → Roster → Prop) (program : LoopProgram K α) : Prop := Spans (OnRoster related) program fun _ => True

theorem onTasks_tolerated {change : TaskTable → TaskTable}
    (changes : ∀ roster : Roster, related roster (roster.map change)) :
    Tolerated (K := K) related (onTasks change) := of_modify fun e => changes e.roster

section
variable [Tolerant related]

theorem OnRoster.aside {before after : LoopStateMachine K} (same : after.roster = before.roster) :
    OnRoster related before after := by
  unfold OnRoster
  rw [same]
  exact Tolerant.same _

theorem tolerated_pure {value : α} : Tolerated (K := K) related (pure value) := of_pure trivial

theorem tolerated_aside {change : LoopStateMachine K → LoopStateMachine K} (same : ∀ e, (change e).roster = e.roster) :
    Tolerated related (modify change) := of_modify fun e => OnRoster.aside (same e)

theorem Tolerated.discard {program : LoopProgram K α} (tolerated : Tolerated related program) :
    Tolerated related (Functor.discard program) :=
  seq tolerated fun _ => tolerated_pure

/-! What does not touch the tasks. -/

theorem observe_tolerated (observation : KernelObservation) : Tolerated (K := K) related (observe observation) :=
    tolerated_aside fun _ => rfl
theorem observeAll_tolerated (observations : List KernelObservation) :
    Tolerated (K := K) related (observeAll observations) := tolerated_aside fun _ => rfl
theorem clear_observations_tolerated : Tolerated (K := K) related clear_observations := tolerated_aside fun _ => rfl
theorem onCtx_tolerated (change : K.Ctx → K.Ctx) : Tolerated related (onCtx change) := tolerated_aside fun _ => rfl
theorem onLedger_tolerated (change : K.Ledger → K.Ledger) : Tolerated related (onLedger change) :=
    tolerated_aside fun _ => rfl
theorem onRun_tolerated (change : K.RunRest → K.RunRest) : Tolerated related (onRun change) :=
    tolerated_aside fun _ => rfl
theorem set_phase_tolerated (phase : LoopPhase) : Tolerated (K := K) related (set_phase phase) :=
    tolerated_aside fun _ => rfl
theorem push_signal_tolerated (text : String) : Tolerated (K := K) related (push_signal text) := onCtx_tolerated _
theorem push_history_tolerated (message : CoreMessage) : Tolerated (K := K) related (push_history message) :=
    tolerated_aside fun _ => rfl

theorem push_synthetic_tool_result_tolerated (call_id : CallId) (output : String) (is_error : Bool) :
    Tolerated (K := K) related (push_synthetic_tool_result call_id output is_error) := push_history_tolerated _

theorem onCtxNoting_tolerated (change : K.Ctx → List KernelObservation × K.Ctx) :
    Tolerated related (onCtxNoting change) := by
  unfold onCtxNoting
  refine of_get fun e => ?_
  exact (lands_set _ _).mpr ⟨OnRoster.aside rfl,trivial⟩

private theorem sweep_leases_tolerated : Tolerated (K := K) related sweep_leases := of_get fun e => onCtxNoting_tolerated _ e

theorem begin_event_tolerated : Tolerated (K := K) related begin_event := clear_observations_tolerated.seq fun _ =>
    sweep_leases_tolerated

theorem drain_queued_signals_tolerated : Tolerated (K := K) related drain_queued_signals := by
  unfold drain_queued_signals
  refine of_get fun e => ?_
  dsimp only
  split <;> exact set_spans (OnRoster.aside rfl) ((observeAll_tolerated _).seq fun _ => onCtx_tolerated _)

private theorem check_budget_tolerated : Tolerated (K := K) related check_budget := by
  unfold check_budget
  refine of_get fun e => ?_
  split
  · split
    · refine here ((observe_tolerated _).seq fun _ => ?_)
      exact tolerated_aside fun _ => rfl
    · exact here tolerated_pure
  · exact here tolerated_pure

/-! The end of the root and the provider call. -/

theorem set_lifecycle_tolerated (state : TaskLifecycle) (wait : Option (WaitMode × List WaitCondition)) :
    Tolerated (K := K) related (set_lifecycle state wait) := onTasks_tolerated fun roster =>
    Tolerant.root roster state wait

theorem Tolerant.folded {β : Type} (items : List β) {change : TaskTable → β → TaskTable}
    (each : ∀ (roster : Roster) item, related roster (roster.map fun tasks => change tasks item)) (roster : Roster) :
    related roster (roster.map fun tasks => items.foldl change tasks) := by
  induction items generalizing roster with
  | nil => exact Tolerant.same roster
  | cons item rest ih => exact Tolerant.next (each roster item) (ih (roster.map fun tasks => change tasks item))

/-- A termination relates the rosters. -/
theorem terminate_tolerated (termination : TerminationReason) (final_message : Option CoreMessage) :
    Tolerated (K := K) related (terminate termination final_message) := by
  have cancels : Tolerated (K := K) related (modify fun e => { e with
      tasks := (K.cancelled_with_root e.tasks e.ledger).foldl (fun tasks id => tasks.set_state id (.Done .UserAbort)) e.tasks }) :=
    of_modify fun e => Tolerant.folded (K.cancelled_with_root e.tasks e.ledger) (fun roster id => Tolerant.ended roster id .UserAbort) e.roster
  have closes : Tolerated (K := K) related (do
      let e ← get
      observe (.LifecycleReport e.turn (K.lifecycle_metrics e.ctx))
      let pace_decision := e.pace_decision termination
      modify fun e => { e with pending_pace := none }
      set_lifecycle (.Done termination) none
      modify fun e => { e with
        tasks := (K.cancelled_with_root e.tasks e.ledger).foldl (fun tasks id => tasks.set_state id (.Done .UserAbort)) e.tasks }
      pure (LoopAction.Done ⟨termination,final_message,e.turn,e.total_tokens,pace_decision⟩)) := by
    refine of_get fun e => here ((observe_tolerated _).seq fun _ => ?_)
    refine seq (tolerated_aside fun _ => rfl) fun _ => (set_lifecycle_tolerated _ _).seq fun _ => ?_
    exact cancels.seq fun _ => tolerated_pure
  unfold terminate
  cases final_message with
  | none => exact closes
  | some message => exact (push_history_tolerated message).seq fun _ => closes

private theorem call_llm_action_tolerated (context : RenderedContext) (tools : List ToolSchema) :
    Tolerated (K := K) related (call_llm_action context tools) := by
  unfold call_llm_action
  refine seq (tolerated_aside fun _ => rfl) fun _ => of_get fun e => ?_
  dsimp only
  exact set_spans (OnRoster.aside rfl) tolerated_pure

private theorem render_and_call_tolerated : Tolerated (K := K) related render_and_call := by
  unfold render_and_call
  refine check_budget_tolerated.seq fun _ => of_get fun e => set_spans (OnRoster.aside rfl) ?_
  refine (observe_tolerated _).seq fun _ => (onCtx_tolerated _).seq fun _ => of_get fun e => ?_
  dsimp only
  refine set_spans (OnRoster.aside rfl) ?_
  split
  · refine (observe_tolerated _).seq fun _ => ?_
    split
    · exact seq (tolerated_aside fun _ => rfl) fun _ => terminate_tolerated _ _
    · exact of_get fun e => call_llm_action_tolerated _ _ e
  · exact of_get fun e => call_llm_action_tolerated _ _ e

theorem emit_call_llm_tolerated : Tolerated (K := K) related emit_call_llm := by
  unfold emit_call_llm
  refine (set_lifecycle_tolerated _ _).seq fun _ => (onCtx_tolerated _).seq fun _ => of_get fun e => ?_
  dsimp only
  split
  · refine set_spans (OnRoster.aside rfl) ?_
    split
    · exact tolerated_pure
    · exact render_and_call_tolerated
  · exact render_and_call_tolerated e

theorem emit_reasoning_tolerated : Tolerated (K := K) related (do set_phase .Reason; emit_call_llm) :=
  (set_phase_tolerated _).seq fun _ => emit_call_llm_tolerated

/-! Signals, evictions and tool turns. -/

private theorem request_preempt_for_interrupt_tolerated (reason : String) : Tolerated (K := K) related (request_preempt_for_interrupt reason) := by
  unfold request_preempt_for_interrupt
  refine of_get fun e => ?_
  split
  · exact here (seq (tolerated_aside fun _ => rfl) fun _ => tolerated_pure)
  · exact here tolerated_pure

private theorem route_signal_tolerated (signal : LogicalSignal) (may_issue_request : Bool) :
    Tolerated (K := K) related (route_signal signal may_issue_request) := by
  have called (disposition : SignalDisposition) (depth : Nat) :
      Tolerated (K := K) related (do pure (some (← emit_call_llm),disposition,depth)) := emit_call_llm_tolerated.seq fun _ => tolerated_pure
  unfold route_signal
  refine of_get fun e => ?_
  extract_lets lifecycle summary
  split
  next outcome router _ =>
  extract_lets depth driven disposed
  have drives (u : Unit) : Tolerated (K := K) related (driven u) := by
    unfold driven
    split
    · refine (push_signal_tolerated _).seq fun _ => (set_phase_tolerated _).seq fun _ => ?_
      refine (request_preempt_for_interrupt_tolerated _).seq fun preempted => ?_
      split
      · exact tolerated_pure
      · split
        · exact called _ _
        · exact tolerated_pure
    · exact (push_signal_tolerated _).seq fun _ => (set_phase_tolerated _).seq fun _ => called _ _
    · exact (push_signal_tolerated _).seq fun _ => tolerated_pure
    · exact (push_signal_tolerated _).seq fun _ => tolerated_pure
    all_goals exact tolerated_pure
  have disposes (u : Unit) : Tolerated (K := K) related (disposed u) := by
    unfold disposed
    split
    · exact (observe_tolerated _).seq drives
    · exact drives ()
  refine set_spans (OnRoster.aside rfl) ((observeAll_tolerated _).seq fun _ => ?_)
  split
  · exact (observe_tolerated _).seq disposes
  · exact disposes ()

theorem signal_event_tolerated (operation_id : OperationId) (delivery_id : String) (attempt : Nat)
    (signal : LogicalSignal) (may_issue_request : Bool) :
    Tolerated (K := K) related (signal_event operation_id delivery_id attempt signal may_issue_request) := by
  unfold signal_event
  refine clear_observations_tolerated.seq fun _ => sweep_leases_tolerated.seq fun _ =>
    (route_signal_tolerated _ _).seq fun ⟨action,disposition,depth⟩ => ?_
  exact of_get fun e => here ((observe_tolerated _).seq fun _ => tolerated_pure)

private theorem push_compression_observations_tolerated (action : PressureAction) (compaction : Compaction) :
    Tolerated (K := K) related (push_compression_observations action compaction) := by
  unfold push_compression_observations
  refine of_get fun e => here ((observe_tolerated _).seq fun _ => ?_)
  split
  · exact seq (tolerated_aside fun _ => rfl) fun _ => onCtxNoting_tolerated _
  · exact onCtxNoting_tolerated _

private theorem compactWith_tolerated (action : PressureAction) (compact : K.Ctx → Compaction × K.Ctx) (worth : Compaction → Bool) :
    Tolerated related (compactWith action compact worth) := by
  unfold compactWith
  refine of_get fun e => set_spans (OnRoster.aside rfl) ?_
  split
  · exact (push_compression_observations_tolerated _ _).seq fun _ => tolerated_pure
  · exact tolerated_pure

theorem force_compact_tolerated : Tolerated (K := K) related force_compact := compactWith_tolerated _ _ _

private theorem execute_eviction_op_tolerated (op : EvictionOp) : Tolerated (K := K) related (execute_eviction_op op) := by
  unfold execute_eviction_op
  refine of_get fun e => here ?_
  cases op with
  | TimeDecayMicro =>
    refine seq (Tolerated.discard (compactWith_tolerated _ _ _)) fun _ => ?_
    split
    · exact onCtx_tolerated _
    · exact tolerated_pure
  | _ => exact Tolerated.discard (compactWith_tolerated _ _ _)

private theorem execute_eviction_ops_tolerated (idle_decay : Bool) (ops : List EvictionOp) :
    Tolerated (K := K) related (execute_eviction_ops idle_decay ops) := by
  induction ops with
  | nil => exact tolerated_pure
  | cons op rest ih =>
  unfold execute_eviction_ops
  split
  · exact (execute_eviction_op_tolerated op).seq fun _ => ih
  · exact ih

private theorem push_tool_results_tolerated (measurements : List ToolMeasurement) (results : List ToolResult) :
    Tolerated (K := K) related (push_tool_results measurements results) := by
  induction results generalizing measurements with
  | nil => exact tolerated_pure
  | cons result rest ih => exact seq (tolerated_aside fun _ => rfl) fun _ => ih _

private theorem run_eviction_tolerated : Tolerated (K := K) related run_eviction := by
  unfold run_eviction
  refine of_get fun e => ?_
  dsimp only
  have rest (idle_decay : Bool) : Tolerated (K := K) related (do
      onCtx K.recompute_handle_residency
      onCtxNoting (K.enforce_knowledge_budget e.turn)
      execute_eviction_ops idle_decay (K.plan_eviction idle_decay (← get).ctx)) :=
    (onCtx_tolerated _).seq fun _ => (onCtxNoting_tolerated _).seq fun _ => of_get fun e => execute_eviction_ops_tolerated _ _ e
  split <;> split
  · exact ((execute_eviction_op_tolerated _).seq fun _ => rest _) e
  · exact rest _ e
  · exact ((execute_eviction_op_tolerated _).seq fun _ => rest _) e
  · exact rest _ e

private theorem run_renewal_tolerated : Tolerated (K := K) related run_renewal := by
  unfold run_renewal
  refine of_get fun e => ?_
  split
  · refine here ((onCtxNoting_tolerated _).seq fun _ => ?_)
    refine seq (tolerated_aside fun _ => rfl) fun _ => ?_
    exact of_get fun e => onCtxNoting_tolerated _ e
  · exact here tolerated_pure

private theorem sample_entropy_tolerated (results : List ToolResult) : Tolerated (K := K) related (sample_entropy results) := by
  unfold sample_entropy
  refine of_get fun e => ?_
  extract_lets streak
  split
  refine set_spans (OnRoster.aside rfl) ((observeAll_tolerated _).seq fun _ => ?_)
  split
  · exact Tolerated.discard (route_signal_tolerated _ _)
  · exact tolerated_pure

theorem feed_tool_results_tolerated (results : List ToolResult) (measurements : List ToolMeasurement) :
    Tolerated (K := K) related (feed_tool_results results measurements) := by
  unfold feed_tool_results handle_tool_results
  refine begin_event_tolerated.seq fun _ => of_get fun e => here ?_
  refine seq (tolerated_aside fun _ => rfl) fun _ => (push_tool_results_tolerated _ _).seq fun _ => ?_
  refine seq (tolerated_aside fun _ => rfl) fun _ => run_eviction_tolerated.seq fun _ => run_renewal_tolerated.seq fun _ => ?_
  exact (sample_entropy_tolerated _).seq fun _ => drain_queued_signals_tolerated.seq fun _ => emit_reasoning_tolerated

theorem commit_synthetic_results_tolerated (results : List ToolResult) :
    Tolerated (K := K) related (commit_synthetic_results results) := by
  unfold commit_synthetic_results
  refine (set_phase_tolerated _).seq fun _ => of_get fun e => here ?_
  exact (feed_tool_results_tolerated _ _).seq fun _ => seq (tolerated_aside fun _ => rfl) fun _ => tolerated_pure

end
end Deepstrike.Loop

import Deepstrike.WorkflowDrive

/-!
The rest of the loop's transitions: the start, the continuation points, the host effect slot with
its assertions, the overflow ladder, milestones and cancellation.
-/
namespace Deepstrike.Loop
open Wire Tasks Vocabulary Components

variable {K : LoopParts}

/-- Hold the continuation of a step behind the first durability effect it produced. The effect is
    activated only in an empty slot, and the source asserts that no continuation waits already. -/
def externalize_pending_host_effect (continuation : LoopAction) : LoopProgram K LoopAction := do
  let e ← get
  match e.active_host_effect,e.pending_host_effects with
  | some _,_ => pure continuation
  | none,[] => pure continuation
  | none,pending :: rest =>
    if e.deferred_action.isSome then throw (.panic "host effect continuation must be unique")
    set { e with deferred_action := some continuation, active_host_effect := some pending, pending_host_effects := rest }
    pure (.ArchivePageOut pending)

/-- The next durability effect, or the continuation they held. A provider call is rendered anew. -/
def next_after_host_effect : LoopProgram K LoopAction := do
  let e ← get
  match e.pending_host_effects with
  | pending :: rest =>
    set { e with active_host_effect := some pending, pending_host_effects := rest }
    pure (.ArchivePageOut pending)
  | [] =>
    set { e with deferred_action := none }
    match e.deferred_action with
    | some (.CallLLM ..) => emit_call_llm
    | some action => pure action
    | none => pure .AwaitingResume

def commit_page_out_archive (archive_ref : Option String) : LoopProgram K LoopAction := do
  match (← get).active_host_effect with
  | none => throw (.panic "page-out result requires an active host effect")
  | some pending =>
    observe (.PageOutArchived pending.turn pending.action pending.summary pending.tier pending.archived.length archive_ref)
    modify fun e => { e with active_host_effect := none }
    next_after_host_effect

def abandon_page_out_archive (error : String) : LoopProgram K LoopAction := do
  match (← get).active_host_effect with
  | none => throw (.panic "page-out failure requires an active host effect")
  | some pending =>
    observe (.PageOutArchiveFailed pending.turn pending.action pending.tier pending.archived.length error)
    modify fun e => { e with active_host_effect := none }
    next_after_host_effect

/-- Continue a turn behind what it was owed: execute the calls of the last assistant message that
    have no answer yet, or call the provider. -/
def resume_after_preload : LoopProgram K LoopAction := do
  clear_observations
  let e ← get
  let answered := e.pending_denied_results.map ToolResult.call_id
  let calls := (K.pending_tool_calls e.ctx).filter fun call => !answered.contains call.id
  if calls.isEmpty then
    set_phase .Reason
    emit_call_llm
  else dispatch calls

def resume_after_recall : LoopProgram K LoopAction := do
  set_phase .Reason
  emit_call_llm

/-- Begin an agent root. `preloaded` says that a prior transcript was installed. -/
def start (goal : String) (criteria : List String) (preloaded : Bool) : LoopProgram K LoopAction := do
  clear_observations
  onCtx (K.init_task goal criteria)
  let e ← get
  let reservation := e.budget_grant.map BudgetGrant.reservation_id
  let zero_round_grant := (e.run_spec.bind AgentRunSpec.loop_round).isSome && e.budget_grant.bind BudgetGrant.rounds == some 0
  let zero_token_grant := e.budget_grant.bind BudgetGrant.tokens == some 0
  if zero_round_grant then
    observe (.BudgetExceeded e.turn "rounds" reservation)
    modify fun e => { e with pending_pace := some K.exhausted_round_pace }
  if zero_token_grant then observe (.BudgetExceeded e.turn "tokens" reservation)
  if zero_token_grant then return ← terminate .TokenBudget none
  if zero_round_grant then return ← terminate .Completed none
  if preloaded && K.rho_exceeds_snip e.ctx then
    let (compaction,ctx) := K.compress .ContextCollapse e.ctx
    modify fun e => { e with ctx }
    if saved_or_summarised compaction then
      observe (.Compressed e.turn .ContextCollapse (K.rho ctx) compaction.summary compaction.archived.length
        compaction.invalidates_prefix_at)
  let opening := "Proceed with the task described in [TASK STATE]."
  onCtx fun ctx => K.push_history (text_message .User opening) (max 1 (K.count ctx opening)) ctx
  set_phase .Reason
  emit_call_llm

/-- Compact and retry a provider call whose prompt did not fit, a bounded number of times. -/
def recover_from_context_overflow : LoopProgram K LoopAction := do
  clear_observations
  let e ← get
  if e.policies.provider_recovery_attempt_limit ≤ e.recovery_attempts then return ← terminate .ContextOverflow none
  modify fun e => { e with recovery_attempts := e.recovery_attempts+1 }
  if ← force_compact then
    set_phase .Reason
    emit_call_llm
  else terminate .ContextOverflow none

/-- `MilestoneResult`. The contracts of the wire have no retry budget, so a blocked phase retries. -/
def feed_milestone_result (passed : Bool) (phase_id : String) (reason : Option String) : LoopProgram K LoopAction := do
  begin_event
  clear_observations
  if passed then
    if let some phase := (← get).milestone.phase then
      onCtxNoting fun ctx => phase.unlocks.foldl (fun (observations,ctx) capability =>
        let (more,ctx) := K.mount_capability capability s!"milestone:{phase.id}" ctx
        (observations ++ more,ctx)) ([],ctx)
      observe (.MilestoneAdvanced (← get).turn phase.id (phase.unlocks.map K.capability_label))
    modify fun e => { e with milestone := { e.milestone with current_phase := e.milestone.current_phase+1, blocked_count := 0 } }
    let tracker := (← get).milestone
    if tracker.is_complete then return ← terminate .Completed none
    if let some phase := tracker.phase then
      push_signal (if phase.criteria.isEmpty then s!"[NEXT MILESTONE PHASE: {phase.id}]"
        else
          let listed := "; ".intercalate phase.criteria
          s!"[NEXT MILESTONE PHASE: {phase.id} — Criteria: {listed}]")
    set_phase .Reason
    emit_call_llm
  else
    modify fun e => { e with milestone := { e.milestone with blocked_count := e.milestone.blocked_count+1 } }
    let reason := reason.getD "milestone criteria not met"
    push_signal s!"[MILESTONE BLOCKED: {phase_id} — {reason}. Address the criteria and try again.]"
    observe (.MilestoneBlocked (← get).turn phase_id reason)
    set_phase .Reason
    emit_call_llm

/-- Commit a host-owned cancellation: every child is aborted, everything in flight is dropped. -/
def cancel_operation (operation_id : OperationId) (reason : CancellationReason) (pending_call_ids : List CallId) :
    LoopProgram K LoopAction := do
  clear_observations
  let e ← get
  let live := (e.tasks.filter fun task => task.id ≠ "root" && !task.state.is_terminal).map Tcb.id
  let ids := live.mergeSort fun left right => decide (depthRank e.tasks right ≤ depthRank e.tasks left)
  set { e with
    tasks := ids.foldl (fun tasks id => (tasks.set_state id (.Done .UserAbort)).clear_wait id) e.tasks
    ledger := ids.foldl (fun ledger id => K.return_child_budget id ledger) e.ledger
    suspend_state := none
    pending_denied_results := []
    workflow := none
    pending_workflow_spawn := none
    pending_preempt := none
    pending_host_effects := []
    active_host_effect := none
    deferred_action := none
    pending_termination := none
    pending_pace := none }
  observe (.OperationCancelled e.turn operation_id reason pending_call_ids)
  terminate .UserAbort none

/-- The accepted time of the input being planned: the one clock every decision of the step reads. -/
def observe_accepted_time (now_ms : Nat) : LoopProgram K Unit := do
  let first := (← get).started_at_ms.isNone
  modify fun e => { e with
    started_at_ms := e.started_at_ms.or (some now_ms)
    last_now_ms := some now_ms
    governance := e.governance.map (K.set_time now_ms) }
  if first then onCtx (K.record_activity now_ms)

def mark_tasks_starting (ids : List TaskId) : LoopProgram K Unit :=
  onTasks fun tasks => ids.foldl (fun tasks id => tasks.modify id fun task =>
    if task.state = .PendingLaunch then { task with state := .Starting } else task) tasks

def close_for_host_effect_failure : LoopProgram K Unit := set_lifecycle (.Done .Error) none

def LoopStateMachine.pending_spawn_agent_ids (e : LoopStateMachine K) : List TaskId :=
  match e.pending_workflow_spawn with
  | some pending => pending.nodes.map WorkflowSpawnInfo.agent_id
  | none => []

/-- The calls this turn dispatched; none outside an `Act` phase. -/
def LoopStateMachine.dispatched_tool_calls (e : LoopStateMachine K) : List ToolCall :=
  match e.phase with
  | .Act calls => calls
  | .Reason => []

/-- Install a workflow from a checkpoint and derive the suspension and the pending launch that its
    active nodes stand for. -/
def LoopStateMachine.restore_checkpoint_workflow (e : LoopStateMachine K) (run : WorkflowRun K) : LoopStateMachine K :=
  let active := K.active_agents run.nodes run.rest
  let e := { e with workflow := some run }
  let ids := active.map Prod.snd
  let launching := active.filter fun (_,id) =>
    e.tasks.lifecycle id = some .PendingLaunch ∨ e.tasks.lifecycle id = some .Starting
  { e with
    suspend_state := if ids.isEmpty then none else some (.SubAgentAwait ids)
    pending_workflow_spawn := if launching.isEmpty then none
      else some ⟨launching.map fun (node,_) => K.spawn_info run.nodes run.rest node,e.workflow_budget⟩ }

end Deepstrike.Loop

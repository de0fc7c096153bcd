import Deepstrike.Turn

/-!
The workflow driver of the loop: the gated spawn rounds, the completion of a child, the resolution
of a launch and of a preemption.
-/
namespace Deepstrike.Loop
open Wire Tasks Vocabulary Components ResourceQuota

variable {K : LoopParts}

def WorkflowRun.len (run : WorkflowRun K) : Nat := run.nodes.length
def onRun (change : K.RunRest → K.RunRest) : LoopProgram K Unit :=
  modify fun e => { e with workflow := e.workflow.map fun run => { run with rest := change run.rest } }

def LoopStateMachine.workflow_node_count (e : LoopStateMachine K) : Nat := (e.workflow.map WorkflowRun.len).getD 0
def LoopStateMachine.workflow_budget (e : LoopStateMachine K) : Option Json :=
  K.workflow_budget e.policies.resource_quota e.budget_grant e.policy e.total_tokens e.workflow_node_count e.tasks
def LoopStateMachine.task_quarantined (e : LoopStateMachine K) (task_id : TaskId) : Bool :=
  match e.workflow with
  | some run => K.is_agent_quarantined run.rest task_id
  | none => false
def LoopStateMachine.owns_agent (e : LoopStateMachine K) (task_id : TaskId) : Bool :=
  match e.workflow with
  | some run => K.owns_agent run.rest task_id
  | none => false

def process_changed (id : TaskId) : LoopProgram K Unit := do
  let e ← get
  match e.tasks.get id with
  | some task => if task.proc then observe (.AgentProcessChanged e.turn id (K.process_view task e.ledger) task.state)
  | none => pure ()

/-- DAG growth at the syscall trap. -/
def LoopStateMachine.evaluate_submit_nodes_quota (e : LoopStateMachine K) (count : Nat) : Disposition :=
  match e.policies.resource_quota.bind max_workflow_nodes with
  | none => .Allow
  | some max =>
    let projected := e.workflow_node_count+count
    if max < projected then .Deny "workflow_growth" s!"submit_nodes would grow workflow to {projected} nodes (max {max})"
    else .Allow

/-- The rolling window of admitted memory writes. -/
def evaluate_memory_write_quota : LoopProgram K Disposition := do
  let e ← get
  match e.policies.resource_quota.bind memory_writes_per_window with
  | none => pure .Allow
  | some (max,window) =>
    let now := e.last_now_ms.getD 0
    let recent := e.memory_write_times.filter fun time => decide (now-time < window)
    if max ≤ recent.length then
      set { e with memory_write_times := recent }
      pure (.RateLimited (window-(now-recent.headD now)))
    else
      set { e with memory_write_times := recent ++ [now] }
      pure .Allow

/-- The spawn gate of the run queue: a full pool defers, the permanent axes deny, and the ledger
    has the last word on delegated authority and budget. -/
def evaluate_spawn_quota_deferrable (caller : Option TaskId) (manifest : IsolationManifest) : LoopProgram K Disposition := do
  onLedger K.drop_reservation
  let e ← get
  let quota := e.policies.resource_quota
  let concurrency := quota.bind max_concurrent_subagents
  if concurrency = some 0 then
    return .Deny "quota" "max_concurrent_subagents=0 permits no spawn (misconfigured quota)"
  if (concurrency.map fun max => decide (max ≤ e.tasks.running)).getD false then return .Defer e.tasks.running
  let grant_max := e.budget_grant.bind BudgetGrant.subagents
  if let some max := least (quota.bind max_total_subagents) grant_max then
    if max ≤ e.tasks.spawned then
      if grant_max.isSome then observe (.BudgetExceeded e.turn "subagents" (e.budget_grant.map BudgetGrant.reservation_id))
      return .Deny "budget_grant" s!"subagent grant {max} reached ({e.tasks.spawned} spawned locally)"
  if let some max := quota.bind max_spawn_depth then
    if max < 1 then return .Deny "quota" s!"max_spawn_depth={max} exceeded (depth 1)"
  match caller.or e.tasks.root_id with
  | none => pure .Allow
  | some parent =>
    match K.reserve_authority e.tasks parent manifest e.turn e.ledger with
    | .error (stage,reason) => pure (.Deny stage reason)
    | .ok ledger =>
      set { (← get) with ledger }
      pure .Allow

/-- Spawn the nodes of one round in order; a deferral ends the round. -/
def spawn_nodes (caller : Option TaskId) : List Nat → LoopProgram K (List TaskId × List WorkflowSpawnInfo)
  | [] => pure ([],[])
  | node :: rest => do
    match (← get).workflow with
    | none => spawn_nodes caller rest
    | some run =>
      if K.quarantine_violation run.nodes run.rest node then
        onRun (K.mark_denied node)
        push_signal (K.control_rejection_note s!"workflow-node:wf-node{node}"
          "quarantine: quarantined node requested write-capable isolation" (← get).ctx)
        spawn_nodes caller rest
      else
      let manifest := K.manifest_for run.nodes run.rest node
      match ← evaluate_spawn_quota_deferrable caller manifest with
      | .Allow =>
        let e ← get
        match caller.or e.tasks.root_id with
        | none =>
          onRun (K.mark_denied node)
          spawn_nodes caller rest
        | some parent =>
          match e.tasks.spawn_child parent manifest.agent_id .PendingLaunch with
          | .error error =>
            onRun (K.mark_denied node)
            observe (.ControlRequestRejected e.turn "spawn_workflow_node" (some manifest.agent_id)
              s!"kernel-owned child creation rejected {error.reason}")
            spawn_nodes caller rest
          | .ok tasks =>
            set { e with tasks, ledger := K.attach_child_budget_grant manifest.agent_id (K.note_spawned manifest e.ledger) }
            onRun (K.mark_spawned node manifest.agent_id)
            let infos := match (← get).workflow with
              | some run => [K.spawn_info run.nodes run.rest node]
              | none => []
            let (ids,later) ← spawn_nodes caller rest
            pure (manifest.agent_id :: ids,infos ++ later)
      | .Defer _ => pure ([],[])
      | _ =>
        onRun (K.mark_denied node)
        spawn_nodes caller rest

/-- Merge the ready nodes into the local run order. -/
def order_local_runnables (ready : List Nat) : LoopProgram K (List Nat) := do
  let e ← get
  let named := match e.workflow with
    | some run => ready.map fun node => (K.current_agent_id run.rest node,node)
    | none => []
  let order := K.order_runnables e.tasks.runnable_candidates named
  if ¬order.isEmpty then observe (.LocalRunnableTrace e.turn order)
  pure (order.filterMap fun id => named.reverse.lookup id)

def observe_local_runnable_tasks : LoopProgram K Unit := do
  let e ← get
  let order := K.order_runnables e.tasks.runnable_candidates []
  if ¬order.isEmpty then observe (.LocalRunnableTrace e.turn order)

def spawn_ready_workflow_nodes (caller : Option TaskId) : LoopProgram K (List TaskId × List WorkflowSpawnInfo) := do
  let e ← get
  let ready ← match e.workflow with
    | some run => do
      let (ready,rest) := K.ready_batch run.nodes run.rest
      set { e with workflow := some { run with rest } }
      pure ready
    | none => pure []
  spawn_nodes caller (← order_local_runnables ready)

/-- The agents a suspension waits on. -/
def awaited : Option SuspendState → List TaskId
  | some (.SubAgentAwait ids) => ids
  | _ => []

/-- A finished workflow closes its root, or hands the turn back to the parent agent. -/
def finish_workflow : LoopProgram K LoopAction := do
  let e ← get
  if let some run := e.workflow then observe (.WorkflowCompleted e.turn (K.finish run.nodes run.rest))
  modify fun e => { e with workflow := none }
  if e.root_workflow then
    set_lifecycle (.Done .Completed) none
    pure .AwaitingResume
  else
    set_phase .Reason
    emit_call_llm

/-- One spawn round: publish a batch, keep waiting, or finish. -/
def drive_workflow (just_completed caller : Option TaskId) : LoopProgram K LoopAction := do
  if let some id := just_completed then
    modify fun e => { e with
      suspend_state := match e.suspend_state with
        | some (.SubAgentAwait ids) => some (.SubAgentAwait (ids.filter fun agent => agent ≠ id))
        | other => other }
  let (ids,infos) ← spawn_ready_workflow_nodes caller
  if ¬ids.isEmpty then
    let budget := (← get).workflow_budget
    let waiting := awaited (← get).suspend_state ++ ids
    modify fun e => { e with suspend_state := some (.SubAgentAwait waiting) }
    set_lifecycle .Suspended (some (.All,waiting.map WaitCondition.Child))
    modify fun e => { e with pending_workflow_spawn := some ⟨infos,budget⟩ }
    return .SpawnWorkflow infos budget
  let e ← get
  if ¬(awaited e.suspend_state).isEmpty then return .AwaitingResume
  if e.root_workflow && e.dynamic_workflow_open then return .AwaitingResume
  modify fun e => { e with suspend_state := none }
  if let some id := just_completed then observe (.Resumed e.turn [id] [])
  finish_workflow

def close_dynamic_workflow : LoopProgram K LoopAction := do
  modify fun e => { e with dynamic_workflow_open := false }
  drive_workflow none none

/-- Surface a refused control request as a note to the model and a fact. -/
def reject_control (operation : String) (subject : Option TaskId) (reason : String) : LoopProgram K Unit := do
  let e ← get
  push_signal (K.control_rejection_note operation reason e.ctx)
  observe (.ControlRequestRejected e.turn operation subject reason)

def load_workflow_as (nodes : List WireNode) (caller : TaskId) : LoopProgram K LoopAction := do
  match K.new_run nodes with
  | .ok rest =>
    modify fun e => { e with workflow := some ⟨nodes,rest⟩ }
    drive_workflow none (some caller)
  | .error error =>
    reject_control "load_workflow" none error
    set_phase .Reason
    emit_call_llm

/-- The gate and the trust-aware append, without the drive. -/
def append_workflow_nodes (nodes : List WireNode) (submitter : Option TaskId) (tool_label : String) : LoopProgram K Bool := do
  let e ← get
  match e.evaluate_submit_nodes_quota nodes.length with
  | .Allow =>
    match e.workflow with
    | none => pure true
    | some run =>
      match K.submit_nodes submitter nodes run.nodes run.rest with
      | .error (index,reason) =>
        observe (.NodesRejected e.turn index reason)
        pure false
      | .ok rest =>
        set { e with workflow := some ⟨run.nodes ++ nodes,rest⟩ }
        if ¬nodes.isEmpty then observe (.WorkflowNodesSubmitted e.turn run.nodes.length nodes.length submitter)
        pure true
  | .Deny _ reason =>
    reject_control tool_label submitter reason
    pure false
  | _ =>
    reject_control tool_label submitter "workflow node submission denied"
    pure false

/-- Record a completion of the workflow and drive the next round. -/
def advance_workflow (agent_id : TaskId) (result : ChildResult) : LoopProgram K LoopAction := do
  onRun (K.record_completion agent_id result)
  drive_workflow (some agent_id) (some agent_id)

def ChildResult.terminal_state (result : ChildResult) : TaskLifecycle :=
  match result.status with
  | .Completed => .Done .Completed
  | _ => .Done .Error

/-- The join of a child outside a workflow: resume when the suspension it belongs to is empty. -/
def resume_parent_of (agent_id : TaskId) : LoopProgram K LoopAction := do
  let e ← get
  let awaiting := e.is_suspended && match (e.tasks.get "root").bind Tcb.wait_set with
    | some wait => wait.conditions.any fun | .Child _ => true | _ => false
    | none => false
  match e.suspend_state,awaiting with
  | some (.SubAgentAwait ids),true =>
    let ids := ids.filter fun id => id ≠ agent_id
    if ids.isEmpty then
      set { e with suspend_state := none }
      observe (.Resumed e.turn [agent_id] [])
      set_phase .Reason
      emit_call_llm
    else
      set { e with suspend_state := some (.SubAgentAwait ids) }
      pure .AwaitingResume
  | _,_ =>
    set_phase .Reason
    emit_call_llm

/-- `SubAgentCompleted`. A workflow's child stays non-terminal until its completion has been
    driven, so that what it submitted can still name it as a parent. -/
def feed_sub_agent_completed (agent_id : TaskId) (result : ChildResult) : LoopProgram K LoopAction := do
  begin_event
  let e ← get
  let workflow_owned := e.owns_agent agent_id
  let terminal_state := ChildResult.terminal_state result
  match e.tasks.get agent_id with
  | some task =>
    if ¬task.state.is_terminal then
      onTasks fun tasks => tasks.modify agent_id fun task =>
        { task with state := if workflow_owned then .Suspended else terminal_state, result := some result }
      onLedger (K.accumulate_usage agent_id result.total_tokens result.turns)
  | none => pure ()
  let marker := if e.task_quarantined agent_id then "quarantined sub-agent" else "sub-agent"
  let output := result.output.getD ""
  push_signal s!"[{marker} {agent_id}] {output}"
  if workflow_owned then
    let action ← advance_workflow agent_id result
    onTasks fun tasks => tasks.set_state agent_id terminal_state
    onLedger (K.return_child_budget agent_id)
    process_changed agent_id
    pure action
  else
    onLedger (K.return_child_budget agent_id)
    process_changed agent_id
    resume_parent_of agent_id

/-- The children the host reported as started become running processes. -/
def acknowledge_started : List WorkflowSpawnInfo → LoopProgram K Unit
  | [] => pure ()
  | node :: rest => do
    onTasks fun tasks => tasks.modify node.agent_id fun task =>
      if task.state.is_terminal then task else { task with state := .Running }
    process_changed node.agent_id
    acknowledge_started rest

/-- A launch the host could not perform fails its node and leaves the wait set. -/
def fail_launches : List TaskId → LoopProgram K Unit
  | [] => pure ()
  | id :: rest => do
    onTasks fun tasks => tasks.set_state id (.Done .Error)
    onLedger (K.return_child_budget id)
    onRun (K.mark_spawn_failed id)
    fail_launches rest

def resolve_workflow_spawn (started failures : List TaskId) : LoopProgram K LoopAction := do
  match (← get).pending_workflow_spawn with
  | none => pure .AwaitingResume
  | some pending =>
    modify fun e => { e with pending_workflow_spawn := none }
    fail_launches failures
    modify fun e => { e with
      suspend_state := match e.suspend_state with
        | some (.SubAgentAwait ids) => some (.SubAgentAwait (ids.filter fun id => !failures.contains id))
        | other => other }
    let started_nodes := pending.nodes.filter fun node => started.contains node.agent_id
    acknowledge_started started_nodes
    if ¬started_nodes.isEmpty then
      let turn := (← get).turn
      observe (.WorkflowBatchSpawned turn started_nodes pending.budget)
      observe (.Suspended turn "workflow_batch" started)
    if ¬(awaited (← get).suspend_state).isEmpty then pure .AwaitingResume
    else
      modify fun e => { e with suspend_state := none }
      drive_workflow none none

def abort_preempted : List TaskId → LoopProgram K Unit
  | [] => pure ()
  | id :: rest => do
    onTasks fun tasks => tasks.set_state id (.Done .UserAbort)
    onLedger (K.return_child_budget id)
    process_changed id
    abort_preempted rest

/-- The order of lineage depths, an unknown task below every known one. -/
def depthRank (tasks : TaskTable) (id : TaskId) : Nat := ((tasks.lineage_depth id).map (· + 1)).getD 0

/-- Commit a preemption: the children are aborted, an owning workflow is torn down whole, and the
    root takes the interrupt turn. -/
def resolve_preempt : LoopProgram K LoopAction := do
  let e ← get
  match e.pending_preempt with
  | none => pure .AwaitingResume
  | some pending =>
    set { e with pending_preempt := none }
    let ids := pending.agent_ids.mergeSort fun left right =>
      decide (depthRank e.tasks right ≤ depthRank e.tasks left)
    abort_preempted ids
    if let some run := (← get).workflow then
      if ids.any (K.owns_agent run.rest) then
        modify fun e => { e with workflow := none }
        observe (.WorkflowCompleted e.turn (K.abort_outcomes run.nodes run.rest))
    observe (.AgentPreempted e.turn ids pending.reason)
    modify fun e => { e with suspend_state := none }
    emit_call_llm

end Deepstrike.Loop

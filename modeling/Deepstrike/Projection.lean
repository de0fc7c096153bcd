import Deepstrike.Planning

/-!
The logical state of the driver: what a checkpoint and a restore point keep of it, and the driver
that is rebuilt from that. The rebuilt loop is a freshly built one moved onto the kept facts, so
whatever is not named here comes back as it was at genesis.
-/
namespace Deepstrike.Driver
open Wire Tasks
open Loop

structure SyscallState where
  policy_revision : Option Nat
  live_config : Option ResolvedOperationConfig
  provider_calls : List (EffectId × TaskId × List String)
  consumed_call_ids : List CallId
  authored_memory_writes : List (EffectId × AuthoredMemoryWrite)
  authored_memory_queries : List (EffectId × AuthoredMemoryQuery)
  memory_write_window_ms : List Nat
  deriving DecidableEq,Repr

structure WorkflowNodeState where
  node : WireNode
  status : Json
  active_agent_id : Option TaskId
  deriving DecidableEq,Repr

structure WorkflowGraphState where
  workflow_id : WorkflowId
  nodes : List WorkflowNodeState
  deriving DecidableEq,Repr

structure MilestoneState where
  contract_id : String
  phase_id : Option String
  complete : Bool
  blocked_count : Nat
  deriving DecidableEq,Repr

/-- The scheduler partition. A task row is kept by its schedulability here and by the ledger for
    the rest. -/
structure SchedulerState (K : Parts) where
  run_spec : Option LogicalAgentSpec
  advertised_tool_ids : Option (List String)
  turn : Nat
  total_tokens : Nat
  rounds_completed : Nat
  subagents_spawned : Nat
  started_at_ms : Option Nat
  wall_budget_ms : Option Nat
  tasks : List Tcb
  ledger : K.LedgerState
  attempts : List (TaskId × AttemptId)
  workflow : Option WorkflowGraphState
  signals : K.RouterState
  milestone : Option MilestoneState
  entropy : K.EntropyState

structure ContextVmState (K : Parts) where
  ctx : K.CtxState
  pending_payload_loads : List (EffectId × PendingPayloadLoad)

/-- The driver's partitions. Without a loop the scheduler and the context have nothing to keep. -/
structure LogicalStateProjection (K : Parts) where
  root_kind : Option RootKind
  focus : Option ExecutionFocus
  syscall : SyscallState
  engine : Option (SchedulerState K × ContextVmState K)

variable {K : Parts} (driver : OperationDriver K)

def project_syscall_state : SyscallState where
  policy_revision := driver.policy.map LivePolicyState.revision
  live_config := driver.policy.map LivePolicyState.config
  provider_calls := driver.provider_calls.toList.map fun (id,call) => (id,call.task_id,call.exposed_tools.toList)
  consumed_call_ids := driver.consumed_calls.toList
  authored_memory_writes := driver.pending_memory_writes.toList
  authored_memory_queries := driver.pending_memory_queries.toList
  memory_write_window_ms := match driver.engine with
    | some engine => engine.memory_write_times
    | none => []

variable (engine : Engine K)

/-- The workflow in flight, paired with its canonical nodes. The source asserts that it has an
    identity and that the two graphs have equal length. -/
def project_workflow : Except String (Option WorkflowGraphState) :=
  match engine.workflow,driver.workflow_id with
  | none,_ => .ok none
  | some _,none => .error "an active canonical workflow has a logical identity"
  | some run,some workflow_id =>
    if run.nodes.length ≠ driver.workflow_nodes.length then
      .error "the semantic workflow and its canonical source DAG stay index-aligned"
    else .ok (some ⟨workflow_id,driver.workflow_nodes.zipIdx.map fun (node,index) =>
      ⟨node,K.node_status run.nodes run.rest index,K.active_agent run.nodes run.rest index⟩⟩)

def project_milestone : Option MilestoneState :=
  driver.loaded_contract_id.map fun contract_id =>
    ⟨contract_id,engine.milestone.phase_id,engine.milestone.is_complete,engine.milestone.blocked_count⟩

def project_scheduler_state : Except String (SchedulerState K) := do
  let workflow ← project_workflow driver engine
  pure
    { run_spec := engine.run_spec.map K.logical_agent_run_spec
      advertised_tool_ids := engine.exposed_tool_names.map fun names => names.toList
      turn := engine.turn
      total_tokens := engine.total_tokens
      rounds_completed := engine.local_rounds_completed
      subagents_spawned := engine.tasks.spawned
      started_at_ms := engine.started_at_ms
      wall_budget_ms := engine.policy.max_wall_ms
      tasks := engine.tasks
      ledger := K.project_ledger engine.tasks engine.ledger
      attempts := driver.attempts.toList
      workflow := workflow
      signals := K.project_router engine.signal_router
      milestone := project_milestone driver engine
      entropy := K.project_entropy engine.entropy }

def OperationDriver.preview_bytes (driver : OperationDriver K) : Nat :=
  match driver.policy with
  | some policy => policy.config.preview_bytes
  | none => 2 * 1024

def project_context_vm_state : ContextVmState K :=
  ⟨K.project_ctx driver.preview_bytes engine.ctx,driver.pending_payload_loads.toList⟩

/-- The projection of a driver; an error is an assertion of the source. -/
def project_logical_state : Except String (LogicalStateProjection K) :=
  match driver.engine with
  | none => .ok ⟨driver.root_kind,driver.focus,project_syscall_state driver,none⟩
  | some engine => do
    let scheduler ← project_scheduler_state driver engine
    pure ⟨driver.root_kind,driver.focus,project_syscall_state driver,some (scheduler,project_context_vm_state driver engine)⟩

def incompatible {α : Type} (message : String) : Except KernelFault α := .error ⟨.CheckpointIncompatible,message⟩

/-- An empty wait set and an index outside it are refused. -/
def restore_wait_set (task_id : TaskId) (wait : DurableWaitSet) : Except KernelFault DurableWaitSet :=
  if wait.conditions.isEmpty then incompatible s!"task {task_id} carries an empty durable WaitSet"
  else if ¬(wait.satisfied.Nodup ∧ ∀ index ∈ wait.satisfied, index < wait.conditions.length) then
    incompatible s!"task {task_id} carries invalid satisfied WaitSet index"
  else .ok wait

def restore_task (task : Tcb) : Except KernelFault Tcb := do
  match task.wait_set with
  | none => pure task
  | some wait => do pure { task with wait_set := some (← restore_wait_set task.id wait) }

/-- Put the rows of a checkpoint back, over the root row of a fresh table. -/
def restore_tasks : TaskTable → List Tcb → Except KernelFault TaskTable
  | table,[] => .ok table
  | table,task :: rest => do restore_tasks (table.insert (← restore_task task)) rest

def node_agent_id (index : Nat) : TaskId := s!"wf-node{index}"

def restore_workflow (graph : WorkflowGraphState) (engine : Engine K) : Except KernelFault (Engine K) := do
  let nodes := graph.nodes.map WorkflowNodeState.node
  (K.build_core_spec nodes).mapError fun fault => ⟨.CheckpointIncompatible,fault.message⟩
  let states := graph.nodes.zipIdx.map fun (node,index) =>
    (node.status,node.active_agent_id,(engine.tasks.get (node_agent_id index)).bind Tcb.result)
  let rest ← K.restore_run nodes states
  pure (engine.restore_checkpoint_workflow ⟨nodes,rest⟩)

def restore_advertised (names : Option (List String)) : Except KernelFault (Option OrdSet) :=
  match names with
  | none => .ok none
  | some names =>
    let unique : OrdSet := .ofList names
    if unique.size ≠ names.length then incompatible "advertised_tool_ids contains a duplicate tool id" else .ok (some unique)

def restore_scheduler (config : ResolvedOperationConfig) (state : SchedulerState K) (engine : Engine K) :
    Except KernelFault (Engine K) := do
  let exposed_tool_names ← restore_advertised state.advertised_tool_ids
  let entropy ← K.restore_entropy state.entropy engine.entropy
  let tasks ← restore_tasks engine.tasks state.tasks
  let ledger ← K.restore_ledger config state.wall_budget_ms state.started_at_ms tasks state.ledger engine.ledger
  let signal_router ← K.restore_router state.signals engine.signal_router
  let engine := { engine with
    run_spec := state.run_spec.map K.agent_run_spec
    exposed_tool_names
    turn := state.turn
    total_tokens := state.total_tokens
    local_rounds_completed := state.rounds_completed
    started_at_ms := state.started_at_ms
    policy := { engine.policy with max_wall_ms := state.wall_budget_ms }
    entropy
    tasks
    ledger
    signal_router }
  match state.workflow with
  | some graph => restore_workflow graph engine
  | none => pure engine

/-- The preemption a published effect stands for. -/
def pending_preempt_of (pending_effects : List KernelEffect) : Option PendingPreempt :=
  pending_effects.findSome? fun effect => match effect.effect with
    | .PreemptTasks attempts reason => some ⟨attempts.map TaskAttemptRef.task_id,reason⟩
    | _ => none

def restore_milestone (config : ResolvedOperationConfig) (state : MilestoneState) (engine : Engine K) : Except KernelFault (Engine K) :=
  match config.verification_contract state.contract_id with
  | none => incompatible s!"the checkpoint runs verification contract {state.contract_id.quote}, which this operation's configuration no longer declares"
  | some contract =>
    let cascade : MilestoneTracker := ⟨core_milestone_contract (K := K) contract config,0,0⟩
    match cascade.restore_cursor state.phase_id state.blocked_count with
    | some milestone => .ok { engine with milestone }
    | none => incompatible s!"the checkpoint sits on a milestone phase of contract {state.contract_id.quote}, which that contract does not declare"

/-- The loop a restore starts from: built from the genesis configuration, under the live policies. -/
def base_engine (genesis_config live_config : ResolvedOperationConfig) (root_kind : Option RootKind) : Engine K :=
  { install_live_policies live_config (build_engine genesis_config) with root_workflow := decide (root_kind = some .Workflow) }

/-- Move a freshly built loop onto the facts of a projection. -/
def restore_engine (genesis_config live_config : ResolvedOperationConfig) (root_kind : Option RootKind)
    (pending_effects : List KernelEffect) (memory_write_times : List Nat) (scheduler : SchedulerState K)
    (context_vm : ContextVmState K) : Except KernelFault (Engine K) := do
  let engine ← restore_scheduler live_config scheduler (base_engine genesis_config live_config root_kind)
  let ctx ← K.restore_ctx context_vm.ctx engine.ctx
  let engine := { engine with ctx, memory_write_times, pending_preempt := pending_preempt_of pending_effects }
  match scheduler.milestone with
  | some milestone => restore_milestone live_config milestone engine
  | none => pure engine

/-- Rebuild a driver from a logical state. -/
def restore_logical_state (genesis_config : ResolvedOperationConfig) (pending_effects : List KernelEffect)
    (state : LogicalStateProjection K) : Except KernelFault (OperationDriver K) := do
  let live_config := state.syscall.live_config.getD genesis_config
  let engine ← match state.engine with
    | some (scheduler,context_vm) =>
      restore_engine genesis_config live_config state.root_kind pending_effects state.syscall.memory_write_window_ms scheduler context_vm
    | none => pure (base_engine genesis_config live_config state.root_kind)
  let scheduler := state.engine.map Prod.fst
  let workflow := scheduler.bind SchedulerState.workflow
  pure
    { OperationDriver.new K with
      engine := some engine
      root_kind := state.root_kind
      focus := state.focus
      workflow_id := workflow.map WorkflowGraphState.workflow_id
      node_ids := ((workflow.map WorkflowGraphState.nodes).getD []).map fun node => node.node.node_id
      workflow_nodes := ((workflow.map WorkflowGraphState.nodes).getD []).map WorkflowNodeState.node
      attempts := .ofList ((scheduler.map SchedulerState.attempts).getD [])
      provider_calls := .ofList (state.syscall.provider_calls.map fun (id,task_id,tools) =>
        (id,PendingProviderCall.mk task_id (.ofList tools)))
      pending_memory_writes := .ofList state.syscall.authored_memory_writes
      pending_memory_queries := .ofList state.syscall.authored_memory_queries
      pending_payload_loads := .ofList ((state.engine.map fun parts => parts.2.pending_payload_loads).getD [])
      consumed_calls := .ofList state.syscall.consumed_call_ids
      policy := some ⟨state.syscall.policy_revision.getD 0,live_config⟩
      loaded_contract_id := (scheduler.bind SchedulerState.milestone).map MilestoneState.contract_id }

end Deepstrike.Driver

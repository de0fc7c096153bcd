import Deepstrike.Agreement

/-!
When a driver comes back from its own projection. The rebuilt loop is a freshly built one moved
onto the facts a projection names, so a driver at rest is one whose loop has nothing else to lose:
every fact that no projection names still has the value it was built with.
-/
namespace Deepstrike.Driver
open Wire Tasks Vocabulary Option
open Loop OrderedMaps

variable {K : Parts}

/-- The facts of a loop that no projection names. -/
structure Uncarried where
  phase : LoopPhase
  tools : List ToolSchema
  policy : SchedulerBudget
  policies : LoopPolicies
  budget_grant : Option BudgetGrant
  pending_pace : Option Json
  pending_termination : Option TerminationReason
  recovery_attempts : Nat
  output_recovery_attempts : Nat
  pending_output_truncated : Bool
  adjudicated_turn : Option AdjudicatedTurn
  delivered_signals_len : Nat
  pending_denied_results : List ToolResult
  root_workflow : Bool
  dynamic_workflow_open : Bool
  pending_host_effects : List PendingHostEffect
  active_host_effect : Option PendingHostEffect
  deferred_action : Option LoopAction
  repeat_sig : Option String
  repeat_count : Nat
  criteria_gate_fired : Bool
  deriving DecidableEq

/-- What a rebuild forgets of a loop; of the policy, all but the wall clock. -/
def uncarried (engine : Engine K) : Uncarried where
  phase := engine.phase
  tools := engine.tools
  policy := { engine.policy with max_wall_ms := none }
  policies := engine.policies
  budget_grant := engine.budget_grant
  pending_pace := engine.pending_pace
  pending_termination := engine.pending_termination
  recovery_attempts := engine.recovery_attempts
  output_recovery_attempts := engine.output_recovery_attempts
  pending_output_truncated := engine.pending_output_truncated
  adjudicated_turn := engine.adjudicated_turn
  delivered_signals_len := engine.delivered_signals_len
  pending_denied_results := engine.pending_denied_results
  root_workflow := engine.root_workflow
  dynamic_workflow_open := engine.dynamic_workflow_open
  pending_host_effects := engine.pending_host_effects
  active_host_effect := engine.active_host_effect
  deferred_action := engine.deferred_action
  repeat_sig := engine.repeat_sig
  repeat_count := engine.repeat_count
  criteria_gate_fired := engine.criteria_gate_fired

/-- A freshly built loop, moved onto what a projection names of another one, and onto what every
    plan sets anew: its clocks and its observations. -/
def movedOnto (base engine : Engine K) : Engine K :=
  { base with
    turn := engine.turn
    ctx := engine.ctx
    observations := engine.observations
    policy := { base.policy with max_wall_ms := engine.policy.max_wall_ms }
    total_tokens := engine.total_tokens
    local_rounds_completed := engine.local_rounds_completed
    milestone := engine.milestone
    run_spec := engine.run_spec
    tasks := engine.tasks
    ledger := engine.ledger
    governance := engine.governance
    exposed_tool_names := engine.exposed_tool_names
    memory_write_times := engine.memory_write_times
    signal_router := engine.signal_router
    started_at_ms := engine.started_at_ms
    last_now_ms := engine.last_now_ms
    suspend_state := engine.suspend_state
    workflow := engine.workflow
    pending_workflow_spawn := engine.pending_workflow_spawn
    pending_preempt := engine.pending_preempt
    entropy := engine.entropy }

private theorem movedOnto_of_uncarried {base engine : Engine K} (same : uncarried engine = uncarried base) : engine = movedOnto base engine := by
  have budget : engine.policy = { base.policy with max_wall_ms := engine.policy.max_wall_ms } := by
    have limits := congrArg Uncarried.policy same
    simp only [uncarried,SchedulerBudget.mk.injEq] at limits
    cases held : engine.policy
    simp only [held] at limits
    simp [limits]
  cases base
  cases engine
  simp only [uncarried,Uncarried.mk.injEq] at same
  simp only [movedOnto,LoopStateMachine.mk.injEq]
  simp [same,← budget]

/-- A wait set a checkpoint accepts: conditions to wait on, and distinct fired ones among them. -/
def WaitSetSound (wait : DurableWaitSet) : Prop :=
  wait.conditions ≠ [] ∧ wait.satisfied.Nodup ∧ ∀ index ∈ wait.satisfied, index < wait.conditions.length

/-- A task table a checkpoint accepts: the root's row first, one row a task, sound wait sets. -/
structure TasksSound (tasks : TaskTable) : Prop where
  root : tasks.head?.map Tcb.id = some "root"
  distinct : (tasks.map Tcb.id).Nodup
  waits : ∀ task ∈ tasks, ∀ wait, task.wait_set = some wait → WaitSetSound wait

/-- The workflow of a loop at rest: the driver's graph is the run's graph, and the loop waits for
    the run's active nodes and for nothing else. Without a workflow it waits for nothing, and the
    driver holds no graph. -/
def WorkflowAtRest (driver : OperationDriver K) (engine : Engine K) : Prop :=
  match engine.workflow with
  | none => driver.workflow_id = none ∧ driver.node_ids = [] ∧ driver.workflow_nodes = [] ∧
      engine.suspend_state = none ∧ engine.pending_workflow_spawn = none
  | some run => driver.workflow_id.isSome ∧ driver.workflow_nodes = run.nodes ∧ driver.node_ids = run.nodes.map WireNode.node_id ∧
      engine.restore_checkpoint_workflow run = engine

/-- A milestone cursor at rest stands on a phase of the contract the driver loaded. -/
def MilestoneAtRest (live_config : ResolvedOperationConfig) (driver : OperationDriver K) (engine : Engine K) : Prop :=
  match driver.loaded_contract_id with
  | none => engine.milestone = MilestoneTracker.new
  | some contract_id => ∃ contract, live_config.verification_contract contract_id = some contract ∧
      MilestoneTracker.restore_cursor ⟨core_milestone_contract (K := K) contract live_config,0,0⟩ engine.milestone.phase_id
        engine.milestone.blocked_count = some engine.milestone

/-- The parts of a loop that come back from their own projections. -/
structure PartsReturn (genesis_config live_config : ResolvedOperationConfig) (driver : OperationDriver K) (engine : Engine K) : Prop where
  ctx : K.restore_ctx (K.project_ctx driver.preview_bytes engine.ctx) (K.new_ctx genesis_config) = .ok engine.ctx
  router : K.restore_router (K.project_router engine.signal_router) (K.new_router live_config) = .ok engine.signal_router
  entropy : K.restore_entropy (K.project_entropy engine.entropy) (K.new_entropy genesis_config) = .ok engine.entropy
  ledger : K.restore_ledger live_config engine.policy.max_wall_ms engine.started_at_ms engine.tasks
      (K.project_ledger engine.tasks engine.ledger) (K.seed_child_budget genesis_config.budget_grant (K.new_ledger genesis_config)) =
    .ok engine.ledger
  run_spec : (engine.run_spec.map K.logical_agent_run_spec).map K.agent_run_spec = engine.run_spec
  run : ∀ run, engine.workflow = some run → K.build_core_spec run.nodes = .ok () ∧
    K.restore_run run.nodes (run.nodes.zipIdx.map fun (_,index) =>
      (K.node_status run.nodes run.rest index,K.active_agent run.nodes run.rest index,
        (engine.tasks.get (node_agent_id index)).bind Tcb.result)) = .ok run.rest

/-- A driver at rest. Nothing is staged, nothing is between two plans, every uncarried fact of its
    loop is the one a restore builds, and the rest comes back from its own projection. -/
structure AtRest (genesis_config : ResolvedOperationConfig) (pending_effects : List KernelEffect) (driver : OperationDriver K) : Prop where
  staged : driver.staged = none
  poison : driver.poison = none
  recalled : driver.recall_query = none
  loop : ∃ engine policy, driver.engine = some engine ∧ driver.policy = some policy ∧
    uncarried engine = uncarried (base_engine (K := K) genesis_config policy.config driver.root_kind) ∧
    (∀ now, engine.governance.map (K.set_time now) =
      (base_engine (K := K) genesis_config policy.config driver.root_kind).governance.map (K.set_time now)) ∧
    engine.pending_preempt = pending_preempt_of pending_effects ∧
    TasksSound engine.tasks ∧ WorkflowAtRest driver engine ∧ MilestoneAtRest policy.config driver engine ∧
    PartsReturn genesis_config policy.config driver engine

private theorem restore_task_sound {task : Tcb} (waits : ∀ wait, task.wait_set = some wait → WaitSetSound wait) :
    restore_task task = .ok task := by
  unfold restore_task
  cases held : task.wait_set with
  | none => rfl
  | some wait =>
  obtain ⟨nonempty,fired⟩ := waits wait held
  have accepted : restore_wait_set task.id wait = .ok wait := by
    unfold restore_wait_set
    rw [if_neg (by simpa using nonempty),if_neg (not_not.mpr fired)]
  simp only [accepted,bind,Except.bind,← held]
  rfl

private theorem restore_tasks_behind {rest : List Tcb} : ∀ (front : TaskTable), ((front ++ rest).map Tcb.id).Nodup →
    (∀ task ∈ rest, ∀ wait, task.wait_set = some wait → WaitSetSound wait) → restore_tasks front rest = .ok (front ++ rest) := by
  induction rest with
  | nil =>
    intro front _ _
    simp [restore_tasks]
  | cons task rest ih =>
  intro front distinct waits
  have fresh : (front.any fun other => other.id == task.id) = false := by
    simp only [List.map_append,List.map_cons,List.nodup_append] at distinct
    simp only [List.any_eq_false,beq_iff_eq]
    intro other member same
    exact distinct.2.2 other.id (List.mem_map_of_mem member) task.id (by simp) same
  have inserted : TaskTable.insert front task = front ++ [task] := by simp [TaskTable.insert,fresh]
  rw [restore_tasks,restore_task_sound (waits task (by simp))]
  simp only [bind,Except.bind,inserted]
  rw [ih (front ++ [task]) (by simpa using distinct) fun other member => waits other (by simp [member])]
  simp

variable {tasks : TaskTable}

private theorem restore_tasks_sound (sound : TasksSound tasks) : restore_tasks [Tcb.root "root"] tasks = .ok tasks := by
  obtain ⟨first,distinct,waits⟩ := sound
  cases tasks with
  | nil => simp at first
  | cons root rest =>
  have named : root.id = "root" := by simpa using first
  rw [restore_tasks,restore_task_sound (waits root (by simp))]
  have inserted : TaskTable.insert [Tcb.root "root"] root = [root] := by simp [TaskTable.insert,Tcb.root,named]
  simp only [bind,Except.bind,inserted]
  rw [restore_tasks_behind [root] (by simpa using distinct) fun task member => waits task (by simp [member])]
  rfl

variable (workflow_id : WorkflowId)

/-- The graph a projection writes down for a run whose nodes are the driver's. -/
def graphOf (run : WorkflowRun K.toLoopParts) : WorkflowGraphState :=
  ⟨workflow_id,run.nodes.zipIdx.map fun (node,index) =>
    ⟨node,K.node_status run.nodes run.rest index,K.active_agent run.nodes run.rest index⟩⟩

private theorem graphOf_nodes (workflow_id : WorkflowId) (run : WorkflowRun K.toLoopParts) :
    (graphOf (K := K) workflow_id run).nodes.map WorkflowNodeState.node = run.nodes := by
  rw [graphOf,List.map_map]
  exact List.zipIdx_map_fst 0 run.nodes

private theorem graphOf_rows (run : WorkflowRun K.toLoopParts) (tasks : TaskTable) :
    ((graphOf workflow_id run).nodes.zipIdx.map fun (node,index) =>
      (node.status,node.active_agent_id,(tasks.get (node_agent_id index)).bind Tcb.result)) =
    run.nodes.zipIdx.map fun (_,index) => (K.node_status run.nodes run.rest index,K.active_agent run.nodes run.rest index,
      (tasks.get (node_agent_id index)).bind Tcb.result) := by
  apply List.ext_getElem (by simp [graphOf])
  intro index _ _
  simp [graphOf]

/-- A run comes back from its graph, with the suspension its active nodes stand for. -/
theorem restore_workflow_graph {engine : Engine K} {run : WorkflowRun K.toLoopParts}
    (spec : K.build_core_spec run.nodes = .ok ()) (rows : engine.tasks = tasks)
    (returned : K.restore_run run.nodes (run.nodes.zipIdx.map fun (_,index) =>
      (K.node_status run.nodes run.rest index,K.active_agent run.nodes run.rest index,
        (tasks.get (node_agent_id index)).bind Tcb.result)) = .ok run.rest) :
    restore_workflow (graphOf workflow_id run) engine = .ok (engine.restore_checkpoint_workflow run) := by
  subst rows
  unfold restore_workflow
  simp only [graphOf_nodes,graphOf_rows,spec,returned,bind,Except.bind,Except.mapError]
  rfl

private theorem restore_checkpoint_workflow_congr {left : Engine K} (right : Engine K) (run : WorkflowRun K.toLoopParts)
    (tasks : left.tasks = right.tasks) (policies : left.policies = right.policies) (grant : left.budget_grant = right.budget_grant)
    (policy : left.policy = right.policy) (tokens : left.total_tokens = right.total_tokens) :
    left.restore_checkpoint_workflow run = { left with
      workflow := some run
      suspend_state := (right.restore_checkpoint_workflow run).suspend_state
      pending_workflow_spawn := (right.restore_checkpoint_workflow run).pending_workflow_spawn } := by
  simp only [LoopStateMachine.restore_checkpoint_workflow,LoopStateMachine.workflow_budget,LoopStateMachine.workflow_node_count,
    tasks,policies,grant,policy,tokens]

/-- The loop that `restore_scheduler` has behind it: the base moved onto the scheduler partition. -/
private def scheduled (base engine : Engine K) : Engine K :=
  { base with
    run_spec := engine.run_spec
    exposed_tool_names := engine.exposed_tool_names
    turn := engine.turn
    total_tokens := engine.total_tokens
    local_rounds_completed := engine.local_rounds_completed
    started_at_ms := engine.started_at_ms
    policy := { base.policy with max_wall_ms := engine.policy.max_wall_ms }
    entropy := engine.entropy
    tasks := engine.tasks
    ledger := engine.ledger
    signal_router := engine.signal_router
    workflow := engine.workflow
    suspend_state := engine.suspend_state
    pending_workflow_spawn := engine.pending_workflow_spawn }

private theorem restore_advertised_names (names : Option OrdSet) :
    restore_advertised (names.map fun names => names.toList) = .ok names := by
  cases names with
  | none => rfl
  | some names => simp [restore_advertised,ofList_toList_set,Std.ExtTreeSet.length_toList]

section
variable {genesis_config live_config : ResolvedOperationConfig} {driver : OperationDriver K} {engine : Engine K}

private theorem project_workflow_at_rest (rest : WorkflowAtRest driver engine) :
    project_workflow driver engine = .ok (engine.workflow.map (graphOf (driver.workflow_id.getD ""))) := by
  unfold WorkflowAtRest at rest
  unfold project_workflow
  cases held : engine.workflow with
  | none => rfl
  | some run =>
  simp only [held] at rest
  obtain ⟨identified,nodes,_,_⟩ := rest
  obtain ⟨workflow_id,identity⟩ := isSome_iff_exists.mp identified
  simp only [identity,nodes,ne_eq,not_true_eq_false,if_false,map_some,getD_some]
  rfl

private theorem graph_at_rest (rest : WorkflowAtRest driver engine) :
    let graph := engine.workflow.map (graphOf (K := K) (driver.workflow_id.getD ""))
    graph.map WorkflowGraphState.workflow_id = driver.workflow_id ∧
      ((graph.map WorkflowGraphState.nodes).getD []).map (fun node => node.node.node_id) = driver.node_ids ∧
      ((graph.map WorkflowGraphState.nodes).getD []).map WorkflowNodeState.node = driver.workflow_nodes := by
  unfold WorkflowAtRest at rest
  cases held : engine.workflow with
  | none =>
    simp only [held] at rest
    obtain ⟨identity,ids,nodes,_,_⟩ := rest
    simp [identity,ids,nodes]
  | some run =>
  simp only [held] at rest
  obtain ⟨identified,nodes,ids,_⟩ := rest
  obtain ⟨workflow_id,identity⟩ := isSome_iff_exists.mp identified
  have named : ((graphOf (K := K) workflow_id run).nodes.map fun node => node.node.node_id) = driver.node_ids := by
    rw [ids,← graphOf_nodes workflow_id run,List.map_map]
    rfl
  simp only [map_some,getD_some,identity,named,graphOf_nodes,nodes]
  exact ⟨rfl,trivial,trivial⟩

variable {scheduler : SchedulerState K}

private theorem restore_scheduler_at_rest (root_kind : Option RootKind)
    (built : engine = movedOnto (base_engine genesis_config live_config root_kind) engine)
    (tasks : TasksSound engine.tasks) (workflow : WorkflowAtRest driver engine)
    (parts : PartsReturn genesis_config live_config driver engine)
    (projected : project_scheduler_state driver engine = .ok scheduler) :
    restore_scheduler live_config scheduler (base_engine genesis_config live_config root_kind) =
      .ok (scheduled (base_engine genesis_config live_config root_kind) engine) := by
  simp only [project_scheduler_state,project_workflow_at_rest workflow,bind,Except.bind,pure,Except.pure,Except.ok.injEq] at projected
  subst projected
  have advertised := restore_advertised_names engine.exposed_tool_names
  have entropy : K.restore_entropy (K.project_entropy engine.entropy) (base_engine (K := K) genesis_config live_config root_kind).entropy =
    .ok engine.entropy := parts.entropy
  have rows : restore_tasks (base_engine (K := K) genesis_config live_config root_kind).tasks engine.tasks = .ok engine.tasks :=
    restore_tasks_sound tasks
  have ledger : K.restore_ledger live_config engine.policy.max_wall_ms engine.started_at_ms engine.tasks
      (K.project_ledger engine.tasks engine.ledger) (base_engine (K := K) genesis_config live_config root_kind).ledger =
    .ok engine.ledger := parts.ledger
  have router : K.restore_router (K.project_router engine.signal_router)
      (base_engine (K := K) genesis_config live_config root_kind).signal_router = .ok engine.signal_router := parts.router
  simp only [restore_scheduler,advertised,entropy,rows,ledger,router,parts.run_spec,bind,Except.bind]
  unfold WorkflowAtRest at workflow
  cases held : engine.workflow with
  | none =>
    simp only [held] at workflow
    obtain ⟨_,_,_,suspension,spawn⟩ := workflow
    simp only [map_none,scheduled,held,suspension,spawn]
    rfl
  | some run =>
  simp only [held] at workflow
  obtain ⟨_,_,_,derived⟩ := workflow
  obtain ⟨spec,returned⟩ := parts.run run held
  have policies := congrArg (fun engine : Engine K => engine.policies) built
  have grant := congrArg (fun engine : Engine K => engine.budget_grant) built
  have policy := congrArg (fun engine : Engine K => engine.policy) built
  simp only [map_some]
  refine (restore_workflow_graph _ spec ?rows returned).trans (congrArg Except.ok ?_)
  case rows => rfl
  refine Eq.trans (restore_checkpoint_workflow_congr engine run ?tasks ?policies ?grant ?policy ?tokens) ?_
  case tasks => rfl
  case policies => exact policies.symm
  case grant => exact grant.symm
  case policy => exact policy.symm
  case tokens => rfl
  simp only [derived,scheduled,held]

private theorem restore_milestone_at_rest (milestone : MilestoneAtRest live_config driver engine) (target : Engine K)
    (fresh : target.milestone = MilestoneTracker.new) :
    (match project_milestone driver engine with
      | some milestone => restore_milestone live_config milestone target
      | none => pure target) = .ok { target with milestone := engine.milestone } := by
  unfold MilestoneAtRest at milestone
  unfold project_milestone
  cases held : driver.loaded_contract_id with
  | none =>
    simp only [held] at milestone
    simp only [map_none,milestone,← fresh]
    rfl
  | some contract_id =>
  simp only [held] at milestone
  obtain ⟨contract,declared,cursor⟩ := milestone
  simp only [map_some,restore_milestone,declared,cursor]

/-- The loop of a driver at rest is rebuilt up to its clocks and observations. -/
private theorem restore_engine_at_rest {pending_effects : List KernelEffect} (root_kind : Option RootKind)
    (built : engine = movedOnto (base_engine genesis_config live_config root_kind) engine)
    (preempt : engine.pending_preempt = pending_preempt_of pending_effects)
    (tasks : TasksSound engine.tasks) (workflow : WorkflowAtRest driver engine) (milestone : MilestoneAtRest live_config driver engine)
    (parts : PartsReturn genesis_config live_config driver engine)
    (projected : project_scheduler_state driver engine = .ok scheduler) :
    restore_engine genesis_config live_config root_kind pending_effects engine.memory_write_times scheduler
        (project_context_vm_state driver engine) =
      .ok { engine with
        last_now_ms := none
        observations := []
        governance := (base_engine (K := K) genesis_config live_config root_kind).governance } := by
  have rows := restore_scheduler_at_rest root_kind built tasks workflow parts projected
  have ctx : K.restore_ctx (project_context_vm_state driver engine).ctx
      (scheduled (base_engine genesis_config live_config root_kind) engine).ctx = .ok engine.ctx := parts.ctx
  have cursor : scheduler.milestone = project_milestone driver engine := by
    simp only [project_scheduler_state,project_workflow_at_rest workflow,bind,Except.bind,pure,Except.pure,Except.ok.injEq] at projected
    rw [← projected]
  simp only [restore_engine,rows,ctx,bind,Except.bind,cursor]
  refine Eq.trans (restore_milestone_at_rest milestone _ ?fresh) ?_
  case fresh => rfl
  refine congrArg Except.ok ?_
  conv_rhs => rw [built]
  simp only [scheduled,movedOnto,preempt]
  rfl

end

private theorem provider_calls_return (calls : OrdMap PendingProviderCall) :
    (Std.ExtTreeMap.ofList ((calls.toList.map fun (id,call) => (id,call.task_id,call.exposed_tools.toList)).map fun (id,task_id,tools) =>
      (id,PendingProviderCall.mk task_id (Std.ExtTreeSet.ofList tools))) : OrdMap PendingProviderCall) = calls := by
  rw [List.map_map]
  have same : (fun (entry : EffectId × TaskId × List String) => (entry.1,PendingProviderCall.mk entry.2.1 (Std.ExtTreeSet.ofList entry.2.2))) ∘
      (fun (entry : EffectId × PendingProviderCall) => (entry.1,entry.2.task_id,entry.2.exposed_tools.toList)) = id := by
    funext ⟨effect_id,task_id,tools⟩
    simp [ofList_toList_set]
  exact (congrArg (fun map => (Std.ExtTreeMap.ofList (calls.toList.map map) : OrdMap PendingProviderCall)) same).trans
    (by rw [List.map_id,ofList_toList])

/-- A driver at rest is rebuilt from its projection, and no later plan tells the two apart. -/
theorem rebuild_at_rest {genesis_config : ResolvedOperationConfig} {pending_effects : List KernelEffect}
    {driver : OperationDriver K}
    (rest : AtRest genesis_config pending_effects driver) :
    ∃ state rebuilt, project_logical_state driver = .ok state ∧
      restore_logical_state genesis_config pending_effects state = .ok rebuilt ∧ DriversAgree rebuilt driver := by
  obtain ⟨staged,poison,recalled,engine,policy,held,live,lost,clocked,preempt,tasks,workflow,milestone,parts⟩ := rest
  have built := movedOnto_of_uncarried lost
  cases projected : project_scheduler_state driver engine with
  | error site => simp [project_scheduler_state,project_workflow_at_rest workflow,bind,Except.bind,pure,Except.pure] at projected
  | ok scheduler =>
  have loop := restore_engine_at_rest driver.root_kind built preempt tasks workflow milestone parts projected
  have memory : (project_syscall_state driver).memory_write_window_ms = engine.memory_write_times := by
    simp [project_syscall_state,held]
  have config : (project_syscall_state driver).live_config.getD genesis_config = policy.config := by
    simp [project_syscall_state,live]
  have projection : project_logical_state driver =
      .ok ⟨driver.root_kind,driver.focus,project_syscall_state driver,some (scheduler,project_context_vm_state driver engine)⟩ := by
    simp only [project_logical_state,held,projected,bind,Except.bind]
    rfl
  simp only [project_scheduler_state,project_workflow_at_rest workflow,bind,Except.bind,pure,Except.pure,Except.ok.injEq] at projected
  refine ⟨_,{ driver with engine := some { engine with
    last_now_ms := none
    observations := []
    governance := (base_engine (K := K) genesis_config policy.config driver.root_kind).governance } },projection,?_,rfl,?_⟩
  · simp only [restore_logical_state,config,memory,loop,bind,Except.bind,pure,Except.pure,Except.ok.injEq]
    obtain ⟨identity,ids,nodes⟩ := graph_at_rest workflow
    have contract : (project_milestone driver engine).map MilestoneState.contract_id = driver.loaded_contract_id := by
      unfold project_milestone
      cases driver.loaded_contract_id <;> rfl
    simp only [← projected,map_some,bind_some,getD_some,identity,ids,nodes,contract,project_syscall_state,
      project_context_vm_state,ofList_toList,ofList_toList_set,provider_calls_return,live,map_some,getD_some]
    simp only [OperationDriver.new,staged,poison,recalled]
  · rw [held]
    exact ⟨rfl,fun now => (clocked now).symm⟩

end Deepstrike.Driver

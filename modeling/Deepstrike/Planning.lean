import Deepstrike.Resolutions

/-!
The rest of the planner: external events, host commands, the root start, and the plan function that
the transaction calls with its staging.
-/
namespace Deepstrike.Driver
open Wire Tasks Vocabulary
open Transaction Loop

variable {K : Parts}

/-- Fire a wait condition; what it wakes is traced. -/
def notify_waiters (key : WaitCondition) : LoopProgram K.toLoopParts Unit := do
  let before := (← get).tasks
  onTasks fun tasks => tasks.notify key
  if before.woken (← get).tasks then observe_local_runnable_tasks

/-- A signal may target a task that is still live. -/
def require_live_target (signal : LogicalSignal) : DriverProgram K Unit := do
  if let some task_id := signal.target then
    let live : Bool := match (← get).engine.bind fun engine => engine.tasks.lifecycle task_id with
      | some lifecycle => !lifecycle.is_terminal
      | none => false
    if ¬live then
      refuseWith .InvalidAuthority s!"signal {signal.signal_id} targets task {task_id}, which this operation has no live attempt for; a signal addresses the operation or one of its own logical tasks (§7.7)"

variable (context : PlanContext)

def plan_signal (delivery : DeliverSignal) : DriverProgram K PlannedStep := do
  let root_kind ← require_root_kind
  if delivery.attempt = 0 then
    refuseWith .MalformedEnvelope s!"delivery {delivery.delivery_id} carries attempt 0; attempts are 1-based, and a delivery that cannot say which attempt it is cannot be told apart from a redelivery (§7.7)"
  require_live_target delivery.signal
  let driver ← get
  if delivery.signal.effective_urgency context.config.deadline_escalation = .Critical ∧ ¬driver.attempts.isEmpty then
    require_effect_support context.config .PreemptTasks
  let action ← engine_mut do
    let action ← signal_event context.input.operation_id delivery.delivery_id delivery.attempt delivery.signal
      driver.provider_calls.isEmpty
    notify_waiters (.Signal delivery.signal.signal_id)
    pure action
  match action with
  | some action => continue_after context action root_kind
  | none => quiet_step

def attempt_ordinal (attempt_id : AttemptId) : Option Nat := (attempt_id.splitOn ":").getLast?.bind String.toNat?

/-- The fact of a supervised failure. -/
def observe_supervised (task_id : TaskId) (event : SupervisionEvent) : LoopProgram K.toLoopParts Unit := do
  observe (.ChildSupervised (← get).turn task_id event.attempt (supervision_label event.strategy) event.reason true event.relaunched)

/-- Launch a failed child again, under the next attempt. -/
def plan_relaunch (task_id : TaskId) (event : SupervisionEvent) : DriverProgram K PlannedStep := do
  require_effect_support context.config .SpawnTasks
  let driver ← get
  match driver.engine.bind fun engine => engine.workflow.bind fun run => K.spawn_info_for_agent run.nodes run.rest task_id with
  | none => refuseWith .InvalidLifecycle s!"task {task_id} has no active workflow launch descriptor to relaunch"
  | some info =>
    if 2 ^ 32 - 1 ≤ event.attempt then refuseWith .InvalidLifecycle "child attempt ordinal overflow"
    let launch ← task_launch_attempt context.input.operation_id context.step_seq info (event.attempt+1)
    engine_mut do
      onLedger (K.note_supervision task_id event)
      onTasks fun tasks => tasks.prepare_supervised_relaunch task_id
      if event.strategy = .Restart then onLedger (K.reset_usage task_id)
      mark_tasks_starting [task_id]
      observe_supervised task_id event
    let driver ← get
    pure ⟨driver.root_kind,driver.focus,[],.Effects [mint_effect context (.SpawnTasks [launch] none) 0]⟩

/-- The supervisor's strategy for a failed child, and whether it still grants a relaunch. -/
def supervision_of (task_id : TaskId) : DriverProgram K (ChildFailurePolicy × Bool) := do
  let e ← engine_mut get
  match e.tasks.get task_id with
  | none => refuseWith .InvalidAuthority s!"unknown completed task {task_id}"
  | some task =>
    let (strategy,max_restarts) := match task.parent.bind e.tasks.get with
      | some parent => K.supervision e.ledger parent.id
      | none => (.Propagate,none)
    let relaunch := (decide (strategy = .Restart) || decide (strategy = .Retry)) &&
      max_restarts.any fun max => decide (K.relaunches e.ledger task_id < max)
    pure (strategy,relaunch)

/-- A failed child goes to its supervisor first: `inl` is the relaunch, `inr` the result that
    counts as its completion. -/
def supervise_failure (completed : ChildCompleted) : DriverProgram K (PlannedStep ⊕ ChildResult) := do
  if completed.result.status ≠ .Failed then return .inr completed.result
  match attempt_ordinal completed.attempt_id with
  | none => refuseWith .InvalidAuthority s!"attempt {completed.attempt_id} has no canonical ordinal"
  | some attempt =>
    let (strategy,relaunch) ← supervision_of completed.task_id
    let event : SupervisionEvent := ⟨attempt,strategy,completed.result.error.getD "child attempt failed",relaunch⟩
    if relaunch then return .inl (← plan_relaunch context completed.task_id event)
    engine_mut do
      onLedger (K.note_supervision completed.task_id event)
      observe_supervised completed.task_id event
    if strategy = .Ignore then return .inr { completed.result with status := .Completed, error := none }
    return .inr completed.result

/-- Adjudicate the requests of a completing child, each on its own. -/
def apply_parent_requests (context : PlanContext) (completed : ChildCompleted) : Nat → Nat → List KernelEffect → List SyscallRequest →
    DriverProgram K (Nat × List KernelEffect)
  | _,effect_index,effects,[] => pure (effect_index,effects)
  | seq,effect_index,effects,request :: rest => do
    let causation := .ChildAttempt completed.task_id completed.attempt_id seq
    match ← attempt (apply_syscall context causation request effect_index effects) with
    | .ok (.ok (outcome,effect_index)) =>
      apply_parent_requests context completed (seq+1) effect_index (effects ++ outcome.effects) rest
    | .ok (.error rejection) =>
      note_rejection (rejection.by completed.task_id)
      apply_parent_requests context completed (seq+1) effect_index effects rest
    | .error fault =>
      note_rejection ⟨"parent_request",some completed.task_id,s!"request {seq} refused: {fault.message}"⟩
      apply_parent_requests context completed (seq+1) effect_index effects rest

def plan_child_completed (completed : ChildCompleted) : DriverProgram K PlannedStep := do
  let root_kind ← require_root_kind
  let issued := (← get).attempts[completed.task_id]?
  if issued ≠ some completed.attempt_id then
    let named := issued.getD "none"
    refuseWith .InvalidAuthority s!"task {completed.task_id} has attempt {named} in this kernel, but the completion names {completed.attempt_id}; a host does not mint or rewrite child identity (§10.4)"
  match ← supervise_failure context completed with
  | .inl step => pure step
  | .inr result =>
    engine_mut (onTasks fun tasks => tasks.notify (.Child completed.task_id))
    modify fun driver => { driver with attempts := driver.attempts.erase completed.task_id }
    let (effect_index,effects) ← apply_parent_requests context completed 0 0 [] completed.parent_requests
    let syscall_observations ← engine_mut take_observations
    let action ← engine_mut (feed_sub_agent_completed completed.task_id result)
    let (step,_) ← continue_after_at context action root_kind effect_index
    prepend_observations syscall_observations
    merge_syscall_effects effects step "a completion that terminates the operation cannot also publish the effects its parent requests asked for (§7.12)" false

/-- Cancellation settles every child, spends the driver's ledgers and mints the terminal, in one
    transition. -/
def plan_cancel (reason : CancellationReason) (pending_call_ids : List CallId) : DriverProgram K PlannedStep := do
  let driver ← get
  let action ← engine_mut (cancel_operation context.input.operation_id reason pending_call_ids)
  modify fun driver => { driver with
    attempts := ∅
    provider_calls := ∅
    pending_memory_writes := ∅
    pending_memory_queries := ∅ }
  match action with
  | .Done result =>
    pure ⟨driver.root_kind,driver.focus,[],.Terminal (.Cancelled reason ⟨result.total_tokens_used,result.turns_used⟩)⟩
  | _ => refuseWith .InvalidLifecycle "cancelling the operation produced no terminal; cancellation is the one control command that always ends the operation (§11.1)"

/-- The host's commands on a workflow need an active root workflow. -/
def OperationDriver.root_workflow_active (driver : OperationDriver K) : Bool :=
  decide (driver.root_kind = some .Workflow) && driver.workflow_active

def plan_dynamic_workflow_append (nodes : List WireNode) (plan : Option Json) : DriverProgram K PlannedStep := do
  if nodes.isEmpty then refuseWith .InvalidConfig "a dynamic workflow append must contain at least one node"
  let driver ← get
  if ¬driver.root_workflow_active then
    refuseWith .InvalidAuthority "dynamic workflow nodes may only be appended to an active root workflow"
  if let some message := unknown_node_contract context.config nodes then refuseWith .InvalidConfig message
  if let some plan := plan then
    if let .error message := K.check_append_plan plan nodes then refuseWith .InvalidConfig message
  MonadExcept.ofExcept (refuse (K.build_core_spec nodes))
  if let some message := known_node_id driver.node_ids nodes then refuseWith .InvalidConfig message
  let (appended,action) ← engine_mut do
    let appended ← append_workflow_nodes nodes none "submit_workflow_nodes"
    if appended then pure (true,← drive_workflow none none)
    else pure (false,.AwaitingResume)
  if appended then
    modify fun driver => { driver with
      node_ids := driver.node_ids ++ nodes.map WireNode.node_id
      workflow_nodes := driver.workflow_nodes ++ nodes }
    if let some plan := plan then engine_mut do observe (.DynamicWorkflowPlanCommitted (← get).turn plan)
  continue_after context action .Workflow

def plan_dynamic_workflow_replay (fact : Json) : DriverProgram K PlannedStep := do
  if let .error message := K.check_replay_fact fact then refuseWith .InvalidConfig message
  if ¬(← get).root_workflow_active then
    refuseWith .InvalidAuthority "dynamic workflow replay facts require a live workflow operation"
  engine_mut do observe (.DynamicWorkflowReplayRecorded (← get).turn fact)
  quiet_step

def plan_dynamic_workflow_complete : DriverProgram K PlannedStep := do
  let driver ← get
  let dynamic_open := match driver.engine with
    | some engine => engine.dynamic_workflow_open
    | none => false
  if ¬(driver.root_workflow_active && dynamic_open) then
    refuseWith .InvalidAuthority "dynamic workflow close requires an active host-driven dynamic root"
  let action ← engine_mut close_dynamic_workflow
  continue_after context action .Workflow

/-- Patch the live policies; a refused patch leaves the configuration and its revision alone. -/
def plan_policy_patch (patch : Json) : DriverProgram K PlannedStep := do
  match (← get).policy with
  | none => refuseWith .InvalidLifecycle "the operation has no genesis configuration, so it has no policy to patch"
  | some policy =>
    match K.apply_policy_patch patch policy.revision policy.config with
    | .error message => refuseWith .InvalidConfig message
    | .ok (revision,config) =>
      modify fun driver => { driver with policy := some ⟨revision,config⟩ }
      engine_mut do
        modify (install_live_policies config)
        observe (.LivePolicyChanged (← get).turn (K.live_policy_label patch) revision)
      quiet_step

/-- An absolute deadline becomes the wall budget that is left from the first accepted time. -/
def plan_update_deadline (deadline_ms : Option Nat) : DriverProgram K PlannedStep := do
  let e ← engine_mut get
  match deadline_ms,e.started_at_ms with
  | some _,none =>
    refuseWith .InvalidLifecycle "this operation has accepted no timed input yet, so an absolute deadline has no start to measure from (§11.2)"
  | deadline_ms,started_at_ms =>
    let budget := deadline_ms.map fun deadline => deadline-started_at_ms.getD 0
    engine_mut (modify fun e => { e with policy := { e.policy with max_wall_ms := budget } })
    quiet_step

/-- Admit a host-authored memory write by the rule of the model's proposals; a refusal is a fact. -/
def plan_admit_memory_write (record_id name : String) (content_bytes : Nat) : DriverProgram K PlannedStep := do
  engine_mut do
    let turn := (← get).turn
    match K.check_write context.config.memory_policy name content_bytes with
    | .error error => observe (.MemoryValidationFailed turn record_id error)
    | .ok _ =>
      match ← evaluate_memory_write_quota with
      | .Allow => pure ()
      | disposition => observe (.MemoryValidationFailed turn record_id (denial_reason disposition "memory write denied"))
  quiet_step

/-- A command that changes the context or refuses to, and publishes nothing. -/
def changeCtx (code : KernelFaultCode) (change : Nat → K.Ctx → Except String (List KernelObservation × K.Ctx)) :
    DriverProgram K PlannedStep := do
  engine_mut do
    let e ← get
    match change e.turn e.ctx with
    | .error message => throw (.fault ⟨code,message⟩)
    | .ok (observations,ctx) => set { e with ctx, observations := e.observations ++ observations }
  quiet_step

def plan_host_control : HostCommand → DriverProgram K PlannedStep
  | .Cancel reason pending_call_ids => plan_cancel context reason pending_call_ids
  | .ForceCompact => do
    let root_kind ← require_root_kind
    engine_mut (discard force_compact)
    continue_after context .AwaitingResume root_kind
  | .UpdateTask update => do
    engine_mut (onCtx (K.update_task update))
    quiet_step
  | .AppendWorkflowNodes nodes plan => plan_dynamic_workflow_append context nodes plan
  | .RecordDynamicWorkflowReplay fact => plan_dynamic_workflow_replay fact
  | .CompleteDynamicWorkflow => plan_dynamic_workflow_complete context
  | .ApplyCapabilityPatch patch => changeCtx .InvalidConfig fun turn ctx => .ok (K.capability_patch patch turn ctx)
  | .ApplyKnowledgeMutation mutation => changeCtx .InvalidAuthority (K.knowledge_mutation mutation)
  | .SeedKnowledge entries => changeCtx .InvalidAuthority (K.seed_knowledge entries)
  | .ApplySkillActivation activation => do
    engine_mut do
      let e ← get
      let ctx ← MonadExcept.ofExcept (refuse (K.skill_activation activation e.turn e.ledger e.ctx))
      set { e with ctx }
    quiet_step
  | .ApplyPolicyPatch patch => plan_policy_patch patch
  | .UpdateDeadline deadline_ms => plan_update_deadline deadline_ms
  | .AdmitMemoryWrite record_id name content_bytes => plan_admit_memory_write context record_id name content_bytes

/-- Genesis: the loop is built from the configuration the record freezes. -/
def plan_configure (config : ResolvedOperationConfig) : DriverProgram K PlannedStep := do
  modify fun driver => { driver with engine := some (build_engine config), policy := some ⟨0,config⟩ }
  pure (.quiet none none)

def seed_initial_context (initial : Json) : LoopProgram K.toLoopParts Unit := do
  let e ← get
  let (observations,ctx) := K.seed_ctx initial e.turn e.ctx
  set { e with ctx, ledger := K.seed_ledger initial e.ledger, observations := e.observations ++ observations }

def publishes (disposition : StepDisposition) (tag : EffectKindTag) : Bool :=
  disposition.effects.any fun effect => decide (effect.tag = tag)

/-- The width of the recall an agent root is owed before its first call. -/
def recall_top_k (config : ResolvedOperationConfig) : Option Nat :=
  match config.memory_access with
  | some binding =>
    if config.memory_policy.recalled && binding.read && config.supports .QueryMemory then some config.memory_policy.retrieval_top_k
    else none
  | none => none

def start_agent (goal : String) (criteria : List String) (run_spec : Option LogicalAgentSpec) (initial : Json) :
    DriverProgram K PlannedStep := do
  require_effect_support context.config .CallProvider
  require_known_contract context.config run_spec
  load_verification_contract context.config run_spec
  let action ← engine_mut do
    seed_initial_context initial
    modify fun e => { e with run_spec := run_spec.map K.agent_run_spec }
    if let some top_k := recall_top_k context.config then onCtx (K.enable_recall top_k)
    start goal criteria (K.preloads_history initial)
  let disposition ← disposition_for context action .Agent
  if ¬publishes disposition .CallProvider ∧ ¬publishes disposition .QueryMemory then
    refuseWith .InvalidLifecycle "an agent root's first committed step must publish a provider call or its memory recall (§7.4)"
  pure ⟨some .Agent,some (.AgentTurn root_task_id),[],disposition⟩

def start_workflow (nodes : List WireNode) (initial : Json) : DriverProgram K PlannedStep := do
  require_effect_support context.config .SpawnTasks
  if let some message := unknown_node_contract context.config nodes then refuseWith .InvalidConfig message
  if nodes.isEmpty then
    refuseWith .InvalidConfig "a workflow root with no nodes has no first task to spawn; a root entry must be able to publish its first effect (§10.1)"
  MonadExcept.ofExcept (refuse (K.build_core_spec nodes))
  let workflow_id := mint_workflow_id context.input.operation_id context.step_seq
  let action ← engine_mut do
    seed_initial_context initial
    modify fun e => { e with root_workflow := true }
    load_workflow_as nodes root_task_id
  install_nodes nodes workflow_id
  let disposition ← disposition_for context action .Workflow
  if ¬publishes disposition .SpawnTasks then
    refuseWith .InvalidLifecycle "a workflow root's first committed step must publish a task spawn, never a provider call (§10.1)"
  pure ⟨some .Workflow,some (.WorkflowController workflow_id none),[],disposition⟩

/-- A dynamic root publishes nothing: the open bit keeps its empty graph from finishing. -/
def start_dynamic_workflow (initial : Json) : DriverProgram K PlannedStep := do
  let workflow_id := mint_workflow_id context.input.operation_id context.step_seq
  engine_mut do
    seed_initial_context initial
    modify fun e => { e with root_workflow := true, dynamic_workflow_open := true }
    discard (load_workflow_as [] root_task_id)
  install_nodes [] workflow_id
  pure ⟨some .Workflow,some (.WorkflowController workflow_id none),[],.Effects []⟩

/-- The one atomic root start. -/
def plan_start (entry : RootEntry) (initial : Json) : DriverProgram K PlannedStep := do
  let driver ← get
  if driver.root_kind.isSome || driver.staged.isSome then
    refuseWith .InvalidLifecycle "this operation already has a root; a root entry is chosen once and is immutable (§6.1.3–6.1.5)"
  match entry with
  | .Agent goal criteria run_spec => start_agent context goal criteria run_spec initial
  | .Workflow nodes => start_workflow context nodes initial
  | .DynamicWorkflow => start_dynamic_workflow context initial

/-- What every plan does before it looks at its input: the observations of an earlier step are
    dropped, and the accepted time is read once. -/
def begin_plan (now_ms : Nat) : LoopProgram K.toLoopParts Unit := do
  clear_observations
  observe_accepted_time now_ms
  let before := (← get).tasks
  onTasks fun tasks => tasks.wake_expired_timers now_ms
  if before.woken (← get).tasks then observe_local_runnable_tasks

def plan_payload : NormalizedPayload → DriverProgram K PlannedStep
  | .ConfigureOperation config => plan_configure config
  | .StartOperation entry initial => plan_start context entry initial
  | .ResolveEffect effect_id outcome => plan_resolve_effect context effect_id outcome
  | .DeliverSignal delivery => plan_signal context delivery
  | .ChildCompleted completed => plan_child_completed context completed
  | .HostControl command => plan_host_control context command

def plan_inner : DriverProgram K PlannedStep := do
  engine_if_any (begin_plan context.input.observed_at_ms)
  plan_payload context context.input.input

/-- The first fault of a driver is the one it keeps. -/
def poison_with {α : Type} (message : String) : DriverProgram K α := do
  let fault : KernelFault := (← get).poison.getD ⟨.TransactionConflict,message⟩
  modify fun driver => { driver with staged := none, poison := some fault }
  throw (.fault fault)

/-- Hand the observations of the plan over and stage its focus. -/
def stage_plan (step : PlannedStep) : DriverProgram K PlannedStep := do
  let driver ← get
  let observations := match driver.engine with
    | some engine => engine.observations
    | none => []
  set { driver with
    engine := driver.engine.map fun engine : Engine K => { engine with observations := [] }
    staged := some ⟨context.step_seq,step.root_kind,step.focus⟩ }
  pure { step with observations }

/-- Plan one input. The focus does not move before the commit is noted. -/
def plan (context : PlanContext) : DriverProgram K PlannedStep := do
  let driver ← get
  if let some fault := driver.poison then throw (.fault fault)
  if let some staged := driver.staged then
    poison_with s!"the driver still holds the plan of step {staged.step_seq}; its transition never committed while the semantic kernel already advanced under it, so this runtime no longer describes the journal — rebuild from the records"
  let step ← plan_inner context
  stage_plan context step

/-- Install the staged fold once the record is committed. -/
def note_committed (step_seq : Nat) : DriverProgram K Unit := do
  let driver ← get
  if let some fault := driver.poison then throw (.fault fault)
  match driver.staged with
  | none => poison_with s!"step {step_seq} committed, but the driver planned no such step"
  | some staged =>
    set { driver with staged := none }
    if staged.step_seq ≠ step_seq then
      poison_with s!"step {step_seq} committed, but the driver planned step {staged.step_seq}"
    modify fun driver => { driver with root_kind := staged.root_kind.or driver.root_kind, focus := staged.focus }

/-- Plan and fold a record that is already durable. -/
def fold : DriverProgram K PlannedStep := do
  let step ← plan context
  note_committed context.step_seq
  pure step

end Deepstrike.Driver

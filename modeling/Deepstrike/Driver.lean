import Deepstrike.LoopHost

/-!
The canonical operation driver: its ledgers beside the loop, the construction of the loop from a
configuration, and the projection of one loop action onto the closed disposition of a step.
-/
namespace Deepstrike.Driver
open Wire Tasks Vocabulary Components Record
open Transaction Loop

/-- Where the body behind a handle lives. -/
inductive Residency where
  | Resident | Collapsed
  | External (payload_ref : String) (digest : Digest) (original_size : Nat)
  | PagedOut (payload_ref : String) (digest : Digest)
  deriving DecidableEq,Repr

def Residency.label : Residency → String
  | .Resident => "resident"
  | .Collapsed => "collapsed"
  | .External .. => "external"
  | .PagedOut .. => "paged_out"

/-- The locator and the digest of a body the host holds, with the size it declared. -/
def Residency.reference : Residency → Option (String × Digest × Option Nat)
  | .External payload_ref digest original_size => some (payload_ref,digest,some original_size)
  | .PagedOut payload_ref digest => some (payload_ref,digest,none)
  | .Resident | .Collapsed => none

inductive HandleKind where
  | ToolResult | MemoryPage
  deriving DecidableEq,Repr

inductive ChildFailurePolicy where
  | Propagate | Isolate | Restart | Retry | Ignore
  deriving DecidableEq,Repr

def supervision_label : ChildFailurePolicy → String
  | .Propagate => "propagate"
  | .Isolate => "isolate"
  | .Restart => "restart"
  | .Retry => "retry"
  | .Ignore => "ignore"

structure SupervisionEvent where
  attempt : Nat
  strategy : ChildFailurePolicy
  reason : String
  relaunched : Bool
  deriving DecidableEq,Repr

/-- A P1 request that was refused on its own; the transition it rode on still commits. -/
structure SyscallRejection where
  operation : String
  subject : Option TaskId
  reason : String
  deriving DecidableEq,Repr

def SyscallRejection.by (rejection : SyscallRejection) (caller : TaskId) : SyscallRejection :=
  { rejection with subject := some caller }

/-- What one local message exchange did: the condition it fired, and its answer. -/
structure IpcReply (Ledger : Type) where
  ledger : Ledger
  fired : Option WaitCondition
  answer : Except SyscallRejection String

/-- The parts of the loop, and what the driver and the kernel around it call besides: canonical
    bytes, configuration, and the operations of the context manager and of the task ledger that
    only the driver uses. -/
structure Parts extends LoopParts where
  codec : Codec PlannedStep
  resolve : KernelTransaction.Resolver
  -- The loop an operation is built on.
  new_ctx : ResolvedOperationConfig → Ctx
  new_router : ResolvedOperationConfig → Router
  new_entropy : ResolvedOperationConfig → Entropy
  new_ledger : ResolvedOperationConfig → Ledger
  core_governance : ResolvedOperationConfig → Option Gov
  unlock_descriptor : ResolvedOperationConfig → String → Json
  agent_run_spec : LogicalAgentSpec → AgentRunSpec
  logical_agent_run_spec : AgentRunSpec → LogicalAgentSpec
  build_core_spec : List WireNode → Except KernelFault Unit
  seed_ctx : Json → Nat → Ctx → List KernelObservation × Ctx
  seed_ledger : Json → Ledger → Ledger
  preloads_history : Json → Bool
  enable_recall : Nat → Ctx → Ctx
  sprint : Ctx → Nat
  -- The context manager behind effects and syscalls.
  set_observed_prompt_tokens : Nat → Ctx → Ctx
  absorb_provider_compaction : Json → Ctx → Ctx
  absorb_cleared_tool_results : List CallId → Ctx → Ctx
  set_pending_assistant_replay : Option Json → Ctx → Ctx
  push_history_after_tool_results : CoreMessage → Nat → Ctx → Ctx
  note_memory_expanded : String → Ctx → Ctx
  note_memory_read : String → Ctx → Ctx
  push_recalled : List (String × String) → Ctx → Ctx
  recall_index_line : MemoryRecall → String
  derive_recall_lifecycle : Nat → String → List MemoryRecall → Nat → MemoryPolicy → List KernelObservation
  check_write : MemoryPolicy → String → Nat → Except String Unit
  malformed_record_id : String → Option String
  set_payload_residency : HandleId → HandleKind → Nat → Residency → Ctx → Option Residency × Ctx
  payload_residency : Ctx → HandleId → Option Residency
  note_read_back : HandleId → Ctx → Ctx
  dependency_body : Ctx → TaskId → Option String
  unreadable_object : TaskId → HandleId → Nat → Ctx → Ledger → Option String
  unusable_payload_ref : String → Option String
  check_payload_policy : ResolvedOperationConfig → ToolResultPayload → Except KernelFault Unit
  content_digest : String → Digest
  encode_messages : List CoreMessage → Except String String
  decode_syscall : ToolCall → Except SyscallRejection SyscallRequest
  update_task : Json → Ctx → Ctx
  skill_available : Ctx → String → Bool
  skill_violation : Ctx → Ledger → TaskId → String → Option String
  activate_skill_leased : String → Option Nat → Ctx → Ctx
  retract_refused_skill : String → Ctx → Ctx
  local_ipc : Json → TaskId → Nat → Ctx → TaskTable → Ledger → IpcReply Ledger
  -- Launches and supervision.
  launch_spec : OperationId → WorkflowSpawnInfo → Ctx → TaskTable → Except KernelFault Json
  spawn_info_for_agent : List WireNode → RunRest → TaskId → Option WorkflowSpawnInfo
  supervision : Ledger → TaskId → ChildFailurePolicy × Option Nat
  relaunches : Ledger → TaskId → Nat
  note_supervision : TaskId → SupervisionEvent → Ledger → Ledger
  reset_usage : TaskId → Ledger → Ledger
  -- Host commands.
  apply_policy_patch : Json → Nat → ResolvedOperationConfig → Except String (Nat × ResolvedOperationConfig)
  live_policy_label : Json → String
  capability_patch : Json → Nat → Ctx → List KernelObservation × Ctx
  knowledge_mutation : Json → Nat → Ctx → Except String (List KernelObservation × Ctx)
  seed_knowledge : Json → Nat → Ctx → Except String (List KernelObservation × Ctx)
  skill_activation : Json → Nat → Ledger → Ctx → Except KernelFault Ctx
  check_append_plan : Json → List WireNode → Except String Unit
  check_replay_fact : Json → Except String Unit
  -- What a checkpoint keeps of each part.
  CtxState : Type
  RouterState : Type
  EntropyState : Type
  LedgerState : Type
  project_ctx : Nat → Ctx → CtxState
  restore_ctx : CtxState → Ctx → Except KernelFault Ctx
  project_router : Router → RouterState
  restore_router : RouterState → Router → Except KernelFault Router
  project_entropy : Entropy → EntropyState
  restore_entropy : EntropyState → Entropy → Except KernelFault Entropy
  project_ledger : TaskTable → Ledger → LedgerState
  restore_ledger : ResolvedOperationConfig → Option Nat → Option Nat → TaskTable → LedgerState → Ledger → Except KernelFault Ledger
  node_status : List WireNode → RunRest → Nat → Json
  active_agent : List WireNode → RunRest → Nat → Option TaskId
  restore_run : List WireNode → List (Json × Option TaskId × Option JoinResult) → Except KernelFault RunRest

/-- The engine of a driver over these parts. -/
abbrev Engine (K : Parts) := LoopStateMachine K.toLoopParts

structure PendingProviderCall where
  task_id : TaskId
  exposed_tools : OrdSet

/-- What the kernel authored for a pending `PersistMemory`. The turn of a model-facing write waits
    on its outcome; the author of a child's write has already completed. -/
structure AuthoredMemoryWrite where
  binding_id : String
  name : String
  kind : MemoryKind
  size_bytes : Nat
  model_facing : Bool
  deriving DecidableEq,Repr

structure AuthoredMemoryQuery where
  binding_id : String
  text : String
  requested_k : Nat
  record_id : Option String
  recalled : Bool
  deriving DecidableEq,Repr

structure PendingPayloadLoad where
  handle_id : HandleId
  digest : Digest
  original_size : Option Nat
  deriving DecidableEq,Repr

structure StagedFocus where
  step_seq : Nat
  root_kind : Option RootKind
  focus : Option ExecutionFocus
  deriving DecidableEq,Repr

/-- The live half of the configuration and the revision its writers race on. -/
structure LivePolicyState where
  revision : Nat
  config : ResolvedOperationConfig
  deriving DecidableEq,Repr

/-- `CanonicalOperationDriver`: the loop, and the ledgers of what it has in flight. -/
structure OperationDriver (K : Parts) where
  engine : Option (Engine K)
  root_kind : Option RootKind
  focus : Option ExecutionFocus
  workflow_id : Option WorkflowId
  node_ids : List NodeId
  workflow_nodes : List WireNode
  attempts : OrdMap AttemptId
  provider_calls : OrdMap PendingProviderCall
  pending_memory_writes : OrdMap AuthoredMemoryWrite
  pending_memory_queries : OrdMap AuthoredMemoryQuery
  recall_query : Option AuthoredMemoryQuery
  pending_payload_loads : OrdMap PendingPayloadLoad
  consumed_calls : OrdSet
  policy : Option LivePolicyState
  loaded_contract_id : Option String
  staged : Option StagedFocus
  poison : Option KernelFault

def OperationDriver.new (K : Parts) : OperationDriver K where
  engine := none
  root_kind := none
  focus := none
  workflow_id := none
  node_ids := []
  workflow_nodes := []
  attempts := ∅
  provider_calls := ∅
  pending_memory_writes := ∅
  pending_memory_queries := ∅
  recall_query := none
  pending_payload_loads := ∅
  consumed_calls := ∅
  policy := none
  loaded_contract_id := none
  staged := none
  poison := none

/-- A program over the driver; a halt keeps what the driver had already become. -/
abbrev DriverProgram (K : Parts) (α : Type) := EStateM Halt (OperationDriver K) α

variable {K : Parts} {α : Type}

def refuseWith (code : KernelFaultCode) (message : String) : DriverProgram K α := throw (.fault ⟨code,message⟩)

/-- Run a transition of the loop. -/
def engine_mut (program : LoopProgram K.toLoopParts α) : DriverProgram K α := fun driver =>
  match driver.engine with
  | none =>
    .error (.fault ⟨.InvalidLifecycle,"the operation has no genesis configuration, so it has no semantic kernel to drive"⟩) driver
  | some engine =>
    match program engine with
    | .ok value engine => .ok value { driver with engine := some engine }
    | .error halt engine => .error halt { driver with engine := some engine }

/-- Run a transition of the loop where there is one. -/
def engine_if_any (program : LoopProgram K.toLoopParts Unit) : DriverProgram K Unit := do
  if (← get).engine.isSome then engine_mut program

/-- A structured refusal becomes a value; a panic stays one. -/
def attempt (program : DriverProgram K α) : DriverProgram K (Except KernelFault α) := fun driver =>
  match program driver with
  | .ok value driver => .ok (.ok value) driver
  | .error (.fault fault) driver => .ok (.error fault) driver
  | .error (.panic site) driver => .error (.panic site) driver

variable (driver : OperationDriver K)

def OperationDriver.workflow_active : Bool :=
  match driver.engine with
  | some engine => engine.workflow.isSome
  | none => false

def root_task_id : TaskId := "root"

def core_quota (quota : ResourceQuota) : Option ResourceQuota := if quota = ResourceQuota.default then none else some quota

variable (config : ResolvedOperationConfig)

/-- Install the live-mutable policies. A policy the operation never declared is not installed. -/
def install_live_policies (engine : Engine K) : Engine K :=
  { engine with
    policies := { engine.policies with
      resource_quota := (core_quota config.resource_quota).or engine.policies.resource_quota
      provider_recovery_attempt_limit := config.recovery_policy.provider_recovery_attempts
      output_recovery_attempt_limit := config.recovery_policy.output_recovery_attempts }
    governance := (K.core_governance config).or engine.governance
    signal_router := K.new_router config }

/-- The loop of an operation, from the configuration its genesis record froze. -/
def build_engine : Engine K :=
  install_live_policies config
    { phase := .Reason
      turn := 0
      ctx := K.new_ctx config
      tools := config.tool_catalog
      observations := []
      policy := config.execution_policy.budget
      policies := ⟨none,config.execution_policy.repeat_fuse,2,3,config.execution_policy.criteria_gate_enabled⟩
      total_tokens := 0
      budget_grant := config.budget_grant
      local_rounds_completed := 0
      pending_pace := none
      pending_termination := none
      recovery_attempts := 0
      output_recovery_attempts := 0
      pending_output_truncated := false
      adjudicated_turn := none
      milestone := MilestoneTracker.new
      run_spec := none
      tasks := [Tcb.root "root"]
      ledger := K.seed_child_budget config.budget_grant (K.new_ledger config)
      governance := none
      exposed_tool_names := none
      memory_write_times := []
      signal_router := K.new_router config
      delivered_signals_len := 0
      started_at_ms := none
      last_now_ms := none
      suspend_state := none
      pending_denied_results := []
      workflow := none
      root_workflow := false
      dynamic_workflow_open := false
      pending_workflow_spawn := none
      pending_preempt := none
      pending_host_effects := []
      active_host_effect := none
      deferred_action := none
      repeat_sig := none
      repeat_count := 0
      criteria_gate_fired := false
      entropy := K.new_entropy config }

def core_milestone_contract (contract : VerificationContract) (config : ResolvedOperationConfig) : List MilestonePhase :=
  contract.phases.map fun phase => ⟨phase.phase_id,[],phase.unlocks.map (K.unlock_descriptor config)⟩

def require_effect_support (tag : EffectKindTag) : DriverProgram K Unit :=
  if config.supports tag then pure ()
  else refuseWith .UnsupportedEffect
    s!"this operation's host does not declare support for {tag.as_str} effects, so the transition that would publish one is refused before anything moves"

def require_root_kind : DriverProgram K RootKind := do
  match (← get).root_kind with
  | some kind => pure kind
  | none => refuseWith .InvalidLifecycle "no root has started, so there is nothing to advance"

variable (spec : Option LogicalAgentSpec)

/-- The dangling contract a run specification names, if any. -/
def unknown_contract : Option String := do
  let id ← (← spec).verification_contract_id
  if (config.verification_contract id).isSome then none
  else some s!"the run spec names verification contract {id.quote}, which this operation's catalog does not declare; a contract reference that resolves to nothing is a milestone gate the run believes it has (§7.3)"

def require_known_contract : DriverProgram K Unit :=
  match unknown_contract config spec with
  | some message => refuseWith .InvalidConfig message
  | none => pure ()

/-- The first dangling contract of a batch of nodes. -/
def unknown_node_contract (nodes : List WireNode) : Option String :=
  nodes.findSome? fun node => unknown_contract config node.run_spec

/-- Install the phase cascade a contract reference selects. -/
def load_verification_contract : DriverProgram K Unit := do
  match (spec.bind LogicalAgentSpec.verification_contract_id).bind config.verification_contract with
  | none => pure ()
  | some contract =>
    require_effect_support config .EvaluateMilestone
    engine_mut (modify fun e => { e with milestone := ⟨core_milestone_contract (K := K) contract config,0,0⟩ })
    modify fun driver => { driver with loaded_contract_id := some contract.contract_id }

/-- `wf-node{N}` and `wf-node{N}-i{k}` name the node `N`. -/
def parse_node_index (agent_id : TaskId) : Option Nat :=
  match agent_id.toList with
  | 'w' :: 'f' :: '-' :: 'n' :: 'o' :: 'd' :: 'e' :: rest =>
    let digits := rest.takeWhile Char.isDigit
    if digits.isEmpty then none
    else some (digits.foldl (fun index digit => 10*index+(digit.toNat - '0'.toNat)) 0)
  | _ => none

def OperationDriver.node_id_for (agent_id : TaskId) : NodeId :=
  ((parse_node_index agent_id).bind fun index => driver.node_ids[index]?).getD agent_id

/-- The task whose turn issues provider calls: the agent in focus, or the parent of the workflow
    in focus. -/
def OperationDriver.turn_task_id : TaskId :=
  match (driver.staged.bind StagedFocus.focus).or driver.focus with
  | some (.AgentTurn task_id) => task_id
  | some (.WorkflowController _ parent_task_id) => parent_task_id.getD root_task_id
  | none => root_task_id

def OperationDriver.usage_report : UsageReport :=
  match driver.engine with
  | some engine => ⟨engine.total_tokens,engine.turn⟩
  | none => ⟨0,0⟩

def completed_outcome (outcome : WorkflowNodeOutcome) : Bool :=
  match outcome.status with
  | .Completed | .CompletedPartial => true
  | .Failed | .SkippedUpstreamFailed => false

def workflow_outcomes (observations : List KernelObservation) : Option (List WorkflowNodeOutcome) :=
  observations.findSome? fun
    | .WorkflowCompleted _ outcomes => some outcomes
    | _ => none

/-- The terminal of a root workflow, from the outcome the loop has just observed. -/
def OperationDriver.root_workflow_terminal : Option KernelTerminal := do
  let workflow_id ← driver.workflow_id
  let outcomes ← workflow_outcomes (← driver.engine).observations
  let named := fun outcomes : List WorkflowNodeOutcome => outcomes.map fun outcome => driver.node_id_for outcome.node_id
  let failed := named (outcomes.filter fun outcome => !completed_outcome outcome)
  some (.Workflow workflow_id (if failed.isEmpty then .Completed else .Failed) (named (outcomes.filter completed_outcome)) failed
    driver.usage_report)

def agent_terminal (result : LoopResult) : KernelTerminal :=
  let usage : UsageReport := ⟨result.total_tokens_used,result.turns_used⟩
  match result.termination with
  | .UserAbort => .Cancelled .User usage
  | .Error => .Failed .InvariantViolated "the agent loop ended in an error state" usage
  | termination => .Agent termination result.final_message result.pace_decision usage

/-- One child launch under the kernel's identities; the attempt becomes the live one. -/
def task_launch_attempt (operation_id : OperationId) (step_seq : Nat) (info : WorkflowSpawnInfo) (attempt : Nat) :
    DriverProgram K TaskLaunch := do
  let attempt_id := s!"{info.agent_id}:attempt:{attempt}"
  let launch_token := if attempt = 1 then s!"{operation_id}:step:{step_seq}:launch:{info.agent_id}"
    else s!"{operation_id}:step:{step_seq}:launch:{info.agent_id}:attempt:{attempt}"
  modify fun driver => { driver with attempts := driver.attempts.insert info.agent_id attempt_id }
  let spec ← engine_mut do
    let e ← get
    MonadExcept.ofExcept (refuse (K.launch_spec operation_id info e.ctx e.tasks))
  pure ⟨info.agent_id,attempt_id,launch_token,(← get).node_id_for info.agent_id,info.goal,spec⟩

def task_launches (operation_id : OperationId) (step_seq : Nat) : List WorkflowSpawnInfo → DriverProgram K (List TaskLaunch)
  | [] => pure []
  | node :: rest => do
    let launch ← task_launch_attempt operation_id step_seq node 1
    let launches ← task_launches operation_id step_seq rest
    pure (launch :: launches)

/-- The longest prefix of whole characters within a number of bytes. -/
def truncate_on_char_boundary (text : String) (max_bytes : Nat) : String := String.ofList (fit max_bytes text.toList)
where
  fit : Nat → List Char → List Char
    | _,[] => []
    | room,char :: rest => if char.utf8Size ≤ room then char :: fit (room-char.utf8Size) rest else []

variable (context : PlanContext)

def page_out_effect (summary : Option String) (archived : List CoreMessage) (effect_index : Nat) :
    DriverProgram K EffectKind := do
  match K.encode_messages archived with
  | .error error => refuseWith .MalformedEnvelope s!"archived history is not serialisable: {error}"
  | .ok content =>
    let preview := summary.getD (truncate_on_char_boundary content context.config.preview_bytes)
    let handle_id := s!"{context.input.operation_id}:step:{context.step_seq}:page-out:{effect_index}"
    pure (.ArchivePageOut handle_id ⟨K.content_digest content,content.utf8ByteSize,content,preview⟩)

def mint_effect (effect : EffectKind) (effect_index : Nat) : KernelEffect :=
  ⟨mint_effect_id context.input.operation_id context.step_seq effect_index,context.input.input_id,effect⟩

/-- An archive the host cannot perform is abandoned, one after the other, until the continuation
    they held comes up. The bound is the number of durability effects the loop holds. -/
def abandon_unsupported (supported : Bool) : Nat → LoopAction → LoopProgram K.toLoopParts LoopAction
  | 0,action => pure action
  | bound+1,action =>
    match action,supported with
    | .ArchivePageOut _,false => do
      let action ← abandon_page_out_archive "this operation's host declares no archive_page_out support"
      abandon_unsupported supported bound action
    | action,_ => pure action

/-- A kernel recall becomes a query in the name of the task whose turn it is. -/
def recall_effect (text : String) (requested_k : Nat) : DriverProgram K EffectKind := do
  match context.config.memory_access with
  | some binding =>
    if binding.read then
      let driver ← get
      set { driver with recall_query := some ⟨binding.binding_id,text,requested_k,none,true⟩ }
      let sprint := match driver.engine with
        | some engine => K.sprint engine.ctx
        | none => 0
      pure (.QueryMemory binding ⟨text,[],none,context.input.observed_at_ms,.KernelRecall driver.turn_task_id sprint⟩ requested_k)
    else unreadable
  | none => unreadable
where
  unreadable : DriverProgram K EffectKind :=
    refuseWith .InvalidLifecycle "the kernel owed a memory recall to an operation that cannot read memory"

def require_loaded_contract : DriverProgram K String := do
  match (← get).loaded_contract_id with
  | some id => pure id
  | none => refuseWith .InvalidLifecycle "the semantic kernel asked for a milestone verdict, but this operation installed no verification contract; a milestone request names the (contract_id, phase_id) pair the host looks its verifier up by (§7.8)"

/-- What a published effect leaves in the driver's own ledgers. -/
def note_published (effect_id : EffectId) (effect : EffectKind) : DriverProgram K Unit :=
  match effect with
  | .CallProvider _ tools =>
    modify fun driver => { driver with
      provider_calls := driver.provider_calls.insert effect_id ⟨driver.turn_task_id,.ofList (tools.map ToolSchema.name)⟩ }
  | .QueryMemory .. =>
    modify fun driver => match driver.recall_query with
      | some recalled => { driver with recall_query := none, pending_memory_queries :=
        driver.pending_memory_queries.insert effect_id recalled }
      | none => driver
  | .SpawnTasks tasks _ => engine_if_any (mark_tasks_starting (tasks.map TaskLaunch.task_id))
  | _ => pure ()

/-- The effect a loop action asks for, or the disposition it already is. -/
def effect_of (root_kind : RootKind) (effect_index : Nat) : LoopAction →
    DriverProgram K (StepDisposition ⊕ EffectKind)
  | .AwaitingResume => do
    match root_kind,(← get).root_workflow_terminal with
    | .Workflow,some terminal => pure (.inl (.Terminal terminal))
    | _,_ => pure (.inl (.Effects []))
  | .Done result => pure (.inl (.Terminal (agent_terminal result)))
  | .CallLLM rendered tools => pure (.inr (.CallProvider rendered tools))
  | .ExecuteTools calls => pure (.inr (.ExecuteTools calls))
  | .RequestApproval requests => pure (.inr (.RequestApproval requests))
  | .SpawnWorkflow nodes budget => do
    let tasks ← task_launches context.input.operation_id context.step_seq nodes
    pure (.inr (.SpawnTasks tasks budget))
  | .PreemptSubAgents agent_ids reason => do
    let driver ← get
    let attempts := agent_ids.filterMap fun id => driver.attempts[id]?.map fun attempt_id => ⟨id,attempt_id⟩
    pure (.inr (.PreemptTasks attempts reason))
  | .EvaluateMilestone phase_id => do
    let contract_id ← require_loaded_contract
    pure (.inr (.EvaluateMilestone contract_id phase_id))
  | .ArchivePageOut page_out => .inr <$> page_out_effect context page_out.summary page_out.archived effect_index
  | .QueryMemory text requested_k => .inr <$> recall_effect context text requested_k

variable (action : LoopAction)

/-- Project one loop action onto the disposition of the step; the second component is the next
    free effect index. -/
def disposition_for_at (root_kind : RootKind) (effect_index : Nat) :
    DriverProgram K (StepDisposition × Nat) := do
  let action ← engine_mut (externalize_pending_host_effect action)
  let action ← engine_mut do
    abandon_unsupported (context.config.supports .ArchivePageOut) ((← get).pending_host_effects.length+1) action
  match ← effect_of context root_kind effect_index action with
  | .inl disposition => pure (disposition,effect_index)
  | .inr effect =>
    require_effect_support context.config effect.tag
    let published := mint_effect context effect effect_index
    note_published published.effect_id effect
    pure (.Effects [published],effect_index+1)

def disposition_for (root_kind : RootKind) : DriverProgram K StepDisposition := do
  let (disposition,_) ← disposition_for_at context action root_kind 0
  pure disposition

/-- The focus behind a step: a finished nested workflow gives the turn back to its parent. -/
def focus_after (root_kind : RootKind) (workflow_finished : Bool) (focus : Option ExecutionFocus) : Option ExecutionFocus :=
  match workflow_finished,root_kind,focus with
  | true,.Agent,some (.WorkflowController _ parent_task_id) => parent_task_id.map ExecutionFocus.AgentTurn
  | _,_,current => current

/-- The shared tail of every transition behind the start. -/
def continue_after_at (root_kind : RootKind) (effect_index : Nat) :
    DriverProgram K (PlannedStep × Nat) := do
  let workflow_finished := match (← get).engine with
    | some engine => (workflow_outcomes engine.observations).isSome
    | none => false
  let (disposition,effect_index) ← disposition_for_at context action root_kind effect_index
  let focus := focus_after root_kind workflow_finished (← get).focus
  pure (⟨some root_kind,focus,[],disposition⟩,effect_index)

def continue_after (root_kind : RootKind) : DriverProgram K PlannedStep := do
  let (step,_) ← continue_after_at context action root_kind 0
  pure step

def OperationDriver.quiet_step : PlannedStep := .quiet driver.root_kind driver.focus
def quiet_step : DriverProgram K PlannedStep := do pure (← get).quiet_step

end Deepstrike.Driver

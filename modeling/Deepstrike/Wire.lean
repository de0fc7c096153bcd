import Mathlib.Algebra.Group.Int.Defs
import Mathlib.Algebra.GroupWithZero.Nat
import Mathlib.Data.List.Basic
import Std.Data.ExtTreeMap
import Std.Data.ExtTreeSet

/-!
The data that crosses the canonical wire: branded identifiers, the closed fault and
effect unions, the five input classes and the configuration facts the kernel reads.
JSON values travel as their canonical text; a section of the configuration that only
one component reads travels as the text of that section.
-/
namespace Deepstrike.Wire

/-- An ordered map of the source (`BTreeMap` over a branded identifier), and an ordered set. -/
abbrev OrdMap (V : Type) := Std.ExtTreeMap String V compare
abbrev OrdSet := Std.ExtTreeSet String compare

abbrev OperationId := String
abbrev InputId := String
abbrev EffectId := String
abbrev TaskId := String
abbrev AttemptId := String
abbrev NodeId := String
abbrev CallId := String
abbrev HandleId := String
abbrev LaunchToken := String
abbrev PrepareToken := String
abbrev WorkflowId := String
abbrev Digest := String
/-- The canonical text of a JSON value. -/
abbrev Json := String

inductive KernelFaultCode where
  | MalformedEnvelope | OperationMismatch | ClockRegression | InvalidLifecycle | InvalidConfig
  | InvalidAuthority | ResourceLimitExceeded | DuplicateInputConflict | UnexpectedEffectOutcome
  | TransactionConflict | CheckpointIncompatible | CheckpointCorrupted | RecordCorrupted
  | CheckpointRequired | UnsupportedEffect
  deriving DecidableEq,Repr

structure KernelFault where
  code : KernelFaultCode
  message : String
  deriving DecidableEq,Repr

inductive OperationLifecycle where
  | Created | Configured | Running | Suspended | Completed | Cancelled | Failed
  deriving DecidableEq,Repr

def OperationLifecycle.is_terminal : OperationLifecycle → Bool
  | .Completed | .Cancelled | .Failed => true
  | _ => false

def OperationLifecycle.debug : OperationLifecycle → String
  | .Created => "Created"
  | .Configured => "Configured"
  | .Running => "Running"
  | .Suspended => "Suspended"
  | .Completed => "Completed"
  | .Cancelled => "Cancelled"
  | .Failed => "Failed"

inductive EffectKindTag where
  | CallProvider | ExecuteTools | RequestApproval | SpawnTasks | PreemptTasks | PersistMemory
  | QueryMemory | ArchivePageOut | LoadPayload | EvaluateMilestone
  deriving DecidableEq,Repr

def EffectKindTag.as_str : EffectKindTag → String
  | .CallProvider => "call_provider"
  | .ExecuteTools => "execute_tools"
  | .RequestApproval => "request_approval"
  | .SpawnTasks => "spawn_tasks"
  | .PreemptTasks => "preempt_tasks"
  | .PersistMemory => "persist_memory"
  | .QueryMemory => "query_memory"
  | .ArchivePageOut => "archive_page_out"
  | .LoadPayload => "load_payload"
  | .EvaluateMilestone => "evaluate_milestone"

inductive Role where
  | System | User | Assistant | Tool
  deriving DecidableEq,Repr

structure ToolCall where
  id : CallId
  name : String
  arguments : Json
  deriving DecidableEq,Repr

structure ToolSchema where
  name : String
  description : String
  parameters : Json
  deriving DecidableEq,Repr

/-- One content part; parts other than a tool result travel as their durable text. -/
inductive ContentPart where
  | ToolResult (call_id : CallId) (output : String) (is_error : Bool) (durable_content : Option Json)
  | Other (durable : Json)
  deriving DecidableEq,Repr

inductive Content where
  | Text (text : String)
  | Parts (parts : List ContentPart)
  deriving DecidableEq,Repr

structure CoreMessage where
  role : Role
  content : Content
  tool_calls : List ToolCall
  deriving DecidableEq,Repr

/-- The error kinds that the canonical driver and the gates build. The other kinds of the
    semantic vocabulary have no producer on this path. -/
inductive ToolErrorKind where
  | Recoverable | Fatal | GovernanceDenied
  deriving DecidableEq,Repr

structure ToolResult where
  call_id : CallId
  output : Content
  durable_content : Option Json
  is_error : Bool
  is_fatal : Bool
  error_kind : Option ToolErrorKind
  deriving DecidableEq,Repr

structure RenderedContext where
  system_text : String
  turns : List CoreMessage
  estimated_tokens : Nat
  deriving DecidableEq,Repr

inductive MemoryKind where
  | User | Feedback | Project | Reference
  deriving DecidableEq,Repr

structure MemoryBinding where
  binding_id : String
  read : Bool
  write : Bool
  deriving DecidableEq,Repr

/-- Who asked for a P1 syscall; derived by the kernel, never declared by a host. -/
inductive SyscallCausation where
  | ProviderTool (provider_effect_id : EffectId) (call_id : CallId) (task_id : TaskId)
  | ChildAttempt (task_id : TaskId) (attempt_id : AttemptId) (request_seq : Nat)
  | KernelRecall (task_id : TaskId) (sprint : Nat)
  deriving DecidableEq,Repr

structure CanonicalMemoryWrite where
  name : String
  kind : MemoryKind
  content : String
  description : Option String
  evidence_refs : List String
  accepted_at_ms : Nat
  causation : SyscallCausation
  deriving DecidableEq,Repr

structure CanonicalMemoryQuery where
  text : String
  kinds : List MemoryKind
  record_id : Option String
  accepted_at_ms : Nat
  causation : SyscallCausation
  deriving DecidableEq,Repr

structure ApprovalRequest where
  call_id : CallId
  tool : String
  arguments : Json
  reason : String
  deriving DecidableEq,Repr

/-- The part of a workflow spawn descriptor that a launch carries to the host. -/
structure WorkflowSpawnInfo where
  agent_id : TaskId
  goal : String
  role : String
  isolation : String
  context_inheritance : String
  settings : Json
  input_agent_ids : List TaskId
  deriving DecidableEq,Repr

structure TaskLaunch where
  task_id : TaskId
  attempt_id : AttemptId
  launch_token : LaunchToken
  node_id : NodeId
  goal : String
  spec : Json
  deriving DecidableEq,Repr

structure TaskAttemptRef where
  task_id : TaskId
  attempt_id : AttemptId
  deriving DecidableEq,Repr

structure PageOutPayload where
  digest : Digest
  original_size : Nat
  content : String
  preview : String
  deriving DecidableEq,Repr

inductive EffectKind where
  | CallProvider (context : RenderedContext) (tools : List ToolSchema)
  | ExecuteTools (calls : List ToolCall)
  | RequestApproval (requests : List ApprovalRequest)
  | SpawnTasks (tasks : List TaskLaunch) (budget : Option Json)
  | PreemptTasks (attempts : List TaskAttemptRef) (reason : String)
  | PersistMemory (binding : MemoryBinding) (memory : CanonicalMemoryWrite)
  | QueryMemory (binding : MemoryBinding) (query : CanonicalMemoryQuery) (requested_k : Nat)
  | ArchivePageOut (handle_id : HandleId) (payload : PageOutPayload)
  | LoadPayload (handle_id : HandleId) (payload_ref : String)
  | EvaluateMilestone (contract_id : String) (phase_id : String)
  deriving DecidableEq,Repr

def EffectKind.tag : EffectKind → EffectKindTag
  | .CallProvider .. => .CallProvider
  | .ExecuteTools .. => .ExecuteTools
  | .RequestApproval .. => .RequestApproval
  | .SpawnTasks .. => .SpawnTasks
  | .PreemptTasks .. => .PreemptTasks
  | .PersistMemory .. => .PersistMemory
  | .QueryMemory .. => .QueryMemory
  | .ArchivePageOut .. => .ArchivePageOut
  | .LoadPayload .. => .LoadPayload
  | .EvaluateMilestone .. => .EvaluateMilestone

structure KernelEffect where
  effect_id : EffectId
  causation_input_id : InputId
  effect : EffectKind
  deriving DecidableEq,Repr

def KernelEffect.tag (effect : KernelEffect) : EffectKindTag := effect.effect.tag

variable (operation_id : OperationId)

/-- The kernel's identity for the `index`-th effect of a step. -/
def mint_effect_id (step_seq : Nat) (index : Nat) : EffectId :=
  s!"{operation_id}:step:{step_seq}:effect:{index}"
def mint_workflow_id (step_seq : Nat) : WorkflowId :=
  s!"{operation_id}:workflow:{step_seq}"
/-- The token a checkpoint is acknowledged by. -/
def ack_token_for (through_step_seq : Nat) (checkpoint_digest : String) : String :=
  s!"{operation_id}:checkpoint:{through_step_seq}:{checkpoint_digest}"

inductive HostEffectFailureKind where
  | TransportExhausted | ProtocolError | StorageUnavailable | PermissionDenied | ResourceExhausted
  | Unknown
  deriving DecidableEq,Repr

def HostEffectFailureKind.as_str : HostEffectFailureKind → String
  | .TransportExhausted => "transport_exhausted"
  | .ProtocolError => "protocol_error"
  | .StorageUnavailable => "storage_unavailable"
  | .PermissionDenied => "permission_denied"
  | .ResourceExhausted => "resource_exhausted"
  | .Unknown => "unknown"

structure HostEffectFailure where
  kind : HostEffectFailureKind
  message : String
  deriving DecidableEq,Repr

def host_failure_text (failure : HostEffectFailure) : String :=
  if failure.message.isEmpty then failure.kind.as_str else s!"{failure.kind.as_str}: {failure.message}"

inductive ToolResultDisposition where
  | Recoverable | Fatal
  deriving DecidableEq,Repr

inductive ToolResultPayload where
  | Inline (call_id : CallId) (output : String) (is_error : Bool) (disposition : ToolResultDisposition)
      (durable_content : Option Json)
  | External (call_id : CallId) (preview : String) (is_error : Bool) (disposition : ToolResultDisposition)
      (payload_ref : String) (digest : Digest) (original_size : Nat)
  deriving DecidableEq,Repr

structure ToolMeasurement where
  call_id : CallId
  tokens : Nat
  deriving DecidableEq,Repr

structure MemoryRecall where
  record_ref : String
  name : String
  kind : MemoryKind
  content : String
  description : String
  trust : String
  recall_count : Nat
  pinned : Bool
  deriving DecidableEq,Repr

structure ProviderCompleted where
  content : String
  tool_calls : List ToolCall
  replay : Option Json
  observed_input_tokens : Option Nat
  max_tokens_stop : Bool
  provider_compaction : Option Json
  cleared_tool_results : List CallId
  deriving DecidableEq,Repr

inductive TaskLaunchStatus where
  | Started
  | Failed (message : String)
  deriving DecidableEq,Repr

structure ArchiveReceipt where
  handle_id : HandleId
  digest : Digest
  original_size : Nat
  payload_ref : String
  deriving DecidableEq,Repr

structure MemoryCandidateReceipt where
  candidate_id : String
  receipt_id : String
  deriving DecidableEq,Repr

inductive EffectSuccess where
  | ProviderCompleted (completed : ProviderCompleted)
  | ProviderOverflow (observed_input_tokens : Option Nat)
  | Tools (results : List ToolResultPayload) (measurements : List ToolMeasurement)
  | Approval (approved_call_ids denied_call_ids : List CallId)
  | TasksSpawned (attempts : List (TaskId × TaskLaunchStatus))
  | TasksPreempted (attempts : List TaskId)
  | MemoryPersisted (receipt : Option String) (candidate : Option MemoryCandidateReceipt)
  | MemoryQueried (recalls : List MemoryRecall)
  | PageOutArchived (receipt : ArchiveReceipt)
  | PayloadLoaded (handle_id : HandleId) (content : String) (original_size : Nat)
  | MilestoneEvaluated (passed : Bool) (phase_id : String) (reason : Option String)
  deriving DecidableEq,Repr

/-- The effect kind a success resolves; a failure fits every kind. -/
def EffectSuccess.answers : EffectSuccess → EffectKindTag
  | .ProviderCompleted .. | .ProviderOverflow .. => .CallProvider
  | .Tools .. => .ExecuteTools
  | .Approval .. => .RequestApproval
  | .TasksSpawned .. => .SpawnTasks
  | .TasksPreempted .. => .PreemptTasks
  | .MemoryPersisted .. => .PersistMemory
  | .MemoryQueried .. => .QueryMemory
  | .PageOutArchived .. => .ArchivePageOut
  | .PayloadLoaded .. => .LoadPayload
  | .MilestoneEvaluated .. => .EvaluateMilestone

inductive EffectOutcome where
  | Succeeded (result : EffectSuccess)
  | Failed (failure : HostEffectFailure)
  deriving DecidableEq,Repr

/-- The wire name of the success each effect kind expects. -/
def EffectKindTag.expected_success : EffectKindTag → String
  | .CallProvider => "provider"
  | .ExecuteTools => "tools"
  | .RequestApproval => "approval"
  | .SpawnTasks => "tasks_spawned"
  | .PreemptTasks => "tasks_preempted"
  | .PersistMemory => "memory_persisted"
  | .QueryMemory => "memory_queried"
  | .ArchivePageOut => "page_out_archived"
  | .LoadPayload => "payload_loaded"
  | .EvaluateMilestone => "milestone_evaluated"

def KernelEffect.accept_outcome (effect : KernelEffect) : EffectOutcome → Except String Unit
  | .Failed _ => .ok ()
  | .Succeeded success =>
    if success.answers = effect.tag then .ok ()
    else .error s!"effect {effect.effect_id} expects a {effect.tag.expected_success} resolution, got {success.answers.expected_success}"

inductive TerminationReason where
  | Completed | MaxTurns | TokenBudget | Timeout | UserAbort | Error | MilestoneExceeded | ContextOverflow
  | NoProgress
  deriving DecidableEq,Repr

structure UsageReport where
  input_tokens : Nat
  turns : Nat
  deriving DecidableEq,Repr

inductive CancellationReason where
  | User | Deadline | LeaseLost | HostShutdown
  deriving DecidableEq,Repr

inductive WorkflowStatus where
  | Completed | Failed
  deriving DecidableEq,Repr

inductive KernelFailureCode where
  | HostEffectFailed | InvariantViolated
  deriving DecidableEq,Repr

inductive KernelTerminal where
  | Agent (termination : TerminationReason) (final_message : Option CoreMessage) (pace_decision : Option Json)
      (usage : UsageReport)
  | Workflow (workflow_id : WorkflowId) (status : WorkflowStatus) (completed_nodes failed_nodes : List NodeId)
      (usage : UsageReport)
  | Cancelled (reason : CancellationReason) (usage : UsageReport)
  | Failed (code : KernelFailureCode) (message : String) (usage : UsageReport)
  deriving DecidableEq,Repr

/-- A run specification on the wire: its contract reference, and the text of the rest. -/
structure LogicalAgentSpec where
  verification_contract_id : Option String
  settings : Json
  deriving DecidableEq,Repr

/-- A node of a workflow on the wire. -/
structure WireNode where
  node_id : NodeId
  task : String
  depends_on : List NodeId
  run_spec : Option LogicalAgentSpec
  deriving DecidableEq,Repr

inductive RootEntry where
  | Agent (goal : String) (criteria : List String) (run_spec : Option LogicalAgentSpec)
  | Workflow (nodes : List WireNode)
  | DynamicWorkflow
  deriving DecidableEq,Repr

inductive RootKind where
  | Agent | Workflow
  deriving DecidableEq,Repr

inductive ExecutionFocus where
  | AgentTurn (task_id : TaskId)
  | WorkflowController (workflow_id : WorkflowId) (parent_task_id : Option TaskId)
  deriving DecidableEq,Repr

structure MemoryWriteProposal where
  name : String
  kind : MemoryKind
  content : String
  description : Option String
  evidence_refs : List String
  deriving DecidableEq,Repr

structure MemoryQueryProposal where
  text : String
  kinds : List MemoryKind
  record_id : Option String
  limit : Option Nat
  deriving DecidableEq,Repr

/-- `RouteMessage` stands for the two requests that route a handle (to a mailbox, to a channel),
    `ReadLocal` for the three that only read local state. -/
inductive SyscallRequest where
  | SubmitWorkflow (nodes : List WireNode)
  | AppendWorkflowNodes (nodes : List WireNode)
  | ActivateSkill (name : String) (lease_turns : Option Nat)
  | UpdateTask (update : Json)
  | RequestMemoryWrite (proposal : MemoryWriteProposal)
  | RequestMemoryQuery (query : MemoryQueryProposal)
  | PageIn (handle_id : HandleId)
  | RouteMessage (request : Json)
  | ReadLocal (request : Json)
  deriving DecidableEq,Repr

inductive ChildStatus where
  | Completed | Failed | Cancelled
  deriving DecidableEq,Repr

structure ChildResult where
  status : ChildStatus
  output : Option String
  error : Option String
  total_tokens : Nat
  turns : Nat
  deriving DecidableEq,Repr

structure ChildCompleted where
  task_id : TaskId
  attempt_id : AttemptId
  result : ChildResult
  parent_requests : List SyscallRequest
  deriving DecidableEq,Repr

inductive SignalUrgency where
  | Low | Normal | High | Critical
  deriving DecidableEq,Repr

def SignalUrgency.escalated : SignalUrgency → SignalUrgency
  | .Low => .Normal
  | .Normal => .High
  | .High | .Critical => .Critical

structure LogicalSignal where
  signal_id : String
  target : Option TaskId
  urgency : Option SignalUrgency
  escalate_after_ms : Option Nat
  payload : Json
  deriving DecidableEq,Repr

def LogicalSignal.effective_urgency (signal : LogicalSignal) (escalation_enabled : Bool) : SignalUrgency :=
  let urgency := signal.urgency.getD .Normal
  if escalation_enabled && signal.escalate_after_ms == some 0 then urgency.escalated else urgency

structure DeliverSignal where
  delivery_id : String
  attempt : Nat
  signal : LogicalSignal
  deriving DecidableEq,Repr

inductive HostCommand where
  | Cancel (reason : CancellationReason) (pending_call_ids : List CallId)
  | ForceCompact
  | UpdateTask (update : Json)
  | AppendWorkflowNodes (nodes : List WireNode) (plan : Option Json)
  | RecordDynamicWorkflowReplay (fact : Json)
  | CompleteDynamicWorkflow
  | ApplyCapabilityPatch (patch : Json)
  | ApplyKnowledgeMutation (mutation : Json)
  | SeedKnowledge (entries : Json)
  | ApplySkillActivation (activation : Json)
  | ApplyPolicyPatch (patch : Json)
  | UpdateDeadline (deadline_ms : Option Nat)
  | AdmitMemoryWrite (record_id name : String) (content_bytes : Nat)
  deriving DecidableEq,Repr

structure TailBounds where
  soft_records : Nat
  hard_records : Nat
  soft_bytes : Nat
  hard_bytes : Nat
  deriving DecidableEq,Repr

structure SchedulerBudget where
  max_tokens : Nat
  max_turns : Nat
  max_total_tokens : Nat
  max_wall_ms : Option Nat
  deriving DecidableEq,Repr

structure BudgetGrant where
  reservation_id : String
  tokens : Option Nat
  subagents : Option Nat
  rounds : Option Nat
  deriving DecidableEq,Repr

structure ResourceQuota where
  max_concurrent_subagents : Option Nat
  max_total_subagents : Option Nat
  max_spawn_depth : Option Nat
  max_workflow_nodes : Option Nat
  memory_writes_per_window : Option (Nat × Nat)
  deriving DecidableEq,Repr

def ResourceQuota.default : ResourceQuota := ⟨none,none,none,none,none⟩

structure RepeatFuseConfig where
  enabled : Bool
  deny_after : Nat
  terminate_after : Nat
  deriving DecidableEq,Repr

structure ExecutionPolicy where
  budget : SchedulerBudget
  criteria_gate_enabled : Bool
  repeat_fuse : RepeatFuseConfig
  deriving DecidableEq,Repr

structure RecoveryPolicy where
  provider_recovery_attempts : Nat
  output_recovery_attempts : Nat
  deriving DecidableEq,Repr

structure MemoryPolicy where
  recalled : Bool
  retrieval_top_k : Nat
  settings : Json
  deriving DecidableEq,Repr

structure VerificationPhase where
  phase_id : String
  unlocks : List String
  deriving DecidableEq,Repr

structure VerificationContract where
  contract_id : String
  phases : List VerificationPhase
  deriving DecidableEq,Repr

/-- The frozen configuration of one operation. `settings` is the text of the sections that
    only the context manager, the gates and the router read. -/
structure ResolvedOperationConfig where
  max_input_bytes : Nat
  tail_bounds : TailBounds
  host_effect_support : List EffectKindTag
  execution_policy : ExecutionPolicy
  resource_quota : ResourceQuota
  recovery_policy : RecoveryPolicy
  budget_grant : Option BudgetGrant
  tool_catalog : List ToolSchema
  memory_access : Option MemoryBinding
  memory_policy : MemoryPolicy
  verification_contracts : List VerificationContract
  deadline_escalation : Bool
  preview_bytes : Nat
  settings : Json
  deriving DecidableEq,Repr

def ResolvedOperationConfig.supports (config : ResolvedOperationConfig) (tag : EffectKindTag) : Bool :=
  config.host_effect_support.contains tag

def ResolvedOperationConfig.verification_contract (config : ResolvedOperationConfig) (id : String) : Option VerificationContract :=
  config.verification_contracts.find? fun contract => contract.contract_id == id

/-- The compile-time baseline of a binary: the bootstrap tail bound, and the text of everything
    else an operation's configuration is resolved against. -/
structure ConfigDefaults where
  tail_bounds : TailBounds
  settings : Json
  deriving DecidableEq,Repr

inductive WireRejectionKind where
  | Malformed | PolicyViolation
  deriving DecidableEq,Repr

structure WireRejection where
  kind : WireRejectionKind
  message : String
  deriving DecidableEq,Repr

def rejection_fault (rejection : WireRejection) : KernelFault :=
  match rejection.kind with
  | .PolicyViolation => ⟨.InvalidConfig,rejection.message⟩
  | .Malformed => ⟨.MalformedEnvelope,rejection.message⟩

inductive KernelInput where
  | ConfigureOperation (config : Json)
  | StartOperation (entry : RootEntry) (initial_context : Json)
  | ResolveEffect (effect_id : EffectId) (outcome : EffectOutcome)
  | DeliverSignal (delivery : DeliverSignal)
  | ChildCompleted (completed : ChildCompleted)
  | HostControl (command : HostCommand)
  deriving DecidableEq,Repr

structure WireEnvelope where
  operation_id : OperationId
  input_id : InputId
  observed_at_ms : Nat
  input : KernelInput
  deriving DecidableEq,Repr

inductive NormalizedPayload where
  | ConfigureOperation (config : ResolvedOperationConfig)
  | StartOperation (entry : RootEntry) (initial_context : Json)
  | ResolveEffect (effect_id : EffectId) (outcome : EffectOutcome)
  | DeliverSignal (delivery : DeliverSignal)
  | ChildCompleted (completed : ChildCompleted)
  | HostControl (command : HostCommand)
  deriving DecidableEq,Repr

def NormalizedPayload.kind : NormalizedPayload → String
  | .ConfigureOperation _ => "configure_operation"
  | .StartOperation .. => "start_operation"
  | .ResolveEffect .. => "resolve_effect"
  | .DeliverSignal _ | .ChildCompleted _ => "deliver_external_event"
  | .HostControl _ => "host_control"

def NormalizedPayload.admissible_lifecycles : NormalizedPayload → List OperationLifecycle
  | .ConfigureOperation _ => [.Created]
  | .StartOperation .. => [.Configured]
  | .ResolveEffect .. | .DeliverSignal _ | .ChildCompleted _ => [.Running,.Suspended]
  | .HostControl _ => [.Configured,.Running,.Suspended]

structure NormalizedInput where
  operation_id : OperationId
  input_id : InputId
  observed_at_ms : Nat
  input : NormalizedPayload
  deriving DecidableEq,Repr

/-- The genesis arm resolves its configuration against the binary's defaults, once. `resolve` is
    the configuration resolver. -/
def NormalizedInput.normalize (resolve : ConfigDefaults → Json → Except WireRejection ResolvedOperationConfig)
    (envelope : WireEnvelope) (defaults : ConfigDefaults) : Except WireRejection NormalizedInput := do
  let input ← match envelope.input with
    | .ConfigureOperation config => do pure (.ConfigureOperation (← resolve defaults config))
    | .StartOperation entry initial_context => pure (.StartOperation entry initial_context)
    | .ResolveEffect effect_id outcome => pure (.ResolveEffect effect_id outcome)
    | .DeliverSignal delivery => pure (.DeliverSignal delivery)
    | .ChildCompleted completed => pure (.ChildCompleted completed)
    | .HostControl command => pure (.HostControl command)
  pure ⟨envelope.operation_id,envelope.input_id,envelope.observed_at_ms,input⟩

variable (input : NormalizedInput)

def NormalizedInput.is_genesis : Bool :=
  match input.input with
  | .ConfigureOperation _ => true
  | _ => false

/-- The configuration a genesis input freezes. -/
def NormalizedInput.resolved_config : Option ResolvedOperationConfig :=
  match input.input with
  | .ConfigureOperation config => some config
  | _ => none

/-- The effect an input settles. -/
def NormalizedInput.settles : Option EffectId :=
  match input.input with
  | .ResolveEffect effect_id _ => some effect_id
  | _ => none

end Deepstrike.Wire

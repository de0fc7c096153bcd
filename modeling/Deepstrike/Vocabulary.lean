import Deepstrike.Tasks
import Deepstrike.Transaction

/-!
The vocabulary between the loop and its driver: observations, the actions the loop asks for, and
the planned step a driver hands to the transaction. Fractional measurements travel as their text.
-/
namespace Deepstrike.Vocabulary
open Wire Tasks Transaction

/-- The tighter of two ceilings, where `none` is no ceiling. -/
def least (left right : Option Nat) : Option Nat :=
  match left,right with
  | some left,some right => some (min left right)
  | some left,none => some left
  | none,right => right

inductive PressureAction where
  | SnipCompact | MicroCompact | ContextCollapse | AutoCompact
  deriving DecidableEq,Repr

inductive WorkflowNodeStatus where
  | Completed | CompletedPartial | Failed | SkippedUpstreamFailed
  deriving DecidableEq,Repr

structure WorkflowNodeOutcome where
  node_id : TaskId
  status : WorkflowNodeStatus
  termination : Option TerminationReason
  output : Option CoreMessage
  deriving DecidableEq,Repr

/-- `Other` carries the facts that only a part of the engine words: capability and lease changes,
    knowledge sweeps, the entropy heartbeat, the recall lifecycle. -/
inductive KernelObservation where
  | Compressed (turn : Nat) (action : PressureAction) (rho_after : String) (summary : Option String) (archived_count : Nat)
      (invalidates_prefix_at : Option Nat)
  | ContextBudgetExceeded (turn : Nat) (overflow : Json)
  | LifecycleReport (turn : Nat) (metrics : Json)
  | ControlRequestRejected (turn : Nat) (operation : String) (subject : Option String) (reason : String)
  | MilestoneAdvanced (turn : Nat) (phase_id : String) (capabilities_unlocked : List String)
  | MilestoneBlocked (turn : Nat) (phase_id : String) (reason : String)
  | CheckpointTaken (turn : Nat) (history_len : Nat)
  | RepeatFuseTripped (turn : Nat) (signature : String) (count : Nat) (action : String)
  | CriteriaGateFired (turn : Nat) (criteria : List String)
  | AgentProcessChanged (turn : Nat) (agent_id : TaskId) (process : Json) (state : TaskLifecycle)
  | ChildSupervised (turn : Nat) (task_id : TaskId) (attempt : Nat) (strategy reason : String) (terminal relaunched : Bool)
  | LocalRunnableTrace (turn : Nat) (runnable : List String)
  | WorkflowBatchSpawned (turn : Nat) (nodes : List WorkflowSpawnInfo) (budget : Option Json)
  | WorkflowSpawnFailed (turn : Nat) (error : String)
  | WorkflowCompleted (turn : Nat) (node_outcomes : List WorkflowNodeOutcome)
  | AgentPreempted (turn : Nat) (agent_ids : List TaskId) (reason : String)
  | AgentPreemptFailed (turn : Nat) (agent_ids : List TaskId) (reason error : String)
  | RoundPaced (turn : Nat) (round : Nat) (decision : Json)
  | WorkflowNodesSubmitted (turn : Nat) (base count : Nat) (submitter : Option TaskId)
  | DynamicWorkflowReplayRecorded (turn : Nat) (fact : Json)
  | DynamicWorkflowPlanCommitted (turn : Nat) (plan : Json)
  | NodesRejected (turn : Nat) (node_index : Nat) (reason : String)
  | ToolGated (turn : Nat) (call_id : CallId) (tool reason : String)
  | SignalDeliveryDisposed (turn : Nat) (operation_id : OperationId) (delivery_id : String) (attempt : Nat)
      (signal_id disposition : String) (queue_depth : Nat)
  | SignalDisplaced (turn : Nat) (admitted_signal_id displaced_signal_id : String) (queue_depth : Nat)
  | SignalExpired (turn : Nat) (signal_id : String) (queue_depth : Nat)
  | SignalsPending (turn : Nat) (depth : Nat)
  | BudgetExceeded (turn : Nat) (budget : String) (reservation_id : Option String)
  | BudgetUsageReported (operation_id : OperationId) (reservation_id : String) (tokens subagents rounds : Nat)
  | OperationCancelled (turn : Nat) (operation_id : OperationId) (reason : CancellationReason) (pending_call_ids : List CallId)
  | Suspended (turn : Nat) (reason : String) (pending_calls : List String)
  | Resumed (turn : Nat) (approved denied : List String)
  | PageOutArchived (turn : Nat) (action : PressureAction) (summary : Option String) (tier : String) (message_count : Nat)
      (archive_ref : Option String)
  | PageOutArchiveFailed (turn : Nat) (action : PressureAction) (tier : String) (message_count : Nat) (error : String)
  | PayloadResidencyChanged (turn : Nat) (handle_id : HandleId) (left : Option String) (entered : String)
      (payload_ref : Option String) (original_size : Nat)
  | PayloadLoadFailed (turn : Nat) (handle_id : HandleId) (error : String)
  | ApprovalResolutionFailed (turn : Nat) (error : String)
  | MemoryValidationFailed (turn : Nat) (record_id error : String)
  | MemoryWritten (turn : Nat) (record_id scope : String) (kind : MemoryKind) (name : String) (size_bytes : Nat)
  | MemoryWriteFailed (turn : Nat) (record_id error : String)
  | MemoryCandidatePending (turn : Nat) (candidate_id name : String)
  | MemoryQueried (turn : Nat) (scope query : String) (requested_k : Nat)
  | MemoryQueryFailed (turn : Nat) (scope query error : String)
  | SkillAdmitted (turn : Nat) (name : String) (expires_at_turn : Option Nat)
  | LivePolicyChanged (turn : Nat) (policy : String) (revision : Nat)
  | Other (turn : Nat) (fact : Json)
  deriving DecidableEq,Repr

structure LoopResult where
  termination : TerminationReason
  final_message : Option CoreMessage
  turns_used : Nat
  total_tokens_used : Nat
  pace_decision : Option Json
  deriving DecidableEq,Repr

/-- A durability effect of the loop: a compaction's archived messages. -/
structure PendingHostEffect where
  turn : Nat
  action : PressureAction
  summary : Option String
  archived : List CoreMessage
  tier : String
  deriving DecidableEq,Repr

inductive LoopAction where
  | CallLLM (context : RenderedContext) (tools : List ToolSchema)
  | ExecuteTools (calls : List ToolCall)
  | RequestApproval (requests : List ApprovalRequest)
  | SpawnWorkflow (nodes : List WorkflowSpawnInfo) (budget : Option Json)
  | PreemptSubAgents (agent_ids : List TaskId) (reason : String)
  | QueryMemory (text : String) (requested_k : Nat)
  | ArchivePageOut (page_out : PendingHostEffect)
  | Done (result : LoopResult)
  | EvaluateMilestone (phase_id : String)
  | AwaitingResume
  deriving DecidableEq,Repr

inductive LoopPhase where
  | Reason
  | Act (tool_calls : List ToolCall)
  deriving DecidableEq,Repr

inductive SuspendState where
  | AskUser (calls : List ToolCall) (gated_reasons : List (CallId × String))
  | SubAgentAwait (agent_ids : List TaskId)
  deriving DecidableEq,Repr

inductive IdleContinuation where
  | CallProvider | Await
  deriving DecidableEq,Repr

structure AnsweredCall where
  call_id : CallId
  output : String
  is_error : Bool
  deriving DecidableEq,Repr

structure AdjudicatedTurn where
  answered_calls : List AnsweredCall
  idle_continuation : IdleContinuation
  deriving DecidableEq,Repr

/-- The verdict of the syscall trap. -/
inductive Disposition where
  | Allow
  | Deny (stage reason : String)
  | Gate (reason : String)
  | RateLimited (retry_after_ms : Nat)
  | Defer (slot : Nat)
  deriving DecidableEq,Repr

inductive SignalDisposition where
  | InterruptNow | Interrupt | Run | Observe | Queue | Ignore | Dropped
  deriving DecidableEq,Repr

def SignalDisposition.label : SignalDisposition → String
  | .InterruptNow => "interrupt_now"
  | .Interrupt => "interrupt"
  | .Run => "run"
  | .Observe => "observe"
  | .Queue => "queue"
  | .Ignore => "ignore"
  | .Dropped => "dropped"

inductive StepDisposition where
  | Effects (effects : List KernelEffect)
  | Terminal (terminal : KernelTerminal)
  deriving DecidableEq,Repr

def StepDisposition.effects : StepDisposition → List KernelEffect
  | .Effects effects => effects
  | .Terminal _ => []
def StepDisposition.terminal : StepDisposition → Option KernelTerminal
  | .Effects _ => none
  | .Terminal terminal => some terminal

/-- What a driver hands to the transaction: where control is afterwards, what happened, and the
    effects or the terminal. -/
structure PlannedStep where
  root_kind : Option RootKind
  focus : Option ExecutionFocus
  observations : List KernelObservation
  disposition : StepDisposition
  deriving DecidableEq,Repr

def PlannedStep.quiet (root_kind : Option RootKind) (focus : Option ExecutionFocus) : PlannedStep :=
  ⟨root_kind,focus,[],.Effects []⟩

instance : TransitionStep PlannedStep where
  effects step := step.disposition.effects
  terminal step := step.disposition.terminal

end Deepstrike.Vocabulary

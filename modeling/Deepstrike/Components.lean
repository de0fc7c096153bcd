import Deepstrike.Vocabulary

/-!
The components the loop drives and does not look into: the context manager (tokenizer, partitions,
compaction, rendering, skills, knowledge), the governance pipeline, the signal router, the entropy
tracker, the task ledger (capabilities, budgets, mailboxes, supervision) and the scheduling half of
a workflow run. Each is a type with the operations the loop calls on it; no law is assumed of any.
-/
namespace Deepstrike.Components
open Wire Tasks Vocabulary

/-- The first exhausted axis, if any. -/
def should_terminate (budget : SchedulerBudget) (turns total_tokens : Nat) (now_ms started_at_ms : Option Nat) :
    Option TerminationReason :=
  if budget.max_turns ≤ turns then some .MaxTurns
  else if budget.max_total_tokens ≤ total_tokens then some .TokenBudget
  else match budget.max_wall_ms,now_ms,started_at_ms with
    | some limit,some now,some start => if limit ≤ now-start then some .Timeout else none
    | _,_,_ => none

/-- The round contract of a paced loop, and the rest of a run specification. -/
structure AgentRunSpec where
  loop_round : Option Json
  settings : Json
  deriving DecidableEq,Repr

structure MilestonePhase where
  id : String
  criteria : List String
  unlocks : List Json
  deriving DecidableEq,Repr

/-- What a spawn asks for: the child's identity and the rest of its isolation manifest. -/
structure IsolationManifest where
  agent_id : TaskId
  settings : Json
  deriving DecidableEq,Repr

/-- The outcome of routing one signal. -/
structure IngestOutcome where
  disposition : SignalDisposition
  expired_signal_ids : List String
  displaced_signal_id : Option String
  deriving DecidableEq,Repr

/-- A compaction: the tokens it saved, its summary, what it archived, where it broke the prefix. -/
structure Compaction where
  saved : Nat
  summary : Option String
  archived : List CoreMessage
  invalidates_prefix_at : Option Nat
  deriving DecidableEq,Repr

inductive EvictionOp where
  | Snip
  | TimeDecayMicro
  | Collapse (target_tokens : Nat)
  | AutoCompact
  deriving DecidableEq,Repr

/-- An adjudicated `pace` proposal: malformed, or a decision. -/
inductive PaceVerdict where
  | malformed (note : String)
  | decided (stop : Bool) (decision : Json) (acknowledgement : String)
  deriving DecidableEq,Repr

/-- One entropy measurement: the observations it makes, and the signal of an alert that is to be
    routed to the model. -/
structure EntropyReading where
  observations : List KernelObservation
  alert : Option LogicalSignal
  deriving DecidableEq,Repr

structure LoopParts where
  Ctx : Type
  Gov : Type
  Router : Type
  Entropy : Type
  Ledger : Type
  RunRest : Type
  -- The context manager.
  count_message : Ctx → CoreMessage → Nat
  count : Ctx → String → Nat
  push_history : CoreMessage → Nat → Ctx → Ctx
  pending_tool_calls : Ctx → List ToolCall
  history_len : Ctx → Nat
  push_signal : String → Ctx → Ctx
  signals_len : Ctx → Nat
  drain_signals : Nat → Ctx → Ctx
  record_activity : Nat → Ctx → Ctx
  init_task : String → List String → Ctx → Ctx
  criteria : Ctx → List String
  release_held_history : Ctx → Ctx
  take_due_recall : Ctx → Option (String × Nat) × Ctx
  render : Ctx → RenderedContext × Option (Bool × Json) × Ctx
  mark_prefix_sent : Ctx → Ctx
  estimate_request : RenderedContext → List ToolSchema → Ctx → RenderedContext × Ctx
  provider_tools : List ToolSchema → Option Gov → Option AgentRunSpec → Ctx → List ToolSchema
  sync_governance_surface_note : List ToolSchema → Option Gov → Ctx → Ctx
  sweep_expired_leases : Nat → Ctx → List KernelObservation × Ctx
  note_tool_actions : List (String × String) → Ctx → Ctx
  compact_tool_args : Json → String
  mount_capability : Json → String → Ctx → List KernelObservation × Ctx
  capability_label : Json → String
  rho : Ctx → String
  rho_exceeds_snip : Ctx → Bool
  should_time_decay_compact : Nat → Ctx → Bool
  recompute_handle_residency : Ctx → Ctx
  enforce_knowledge_budget : Nat → Ctx → List KernelObservation × Ctx
  plan_eviction : Bool → Ctx → List EvictionOp
  compress : PressureAction → Ctx → Compaction × Ctx
  compress_with_time : PressureAction → Option Nat → Ctx → Compaction × Ctx
  compress_with_target : PressureAction → Nat → Option Nat → Ctx → Compaction × Ctx
  force_compress : Ctx → Compaction × Ctx
  set_last_compact_ms : Nat → Ctx → Ctx
  tier_hint_for_compress : PressureAction → String
  take_knowledge_sweeps : Nat → Ctx → List KernelObservation × Ctx
  should_renew : Ctx → Bool
  renew : Ctx → List KernelObservation × Ctx
  lifecycle_metrics : Ctx → Json
  parts_text : List ContentPart → String
  control_rejection_note : String → String → Ctx → String
  pace_verdict : Json → Json → Option Nat → Nat → Ctx → PaceVerdict
  default_pace : Json → TerminationReason → Json
  exhausted_round_pace : Json
  pace_tool_schema : ToolSchema
  -- The governance pipeline.
  evaluate : ToolCall → Option AgentRunSpec → Gov → Disposition × Gov
  set_time : Nat → Gov → Gov
  -- The signal router.
  ingest_at : LogicalSignal → TaskLifecycle → Nat → Router → IngestOutcome × Router
  depth : Router → Nat
  expire : Nat → Router → List String × Router
  next_signals : Router → List LogicalSignal × Router
  clear_dedup : Router → Router
  signal_summary : LogicalSignal → String
  signal_timestamp : LogicalSignal → Nat
  -- The entropy tracker.
  sample : Nat → String → Nat → Nat → Nat → Nat → Entropy → EntropyReading × Entropy
  -- The task ledger.
  expired_tool_capability : TaskTable → Nat → ToolCall → Ledger → Option String
  reserve_authority : TaskTable → TaskId → IsolationManifest → Nat → Ledger → Except (String × String) Ledger
  drop_reservation : Ledger → Ledger
  attach_child_budget_grant : TaskId → Ledger → Ledger
  note_spawned : IsolationManifest → Ledger → Ledger
  return_child_budget : TaskId → Ledger → Ledger
  accumulate_usage : TaskId → Nat → Nat → Ledger → Ledger
  cancelled_with_root : TaskTable → Ledger → List TaskId
  seed_child_budget : Option BudgetGrant → Ledger → Ledger
  process_view : Tcb → Ledger → Json
  -- The scheduling half of a workflow run, over its canonical nodes.
  new_run : List WireNode → Except String RunRest
  ready_batch : List WireNode → RunRest → List Nat × RunRest
  current_agent_id : RunRest → Nat → TaskId
  order_runnables : List Tcb → List (TaskId × Nat) → List String
  owns_agent : RunRest → TaskId → Bool
  is_agent_quarantined : RunRest → TaskId → Bool
  quarantine_violation : List WireNode → RunRest → Nat → Bool
  manifest_for : List WireNode → RunRest → Nat → IsolationManifest
  spawn_info : List WireNode → RunRest → Nat → WorkflowSpawnInfo
  mark_spawned : Nat → TaskId → RunRest → RunRest
  mark_denied : Nat → RunRest → RunRest
  mark_spawn_failed : TaskId → RunRest → RunRest
  record_completion : TaskId → ChildResult → RunRest → RunRest
  submit_nodes : Option TaskId → List WireNode → List WireNode → RunRest → Except (Nat × String) RunRest
  finish : List WireNode → RunRest → List WorkflowNodeOutcome
  abort_outcomes : List WireNode → RunRest → List WorkflowNodeOutcome
  active_agents : List WireNode → RunRest → List (Nat × TaskId)
  workflow_budget : Option ResourceQuota → Option BudgetGrant → SchedulerBudget → Nat → Nat → TaskTable → Option Json

end Deepstrike.Components

import Deepstrike.Components

/-!
The loop state machine: one record of state and the transitions the driver feeds it. A transition
is a program over the record that ends in the next action; only the assertions about the host
effect slot can stop one.
-/
namespace Deepstrike.Loop
open Wire Tasks Vocabulary Components Transaction

/-- Where a verification contract stands. No contract is no phases. -/
structure MilestoneTracker where
  phases : List MilestonePhase
  current_phase : Nat
  blocked_count : Nat
  deriving DecidableEq,Repr

def MilestoneTracker.new : MilestoneTracker := ⟨[],0,0⟩
variable (tracker : MilestoneTracker)

def MilestoneTracker.is_complete : Bool := decide (tracker.phases.length ≤ tracker.current_phase)
def MilestoneTracker.phase : Option MilestonePhase := tracker.phases[tracker.current_phase]?
def MilestoneTracker.phase_id : Option String := tracker.phase.map MilestonePhase.id

/-- Put a loaded cascade back on a phase; an id that names none is refused. -/
def MilestoneTracker.restore_cursor (phase_id : Option String) (blocked_count : Nat) :
    Option MilestoneTracker :=
  match phase_id with
  | none => if tracker.phases = [] then some tracker else some { tracker with current_phase := tracker.phases.length, blocked_count }
  | some id => (tracker.phases.findIdx? fun phase => phase.id == id).map fun index => { tracker with current_phase := index, blocked_count }

/-- A workflow in flight: its canonical nodes and the scheduling state over them. -/
structure WorkflowRun (K : LoopParts) where
  nodes : List WireNode
  rest : K.RunRest

structure PendingWorkflowSpawn where
  nodes : List WorkflowSpawnInfo
  budget : Option Json
  deriving DecidableEq,Repr

structure PendingPreempt where
  agent_ids : List TaskId
  reason : String
  deriving DecidableEq,Repr

/-- The policies of an operation that the loop reads on every transition. -/
structure LoopPolicies where
  resource_quota : Option ResourceQuota
  repeat_fuse : RepeatFuseConfig
  provider_recovery_attempt_limit : Nat
  output_recovery_attempt_limit : Nat
  criteria_gate_enabled : Bool
  deriving DecidableEq,Repr

/-- The state of the loop. The turn checkpoint is left out: nothing the driver feeds rolls back. -/
structure LoopStateMachine (K : LoopParts) where
  phase : LoopPhase
  turn : Nat
  ctx : K.Ctx
  tools : List ToolSchema
  observations : List KernelObservation
  policy : SchedulerBudget
  policies : LoopPolicies
  total_tokens : Nat
  budget_grant : Option BudgetGrant
  local_rounds_completed : Nat
  pending_pace : Option Json
  pending_termination : Option TerminationReason
  recovery_attempts : Nat
  output_recovery_attempts : Nat
  pending_output_truncated : Bool
  adjudicated_turn : Option AdjudicatedTurn
  milestone : MilestoneTracker
  run_spec : Option AgentRunSpec
  tasks : TaskTable
  ledger : K.Ledger
  governance : Option K.Gov
  exposed_tool_names : Option OrdSet
  memory_write_times : List Nat
  signal_router : K.Router
  delivered_signals_len : Nat
  started_at_ms : Option Nat
  last_now_ms : Option Nat
  suspend_state : Option SuspendState
  pending_denied_results : List ToolResult
  workflow : Option (WorkflowRun K)
  root_workflow : Bool
  dynamic_workflow_open : Bool
  pending_workflow_spawn : Option PendingWorkflowSpawn
  pending_preempt : Option PendingPreempt
  pending_host_effects : List PendingHostEffect
  active_host_effect : Option PendingHostEffect
  deferred_action : Option LoopAction
  repeat_sig : Option String
  repeat_count : Nat
  criteria_gate_fired : Bool
  entropy : K.Entropy

abbrev LoopProgram (K : LoopParts) (α : Type) := EStateM Halt (LoopStateMachine K) α

variable {K : LoopParts}

def observe (observation : KernelObservation) : LoopProgram K Unit :=
  modify fun e => { e with observations := e.observations ++ [observation] }
def observeAll (observations : List KernelObservation) : LoopProgram K Unit :=
  modify fun e => { e with observations := e.observations ++ observations }
def clear_observations : LoopProgram K Unit := modify fun e => { e with observations := [] }
def onCtx (change : K.Ctx → K.Ctx) : LoopProgram K Unit := modify fun e => { e with ctx := change e.ctx }
def onCtxNoting (change : K.Ctx → List KernelObservation × K.Ctx) : LoopProgram K Unit := do
  let e ← get
  let (observations,ctx) := change e.ctx
  set { e with ctx, observations := e.observations ++ observations }
def onTasks (change : TaskTable → TaskTable) : LoopProgram K Unit := modify fun e => { e with tasks := change e.tasks }
def onLedger (change : K.Ledger → K.Ledger) : LoopProgram K Unit := modify fun e => { e with ledger := change e.ledger }
def set_phase (phase : LoopPhase) : LoopProgram K Unit := modify fun e => { e with phase }
def push_signal (text : String) : LoopProgram K Unit := onCtx (K.push_signal text)
def push_history (message : CoreMessage) : LoopProgram K Unit :=
  modify fun e => { e with ctx := K.push_history message (K.count_message e.ctx message) e.ctx }

def is_meta_tool (name : String) : Bool :=
  ["pace","update_plan","skill","memory","propose_memory","knowledge","read_result","submit_workflow_nodes",
    "start_workflow"].contains name
def is_exposure_exempt_meta_tool (name : String) : Bool :=
  ["skill","memory","propose_memory","knowledge","update_plan","read_result"].contains name

def LoopStateMachine.lifecycle (e : LoopStateMachine K) : TaskLifecycle := (e.tasks.lifecycle "root").getD .Ready
variable (e : LoopStateMachine K)

def LoopStateMachine.is_suspended : Bool := decide (e.lifecycle = .Suspended)

/-- Set the root task's schedulability; a wait set suspends it, none clears its wait. -/
def set_lifecycle (state : TaskLifecycle) (wait : Option (WaitMode × List WaitCondition)) : LoopProgram K Unit :=
  onTasks fun tasks =>
    let tasks := if (tasks.get "root").isNone then tasks.insert (Tcb.root "root") else tasks
    let tasks := tasks.set_state "root" state
    match wait with
    | some (mode,conditions) => tasks.register_wait_set "root" mode conditions
    | none => tasks.clear_wait "root"

def text_message (role : Role) (text : String) : CoreMessage := ⟨role,.Text text,[]⟩
def tool_message (call_id : CallId) (output : String) (is_error : Bool) (durable_content : Option Json) : CoreMessage :=
  ⟨.Tool,.Parts [.ToolResult call_id output is_error durable_content],[]⟩

/-- Close the transcript pair of a call the kernel handled itself. -/
def push_synthetic_tool_result (call_id : CallId) (output : String) (is_error : Bool) : LoopProgram K Unit :=
  push_history (tool_message call_id output is_error none)

/-- The round decision a termination attaches: the adjudicated one, or the round contract's default. -/
def LoopStateMachine.pace_decision (termination : TerminationReason) : Option Json :=
  e.pending_pace.or do K.default_pace (← (← e.run_spec).loop_round) termination

def terminate (termination : TerminationReason) (final_message : Option CoreMessage) : LoopProgram K LoopAction := do
  if let some message := final_message then push_history message
  let e ← get
  observe (.LifecycleReport e.turn (K.lifecycle_metrics e.ctx))
  let pace_decision := e.pace_decision termination
  modify fun e => { e with pending_pace := none }
  set_lifecycle (.Done termination) none
  modify fun e => { e with
    tasks := (K.cancelled_with_root e.tasks e.ledger).foldl (fun tasks id => tasks.set_state id (.Done .UserAbort)) e.tasks }
  pure (.Done ⟨termination,final_message,e.turn,e.total_tokens,pace_decision⟩)

/-- The limits of the root task under the admission grant. -/
def LoopStateMachine.budget_verdict : Option TerminationReason :=
  let limits := match e.budget_grant.bind BudgetGrant.tokens with
    | some tokens => { e.policy with max_total_tokens := min e.policy.max_total_tokens tokens }
    | none => e.policy
  should_terminate limits e.turn e.total_tokens e.last_now_ms e.started_at_ms

def budget_axis : TerminationReason → String
  | .MaxTurns => "max_turns"
  | .Timeout => "wall_time"
  | _ => "token_budget"

def check_budget : LoopProgram K Unit := do
  let e ← get
  if e.pending_termination.isNone then
    if let some termination := e.budget_verdict then
      observe (.BudgetExceeded e.turn (budget_axis termination) (e.budget_grant.map BudgetGrant.reservation_id))
      modify fun e => { e with pending_termination := some termination }

/-- The single exit of every provider call: remember what the model is shown. -/
def call_llm_action (context : RenderedContext) (tools : List ToolSchema) : LoopProgram K LoopAction := do
  modify fun e => { e with exposed_tool_names := some (.ofList (tools.map ToolSchema.name)), ctx := K.mark_prefix_sent e.ctx }
  let e ← get
  let (context,ctx) := K.estimate_request context tools e.ctx
  set { e with ctx }
  pure (.CallLLM context tools)

def LoopStateMachine.offered_tools : List ToolSchema :=
  if e.pending_termination.isSome then [] else K.provider_tools e.tools e.governance e.run_spec e.ctx

/-- Render and call the provider, once the recall and the budget have been looked at. -/
def render_and_call : LoopProgram K LoopAction := do
  check_budget
  let e ← get
  set { e with delivered_signals_len := K.signals_len e.ctx }
  observe (.CheckpointTaken e.turn (K.history_len e.ctx))
  onCtx (K.sync_governance_surface_note e.tools e.governance)
  let e ← get
  let (context,overflow,ctx) := K.render e.ctx
  set { e with ctx }
  if let some (fixed_context,overflow) := overflow then
    observe (.ContextBudgetExceeded e.turn overflow)
    if fixed_context then
      modify fun e => { e with delivered_signals_len := 0 }
      return ← terminate .ContextOverflow none
  call_llm_action context (← get).offered_tools

/-- The one funnel into a provider call. A recall owed at this point goes out instead of it. -/
def emit_call_llm : LoopProgram K LoopAction := do
  set_lifecycle .Running none
  onCtx K.release_held_history
  let e ← get
  if e.pending_termination.isNone then
    let (due,ctx) := K.take_due_recall e.ctx
    set { e with ctx }
    if let some (text,top_k) := due then return .QueryMemory text top_k
  render_and_call

/-- Rebuild a provider action after a context change of the same transition. -/
def refresh_call_llm_action (action : LoopAction) : LoopProgram K LoopAction :=
  match action with
  | .CallLLM .. => do
    let e ← get
    onCtx (K.sync_governance_surface_note e.tools e.governance)
    let e ← get
    let (context,_,ctx) := K.render e.ctx
    let tools := { e with ctx }.offered_tools
    let (context,ctx) := K.estimate_request context tools ctx
    set { e with ctx, exposed_tool_names := some (.ofList (tools.map ToolSchema.name)) }
    pure (.CallLLM context tools)
  | action => pure action

/-- Stop the running children for an interrupt: the intent is kept until the host confirms it. -/
def request_preempt_for_interrupt (reason : String) : LoopProgram K (Option LoopAction) := do
  match (← get).suspend_state with
  | some (.SubAgentAwait (id :: rest)) =>
    modify fun e => { e with pending_preempt := some ⟨id :: rest,reason⟩ }
    pure (some (.PreemptSubAgents (id :: rest) reason))
  | _ => pure none

/-- Route a signal and decide whether it drives a turn now. -/
def route_signal (signal : LogicalSignal) (may_issue_request : Bool) :
    LoopProgram K (Option LoopAction × SignalDisposition × Nat) := do
  let e ← get
  let lifecycle := e.lifecycle
  let summary := K.signal_summary signal
  let (outcome,signal_router) := K.ingest_at signal lifecycle (e.last_now_ms.getD (K.signal_timestamp signal)) e.signal_router
  let queue_depth := K.depth signal_router
  set { e with signal_router }
  observeAll (outcome.expired_signal_ids.map fun id => .SignalExpired e.turn id queue_depth)
  if let some displaced := outcome.displaced_signal_id then
    observe (.SignalDisplaced e.turn signal.signal_id displaced queue_depth)
  if lifecycle.is_terminal && decide (outcome.disposition = .Queue) then observe (.SignalsPending e.turn queue_depth)
  match outcome.disposition with
  | .InterruptNow =>
    push_signal s!"[INTERRUPT] {summary}"
    set_phase .Reason
    match ← request_preempt_for_interrupt summary with
    | some action => pure (some action,.InterruptNow,queue_depth)
    | none =>
      -- A request is in flight: the interrupt is read when that request resolves.
      if may_issue_request then pure (some (← emit_call_llm),.InterruptNow,queue_depth)
      else pure (none,.Interrupt,queue_depth)
  | .Run =>
    push_signal s!"[SIGNAL] {summary}"
    set_phase .Reason
    pure (some (← emit_call_llm),.Run,queue_depth)
  | .Interrupt | .Observe =>
    push_signal s!"[SIGNAL] {summary}"
    pure (none,outcome.disposition,queue_depth)
  | .Queue | .Ignore | .Dropped => pure (none,outcome.disposition,queue_depth)

/-- The sweeps at the head of every event. -/
def sweep_leases : LoopProgram K Unit := do
  let e ← get
  onCtxNoting (K.sweep_expired_leases e.turn)

def signal_event (operation_id : OperationId) (delivery_id : String) (attempt : Nat) (signal : LogicalSignal)
    (may_issue_request : Bool) : LoopProgram K (Option LoopAction) := do
  clear_observations
  sweep_leases
  let (action,disposition,queue_depth) ← route_signal signal may_issue_request
  observe (.SignalDeliveryDisposed (← get).turn operation_id delivery_id attempt signal.signal_id disposition.label queue_depth)
  pure action

/-- Promote the queued signals into the context at a turn boundary. -/
def drain_queued_signals : LoopProgram K Unit := do
  let e ← get
  let (expired,router) := match e.last_now_ms with
    | some now => K.expire now e.signal_router
    | none => ([],e.signal_router)
  let queue_depth := K.depth router
  let (signals,router) := K.next_signals router
  set { e with signal_router := router }
  observeAll (expired.map fun id => .SignalExpired e.turn id queue_depth)
  onCtx fun ctx => signals.foldl (fun ctx signal => K.push_signal s!"[SIGNAL] {K.signal_summary signal}" ctx) ctx

/-- A compaction is observed, and what it archived becomes a durability effect of the loop. -/
def push_compression_observations (action : PressureAction) (compaction : Compaction) : LoopProgram K Unit := do
  let e ← get
  observe (.Compressed e.turn action (K.rho e.ctx) compaction.summary compaction.archived.length compaction.invalidates_prefix_at)
  if ¬compaction.archived.isEmpty then
    modify fun e => { e with
      pending_host_effects := e.pending_host_effects ++
        [⟨e.turn,action,compaction.summary,compaction.archived,K.tier_hint_for_compress action⟩] }
  onCtxNoting (K.take_knowledge_sweeps e.turn)

/-- Run a compaction of the context; `worth` says when it is reported. -/
def compactWith (action : PressureAction) (compact : K.Ctx → Compaction × K.Ctx) (worth : Compaction → Bool) :
    LoopProgram K Bool := do
  let e ← get
  let (compaction,ctx) := compact e.ctx
  set { e with ctx }
  if worth compaction then push_compression_observations action compaction
  pure (worth compaction)

def saved_or_summarised (compaction : Compaction) : Bool := decide (0 < compaction.saved) || compaction.summary.isSome

def force_compact : LoopProgram K Bool := compactWith .AutoCompact K.force_compress fun compaction => decide (0 < compaction.saved)

def execute_eviction_op (op : EvictionOp) : LoopProgram K Unit := do
  let now := (← get).last_now_ms
  match op with
  | .Snip => discard (compactWith .SnipCompact (K.compress_with_time .SnipCompact now) saved_or_summarised)
  | .TimeDecayMicro =>
    discard (compactWith .MicroCompact (K.compress .MicroCompact) fun _ => true)
    if let some now := now then onCtx (K.set_last_compact_ms now)
  | .Collapse target => discard (compactWith .ContextCollapse (K.compress_with_target .ContextCollapse target now) saved_or_summarised)
  | .AutoCompact => discard (compactWith .AutoCompact K.force_compress saved_or_summarised)

def execute_eviction_ops (idle_decay : Bool) : List EvictionOp → LoopProgram K Unit
  | [] => pure ()
  | op :: rest => do
    if ¬(op = .TimeDecayMicro ∧ idle_decay) then execute_eviction_op op
    execute_eviction_ops idle_decay rest

/-- Commit one tool result to history, charged with its measurement when there is one. The last
    measurement of a call counts, and it counts once. -/
def push_tool_result (measurements : List ToolMeasurement) (result : ToolResult) : LoopProgram K Unit := do
  let measured := (measurements.reverse.find? fun measurement => measurement.call_id == result.call_id).map ToolMeasurement.tokens
  let output := match result.output with
    | .Text text => text
    | .Parts parts => K.parts_text parts
  let message := tool_message result.call_id output result.is_error result.durable_content
  modify fun e => { e with
    total_tokens := e.total_tokens+measured.getD 0
    ctx := K.push_history message (measured.getD (K.count_message e.ctx message)) e.ctx }

def push_tool_results (measurements : List ToolMeasurement) : List ToolResult → LoopProgram K Unit
  | [] => pure ()
  | result :: rest => do
    push_tool_result measurements result
    push_tool_results (measurements.filter fun measurement => measurement.call_id ≠ result.call_id) rest

/-- The eviction checkpoint of a completed tool turn. -/
def run_eviction : LoopProgram K Unit := do
  let e ← get
  let idle_decay := match e.last_now_ms with
    | some now => K.should_time_decay_compact now e.ctx
    | none => false
  if idle_decay then execute_eviction_op .TimeDecayMicro
  onCtx K.recompute_handle_residency
  onCtxNoting (K.enforce_knowledge_budget e.turn)
  execute_eviction_ops idle_decay (K.plan_eviction idle_decay (← get).ctx)

def run_renewal : LoopProgram K Unit := do
  if K.should_renew (← get).ctx then
    onCtxNoting K.renew
    modify fun e => { e with signal_router := K.clear_dedup e.signal_router }
    onCtxNoting (K.take_knowledge_sweeps (← get).turn)

variable (results : List ToolResult)

/-- Sample the session entropy; an alert may be routed to the model as a signal of its own. -/
def sample_entropy : LoopProgram K Unit := do
  let e ← get
  let streak := if e.policies.repeat_fuse.enabled then e.repeat_count else 0
  let (reading,entropy) := K.sample e.turn (K.rho e.ctx) streak e.policies.repeat_fuse.deny_after
    (results.filter ToolResult.is_error).length results.length e.entropy
  set { e with entropy }
  observeAll reading.observations
  if let some signal := reading.alert then discard (route_signal signal true)

/-- `ToolResults`: commit the results, close the turn, and call the provider again. -/
def handle_tool_results (measurements : List ToolMeasurement) : LoopProgram K LoopAction := do
  let results := results ++ (← get).pending_denied_results
  modify fun e => { e with pending_denied_results := [] }
  push_tool_results measurements results
  modify fun e => { e with turn := e.turn+1 }
  run_eviction
  run_renewal
  sample_entropy results
  drain_queued_signals
  set_phase .Reason
  emit_call_llm

/-- What `feed` does in front of every event. -/
def begin_event : LoopProgram K Unit := do
  clear_observations
  sweep_leases

def feed_tool_results (measurements : List ToolMeasurement) : LoopProgram K LoopAction := do
  begin_event
  handle_tool_results results measurements

/-- Commit kernel-synthesised results through the ordinary funnel, keeping the observations of
    this step. -/
def commit_synthetic_results : LoopProgram K LoopAction := do
  set_phase .Reason
  let kept := (← get).observations
  let action ← feed_tool_results results []
  modify fun e => { e with observations := kept ++ e.observations }
  pure action

end Deepstrike.Loop

import Deepstrike.Reachability
import Deepstrike.Resting

/-!
The plainest parts an operation can run on: a context that is its history, its signals and its
payload handles, one tool that needs approval, no quotas, a workflow of independent nodes. Every
component keeps itself whole in a checkpoint, so whatever is lost over a rebuild is lost by the loop
and the driver.
-/
namespace Deepstrike.PlainParts
open Wire Tasks Vocabulary Components Record
open Transaction Loop Driver Kernel

structure PlainCtx where
  history : List CoreMessage
  signals : List String
  handles : List (HandleId × Residency)
  deriving DecidableEq,Repr

/-- The nodes that have been launched and those that have settled. -/
structure PlainRun where
  launched : List Nat
  settled : List Nat
  deriving DecidableEq,Repr

def PlainCtx.push (message : CoreMessage) (ctx : PlainCtx) : PlainCtx := { ctx with history := ctx.history ++ [message] }

def answersOf (message : CoreMessage) : List CallId :=
  match message.content with
  | .Parts parts => parts.filterMap fun
    | .ToolResult call_id .. => some call_id
    | .Other _ => none
  | .Text _ => []

variable (ctx : PlainCtx)

/-- The calls of the last assistant message that nothing behind it answers. -/
def PlainCtx.unanswered : List ToolCall :=
  ctx.history.foldl (fun open_calls message =>
    match message.role with
    | .Assistant => message.tool_calls
    | _ => open_calls.filter fun call => !(answersOf message).contains call.id) []

def PlainCtx.residency (handle_id : HandleId) : Option Residency := ctx.handles.lookup handle_id
def PlainCtx.place (handle_id : HandleId) (residency : Residency) (ctx : PlainCtx) : Option Residency × PlainCtx :=
  (ctx.residency handle_id,{ ctx with handles := (handle_id,residency) :: ctx.handles.filter fun entry => entry.1 ≠ handle_id })

/-- A compaction that archives the whole history. -/
def PlainCtx.compact : Compaction × PlainCtx :=
  (⟨ctx.history.length,none,ctx.history,none⟩,{ ctx with history := [] })
def noCompaction : Compaction × PlainCtx := (⟨0,none,[],none⟩,ctx)

def PlainCtx.rendered : RenderedContext := ⟨"",ctx.history,ctx.history.length⟩

/-- The value of a one-field JSON object whose value is a string. -/
def soleField (arguments : Json) : String :=
  String.ofList (((((arguments.toList.dropWhile (· ≠ ':')).drop 1).dropWhile (· ≠ '"')).drop 1).takeWhile (· ≠ '"'))

def decodeCall (call : ToolCall) : Except SyscallRejection SyscallRequest :=
  match call.name with
  | "read_result" => .ok (.PageIn (soleField call.arguments))
  | "memory" => .ok (.RequestMemoryQuery ⟨soleField call.arguments,[],none,none⟩)
  | "propose_memory" => .ok (.RequestMemoryWrite ⟨soleField call.arguments,.Project,soleField call.arguments,none,[]⟩)
  | name => .error ⟨name,none,"not decoded"⟩

/-- The governance of an operation that asks before it deploys. -/
def askBeforeDeploy (call : ToolCall) : Disposition := if call.name = "deploy" then .Gate "deploy needs approval" else .Allow

def plainLoop : LoopParts where
  Ctx := PlainCtx
  Gov := Unit
  Router := Unit
  Entropy := Unit
  Ledger := Unit
  RunRest := PlainRun
  count_message _ _ := 1
  count _ _ := 1
  push_history message _ ctx := ctx.push message
  pending_tool_calls := PlainCtx.unanswered
  history_len ctx := ctx.history.length
  push_signal text ctx := { ctx with signals := ctx.signals ++ [text] }
  signals_len ctx := ctx.signals.length
  drain_signals count ctx := { ctx with signals := ctx.signals.drop count }
  record_activity _ ctx := ctx
  init_task _ _ ctx := ctx
  criteria _ := []
  release_held_history ctx := ctx
  take_due_recall ctx := (none,ctx)
  render ctx := (ctx.rendered,none,ctx)
  mark_prefix_sent ctx := ctx
  estimate_request context _ ctx := (context,ctx)
  provider_tools tools _ _ _ := tools
  sync_governance_surface_note _ _ ctx := ctx
  sweep_expired_leases _ ctx := ([],ctx)
  note_tool_actions _ ctx := ctx
  compact_tool_args arguments := arguments
  mount_capability _ _ ctx := ([],ctx)
  capability_label capability := capability
  rho _ := "0"
  rho_exceeds_snip _ := false
  should_time_decay_compact _ _ := false
  recompute_handle_residency ctx := ctx
  enforce_knowledge_budget _ ctx := ([],ctx)
  plan_eviction _ _ := []
  compress _ := noCompaction
  compress_with_time _ _ := noCompaction
  compress_with_target _ _ _ := noCompaction
  force_compress := PlainCtx.compact
  set_last_compact_ms _ ctx := ctx
  tier_hint_for_compress _ := "warm"
  take_knowledge_sweeps _ ctx := ([],ctx)
  should_renew _ := false
  renew ctx := ([],ctx)
  lifecycle_metrics _ := "{}"
  parts_text _ := ""
  control_rejection_note operation reason _ := s!"[{operation}] {reason}"
  pace_verdict _ _ _ _ _ := .malformed ""
  default_pace _ _ := "{}"
  exhausted_round_pace := "{}"
  pace_tool_schema := ⟨"pace","","{}"⟩
  evaluate call _ gov := (askBeforeDeploy call,gov)
  set_time _ gov := gov
  ingest_at _ _ _ router := (⟨.Observe,[],none⟩,router)
  depth _ := 0
  expire _ router := ([],router)
  next_signals router := ([],router)
  clear_dedup router := router
  signal_summary signal := signal.signal_id
  signal_timestamp _ := 0
  sample _ _ _ _ _ _ entropy := (⟨[],none⟩,entropy)
  expired_tool_capability _ _ _ _ := none
  reserve_authority _ _ _ _ ledger := .ok ledger
  drop_reservation ledger := ledger
  attach_child_budget_grant _ ledger := ledger
  note_spawned _ ledger := ledger
  return_child_budget _ ledger := ledger
  accumulate_usage _ _ _ ledger := ledger
  cancelled_with_root _ _ := []
  seed_child_budget _ ledger := ledger
  process_view _ _ := "{}"
  new_run _ := .ok ⟨[],[]⟩
  ready_batch nodes run := ((List.range nodes.length).filter fun node => !run.launched.contains node,run)
  current_agent_id _ node := node_agent_id node
  order_runnables _ ready := ready.map Prod.fst
  owns_agent run id := run.launched.any fun node => node_agent_id node == id
  is_agent_quarantined _ _ := false
  quarantine_violation _ _ _ := false
  manifest_for _ _ node := ⟨node_agent_id node,"{}"⟩
  spawn_info nodes _ node := ⟨node_agent_id node,((nodes[node]?).map WireNode.task).getD "","","","","{}",[]⟩
  mark_spawned node _ run := { run with launched := run.launched ++ [node] }
  mark_denied node run := ⟨run.launched ++ [node],run.settled ++ [node]⟩
  mark_spawn_failed _ run := run
  record_completion _ _ run := { run with settled := run.launched }
  submit_nodes _ _ _ run := .ok run
  finish nodes _ := (List.range nodes.length).map fun node => ⟨node_agent_id node,.Completed,some .Completed,none⟩
  abort_outcomes nodes _ := (List.range nodes.length).map fun node => ⟨node_agent_id node,.Failed,some .UserAbort,none⟩
  active_agents _ run := (run.launched.filter fun node => !run.settled.contains node).map fun node => (node,node_agent_id node)
  workflow_budget _ _ _ _ _ _ := none

/-- Records are their inputs; the digests name what a record is about. -/
def plainCodec : Codec PlannedStep where
  Bytes := NormalizedInput
  encode_input input := .ok input
  decode_input bytes := .ok bytes
  bytes_len _ := 1
  input_digest input := input.input_id
  step_digest step := .ok (" ".intercalate (step.disposition.effects.map fun effect => effect.effect_id))
  body_digest _ input_id step_seq _ _ _ step_digest := .ok s!"{step_seq}/{input_id}/{step_digest}"
  record_len _ _ _ _ _ _ _ _ := 1
  outcome_digest outcome := .ok (match outcome with
    | .Succeeded success => success.answers.as_str
    | .Failed failure => failure.kind.as_str)
  cancel_digest _ _ := .ok "cancel"

theorem plain_round_trips : plainCodec.RoundTrips := by
  intro input bytes encoded
  cases encoded
  rfl

/-- The configuration of a plain operation travels as its own settings text. -/
def plainConfig (support : List EffectKindTag) (settings : Json) : ResolvedOperationConfig where
  max_input_bytes := 1024
  tail_bounds := ⟨64,128,1024,2048⟩
  host_effect_support := support
  execution_policy := ⟨⟨1000,100,100000,none⟩,false,⟨false,0,0⟩⟩
  resource_quota := ResourceQuota.default
  recovery_policy := ⟨2,3⟩
  budget_grant := none
  tool_catalog := [⟨"deploy","","{}"⟩,⟨"read_result","","{}"⟩,⟨"memory","","{}"⟩,⟨"propose_memory","","{}"⟩]
  memory_access := some ⟨"store",true,true⟩
  memory_policy := ⟨false,5,"{}"⟩
  verification_contracts := []
  deadline_escalation := false
  preview_bytes := 64
  settings := settings

def everyEffect : List EffectKindTag :=
  [.CallProvider,.ExecuteTools,.RequestApproval,.SpawnTasks,.PreemptTasks,.PersistMemory,.QueryMemory,.ArchivePageOut,.LoadPayload,
    .EvaluateMilestone]

def plain : Parts where
  toLoopParts := plainLoop
  codec := plainCodec
  resolve _ settings := .ok (plainConfig everyEffect settings)
  new_ctx _ := ⟨[],[],[]⟩
  new_router _ := ()
  new_entropy _ := ()
  new_ledger _ := ()
  core_governance config := if config.settings = "ask" then some () else none
  unlock_descriptor _ id := id
  agent_run_spec spec := ⟨none,spec.settings⟩
  logical_agent_run_spec spec := ⟨none,spec.settings⟩
  build_core_spec _ := .ok ()
  seed_ctx _ _ ctx := ([],ctx)
  seed_ledger _ ledger := ledger
  preloads_history _ := false
  enable_recall _ ctx := ctx
  sprint _ := 0
  set_observed_prompt_tokens _ ctx := ctx
  absorb_provider_compaction _ ctx := ctx
  absorb_cleared_tool_results _ ctx := ctx
  set_pending_assistant_replay _ ctx := ctx
  push_history_after_tool_results message _ ctx := ctx.push message
  note_memory_expanded _ ctx := ctx
  note_memory_read _ ctx := ctx
  push_recalled _ ctx := ctx
  recall_index_line recalled := recalled.name
  derive_recall_lifecycle _ _ _ _ _ := []
  check_write _ _ _ := .ok ()
  malformed_record_id _ := none
  set_payload_residency handle_id _ _ residency ctx := ctx.place handle_id residency
  payload_residency := PlainCtx.residency
  note_read_back _ ctx := ctx
  dependency_body _ _ := none
  unreadable_object _ _ _ _ _ := none
  unusable_payload_ref _ := none
  check_payload_policy _ _ := .ok ()
  content_digest content := content
  encode_messages messages := .ok s!"{messages.length} messages"
  decode_syscall := decodeCall
  update_task _ ctx := ctx
  skill_available _ _ := false
  skill_violation _ _ _ _ := none
  activate_skill_leased _ _ ctx := ctx
  retract_refused_skill _ ctx := ctx
  local_ipc _ _ _ _ _ ledger := ⟨ledger,none,.error ⟨"local_ipc",none,"unknown recipient"⟩⟩
  launch_spec _ _ _ _ := .ok "{}"
  spawn_info_for_agent _ _ _ := none
  supervision _ _ := (.Propagate,none)
  relaunches _ _ := 0
  note_supervision _ _ ledger := ledger
  reset_usage _ ledger := ledger
  apply_policy_patch _ _ _ := .error "no patch"
  live_policy_label patch := patch
  capability_patch _ _ ctx := ([],ctx)
  knowledge_mutation _ _ ctx := .ok ([],ctx)
  seed_knowledge _ _ ctx := .ok ([],ctx)
  skill_activation _ _ _ ctx := .ok ctx
  check_append_plan _ _ := .ok ()
  check_replay_fact _ := .ok ()
  CtxState := PlainCtx
  RouterState := Unit
  EntropyState := Unit
  LedgerState := Unit
  project_ctx _ ctx := ctx
  restore_ctx state _ := .ok state
  project_router router := router
  restore_router state _ := .ok state
  project_entropy entropy := entropy
  restore_entropy state _ := .ok state
  project_ledger _ ledger := ledger
  restore_ledger _ _ _ _ state _ := .ok state
  node_status _ run node := if run.settled.contains node then "settled" else if run.launched.contains node then "running" else "pending"
  active_agent _ run node := if run.launched.contains node && !run.settled.contains node then some (node_agent_id node) else none
  restore_run _ states := .ok
    ⟨(states.zipIdx.filter fun (state,_) => state.1 ≠ "pending").map Prod.snd,
      (states.zipIdx.filter fun (state,_) => state.1 = "settled").map Prod.snd⟩

def plainDefaults : ConfigDefaults := ⟨⟨64,128,1024,2048⟩,""⟩

/-- A fresh transaction of the plain parts. -/
def plainFresh : KernelTransaction plainCodec := .new plainDefaults ∅

/-- The logical state of a plain operation is known by the clock it was taken at. -/
def plainStates : StateCodec plain := ⟨fun _ => .ok (),fun state => .ok s!"{state.transition.last_observed_at_ms}"⟩

/-- An envelope of the one operation the plain parts run. -/
def plainEnvelope (input_id : InputId) (observed_at_ms : Nat) (input : KernelInput) : WireEnvelope := ⟨"op",input_id,observed_at_ms,input⟩

/-- A provider turn with these calls. -/
def plainTurn (calls : List ToolCall) : EffectOutcome := .Succeeded (.ProviderCompleted ⟨"hello",calls,none,none,false,none,[]⟩)

/-- A driver of the plain parts at rest, outside of workflows and milestones. -/
def restsPlainly (genesis_config : ResolvedOperationConfig) (pending_effects : List KernelEffect) (driver : OperationDriver plain) : Bool :=
  match driver.engine,driver.policy with
  | some engine,some policy =>
    driver.staged.isNone && driver.poison.isNone && driver.recall_query.isNone &&
    decide (uncarried engine = uncarried (base_engine (K := plain) genesis_config policy.config driver.root_kind)) &&
    decide (engine.governance.isSome = (base_engine (K := plain) genesis_config policy.config driver.root_kind).governance.isSome) &&
    decide (engine.pending_preempt = pending_preempt_of pending_effects) &&
    decide (engine.tasks.head?.map Tcb.id = some "root") && decide (engine.tasks.map Tcb.id).Nodup &&
    engine.tasks.all (fun task => task.wait_set.isNone) &&
    engine.workflow.isNone && driver.workflow_id.isNone && driver.node_ids.isEmpty && driver.workflow_nodes.isEmpty &&
    engine.suspend_state.isNone && engine.pending_workflow_spawn.isNone &&
    driver.loaded_contract_id.isNone && decide (engine.milestone = MilestoneTracker.new) && engine.run_spec.isNone
  | _,_ => false

/-- What the plain check accepts is at rest: every plain component comes back whole. -/
theorem atRest_plain {genesis_config : ResolvedOperationConfig} {pending_effects : List KernelEffect}
    {driver : OperationDriver plain}
    (rests : restsPlainly genesis_config pending_effects driver = true) :
    AtRest genesis_config pending_effects driver := by
  unfold restsPlainly at rests
  cases held : driver.engine with
  | none => simp [held] at rests
  | some engine =>
  cases live : driver.policy with
  | none => simp [held,live] at rests
  | some policy =>
  simp only [held,live,Bool.and_eq_true,Option.isNone_iff_eq_none,decide_eq_true_eq,List.all_eq_true,List.isEmpty_iff] at rests
  obtain ⟨⟨⟨⟨⟨⟨⟨⟨⟨⟨⟨⟨⟨⟨⟨⟨⟨staged,poison⟩,recalled⟩,lost⟩,governed⟩,preempt⟩,root⟩,distinct⟩,waits⟩,workflow⟩,identity⟩,ids⟩,nodes⟩,suspension⟩,
    spawn⟩,contract⟩,milestone⟩,spec⟩ := rests
  refine ⟨staged,poison,recalled,engine,policy,held,live,lost,?_,preempt,⟨root,distinct,?_⟩,?_,?_,rfl,rfl,rfl,rfl,?_,?_⟩
  · intro now
    cases governance : engine.governance <;>
      cases based : (base_engine (K := plain) genesis_config policy.config driver.root_kind).governance <;>
      simp [governance,based] at governed ⊢
    exact PUnit.ext _ _
  · intro task member wait waiting
    simp [waits task member] at waiting
  · simp only [WorkflowAtRest,workflow]
    exact ⟨identity,ids,nodes,suspension,spawn⟩
  · simp only [MilestoneAtRest,contract]
    exact milestone
  · simp [spec]
  · intro run running
    simp [workflow] at running

end Deepstrike.PlainParts

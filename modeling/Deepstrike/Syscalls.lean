import Deepstrike.Driver

/-!
The P1 syscalls: requests of the model and of completing children, attributed by the kernel and
adjudicated one by one. `.error` is a request refused on its own; a fault refuses the input.
-/
namespace Deepstrike.Driver
open Wire Vocabulary
open Transaction Loop

variable {K : Parts}

structure SyscallOutcome where
  effects : List KernelEffect
  focus : Option ExecutionFocus
  needs_workflow_round : Bool
  ack : Option String
  deriving DecidableEq,Repr

def SyscallOutcome.default : SyscallOutcome := ⟨[],none,false,none⟩
def SyscallOutcome.acked (text : String) : SyscallOutcome := ⟨[],none,false,some text⟩
def SyscallOutcome.publishing (effect : KernelEffect) : SyscallOutcome := ⟨[effect],none,false,none⟩

/-- An adjudicated request, with the next free effect index. -/
abbrev Adjudicated := Except SyscallRejection (SyscallOutcome × Nat)

def rejected (operation reason : String) : DriverProgram K Adjudicated := pure (.error ⟨operation,none,reason⟩)

def SYSCALL_TOOL_NAMES : List String :=
  ["start_workflow","submit_workflow_nodes","skill","update_plan","memory","propose_memory","read_result","send_message",
    "publish_channel","receive_mailbox","receive_channel","read_object"]
def is_syscall_tool (name : String) : Bool := SYSCALL_TOOL_NAMES.contains name

def syscall_ack : String → String
  | "start_workflow" => "workflow accepted: its ready nodes are scheduled; each result arrives as that node completes"
  | "submit_workflow_nodes" => "nodes appended to the running workflow; each result arrives as that node completes"
  | "skill" => "skill activated: its guidance and tools are in this turn's context"
  | "update_plan" => "plan updated: the new state renders in [TASK STATE] from here on"
  | "memory" => "memory search issued: matching records are added to this conversation before your next turn"
  | "propose_memory" => "memory proposal submitted for review: it is not stored until the host accepts it, and its outcome is added to this conversation before your next turn"
  | "read_result" => "page-in requested"
  | "send_message" | "publish_channel" => "local handle routed"
  | "receive_mailbox" | "receive_channel" | "read_object" => "local state returned"
  | _ => "accepted"

def causation_task : SyscallCausation → TaskId
  | .ProviderTool _ _ task_id | .ChildAttempt task_id _ _ | .KernelRecall task_id _ => task_id

/-- The authority families a quarantined caller may not touch. -/
def privileged_family : SyscallRequest → Option String
  | .SubmitWorkflow _ | .AppendWorkflowNodes _ => some "workflow"
  | .RequestMemoryWrite _ | .RequestMemoryQuery _ => some "memory"
  | .ActivateSkill .. => some "capability"
  | .RouteMessage _ => some "ipc"
  | .UpdateTask _ | .PageIn _ | .ReadLocal _ => none

def denial_reason (disposition : Disposition) (fallback : String) : String :=
  match disposition with
  | .Deny stage reason => s!"{stage}: {reason}"
  | .RateLimited retry_after_ms => s!"rate limited; retry after {retry_after_ms}ms"
  | .Gate reason => s!"awaiting approval: {reason}"
  | .Defer slot => s!"deferred at slot {slot}"
  | .Allow => fallback

/-- Record a refused request as a fact the model reads on its next turn. -/
def note_rejection (rejection : SyscallRejection) : DriverProgram K Unit :=
  engine_if_any (reject_control rejection.operation rejection.subject rejection.reason)

/-- The node id of a batch that the graph already holds. -/
def known_node_id (existing : List NodeId) (nodes : List WireNode) : Option String :=
  (nodes.find? fun node => existing.contains node.node_id).map fun node =>
    s!"workflow node id {node.node_id.quote} is already declared in this DAG; node identity is unique across every appended batch"

/-- Grow the workflow in flight; the spawn round is the caller's. -/
def append_nodes (config : ResolvedOperationConfig) (nodes : List WireNode) (caller : TaskId) (label : String) (effect_index : Nat) :
    DriverProgram K Adjudicated := do
  match unknown_node_contract config nodes,K.build_core_spec nodes,known_node_id (← get).node_ids nodes with
  | some message,_,_ => rejected label message
  | none,.error fault,_ => rejected label fault.message
  | none,.ok _,some message => rejected label message
  | none,.ok _,none =>
    if ← engine_mut (append_workflow_nodes nodes (some caller) label) then
      modify fun driver => { driver with
        node_ids := driver.node_ids ++ nodes.map WireNode.node_id
        workflow_nodes := driver.workflow_nodes ++ nodes }
      pure (.ok (⟨[],none,true,none⟩,effect_index))
    -- The loop has already observed and noted the refusal.
    else pure (.ok (.default,effect_index))

/-- The agent turn a nested workflow would suspend. -/
def nesting_parent (driver : OperationDriver K) : DriverProgram K TaskId :=
  let focus := match driver.staged with
    | some staged => staged.focus
    | none => driver.focus
  match driver.root_kind,focus with
  | some .Agent,some (.AgentTurn task_id) => pure task_id
  | some .Agent,some (.WorkflowController ..) =>
    refuseWith .InvalidAuthority
    "a workflow is already the execution focus; workflows do not stack, so a second start request is refused with no spawn effect (§7.4 focus depth ≤ 1)"
  | some .Workflow,_ =>
    refuseWith .InvalidAuthority
    "this operation's root is a workflow; its focus never moves, and a nested workflow start is not a transition it admits (§7.4)"
  | _,_ => refuseWith .InvalidLifecycle "no root has started, so there is no agent turn to suspend"

/-- Install a workflow on the driver's side. -/
def install_nodes (nodes : List WireNode) (workflow_id : WorkflowId) : DriverProgram K Unit :=
  modify fun driver => { driver with
    node_ids := nodes.map WireNode.node_id
    workflow_nodes := nodes
    workflow_id := some workflow_id }

variable (context : PlanContext)

/-- Enter a workflow the agent asked for, inside an agent root. -/
def enter_nested_workflow (nodes : List WireNode) (effect_index : Nat) : DriverProgram K Adjudicated := do
  let parent_task_id ← nesting_parent (← get)
  if let some message := unknown_node_contract context.config nodes then return ← rejected "start_workflow" message
  MonadExcept.ofExcept (refuse (K.build_core_spec nodes))
  let workflow_id := mint_workflow_id context.input.operation_id context.step_seq
  require_effect_support context.config .SpawnTasks
  match ← engine_mut do pure ((← get).evaluate_submit_nodes_quota nodes.length) with
  | .Allow =>
    let action ← engine_mut do
      modify fun e => { e with root_workflow := false }
      load_workflow_as nodes parent_task_id
    install_nodes nodes workflow_id
    match ← disposition_for_at context action .Agent effect_index with
    | (.Effects effects,effect_index) =>
      pure (.ok (⟨effects,some (.WorkflowController workflow_id (some parent_task_id)),false,none⟩,effect_index))
    | (.Terminal _,_) => refuseWith .InvalidLifecycle "entering a nested workflow cannot terminate the operation"
  | disposition => rejected "start_workflow" (denial_reason disposition "workflow authoring denied")

/-- A nested start without authority is a refused request, not a refused input. -/
def start_nested (nodes : List WireNode) (effect_index : Nat) : DriverProgram K Adjudicated := do
  match ← attempt (enter_nested_workflow context nodes effect_index) with
  | .ok adjudicated => pure adjudicated
  | .error fault => if fault.code = .InvalidAuthority then rejected "start_workflow" fault.message else throw (.fault fault)

variable (planned_effects : List KernelEffect)

/-- The pending or planned effects a memory request is compared with. -/
def in_flight : List KernelEffect := context.pending ++ planned_effects

def pending_persist : Option (MemoryBinding × CanonicalMemoryWrite) :=
  (in_flight context planned_effects).findSome? fun effect => match effect.effect with
    | .PersistMemory binding memory => some (binding,memory)
    | _ => none
def pending_query :
    Option (MemoryBinding × CanonicalMemoryQuery × Nat) :=
  (in_flight context planned_effects).findSome? fun effect => match effect.effect with
    | .QueryMemory binding query requested_k => some (binding,query,requested_k)
    | _ => none

def SyscallCausation.model_facing : SyscallCausation → Bool
  | .ProviderTool .. => true
  | _ => false

variable (causation : SyscallCausation)

/-- Author the write a proposal asks for, behind the quota. -/
def author_memory_write (binding : MemoryBinding)
    (proposal : MemoryWriteProposal) (effect_index : Nat) : DriverProgram K Adjudicated := do
  match ← engine_mut evaluate_memory_write_quota with
  | .Allow =>
    let published := mint_effect context (.PersistMemory binding
      ⟨proposal.name,proposal.kind,proposal.content,proposal.description,proposal.evidence_refs,context.input.observed_at_ms,
        causation⟩) effect_index
    modify fun driver => { driver with
      pending_memory_writes := driver.pending_memory_writes.insert published.effect_id
        ⟨binding.binding_id,proposal.name,proposal.kind,proposal.content.utf8ByteSize,SyscallCausation.model_facing causation⟩ }
    pure (.ok (.publishing published,effect_index+1))
  | disposition => rejected "write_memory" (denial_reason disposition "memory write denied")

/-- Only a model's own proposal is compared with what is in flight; a child's is not. -/
def plan_memory_write (proposal : MemoryWriteProposal) (effect_index : Nat)
    (planned_effects : List KernelEffect) : DriverProgram K Adjudicated := do
  match context.config.memory_access with
  | none => rejected "write_memory" "this operation holds no memory binding, so it can author no memory record"
  | some binding =>
    if ¬binding.write then return ← rejected "write_memory" "this operation's memory binding is read-only"
    require_effect_support context.config .PersistMemory
    let e ← engine_mut get
    match K.check_write context.config.memory_policy proposal.name proposal.content.utf8ByteSize with
    | .error error =>
      engine_mut (observe (.MemoryValidationFailed e.turn proposal.name error))
      rejected "write_memory" error
    | .ok _ =>
      match SyscallCausation.model_facing causation,pending_persist context planned_effects with
      | true,some (held,memory) =>
        if held = binding ∧ memory.name = proposal.name ∧ memory.kind = proposal.kind ∧ memory.content = proposal.content then
          pure (.ok (.acked "This proposal is already pending review; its outcome is added to this conversation before your next turn.",effect_index))
        else rejected "write_memory" "Another memory proposal is already pending review. Propose this one again after its outcome arrives."
      | _,_ => author_memory_write context causation binding proposal effect_index

def plan_memory_query (proposal : MemoryQueryProposal) (effect_index : Nat)
    (planned_effects : List KernelEffect) : DriverProgram K Adjudicated := do
  match context.config.memory_access with
  | none => rejected "query_memory" "this operation holds no memory binding, so it can read no memory record"
  | some binding =>
    if ¬binding.read then return ← rejected "query_memory" "this operation's memory binding is write-only"
    require_effect_support context.config .QueryMemory
    if let some error := proposal.record_id.bind K.malformed_record_id then
      return ← rejected "query_memory" s!"malformed record_id: {error}"
    let ceiling := context.config.memory_policy.retrieval_top_k
    -- A point fetch answers with one record at most; a search is clamped to the policy's width.
    let requested_k := if proposal.record_id.isSome then 1 else min (max (proposal.limit.getD ceiling) 1) ceiling
    match pending_query context planned_effects with
    | some (held,query,held_k) =>
      if held = binding ∧ query.text = proposal.text ∧ query.kinds = proposal.kinds ∧ query.record_id = proposal.record_id ∧
          held_k = requested_k then
        pure (.ok (.acked "Reusing the identical pending memory query; its results will arrive before the next turn.",effect_index))
      else rejected "query_memory" "A different memory query is already pending. Retry this query after its result arrives."
    | none =>
      let published := mint_effect context (.QueryMemory binding
        ⟨proposal.text,proposal.kinds,proposal.record_id,context.input.observed_at_ms,causation⟩ requested_k) effect_index
      modify fun driver => { driver with
        pending_memory_queries := driver.pending_memory_queries.insert published.effect_id
          ⟨binding.binding_id,proposal.text,requested_k,proposal.record_id,false⟩ }
      pure (.ok (.publishing published,effect_index+1))

/-- Load the body a reachable handle refers to. Nothing is compared with what is in flight. -/
def load_payload (handle_id : HandleId) (residency : Residency) (effect_index : Nat) :
    DriverProgram K Adjudicated := do
  match residency.reference with
  | none => rejected "read_result" s!"handle {handle_id} is {residency.label} — its body is held by this kernel, not by the payload store, so there is nothing to page in"
  | some (payload_ref,digest,original_size) =>
    if let some error := K.unusable_payload_ref payload_ref then
      return ← refuseWith .MalformedEnvelope s!"handle {handle_id} records an unusable payload locator: {error}"
    require_effect_support context.config .LoadPayload
    let published := mint_effect context (.LoadPayload handle_id payload_ref) effect_index
    modify fun driver => { driver with
      pending_payload_loads := driver.pending_payload_loads.insert published.effect_id ⟨handle_id,digest,original_size⟩ }
    pure (.ok (.publishing published,effect_index+1))

/-- The agent whose output a `dep:` address names. -/
def dependency_address (handle_id : HandleId) : Option TaskId :=
  match handle_id.toList with
  | 'd' :: 'e' :: 'p' :: ':' :: agent => some (String.ofList agent)
  | _ => none

def plan_page_in (caller : TaskId) (handle_id : HandleId) (effect_index : Nat) : DriverProgram K Adjudicated := do
  let e ← engine_mut do
    onCtx (K.note_read_back handle_id)
    get
  match dependency_address handle_id with
  | some agent_id =>
    match K.dependency_body e.ctx agent_id with
    | some body => pure (.ok (.acked s!"[PAYLOAD handle_id={handle_id}]\n{body}",effect_index))
    | none => rejected "read_result" s!"this run has no dependency output from {agent_id}"
  | none =>
    match K.unreadable_object caller handle_id e.turn e.ctx e.ledger,K.payload_residency e.ctx handle_id with
    | some object,_ => rejected "read_result" s!"caller {caller} has no read capability for shared object {object}"
    | none,none => rejected "read_result" s!"handle {handle_id} is not reachable in this operation's handle table; a page-in addresses only what the caller already holds"
    | none,some residency => load_payload context handle_id residency effect_index

def activate_skill (name : String) (lease_turns : Option Nat) (caller : TaskId) (effect_index : Nat) : DriverProgram K Adjudicated := do
  let e ← engine_mut get
  if ¬K.skill_available e.ctx name then
    return ← rejected "skill"
      s!"this operation declares no skill named {name.quote}; activation is a capability mutation and is refused rather than invented"
  if let some violation := K.skill_violation e.ctx e.ledger caller name then return ← rejected "skill" violation
  let expires_at_turn := lease_turns.map (e.turn + ·)
  engine_mut do
    onCtx (K.activate_skill_leased name expires_at_turn)
    observe (.SkillAdmitted e.turn name expires_at_turn)
  pure (.ok (.default,effect_index))

/-- Exchange a message between local tasks; what it wakes is traced when a message was routed. -/
def exchange (request : Json) (caller : TaskId) (routes : Bool) (effect_index : Nat) : DriverProgram K Adjudicated := do
  let reply ← engine_mut do
    let e ← get
    let reply := K.local_ipc request caller e.turn e.ctx e.tasks e.ledger
    set { e with
      ledger := reply.ledger
      tasks := match reply.fired with
        | some condition => e.tasks.notify condition
        | none => e.tasks }
    if routes && reply.answer.isOk then observe_local_runnable_tasks
    pure reply
  match reply.answer with
  | .ok ack => pure (.ok (.acked ack,effect_index))
  | .error rejection => pure (.error rejection)

/-- Adjudicate one attributed request. -/
def apply_syscall (request : SyscallRequest) (effect_index : Nat)
    (planned_effects : List KernelEffect) : DriverProgram K Adjudicated := do
  let caller := causation_task causation
  let quarantined := match (← get).engine with
    | some engine => engine.task_quarantined caller
    | none => false
  match quarantined,privileged_family request with
  | true,some family =>
    rejected family s!"quarantine: task {caller} is quarantined and may not widen its authority through a {family} syscall"
  | _,_ =>
  match request with
  | .SubmitWorkflow nodes =>
    if nodes.isEmpty then rejected "start_workflow" "an authored workflow with no nodes has nothing to spawn"
    else if (← get).workflow_active then append_nodes context.config nodes caller "start_workflow" effect_index
    else start_nested context nodes effect_index
  | .AppendWorkflowNodes nodes =>
    if nodes.isEmpty then rejected "submit_workflow_nodes" "an empty submission appends nothing"
    else if (← get).workflow_active then append_nodes context.config nodes caller "submit_workflow_nodes" effect_index
    else rejected "submit_workflow_nodes" "no workflow is in flight, so there is no graph to append to"
  | .ActivateSkill name lease_turns =>
    match ← activate_skill name lease_turns caller effect_index with
    | .error rejection =>
      engine_if_any (onCtx (K.retract_refused_skill name))
      pure (.error rejection)
    | adjudicated => pure adjudicated
  | .UpdateTask update =>
    engine_mut (onCtx (K.update_task update))
    pure (.ok (.default,effect_index))
  | .RequestMemoryWrite proposal => plan_memory_write context causation proposal effect_index planned_effects
  | .RequestMemoryQuery query => plan_memory_query context causation query effect_index planned_effects
  | .PageIn handle_id => plan_page_in context caller handle_id effect_index
  | .RouteMessage request => exchange request caller true effect_index
  | .ReadLocal request => exchange request caller false effect_index

end Deepstrike.Driver

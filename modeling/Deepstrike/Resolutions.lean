import Deepstrike.Syscalls

/-!
The resolution of a pending effect: a completed provider turn with its syscalls, the other
successes, and one decision for the failure of each effect kind.
-/
namespace Deepstrike.Driver
open Wire Vocabulary
open Transaction Loop

variable {K : Parts}

def unowned_resolution {α : Type} (effect_id : EffectId) (what : String) : DriverProgram K α :=
  refuseWith .RecordCorrupted
  s!"effect {effect_id} resolves a {what} this runtime never authored; the driver's ledger no longer describes the journal — rebuild from the records"

def require_pending_provider_call (effect_id : EffectId) : DriverProgram K PendingProviderCall := do
  match (← get).provider_calls[effect_id]? with
  | some call => pure call
  | none => refuseWith .InvalidAuthority s!"effect {effect_id} is not a provider call this kernel published, so its result has no turn to continue (§7.6)"

/-- Attribute the syscalls of a provider result to the turn that was shown them. -/
def derive_provider_syscalls (effect_id : EffectId) (pending : PendingProviderCall) (consumed : OrdSet) (seen : List CallId) :
    List ToolCall → DriverProgram K (List (SyscallCausation × ToolCall))
  | [] => pure []
  | call :: rest => do
    if ¬pending.exposed_tools.contains call.name then
      refuseWith .InvalidAuthority s!"the turn behind effect {effect_id} exposed no tool named {call.name.quote}; a caller is derived from the surface the kernel published, never from the name a result carries (§7.6)"
    if consumed.contains call.id || seen.contains call.id then
      refuseWith .InvalidAuthority s!"call {call.id} already produced a syscall; a causation is consumed once (§7.6)"
    let derived ← derive_provider_syscalls effect_id pending consumed (call.id :: seen) rest
    pure ((.ProviderTool effect_id call.id pending.task_id,call) :: derived)

/-- What a batch of syscalls has come to so far. -/
structure SyscallBatch where
  effect_index : Nat
  effects : List KernelEffect
  focus : Option ExecutionFocus
  answered : List AnsweredCall
  round_caller : Option TaskId
  deriving DecidableEq,Repr

def SyscallBatch.accept (batch : SyscallBatch) (caller : TaskId) (call : ToolCall) (outcome : SyscallOutcome) (effect_index : Nat) :
    SyscallBatch where
  effect_index := effect_index
  effects := batch.effects ++ outcome.effects
  focus := outcome.focus.or batch.focus
  answered := batch.answered ++ [⟨call.id,outcome.ack.getD (syscall_ack call.name),false⟩]
  round_caller := if outcome.needs_workflow_round then some caller else batch.round_caller

def SyscallBatch.refuse (batch : SyscallBatch) (call : ToolCall) (rejection : SyscallRejection) : SyscallBatch :=
  { batch with answered := batch.answered ++ [⟨call.id,rejection.reason,true⟩] }

/-- Adjudicate the syscalls of a provider turn in call order. -/
def apply_provider_syscalls (context : PlanContext) : SyscallBatch → List (SyscallCausation × ToolCall) → DriverProgram K SyscallBatch
  | batch,[] => pure batch
  | batch,(causation,call) :: rest => do
    let adjudicated ← match K.decode_syscall call with
      | .ok request => apply_syscall context causation request batch.effect_index batch.effects
      | .error rejection => pure (.error rejection)
    match adjudicated with
    | .ok (outcome,effect_index) =>
      apply_provider_syscalls context (batch.accept (causation_task causation) call outcome effect_index) rest
    | .error rejection =>
      note_rejection (rejection.by (causation_task causation))
      apply_provider_syscalls context (batch.refuse call rejection) rest

/-- A turn that terminates cannot publish what its syscalls asked for. A dispatched batch is
    withheld behind those effects: the last of them to settle dispatches it again. -/
def merge_syscall_effects (effects : List KernelEffect) (step : PlannedStep) (conflict : String) (withhold : Bool) :
    DriverProgram K PlannedStep :=
  if effects.isEmpty then pure step
  else match step.disposition with
    | .Effects published =>
      let published := if withhold then published.filter fun effect => decide (effect.tag ≠ .ExecuteTools) else published
      pure { step with disposition := .Effects (effects ++ published) }
    | .Terminal _ => refuseWith .InvalidLifecycle conflict

/-- Take what the loop has observed so far out of its buffer. -/
def take_observations : LoopProgram K.toLoopParts (List KernelObservation) := do
  let observations := (← get).observations
  clear_observations
  pure observations

/-- Put the facts of the syscalls in front of the facts of the event that came after them. -/
def prepend_observations (observations : List KernelObservation) : DriverProgram K Unit :=
  engine_if_any (modify fun e => { e with observations := observations ++ e.observations })

/-- Feed the assistant message whole, behind what the provider did to the context. -/
def feed_provider_message (completed : ProviderCompleted) : LoopProgram K.toLoopParts LoopAction := do
  if let some compaction := completed.provider_compaction then onCtx (K.absorb_provider_compaction compaction)
  if ¬completed.cleared_tool_results.isEmpty then onCtx (K.absorb_cleared_tool_results completed.cleared_tool_results)
  onCtx (K.set_pending_assistant_replay completed.replay)
  let action ← feed_llm_response ⟨.Assistant,.Text completed.content,completed.tool_calls⟩
  onCtx (K.set_pending_assistant_replay none)
  pure action

variable (context : PlanContext)

/-- The spawn round a batch that grew the workflow owes. -/
def drive_owed_round (root_kind : RootKind) (batch : SyscallBatch) : DriverProgram K SyscallBatch :=
  match batch.round_caller with
  | none => pure batch
  | some caller => do
    let action ← engine_mut (drive_workflow none (some caller))
    match ← disposition_for_at context action root_kind batch.effect_index with
    | (.Effects published,effect_index) => pure { batch with effects := batch.effects ++ published, effect_index }
    | (.Terminal _,_) => refuseWith .InvalidLifecycle "a syscall batch cannot terminate the operation; §7.12 admits effects or a terminal, never both in one step"

/-- One completed provider turn: its syscalls first, then the message, then the continuation. -/
def plan_provider_completed (effect_id : EffectId) (completed : ProviderCompleted) :
    DriverProgram K PlannedStep := do
  let root_kind ← require_root_kind
  let pending ← require_pending_provider_call effect_id
  let derived ← derive_provider_syscalls effect_id pending (← get).consumed_calls []
    (completed.tool_calls.filter fun call => is_syscall_tool call.name)
  engine_mut do
    if let some tokens := completed.observed_input_tokens then onCtx (K.set_observed_prompt_tokens tokens)
    modify fun e => { e with pending_output_truncated := completed.max_tokens_stop }
  let batch ← apply_provider_syscalls context ⟨0,[],none,[],none⟩ derived
  let awaits_kernel_work := !batch.effects.isEmpty || batch.round_caller.isSome
  let batch ← drive_owed_round context root_kind batch
  let syscall_observations ← engine_mut do
    modify fun e => { e with adjudicated_turn := some ⟨batch.answered,if awaits_kernel_work then .Await else .CallProvider⟩ }
    take_observations
  let action ← engine_mut (feed_provider_message completed)
  let (step,_) ← continue_after_at context action root_kind batch.effect_index
  prepend_observations syscall_observations
  let step := if batch.focus.isSome then { step with focus := batch.focus } else step
  let step ← merge_syscall_effects batch.effects step
    "a provider turn that terminates the operation cannot also publish the effects its syscalls asked for (§7.12)" true
  modify fun driver => { driver with
    provider_calls := driver.provider_calls.erase effect_id
    consumed_calls := derived.foldl (fun consumed (_,call) => consumed.insert call.id) driver.consumed_calls }
  pure step

def ToolResultPayload.call_id : ToolResultPayload → CallId
  | .Inline call_id .. | .External call_id .. => call_id
def ToolResultPayload.disposition : ToolResultPayload → ToolResultDisposition
  | .Inline _ _ _ disposition _ | .External _ _ _ disposition .. => disposition

def core_tool_result (payload : ToolResultPayload) : ToolResult :=
  let error_kind := fun is_error : Bool => match ToolResultPayload.disposition payload with
    | .Fatal => some ToolErrorKind.Fatal
    | .Recoverable => if is_error then some .Recoverable else none
  let is_fatal := decide (ToolResultPayload.disposition payload = .Fatal)
  match payload with
  | .Inline call_id output is_error _ durable_content => ⟨call_id,.Text output,durable_content,is_error,is_fatal,error_kind is_error⟩
  | .External call_id preview is_error .. => ⟨call_id,.Text preview,none,is_error,is_fatal,error_kind is_error⟩

/-- The answer to a dispatched call that was never executed. -/
def unexecuted (text : String) (call : ToolCall) : ToolResult := ⟨call.id,.Text text,none,true,false,some .Fatal⟩

def stopped_text : String :=
  "not executed: an earlier call in this batch failed fatally and the executor stopped. This call did not take effect — re-issue it only if the failure it followed does not make it pointless."

/-- A fatal result closes out the calls of its batch that were never answered. -/
def close_out_fatal_batch (submitted : List ToolResultPayload) (dispatched : List ToolCall) : List ToolResult :=
  if submitted.any fun payload => decide (ToolResultPayload.disposition payload = .Fatal) then
    (dispatched.filter fun call => !(submitted.map ToolResultPayload.call_id).contains call.id).map (unexecuted stopped_text)
  else []

def change_residency (handle_id : HandleId) (kind : HandleKind) (tokens : Nat) (residency : Residency) (original_size : Nat) :
    LoopProgram K.toLoopParts Unit := do
  let e ← get
  let (previous,ctx) := K.set_payload_residency handle_id kind tokens residency e.ctx
  set { e with ctx }
  let payload_ref := residency.reference.map Prod.fst
  observe (.PayloadResidencyChanged e.turn handle_id (previous.map Residency.label) residency.label payload_ref original_size)

/-- Move the handle of each external result onto the reference the host supplied. -/
def record_external_payloads : List ToolResultPayload → LoopProgram K.toLoopParts Unit
  | [] => pure ()
  | payload :: rest => do
    match payload with
    | .External call_id _ _ _ payload_ref digest original_size =>
      change_residency call_id .ToolResult 0 (.External payload_ref digest original_size) original_size
    | .Inline .. => pure ()
    record_external_payloads rest

def plan_tools_completed (results : List ToolResultPayload) (measurements : List ToolMeasurement) :
    DriverProgram K PlannedStep := do
  let root_kind ← require_root_kind
  MonadExcept.ofExcept (refuse (results.forM (K.check_payload_policy context.config)))
  let action ← engine_mut do
    let closed := close_out_fatal_batch results (← get).dispatched_tool_calls
    let action ← feed_tool_results (results.map core_tool_result ++ closed) measurements
    record_external_payloads results
    refresh_call_llm_action action
  continue_after context action root_kind

/-- The turn waits while another effect of this operation is still owed. -/
def unless_owed (action : LoopAction) : LoopAction := if context.pending.isEmpty then action else .AwaitingResume

/-- A step that keeps the focus of the fold. -/
def keeping_focus (step : PlannedStep) : DriverProgram K PlannedStep := do pure { step with focus := (← get).focus }

def push_note (after_results : Bool) (text : String) : LoopProgram K.toLoopParts Unit :=
  let message := text_message .User text
  modify fun e =>
    let tokens := max (K.count e.ctx text) 1
    { e with ctx := if after_results then K.push_history_after_tool_results message tokens e.ctx else K.push_history message tokens e.ctx }

def MemoryKind.label : MemoryKind → String
  | .User => "user"
  | .Feedback => "feedback"
  | .Project => "project"
  | .Reference => "reference"

/-- The recalled records enter the context: as index lines of a kernel recall, as notes of a
    search or a fetch. -/
def read_recalls (query : AuthoredMemoryQuery) : List MemoryRecall → LoopProgram K.toLoopParts (List (String × String))
  | [] => pure []
  | recalled :: rest => do
    if query.recalled then
      let lines ← read_recalls query rest
      pure ((recalled.record_ref,K.recall_index_line recalled) :: lines)
    else
      if query.record_id.isSome then onCtx (K.note_memory_read recalled.record_ref)
      push_note true s!"[MEMORY record_ref={recalled.record_ref} kind={MemoryKind.label recalled.kind}] {recalled.content}"
      read_recalls query rest

/-- Resume the turn behind a memory query. -/
def resume_after_query (query : AuthoredMemoryQuery) : LoopProgram K.toLoopParts LoopAction :=
  if query.recalled then resume_after_recall else resume_after_preload

def plan_memory_queried (effect_id : EffectId) (recalls : List MemoryRecall) : DriverProgram K PlannedStep := do
  let root_kind ← require_root_kind
  match (← get).pending_memory_queries[effect_id]? with
  | none => unowned_resolution effect_id "memory query"
  | some query =>
    if let some record_id := query.record_id then
      if 1 < recalls.length ∨ ∃ recalled ∈ recalls, recalled.record_ref ≠ record_id then
        refuseWith .UnexpectedEffectOutcome s!"a fetch of memory record {record_id} must resolve with that record or none"
    modify fun driver => { driver with pending_memory_queries := driver.pending_memory_queries.erase effect_id }
    let action ← engine_mut do
      let turn := (← get).turn
      if let some record_id := query.record_id then
        if recalls.isEmpty then
          push_note true s!"[MEMORY record_ref={record_id}] not found: it was deleted, expired, or is outside this memory scope."
        else onCtx (K.note_memory_expanded record_id)
      let lines ← read_recalls query recalls
      if query.recalled then onCtx (K.push_recalled lines)
      let action ← resume_after_query query
      let text := match query.record_id with
        | some record_id => s!"record_id={record_id}"
        | none => query.text
      observe (.MemoryQueried turn query.binding_id text query.requested_k)
      observeAll (K.derive_recall_lifecycle turn query.binding_id recalls context.input.observed_at_ms context.config.memory_policy)
      pure (unless_owed context action)
    keeping_focus (← continue_after context action root_kind)

/-- The receipt must describe the body the kernel handed over. -/
def verify_page_out_receipt (effect_id : EffectId) (receipt : ArchiveReceipt) : DriverProgram K Unit :=
  match context.resolving.map KernelEffect.effect with
  | some (.ArchivePageOut handle_id payload) =>
    if receipt.handle_id ≠ handle_id ∨ receipt.digest ≠ payload.digest ∨ receipt.original_size ≠ payload.original_size then
      refuseWith .UnexpectedEffectOutcome
      s!"the archive receipt for effect {effect_id} names handle {receipt.handle_id} / digest {receipt.digest}, but the kernel published handle {handle_id} / digest {payload.digest}"
    else pure ()
  | _ => unowned_resolution effect_id "page-out archive"

def plan_page_out_archived (effect_id : EffectId) (receipt : ArchiveReceipt) : DriverProgram K PlannedStep := do
  let root_kind ← require_root_kind
  verify_page_out_receipt context effect_id receipt
  let action ← engine_mut do
    let action ← commit_page_out_archive (some receipt.payload_ref)
    change_residency receipt.handle_id .MemoryPage 0 (.PagedOut receipt.payload_ref receipt.digest) receipt.original_size
    pure action
  continue_after context action root_kind

/-- A child's write settles as a fact and nothing more. The turn behind a model's own proposal
    reads the outcome and resumes. -/
def settle_memory_write (authored : AuthoredMemoryWrite) (observation : KernelObservation) (outcome : String) :
    DriverProgram K PlannedStep := do
  if ¬authored.model_facing then
    engine_mut (observe observation)
    return ← quiet_step
  let root_kind ← require_root_kind
  let action ← engine_mut do
    push_note false s!"[MEMORY PROPOSAL name={authored.name}] {outcome}"
    let action ← resume_after_preload
    observe observation
    pure (unless_owed context action)
  keeping_focus (← continue_after context action root_kind)

/-- Take an authored write off its ledger. -/
def take_memory_write (effect_id : EffectId) : DriverProgram K AuthoredMemoryWrite := do
  let _ ← require_root_kind
  match (← get).pending_memory_writes[effect_id]? with
  | none => unowned_resolution effect_id "memory write"
  | some authored =>
    modify fun driver => { driver with pending_memory_writes := driver.pending_memory_writes.erase effect_id }
    pure authored

def commit_memory_write (effect_id : EffectId) (outcome : Except String String) : DriverProgram K PlannedStep := do
  let authored ← take_memory_write effect_id
  let turn := (← engine_mut get).turn
  match outcome with
  | .ok record_ref =>
    settle_memory_write context authored (.MemoryWritten turn record_ref authored.binding_id authored.kind authored.name authored.size_bytes)
      s!"stored as record {record_ref}."
  | .error error => settle_memory_write context authored (.MemoryWriteFailed turn authored.name error) s!"not stored: {error}"

def commit_memory_candidate (effect_id : EffectId) (candidate : MemoryCandidateReceipt) :
    DriverProgram K PlannedStep := do
  let authored ← take_memory_write effect_id
  if candidate.candidate_id.isEmpty || candidate.receipt_id.isEmpty then
    refuseWith .UnexpectedEffectOutcome "a memory candidate receipt must name its candidate and receipt ids"
  let turn := (← engine_mut get).turn
  settle_memory_write context authored (.MemoryCandidatePending turn candidate.candidate_id authored.name)
    s!"pending review as candidate {candidate.candidate_id}; it is not stored until the host accepts it."

/-- The loaded body must be the body that left. -/
def payload_mismatch (pending : PendingPayloadLoad) (handle_id : HandleId) (content : String) (original_size : Nat) : Option String :=
  if handle_id ≠ pending.handle_id then some s!"it names handle {handle_id}, but the effect addressed {pending.handle_id}"
  else if original_size ≠ content.utf8ByteSize then some s!"it declares {original_size} bytes and carries {content.utf8ByteSize}"
  else if pending.original_size.any (· ≠ original_size) then
    some s!"it carries {original_size} bytes and the handle records {pending.original_size.getD 0}"
  else if K.content_digest content ≠ pending.digest then
    some s!"its content digests to {K.content_digest content}, and the handle records {pending.digest}"
  else none

def commit_payload_load (effect_id : EffectId) (handle_id : HandleId) (content : String) (original_size : Nat) :
    DriverProgram K PlannedStep := do
  let root_kind ← require_root_kind
  match (← get).pending_payload_loads[effect_id]? with
  | none => unowned_resolution effect_id "payload load"
  | some pending =>
    if let some what := payload_mismatch (K := K) pending handle_id content original_size then
      refuseWith .UnexpectedEffectOutcome s!"the payload loaded for effect {effect_id} is not the body the kernel paged out: {what}"
    modify fun driver => { driver with pending_payload_loads := driver.pending_payload_loads.erase effect_id }
    let action ← engine_mut do
      let e ← get
      let body := s!"[PAYLOAD handle_id={pending.handle_id}]\n{content}"
      let tokens := max (K.count e.ctx body) 1
      push_note false body
      let (previous,ctx) := K.set_payload_residency pending.handle_id .ToolResult tokens .Resident (← get).ctx
      modify fun e => { e with ctx }
      let action ← resume_after_preload
      observe (.PayloadResidencyChanged e.turn pending.handle_id (previous.map Residency.label) "resident" none original_size)
      pure (unless_owed context action)
    keeping_focus (← continue_after context action root_kind)

/-- A batch of launches: the attempts that failed to start are spent. -/
def plan_tasks_spawned (launched : List (TaskId × TaskLaunchStatus)) : DriverProgram K PlannedStep := do
  let started := launched.filterMap fun
    | (task_id,.Started) => some task_id
    | _ => none
  let failures := launched.filterMap fun
    | (task_id,.Failed _) => some task_id
    | _ => none
  modify fun driver => { driver with attempts := failures.foldl (fun attempts id => attempts.erase id) driver.attempts }
  let root_kind ← require_root_kind
  let action ← engine_mut (resolve_workflow_spawn started failures)
  continue_after context action root_kind

def plan_effect_success (effect_id : EffectId) : EffectSuccess → DriverProgram K PlannedStep
  | .ProviderCompleted completed => plan_provider_completed context effect_id completed
  | .ProviderOverflow observed_input_tokens => do
    let root_kind ← require_root_kind
    let _ ← require_pending_provider_call effect_id
    let action ← engine_mut do
      if let some tokens := observed_input_tokens then onCtx (K.set_observed_prompt_tokens tokens)
      recover_from_context_overflow
    modify fun driver => { driver with provider_calls := driver.provider_calls.erase effect_id }
    continue_after context action root_kind
  | .Tools results measurements => plan_tools_completed context results measurements
  | .Approval approved_call_ids denied_call_ids => do
    let root_kind ← require_root_kind
    let action ← engine_mut do
      let action ← resolve_approval approved_call_ids denied_call_ids
      onTasks fun tasks => tasks.notify (.Approval "pending")
      pure action
    continue_after context action root_kind
  | .TasksSpawned launched => plan_tasks_spawned context launched
  | .TasksPreempted preempted => do
    let root_kind ← require_root_kind
    modify fun driver => { driver with attempts := preempted.foldl (fun attempts id => attempts.erase id) driver.attempts }
    let action ← engine_mut resolve_preempt
    continue_after context action root_kind
  | .MemoryPersisted (some record_ref) none => commit_memory_write context effect_id (.ok record_ref)
  | .MemoryPersisted none (some candidate) => commit_memory_candidate context effect_id candidate
  | .MemoryPersisted .. => refuseWith .UnexpectedEffectOutcome "a memory write resolves with exactly one of a receipt or a candidate"
  | .MemoryQueried recalls => plan_memory_queried context effect_id recalls
  | .PageOutArchived receipt => plan_page_out_archived context effect_id receipt
  | .MilestoneEvaluated passed phase_id reason => do
    let root_kind ← require_root_kind
    let action ← engine_mut (feed_milestone_result passed phase_id reason)
    continue_after context action root_kind
  | .PayloadLoaded handle_id content original_size => commit_payload_load context effect_id handle_id content original_size

/-- The two effect kinds without which the operation cannot go on. -/
def host_effect_terminal (tag : EffectKindTag) (failure : HostEffectFailure) : DriverProgram K PlannedStep := do
  let root_kind ← require_root_kind
  let usage := (← get).usage_report
  engine_if_any close_for_host_effect_failure
  let detail := if failure.message.isEmpty then "" else s!": {failure.message}"
  let message := s!"the host could not execute this operation's {tag.as_str} effect ({failure.kind.as_str}){detail}"
  pure ⟨some root_kind,(← get).focus,[],.Terminal (.Failed .HostEffectFailed message usage)⟩

def unrun_text (failure : HostEffectFailure) : String :=
  s!"not executed: the executor could not run this batch ({failure.kind.as_str}). The call did not take effect — try a different approach or a smaller step."

/-- One decision for each effect kind, taken once; the kernel never issues an intent again. -/
def plan_effect_failure (effect_id : EffectId) (failure : HostEffectFailure) : DriverProgram K PlannedStep := do
  match context.resolving with
  | none => unowned_resolution effect_id "effect"
  | some pending =>
  let error := host_failure_text failure
  match pending.effect with
  | .CallProvider .. =>
    modify fun driver => { driver with provider_calls := driver.provider_calls.erase effect_id }
    host_effect_terminal .CallProvider failure
  | .EvaluateMilestone .. => host_effect_terminal .EvaluateMilestone failure
  | .ExecuteTools _ =>
    let root_kind ← require_root_kind
    let action ← engine_mut do
      let calls := (← get).dispatched_tool_calls
      feed_tool_results (calls.map (unexecuted (unrun_text failure))) []
    continue_after context action root_kind
  | .RequestApproval _ =>
    let root_kind ← require_root_kind
    let action ← engine_mut do
      let turn := (← get).turn
      let action ← resolve_approval [] []
      observe (.ApprovalResolutionFailed turn error)
      pure action
    continue_after context action root_kind
  | .SpawnTasks .. =>
    let root_kind ← require_root_kind
    let failures := (← engine_mut get).pending_spawn_agent_ids
    modify fun driver => { driver with attempts := failures.foldl (fun attempts id => attempts.erase id) driver.attempts }
    let action ← engine_mut (resolve_workflow_spawn [] failures)
    continue_after context action root_kind
  | .PreemptTasks attempts reason =>
    let _ ← require_root_kind
    engine_mut do observe (.AgentPreemptFailed (← get).turn (attempts.map TaskAttemptRef.task_id) reason error)
    quiet_step
  | .PersistMemory .. => commit_memory_write context effect_id (.error error)
  | .QueryMemory .. =>
    let root_kind ← require_root_kind
    match (← get).pending_memory_queries[effect_id]? with
    | none => unowned_resolution effect_id "memory query"
    | some query =>
      modify fun driver => { driver with pending_memory_queries := driver.pending_memory_queries.erase effect_id }
      -- What else the turn is owed is not looked at here.
      let action ← engine_mut do
        let turn := (← get).turn
        let action ← resume_after_query query
        observe (.MemoryQueryFailed turn query.binding_id query.text error)
        pure action
      keeping_focus (← continue_after context action root_kind)
  | .ArchivePageOut .. =>
    let root_kind ← require_root_kind
    let action ← engine_mut (abandon_page_out_archive error)
    continue_after context action root_kind
  | .LoadPayload .. =>
    let root_kind ← require_root_kind
    let handle_id := ((← get).pending_payload_loads[effect_id]?.map PendingPayloadLoad.handle_id).getD ""
    modify fun driver => { driver with pending_payload_loads := driver.pending_payload_loads.erase effect_id }
    let action ← engine_mut do
      let turn := (← get).turn
      let action ← resume_after_preload
      observe (.PayloadLoadFailed turn handle_id error)
      pure action
    keeping_focus (← continue_after context action root_kind)

/-- The single entry through which a pending effect is answered. -/
def plan_resolve_effect (effect_id : EffectId) (outcome : EffectOutcome) : DriverProgram K PlannedStep := do
  let step ← match outcome with
    | .Succeeded success => plan_effect_success context effect_id success
    | .Failed failure => plan_effect_failure context effect_id failure
  engine_mut (onTasks fun tasks => tasks.notify (.Effect effect_id))
  pure step

end Deepstrike.Driver

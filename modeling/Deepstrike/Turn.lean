import Deepstrike.Loop

/-!
A provider turn: the pacing trap, the repeat fuse, the exposure gate, the governance gate with its
approval suspension, and the resolution of an approval.
-/
namespace Deepstrike.Loop
open Wire Vocabulary Components

variable {K : LoopParts}

def criteria_check_finish (criteria : List String) : String :=
  let listed := " | ".intercalate criteria
  s!"[CRITERIA CHECK] You are about to finish. Verify each acceptance criterion first: {listed}. If any is NOT met, continue working on it now. If all are met, give the final answer."
def criteria_check_stop (criteria : List String) : String :=
  let listed := " | ".intercalate criteria
  s!"[CRITERIA CHECK] You proposed stopping the loop. Verify each acceptance criterion first: {listed}. If any is NOT met, continue working (or pace(continue)). If all are met, call pace(stop) again."

/-- Whether the one self-check turn over the acceptance criteria is still owed. -/
def LoopStateMachine.criteria_gate_due (e : LoopStateMachine K) : Bool :=
  e.policies.criteria_gate_enabled && !e.criteria_gate_fired && !(K.criteria e.ctx).isEmpty

def fire_criteria_gate (note : List String → String) : LoopProgram K LoopAction := do
  let e ← get
  modify fun e => { e with criteria_gate_fired := true }
  push_signal (note (K.criteria e.ctx))
  observe (.CriteriaGateFired e.turn (K.criteria e.ctx))
  set_phase .Reason
  emit_call_llm

/-- The pacing trap: an accepted decision ends the round with one report turn without tools. -/
def handle_pace_call (loop_round : Json) (call : ToolCall) : LoopProgram K LoopAction := do
  let e ← get
  match K.pace_verdict call.arguments loop_round (e.budget_grant.bind BudgetGrant.rounds) e.local_rounds_completed e.ctx with
  | .malformed note =>
    push_synthetic_tool_result call.id "pace rejected: next must be continue|sleep|stop" false
    push_signal note
    set_phase .Reason
    emit_call_llm
  | .decided stop decision acknowledgement =>
    if stop && e.criteria_gate_due then
      push_synthetic_tool_result call.id "pace(stop) noted — verify the acceptance criteria first, then pace again." false
      fire_criteria_gate criteria_check_stop
    else
      modify fun e => { e with local_rounds_completed := e.local_rounds_completed+1 }
      observe (.RoundPaced e.turn (e.local_rounds_completed+1) decision)
      push_synthetic_tool_result call.id acknowledgement false
      modify fun e => { e with pending_pace := some decision, pending_termination := some .Completed }
      set_phase .Reason
      emit_call_llm

variable (calls : List ToolCall)

def turn_signature : String :=
  ", ".intercalate ((calls.filter fun call => !is_meta_tool call.name).map fun call =>
    let args := K.compact_tool_args call.arguments
    if args.isEmpty then call.name else s!"{call.name}({args})")

def fuse_denied_results (count : Nat) : List ToolResult :=
  calls.map fun call => ⟨call.id,
  .Text s!"not executed: this exact call (same tool, same arguments) has been issued {count}x consecutively with no new outcome — do something DIFFERENT: change the arguments, use another tool, or report the task state as it stands",none,true,false,none⟩

/-- The repeat fuse: deny, then terminate, a turn that keeps repeating itself. -/
def check_repeat_fuse : LoopProgram K (Option LoopAction) := do
  let e ← get
  let signature := turn_signature (K := K) calls
  let fuse := e.policies.repeat_fuse
  if !fuse.enabled || signature.isEmpty then return none
  if e.repeat_sig ≠ some signature then
    set { e with repeat_sig := some signature, repeat_count := 1 }
    return none
  let count := e.repeat_count+1
  set { e with repeat_count := count }
  if 0 < fuse.terminate_after ∧ fuse.terminate_after ≤ count then
    observe (.RepeatFuseTripped e.turn signature count "terminate")
    push_signal s!"[NO-PROGRESS] `{signature}` was re-issued {count}x consecutively with no new outcome. The run is terminating. Report what was accomplished and what remains, in plain text."
    modify fun e => { e with pending_termination := some .NoProgress }
    return some (← commit_synthetic_results (fuse_denied_results calls count))
  if 0 < fuse.deny_after ∧ fuse.deny_after ≤ count then
    observe (.RepeatFuseTripped e.turn signature count "deny")
    return some (← commit_synthetic_results (fuse_denied_results calls count))
  return none

def denial (call_id : CallId) (text : String) : ToolResult := ⟨call_id,.Text text,none,true,false,some .GovernanceDenied⟩

def LoopStateMachine.exposes (e : LoopStateMachine K) (call : ToolCall) : Bool :=
  (match e.exposed_tool_names with
    | some names => names.contains call.name
    | none => false) || call.name == "pace" || is_exposure_exempt_meta_tool call.name

/-- Take the denied results of this turn and commit them as a tool turn of their own. -/
def commit_denied_results : LoopProgram K LoopAction := do
  let results := (← get).pending_denied_results
  modify fun e => { e with pending_denied_results := [] }
  commit_synthetic_results results

/-- Calls the model was never shown are denied; `inr` is what may proceed. -/
def gate_exposed_tool_calls : LoopProgram K (LoopAction ⊕ List ToolCall) := do
  let e ← get
  let denied := calls.filter fun call => !e.exposes call
  let allowed := calls.filter e.exposes
  if denied.isEmpty then return .inr allowed
  modify fun e => { e with
    pending_denied_results := e.pending_denied_results ++ denied.map fun call =>
      denial call.id s!"Tool '{call.name}' is not part of this run's toolset. Choose from the tools listed in your tools schema." }
  if allowed.isEmpty then return .inl (← commit_denied_results)
  return .inr allowed

/-- `Invoke` at the syscall trap: an expired capability lease, then the governance pipeline. -/
def evaluate_invoke (call : ToolCall) : LoopProgram K Disposition := do
  let e ← get
  match K.expired_tool_capability e.tasks e.turn call e.ledger with
  | some reason => pure (.Deny "capability_lease" reason)
  | none =>
    match e.governance with
    | none => pure .Allow
    | some pipeline =>
      let (verdict,pipeline) := K.evaluate call e.run_spec pipeline
      set { e with governance := some pipeline }
      pure verdict

/-- The gate's verdicts on a batch, in call order: what it wants approved and what it denies. -/
def evaluate_calls : List ToolCall → LoopProgram K (List (CallId × String) × List (CallId × String))
  | [] => pure ([],[])
  | call :: rest => do
    let verdict ← evaluate_invoke call
    let (gated,denied) ← evaluate_calls rest
    match verdict with
    | .Allow | .Defer _ => pure (gated,denied)
    | .Gate reason => pure ((call.id,reason) :: gated,denied)
    | .Deny _ reason => pure (gated,(call.id,reason) :: denied)
    | .RateLimited retry => pure (gated,(call.id,s!"rate limited, retry after {retry}ms") :: denied)

/-- The reason a call was gated; the last verdict on an id counts. -/
def reason_for (gated_reasons : List (CallId × String)) (id : CallId) : Option String := gated_reasons.reverse.lookup id

def approval_requests (gated_reasons : List (CallId × String)) : List ApprovalRequest :=
  calls.filterMap fun call => (reason_for gated_reasons call.id).map fun reason => ⟨call.id,call.name,call.arguments,reason⟩

/-- Dispatch a batch to the host. -/
def dispatch : LoopProgram K LoopAction := do
  set_phase (.Act calls)
  set_lifecycle .Running none
  pure (.ExecuteTools calls)

/-- The governance gate over a batch, up to the action the turn takes. -/
def gate_tool_calls : LoopProgram K LoopAction := do
  if (← get).governance.isNone then return ← dispatch calls
  let (gated,denied) ← evaluate_calls calls
  modify fun e => { e with
    pending_denied_results := e.pending_denied_results ++ denied.map fun (id,reason) => denial id s!"permission denied: {reason}" }
  let remaining := calls.filter fun call => !(denied.map Prod.fst).contains call.id
  if remaining.isEmpty then return ← commit_denied_results
  if gated.isEmpty then return ← dispatch remaining
  modify fun e => { e with suspend_state := some (.AskUser remaining gated) }
  set_lifecycle .Suspended (some (.Any,[.Approval "pending"]))
  observe (.Suspended (← get).turn "ask_user" (gated.map Prod.fst))
  pure (.RequestApproval (approval_requests remaining gated))

/-- Apply a host's approval to the suspended batch. What is not approved is denied. -/
def resolve_approval (approved_calls denied_calls : List CallId) : LoopProgram K LoopAction := do
  clear_observations
  let e ← get
  let state := e.suspend_state
  set { e with suspend_state := none }
  match state with
  | some (.AskUser calls gated_reasons) =>
    if ¬e.is_suspended then return .AwaitingResume
    observeAll (calls.filterMap fun call => (reason_for gated_reasons call.id).map fun reason => .ToolGated e.turn call.id call.name reason)
    observe (.Resumed e.turn approved_calls denied_calls)
    let gatedOut := fun call : ToolCall => (reason_for gated_reasons call.id).isSome && !approved_calls.contains call.id
    let to_execute := calls.filter fun call => !gatedOut call
    modify fun e => { e with
      pending_denied_results := e.pending_denied_results ++ (calls.filter gatedOut).map fun call =>
        let reason := (reason_for gated_reasons call.id).getD ""
        denial call.id s!"permission denied: {reason}" }
    if to_execute.isEmpty then
      let results := (← get).pending_denied_results
      modify fun e => { e with pending_denied_results := [] }
      set_phase .Reason
      set_lifecycle .Running none
      feed_tool_results results []
    else dispatch to_execute
  | _ => pure .AwaitingResume

def output_truncation_nudge : String :=
  "Output token limit hit. Resume directly — no apology, no recap of what you were doing. Pick up mid-thought if that is where the cut happened. Break remaining work into smaller pieces."

/-- A provider turn without tool calls: a cut-off answer is resumed, a milestone evaluated, the
    criteria checked once, waiting signals delivered; otherwise the run is complete. -/
def finish_turn (message : CoreMessage) (truncated signals_waiting : Bool) : LoopProgram K LoopAction := do
  let e ← get
  if truncated && decide (e.output_recovery_attempts < e.policies.output_recovery_attempt_limit) then
    modify fun e => { e with output_recovery_attempts := e.output_recovery_attempts+1 }
    push_history message
    push_signal output_truncation_nudge
    set_phase .Reason
    return ← emit_call_llm
  if ¬e.milestone.is_complete then
    push_history message
    return .EvaluateMilestone (e.milestone.phase_id.getD "")
  if e.criteria_gate_due then
    push_history message
    return ← fire_criteria_gate criteria_check_finish
  if signals_waiting then
    push_history message
    set_phase .Reason
    return ← emit_call_llm
  terminate .Completed (some message)

/-- Close the calls the driver adjudicated with their answers; the rest is host work. -/
def answer_calls (answered : List AnsweredCall) : LoopProgram K (List ToolCall) := do
  onCtx fun ctx => answered.foldl (fun ctx answer =>
    let message := tool_message answer.call_id answer.output answer.is_error none
    K.push_history message (K.count_message ctx message) ctx) ctx
  pure (calls.filter fun call => !(answered.map AnsweredCall.call_id).contains call.id)

/-- Host work of a turn: the pacing trap, the fuse, the two gates, and the dispatch. -/
def run_calls : LoopProgram K LoopAction := do
  if let some loop_round := (← get).run_spec.bind AgentRunSpec.loop_round then
    if let some call := calls.find? fun call => call.name == "pace" then
      onCtx fun ctx => (calls.filter fun sibling => sibling.id ≠ call.id).foldl (fun ctx sibling =>
        let message := tool_message sibling.id "not executed: superseded by pace — the round is ending" false none
        K.push_history message (K.count_message ctx message) ctx) ctx
      return ← handle_pace_call loop_round call
  onCtx (K.note_tool_actions (calls.map fun call => (call.name,K.compact_tool_args call.arguments)))
  if let some action := ← check_repeat_fuse calls then return action
  match ← gate_exposed_tool_calls calls with
  | .inl action => pure action
  | .inr calls => gate_tool_calls calls

/-- `LLMResponse`. -/
def feed_llm_response (message : CoreMessage) : LoopProgram K LoopAction := do
  begin_event
  let e ← get
  let adjudicated := e.adjudicated_turn.getD ⟨[],.CallProvider⟩
  set { e with
    adjudicated_turn := none
    ctx := K.drain_signals (min e.delivered_signals_len (K.signals_len e.ctx)) e.ctx
    delivered_signals_len := 0 }
  drain_queued_signals
  let e ← get
  let signals_waiting := decide (0 < K.signals_len e.ctx)
  let truncated := e.pending_output_truncated
  set { e with
    recovery_attempts := 0
    total_tokens := e.total_tokens+K.count_message e.ctx message
    pending_output_truncated := false
    output_recovery_attempts := if truncated then e.output_recovery_attempts else 0
    pending_termination := none }
  if let some reason := e.pending_termination then return ← terminate reason (some message)
  if message.tool_calls.isEmpty then return ← finish_turn message truncated signals_waiting
  push_history message
  if let some now := (← get).last_now_ms then onCtx (K.record_activity now)
  let calls ← answer_calls message.tool_calls adjudicated.answered_calls
  if calls.isEmpty then
    set_phase .Reason
    match adjudicated.idle_continuation with
    | .CallProvider => emit_call_llm
    | .Await => pure .AwaitingResume
  else run_calls calls

end Deepstrike.Loop

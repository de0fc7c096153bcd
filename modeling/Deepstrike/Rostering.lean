import Deepstrike.Tolerating

/-!
The turns of an agent, the rounds of a workflow and the host's transitions respect every tolerant
relation on the tasks. A child is spawned behind the gate, and the gate lets it pass where it fits.
-/
namespace Deepstrike.Loop
open Wire Tasks Vocabulary Components Frames Spans Lands OnRoster Tolerant ChildResult

variable {K : LoopParts} {α : Type} {related : Roster → Roster → Prop} [Tolerant related]

/-! A provider turn. -/

private theorem fire_criteria_gate_tolerated (note : List String → String) : Tolerated (K := K) related (fire_criteria_gate note) := by
  unfold fire_criteria_gate
  refine of_get fun e => here ?_
  refine seq (tolerated_aside fun _ => rfl) fun _ => (push_signal_tolerated _).seq fun _ => ?_
  exact (observe_tolerated _).seq fun _ => emit_reasoning_tolerated

private theorem handle_pace_call_tolerated (loop_round : Json) (call : ToolCall) : Tolerated (K := K) related (handle_pace_call loop_round call) := by
  unfold handle_pace_call
  refine of_get fun e => here ?_
  split
  · exact (push_synthetic_tool_result_tolerated _ _ _).seq fun _ => (push_signal_tolerated _).seq fun _ => emit_reasoning_tolerated
  split
  · exact (push_synthetic_tool_result_tolerated _ _ _).seq fun _ => fire_criteria_gate_tolerated _
  · refine seq (tolerated_aside fun _ => rfl) fun _ => (observe_tolerated _).seq fun _ => ?_
    refine (push_synthetic_tool_result_tolerated _ _ _).seq fun _ => seq (tolerated_aside fun _ => rfl) fun _ => ?_
    exact emit_reasoning_tolerated

private theorem check_repeat_fuse_tolerated (calls : List ToolCall) : Tolerated (K := K) related (check_repeat_fuse calls) := by
  have answered (results : List ToolResult) : Tolerated (K := K) related (do pure (some (← commit_synthetic_results results))) :=
    (commit_synthetic_results_tolerated results).seq fun _ => tolerated_pure
  unfold check_repeat_fuse
  refine of_get fun e => ?_
  dsimp only
  split
  · exact here tolerated_pure
  split
  · exact set_spans (aside rfl) tolerated_pure
  refine set_spans (aside rfl) ?_
  split
  · refine (observe_tolerated _).seq fun _ => (push_signal_tolerated _).seq fun _ => ?_
    exact seq (tolerated_aside fun _ => rfl) fun _ => answered _
  split
  · exact (observe_tolerated _).seq fun _ => answered _
  · exact tolerated_pure

private theorem commit_denied_results_tolerated : Tolerated (K := K) related commit_denied_results := by
  unfold commit_denied_results
  refine of_get fun e => here ?_
  exact seq (tolerated_aside fun _ => rfl) fun _ => commit_synthetic_results_tolerated _

private theorem gate_exposed_tool_calls_tolerated (calls : List ToolCall) : Tolerated (K := K) related (gate_exposed_tool_calls calls) := by
  unfold gate_exposed_tool_calls
  refine of_get fun e => here ?_
  dsimp only
  split
  · exact tolerated_pure
  refine seq (tolerated_aside fun _ => rfl) fun _ => ?_
  split
  · exact commit_denied_results_tolerated.seq fun _ => tolerated_pure
  · exact tolerated_pure

private theorem evaluate_calls_tolerated (calls : List ToolCall) : Tolerated (K := K) related (evaluate_calls calls) := by
  have evaluated (call : ToolCall) : Tolerated (K := K) related (evaluate_invoke call) := by
    unfold evaluate_invoke
    refine of_get fun e => ?_
    split
    · exact here tolerated_pure
    split
    · exact here tolerated_pure
    · exact set_spans (aside rfl) tolerated_pure
  induction calls with
  | nil => exact tolerated_pure
  | cons call rest ih =>
  unfold evaluate_calls
  refine (evaluated call).seq fun verdict => ih.seq fun ⟨gated,denied⟩ => ?_
  dsimp only
  split <;> exact tolerated_pure

theorem dispatch_tolerated (calls : List ToolCall) : Tolerated (K := K) related (dispatch calls) :=
  (set_phase_tolerated _).seq fun _ => (set_lifecycle_tolerated _ _).seq fun _ => tolerated_pure

private theorem gate_tool_calls_tolerated (calls : List ToolCall) : Tolerated (K := K) related (gate_tool_calls calls) := by
  unfold gate_tool_calls
  refine of_get fun e => here ?_
  dsimp only
  split
  · exact dispatch_tolerated calls
  refine (evaluate_calls_tolerated calls).seq fun ⟨gated,denied⟩ => ?_
  refine seq (tolerated_aside fun _ => rfl) fun _ => ?_
  split
  · exact commit_denied_results_tolerated
  split
  · exact dispatch_tolerated _
  refine seq (tolerated_aside fun _ => rfl) fun _ => ?_
  refine (set_lifecycle_tolerated _ _).seq fun _ => of_get fun e => here ?_
  exact (observe_tolerated _).seq fun _ => tolerated_pure

theorem resolve_approval_tolerated (approved_calls denied_calls : List CallId) :
    Tolerated (K := K) related (resolve_approval approved_calls denied_calls) := by
  unfold resolve_approval
  refine clear_observations_tolerated.seq fun _ => of_get fun e => ?_
  dsimp only
  refine set_spans (aside rfl) ?_
  split
  · split
    · exact tolerated_pure
    refine (observeAll_tolerated _).seq fun _ => (observe_tolerated _).seq fun _ => ?_
    refine seq (tolerated_aside fun _ => rfl) fun _ => ?_
    split
    · refine of_get fun e => here ?_
      refine seq (tolerated_aside fun _ => rfl) fun _ => ?_
      exact (set_phase_tolerated _).seq fun _ => (set_lifecycle_tolerated _ _).seq fun _ => feed_tool_results_tolerated _ _
    · exact dispatch_tolerated _
  · exact tolerated_pure

private theorem finish_turn_tolerated (message : CoreMessage) (truncated signals_waiting : Bool) :
    Tolerated (K := K) related (finish_turn message truncated signals_waiting) := by
  unfold finish_turn
  refine of_get fun e => here ?_
  split
  · refine seq (tolerated_aside fun _ => rfl) fun _ => (push_history_tolerated _).seq fun _ => (push_signal_tolerated _).seq fun _ => ?_
    exact emit_reasoning_tolerated
  split
  · exact (push_history_tolerated _).seq fun _ => tolerated_pure
  split
  · exact (push_history_tolerated _).seq fun _ => fire_criteria_gate_tolerated _
  split
  · exact (push_history_tolerated _).seq fun _ => emit_reasoning_tolerated
  · exact terminate_tolerated _ _

private theorem answer_calls_tolerated (calls : List ToolCall) (answered : List AnsweredCall) :
    Tolerated (K := K) related (answer_calls calls answered) := (onCtx_tolerated _).seq fun _ => tolerated_pure

private theorem run_calls_tolerated (calls : List ToolCall) : Tolerated (K := K) related (run_calls calls) := by
  unfold run_calls
  refine of_get fun e => here ?_
  extract_lets rest
  have gated (u : Unit) : Tolerated (K := K) related (rest u) := by
    unfold rest
    refine (onCtx_tolerated _).seq fun _ => (check_repeat_fuse_tolerated calls).seq fun fused => ?_
    split
    · exact tolerated_pure
    · refine (gate_exposed_tool_calls_tolerated calls).seq fun exposed => ?_
      split
      · exact tolerated_pure
      · exact gate_tool_calls_tolerated _
  split
  · split
    · exact (onCtx_tolerated _).seq fun _ => handle_pace_call_tolerated _ _
    · exact gated ()
  · exact gated ()

theorem feed_llm_response_tolerated (message : CoreMessage) :
    Tolerated (K := K) related (feed_llm_response message) := by
  unfold feed_llm_response
  refine begin_event_tolerated.seq fun _ => of_get fun e => ?_
  extract_lets adjudicated answer
  refine set_spans (aside rfl) (drain_queued_signals_tolerated.seq fun _ => of_get fun e => ?_)
  extract_lets waiting truncated
  have answers (u : Unit) : Tolerated (K := K) related (answer u) := by
    unfold answer
    refine (answer_calls_tolerated _ _).seq fun calls => ?_
    split
    · refine (set_phase_tolerated _).seq fun _ => ?_
      split
      · exact emit_call_llm_tolerated
      · exact tolerated_pure
    · exact run_calls_tolerated calls
  refine set_spans (aside rfl) ?_
  split
  · exact terminate_tolerated _ _
  split
  · exact finish_turn_tolerated _ _ _
  refine (push_history_tolerated _).seq fun _ => of_get fun e => here ?_
  split
  · exact (onCtx_tolerated _).seq answers
  · exact answers ()

/-! The rounds of a workflow. -/

theorem process_changed_tolerated (id : TaskId) : Tolerated (K := K) related (process_changed id) := by
  unfold process_changed
  refine of_get fun e => here ?_
  split
  · split
    · exact observe_tolerated _
    · exact tolerated_pure
  · exact tolerated_pure

theorem reject_control_tolerated (operation : String) (subject : Option TaskId) (reason : String) :
    Tolerated (K := K) related (reject_control operation subject reason) := by
  unfold reject_control
  refine of_get fun e => here ?_
  exact (push_signal_tolerated _).seq fun _ => observe_tolerated _

/-- The spawn is neither refused nor put off. -/
def Passes : Disposition → Prop
  | .Deny _ _ | .Defer _ => False
  | _ => True

/-- A verdict of the gate: no task is touched, and what passes fits. -/
def Judged (before : LoopStateMachine K) (verdict : Disposition) (after : LoopStateMachine K) : Prop :=
  after.roster = before.roster ∧ (Passes verdict → before.roster.Open)

/-- A verdict of the gate touches no task, and what passes fits. -/
theorem evaluate_spawn_quota_deferrable_judged (caller : Option TaskId) (manifest : IsolationManifest)
    (e : LoopStateMachine K) :
    Lands (evaluate_spawn_quota_deferrable caller manifest) e (Judged e) fun after => after.roster = e.roster := by
  unfold evaluate_spawn_quota_deferrable onLedger
  refine (lands_bind _ _ _).mpr ((lands_modify _ _).mpr ((lands_bind _ _ _).mpr ((lands_get _).mpr ?_)))
  extract_lets quota concurrency grant_max reserve deeper
  have refused (verdict : Disposition) (entered : LoopStateMachine K) (same : entered.roster = e.roster) (denied : ¬Passes verdict) :
      Lands (pure verdict : LoopProgram K Disposition) entered (Judged e) fun after => after.roster = e.roster :=
    (lands_pure _ _).mpr ⟨same,fun allowed => (denied allowed).elim⟩
  have reserves (opens : e.roster.Open) (u : Unit) (entered : LoopStateMachine K) (same : entered.roster = e.roster) :
      Lands (reserve u) entered (Judged e) fun after => after.roster = e.roster := by
    unfold reserve
    split
    · exact (lands_pure _ _).mpr ⟨same,fun _ => opens⟩
    split
    · exact refused _ _ same id
    · simp only [lands_bind,lands_get,lands_set,lands_pure]
      exact ⟨same,fun _ => opens⟩
  have goes_deeper (opens : e.roster.Open) (u : Unit) (entered : LoopStateMachine K) (same : entered.roster = e.roster) :
      Lands (deeper u) entered (Judged e) fun after => after.roster = e.roster := by
    unfold deeper
    split
    · split
      · exact refused _ _ same id
      · exact reserves opens () entered same
    · exact reserves opens () entered same
  split
  · exact refused _ _ rfl id
  split
  · exact refused _ _ rfl id
  next free =>
  have slot (most : Nat) (limited : most ∈ e.roster.slots) : e.roster.tasks.running < most := by
    have limits : concurrency = some most := limited
    rw [limits] at free
    show e.tasks.running < most
    simpa using free
  split
  next most limits =>
    split
    · split
      · refine (lands_bind _ _ _).mpr ((lands_modify _ _).mpr ?_)
        exact refused _ _ rfl id
      · exact refused _ _ rfl id
    next room =>
    refine goes_deeper ⟨slot,fun place limited => ?_⟩ () _ rfl
    have limits' : e.roster.places = some most := limits
    rw [limits',Option.mem_some_iff] at limited
    exact limited ▸ Nat.lt_of_not_le room
  next unlimited =>
  have places : e.roster.places = none := by
    cases found : e.roster.places with
    | none => rfl
    | some most => exact (unlimited most found).elim
  refine goes_deeper ⟨slot,fun place limited => ?_⟩ () _ rfl
  rw [places] at limited
  cases limited

/-- A node is spawned where the gate has just found room. -/
theorem spawn_nodes_tolerated (caller : Option TaskId) (nodes : List Nat) :
    Tolerated (K := K) related (spawn_nodes caller nodes) := by
  induction nodes with
  | nil => exact tolerated_pure
  | cons node rest ih =>
  have denied (u : Unit) : Tolerated (K := K) related (do onRun (K.mark_denied node); spawn_nodes caller rest) :=
    (onRun_tolerated _).seq fun _ => ih
  unfold spawn_nodes
  refine of_get fun e => ?_
  split
  · exact ih e
  next run _ =>
  split
  · refine here ((onRun_tolerated _).seq fun _ => of_get fun e => here ?_)
    exact (push_signal_tolerated _).seq fun _ => ih
  dsimp only
  refine (lands_bind _ _ _).mpr ((evaluate_spawn_quota_deferrable_judged caller _ e).mono (fun verdict gated ⟨same,opens⟩ => ?_)
    fun _ same => .aside same)
  have judged : OnRoster related e gated := .aside same
  suffices driven : Lands _ gated (fun _ after => OnRoster related gated after ∧ True) (OnRoster related gated) from
    driven.mono (fun _ _ both => ⟨next judged both.1,trivial⟩) fun _ left => next judged left
  split
  next =>
    have fits : gated.roster.Open := by
      rw [same]
      exact opens trivial
    refine (lands_bind _ _ _).mpr ((lands_get _).mpr ?_)
    split
    · exact denied () gated
    next parent _ =>
    split
    · exact ((onRun_tolerated _).seq fun _ => (observe_tolerated _).seq fun _ => ih) gated
    next tasks spawned =>
    refine set_spans (Tolerant.spawned gated.roster _ _ tasks fits spawned) ?_
    refine (onRun_tolerated _).seq fun _ => of_get fun e => here ?_
    exact ih.seq fun _ => tolerated_pure
  · exact here tolerated_pure
  · exact denied () gated

private theorem spawn_ready_workflow_nodes_tolerated (caller : Option TaskId) : Tolerated (K := K) related (spawn_ready_workflow_nodes caller) := by
  have ordered (ready : List Nat) : Tolerated (K := K) related (order_local_runnables ready) := by
    unfold order_local_runnables
    refine of_get fun e => here ?_
    extract_lets named order
    split
    · exact (observe_tolerated _).seq fun _ => tolerated_pure
    · exact tolerated_pure
  unfold spawn_ready_workflow_nodes
  refine of_get fun e => ?_
  extract_lets collected
  have collects (ready : List Nat) : Tolerated (K := K) related (collected ready) :=
    (ordered ready).seq fun _ => spawn_nodes_tolerated caller _
  split
  · exact set_spans (aside rfl) (collects _)
  · exact here (collects [])

private theorem finish_workflow_tolerated : Tolerated (K := K) related finish_workflow := by
  unfold finish_workflow
  refine of_get fun e => here ?_
  extract_lets finished
  have finishes (u : Unit) : Tolerated (K := K) related (finished u) := by
    unfold finished
    refine seq (tolerated_aside fun _ => rfl) fun _ => ?_
    split
    · exact (set_lifecycle_tolerated _ _).seq fun _ => tolerated_pure
    · exact emit_reasoning_tolerated
  split
  · exact (observe_tolerated _).seq finishes
  · exact finishes ()

/-- Driving the workflow relates the rosters. -/
theorem drive_workflow_tolerated (just_completed caller : Option TaskId) :
    Tolerated (K := K) related (drive_workflow just_completed caller) := by
  unfold drive_workflow
  extract_lets finishing driven
  have drives (u : Unit) : Tolerated (K := K) related (driven u) := by
    unfold driven
    refine (spawn_ready_workflow_nodes_tolerated caller).seq fun ⟨ids,infos⟩ => ?_
    dsimp only
    split
    · refine of_get fun e => here (of_get fun e => here ?_)
      refine seq (tolerated_aside fun _ => rfl) fun _ => ?_
      refine (set_lifecycle_tolerated _ _).seq fun _ => ?_
      exact seq (tolerated_aside fun _ => rfl) fun _ => tolerated_pure
    refine of_get fun e => here ?_
    split
    · exact tolerated_pure
    split
    · exact tolerated_pure
    refine seq (tolerated_aside fun _ => rfl) fun _ => ?_
    split
    · exact (observe_tolerated _).seq fun _ => finish_workflow_tolerated
    · exact finish_workflow_tolerated
  split
  · exact seq (tolerated_aside fun _ => rfl) drives
  · exact drives ()

theorem close_dynamic_workflow_tolerated : Tolerated (K := K) related close_dynamic_workflow :=
  seq (tolerated_aside fun _ => rfl) fun _ => drive_workflow_tolerated none none

theorem load_workflow_as_tolerated (nodes : List WireNode) (caller : TaskId) :
    Tolerated (K := K) related (load_workflow_as nodes caller) := by
  unfold load_workflow_as
  split
  · exact seq (tolerated_aside fun _ => rfl) fun _ => drive_workflow_tolerated none _
  · exact (reject_control_tolerated _ _ _).seq fun _ => emit_reasoning_tolerated

theorem append_workflow_nodes_tolerated (nodes : List WireNode) (submitter : Option TaskId) (tool_label : String) :
    Tolerated (K := K) related (append_workflow_nodes nodes submitter tool_label) := by
  unfold append_workflow_nodes
  refine of_get fun e => ?_
  split
  · split
    · exact here tolerated_pure
    split
    · exact here ((observe_tolerated _).seq fun _ => tolerated_pure)
    · refine set_spans (aside rfl) ?_
      split
      · exact (observe_tolerated _).seq fun _ => tolerated_pure
      · exact tolerated_pure
  · exact here ((reject_control_tolerated _ _ _).seq fun _ => tolerated_pure)
  · exact here ((reject_control_tolerated _ _ _).seq fun _ => tolerated_pure)

private theorem resume_parent_of_tolerated (agent_id : TaskId) : Tolerated (K := K) related (resume_parent_of agent_id) := by
  unfold resume_parent_of
  refine of_get fun e => ?_
  extract_lets awaiting
  split
  · extract_lets left
    split
    · exact set_spans (aside rfl) ((observe_tolerated _).seq fun _ => emit_reasoning_tolerated)
    · exact set_spans (aside rfl) tolerated_pure
  · exact here emit_reasoning_tolerated

private theorem terminal_state_free (result : ChildResult) : (terminal_state result).occupies_slot = false := by
  unfold terminal_state
  split <;> rfl

private theorem terminal_state_done (result : ChildResult) : ∃ reason, terminal_state result = .Done reason := by
  unfold terminal_state
  split
  · exact ⟨_,rfl⟩
  · exact ⟨_,rfl⟩

/-- A completed child gives its slot back before the next round is driven. -/
theorem feed_sub_agent_completed_tolerated (agent_id : TaskId) (result : ChildResult)
    (joined : ∀ (roster : Roster) (state : TaskLifecycle), state.occupies_slot = false →
      related roster (roster.map fun tasks => tasks.modify agent_id fun task =>
      { task with state, result := some result })) :
    Tolerated (K := K) related (feed_sub_agent_completed agent_id result) := by
  obtain ⟨reason,done⟩ := terminal_state_done result
  unfold feed_sub_agent_completed
  refine begin_event_tolerated.seq fun _ => of_get fun e => here ?_
  extract_lets owned terminal marker output reported
  have reports (u : Unit) : Tolerated (K := K) related (reported u) := by
    unfold reported
    refine (push_signal_tolerated _).seq fun _ => ?_
    split
    · refine seq (seq (onRun_tolerated _) fun _ => drive_workflow_tolerated _ _) fun action => ?_
      refine seq (onTasks_tolerated fun roster => ?_) fun _ => ?_
      · unfold terminal
        rw [done]
        exact ended roster agent_id reason
      · exact (onLedger_tolerated _).seq fun _ => (process_changed_tolerated _).seq fun _ => tolerated_pure
    · exact (onLedger_tolerated _).seq fun _ => (process_changed_tolerated _).seq fun _ => resume_parent_of_tolerated _
  split
  · split
    · refine seq (onTasks_tolerated fun roster => joined roster _ ?_) fun _ => (onLedger_tolerated _).seq reports
      split
      · rfl
      · exact terminal_state_free result
    · exact reports ()
  · exact reports ()

private theorem fail_launches_tolerated (ids : List TaskId) : Tolerated (K := K) related (fail_launches ids) := by
  induction ids with
  | nil => exact tolerated_pure
  | cons id rest ih =>
  refine seq (onTasks_tolerated fun roster => ended roster id .Error) fun _ => ?_
  exact (onLedger_tolerated _).seq fun _ => (onRun_tolerated _).seq fun _ => ih

/-- The resolution of a launch is tolerated as far as its acknowledgements are: those of the batch that is waited for. -/
theorem resolve_workflow_spawn_lands (started failures : List TaskId) (e : LoopStateMachine K)
    (acknowledged : ∀ nodes : List WorkflowSpawnInfo,
    (∀ node ∈ nodes, node.agent_id ∈ started ∧ node.agent_id ∈ e.pending_spawn_agent_ids) →
      Tolerated (K := K) related (acknowledge_started nodes)) :
    Lands (resolve_workflow_spawn started failures) e (fun _ after => OnRoster related e after ∧ True)
      (OnRoster related e) := by
  unfold resolve_workflow_spawn
  refine (lands_bind _ _ _).mpr ((lands_get _).mpr (here ?_))
  split
  · exact tolerated_pure
  next pending launching =>
  extract_lets started_nodes resolved
  have resolves (u : Unit) : Tolerated (K := K) related (resolved u) := by
    unfold resolved
    refine of_get fun e => here ?_
    split
    · exact tolerated_pure
    · exact seq (tolerated_aside fun _ => rfl) fun _ => drive_workflow_tolerated _ _
  refine seq (tolerated_aside fun _ => rfl) fun _ => (fail_launches_tolerated _).seq fun _ => ?_
  refine seq (tolerated_aside fun _ => rfl) fun _ => ?_
  refine (acknowledged started_nodes fun node member => ?_).seq fun _ => ?_
  · obtain ⟨waiting,named⟩ := List.mem_filter.mp member
    unfold LoopStateMachine.pending_spawn_agent_ids
    rw [launching]
    exact ⟨by simpa using named,List.mem_map_of_mem waiting⟩
  split
  · refine of_get fun e => here ?_
    exact (observe_tolerated _).seq fun _ => (observe_tolerated _).seq resolves
  · exact resolves ()

private theorem abort_preempted_tolerated (ids : List TaskId) : Tolerated (K := K) related (abort_preempted ids) := by
  induction ids with
  | nil => exact tolerated_pure
  | cons id rest ih =>
  refine seq (onTasks_tolerated fun roster => ended roster id .UserAbort) fun _ => ?_
  exact (onLedger_tolerated _).seq fun _ => (process_changed_tolerated _).seq fun _ => ih

theorem resolve_preempt_tolerated : Tolerated (K := K) related resolve_preempt := by
  unfold resolve_preempt
  refine of_get fun e => ?_
  split
  · exact here tolerated_pure
  extract_lets ids preempted
  have preempts (u : Unit) : Tolerated (K := K) related (preempted u) := by
    refine (observe_tolerated _).seq fun _ => ?_
    exact seq (tolerated_aside fun _ => rfl) fun _ => emit_call_llm_tolerated
  refine set_spans (aside rfl) ((abort_preempted_tolerated _).seq fun _ => of_get fun e => here ?_)
  split
  · split
    · exact seq (tolerated_aside fun _ => rfl) fun _ => (observe_tolerated _).seq preempts
    · exact preempts ()
  · exact preempts ()

/-! The host's transitions. -/

theorem externalize_pending_host_effect_tolerated (continuation : LoopAction) :
    Tolerated (K := K) related (externalize_pending_host_effect continuation) := by
  unfold externalize_pending_host_effect
  refine of_get fun e => ?_
  split
  · exact here tolerated_pure
  · exact here tolerated_pure
  · split
    · exact here of_throw
    · exact set_spans (aside rfl) tolerated_pure

private theorem next_after_host_effect_tolerated : Tolerated (K := K) related next_after_host_effect := by
  unfold next_after_host_effect
  refine of_get fun e => ?_
  split
  · exact set_spans (aside rfl) tolerated_pure
  refine set_spans (aside rfl) ?_
  split
  · exact emit_call_llm_tolerated
  · exact tolerated_pure
  · exact tolerated_pure

theorem commit_page_out_archive_tolerated (archive_ref : Option String) :
    Tolerated (K := K) related (commit_page_out_archive archive_ref) := by
  unfold commit_page_out_archive
  refine of_get fun e => here ?_
  split
  · exact of_throw
  · refine (observe_tolerated _).seq fun _ => ?_
    exact seq (tolerated_aside fun _ => rfl) fun _ => next_after_host_effect_tolerated

theorem abandon_page_out_archive_tolerated (error : String) :
    Tolerated (K := K) related (abandon_page_out_archive error) := by
  unfold abandon_page_out_archive
  refine of_get fun e => here ?_
  split
  · exact of_throw
  · refine (observe_tolerated _).seq fun _ => ?_
    exact seq (tolerated_aside fun _ => rfl) fun _ => next_after_host_effect_tolerated

theorem resume_after_preload_tolerated : Tolerated (K := K) related resume_after_preload := by
  unfold resume_after_preload
  refine clear_observations_tolerated.seq fun _ => of_get fun e => here ?_
  dsimp only
  split
  · exact emit_reasoning_tolerated
  · exact dispatch_tolerated _

/-- The start of a run relates the rosters. -/
theorem start_tolerated (goal : String) (criteria : List String) (preloaded : Bool) :
    Tolerated (K := K) related (start goal criteria preloaded) := by
  unfold start
  refine clear_observations_tolerated.seq fun _ => (onCtx_tolerated _).seq fun _ => of_get fun e => here ?_
  extract_lets reservation no_rounds no_tokens opening opened checked noted
  have opens (u : Unit) : Tolerated (K := K) related (opened u) := (onCtx_tolerated _).seq fun _ => emit_reasoning_tolerated
  have checks (u : Unit) : Tolerated (K := K) related (checked u) := by
    unfold checked
    split
    · exact terminate_tolerated _ _
    split
    · exact terminate_tolerated _ _
    split
    · split
      refine seq (tolerated_aside fun _ => rfl) fun _ => ?_
      split
      · exact (observe_tolerated _).seq opens
      · exact opens ()
    · exact opens ()
  have notes (u : Unit) : Tolerated (K := K) related (noted u) := by
    unfold noted
    split
    · exact (observe_tolerated _).seq checks
    · exact checks ()
  split
  · exact (observe_tolerated _).seq fun _ => seq (tolerated_aside fun _ => rfl) notes
  · exact notes ()

theorem recover_from_context_overflow_tolerated : Tolerated (K := K) related recover_from_context_overflow := by
  unfold recover_from_context_overflow
  refine clear_observations_tolerated.seq fun _ => of_get fun e => here ?_
  split
  · exact terminate_tolerated _ _
  refine seq (tolerated_aside fun _ => rfl) fun _ => force_compact_tolerated.seq fun compacted => ?_
  split
  · exact emit_reasoning_tolerated
  · exact terminate_tolerated _ _

theorem feed_milestone_result_tolerated (passed : Bool) (phase_id : String) (reason : Option String) :
    Tolerated (K := K) related (feed_milestone_result passed phase_id reason) := by
  unfold feed_milestone_result
  refine begin_event_tolerated.seq fun _ => clear_observations_tolerated.seq fun _ => ?_
  split
  · refine of_get fun e => here ?_
    extract_lets reasoning advanced
    have advances (u : Unit) : Tolerated (K := K) related (advanced u) := by
      unfold advanced
      refine seq (tolerated_aside fun _ => rfl) fun _ => of_get fun e => here ?_
      dsimp only
      split
      · exact terminate_tolerated _ _
      split
      · exact (push_signal_tolerated _).seq fun _ => emit_reasoning_tolerated
      · exact emit_reasoning_tolerated
    split
    · refine (onCtxNoting_tolerated _).seq fun _ => of_get fun e => here ?_
      exact (observe_tolerated _).seq advances
    · exact advances ()
  · refine seq (tolerated_aside fun _ => rfl) fun _ => ?_
    refine (push_signal_tolerated _).seq fun _ => of_get fun e => here ?_
    exact (observe_tolerated _).seq fun _ => emit_reasoning_tolerated

theorem cancel_operation_tolerated (operation_id : OperationId) (reason : CancellationReason)
    (pending_call_ids : List CallId) :
    Tolerated (K := K) related (cancel_operation operation_id reason pending_call_ids) := by
  unfold cancel_operation
  refine clear_observations_tolerated.seq fun _ => of_get fun e => ?_
  extract_lets live ids
  refine set_spans ?_ ((observe_tolerated _).seq fun _ => terminate_tolerated _ _)
  refine folded ids (fun roster id => ?_) e.roster
  have aborted : related roster (roster.map fun tasks => tasks.set_state id (.Done .UserAbort)) := ended roster id .UserAbort
  exact next aborted (unwaited (roster.map fun tasks => tasks.set_state id (.Done .UserAbort)) id)

theorem observe_accepted_time_tolerated (now_ms : Nat) : Tolerated (K := K) related (observe_accepted_time now_ms) := by
  unfold observe_accepted_time
  refine of_get fun e => here ?_
  refine seq (tolerated_aside fun _ => rfl) fun _ => ?_
  split
  · exact onCtx_tolerated _
  · exact tolerated_pure

theorem mark_tasks_starting_tolerated (ids : List TaskId) : Tolerated (K := K) related (mark_tasks_starting ids) :=
  onTasks_tolerated fun roster => folded ids (fun roster id => starting roster id) roster

end Deepstrike.Loop

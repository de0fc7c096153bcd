import Deepstrike.Rounds
import Deepstrike.PlainParts

/-!
Expired leases over the runs of the loop. A call is handed out behind the gate of its turn, behind its
approval, behind what its turn was owed, or as the continuation that an archive held back; the lease is
looked at by the gate alone, and by the gate only where a governance pipeline is configured.
-/
namespace Deepstrike.Loop
open Wire Vocabulary Components Capabilities Frames Keeps Option Prod

variable {K : LoopParts}

namespace LoopStateMachine

/-- The fuse denies or terminates a turn that asks for these calls. -/
def fuses (e : LoopStateMachine K) (calls : List ToolCall) : Bool :=
  let fuse := e.policies.repeat_fuse
  fuse.enabled && !(turn_signature (K := K) calls).isEmpty && decide (e.repeat_sig = some (turn_signature (K := K) calls)) &&
    decide (0 < fuse.terminate_after ∧ fuse.terminate_after ≤ e.repeat_count+1 ∨ 0 < fuse.deny_after ∧ fuse.deny_after ≤ e.repeat_count+1)

/-- A round of the loop ends with one of these calls. -/
def paces (e : LoopStateMachine K) (calls : List ToolCall) : Bool :=
  (e.run_spec.bind AgentRunSpec.loop_round).isSome && (calls.find? fun call => call.name == "pace").isSome

/-- The host's calls that reach the governance gate: of a turn that does not end its round or repeat itself, the ones the
    model was shown. -/
def gated_calls (e : LoopStateMachine K) (calls : List ToolCall) : List ToolCall :=
  if e.paces calls || e.fuses calls then [] else calls.filter e.exposes

/-- The calls of an answer that reach the gate, where the run does not end with it: what the driver has not answered. -/
def answer_gated_calls (e : LoopStateMachine K) (message : CoreMessage) : List ToolCall :=
  let answered := (e.adjudicated_turn.getD ⟨[],.CallProvider⟩).answered_calls.map AnsweredCall.call_id
  if e.pending_termination.isSome then [] else e.gated_calls (message.tool_calls.filter fun call => !answered.contains call.id)

/-- The calls of the last turn that nothing has answered or denied. -/
def open_calls (e : LoopStateMachine K) : List ToolCall :=
  (K.pending_tool_calls e.ctx).filter fun call => !(e.pending_denied_results.map ToolResult.call_id).contains call.id

private theorem unexpired_iff (e : LoopStateMachine (leased K)) (call : ToolCall) : e.Unexpired call ↔
    ∀ capability ∈ e.capabilities, capability.kind = .Tool → resource_matches capability.resource call.name = true →
      ∀ lease, capability.lease = some lease → lease.is_expired e.turn = false := by
  unfold Unexpired expired_lease
  rw [List.find?_eq_none]
  refine forall_congr' fun capability => forall_congr' fun _ => ?_
  cases capability.lease <;> simp

/-- No lease over any of the calls has run out. -/
def Cleared (e : LoopStateMachine (leased K)) (calls : List ToolCall) : Prop := ∀ call ∈ calls, e.Unexpired call

/-- The batch that waits for its approval is cleared. -/
def Sound (e : LoopStateMachine (leased K)) : Prop :=
  ∀ calls reasons, e.lifecycle = .Suspended → e.suspend_state = some (.AskUser calls reasons) → e.Cleared calls

/-- The calls an action hands out are cleared. -/
def Clean (e : LoopStateMachine (leased K)) (action : LoopAction) : Prop := ∀ calls, action = .ExecuteTools calls → e.Cleared calls

section
variable {before after : LoopStateMachine (leased K)} {calls : List ToolCall}

theorem Cleared.later (cleared : before.Cleared calls) (capabilities : after.capabilities = before.capabilities)
    (turn : after.turn = before.turn) : after.Cleared calls := by
  intro call member
  unfold Unexpired
  rw [capabilities,turn]
  exact cleared call member

theorem Settles.sound (settles : Settles before after) (sound : before.Sound) : after.Sound := by
  intro calls reasons suspended asked
  obtain ⟨⟨suspended',_⟩,turn,state⟩ := settles.parked ⟨suspended,calls,reasons,asked⟩
  exact (sound calls reasons suspended' (state ▸ asked)).later settles.capabilities turn

theorem Awake.sound (awake : before.Awake) : before.Sound := fun _ _ suspended => (awake suspended).elim

private theorem sound_of_unasked (unasked : ∀ calls reasons, before.suspend_state ≠ some (.AskUser calls reasons)) : before.Sound :=
  fun calls reasons _ asked => (unasked calls reasons asked).elim

theorem Withholds.clean {action : LoopAction} (withholds : Withholds action) : before.Clean action :=
  fun calls same => (withholds calls same).elim

theorem Same.kept (same : Same before after) : after.capabilities = before.capabilities ∧ after.turn = before.turn ∧
    after.governance.isSome = before.governance.isSome ∧ after.exposed_tool_names = before.exposed_tool_names := by
  unfold Same view at same
  simp only [View.mk.injEq] at same
  exact ⟨same.1,same.2.1,same.2.2.1,same.2.2.2.2.2.1⟩

end

/-- A transition that hands out cleared calls alone, and parks no other. -/
def Fits (program : LoopProgram (leased K) LoopAction) (e : LoopStateMachine (leased K)) : Prop :=
  Ends program e fun action after => after.Sound ∧ after.Clean action

section
variable {program : LoopProgram (leased K) LoopAction} {e : LoopStateMachine (leased K)}

theorem Withheld.fits (withheld : Withheld program) (sound : e.Sound) : Fits program e :=
  (withheld e).mono fun _ _ ⟨settles,withholds⟩ => ⟨settles.sound sound,withholds.clean⟩

theorem Rouses.fits (rouses : Rouses program) : Fits program e :=
  (rouses e).mono fun _ _ ⟨_,awake,withholds⟩ => ⟨awake.sound,withholds.clean⟩

theorem fits_pure {action : LoopAction} (sound : e.Sound) (withholds : Withholds action) : Fits (pure action) e :=
  (ends_pure _ _ _).mpr ⟨sound,withholds.clean⟩

variable {first : LoopProgram (leased K) α} {next : α → LoopProgram (leased K) LoopAction}

theorem fits_bind {fits : α → LoopStateMachine (leased K) → Prop}
    (ends : Ends first e fits) (rest : ∀ value between, fits value between → Fits (next value) between) :
    Fits (first >>= next) e :=
  (ends_bind first next e _).mpr (ends.mono fun value between fit => rest value between fit)

theorem fits_get {next : LoopStateMachine (leased K) → LoopProgram (leased K) LoopAction} (rest : Fits (next e) e) :
    Fits (get >>= next) e :=
  (ends_bind get next e _).mpr ((ends_get e _).mpr rest)

theorem Still.fits (still : Still first)
    (rest : ∀ value between, Same e between → Fits (next value) between) : Fits (first >>= next) e :=
  fits_bind (still e) fun value between fit => rest value between fit.1

end

theorem dispatch_fits {e : LoopStateMachine (leased K)} {calls : List ToolCall} (cleared : e.Cleared calls) :
    Fits (dispatch calls) e := by
  unfold dispatch
  refine (set_phase_still _).fits fun _ between same => ?_
  have clock : Ends (set_lifecycle .Running none) between fun _ after => after.turn = between.turn := (ends_modify _ _ _).mpr rfl
  refine fits_bind (clock.and (set_lifecycle_ends running_awake between)) fun _ after ⟨turn,holds,awake⟩ => ?_
  refine (ends_pure _ _ _).mpr ⟨awake.sound,fun released handed => ?_⟩
  cases handed
  exact cleared.later (holds.capabilities.trans same.kept.1) (turn.trans same.kept.2.1)

private theorem evaluate_invoke_ends (e : LoopStateMachine (leased K)) (call : ToolCall) :
    Ends (evaluate_invoke call) e fun verdict after => Same e after ∧ ((∃ stage reason, verdict = .Deny stage reason) ∨ e.Unexpired call) := by
  unfold evaluate_invoke
  simp only [ends_bind,ends_get]
  split
  · exact (ends_pure _ _ _).mpr ⟨rfl,.inl ⟨_,_,rfl⟩⟩
  next passed =>
  have free : e.Unexpired call := map_eq_none_iff.mp passed
  split
  · exact (ends_pure _ _ _).mpr ⟨rfl,.inr free⟩
  next pipeline governed =>
  have same (gov : (leased K).Gov) : Same e { e with governance := some gov } := by
    unfold Same view
    rw [governed]
    rfl
  simp only [ends_bind,ends_set,ends_pure]
  exact ⟨same _,.inr free⟩

private theorem evaluate_calls_ends (e : LoopStateMachine (leased K)) (calls : List ToolCall) :
    Ends (evaluate_calls calls) e fun verdicts after => Same e after ∧
      e.Cleared (calls.filter fun call => !(verdicts.2.map fst).contains call.id) := by
  induction calls generalizing e with
  | nil => exact (ends_pure _ _ _).mpr ⟨rfl,nofun⟩
  | cons call rest ih =>
  unfold evaluate_calls
  refine (ends_bind _ _ _ _).mpr ((evaluate_invoke_ends e call).mono fun verdict between ⟨same,judged⟩ => ?_)
  refine (ends_bind _ _ _ _).mpr ((ih between).mono fun verdicts after ⟨same',cleared⟩ => ?_)
  have both : Same e after := trans_of Same same same'
  have behind : e.Cleared (rest.filter fun call => !(verdicts.2.map fst).contains call.id) :=
    cleared.later same.kept.1.symm same.kept.2.1.symm
  -- The head is free of expired leases, or its verdict is a denial and its id is on the list of the denied.
  have passes (denied : List (CallId × String)) (more : ∀ id ∈ verdicts.2.map fst, id ∈ denied.map fst)
      (head : call.id ∈ denied.map fst ∨ e.Unexpired call) :
      e.Cleared ((call :: rest).filter fun call => !(denied.map fst).contains call.id) := by
    intro other member
    obtain ⟨here,kept⟩ := List.mem_filter.mp member
    have absent : other.id ∉ denied.map fst := by simpa using kept
    obtain rfl | there := List.mem_cons.mp here
    · exact head.resolve_left absent
    · refine behind other (List.mem_filter.mpr ⟨there,?_⟩)
      rw [Bool.not_eq_true',← Bool.not_eq_true,List.contains_iff_mem]
      exact fun held => absent (more _ held)
  cases verdict with
  | Allow | Defer _ | Gate _ =>
    exact (ends_pure _ _ _).mpr ⟨both,passes _ (fun _ member => member) (.inr (judged.resolve_left nofun))⟩
  | Deny _ _ | RateLimited _ =>
    exact (ends_pure _ _ _).mpr ⟨both,passes _ (fun _ member => List.mem_cons_of_mem _ member) (.inl List.mem_cons_self)⟩

/-- Behind the gate no call is under an expired lease, also where the batch waits for its approval first. -/
theorem gate_tool_calls_fits {e : LoopStateMachine (leased K)} {calls : List ToolCall}
    (checked : e.governance.isSome = true ∨ e.Cleared calls) :
    Fits (gate_tool_calls calls) e := by
  unfold gate_tool_calls
  refine fits_get ?_
  split
  next ungoverned =>
    exact dispatch_fits (checked.resolve_left (by simpa using ungoverned))
  refine fits_bind (evaluate_calls_ends e calls) fun verdicts judged kept => ?_
  obtain ⟨gated,denied⟩ := verdicts
  obtain ⟨same,cleared⟩ := kept
  refine Still.fits (of_modify fun _ => rfl) fun _ noted same' => ?_
  have remains : noted.Cleared (calls.filter fun call => !(denied.map fst).contains call.id) :=
    cleared.later (same'.kept.1.trans same.kept.1) (same'.kept.2.1.trans same.kept.2.1)
  dsimp only
  split
  · exact commit_denied_results_ends.fits
  split
  · exact dispatch_fits remains
  simp only [Fits,ends_bind,ends_modify]
  have clock (start : LoopStateMachine (leased K)) : Ends (set_lifecycle .Suspended (some (.Any,[.Approval "pending"]))) start fun _ after =>
      after.turn = start.turn ∧ after.suspend_state = start.suspend_state ∧ after.capabilities = start.capabilities :=
    (ends_modify _ _ _).mpr ⟨rfl,rfl,rfl⟩
  refine (clock _).mono fun _ parked kept => ?_
  obtain ⟨turn,state,capabilities⟩ := kept
  simp only [ends_get,observe,ends_modify,ends_pure]
  have unhanded (start : LoopStateMachine (leased K)) (requests : List ApprovalRequest) : start.Clean (.RequestApproval requests) := by
    intro calls handed
    cases handed
  refine ⟨fun waiting reasons _ asked => ?_,unhanded _ _⟩
  have held : SuspendState.AskUser (calls.filter fun call => !(denied.map fst).contains call.id) gated = .AskUser waiting reasons :=
    some.inj (state.symm.trans asked)
  cases held
  exact remains.later capabilities turn

/-- A turn that repeats itself is answered by the fuse, every other goes on with the same view. -/
theorem check_repeat_fuse_ends (e : LoopStateMachine (leased K)) (calls : List ToolCall) :
    Ends (check_repeat_fuse calls) e fun action after => match action with
      | some action => after.Awake ∧ Withholds action
      | none => e.fuses calls = false ∧ Same e after := by
  have denied (start : LoopStateMachine (leased K)) (count : Nat) :
    Ends (do return some (← commit_synthetic_results (fuse_denied_results calls count)))
      start fun action after => match action with
        | some action => after.Awake ∧ Withholds action
        | none => e.fuses calls = false ∧ Same e after := by
    refine (ends_bind _ _ _ _).mpr ((commit_synthetic_results_ends _ start).mono fun action after ⟨_,awake,withholds⟩ => ?_)
    exact (ends_pure _ _ _).mpr ⟨awake,withholds⟩
  unfold check_repeat_fuse fuses
  simp only [ends_bind,ends_get]
  split
  next off =>
    refine (ends_pure _ _ _).mpr ⟨?_,rfl⟩
    obtain off | unsigned := Bool.or_eq_true _ _ |>.mp off
    · have disabled : e.policies.repeat_fuse.enabled = false := by simpa using off
      rw [disabled,Bool.false_and,Bool.false_and,Bool.false_and]
    · rw [unsigned,Bool.not_true,Bool.and_false,Bool.false_and,Bool.false_and]
  split
  next new =>
    simp only [ends_bind,ends_set,ends_pure]
    exact ⟨by rw [decide_eq_false new,Bool.and_false,Bool.false_and],rfl⟩
  simp only [ends_bind,ends_set]
  split
  · simp only [ends_bind,observe,push_signal,onCtx,ends_modify]
    exact (ends_bind _ _ _ _).mp (denied _ _)
  next few =>
  split
  · simp only [ends_bind,observe,ends_modify]
    exact (ends_bind _ _ _ _).mp (denied _ _)
  next spared =>
    exact (ends_pure _ _ _).mpr ⟨by rw [decide_eq_false (not_or.mpr ⟨few,spared⟩),Bool.and_false],rfl⟩

private theorem fire_criteria_gate_withheld (note : List String → String) : Withheld (K := K) (fire_criteria_gate note) := by
  unfold fire_criteria_gate
  refine of_get fun e => here ?_
  refine seq (of_modify fun _ => .of_rest ⟨rfl,rfl,rfl,rfl⟩ rfl rfl rfl) fun _ => ?_
  exact (push_signal_still _).tame.seq fun _ => (observe_still _).tame.seq fun _ => emit_after_phase _

private theorem handle_pace_call_withheld (loop_round : Json) (call : ToolCall) : Withheld (K := K) (handle_pace_call loop_round call) := by
  unfold handle_pace_call
  refine of_get fun e => ?_
  split
  · exact here ((push_synthetic_tool_result_still _ _ _).tame.seq fun _ => (push_signal_still _).tame.seq fun _ => emit_after_phase _)
  split
  · exact here ((push_synthetic_tool_result_still _ _ _).tame.seq fun _ => fire_criteria_gate_withheld _)
  · refine here (seq (of_modify fun _ => .of_rest ⟨rfl,rfl,rfl,rfl⟩ rfl rfl rfl) fun _ => ?_)
    refine (observe_still _).tame.seq fun _ => (push_synthetic_tool_result_still _ _ _).tame.seq fun _ => ?_
    exact seq (of_modify fun _ => .of_rest ⟨rfl,rfl,rfl,rfl⟩ rfl rfl rfl) fun _ => emit_after_phase _

private theorem finish_turn_withheld (message : CoreMessage) (truncated signals_waiting : Bool) :
    Withheld (K := K) (finish_turn message truncated signals_waiting) := by
  unfold finish_turn
  refine of_get fun e => ?_
  split
  · refine here (seq (of_modify fun _ => .of_rest ⟨rfl,rfl,rfl,rfl⟩ rfl rfl rfl) fun _ => ?_)
    exact (push_history_still _).tame.seq fun _ => (push_signal_still _).tame.seq fun _ => emit_after_phase _
  split
  · exact here ((push_history_still _).tame.seq fun _ => of_pure fun _ => nofun)
  split
  · exact here ((push_history_still _).tame.seq fun _ => fire_criteria_gate_withheld _)
  split
  · exact here ((push_history_still _).tame.seq fun _ => emit_after_phase _)
  · exact terminate_withheld _ _ e

private theorem gate_exposed_tool_calls_ends (e : LoopStateMachine (leased K)) (calls : List ToolCall) :
    Ends (gate_exposed_tool_calls calls) e fun outcome after => match outcome with
      | .inl action => after.Awake ∧ Withholds action
      | .inr allowed => Same e after ∧ allowed = calls.filter e.exposes := by
  unfold gate_exposed_tool_calls
  simp only [ends_bind,ends_get]
  split
  · exact (ends_pure _ _ _).mpr ⟨rfl,rfl⟩
  simp only [ends_bind,ends_modify]
  split
  · refine (ends_bind _ _ _ _).mpr ((commit_denied_results_ends _).mono fun action after answered => ?_)
    exact (ends_pure _ _ _).mpr ⟨answered.2.1,answered.2.2⟩
  · exact (ends_pure _ _ _).mpr ⟨rfl,rfl⟩

private theorem exposes_of_same {before after : LoopStateMachine (leased K)} (same : Same before after) : after.exposes = before.exposes := by
  unfold exposes
  rw [same.kept.2.2.2]

/-- The host work of a turn: what reaches the governance gate is what it is judged by. -/
theorem run_calls_fits {e : LoopStateMachine (leased K)} (sound : e.Sound) {calls : List ToolCall}
    (checked : e.governance.isSome = true ∨ e.Cleared (e.gated_calls calls)) : Fits (run_calls calls) e := by
  unfold run_calls
  refine fits_get ?_
  extract_lets rest
  have unpaced (fresh : e.paces calls = false) : Fits (rest ()) e := by
    unfold rest
    simp only [onCtx,Fits,ends_bind,ends_modify]
    refine (check_repeat_fuse_ends _ calls).mono fun fused between judged => ?_
    cases fused with
    | some action => exact (ends_pure _ _ _).mpr ⟨judged.1.sound,judged.2.clean⟩
    | none =>
    obtain ⟨unfused,same⟩ := judged
    refine (ends_bind _ _ _ _).mpr ((gate_exposed_tool_calls_ends between calls).mono fun outcome after judged => ?_)
    cases outcome with
    | inl action => exact (ends_pure _ _ _).mpr ⟨judged.1.sound,judged.2.clean⟩
    | inr allowed =>
    obtain ⟨same',rfl⟩ := judged
    have whole : Same e after := trans_of Same (trans_of Same (rfl : Same e _) same) same'
    have shown : e.gated_calls calls = calls.filter between.exposes := by
      have unfused' : e.fuses calls = false := unfused
      unfold gated_calls
      rw [fresh,unfused',Bool.or_false,if_neg Bool.false_ne_true,exposes_of_same same]
      rfl
    refine gate_tool_calls_fits (checked.imp (fun governed => whole.kept.2.2.1.trans governed) fun cleared => ?_)
    rw [shown] at cleared
    exact cleared.later whole.kept.1 whole.kept.2.1
  split
  next loop_round given =>
    split
    next call found =>
      refine (onCtx_still _).fits fun _ between same => ?_
      exact (handle_pace_call_withheld _ _).fits (same.settles.sound sound)
    next absent =>
    refine unpaced ?_
    unfold paces
    rw [eq_none_iff_forall_ne_some.mpr absent,isSome_none,Bool.and_false]
  next missing =>
  refine unpaced ?_
  unfold paces
  rw [eq_none_iff_forall_ne_some.mpr missing,isSome_none,Bool.false_and]

/-- What decides which calls of a turn reach the gate is as before. -/
structure Fronts (before after : LoopStateMachine (leased K)) : Prop where
  same : Same before after
  gated : ∀ calls, after.gated_calls calls = before.gated_calls calls
  termination : after.pending_termination = before.pending_termination

private theorem begin_event_ends (e : LoopStateMachine (leased K)) :
    Ends begin_event e fun _ after => Fronts e after ∧ after.adjudicated_turn = e.adjudicated_turn := by
  unfold begin_event clear_observations sweep_leases onCtxNoting
  simp only [ends_bind,ends_modify,ends_get,ends_set]
  exact ⟨⟨rfl,fun _ => rfl,rfl⟩,trivial⟩

private theorem drain_queued_signals_ends (e : LoopStateMachine (leased K)) : Ends drain_queued_signals e fun _ after => Fronts e after := by
  unfold drain_queued_signals observeAll onCtx
  simp only [ends_bind,ends_modify,ends_get,ends_set]
  exact ⟨rfl,fun _ => rfl,rfl⟩

private theorem answer_calls_ends (e : LoopStateMachine (leased K)) (calls : List ToolCall) (answered : List AnsweredCall) :
    Ends (answer_calls calls answered) e fun left after =>
      left = calls.filter (fun call => !(answered.map AnsweredCall.call_id).contains call.id) ∧ Fronts e after := by
  unfold answer_calls onCtx
  simp only [ends_bind,ends_modify,ends_pure]
  exact ⟨trivial,rfl,fun _ => rfl,rfl⟩

/-- What the driver answered of a turn is closed, and the rest is host work. -/
theorem feed_llm_response_fits {e : LoopStateMachine (leased K)} (sound : e.Sound) {message : CoreMessage}
    (checked : e.governance.isSome = true ∨ e.Cleared (e.answer_gated_calls message)) :
    Fits (feed_llm_response message) e := by
  unfold feed_llm_response
  refine fits_bind (begin_event_ends e) fun _ begun kept => ?_
  obtain ⟨begins,adjudicated_same⟩ := kept
  refine fits_get ?_
  extract_lets adjudicated answer
  have answered : adjudicated = e.adjudicated_turn.getD ⟨[],.CallProvider⟩ := congrArg (getD · _) adjudicated_same
  have answers (after : LoopStateMachine (leased K)) (fresh : e.pending_termination = none) (same : Same e after)
      (gated : ∀ calls, after.gated_calls calls = e.gated_calls calls) : Fits (answer ()) after := by
    unfold answer
    refine fits_bind (answer_calls_ends after _ _) fun left closed kept => ?_
    obtain ⟨rfl,closes⟩ := kept
    have whole : Same e closed := trans_of Same same closes.same
    split
    · refine (set_phase_still _).fits fun _ between same' => ?_
      split
      · exact Rouses.fits emit_call_llm_ends
      · exact fits_pure ((trans_of Same whole same').settles.sound sound) withholds_resume
    refine run_calls_fits (whole.settles.sound sound) (checked.imp (fun governed => whole.kept.2.2.1.trans governed) fun cleared => ?_)
    unfold answer_gated_calls at cleared
    rw [fresh,isSome_none,if_neg Bool.false_ne_true] at cleared
    rw [closes.gated,gated,answered]
    exact cleared.later whole.kept.1 whole.kept.2.1
  refine (ends_bind _ _ _ _).mpr ((ends_set _ _ _).mpr ?_)
  refine fits_bind (drain_queued_signals_ends _) fun _ drained drains => ?_
  refine fits_get ?_
  extract_lets waiting truncated
  have whole : Same e drained := trans_of Same begins.same (trans_of Same (show Same begun _ from rfl) drains.same)
  have gated (calls : List ToolCall) : drained.gated_calls calls = e.gated_calls calls := (drains.gated calls).trans (begins.gated calls)
  have termination : drained.pending_termination = e.pending_termination := drains.termination.trans begins.termination
  refine (ends_bind _ _ _ _).mpr ((ends_set _ _ _).mpr ?_)
  have reset : Same e { drained with
      recovery_attempts := 0
      total_tokens := drained.total_tokens+(leased K).count_message drained.ctx message
      pending_output_truncated := false
      output_recovery_attempts := if truncated then drained.output_recovery_attempts else 0
      pending_termination := none } := whole
  split
  · exact (terminate_withheld _ _).fits (reset.settles.sound sound)
  next going =>
  have fresh : e.pending_termination = none := termination ▸ eq_none_iff_forall_ne_some.mpr going
  split
  · exact (finish_turn_withheld _ _ _).fits (reset.settles.sound sound)
  refine (ends_bind _ _ _ _).mpr ((ends_modify _ _ _).mpr (fits_get ?_))
  split
  · refine (ends_bind _ _ _ _).mpr ((ends_modify _ _ _).mpr ?_)
    exact answers _ fresh whole gated
  · exact answers _ fresh whole gated

/-- An approval hands out calls of the parked batch, which were cleared when it was parked, in the same turn. -/
theorem resolve_approval_fits {e : LoopStateMachine (leased K)} (sound : e.Sound)
    (approved_calls denied_calls : List CallId) :
    Fits (resolve_approval approved_calls denied_calls) e := by
  unfold resolve_approval
  refine clear_observations_still.fits fun _ begun same => ?_
  have sound := same.settles.sound sound
  refine fits_get ((ends_bind _ _ _ _).mpr ((ends_set _ _ _).mpr ?_))
  have unasked (start : LoopStateMachine (leased K)) : Sound { start with suspend_state := none } :=
    sound_of_unasked fun calls reasons asked => by cases asked
  split
  next calls gated_reasons asked =>
    split
    · exact fits_pure (unasked begun) withholds_resume
    next suspended =>
    have lifecycle : begun.lifecycle = .Suspended := of_decide_eq_true (not_not.mp suspended)
    have cleared := sound calls gated_reasons lifecycle asked
    have reset : Cleared { begun with suspend_state := none } calls := cleared
    refine (observeAll_still _).fits fun _ shown same => (observe_still _).fits fun _ told same' => ?_
    refine Still.fits (of_modify fun _ => rfl) fun _ denied same'' => ?_
    have whole := trans_of Same same (trans_of Same same' same'')
    split
    · refine fits_get ((ends_bind _ _ _ _).mpr ((ends_modify _ _ _).mpr ?_))
      refine (set_phase_still _).fits fun _ between _ => ?_
      exact fits_bind (set_lifecycle_ends running_awake between) fun _ after _ => Rouses.fits (feed_tool_results_ends _ _)
    · refine dispatch_fits fun call member => ?_
      exact reset.later whole.kept.1 whole.kept.2.1 call (List.mem_of_mem_filter member)
  · exact fits_pure (unasked begun) withholds_resume

private theorem resume_after_preload_fits {e : LoopStateMachine (leased K)} (cleared : e.Cleared e.open_calls) : Fits resume_after_preload e := by
  unfold resume_after_preload
  refine (ends_bind _ _ _ _).mpr ((ends_modify _ _ _).mpr (fits_get ?_))
  extract_lets answered calls
  split
  · exact (set_phase_still _).fits fun _ _ _ => Rouses.fits emit_call_llm_ends
  · exact dispatch_fits cleared

private theorem resume_after_recall_rouses : Rouses (K := K) resume_after_recall :=
  Rouses.after (set_phase_still _).tame.holds fun _ => emit_call_llm_ends

/-- The continuation an archive held back goes out as it was kept. -/
def Resumes (e : LoopStateMachine (leased K)) : Prop :=
  e.pending_host_effects = [] → ∀ calls, e.deferred_action = some (.ExecuteTools calls) → e.Cleared calls

private theorem next_after_host_effect_fits {e : LoopStateMachine (leased K)} (sound : e.Sound)
    (resumes : e.Resumes) : Fits next_after_host_effect e := by
  unfold next_after_host_effect
  refine fits_get ?_
  split
  · refine (ends_bind _ _ _ _).mpr ((ends_set _ _ _).mpr (fits_pure sound fun calls same => ?_))
    cases same
  next drained =>
  refine (ends_bind _ _ _ _).mpr ((ends_set _ _ _).mpr ?_)
  split
  · exact Rouses.fits emit_call_llm_ends
  next action _ held =>
    refine (ends_pure _ _ _).mpr ⟨sound,fun calls same => ?_⟩
    subst same
    exact resumes drained calls held
  · exact fits_pure sound withholds_resume

private theorem commit_page_out_archive_fits {e : LoopStateMachine (leased K)} (sound : e.Sound) (resumes : e.Resumes) (archive_ref : Option String) :
    Fits (commit_page_out_archive archive_ref) e := by
  unfold commit_page_out_archive
  refine fits_get ?_
  split
  · exact ends_throw _ _ _
  · simp only [Fits,ends_bind,observe,ends_modify]
    exact next_after_host_effect_fits sound resumes

private theorem abandon_page_out_archive_fits {e : LoopStateMachine (leased K)} (sound : e.Sound) (resumes : e.Resumes) (error : String) :
    Fits (abandon_page_out_archive error) e := by
  unfold abandon_page_out_archive
  refine fits_get ?_
  split
  · exact ends_throw _ _ _
  · simp only [Fits,ends_bind,observe,ends_modify]
    exact next_after_host_effect_fits sound resumes

private theorem externalize_fits {e : LoopStateMachine (leased K)} (sound : e.Sound) {continuation : LoopAction} (clean : e.Clean continuation) :
    Fits (externalize_pending_host_effect continuation) e := by
  unfold externalize_pending_host_effect
  refine fits_get ?_
  split
  · exact (ends_pure _ _ _).mpr ⟨sound,clean⟩
  · exact (ends_pure _ _ _).mpr ⟨sound,clean⟩
  split
  · exact ends_throw _ _ _
  · refine (ends_bind _ _ _ _).mpr ((ends_set _ _ _).mpr (fits_pure sound fun calls same => ?_))
    cases same

private theorem force_compact_tame : Tame (K := K) force_compact := compactWith_tame _ _ _

private theorem refresh_fits {e : LoopStateMachine (leased K)} (sound : e.Sound) {action : LoopAction} (clean : e.Clean action) :
    Fits (refresh_call_llm_action action) e := by
  unfold refresh_call_llm_action
  split
  · refine fits_get ((ends_bind _ _ _ _).mpr ((ends_modify _ _ _).mpr (fits_get ?_)))
    refine (ends_bind _ _ _ _).mpr ((ends_set _ _ _).mpr (fits_pure sound fun calls same => ?_))
    cases same
  · exact (ends_pure _ _ _).mpr ⟨sound,clean⟩

private theorem start_withheld (goal : String) (criteria : List String) (preloaded : Bool) : Withheld (K := K) (start goal criteria preloaded) := by
  unfold start
  refine clear_observations_still.tame.seq fun _ => (onCtx_still _).tame.seq fun _ => of_get fun e => ?_
  extract_lets reservation zero_rounds zero_tokens opened entered tokens_told rounds_told
  have enters (u : Unit) : Withheld (entered u) := (onCtx_still _).tame.seq fun _ => emit_after_phase _
  have tokens (u : Unit) : Withheld (tokens_told u) := by
    unfold tokens_told
    split
    · exact terminate_withheld _ _
    split
    · exact terminate_withheld _ _
    split
    · refine seq (of_modify fun _ => .of_rest ⟨rfl,rfl,rfl,rfl⟩ rfl rfl rfl) fun _ => ?_
      split
      · exact (observe_still _).tame.seq enters
      · exact enters ()
    · exact enters ()
  have rounds (u : Unit) : Withheld (rounds_told u) := by
    unfold rounds_told
    split
    · exact (observe_still _).tame.seq tokens
    · exact tokens ()
  split
  · refine here ((observe_still _).tame.seq fun _ => ?_)
    exact seq (of_modify fun _ => .of_rest ⟨rfl,rfl,rfl,rfl⟩ rfl rfl rfl) rounds
  · exact rounds () e

private theorem recover_from_context_overflow_withheld : Withheld (K := K) recover_from_context_overflow := by
  unfold recover_from_context_overflow
  refine clear_observations_still.tame.seq fun _ => of_get fun e => ?_
  split
  · exact terminate_withheld _ _ e
  refine here (seq (of_modify fun _ => .of_rest ⟨rfl,rfl,rfl,rfl⟩ rfl rfl rfl) fun _ => ?_)
  refine force_compact_tame.seq fun _ => ?_
  split
  · exact emit_after_phase _
  · exact terminate_withheld _ _

private theorem feed_milestone_result_withheld (passed : Bool) (phase_id : String) (reason : Option String) :
    Withheld (K := K) (feed_milestone_result passed phase_id reason) := by
  unfold feed_milestone_result
  refine begin_event_still.tame.seq fun _ => clear_observations_still.tame.seq fun _ => ?_
  extract_lets called advanced blocked
  have calls (u : Unit) : Withheld (called u) := emit_after_phase _
  have advances (u : Unit) : Withheld (advanced u) := by
    unfold advanced
    refine seq (of_modify fun _ => .of_rest ⟨rfl,rfl,rfl,rfl⟩ rfl rfl rfl) fun _ => of_get fun e => ?_
    extract_lets tracker
    split
    · exact terminate_withheld _ _ e
    split
    · exact here ((push_signal_still _).tame.seq calls)
    · exact calls () e
  split
  · refine of_get fun e => ?_
    split
    · refine here ((onCtxNoting_still _).tame.seq fun _ => of_get fun e => ?_)
      exact here ((observe_still _).tame.seq advances)
    · exact advances () e
  · refine seq (of_modify fun _ => .of_rest ⟨rfl,rfl,rfl,rfl⟩ rfl rfl rfl) fun _ => ?_
    refine (push_signal_still _).tame.seq fun _ => of_get fun e => ?_
    exact here ((observe_still _).tame.seq fun _ => emit_after_phase _)

private theorem cancel_operation_fits {e : LoopStateMachine (leased K)} (operation_id : OperationId) (reason : CancellationReason)
    (pending_call_ids : List CallId) : Fits (cancel_operation operation_id reason pending_call_ids) e := by
  unfold cancel_operation observe
  refine (ends_bind _ _ _ _).mpr ((ends_modify _ _ _).mpr (fits_get ((ends_bind _ _ _ _).mpr ((ends_set _ _ _).mpr ?_))))
  exact (ends_bind _ _ _ _).mpr ((ends_modify _ _ _).mpr (Rouses.fits (terminate_ends _ _)))

end LoopStateMachine

/-- The transitions the driver asks for, with what it hands them. -/
inductive LoopCall where
  | Start (goal : String) (criteria : List String) (preloaded : Bool)
  | LoadWorkflow (nodes : List WireNode) (caller : TaskId)
  | AppendNodes (nodes : List WireNode) (submitter : Option TaskId) (tool_label : String)
  | DriveWorkflow (just_completed caller : Option TaskId)
  | CloseDynamicWorkflow
  | LLMResponse (message : CoreMessage)
  | ToolResults (results : List ToolResult) (measurements : List ToolMeasurement)
  | MilestoneResult (passed : Bool) (phase_id : String) (reason : Option String)
  | SubAgentCompleted (agent_id : TaskId) (result : ChildResult)
  | Signal (operation_id : OperationId) (delivery_id : String) (attempt : Nat) (signal : LogicalSignal) (may_issue_request : Bool)
  | ContextOverflow
  | ForceCompact
  | Approval (approved_calls denied_calls : List CallId)
  | Preload
  | Recall
  | WorkflowSpawn (started failures : List TaskId)
  | Preempt
  | PageOutArchived (archive_ref : Option String)
  | PageOutFailed (error : String)
  | Cancel (operation_id : OperationId) (reason : CancellationReason) (pending_call_ids : List CallId)
  /-- Hold the last action behind a durability effect, or render it anew. -/
  | Externalize
  | Refresh

/-- A transition, behind the action the last one ended in. -/
def LoopCall.run (last : LoopAction) : LoopCall → LoopProgram K LoopAction
  | .Start goal criteria preloaded => start goal criteria preloaded
  | .LoadWorkflow nodes caller => load_workflow_as nodes caller
  | .AppendNodes nodes submitter tool_label => do
    let _ ← append_workflow_nodes nodes submitter tool_label
    pure .AwaitingResume
  | .DriveWorkflow just_completed caller => drive_workflow just_completed caller
  | .CloseDynamicWorkflow => close_dynamic_workflow
  | .LLMResponse message => feed_llm_response message
  | .ToolResults results measurements => feed_tool_results results measurements
  | .MilestoneResult passed phase_id reason => feed_milestone_result passed phase_id reason
  | .SubAgentCompleted agent_id result => feed_sub_agent_completed agent_id result
  | .Signal operation_id delivery_id attempt signal may_issue_request => do
    let action ← signal_event operation_id delivery_id attempt signal may_issue_request
    pure (action.getD .AwaitingResume)
  | .ContextOverflow => recover_from_context_overflow
  | .ForceCompact => do
    let _ ← force_compact
    pure .AwaitingResume
  | .Approval approved_calls denied_calls => resolve_approval approved_calls denied_calls
  | .Preload => resume_after_preload
  | .Recall => resume_after_recall
  | .WorkflowSpawn started failures => resolve_workflow_spawn started failures
  | .Preempt => resolve_preempt
  | .PageOutArchived archive_ref => commit_page_out_archive archive_ref
  | .PageOutFailed error => abandon_page_out_archive error
  | .Cancel operation_id reason pending_call_ids => cancel_operation operation_id reason pending_call_ids
  | .Externalize => externalize_pending_host_effect last
  | .Refresh => refresh_call_llm_action last

namespace LoopStateMachine

/-- The branch that hands calls out past the lease check is not taken over an expired lease: no pipeline gates the turn,
    the turn is resumed behind what it was owed, or a continuation comes back from behind an archive. -/
def LeaseChecked (e : LoopStateMachine (leased K)) : LoopCall → Prop
  | .LLMResponse message => e.governance.isSome = true ∨ e.Cleared (e.answer_gated_calls message)
  | .Preload => e.Cleared e.open_calls
  | .PageOutArchived _ | .PageOutFailed _ => e.Resumes
  | _ => True

/-- What is written between two transitions: the policies, the governance, the tasks and everything else, but not the
    capabilities, the turn or a suspension. -/
structure Edits (before after : LoopStateMachine (leased K)) : Prop where
  capabilities : after.capabilities = before.capabilities
  turn : after.turn = before.turn
  suspend_state : after.suspend_state = before.suspend_state
  awake : after.lifecycle = .Suspended → before.lifecycle = .Suspended

/-- A machine and the last action it ended a transition in, behind any transitions that are allowed where they start. -/
inductive Reached (allowed : LoopStateMachine (leased K) → LoopCall → Prop) (start : LoopStateMachine (leased K)) :
    LoopStateMachine (leased K) → LoopAction → Prop where
  | start : Reached allowed start start .AwaitingResume
  | call {e after : LoopStateMachine (leased K)} {last action : LoopAction} (call : LoopCall) (reached : Reached allowed start e last)
      (fit : allowed e call) (ran : call.run last e = .ok action after) : Reached allowed start after action
  | edit {e after : LoopStateMachine (leased K)} {last : LoopAction} (reached : Reached allowed start e last) (edits : Edits e after) :
      Reached allowed start after last

variable {action : LoopAction}

private theorem Edits.keeps {before after : LoopStateMachine (leased K)} (edits : Edits before after) (sound : before.Sound)
    (clean : before.Clean action) : after.Sound ∧ after.Clean action := by
  constructor
  · intro calls reasons suspended asked
    exact (sound calls reasons (edits.awake suspended) (edits.suspend_state.symm.trans asked)).later edits.capabilities edits.turn
  · intro calls handed
    exact (clean calls handed).later edits.capabilities edits.turn

/-- One transition. -/
theorem call_fits {e : LoopStateMachine (leased K)} {last : LoopAction} (call : LoopCall) (sound : e.Sound)
    (clean : e.Clean last)
    (checked : e.LeaseChecked call) : Fits (call.run last) e := by
  have quiet {α : Type} {program : LoopProgram (leased K) α} (tame : Tame program) : Withheld (do
      let _ ← program
      pure .AwaitingResume) := tame.seq fun _ => of_pure withholds_resume
  cases call with
  | Start goal criteria preloaded => exact (start_withheld goal criteria preloaded).fits sound
  | LoadWorkflow nodes caller => exact (load_workflow_as_withheld nodes caller).fits sound
  | AppendNodes nodes submitter tool_label => exact (quiet (append_workflow_nodes_tame nodes submitter tool_label)).fits sound
  | DriveWorkflow just_completed caller => exact (drive_workflow_withheld just_completed caller).fits sound
  | CloseDynamicWorkflow => exact close_dynamic_workflow_withheld.fits sound
  | LLMResponse message => exact feed_llm_response_fits sound checked
  | ToolResults results measurements => exact (feed_tool_results_ends results measurements).fits
  | MilestoneResult passed phase_id reason => exact (feed_milestone_result_withheld passed phase_id reason).fits sound
  | SubAgentCompleted agent_id result => exact (feed_sub_agent_completed_withheld agent_id result).fits sound
  | Signal operation_id delivery_id attempt signal may_issue_request =>
    refine fits_bind (signal_event_withheld operation_id delivery_id attempt signal may_issue_request e) fun action after kept => ?_
    refine fits_pure (kept.1.sound sound) ?_
    cases action with
    | none => exact withholds_resume
    | some action => exact kept.2 action rfl
  | ContextOverflow => exact recover_from_context_overflow_withheld.fits sound
  | ForceCompact => exact (quiet force_compact_tame).fits sound
  | Approval approved_calls denied_calls => exact resolve_approval_fits sound approved_calls denied_calls
  | Preload => exact resume_after_preload_fits checked
  | Recall => exact resume_after_recall_rouses.fits
  | WorkflowSpawn started failures => exact (resolve_workflow_spawn_withheld started failures).fits sound
  | Preempt => exact resolve_preempt_withheld.fits sound
  | PageOutArchived archive_ref => exact commit_page_out_archive_fits sound checked archive_ref
  | PageOutFailed error => exact abandon_page_out_archive_fits sound checked error
  | Cancel operation_id reason pending_call_ids => exact cancel_operation_fits operation_id reason pending_call_ids
  | Externalize => exact externalize_fits sound clean
  | Refresh => exact refresh_fits sound clean

theorem Reached.sound {start e : LoopStateMachine (leased K)} (fresh : start.suspend_state = none)
    (reached : Reached LeaseChecked start e action) : e.Sound ∧ e.Clean action := by
  induction reached with
  | start =>
    refine ⟨sound_of_unasked fun calls reasons asked => ?_,withholds_resume.clean⟩
    cases fresh.symm.trans asked
  | call call reached fit ran ih =>
    exact call_fits call ih.1 ih.2 fit _ _ ran
  | edit reached edits ih => exact edits.keeps ih.1 ih.2

/-- Over any transitions that take none of the branches past the lease check over an expired lease, every call that is
    handed out is under no capability of the root whose lease has run out by the turn it is handed out in. -/
theorem expired_never_released {start e : LoopStateMachine (leased K)} {calls : List ToolCall}
    (fresh : start.suspend_state = none)
    (reached : Reached LeaseChecked start e (.ExecuteTools calls)) :
    ∀ call ∈ calls, ∀ capability ∈ e.capabilities, capability.kind = .Tool →
      resource_matches capability.resource call.name = true → ∀ lease, capability.lease = some lease →
      lease.is_expired e.turn = false :=
  fun call member => (unexpired_iff e call).mp ((reached.sound fresh).2 calls rfl call member)

/-- A machine whose root holds these capabilities. -/
def holding (capabilities : List Capability) (e : LoopStateMachine K) : LoopStateMachine (leased K) := { e with
  ledger := (capabilities,e.ledger)
  workflow := e.workflow.map fun run => ⟨run.nodes,run.rest⟩ }

open PlainParts Driver

def leaseOver (tool : String) (expiry : Nat) : Capability := ⟨tool,.Tool,⟨tool⟩,∅,∅,some ⟨some expiry⟩,false,"operator"⟩

/-- An operation whose lease over `deploy` has run out, and whose lease over `memory` has not. -/
def leasedPlainly (governed : Bool) : LoopStateMachine (leased plainLoop) :=
  { holding [leaseOver "deploy" 0,leaseOver "memory" 9] (build_engine (K := plain) (plainConfig everyEffect "")) with
    governance := if governed then some () else none }

private def deployAndRecall : CoreMessage := ⟨.Assistant,.Text "",[⟨"c1","deploy","{}"⟩,⟨"c2","memory","{}"⟩]⟩

/-- The started operation and the calls of its first turn that are handed out. -/
private def handedOut (governed : Bool) : Option (LoopStateMachine (leased plainLoop) × List ToolCall) :=
  match (LoopCall.Start "ship" [] false).run .AwaitingResume (leasedPlainly governed) with
  | .ok action e =>
    match (LoopCall.LLMResponse deployAndRecall).run action e with
    | .ok (.ExecuteTools calls) after => some (after,calls)
    | _ => none
  | .error .. => none

private theorem handedOut_reached {governed : Bool} {e : LoopStateMachine (leased plainLoop)} {calls : List ToolCall}
    {allowed : LoopStateMachine (leased plainLoop) → LoopCall → Prop} (through : handedOut governed = some (e,calls))
    (starts : allowed (leasedPlainly governed) (.Start "ship" [] false))
    (answers : ∀ action started, (LoopCall.Start "ship" [] false).run .AwaitingResume (leasedPlainly governed) = .ok action started →
      allowed started (.LLMResponse deployAndRecall)) : Reached allowed (leasedPlainly governed) e (.ExecuteTools calls) := by
  unfold handedOut at through
  split at through
  next action started ran =>
    split at through
    next released after ran' =>
      cases through
      exact .call _ (.call _ .start starts ran) (answers action started ran) ran'
    next => cases through
  next => cases through

private theorem handedOut_governed : (handedOut true).any (fun handed => handed.2 == [⟨"c2","memory","{}"⟩] &&
    decide (leaseOver "memory" 9 ∈ handed.1.capabilities)) = true := by decide +kernel

private theorem handedOut_ungoverned : (handedOut false).any (fun handed => handed.2.contains ⟨"c1","deploy","{}"⟩ &&
    decide (leaseOver "deploy" 0 ∈ handed.1.capabilities)) = true := by decide +kernel

/-- Behind the gate of a governed turn only the other call is left. -/
theorem expired_never_released_governed :
    ∃ e, Reached LeaseChecked (leasedPlainly true) e (.ExecuteTools [⟨"c2","memory","{}"⟩]) ∧
    (Lease.mk (some 9)).is_expired e.turn = false := by
  obtain ⟨⟨e,calls⟩,through,shape⟩ := (any_eq_true _ _).mp handedOut_governed
  obtain ⟨here,held⟩ := Bool.and_eq_true_iff.mp shape
  obtain rfl : calls = [⟨"c2","memory","{}"⟩] := eq_of_beq here
  have reached : Reached LeaseChecked (leasedPlainly true) e (.ExecuteTools [⟨"c2","memory","{}"⟩]) := by
    refine handedOut_reached through trivial fun action started ran => .inl ?_
    exact (start_withheld "ship" [] false (leasedPlainly true) action started ran).1.governed
  exact ⟨e,reached,expired_never_released rfl reached ⟨"c2","memory","{}"⟩ List.mem_cons_self (leaseOver "memory" 9) (of_decide_eq_true held) rfl
    (by decide +kernel) ⟨some 9⟩ rfl⟩

/-- Without a pipeline the gate hands out what its lease no longer covers. -/
theorem expired_released_ungoverned : ∃ e calls, Reached (fun _ _ => True)
    (leasedPlainly false) e (.ExecuteTools calls) ∧
    ⟨"c1","deploy","{}"⟩ ∈ calls ∧ leaseOver "deploy" 0 ∈ e.capabilities ∧
    resource_matches (leaseOver "deploy" 0).resource "deploy" = true ∧
      (Lease.mk (some 0)).is_expired e.turn = true := by
  obtain ⟨⟨e,calls⟩,through,shape⟩ := (any_eq_true _ _).mp handedOut_ungoverned
  obtain ⟨here,held⟩ := Bool.and_eq_true_iff.mp shape
  have reached : Reached (fun _ _ => True) (leasedPlainly false) e (.ExecuteTools calls) :=
    handedOut_reached through trivial fun _ _ _ => trivial
  exact ⟨e,calls,reached,List.contains_iff_mem.mp here,of_decide_eq_true held,by decide +kernel,by simp [Lease.is_expired]⟩

end LoopStateMachine
end Deepstrike.Loop

import Deepstrike.Releasing

/-!
The workflow driver leaves parked batches alone: a round spawns children and waits on them, a
completion wakes the parent, and none of it hands a call out.
-/
namespace Deepstrike.Loop
open Wire Tasks Vocabulary Components Frames Keeps

variable {K : LoopParts}

namespace LoopStateMachine

theorem Holds.unasked {before after : LoopStateMachine (leased K)} (holds : Holds before after)
    (unasked : ∀ calls reasons, after.suspend_state ≠ some (.AskUser calls reasons)) : Settles before after :=
  { toHolds := holds
    parked := fun ⟨_,calls,reasons,asked⟩ => (unasked calls reasons asked).elim }

private theorem Same.of_ledger {e : LoopStateMachine (leased K)} {ledger : (leased K).Ledger}
    (kept : ledger.1 = e.ledger.1) : Same e { e with ledger } := by
  unfold Same view capabilities
  dsimp only
  rw [kept]
  rfl

private theorem onLedger_still {change : (leased K).Ledger → (leased K).Ledger} (kept : ∀ ledger, (change ledger).1 = ledger.1) :
    Still (K := K) (onLedger change) := of_modify fun start => Same.of_ledger (kept start.ledger)

private theorem drop_reservation_still : Still (K := K) (onLedger (leased K).drop_reservation) := onLedger_still fun _ => rfl
theorem return_child_budget_still (id : TaskId) : Still (K := K) (onLedger ((leased K).return_child_budget id)) :=
    onLedger_still fun _ => rfl

private theorem accumulate_usage_still (id : TaskId) (tokens turns : Nat) : Still (K := K) (onLedger ((leased K).accumulate_usage id tokens turns)) :=
  onLedger_still fun _ => rfl

theorem process_changed_still (id : TaskId) : Still (K := K) (process_changed id) := by
  unfold process_changed
  refine of_get fun e => ?_
  split
  · split
    · exact observe_still _ e
    · exact here (of_pure trivial)
  · exact here (of_pure trivial)

private theorem reject_control_still (operation : String) (subject : Option TaskId) (reason : String) :
    Still (K := K) (reject_control operation subject reason) := by
  unfold reject_control
  exact of_get fun e => here ((push_signal_still _).seq fun _ => observe_still _)

private theorem reserve_authority_capabilities {tasks : TaskTable} {parent : TaskId} {manifest : IsolationManifest} {turn : Nat}
    {ledger reserved : (leased K).Ledger} (ran : (leased K).reserve_authority tasks parent manifest turn ledger = .ok reserved) :
    reserved.1 = ledger.1 := by
  unfold leased at ran
  dsimp only at ran
  cases rest : K.reserve_authority tasks parent manifest turn ledger.2 with
  | error refusal => rw [rest] at ran; cases ran
  | ok after => rw [rest] at ran; cases ran; rfl

private theorem evaluate_spawn_quota_deferrable_still (caller : Option TaskId) (manifest : IsolationManifest) :
    Still (K := K) (evaluate_spawn_quota_deferrable caller manifest) := by
  unfold evaluate_spawn_quota_deferrable
  refine drop_reservation_still.seq fun _ => of_get fun e => ?_
  extract_lets quota concurrency grant_max reserve deeper
  have reserves (u : Unit) : Ends (reserve u) e fun _ after => Same e after ∧ True := by
    unfold reserve
    split
    · exact (ends_pure _ _ _).mpr ⟨rfl,trivial⟩
    split
    · exact (ends_pure _ _ _).mpr ⟨rfl,trivial⟩
    next ran =>
    simp only [ends_bind,ends_get,ends_set,ends_pure]
    exact ⟨Same.of_ledger (reserve_authority_capabilities ran),trivial⟩
  have goes_deeper (u : Unit) : Ends (deeper u) e fun _ after => Same e after ∧ True := by
    unfold deeper
    split
    · split
      · exact (ends_pure _ _ _).mpr ⟨rfl,trivial⟩
      · exact reserves ()
    · exact reserves ()
  split
  · exact (ends_pure _ _ _).mpr ⟨rfl,trivial⟩
  split
  · exact (ends_pure _ _ _).mpr ⟨rfl,trivial⟩
  split
  · split
    · split
      · exact ((observe_still _).seq fun _ => of_pure trivial) e
      · exact (ends_pure _ _ _).mpr ⟨rfl,trivial⟩
    · exact goes_deeper ()
  · exact goes_deeper ()

private theorem spawn_nodes_tame (caller : Option TaskId) (nodes : List Nat) : Tame (K := K) (spawn_nodes caller nodes) := by
  induction nodes with
  | nil => exact of_pure trivial
  | cons node rest ih =>
  unfold spawn_nodes
  refine of_get fun e => ?_
  split
  · exact ih e
  next run _ =>
  split
  · exact ((onRun_still _).tame.seq fun _ => of_get fun e =>
      ((push_signal_still _).tame.seq fun _ => ih) e) e
  refine here ((evaluate_spawn_quota_deferrable_still _ _).tame.seq fun verdict => ?_)
  split
  · refine of_get fun e => ?_
    split
    · exact ((onRun_still _).tame.seq fun _ => ih) e
    next parent _ =>
    split
    · exact ((onRun_still _).tame.seq fun _ => (observe_still _).tame.seq fun _ => ih) e
    next tasks spawned =>
    refine Ends.set_keeps (Holds.settles_of_wakes ⟨rfl,rfl,rfl,rfl⟩ (wakes_spawn_child spawned) rfl rfl) ?_
    refine (onRun_still _).tame.seq fun _ => of_get fun e => ?_
    exact (ih.seq fun _ => of_pure trivial) e
  · exact of_pure trivial
  · exact (onRun_still _).tame.seq fun _ => ih

private theorem order_local_runnables_still (ready : List Nat) : Still (K := K) (order_local_runnables ready) := by
  unfold order_local_runnables
  refine of_get fun e => ?_
  extract_lets named order
  split
  · exact ((observe_still _).seq fun _ => of_pure trivial) e
  · exact (ends_pure _ _ _).mpr ⟨rfl,trivial⟩

private theorem spawn_ready_workflow_nodes_tame (caller : Option TaskId) : Tame (K := K) (spawn_ready_workflow_nodes caller) := by
  have rest (ready : List Nat) : Tame (K := K) (do spawn_nodes caller (← order_local_runnables ready)) :=
    (order_local_runnables_still ready).tame.seq fun _ => spawn_nodes_tame caller _
  unfold spawn_ready_workflow_nodes
  refine of_get fun e => ?_
  extract_lets collected
  have collects (ready : List Nat) : Tame (K := K) (collected ready) := by
    unfold collected
    exact (order_local_runnables_still ready).tame.seq fun _ => spawn_nodes_tame caller _
  split
  · exact Ends.set_keeps (.of_rest ⟨rfl,rfl,rfl,rfl⟩ rfl rfl rfl) (collects _)
  · exact collects [] e

private theorem finish_workflow_ends : Rouses (K := K) finish_workflow := by
  unfold finish_workflow
  refine Rouses.after (fun e => (ends_get e _).mpr ⟨refl e,trivial⟩) fun entered => ?_
  extract_lets finished
  have finishes (u : Unit) : Rouses (finished u) := by
    unfold finished
    refine Rouses.after (of_modify fun _ => ⟨rfl,rfl,rfl,rfl⟩) fun _ => ?_
    split
    · intro e
      have completed : TaskLifecycle.Done .Completed ≠ .Suspended := nofun
      refine (ends_bind _ _ _ _).mpr ((set_lifecycle_ends completed e).mono fun _ after ⟨holds,awake⟩ => ?_)
      exact (ends_pure _ _ _).mpr ⟨holds,awake,fun _ => nofun⟩
    · exact Rouses.after (set_phase_still _).tame.holds fun _ => emit_call_llm_ends
  split
  · exact Rouses.after (observe_still _).tame.holds finishes
  · exact finishes ()

theorem withholds_resume : Withholds .AwaitingResume := by
  intro calls same
  cases same

private theorem leaves_settles (e : LoopStateMachine (leased K)) (keep : TaskId → Bool) : Settles e { e with
    suspend_state := match e.suspend_state with
      | some (.SubAgentAwait ids) => some (.SubAgentAwait (ids.filter keep))
      | other => other } := by
  split
  · exact Holds.unasked ⟨rfl,rfl,rfl,rfl⟩ fun _ _ => nofun
  · exact .of_rest ⟨rfl,rfl,rfl,rfl⟩ rfl rfl rfl

theorem waits_for_none_settles (e : LoopStateMachine (leased K)) : Settles e { e with suspend_state := none } :=
  Holds.unasked ⟨rfl,rfl,rfl,rfl⟩ fun _ _ => nofun

/-- A round that spawned waits on its children: no approval is waited for then. -/
theorem drive_workflow_withheld (just_completed caller : Option TaskId) :
    Withheld (K := K) (drive_workflow just_completed caller) := by
  unfold drive_workflow
  extract_lets finishing driven
  have drives (u : Unit) : Withheld (driven u) := by
    unfold driven
    refine (spawn_ready_workflow_nodes_tame caller).seq fun spawned => ?_
    obtain ⟨ids,infos⟩ := spawned
    dsimp only
    split
    · intro e
      simp only [ends_bind,ends_get,ends_modify,ends_pure]
      refine ((set_lifecycle_rigid _ _).here).mono fun _ after both => ?_
      obtain ⟨rigid,_⟩ := both
      refine ⟨?_,fun calls same => by cases same⟩
      have waits := rigid.suspend_state
      refine Holds.unasked ⟨rigid.capabilities,rigid.governed,rigid.active,rigid.deferred⟩ fun calls reasons asked => ?_
      dsimp only at waits asked
      rw [waits] at asked
      cases asked
    refine of_get fun e => ?_
    split
    · exact (ends_pure _ _ _).mpr ⟨refl e,withholds_resume⟩
    split
    · exact (ends_pure _ _ _).mpr ⟨refl e,withholds_resume⟩
    refine here (seq (of_modify waits_for_none_settles) fun _ => ?_)
    split
    · exact (observe_still _).tame.seq fun _ => finish_workflow_ends.withheld
    · exact finish_workflow_ends.withheld
  split
  · exact seq (of_modify fun e => leaves_settles e _) drives
  · exact drives ()

theorem close_dynamic_workflow_withheld : Withheld (K := K) close_dynamic_workflow :=
  seq (of_modify fun _ => .of_rest ⟨rfl,rfl,rfl,rfl⟩ rfl rfl rfl) fun _ => drive_workflow_withheld none none

theorem load_workflow_as_withheld (nodes : List WireNode) (caller : TaskId) :
    Withheld (K := K) (load_workflow_as nodes caller) := by
  unfold load_workflow_as
  split
  · exact seq (of_modify fun _ => .of_rest ⟨rfl,rfl,rfl,rfl⟩ rfl rfl rfl) fun _ => drive_workflow_withheld none _
  · exact (reject_control_still _ _ _).tame.seq fun _ => emit_after_phase _

/-- Appending nodes parks nothing. -/
theorem append_workflow_nodes_tame (nodes : List WireNode) (submitter : Option TaskId) (tool_label : String) :
    Tame (K := K) (append_workflow_nodes nodes submitter tool_label) := by
  unfold append_workflow_nodes
  refine of_get fun e => ?_
  split
  · split
    · exact (ends_pure _ _ _).mpr ⟨refl e,trivial⟩
    split
    · exact ((observe_still _).tame.seq fun _ => of_pure trivial) e
    · refine Ends.set_keeps (.of_rest ⟨rfl,rfl,rfl,rfl⟩ rfl rfl rfl) ?_
      split
      · exact (observe_still _).tame.seq fun _ => of_pure trivial
      · exact of_pure trivial
  · exact ((reject_control_still _ _ _).tame.seq fun _ => of_pure trivial) e
  · exact ((reject_control_still _ _ _).tame.seq fun _ => of_pure trivial) e

private theorem advance_workflow_withheld (agent_id : TaskId) (result : ChildResult) : Withheld (K := K) (advance_workflow agent_id result) :=
  (onRun_still _).tame.seq fun _ => drive_workflow_withheld _ _

private theorem resume_parent_of_withheld (agent_id : TaskId) : Withheld (K := K) (resume_parent_of agent_id) := by
  unfold resume_parent_of
  refine of_get fun e => ?_
  extract_lets awaiting
  split
  next ids _ _ =>
    extract_lets left
    split
    · exact Ends.set_keeps (waits_for_none_settles e) ((observe_still _).tame.seq fun _ => emit_after_phase _)
    · exact Ends.set_keeps (Holds.unasked ⟨rfl,rfl,rfl,rfl⟩ fun _ _ => nofun) (of_pure fun _ => nofun)
  · exact emit_after_phase _ e

private theorem ChildResult.terminal_state_awake (result : ChildResult) : ChildResult.terminal_state result ≠ .Suspended := by
  unfold ChildResult.terminal_state
  split <;> exact nofun

private theorem wakes_elsewhere (tasks : TaskTable) {id : TaskId} (other : id ≠ "root") {change : Tcb → Tcb}
    (named : ∀ task, (change task).id = task.id) :
    Wakes tasks (tasks.modify id change) := by
  unfold Wakes TaskTable.lifecycle
  rw [lifecycle_modify tasks id change named]
  cases found : tasks.get "root" with
  | none => exact fun suspended => suspended
  | some task =>
  have root : task.id = "root" := by simpa using List.find?_some found
  rw [Option.map_some,if_neg (root ▸ other.symm)]
  exact fun suspended => suspended

private theorem root_ended_awake (tasks : TaskTable) {state : TaskLifecycle} (awake : state ≠ .Suspended) :
    (tasks.set_state "root" state).lifecycle "root" ≠ some .Suspended := by
  unfold TaskTable.set_state TaskTable.lifecycle
  rw [lifecycle_modify _ "root" (fun task : Tcb => { task with state }) fun _ => rfl]
  cases found : tasks.get "root" with
  | none => exact nofun
  | some task =>
  have root : task.id = "root" := by simpa using List.find?_some found
  rw [Option.map_some,Option.map_some,if_pos root]
  exact fun same => awake (Option.some.inj same)

private theorem child_returned_same (agent_id : TaskId) (action : LoopAction) : Keeps (Same (K := K)) (do
    onLedger ((leased K).return_child_budget agent_id)
    process_changed agent_id
    pure action) fun returned => returned = action :=
  (return_child_budget_still _).seq fun _ => (process_changed_still _).seq fun _ => of_pure rfl

private theorem onTasks_holds (change : TaskTable → TaskTable) : Keeps (Holds (K := K)) (onTasks change) fun _ => True :=
  of_modify fun _ => ⟨rfl,rfl,rfl,rfl⟩

/-- A workflow's child is suspended until its completion has been driven, also where it is the root itself. -/
theorem feed_sub_agent_completed_withheld (agent_id : TaskId) (result : ChildResult) :
    Withheld (K := K) (feed_sub_agent_completed agent_id result) := by
  have ended := ChildResult.terminal_state_awake result
  unfold feed_sub_agent_completed
  refine begin_event_still.tame.seq fun _ => of_get fun e => ?_
  extract_lets owned terminal marker output reported
  by_cases special : owned = true ∧ agent_id = "root"
  · have reports (u : Unit) : Rouses (reported u) := by
      unfold reported
      refine Rouses.after (push_signal_still _).tame.holds fun _ => ?_
      rw [if_pos special.1]
      refine fun e => (ends_bind _ _ _ _).mpr ((advance_workflow_withheld agent_id result e).mono fun action driven ⟨settles,withholds⟩ => ?_)
      refine (ends_bind _ _ _ _).mpr ((ends_modify _ _ _).mpr ?_)
      refine (child_returned_same agent_id action).here.mono fun returned after ⟨same,is_action⟩ => ?_
      subst is_action
      have root : Awake { driven with tasks := driven.tasks.set_state agent_id terminal } := by
        unfold Awake
        rw [Ne,lifecycle_suspended,special.2]
        exact root_ended_awake driven.tasks ended
      have holds : Holds driven { driven with tasks := driven.tasks.set_state agent_id terminal } := ⟨rfl,rfl,rfl,rfl⟩
      exact ⟨trans_of Holds settles.toHolds (trans_of Holds holds same.stays.toHolds),same.stays.awake root,withholds⟩
    suffices held : Ends _ e fun action after => Holds e after ∧ after.Awake ∧ Withholds action from
      held.mono fun _ _ ⟨holds,awake,withholds⟩ => ⟨holds.settles awake,withholds⟩
    split
    · split
      · refine Rouses.after (onTasks_holds _) (fun _ => ?_) e
        exact Rouses.after (accumulate_usage_still _ _ _).tame.holds reports
      · exact reports () e
    · exact reports () e
  have reports (u : Unit) : Withheld (reported u) := by
    unfold reported
    refine (push_signal_still _).tame.seq fun _ => ?_
    split
    · refine (advance_workflow_withheld _ _).bind fun action withholds => ?_
      refine seq (onTasks_tame fun tasks => wakes_set_state tasks agent_id ended) fun _ => ?_
      refine (return_child_budget_still _).tame.seq fun _ => (process_changed_still _).tame.seq fun _ => of_pure withholds
    · exact (return_child_budget_still _).tame.seq fun _ => (process_changed_still _).tame.seq fun _ => resume_parent_of_withheld _
  split
  · split
    · refine here (seq (onTasks_tame fun tasks => ?_) fun _ => (accumulate_usage_still _ _ _).tame.seq reports)
      by_cases other : agent_id = "root"
      · have free : ¬ owned = true := fun owned => special ⟨owned,other⟩
        exact wakes_modify _ _ (fun _ => rfl) fun _ suspended => by
          dsimp only at suspended
          rw [if_neg free] at suspended
          exact (ended suspended).elim
      · exact wakes_elsewhere tasks other fun _ => rfl
    · exact reports () e
  · exact reports () e

private theorem acknowledge_started_tame (nodes : List WorkflowSpawnInfo) : Tame (K := K) (acknowledge_started nodes) := by
  induction nodes with
  | nil => exact of_pure trivial
  | cons node rest ih =>
  refine seq (onTasks_tame fun tasks => ?_) fun _ => (process_changed_still _).tame.seq fun _ => ih
  refine wakes_modify _ _ (fun task => ?_) fun task suspended => ?_
  · split <;> rfl
  · split at suspended
    · exact suspended
    · cases suspended

private theorem fail_launches_tame (ids : List TaskId) : Tame (K := K) (fail_launches ids) := by
  have failed : TaskLifecycle.Done .Error ≠ .Suspended := nofun
  induction ids with
  | nil => exact of_pure trivial
  | cons id rest ih =>
  refine seq (onTasks_tame fun tasks => wakes_set_state tasks id failed) fun _ => ?_
  exact (return_child_budget_still _).tame.seq fun _ => (onRun_still _).tame.seq fun _ => ih

private theorem abort_preempted_tame (ids : List TaskId) : Tame (K := K) (abort_preempted ids) := by
  have aborted : TaskLifecycle.Done .UserAbort ≠ .Suspended := nofun
  induction ids with
  | nil => exact of_pure trivial
  | cons id rest ih =>
  refine seq (onTasks_tame fun tasks => wakes_set_state tasks id aborted) fun _ => ?_
  exact (return_child_budget_still _).tame.seq fun _ => (process_changed_still _).tame.seq fun _ => ih

/-- A resolved spawn parks nothing and hands no call out. -/
theorem resolve_workflow_spawn_withheld (started failures : List TaskId) :
    Withheld (K := K) (resolve_workflow_spawn started failures) := by
  unfold resolve_workflow_spawn
  refine of_get fun e => ?_
  split
  · exact (ends_pure _ _ _).mpr ⟨refl e,fun _ => nofun⟩
  next pending _ =>
  extract_lets started_nodes resolved
  have resolves (u : Unit) : Withheld (resolved u) := by
    unfold resolved
    refine of_get fun e => ?_
    split
    · exact (ends_pure _ _ _).mpr ⟨refl e,fun _ => nofun⟩
    · exact here (seq (of_modify waits_for_none_settles) fun _ => drive_workflow_withheld _ _)
  refine here (seq (of_modify fun _ => .of_rest ⟨rfl,rfl,rfl,rfl⟩ rfl rfl rfl) fun _ => ?_)
  refine (fail_launches_tame _).seq fun _ => seq (of_modify fun e => leaves_settles e _) fun _ => ?_
  refine (acknowledge_started_tame _).seq fun _ => ?_
  split
  · exact of_get fun e => ((observe_still _).tame.seq fun _ => (observe_still _).tame.seq resolves) e
  · exact resolves ()

/-- A resolved preemption parks nothing and hands no call out. -/
theorem resolve_preempt_withheld : Withheld (K := K) resolve_preempt := by
  unfold resolve_preempt
  refine of_get fun e => ?_
  split
  · exact (ends_pure _ _ _).mpr ⟨refl e,fun _ => nofun⟩
  next pending _ =>
  extract_lets ids preempted
  have preempts (u : Unit) : Withheld (preempted u) :=
    (observe_still _).tame.seq fun _ => seq (of_modify waits_for_none_settles) fun _ => emit_call_llm_withheld
  refine Ends.set_keeps (.of_rest ⟨rfl,rfl,rfl,rfl⟩ rfl rfl rfl) ((abort_preempted_tame _).seq fun _ => of_get fun e => ?_)
  split
  · split
    · exact here (seq (of_modify fun _ => .of_rest ⟨rfl,rfl,rfl,rfl⟩ rfl rfl rfl) fun _ =>
        (observe_still _).tame.seq preempts)
    · exact preempts () e
  · exact preempts () e

end LoopStateMachine
end Deepstrike.Loop

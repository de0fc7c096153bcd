import Deepstrike.Leasing

/-!
What each transition of the loop leaves alone of the facts a release rests on. Only the dispatch of a
batch and the slot of the host effects return calls for execution.
-/
namespace Deepstrike.Loop
open Wire Tasks Vocabulary Components Frames Keeps Option List

variable {K : LoopParts} {α : Type}

namespace LoopStateMachine

/-- A program that touches nothing of the view. -/
abbrev Still (program : LoopProgram (leased K) α) : Prop := Keeps Same program fun _ => True

/-- A program that parks nothing. -/
abbrev Tame (program : LoopProgram (leased K) α) : Prop := Keeps Settles program fun _ => True

/-- An action that hands no call out. -/
def Withholds (action : LoopAction) : Prop := ∀ calls, action ≠ .ExecuteTools calls

/-- A transition that parks nothing and hands no call out. -/
abbrev Withheld (program : LoopProgram (leased K) LoopAction) : Prop := Keeps Settles program Withholds

variable {program : LoopProgram (leased K) α} {state : TaskLifecycle}

theorem Still.tame (still : Still program) : Tame program :=
  still.weaken (fun _ _ same => same.settles) fun _ fit => fit

theorem observe_still (observation : KernelObservation) : Still (K := K) (observe observation) := of_modify fun _ => rfl
theorem observeAll_still (observations : List KernelObservation) : Still (K := K) (observeAll observations) :=
    of_modify fun _ => rfl
theorem clear_observations_still : Still (K := K) clear_observations := of_modify fun _ => rfl
theorem onCtx_still (change : (leased K).Ctx → (leased K).Ctx) : Still (K := K) (onCtx change) := of_modify fun _ => rfl
theorem set_phase_still (phase : LoopPhase) : Still (K := K) (set_phase phase) := of_modify fun _ => rfl
theorem push_signal_still (text : String) : Still (K := K) (push_signal text) := onCtx_still _
theorem push_history_still (message : CoreMessage) : Still (K := K) (push_history message) := of_modify fun _ => rfl
theorem push_synthetic_tool_result_still (call_id : CallId) (output : String) (is_error : Bool) :
    Still (K := K) (push_synthetic_tool_result call_id output is_error) := push_history_still _
theorem onRun_still (change : (leased K).RunRest → (leased K).RunRest) : Still (K := K) (onRun change) :=
    of_modify fun _ => rfl

theorem onCtxNoting_still (change : (leased K).Ctx → List KernelObservation × (leased K).Ctx) :
    Still (K := K) (onCtxNoting change) := by
  unfold onCtxNoting
  refine of_get fun e => ?_
  exact (ends_set _ _ _).mpr ⟨rfl,trivial⟩

private theorem sweep_leases_still : Still (K := K) sweep_leases := of_get fun e => onCtxNoting_still _ e

theorem begin_event_still : Still (K := K) begin_event := clear_observations_still.seq fun _ => sweep_leases_still

private theorem drain_queued_signals_still : Still (K := K) drain_queued_signals := by
  unfold drain_queued_signals
  refine of_get fun e => ?_
  dsimp only
  split <;> exact Ends.set_keeps rfl ((observeAll_still _).seq fun _ => onCtx_still _)

private theorem check_budget_still : Still (K := K) check_budget := by
  unfold check_budget
  refine of_get fun e => ?_
  split
  · split
    · refine here ((observe_still _).seq fun _ => ?_)
      exact of_modify fun _ => rfl
    · exact here (of_pure trivial)
  · exact here (of_pure trivial)

/-! The root task's lifecycle. -/

variable (tasks : TaskTable)

theorem lifecycle_modify (id : TaskId) (change : Tcb → Tcb) (named : ∀ task, (change task).id = task.id) :
    (tasks.modify id change).get "root" = (tasks.get "root").map fun task => if task.id = id then change task
    else task := by
  unfold TaskTable.modify TaskTable.get
  rw [find?_map]
  congr 1
  congr 1
  funext task
  simp only [Function.comp]
  split
  · rw [named]
  · rfl

/-- A change of the tasks that does not suspend the root. -/
def Wakes (before after : TaskTable) : Prop := after.lifecycle "root" = some .Suspended → before.lifecycle "root" = some .Suspended

theorem wakes_modify (id : TaskId) {change : Tcb → Tcb} (named : ∀ task, (change task).id = task.id)
    (state : ∀ task, (change task).state = .Suspended → task.state = .Suspended) :
    Wakes tasks (tasks.modify id change) := by
  unfold Wakes TaskTable.lifecycle
  rw [lifecycle_modify tasks id change named]
  cases tasks.get "root" with
  | none => exact fun suspended => suspended
  | some task =>
  simp only [map_some,some.injEq]
  split
  · exact state task
  · exact fun suspended => suspended

theorem wakes_set_state (id : TaskId) (awake : state ≠ .Suspended) :
    Wakes tasks (tasks.set_state id state) := wakes_modify tasks id (fun _ => rfl) fun _ suspended =>
    (awake suspended).elim

private theorem wakes_foldl {β : Type} (items : List β) {change : TaskTable → β → TaskTable} (each : ∀ tasks item, Wakes tasks (change tasks item))
    (tasks : TaskTable) : Wakes tasks (items.foldl change tasks) := by
  induction items generalizing tasks with
  | nil => exact fun suspended => suspended
  | cons item rest ih => exact fun suspended => each tasks item (ih _ suspended)

private theorem wakes_aborted (ids : List TaskId) (tasks : TaskTable) :
    Wakes tasks (ids.foldl (fun tasks id => tasks.set_state id (.Done .UserAbort)) tasks) := by
  have ended : TaskLifecycle.Done .UserAbort ≠ .Suspended := nofun
  exact wakes_foldl ids (fun tasks id => wakes_set_state tasks id ended) tasks

private theorem get_append (child : Tcb) (id : TaskId) :
    TaskTable.get (tasks ++ [child]) id = (tasks.get id).or (if child.id = id then some child else none) := by
  unfold TaskTable.get
  rw [find?_append,find?_singleton]
  simp only [beq_iff_eq]

/-- A spawn does not suspend the root. -/
theorem wakes_spawn_child {tasks after : TaskTable} {caller child : TaskId}
    (spawned : tasks.spawn_child caller child .PendingLaunch = .ok after) :
    Wakes tasks after := by
  unfold TaskTable.spawn_child at spawned
  repeat' split at spawned
  all_goals cases spawned
  next fresh =>
  have unknown : ¬ (tasks.any fun task => task.id == (Tcb.spawned_in child caller .PendingLaunch).id) = true := by
    intro known
    obtain ⟨task,member,same⟩ := any_eq_true.mp known
    refine fresh ?_
    rw [TaskTable.get,find?_isSome]
    exact ⟨task,member,same⟩
  unfold Wakes TaskTable.lifecycle TaskTable.insert
  rw [if_neg unknown,get_append]
  cases tasks.get "root" with
  | some task => exact fun suspended => suspended
  | none =>
  rw [none_or]
  split
  · exact nofun
  · exact fun suspended => suspended

theorem lifecycle_suspended (e : LoopStateMachine K) :
    e.lifecycle = .Suspended ↔ e.tasks.lifecycle "root" = some .Suspended := by
  unfold LoopStateMachine.lifecycle
  cases e.tasks.lifecycle "root" with
  | none => simp
  | some state => simp

theorem Holds.settles_of_wakes {before after : LoopStateMachine (leased K)} (holds : Holds before after)
    (wakes : Wakes before.tasks after.tasks)
    (turn : after.turn = before.turn) (suspend_state : after.suspend_state = before.suspend_state) :
    Settles before after :=
  { toHolds := holds
    parked := fun ⟨suspended,waiting⟩ => by
      rw [suspend_state] at waiting
      refine ⟨⟨?_,waiting⟩,turn,suspend_state⟩
      rw [lifecycle_suspended] at suspended ⊢
      exact wakes suspended }

theorem onTasks_tame {change : TaskTable → TaskTable} (wakes : ∀ tasks, Wakes tasks (change tasks)) :
    Tame (K := K) (onTasks change) :=
  of_modify fun e => Holds.settles_of_wakes ⟨rfl,rfl,rfl,rfl⟩ (wakes e.tasks) rfl rfl

private theorem lifecycle_rooted (state : TaskLifecycle) :
    ((if (tasks.get "root").isNone then tasks.insert (Tcb.root "root") else tasks).set_state "root" state).lifecycle "root" = some state := by
  unfold TaskTable.lifecycle TaskTable.set_state
  rw [lifecycle_modify _ "root" (fun task : Tcb => { task with state }) fun _ => rfl]
  split
  next absent =>
    have unknown : ¬ (tasks.any fun task => task.id == (Tcb.root "root").id) = true := by
      intro known
      obtain ⟨task,member,same⟩ := any_eq_true.mp known
      exact (find?_eq_none.mp (isNone_iff_eq_none.mp absent)) task member same
    unfold TaskTable.insert
    rw [if_neg unknown,get_append,isNone_iff_eq_none.mp absent]
    rfl
  next held =>
  obtain ⟨task,found⟩ := ne_none_iff_exists'.mp fun absent => held (isNone_iff_eq_none.mpr absent)
  have named : task.id = "root" := by simpa using find?_some found
  rw [found,map_some,map_some,if_pos named]

theorem set_lifecycle_rigid (state : TaskLifecycle) (wait : Option (WaitMode × List WaitCondition)) :
    Keeps (Rigid (K := K)) (set_lifecycle state wait) fun _ => True :=
  of_modify fun _ => { toHolds := ⟨rfl,rfl,rfl,rfl⟩, suspend_state := rfl }

/-- Any lifecycle but a suspension leaves the engine awake. -/
theorem set_lifecycle_ends (awake : state ≠ .Suspended) (e : LoopStateMachine (leased K)) :
    Ends (set_lifecycle state none) e fun _ after => Holds e after ∧ after.Awake := by
  refine (ends_modify _ _ _).mpr ⟨⟨rfl,rfl,rfl,rfl⟩,?_⟩
  unfold Awake
  rw [Ne,lifecycle_suspended]
  intro suspended
  have woken := @wakes_modify _ "root" (fun task => { task with wait_set := none }) (fun _ => rfl) (fun _ same => same) suspended
  rw [lifecycle_rooted] at woken
  exact awake (some.inj woken)

theorem Still.stays (still : Still program) : Keeps Stays program fun _ => True :=
  still.weaken (fun _ _ same => same.stays) fun _ fit => fit

theorem running_awake : TaskLifecycle.Running ≠ .Suspended := by
  intro same
  cases same

private theorem withholds_done (result : LoopResult) : Withholds (.Done result) := nofun

/-- A termination leaves the engine awake and hands no call out. -/
theorem terminate_ends (termination : TerminationReason) (final_message : Option CoreMessage)
    (e : LoopStateMachine (leased K)) :
    Ends (terminate termination final_message) e fun action after => Holds e after ∧ after.Awake ∧
    Withholds action := by
  have ended : TaskLifecycle.Done termination ≠ .Suspended := by
    intro same
    cases same
  unfold terminate
  cases final_message <;> dsimp only [push_history,observe] <;> simp only [ends_bind,ends_get,ends_modify,ends_pure] <;>
    refine (set_lifecycle_ends ended _).mono fun _ after both =>
      ⟨⟨both.1.capabilities,both.1.governed,both.1.active,both.1.deferred⟩,?_,withholds_done _⟩
  all_goals
    obtain ⟨holds,awake⟩ := both
    intro suspended
    rw [lifecycle_suspended] at suspended
    exact awake ((lifecycle_suspended _).mpr (wakes_aborted _ _ suspended))

private theorem Stays.of_ends {before after : LoopStateMachine (leased K)} (holds : Holds before after) (awake : after.Awake) : Stays before after :=
  { toHolds := holds, awake := fun _ => awake }

private theorem call_llm_action_stays (context : RenderedContext) (tools : List ToolSchema) :
    Keeps (Stays (K := K)) (call_llm_action context tools) Withholds := by
  intro e
  unfold call_llm_action
  simp only [ends_bind,ends_get,ends_modify,ends_set,ends_pure]
  refine ⟨{ toHolds := ⟨rfl,rfl,rfl,rfl⟩, awake := id },fun calls same => ?_⟩
  cases same

private theorem render_and_call_stays : Keeps (Stays (K := K)) render_and_call Withholds := by
  unfold render_and_call
  refine check_budget_still.stays.seq fun _ => of_get fun e => Ends.set_keeps ?_ ?_
  · exact { toHolds := ⟨rfl,rfl,rfl,rfl⟩, awake := id }
  refine (observe_still _).stays.seq fun _ => (onCtx_still _).stays.seq fun _ => of_get fun e => ?_
  dsimp only
  refine Ends.set_keeps { toHolds := ⟨rfl,rfl,rfl,rfl⟩, awake := id } ?_
  split
  · refine (observe_still _).stays.seq fun _ => ?_
    split
    · refine seq (of_modify fun _ => { toHolds := ⟨rfl,rfl,rfl,rfl⟩, awake := id }) fun _ => ?_
      exact fun e => (terminate_ends _ _ e).mono fun _ _ ⟨holds,awake,withholds⟩ => ⟨.of_ends holds awake,withholds⟩
    · exact of_get fun e => call_llm_action_stays _ _ e
  · exact of_get fun e => call_llm_action_stays _ _ e

/-- A request to the model leaves the engine awake and hands no call out. -/
theorem emit_call_llm_ends (e : LoopStateMachine (leased K)) :
    Ends emit_call_llm e fun action after => Holds e after ∧ after.Awake ∧ Withholds action := by
  unfold emit_call_llm
  rw [ends_bind]
  refine (set_lifecycle_ends running_awake e).mono fun _ woken both => ?_
  obtain ⟨holds,awake⟩ := both
  refine ((show Keeps Stays _ Withholds from ?rest) woken).mono fun _ _ kept =>
    ⟨trans_of Holds holds kept.1.toHolds,kept.1.awake awake,kept.2⟩
  refine (onCtx_still _).stays.seq fun _ => of_get fun e => ?_
  dsimp only
  split
  · refine Ends.set_keeps { toHolds := ⟨rfl,rfl,rfl,rfl⟩, awake := id } ?_
    split
    · refine of_pure fun calls same => ?_
      cases same
    · exact render_and_call_stays
  · exact render_and_call_stays e

theorem Settles.of_rest {before after : LoopStateMachine (leased K)} (holds : Holds before after)
    (lifecycle : after.lifecycle = before.lifecycle)
    (turn : after.turn = before.turn) (suspend_state : after.suspend_state = before.suspend_state) :
    Settles before after :=
  { toHolds := holds
    parked := fun parked => by
      unfold Parked at parked ⊢
      rw [lifecycle,suspend_state] at parked
      exact ⟨parked,turn,suspend_state⟩ }

private theorem push_compression_observations_tame (action : PressureAction) (compaction : Compaction) :
    Tame (K := K) (push_compression_observations action compaction) := by
  unfold push_compression_observations
  refine of_get fun e => here ((observe_still _).tame.seq fun _ => ?_)
  split
  · refine seq (of_modify fun _ => .of_rest ⟨rfl,rfl,rfl,rfl⟩ rfl rfl rfl) fun _ => ?_
    exact (onCtxNoting_still _).tame
  · exact (onCtxNoting_still _).tame

theorem compactWith_tame (action : PressureAction) (compact : (leased K).Ctx → Compaction × (leased K).Ctx)
    (worth : Compaction → Bool) :
    Tame (K := K) (compactWith action compact worth) := by
  unfold compactWith
  refine of_get fun e => Ends.set_keeps (.of_rest ⟨rfl,rfl,rfl,rfl⟩ rfl rfl rfl) ?_
  split
  · exact (push_compression_observations_tame _ _).seq fun _ => of_pure trivial
  · exact of_pure trivial

theorem Tame.discard (tame : Tame program) : Tame (Functor.discard program) :=
  seq tame fun _ => of_pure trivial

private theorem execute_eviction_op_tame (op : EvictionOp) : Tame (K := K) (execute_eviction_op op) := by
  unfold execute_eviction_op
  refine of_get fun e => here ?_
  cases op with
  | TimeDecayMicro =>
    refine seq (Tame.discard (compactWith_tame _ _ _)) fun _ => ?_
    split
    · exact (onCtx_still _).tame
    · exact of_pure trivial
  | _ => exact Tame.discard (compactWith_tame _ _ _)

private theorem execute_eviction_ops_tame (idle_decay : Bool) (ops : List EvictionOp) : Tame (K := K) (execute_eviction_ops idle_decay ops) := by
  induction ops with
  | nil => exact of_pure trivial
  | cons op rest ih =>
  unfold execute_eviction_ops
  split
  · exact (execute_eviction_op_tame op).seq fun _ => ih
  · exact ih

private theorem push_tool_result_still (measurements : List ToolMeasurement) (result : ToolResult) :
    Still (K := K) (push_tool_result measurements result) := of_modify fun _ => rfl

private theorem push_tool_results_still (measurements : List ToolMeasurement) (results : List ToolResult) :
    Still (K := K) (push_tool_results measurements results) := by
  induction results generalizing measurements with
  | nil => exact of_pure trivial
  | cons result rest ih => exact (push_tool_result_still _ _).seq fun _ => ih _

private theorem run_eviction_tame : Tame (K := K) run_eviction := by
  unfold run_eviction
  refine of_get fun e => ?_
  dsimp only
  have rest (idle_decay : Bool) : Tame (K := K) (do
      onCtx (leased K).recompute_handle_residency
      onCtxNoting ((leased K).enforce_knowledge_budget e.turn)
      execute_eviction_ops idle_decay ((leased K).plan_eviction idle_decay (← get).ctx)) :=
    (onCtx_still _).tame.seq fun _ => (onCtxNoting_still _).tame.seq fun _ => of_get fun e => execute_eviction_ops_tame _ _ e
  split <;> split
  · exact ((execute_eviction_op_tame _).seq fun _ => rest _) e
  · exact rest _ e
  · exact ((execute_eviction_op_tame _).seq fun _ => rest _) e
  · exact rest _ e

private theorem run_renewal_tame : Tame (K := K) run_renewal := by
  unfold run_renewal
  refine of_get fun e => ?_
  split
  · refine here ((onCtxNoting_still _).tame.seq fun _ => ?_)
    refine seq (of_modify fun _ => .of_rest ⟨rfl,rfl,rfl,rfl⟩ rfl rfl rfl) fun _ => ?_
    exact of_get fun e => (onCtxNoting_still _).tame e
  · exact here (of_pure trivial)

/-- A transition that leaves the root awake and hands no call out. -/
abbrev Rouses (program : LoopProgram (leased K) LoopAction) : Prop :=
  ∀ e, Ends program e fun action after => Holds e after ∧ after.Awake ∧ Withholds action

theorem Rouses.withheld {program : LoopProgram (leased K) LoopAction} (rouses : Rouses program) : Withheld program :=
  fun e => (rouses e).mono fun _ _ ⟨holds,awake,withholds⟩ => ⟨holds.settles awake,withholds⟩

theorem Rouses.after {first : LoopProgram (leased K) α} {next : α → LoopProgram (leased K) LoopAction}
    (keeps : Keeps Holds first fun _ => True)
    (rouses : ∀ value, Rouses (next value)) : Rouses (first >>= next) := fun e =>
  (ends_bind first next e _).mpr ((keeps e).mono fun value between both => (rouses value between).mono fun _ _ ⟨holds,rest⟩ =>
    ⟨trans_of Holds both.1 holds,rest⟩)

theorem Tame.holds (tame : Tame program) : Keeps Holds program fun _ => True :=
  tame.weaken (fun _ _ settles => settles.toHolds) fun _ fit => fit

theorem emit_call_llm_withheld : Withheld (K := K) emit_call_llm := Rouses.withheld emit_call_llm_ends
theorem terminate_withheld (termination : TerminationReason) (final_message : Option CoreMessage) :
    Withheld (K := K) (terminate termination final_message) :=
    Rouses.withheld (terminate_ends termination final_message)

theorem emit_after_phase (phase : LoopPhase) : Withheld (K := K) (do set_phase phase; emit_call_llm) :=
  (set_phase_still phase).tame.seq fun _ => emit_call_llm_withheld

private theorem request_preempt_for_interrupt_withheld (reason : String) :
    Keeps (Settles (K := K)) (request_preempt_for_interrupt reason) fun action => ∀ some_action ∈ action, Withholds some_action := by
  unfold request_preempt_for_interrupt
  refine of_get fun e => ?_
  split
  · refine here (seq (of_modify fun _ => .of_rest ⟨rfl,rfl,rfl,rfl⟩ rfl rfl rfl) fun _ => of_pure ?_)
    intro action same
    cases same
    exact fun _ => nofun
  · exact here (of_pure fun _ => nofun)

/-- A routed signal drives a provider call or a preemption, or nothing. -/
theorem route_signal_withheld (signal : LogicalSignal) (may_issue_request : Bool) :
    Keeps (Settles (K := K)) (route_signal signal may_issue_request) fun routed => ∀ action ∈ routed.1,
    Withholds action := by
  have called (disposition : SignalDisposition) (depth : Nat) : Keeps (Settles (K := K))
      (do pure (some (← emit_call_llm),disposition,depth)) fun routed => ∀ action ∈ routed.1, Withholds action :=
    emit_call_llm_withheld.bind fun action withholds => of_pure fun _ same => by cases same; exact withholds
  have silent (disposition : SignalDisposition) (depth : Nat) : Keeps (Settles (K := K))
      (pure (none,disposition,depth) : LoopProgram (leased K) (Option LoopAction × SignalDisposition × Nat))
      fun routed => ∀ action ∈ routed.1, Withholds action := of_pure fun _ => nofun
  unfold route_signal
  refine of_get fun e => ?_
  extract_lets lifecycle summary
  split
  next outcome router _ =>
  extract_lets depth driven disposed
  have drives (u : Unit) : Keeps (Settles (K := K)) (driven u) fun routed => ∀ action ∈ routed.1, Withholds action := by
    unfold driven
    split
    · refine (push_signal_still _).tame.seq fun _ => (set_phase_still _).tame.seq fun _ => ?_
      refine (request_preempt_for_interrupt_withheld _).bind fun preempted withholds => ?_
      split
      · exact of_pure fun _ same => withholds _ same
      · split
        · exact called _ _
        · exact silent _ _
    · exact (push_signal_still _).tame.seq fun _ => (set_phase_still _).tame.seq fun _ => called _ _
    · exact (push_signal_still _).tame.seq fun _ => silent _ _
    · exact (push_signal_still _).tame.seq fun _ => silent _ _
    all_goals exact silent _ _
  have disposes (u : Unit) : Keeps (Settles (K := K)) (disposed u) fun routed => ∀ action ∈ routed.1, Withholds action := by
    unfold disposed
    split
    · exact (observe_still _).tame.seq drives
    · exact drives ()
  refine Ends.set_keeps (.of_rest ⟨rfl,rfl,rfl,rfl⟩ rfl rfl rfl) ((observeAll_still _).tame.seq fun _ => ?_)
  split
  · exact (observe_still _).tame.seq disposes
  · exact disposes ()

private theorem route_signal_tame (signal : LogicalSignal) (may_issue_request : Bool) : Tame (K := K) (route_signal signal may_issue_request) :=
  (route_signal_withheld signal may_issue_request).weaken (fun _ _ settles => settles) fun _ _ => trivial

theorem signal_event_withheld (operation_id : OperationId) (delivery_id : String) (attempt : Nat)
    (signal : LogicalSignal)
    (may_issue_request : Bool) :
    Keeps (Settles (K := K)) (signal_event operation_id delivery_id attempt signal may_issue_request) fun action =>
    ∀ some_action ∈ action, Withholds some_action := by
  unfold signal_event
  refine clear_observations_still.tame.seq fun _ => sweep_leases_still.tame.seq fun _ => ?_
  refine (route_signal_withheld signal may_issue_request).bind fun ⟨action,disposition,depth⟩ withholds => ?_
  exact of_get fun e => ((observe_still _).tame.seq fun _ => of_pure withholds) e

section
variable (results : List ToolResult)
include results

private theorem sample_entropy_tame : Tame (K := K) (sample_entropy results) := by
  unfold sample_entropy
  refine of_get fun e => ?_
  extract_lets streak
  split
  refine Ends.set_keeps (.of_rest ⟨rfl,rfl,rfl,rfl⟩ rfl rfl rfl) ((observeAll_still _).tame.seq fun _ => ?_)
  split
  · exact Tame.discard (route_signal_tame _ _)
  · exact of_pure trivial

private theorem handle_tool_results_ends (measurements : List ToolMeasurement) :
    Rouses (K := K) (handle_tool_results results measurements) := by
  unfold handle_tool_results
  refine Rouses.after (fun e => (ends_get e _).mpr ⟨refl e,trivial⟩) fun entered => ?_
  refine Rouses.after (of_modify fun _ => ⟨rfl,rfl,rfl,rfl⟩) fun _ => ?_
  refine Rouses.after (push_tool_results_still _ _).tame.holds fun _ => ?_
  refine Rouses.after (of_modify fun _ => ⟨rfl,rfl,rfl,rfl⟩) fun _ => ?_
  refine Rouses.after run_eviction_tame.holds fun _ => ?_
  refine Rouses.after run_renewal_tame.holds fun _ => ?_
  refine Rouses.after (sample_entropy_tame _).holds fun _ => ?_
  refine Rouses.after drain_queued_signals_still.tame.holds fun _ => ?_
  exact Rouses.after (set_phase_still _).tame.holds fun _ => emit_call_llm_ends

theorem feed_tool_results_ends (measurements : List ToolMeasurement) :
    Rouses (K := K) (feed_tool_results results measurements) :=
  Rouses.after begin_event_still.tame.holds fun _ => handle_tool_results_ends results measurements

theorem commit_synthetic_results_ends : Rouses (K := K) (commit_synthetic_results results) := by
  unfold commit_synthetic_results
  refine Rouses.after (set_phase_still _).tame.holds fun _ => ?_
  refine Rouses.after (fun e => (ends_get e _).mpr ⟨refl e,trivial⟩) fun entered => fun e => ?_
  refine (ends_bind _ _ _ _).mpr ((feed_tool_results_ends results [] e).mono fun action between ⟨holds,awake,withholds⟩ => ?_)
  simp only [ends_bind,ends_modify,ends_pure]
  exact ⟨⟨holds.capabilities,holds.governed,holds.active,holds.deferred⟩,awake,withholds⟩

end

theorem commit_denied_results_ends : Rouses (K := K) commit_denied_results := by
  unfold commit_denied_results
  refine Rouses.after (fun e => (ends_get e _).mpr ⟨refl e,trivial⟩) fun entered => ?_
  exact Rouses.after (of_modify fun _ => ⟨rfl,rfl,rfl,rfl⟩) fun _ => commit_synthetic_results_ends _

end LoopStateMachine
end Deepstrike.Loop

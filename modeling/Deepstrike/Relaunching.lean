import Deepstrike.Slots

/-!
The relaunch of a failed child. Its supervisor takes the task back in front of a launch without the
gate: the step stays within the limits where the task has kept its slot, or another one is free.
-/
namespace Deepstrike.Driver
open Wire Tasks TaskTable Option
open Transaction Loop Frames Slots

variable {K : Parts} {α : Type}

/-- Whether the supervisor of a failed child grants it another launch. -/
def relaunches (e : Engine K) (task_id : TaskId) : Bool :=
  (e.tasks.get task_id).any fun task =>
    let (strategy,max_restarts) := match task.parent.bind e.tasks.get with
      | some parent => K.supervision e.ledger parent.id
      | none => (.Propagate,none)
    (decide (strategy = .Restart) || decide (strategy = .Retry)) &&
      max_restarts.any fun max => decide (K.relaunches e.ledger task_id < max)

variable {driver : OperationDriver K} {e : Engine K} {task_id : TaskId}

private theorem look_ok {after : OperationDriver K} (ran : engine_mut get driver = .ok e after) :
    after = driver ∧ driver.engine = some e := by
  cases held : driver.engine with
  | none =>
    simp only [engine_mut,held] at ran
    cases ran
  | some engine =>
  have looks : engine_mut get driver = .ok engine driver := by
    cases driver
    cases held
    rfl
  cases looks.symm.trans ran
  exact ⟨rfl,rfl⟩

private theorem supervision_of_ok {after : OperationDriver K} {strategy : ChildFailurePolicy} {relaunch : Bool}
    (ran : supervision_of task_id driver = .ok (strategy,relaunch) after) :
    after = driver ∧ ∀ e, driver.engine = some e → relaunch = relaunches e task_id := by
  unfold supervision_of at ran
  obtain ⟨e,between,looked,supervised⟩ := bind_ok ran
  obtain ⟨rfl,held⟩ := look_ok looked
  cases found : e.tasks.get task_id with
  | none =>
    simp only [found] at supervised
    cases supervised
  | some task =>
  simp only [found] at supervised
  cases supervised
  refine ⟨rfl,fun other held' => ?_⟩
  cases held.symm.trans held'
  unfold relaunches
  rw [found]
  rfl

/-! What the accepted time changes before an input is planned. -/

/-- Rows that have heard of events, and nothing else of what a relaunch or a launch depends on. -/
structure Woken (before after : Engine K) : Prop where
  ledger : after.ledger = before.ledger
  launching : after.pending_workflow_spawn = before.pending_workflow_spawn
  quota : after.policies = before.policies
  grant : after.budget_grant = before.budget_grant
  heard : ∃ keys : List WaitCondition, after.tasks = keys.foldl notify before.tasks

variable {before after : Engine K}

theorem Woken.same (ledger : after.ledger = before.ledger)
    (launching : after.pending_workflow_spawn = before.pending_workflow_spawn)
    (quota : after.policies = before.policies) (grant : after.budget_grant = before.budget_grant)
    (tasks : after.tasks = before.tasks) :
    Woken before after := ⟨ledger,launching,quota,grant,[],tasks⟩

instance : Std.Refl (Woken (K := K)) := ⟨fun _ => .same rfl rfl rfl rfl rfl⟩
instance : IsTrans (Engine K) Woken := ⟨fun _ _ _ one two => by
  obtain ⟨keys,heard⟩ := one.heard
  obtain ⟨more,heard'⟩ := two.heard
  refine ⟨two.ledger.trans one.ledger,two.launching.trans one.launching,two.quota.trans one.quota,two.grant.trans one.grant,keys ++ more,?_⟩
  rw [heard',heard,List.foldl_append]⟩

/-- The accepted time changes nothing a relaunch or a launch depends on. -/
theorem begin_plan_woken (now_ms : Nat) : Spans Woken (begin_plan (K := K) now_ms) fun _ => True := by
  have aside {change : Engine K → Engine K} (same : ∀ e, Woken e (change e)) :
    Spans Woken (modify change : LoopProgram K.toLoopParts PUnit) fun _ => True :=
    Spans.of_modify same
  have timed : Spans (Woken (K := K)) (observe_accepted_time now_ms) fun _ => True := by
    unfold observe_accepted_time
    refine Spans.of_get fun e => Spans.here (Spans.seq (aside fun _ => by exact .same rfl rfl rfl rfl rfl) fun _ => ?_)
    split
    · exact aside fun _ => .same rfl rfl rfl rfl rfl
    · exact Spans.of_pure trivial
  have traced : Spans (Woken (K := K)) observe_local_runnable_tasks fun _ => True := by
    unfold observe_local_runnable_tasks
    refine Spans.of_get fun e => Spans.here ?_
    extract_lets order
    split
    · exact aside fun _ => .same rfl rfl rfl rfl rfl
    · exact Spans.of_pure trivial
  have woken : Spans (Woken (K := K)) (onTasks fun tasks => tasks.wake_expired_timers now_ms) fun _ => True :=
    aside fun e => ⟨rfl,rfl,rfl,rfl,(e.tasks.due_timers now_ms).map .Timer,by rw [List.foldl_map]; rfl⟩
  unfold begin_plan
  refine Spans.seq (aside fun _ => .same rfl rfl rfl rfl rfl) fun _ => timed.seq fun _ => ?_
  refine Spans.of_get fun e => Spans.here (woken.seq fun _ => Spans.of_get fun after => Spans.here ?_)
  split
  · exact traced
  · exact Spans.of_pure trivial

/-- A change of rows by which no row loses a slot, and none is given one. -/
structure Listening (change : Tcb → Tcb) : Prop where
  steady (task : Tcb) : Steady change task
  parent (task : Tcb) : (change task).parent = task.parent
  keeps (task : Tcb) : task.state.occupies_slot = true → (change task).state.occupies_slot = true

private theorem listening_hear (key : WaitCondition) : Listening (hear key) where
  steady := steady_hear key
  parent task := by
    unfold hear
    dsimp only
    repeat' split
    all_goals rfl
  keeps task occupied := by
    unfold hear
    dsimp only
    split
    · exact occupied
    split
    · exact occupied
    split
    · exact occupied
    split
    · split
      next suspended =>
        rw [suspended] at occupied
        cases occupied
      next => exact occupied
    · exact occupied

private theorem heard_map (keys : List WaitCondition) (tasks : TaskTable) :
    ∃ change, Listening change ∧ keys.foldl notify tasks = tasks.map change := by
  induction keys generalizing tasks with
  | nil => exact ⟨id,⟨steady_same,fun _ => rfl,fun _ occupied => occupied⟩,(List.map_id _).symm⟩
  | cons key rest ih =>
  have once := listening_hear key
  obtain ⟨change,listening,heard⟩ := ih (tasks.notify key)
  refine ⟨change ∘ hear key,⟨fun task => ⟨⟨?_,?_,fun child occupied => ?_⟩,fun child holds => ?_⟩,fun task => ?_,fun task occupied => ?_⟩,?_⟩
  · exact (listening.steady _).id.trans (once.steady task).id
  · exact (listening.steady _).proc.trans (once.steady task).proc
  · have child' : (hear key task).proc = true := (once.steady task).proc.trans child
    exact (once.steady task).frees child ((listening.steady _).frees child' occupied)
  · have child' : (hear key task).proc = true := (once.steady task).proc.trans child
    exact (listening.steady _).holds child' ((once.steady task).holds child holds)
  · exact (listening.parent _).trans (once.parent task)
  · exact listening.keeps _ (once.keeps task occupied)
  · exact heard.trans (List.map_map ..)

theorem relaunches_woken (woken : Woken before after) (task_id : TaskId) :
    relaunches after task_id = relaunches before task_id := by
  obtain ⟨keys,heard⟩ := woken.heard
  obtain ⟨change,listening,mapped⟩ := heard_map keys before.tasks
  have read (id : TaskId) : after.tasks.get id = (before.tasks.get id).map change := by
    rw [heard,mapped]
    exact get_map (fun task _ => (listening.steady task).id) id
  unfold relaunches
  rw [read,woken.ledger]
  cases before.tasks.get task_id with
  | none => rfl
  | some task =>
  simp only [map_some,any_some,listening.parent]
  cases task.parent with
  | none => rfl
  | some parent =>
  cases found : before.tasks.get parent with
  | none => simp only [bind_some,read,found,map_none]
  | some row => simp only [bind_some,read,found,map_some,(listening.steady row).id]

theorem regains_woken (woken : Woken before after) (regains : Regains before.roster task_id) :
    Regains after.roster task_id := by
  obtain ⟨keys,heard⟩ := woken.heard
  obtain ⟨change,listening,mapped⟩ := heard_map keys before.tasks
  have tasks : after.roster.tasks = before.tasks.map change := heard.trans mapped
  have slots : after.roster.slots = before.roster.slots := by
    unfold Roster.slots LoopStateMachine.roster
    rw [woken.quota]
  unfold Regains
  rw [tasks,slots]
  refine regains.imp (fun held row member same child => ?_) fun free most limited => ?_
  · obtain ⟨task,inside,rfl⟩ := List.mem_map.mp member
    rw [(listening.steady task).id] at same
    rw [(listening.steady task).proc] at child
    exact listening.keeps task (held task inside same child)
  · exact Nat.lt_of_le_of_lt (running_map fun task _ => (listening.steady task).toFrees) (free most limited)

/-! The relaunch. -/

/-- The programs that leave alone the tasks, their limits, and what the operation stands on. -/
def Still (before after : OperationDriver K) : Prop := after.ground = before.ground

instance : Std.Refl (Still (K := K)) := ⟨fun _ => rfl⟩
instance : IsTrans (OperationDriver K) Still := ⟨fun _ _ _ one two => two.trans one⟩

private theorem engine_mut_still {program : LoopProgram K.toLoopParts α}
    (reads : ∀ e, Lands program e (fun _ after => after = e) fun after => after = e) :
    Spans (Still (K := K)) (engine_mut program) fun _ => True := by
  refine fun driver => engine_mut_judged (fun _ => rfl) fun engine held => ?_
  have still {after : Engine K} (same : after = engine) : Still driver { driver with engine := some after } := by
    unfold Still OperationDriver.ground OperationDriver.roster
    rw [held,same]
    rfl
  exact (reads engine).mono (fun _ _ same => ⟨still same,trivial⟩) fun _ same => still same

private theorem task_launch_attempt_still (operation_id : OperationId) (step_seq : Nat) (info : WorkflowSpawnInfo) (attempt : Nat) :
    Spans (Still (K := K)) (task_launch_attempt operation_id step_seq info attempt) fun _ => True := by
  unfold task_launch_attempt
  refine Spans.seq (Spans.of_modify fun _ => rfl) fun _ => Spans.seq (engine_mut_still fun e => ?_) fun spec => ?_
  · refine (lands_bind _ _ _).mpr ((lands_get _).mpr ?_)
    cases refuse (K.launch_spec operation_id info e.ctx e.tasks) with
    | ok spec => exact (lands_pure _ _).mpr rfl
    | error halt => exact lands_throw _ _ rfl
  · exact Spans.of_get fun driver => Spans.here (Spans.of_pure trivial)

private theorem still_lands {β : Type} {related : Roster → Roster → Prop} [Tolerant related]
    {first : DriverProgram K α} {next : α → DriverProgram K β} (still : Spans (Still (K := K)) first fun _ => True)
    (rest : ∀ value between, Still driver between →
      Lands (next value) between (fun _ after => OnDriver related between after ∧ True) (OnDriver related between)) :
    Lands (first >>= next) driver (fun _ after => OnDriver related driver after ∧ True) (OnDriver related driver) := by
  refine (lands_bind _ _ _).mpr ((still driver).mono (fun value between both => ?_) fun after same => OnDriver.same same)
  have reached : OnDriver related driver between := OnDriver.same both.1
  exact (rest value between both.1).mono (fun _ _ both => ⟨trans_of (OnDriver related) reached both.1,trivial⟩)
    fun _ left => trans_of (OnDriver related) reached left

private theorem require_effect_support_still (config : ResolvedOperationConfig) (tag : EffectKindTag) :
    Spans (Still (K := K)) (require_effect_support config tag) fun _ => True := by
  unfold require_effect_support
  split
  · exact Spans.of_pure trivial
  · exact Spans.of_throw

private theorem still_roster {between : OperationDriver K} (still : Still driver between) (held : between.engine = some e) :
    driver.roster = some e.roster := by
  have same : between.roster = driver.roster := congrArg Prod.fst still
  unfold OperationDriver.roster at same ⊢
  rw [← same,held]
  rfl

private theorem observe_supervised_tolerated {related : Roster → Roster → Prop} [Tolerant related] (task_id : TaskId) (event : SupervisionEvent) :
    Tolerated (K := K.toLoopParts) related (observe_supervised (K := K) task_id event) := Spans.of_get fun _ => Spans.here (observe_tolerated _)

/-- A relaunch is related where the relation allows for taking the task up again. -/
theorem plan_relaunch_lands {related : Roster → Roster → Prop} [Tolerant related] (context : PlanContext)
    (task_id : TaskId) (event : SupervisionEvent)
    (driver : OperationDriver K)
    (prepared : ∀ roster, driver.roster = some roster →
    related roster (roster.map fun tasks => tasks.prepare_supervised_relaunch task_id)) :
    Lands (plan_relaunch context task_id event) driver (fun _ after => OnDriver related driver after ∧ True)
    (OnDriver related driver) := by
  unfold plan_relaunch
  refine still_lands (require_effect_support_still _ _) fun _ supported still => ?_
  refine (lands_bind _ _ _).mpr ((lands_get _).mpr ?_)
  split
  · exact Spans.here (refuseWith_steered _ _)
  next info _ =>
  extract_lets marked launched
  have marks (u : Unit) : Tolerated (K := K.toLoopParts) related (marked u) :=
    (mark_tasks_starting_tolerated _).seq fun _ => observe_supervised_tolerated _ _
  have launches (u : Unit) (between : OperationDriver K) (still : Still driver between) :
      Lands (launched u) between (fun _ after => OnDriver related between after ∧ True) (OnDriver related between) := by
    refine still_lands (task_launch_attempt_still _ _ _ _) fun launch named still' => ?_
    have same : Still driver named := still'.trans still
    refine Lands.seq (engine_mut_lands fun e held => ?_) fun _ => Spans.of_get fun driver => Spans.here steered_pure
    have prepares : related e.roster (e.roster.map fun tasks => tasks.prepare_supervised_relaunch task_id) :=
      prepared e.roster (still_roster same held)
    refine (lands_bind _ _ _).mpr ((lands_modify _ _).mpr ((lands_bind _ _ _).mpr ((lands_modify _ _).mpr ?_)))
    have started : Tolerated (K := K.toLoopParts) related
        (if event.strategy = .Restart then do onLedger (K.reset_usage task_id); marked () else marked ()) := by
      split
      · exact (onLedger_tolerated _).seq marks
      · exact marks ()
    exact (started _).mono (fun _ _ both => ⟨Tolerant.next prepares both.1,trivial⟩) fun _ left => Tolerant.next prepares left
  split
  · exact (lands_bind _ _ _).mpr (lands_throw _ _ (refl supported))
  · exact launches () supported still

/-! The completion of a child. -/

/-- A failed child whose supervisor takes it up again has kept its slot, or another one is free. -/
def RelaunchFits (driver : OperationDriver K) (completed : ChildCompleted) : Prop :=
  completed.result.status = .Failed → ∀ e, driver.engine = some e → relaunches e completed.task_id = true →
  Regains e.roster completed.task_id

section
variable {related : Roster → Roster → Prop} [Tolerant related]

/-- What the relation has to allow for when a failed child is taken up again. -/
def Relaunched (related : Roster → Roster → Prop) (driver : OperationDriver K) (completed : ChildCompleted) : Prop :=
  completed.result.status = .Failed → ∀ e, driver.engine = some e → relaunches e completed.task_id = true →
    related e.roster (e.roster.map fun tasks => tasks.prepare_supervised_relaunch completed.task_id)

theorem RelaunchFits.relaunched {driver : OperationDriver K} {completed : ChildCompleted}
    (fits : RelaunchFits driver completed) :
    Relaunched (Guarding []) driver completed :=
    fun failed e held granted => guarding_prepared (fits failed e held granted)

private theorem supervise_failure_lands (context : PlanContext) (completed : ChildCompleted) (driver : OperationDriver K)
    (relaunched : Relaunched related driver completed) :
    Lands (supervise_failure context completed) driver (fun _ after => OnDriver related driver after ∧ True) (OnDriver related driver) := by
  unfold supervise_failure
  split
  · exact Spans.here steered_pure
  next failed =>
  split
  · exact Spans.here (refuseWith_steered _ _)
  next attempt _ =>
  refine (lands_bind _ _ _).mpr ⟨fun ⟨strategy,relaunch⟩ between ran => ?_,(supervision_of_steered completed.task_id driver).2⟩
  obtain ⟨rfl,granted⟩ := supervision_of_ok ran
  dsimp only
  split
  next taken =>
    refine Lands.seq (plan_relaunch_lands _ _ _ _ fun roster held => ?_) fun step => steered_pure
    unfold OperationDriver.roster at held
    obtain ⟨e,held',rfl⟩ := map_eq_some_iff.mp held
    exact relaunched (by simpa using failed) e held' ((granted e held').symm.trans taken)
  next =>
  refine Spans.here (Spans.seq (engine_mut_steered ?_) fun _ => ?_)
  · exact (onLedger_tolerated _).seq fun _ => observe_supervised_tolerated _ _
  · split <;> exact steered_pure

/-- The plan of a child's completion relates the rosters, also when it is refused. -/
theorem plan_child_completed_lands (context : PlanContext) (completed : ChildCompleted) (driver : OperationDriver K)
    (relaunched : Relaunched related driver completed)
    (joined : ∀ (roster : Roster) (state : TaskLifecycle) (result : ChildResult), state.occupies_slot = false →
      related roster (roster.map fun tasks => tasks.modify completed.task_id fun task =>
      { task with state, result := some result })) :
    Lands (plan_child_completed context completed) driver (fun _ after => OnDriver related driver after ∧ True)
      (OnDriver related driver) := by
  unfold plan_child_completed
  refine require_root_kind_lands (refl driver) fun root_kind => (lands_bind _ _ _).mpr ((lands_get _).mpr ?_)
  extract_lets issued supervised named
  have supervises (u : Unit) : Lands (supervised u) driver (fun _ after => OnDriver related driver after ∧ True) (OnDriver related driver) := by
    refine Lands.seq (supervise_failure_lands _ _ _ relaunched) fun verdict => ?_
    cases verdict with
    | inl step => exact steered_pure
    | inr result => exact completion_steered _ _ _ _ joined
  split
  · exact (lands_bind _ _ _).mpr (lands_throw _ _ (refl driver))
  · exact supervises ()

end

end Deepstrike.Driver

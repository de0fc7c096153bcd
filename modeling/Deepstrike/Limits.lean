import Deepstrike.PlainParts
import Deepstrike.Relaunching
import Deepstrike.SubAgents

/-!
The limits on the children of an operation, over its runs. Whatever spawns a child passes the gate; a
launch that is acknowledged and a child that is launched again do not, and these are the two moves
that can take more slots than there are.
-/
namespace Deepstrike.Driver
open Wire Tasks Vocabulary Components OperationDriver List
open Transaction Loop Frames Slots

variable {K : Parts} {α : Type}

/-- What moves an operation: an input that is committed, or a call of the loop's owner into the loop or its task table. -/
inductive Move where
  | Input (context : PlanContext)
  | SpawnSubAgent (manifest : IsolationManifest)
  | RegisterWaitSet (id : TaskId) (mode : WaitMode) (conditions : List WaitCondition)
  | Notify (key : WaitCondition)

def Move.program : Move → DriverProgram K Unit
  | .Input context => discard (fold context)
  | .SpawnSubAgent manifest => engine_if_any (discard (spawn_sub_agent manifest))
  | .RegisterWaitSet id mode conditions => engine_if_any (onTasks fun tasks => tasks.register_wait_set id mode conditions)
  | .Notify key => engine_if_any (onTasks fun tasks => tasks.notify key)

namespace OperationDriver

/-- The children that hold a slot, and those ever spawned. -/
def running (driver : OperationDriver K) : Nat := (driver.roster.map fun roster => roster.tasks.running).getD 0
def spawned (driver : OperationDriver K) : Nat := (driver.roster.map fun roster => roster.tasks.spawned).getD 0

/-- The limits in force on the two. -/
def slots (driver : OperationDriver K) : Option Nat := driver.roster.bind Roster.slots
def places (driver : OperationDriver K) : Option Nat := driver.roster.bind Roster.places

/-- The tasks of the driver's loop, where it has one, are in order. -/
def Rooted (driver : OperationDriver K) : Prop := ∀ roster, driver.roster = some roster → Slots.Rooted roster.tasks

end OperationDriver

/-- A move takes neither number above the limit in force on it. -/
structure WithinLimits (before after : OperationDriver K) : Prop where
  running : after.running ≤ before.running ∨ ∀ most ∈ before.slots, after.running ≤ most
  spawned : after.spawned ≤ before.spawned ∨ ∀ most ∈ before.places, after.spawned ≤ most

/-- The tasks whose launch an outcome acknowledges. -/
def acknowledged (driver : OperationDriver K) (outcome : EffectOutcome) : List TaskId :=
  (acknowledges outcome).filter driver.launching.contains

/-- A move that gives a slot only to a child that still holds one. -/
def Slotted (driver : OperationDriver K) : Move → Prop
  | .Input context => match context.input.input with
    | .ChildCompleted completed => RelaunchFits driver completed
    | .ResolveEffect _ outcome => ∀ roster, driver.roster = some roster → Holding (acknowledged driver outcome) roster
    | _ => True
  | .SpawnSubAgent manifest => manifest.agent_id ≠ "root"
  | _ => True

/-- The states reached by allowed moves. -/
inductive Reached (allowed : OperationDriver K → Move → Prop) (start : OperationDriver K) : OperationDriver K → Prop where
  | refl : Reached allowed start start
  | step {driver after : OperationDriver K} {move : Move} : Reached allowed start driver → allowed driver move →
    move.program driver = .ok () after → Reached allowed start after

/-- The state behind some moves, where each of them is taken. -/
def carry : List Move → OperationDriver K → Option (OperationDriver K)
  | [],driver => some driver
  | move :: rest,driver =>
    match move.program driver with
    | .ok () after => carry rest after
    | .error _ _ => none

variable {driver after : OperationDriver K}

variable {start before begun : OperationDriver K}

theorem Reached.carry {allowed : OperationDriver K → Move → Prop} {moves : List Move}
    (reached : Reached allowed start driver) (free : ∀ move ∈ moves, ∀ driver, allowed driver move)
    (carried : Driver.carry moves driver = some after) :
    Reached allowed start after := by
  induction moves generalizing driver with
  | nil =>
    cases carried
    exact reached
  | cons move rest ih =>
  unfold Driver.carry at carried
  split at carried
  next between ran =>
    exact ih (reached.step (free move (mem_cons_self ..) driver) ran) (fun other member => free other (mem_cons_of_mem _ member)) carried
  next => cases carried

/-! One move. -/

private theorem limits_of_within {roster next : Roster} (held : before.roster = some roster)
    (reached : after.roster = some next) (within : Within roster next) : WithinLimits before after ∧ after.Rooted := by
  refine ⟨⟨?_,?_⟩,fun other held' => ?_⟩
  · unfold running slots
    rw [held,reached]
    by_cases fewer : next.tasks.running ≤ roster.tasks.running
    · exact .inl fewer
    · exact .inr fun most limited => (within.running most limited).resolve_right fewer
  · unfold spawned places
    rw [held,reached]
    by_cases fewer : next.tasks.spawned ≤ roster.tasks.spawned
    · exact .inl fewer
    · exact .inr fun most limited => (within.spawned most limited).resolve_right fewer
  · cases reached.symm.trans held'
    exact within.rooted

theorem limits_of_guarding {named : List TaskId} (guards : OnDriver (Guarding named) before after)
    (rooted : before.Rooted) (holding : ∀ roster, before.roster = some roster → Holding named roster) :
    WithinLimits before after ∧ after.Rooted := by
  obtain ⟨guards,-⟩ := guards
  cases held : before.roster with
  | none =>
    cases reached : after.roster with
    | none =>
      refine ⟨⟨.inl ?_,.inl ?_⟩,fun roster held' => ?_⟩
      · simp [running,reached]
      · simp [spawned,reached]
      · simp [reached] at held'
    | some next =>
    rw [held,reached] at guards
    cases guards
  | some roster =>
  cases reached : after.roster with
  | none =>
    rw [held,reached] at guards
    cases guards
  | some next =>
  rw [held,reached] at guards
  cases guards with
  | some guards => exact limits_of_within held reached (guards (rooted roster held) (holding roster held)).1

theorem holding_nothing (roster : Roster) : Holding [] roster := .inr fun _ _ _ listed => by cases listed

/-- A step that leaves the tasks as they are, whatever becomes of the limits. -/
def SameTasks (before after : OperationDriver K) : Prop := after.roster.map Roster.tasks = before.roster.map Roster.tasks

instance : Std.Refl (SameTasks (K := K)) := ⟨fun _ => rfl⟩
instance : IsTrans (OperationDriver K) SameTasks := ⟨fun _ _ _ one two => two.trans one⟩

private theorem plan_policy_patch_same (patch : Json) : Spans (SameTasks (K := K)) (plan_policy_patch patch) fun _ => True := by
  have installed (config : ResolvedOperationConfig) (revision : Nat) : Spans (SameTasks (K := K)) (engine_mut do
      modify (install_live_policies config)
      observe (.LivePolicyChanged (← get).turn (K.live_policy_label patch) revision)) fun _ => True := by
    refine fun driver => engine_mut_judged (fun _ => rfl) fun engine held => ?_
    refine (lands_bind _ _ _).mpr ((lands_modify _ _).mpr ((lands_bind _ _ _).mpr ((lands_get _).mpr ((lands_modify _ _).mpr ⟨?_,trivial⟩))))
    unfold SameTasks roster
    rw [held]
    rfl
  unfold plan_policy_patch
  refine Spans.of_get fun driver => Spans.here ?_
  split
  · exact Spans.of_throw
  split
  · exact Spans.of_throw
  · refine Spans.seq (Spans.of_modify fun _ => rfl) fun _ => (installed _ _).seq fun _ => ?_
    exact Spans.of_get fun _ => Spans.here (Spans.of_pure trivial)

theorem SameTasks.read (same : SameTasks before after) {α : Type} (read : TaskTable → α) :
    after.roster.map (fun roster => read roster.tasks) = before.roster.map fun roster => read roster.tasks := by
  have both := congrArg (Option.map read) same
  rw [Option.map_map,Option.map_map] at both
  exact both

private theorem SameTasks.limits (same : SameTasks before after) (kept : WithinLimits start before ∧ before.Rooted) :
    WithinLimits start after ∧ after.Rooted := by
  have running : after.running = before.running := congrArg (fun number : Option Nat => number.getD 0) (same.read TaskTable.running)
  have spawned : after.spawned = before.spawned := congrArg (fun number : Option Nat => number.getD 0) (same.read TaskTable.spawned)
  refine ⟨⟨?_,?_⟩,fun roster held => ?_⟩
  · rw [running]
    exact kept.1.running
  · rw [spawned]
    exact kept.1.spawned
  have tasks := same
  unfold SameTasks at tasks
  rw [held] at tasks
  cases held' : before.roster with
  | none => simp [held'] at tasks
  | some start =>
  have same_tasks : roster.tasks = start.tasks := by simpa [held'] using tasks
  rw [same_tasks]
  exact kept.2 start held'

private theorem begun_woken {now_ms : Nat} (ran : engine_if_any (begin_plan now_ms) driver = .ok () begun) :
    ∀ after, begun.engine = some after → ∃ before, driver.engine = some before ∧ Woken before after := by
  have judged : Lands (engine_if_any (begin_plan now_ms)) driver
      (fun _ begun => ∀ after, begun.engine = some after → ∃ before, driver.engine = some before ∧ Woken before after) fun _ => True := by
    unfold engine_if_any
    refine (lands_bind _ _ _).mpr ((lands_get _).mpr ?_)
    split
    · refine engine_mut_judged (fun _ => trivial) fun engine held => ?_
      refine ((begin_plan_woken now_ms) engine).mono (fun _ reached both after held' => ?_) fun _ _ => trivial
      cases held'
      exact ⟨engine,held,both.1⟩
    next unbuilt =>
    refine (lands_pure _ _).mpr fun after held => ?_
    simp [held] at unbuilt
  exact judged.1 () begun ran

private theorem relaunchFits_begun {completed : ChildCompleted}
    (woken : ∀ after, begun.engine = some after → ∃ before, driver.engine = some before ∧ Woken before after) (fits : RelaunchFits driver completed) :
    RelaunchFits begun completed := by
  intro failed after held granted
  obtain ⟨before,held',woke⟩ := woken after held
  rw [relaunches_woken woke] at granted
  exact regains_woken woke (fits failed before held' granted)

private theorem same_handed (planned : OperationDriver K) (staged : Option StagedFocus) (root_kind : Option RootKind)
    (focus : Option ExecutionFocus) :
    SameTasks planned { planned with
      engine := planned.engine.map fun engine : Engine K => { engine with observations := [] }
      staged, root_kind, focus } := by
  unfold SameTasks roster
  cases planned.engine <;> rfl

/-- A committed input takes no number above its limit. -/
theorem input_limits {context : PlanContext} {step : PlannedStep} (rooted : driver.Rooted)
    (slotted : Slotted driver (.Input context)) (ran : fold context driver = .ok step after) :
    WithinLimits driver after ∧ after.Rooted := by
  obtain ⟨begun,planned,planned_step,began,planning,rfl⟩ := fold_ok ran
  refine (same_handed planned _ _ _).limits ?_
  have woken := begun_woken began
  have begins (named : List TaskId) : OnDriver (Guarding named) driver begun :=
    ((engine_if_any_steered (begin_plan_tolerated _) driver).1 _ _ began).1
  have plans {named : List TaskId} (guards : OnDriver (Guarding named) begun planned)
      (holding : ∀ roster, driver.roster = some roster → Holding named roster) : WithinLimits driver planned ∧ planned.Rooted :=
    limits_of_guarding (trans_of (OnDriver (Guarding named)) (begins named) guards) rooted holding
  have free (guards : OnDriver (Guarding []) begun planned) : WithinLimits driver planned ∧ planned.Rooted :=
    plans guards fun roster _ => holding_nothing roster
  unfold Slotted at slotted
  dsimp only at slotted
  cases input : context.input.input with
  | ConfigureOperation config =>
    rw [input] at planning
    cases planning
    refine ⟨⟨.inl (Nat.zero_le _),.inl (Nat.zero_le _)⟩,fun roster held => ?_⟩
    cases held
    show Slots.Rooted [Tcb.root "root"]
    exact ⟨by simp,rfl,fun task member _ => by cases mem_singleton.mp member; rfl⟩
  | StartOperation entry initial =>
    rw [input] at planning
    exact free ((plan_start_steered _ _ _ begun).1 _ _ planning).1
  | ResolveEffect effect_id outcome =>
    rw [input] at planning slotted
    -- The tasks that are acknowledged are those of the batch the loop was waiting for before the input.
    have launching (id : TaskId) (member : id ∈ begun.launching) : id ∈ driver.launching := by
      unfold launching at member ⊢
      cases held : begun.engine with
      | none => simp [held] at member
      | some after =>
      obtain ⟨before,held',woke⟩ := woken after held
      rw [held']
      rw [held] at member
      unfold LoopStateMachine.pending_spawn_agent_ids at member ⊢
      simpa only [Option.map_some,Option.getD_some,woke.launching] using member
    have same : SameTasks { planned with consumed_calls := begun.consumed_calls } planned := rfl
    refine same.limits (limits_of_guarding (trans_of (OnDriver (Guarding _)) (begins _) (Spent.unspent ?_)) rooted slotted)
    refine (plan_resolve_effect_lands _ _ outcome begun fun nodes listed => ?_).1 _ _ planning
    refine acknowledge_started_tolerated nodes fun node member roster => guarding_started <| mem_filter.mpr ⟨(listed node member).1,?_⟩
    exact contains_iff_mem.mpr (launching _ (listed node member).2)
  | DeliverSignal delivery =>
    rw [input] at planning
    exact free ((plan_signal_steered _ _ begun).1 _ _ planning).1
  | ChildCompleted completed =>
    rw [input] at planning slotted
    exact free ((plan_child_completed_lands _ _ _ (relaunchFits_begun woken slotted).relaunched fun roster state result free =>
      guarding_joined completed.task_id state result free).1 _ _ planning).1
  | HostControl command =>
  rw [input] at planning
  by_cases patched : ∃ patch, command = .ApplyPolicyPatch patch
  · obtain ⟨patch,rfl⟩ := patched
    have same : SameTasks begun planned := ((plan_policy_patch_same patch begun).1 _ _ planning).1
    exact same.limits (limits_of_guarding (begins []) rooted fun roster _ => holding_nothing roster)
  · exact free ((plan_host_control_steered _ _ (fun patch same => patched ⟨patch,same⟩) begun).1 _ _ planning).1

private theorem guarding_suspended (roster : Roster) (id : TaskId) (mode : WaitMode) (conditions : List WaitCondition) :
    Guarding [] roster (roster.map fun tasks => tasks.register_wait_set id mode conditions) := by
  intro rooted _
  refine ⟨?_,holding_nothing _⟩
  unfold Roster.map TaskTable.register_wait_set
  dsimp only
  split
  · exact Within.same rooted
  · refine Within.map rooted fun task _ => frees_modify fun _ => ?_
    by_cases ended : task.state.is_terminal = true
    · exact ⟨by rw [if_pos ended],by rw [if_pos ended],by rw [if_pos ended]; exact fun _ occupied => occupied⟩
    · exact ⟨by rw [if_neg ended],by rw [if_neg ended],by rw [if_neg ended]; exact fun _ occupied => by cases occupied⟩

private theorem move_limits {move : Move} (rooted : driver.Rooted) (slotted : Slotted driver move)
    (ran : move.program driver = .ok () after) : WithinLimits driver after ∧ after.Rooted := by
  have called {program : LoopProgram K.toLoopParts Unit} (tolerated : Tolerated (Guarding []) program)
      (ran : engine_if_any program driver = .ok () after) : WithinLimits driver after ∧ after.Rooted :=
    limits_of_guarding ((engine_if_any_steered tolerated driver).1 _ _ ran).1 rooted fun roster _ => holding_nothing roster
  cases move with
  | Input context =>
    obtain ⟨step,between,folded,returned⟩ := bind_ok ran
    cases returned
    exact input_limits rooted slotted folded
  | SpawnSubAgent manifest => exact called (Tolerated.discard (spawn_sub_agent_guarding manifest slotted)) ran
  | RegisterWaitSet id mode conditions => exact called (onTasks_tolerated fun roster => guarding_suspended roster id mode conditions) ran
  | Notify key => exact called (onTasks_tolerated fun roster => Tolerant.heard roster key) ran

theorem Reached.rooted (rooted : start.Rooted) (reached : Reached Slotted start driver) : driver.Rooted := by
  induction reached with
  | refl => exact rooted
  | step _ slotted ran ih => exact (move_limits ih slotted ran).2

/-- Over every run of slotted moves, none of them takes the children that hold a slot, or the children ever spawned, above
    the limit in force on it. -/
theorem children_within_limits {start driver after : OperationDriver K} {move : Move} (rooted : start.Rooted)
    (reached : Reached Slotted start driver) (slotted : Slotted driver move)
    (ran : move.program driver = .ok () after) :
    WithinLimits driver after :=
  (move_limits (reached.rooted rooted) slotted ran).1

section
open PlainParts

/-- A pool of one slot. -/
def onePool : ResolvedOperationConfig :=
  { plainConfig everyEffect "" with resource_quota := { ResourceQuota.default with max_concurrent_subagents := some 1 } }

def poolInput (step_seq : Nat) (payload : NormalizedPayload) : Move :=
  .Input ⟨⟨"op","input",step_seq,payload⟩,step_seq,none,onePool,none,[]⟩

/-- The only slot belongs to a node whose launch the host has not answered yet. -/
def launchingOne : List Move :=
  [poolInput 0 (.ConfigureOperation onePool),poolInput 1 (.StartOperation (.Workflow [⟨"a","task",[],none⟩]) "")]

/-- The host reports the node as started. -/
def startedOne : Move := poolInput 2 (.ResolveEffect "op:step:1:effect:0" (.Succeeded (.TasksSpawned [("wf-node0",.Started)])))

private theorem new_rooted : (OperationDriver.new K).Rooted := fun roster held => by cases held

private theorem launchingOne_free : ∀ move ∈ launchingOne, ∀ driver : OperationDriver plain, Slotted driver move := by
  intro move member driver
  unfold launchingOne at member
  rcases mem_cons.mp member with rfl | last
  · exact trivial
  · cases mem_singleton.mp last
    exact trivial

/-- One slot, and one child that is launched into it. -/
theorem children_within_limits_launched : ∃ driver after : OperationDriver plain, driver.running = 1 ∧
    after.running = 1 ∧ driver.slots = some 1 ∧
    WithinLimits driver after := by
  have facts : (match carry launchingOne (.new plain) with
    | some driver => match startedOne.program driver with
      | .ok () after => decide (driver.running = 1 ∧ after.running = 1 ∧ driver.slots = some 1) &&
        (driver.roster.map fun roster => roster.tasks.all fun task => !task.proc || task.state.occupies_slot).getD false
      | .error _ _ => false
    | none => false) = true := by decide +kernel
  split at facts
  next driver carried =>
    split at facts
    next after ran =>
      obtain ⟨numbers,slotted⟩ := Bool.and_eq_true_iff.mp facts
      obtain ⟨running,still,slots⟩ := of_decide_eq_true numbers
      refine ⟨driver,after,running,still,slots,children_within_limits new_rooted (.carry .refl launchingOne_free carried) ?_ ran⟩
      intro roster held
      refine .inr fun task member child _ => .inl ?_
      rw [held] at slotted
      have occupied := all_eq_true.mp slotted task member
      simpa [child] using occupied
    next => cases facts
  next => cases facts

/-- While the node waits, another child is given its slot; its launch is acknowledged all the same. -/
theorem children_exceed_limits : ¬∀ (driver after : OperationDriver plain) (move : Move), Reached (fun _ _ => True)
    (.new plain) driver →
    move.program driver = .ok () after → WithinLimits driver after := by
  intro within
  have exceeded : (match carry (launchingOne ++ [.RegisterWaitSet "wf-node0" .Any [.Timer 100],.SpawnSubAgent ⟨"b","{}"⟩]) (.new plain) with
    | some driver => match startedOne.program driver with
      | .ok () after => decide (driver.running = 1 ∧ after.running = 2 ∧ driver.slots = some 1)
      | .error _ _ => false
    | none => false) = true := by decide +kernel
  split at exceeded
  next driver carried =>
    split at exceeded
    next after ran =>
      obtain ⟨running,taken,slots⟩ := of_decide_eq_true exceeded
      rcases (within driver after startedOne (.carry .refl (fun _ _ _ => trivial) carried) ran).running with fewer | limited
      · omega
      · have most := limited 1 (by rw [slots]; rfl)
        omega
    next => cases exceeded
  next => cases exceeded

end
end Deepstrike.Driver

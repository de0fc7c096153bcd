import Deepstrike.Planning
import Deepstrike.Rostering

/-!
The driver writes no row of a task by itself: what it plans is a sequence of transitions of the loop,
and so respects every relation that these respect. What an operation stands on it does not write at all.
-/
namespace Deepstrike.Driver
open Wire Vocabulary
open Transaction Loop Frames

variable {K : Parts} {α : Type}

def OperationDriver.roster (driver : OperationDriver K) : Option Roster := driver.engine.map LoopStateMachine.roster

/-- What an operation stands on, and no part of a plan writes: its root and focus, the plan that is staged and the fault
    that poisoned it, its live policy, and the calls that have produced their syscalls. -/
structure Standing where
  root_kind : Option RootKind
  focus : Option ExecutionFocus
  staged : Option StagedFocus
  poison : Option KernelFault
  policy : Option LivePolicyState
  consumed_calls : OrdSet

def OperationDriver.standing (driver : OperationDriver K) : Standing :=
  ⟨driver.root_kind,driver.focus,driver.staged,driver.poison,driver.policy,driver.consumed_calls⟩

/-- The tasks with their limits, and what the operation stands on. -/
def OperationDriver.ground (driver : OperationDriver K) : Option Roster × Standing := (driver.roster,driver.standing)

variable {related : Roster → Roster → Prop}

/-- The rosters of two states of the driver are related, and both stand on the same. -/
structure OnDriver (related : Roster → Roster → Prop) (before after : OperationDriver K) : Prop where
  rosters : Option.Rel related before.roster after.roster
  standing : after.standing = before.standing

theorem OnDriver.same [Tolerant related] {before after : OperationDriver K} (same : after.ground = before.ground) :
    OnDriver related before after := by
  refine ⟨?_,congrArg Prod.snd same⟩
  have rosters : after.roster = before.roster := congrArg Prod.fst same
  rw [rosters]
  cases before.roster with
  | none => exact .none
  | some roster => exact .some (Tolerant.same roster)

theorem OnDriver.built {before after : OperationDriver K} (on_driver : OnDriver related before after) :
    after.engine.isSome = before.engine.isSome := by
  have rosters := on_driver.rosters
  unfold OperationDriver.roster at rosters
  cases held : before.engine with
  | none =>
    rw [held] at rosters
    cases reached : after.engine with
    | none => rfl
    | some engine =>
    rw [reached] at rosters
    cases rosters
  | some engine =>
  rw [held] at rosters
  cases reached : after.engine with
  | none =>
    rw [reached] at rosters
    cases rosters
  | some engine => rfl

instance [Tolerant related] : Std.Refl (OnDriver (K := K) related) := ⟨fun _ => .same rfl⟩

instance [Tolerant related] : IsTrans (OperationDriver K) (OnDriver related) := ⟨fun first second third one two => by
  refine ⟨?_,two.standing.trans one.standing⟩
  have begun := one.rosters
  have ended := two.rosters
  generalize first.roster = start,second.roster = middle,third.roster = last at begun ended
  cases begun with
  | none => exact ended
  | some begun =>
    cases ended with
    | some ended => exact .some (Tolerant.next begun ended)⟩

/-- A program of the driver whose every run is related. -/
abbrev Steered (related : Roster → Roster → Prop) (program : DriverProgram K α) : Prop := Spans (OnDriver related) program fun _ => True

variable [Tolerant related]

theorem steered_pure {value : α} : Steered (K := K) related (pure value) := Spans.of_pure trivial

theorem steered_aside {change : OperationDriver K → OperationDriver K}
    (same : ∀ driver, (change driver).ground = driver.ground) :
    Steered related (modify change) := Spans.of_modify fun driver => .same (same driver)

theorem refuseWith_steered (code : KernelFaultCode) (message : String) :
    Steered related (refuseWith code message : DriverProgram K α) := Spans.of_throw

variable {program : LoopProgram K.toLoopParts α} {driver : OperationDriver K} {fits : α → OperationDriver K → Prop} {left : OperationDriver K → Prop}

omit [Tolerant related] in
/-- A transition of the loop, judged by the driver it leaves behind. -/
theorem engine_mut_judged (unbuilt : driver.engine = none → left driver)
    (lands : ∀ engine, driver.engine = some engine →
    Lands program engine (fun value after => fits value { driver with engine := some after })
      fun after => left { driver with engine := some after }) :
    Lands (engine_mut program) driver fits left := by
  constructor
  · intro value after ran
    unfold engine_mut at ran
    split at ran
    · cases ran
    next engine held =>
    split at ran
    next ended =>
      cases ran
      exact (lands engine held).1 _ _ ended
    next => cases ran
  intro error after ran
  unfold engine_mut at ran
  split at ran
  next held =>
    cases ran
    exact unbuilt held
  next engine held =>
  split at ran
  next => cases ran
  next ended =>
  cases ran
  exact (lands engine held).2 _ _ ended

/-- A program lands on the driver as it does on its engine. -/
theorem engine_mut_lands
    (lands : ∀ engine ∈ driver.engine,
    Lands program engine (fun _ after => OnRoster related engine after ∧ True) (OnRoster related engine)) :
    Lands (engine_mut program) driver (fun _ after => OnDriver related driver after ∧ True)
    (OnDriver related driver) := by
  refine engine_mut_judged (fun _ => .same rfl) fun engine held => ?_
  have ran_on {after : Engine K} (kept : related engine.roster after.roster) : OnDriver related driver { driver with engine := some after } := by
    refine ⟨?_,rfl⟩
    unfold OperationDriver.roster
    rw [held]
    exact .some kept
  exact (lands engine held).mono (fun _ _ both => ⟨ran_on both.1,trivial⟩) fun _ left => ran_on left

theorem engine_mut_steered (tolerated : Tolerated related program) : Steered related (engine_mut program) :=
  fun _ => engine_mut_lands fun engine _ => tolerated engine

theorem engine_mut_step {β : Type} {next : α → DriverProgram K β} {between : OperationDriver K}
    {fits : β → OperationDriver K → Prop} (reached : OnDriver related driver between)
    (tolerated : Tolerated related program)
    (rest : ∀ value after, OnDriver related driver after → driver.engine.isSome = true →
    Lands (next value) after fits (OnDriver related driver)) :
    Lands (engine_mut program >>= next) between fits (OnDriver related driver) := by
  cases held : between.engine with
  | none =>
    refine (lands_bind _ _ _).mpr ?_
    constructor
    · intro value after ran
      unfold engine_mut at ran
      rw [held] at ran
      cases ran
    intro error after ran
    unfold engine_mut at ran
    rw [held] at ran
    cases ran
    exact reached
  | some engine => exact Lands.step reached (engine_mut_steered tolerated) fun value after ran => rest value after ran (by rw [← reached.built,held]; rfl)

theorem engine_if_any_steered {program : LoopProgram K.toLoopParts Unit} (tolerated : Tolerated related program) :
    Steered related (engine_if_any program) := by
  unfold engine_if_any
  refine Spans.of_get fun driver => Spans.here ?_
  split
  · exact engine_mut_steered tolerated
  · exact steered_pure

omit [Tolerant related] in
theorem attempt_steered {program : DriverProgram K α} (steered : Steered related program) :
    Steered related (attempt program) := by
  intro driver
  constructor
  · intro value after ran
    unfold attempt at ran
    split at ran
    next ended =>
      cases ran
      exact ⟨((steered driver).1 _ _ ended).1,trivial⟩
    next ended =>
      cases ran
      exact ⟨(steered driver).2 _ _ ended,trivial⟩
    next => cases ran
  intro error after ran
  unfold attempt at ran
  split at ran
  next => cases ran
  next => cases ran
  next ended =>
  cases ran
  exact (steered driver).2 _ _ ended

theorem ofExcept_steered (result : Except Halt α) : Steered (K := K) related (MonadExcept.ofExcept result) := by
  cases result with
  | ok value => exact steered_pure
  | error error => exact Spans.of_throw

private theorem ofExcept_tolerated (result : Except Halt α) : Tolerated (K := K.toLoopParts) related (MonadExcept.ofExcept result) := by
  cases result with
  | ok value => exact tolerated_pure
  | error error => exact Spans.of_throw

theorem require_effect_support_steered (config : ResolvedOperationConfig) (tag : EffectKindTag) :
    Steered (K := K) related (require_effect_support config tag) := by
  unfold require_effect_support
  split
  · exact steered_pure
  · exact refuseWith_steered _ _

theorem require_root_kind_steered : Steered (K := K) related require_root_kind := by
  unfold require_root_kind
  refine Spans.of_get fun driver => Spans.here ?_
  split
  · exact steered_pure
  · exact refuseWith_steered _ _

omit [Tolerant related] in
theorem require_root_kind_lands {next : RootKind → DriverProgram K α} (stays : left driver)
    (rest : ∀ root_kind, Lands (next root_kind) driver fits left) :
    Lands (require_root_kind >>= next) driver fits left := by
  unfold require_root_kind
  refine (lands_bind _ _ _).mpr ((lands_bind _ _ _).mpr ((lands_get _).mpr ?_))
  split
  · exact (lands_pure _ _).mpr (rest _)
  · exact lands_throw _ _ stays

/-! The projection of an action. -/

private theorem task_launch_attempt_steered (operation_id : OperationId) (step_seq : Nat) (info : WorkflowSpawnInfo) (attempt : Nat) :
    Steered (K := K) related (task_launch_attempt operation_id step_seq info attempt) := by
  unfold task_launch_attempt
  refine Spans.seq (steered_aside fun _ => rfl) fun _ => ?_
  refine Spans.seq (engine_mut_steered ?_) fun spec => Spans.of_get fun driver => Spans.here steered_pure
  exact Spans.of_get fun e => Spans.here (ofExcept_tolerated _)

private theorem task_launches_steered (operation_id : OperationId) (step_seq : Nat) (nodes : List WorkflowSpawnInfo) :
    Steered (K := K) related (task_launches operation_id step_seq nodes) := by
  induction nodes with
  | nil => exact steered_pure
  | cons node rest ih =>
    exact (task_launch_attempt_steered _ _ _ _).seq fun launch => ih.seq fun launches => steered_pure

private theorem page_out_effect_steered (context : PlanContext) (summary : Option String) (archived : List CoreMessage) (effect_index : Nat) :
    Steered (K := K) related (page_out_effect context summary archived effect_index) := by
  unfold page_out_effect
  split
  · exact refuseWith_steered _ _
  · exact steered_pure

private theorem abandon_unsupported_tolerated (supported : Bool) (bound : Nat) (action : LoopAction) :
    Tolerated (K := K.toLoopParts) related (abandon_unsupported (K := K) supported bound action) := by
  induction bound generalizing action with
  | zero => exact tolerated_pure
  | succ bound ih =>
  unfold abandon_unsupported
  split
  · exact (abandon_page_out_archive_tolerated _).seq ih
  · exact tolerated_pure

private theorem recall_effect_steered (context : PlanContext) (text : String) (requested_k : Nat) :
    Steered (K := K) related (recall_effect context text requested_k) := by
  have unreadable : Steered (K := K) related recall_effect.unreadable := refuseWith_steered _ _
  unfold recall_effect
  split
  · split
    · refine Spans.of_get fun driver => ?_
      exact Lands.set_spans (OnDriver.same rfl) steered_pure
    · exact unreadable
  · exact unreadable

private theorem require_loaded_contract_steered : Steered (K := K) related require_loaded_contract := by
  unfold require_loaded_contract
  refine Spans.of_get fun driver => Spans.here ?_
  split
  · exact steered_pure
  · exact refuseWith_steered _ _

private theorem note_published_steered (effect_id : EffectId) (effect : EffectKind) : Steered (K := K) related (note_published effect_id effect) := by
  unfold note_published
  split
  · exact steered_aside fun _ => rfl
  · refine steered_aside fun driver => ?_
    split <;> rfl
  · exact engine_if_any_steered (mark_tasks_starting_tolerated _)
  · exact steered_pure

section
variable (context : PlanContext)
include context

private theorem effect_of_steered (root_kind : RootKind) (effect_index : Nat) (action : LoopAction) :
    Steered (K := K) related (effect_of context root_kind effect_index action) := by
  cases action with
  | AwaitingResume =>
    refine Spans.of_get fun driver => Spans.here ?_
    split <;> exact steered_pure
  | SpawnWorkflow nodes budget => exact (task_launches_steered _ _ _).seq fun _ => steered_pure
  | PreemptSubAgents agent_ids reason => exact Spans.of_get fun driver => Spans.here steered_pure
  | EvaluateMilestone phase_id => exact require_loaded_contract_steered.seq fun _ => steered_pure
  | ArchivePageOut page_out => exact (page_out_effect_steered _ _ _ _).seq fun _ => steered_pure
  | QueryMemory text requested_k => exact (recall_effect_steered _ _ _).seq fun _ => steered_pure
  | _ => exact steered_pure

theorem disposition_for_at_steered (action : LoopAction) (root_kind : RootKind) (effect_index : Nat) :
    Steered (K := K) related (disposition_for_at context action root_kind effect_index) := by
  unfold disposition_for_at
  refine Spans.seq (engine_mut_steered (externalize_pending_host_effect_tolerated _)) fun action => ?_
  refine Spans.seq (engine_mut_steered ?_) fun action => (effect_of_steered _ _ _ _).seq fun projected => ?_
  · exact Spans.of_get fun e => Spans.here (abandon_unsupported_tolerated _ _ _)
  split
  · exact steered_pure
  · refine (require_effect_support_steered _ _).seq fun _ => ?_
    exact (note_published_steered _ _).seq fun _ => steered_pure

theorem disposition_for_steered (action : LoopAction) (root_kind : RootKind) :
    Steered (K := K) related (disposition_for context action root_kind) :=
    (disposition_for_at_steered _ _ _ _).seq fun _ => steered_pure

theorem continue_after_at_steered (action : LoopAction) (root_kind : RootKind) (effect_index : Nat) :
    Steered (K := K) related (continue_after_at context action root_kind effect_index) := by
  unfold continue_after_at
  refine Spans.of_get fun driver => Spans.here ?_
  refine (disposition_for_at_steered _ _ _ _).seq fun ⟨disposition,index⟩ => ?_
  exact Spans.of_get fun driver => Spans.here steered_pure

theorem continue_after_steered (action : LoopAction) (root_kind : RootKind) :
    Steered (K := K) related (continue_after context action root_kind) :=
    (continue_after_at_steered _ _ _ _).seq fun _ => steered_pure

end

theorem quiet_step_steered : Steered (K := K) related quiet_step := Spans.of_get fun _ => Spans.here steered_pure

/-! The syscalls. -/

theorem rejected_steered (operation reason : String) : Steered (K := K) related (rejected operation reason) :=
    steered_pure

theorem note_rejection_steered (rejection : SyscallRejection) : Steered (K := K) related (note_rejection rejection) :=
  engine_if_any_steered (reject_control_tolerated _ _ _)

private theorem append_nodes_steered (config : ResolvedOperationConfig) (nodes : List WireNode) (caller : TaskId)
    (label : String) (effect_index : Nat) :
    Steered (K := K) related (append_nodes config nodes caller label effect_index) := by
  unfold append_nodes
  refine Spans.of_get fun driver => Spans.here ?_
  split
  · exact rejected_steered _ _
  · exact rejected_steered _ _
  · exact rejected_steered _ _
  · refine Spans.seq (engine_mut_steered (append_workflow_nodes_tolerated _ _ _)) fun appended => ?_
    split
    · exact Spans.seq (steered_aside fun _ => rfl) fun _ => steered_pure
    · exact steered_pure

private theorem nesting_parent_steered (driver : OperationDriver K) : Steered related (nesting_parent driver) := by
  unfold nesting_parent
  dsimp only
  split
  · exact steered_pure
  all_goals exact refuseWith_steered _ _

theorem install_nodes_steered (nodes : List WireNode) (workflow_id : WorkflowId) :
    Steered (K := K) related (install_nodes nodes workflow_id) :=
  steered_aside fun _ => rfl

private theorem start_nested_steered (context : PlanContext) (nodes : List WireNode) (effect_index : Nat) :
    Steered (K := K) related (start_nested context nodes effect_index) := by
  have enters : Steered (K := K) related (enter_nested_workflow context nodes effect_index) := by
    unfold enter_nested_workflow
    refine Spans.of_get fun driver => Spans.here ((nesting_parent_steered driver).seq fun parent => ?_)
    split
    · exact rejected_steered _ _
    refine (ofExcept_steered _).seq fun _ => (require_effect_support_steered _ _).seq fun _ => ?_
    refine Spans.seq (engine_mut_steered (Spans.of_get fun _ => Spans.here tolerated_pure)) fun verdict => ?_
    split
    · refine Spans.seq (engine_mut_steered ?_) fun action => (install_nodes_steered _ _).seq fun _ => ?_
      · exact Spans.seq (tolerated_aside fun _ => rfl) fun _ => load_workflow_as_tolerated _ _
      refine (disposition_for_at_steered _ _ _ _).seq fun ⟨disposition,index⟩ => ?_
      split
      · exact steered_pure
      · exact refuseWith_steered _ _
    · exact rejected_steered _ _
  unfold start_nested
  refine (attempt_steered enters).seq fun entered => ?_
  split
  · exact steered_pure
  split
  · exact rejected_steered _ _
  · exact Spans.of_throw

theorem evaluate_memory_write_quota_tolerated : Tolerated (K := K.toLoopParts) related evaluate_memory_write_quota := by
  unfold evaluate_memory_write_quota
  refine Spans.of_get fun e => ?_
  split
  · exact Spans.here tolerated_pure
  · dsimp only
    split <;> exact Lands.set_spans (OnRoster.aside rfl) tolerated_pure

private theorem author_memory_write_steered (context : PlanContext) (causation : SyscallCausation)
    (binding : MemoryBinding) (proposal : MemoryWriteProposal)
    (effect_index : Nat) : Steered (K := K) related (author_memory_write context causation binding proposal effect_index) := by
  unfold author_memory_write
  refine Spans.seq (engine_mut_steered evaluate_memory_write_quota_tolerated) fun verdict => ?_
  split
  · exact Spans.seq (steered_aside fun _ => rfl) fun _ => steered_pure
  · exact rejected_steered _ _

theorem look_steered : Steered (K := K) related (engine_mut get) :=
  engine_mut_steered fun e => (lands_get _).mpr ⟨refl e,trivial⟩

private theorem plan_memory_write_steered (context : PlanContext) (causation : SyscallCausation) (proposal : MemoryWriteProposal) (effect_index : Nat)
    (planned_effects : List KernelEffect) : Steered (K := K) related (plan_memory_write context causation proposal effect_index planned_effects) := by
  unfold plan_memory_write
  split
  · exact rejected_steered _ _
  split
  · exact rejected_steered _ _
  refine (require_effect_support_steered _ _).seq fun _ => look_steered.seq fun e => ?_
  split
  · exact Spans.seq (engine_mut_steered (observe_tolerated _)) fun _ => rejected_steered _ _
  split
  · split
    · exact steered_pure
    · exact rejected_steered _ _
  · exact author_memory_write_steered _ _ _ _ _

private theorem plan_memory_query_steered (context : PlanContext) (causation : SyscallCausation) (proposal : MemoryQueryProposal) (effect_index : Nat)
    (planned_effects : List KernelEffect) : Steered (K := K) related (plan_memory_query context causation proposal effect_index planned_effects) := by
  unfold plan_memory_query
  split
  · exact rejected_steered _ _
  split
  · exact rejected_steered _ _
  refine (require_effect_support_steered _ _).seq fun _ => ?_
  split
  · exact rejected_steered _ _
  extract_lets ceiling requested_k
  split
  · split
    · exact steered_pure
    · exact rejected_steered _ _
  · exact Spans.seq (steered_aside fun _ => rfl) fun _ => steered_pure

private theorem load_payload_steered (context : PlanContext) (handle_id : HandleId) (residency : Residency) (effect_index : Nat) :
    Steered (K := K) related (load_payload context handle_id residency effect_index) := by
  unfold load_payload
  split
  · exact rejected_steered _ _
  split
  · exact refuseWith_steered _ _
  refine (require_effect_support_steered _ _).seq fun _ => ?_
  exact Spans.seq (steered_aside fun _ => rfl) fun _ => steered_pure

private theorem plan_page_in_steered (context : PlanContext) (caller : TaskId) (handle_id : HandleId) (effect_index : Nat) :
    Steered (K := K) related (plan_page_in context caller handle_id effect_index) := by
  unfold plan_page_in
  refine Spans.seq (engine_mut_steered ((onCtx_tolerated _).seq fun _ => fun e => (lands_get _).mpr ⟨refl e,trivial⟩)) fun e => ?_
  split
  · split
    · exact steered_pure
    · exact rejected_steered _ _
  split
  · exact rejected_steered _ _
  · exact rejected_steered _ _
  · exact load_payload_steered _ _ _ _

private theorem activate_skill_steered (name : String) (lease_turns : Option Nat) (caller : TaskId) (effect_index : Nat) :
    Steered (K := K) related (activate_skill name lease_turns caller effect_index) := by
  unfold activate_skill
  refine look_steered.seq fun e => ?_
  split
  · exact rejected_steered _ _
  split
  · exact rejected_steered _ _
  · exact Spans.seq (engine_mut_steered ((onCtx_tolerated _).seq fun _ => observe_tolerated _)) fun _ => steered_pure

theorem observe_local_runnable_tasks_tolerated :
    Tolerated (K := K.toLoopParts) related observe_local_runnable_tasks := by
  unfold observe_local_runnable_tasks
  refine Spans.of_get fun e => Spans.here ?_
  dsimp only
  split
  · exact observe_tolerated _
  · exact tolerated_pure

private theorem exchange_steered (request : Json) (caller : TaskId) (routes : Bool) (effect_index : Nat) :
    Steered (K := K) related (exchange request caller routes effect_index) := by
  unfold exchange
  refine Spans.seq (engine_mut_steered (Spans.of_get fun e => ?_)) fun reply => ?_
  · dsimp only
    refine Lands.set_spans ?_ ?_
    · unfold OnRoster LoopStateMachine.roster
      dsimp only
      split
      next condition _ => exact Tolerant.heard e.roster condition
      · exact Tolerant.same e.roster
    · split
      · exact observe_local_runnable_tasks_tolerated.seq fun _ => tolerated_pure
      · exact tolerated_pure
  · split
    · exact steered_pure
    · exact steered_pure

/-- A system call relates the rosters. -/
theorem apply_syscall_steered (context : PlanContext) (causation : SyscallCausation) (request : SyscallRequest)
    (effect_index : Nat)
    (planned_effects : List KernelEffect) :
    Steered (K := K) related (apply_syscall context causation request effect_index planned_effects) := by
  unfold apply_syscall
  refine Spans.of_get fun driver => Spans.here ?_
  dsimp only
  split
  · exact rejected_steered _ _
  cases request with
  | SubmitWorkflow nodes =>
    dsimp only
    split
    · exact rejected_steered _ _
    refine Spans.of_get fun driver => Spans.here ?_
    split
    · exact append_nodes_steered _ _ _ _ _
    · exact start_nested_steered _ _ _
  | AppendWorkflowNodes nodes =>
    dsimp only
    split
    · exact rejected_steered _ _
    refine Spans.of_get fun driver => Spans.here ?_
    split
    · exact append_nodes_steered _ _ _ _ _
    · exact rejected_steered _ _
  | ActivateSkill name lease_turns =>
    refine (activate_skill_steered _ _ _ _).seq fun adjudicated => ?_
    split
    · exact Spans.seq (engine_if_any_steered (onCtx_tolerated _)) fun _ => steered_pure
    · exact steered_pure
  | UpdateTask update => exact Spans.seq (engine_mut_steered (onCtx_tolerated _)) fun _ => steered_pure
  | RequestMemoryWrite proposal => exact plan_memory_write_steered _ _ _ _ _
  | RequestMemoryQuery query => exact plan_memory_query_steered _ _ _ _ _
  | PageIn handle_id => exact plan_page_in_steered _ _ _ _
  | RouteMessage request => exact exchange_steered _ _ _ _
  | ReadLocal request => exact exchange_steered _ _ _ _

end Deepstrike.Driver

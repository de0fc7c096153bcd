import Deepstrike.Limits

/-!
A plan that is refused. The planner advances the loop and the ledgers of the driver while it goes, and a refusal takes nothing
back: that is what the kernel around it captures a restore point for. What an operation stands on is not touched, and what is
refused before the planner moves leaves the driver as the reading of the accepted time left it.
-/
namespace Deepstrike.Driver
open Wire Vocabulary Standing Kernel.CanonicalKernel
open Transaction Loop Frames

variable {K : Parts}

/-- The drivers a sequence of plans and notes reaches from a fresh or a rebuilt one, whatever was answered. -/
inductive Operated : OperationDriver K → Prop
  | new : Operated (.new K)
  | restored {config : ResolvedOperationConfig} {pending : List KernelEffect} {state : LogicalStateProjection K}
    {driver : OperationDriver K} :
    restore_logical_state config pending state = .ok driver → Operated driver
  | planned {context : PlanContext} {step : PlannedStep} {driver after : OperationDriver K} :
    Operated driver → plan context driver = .ok step after → Operated after
  | refused {context : PlanContext} {halt : Halt} {driver after : OperationDriver K} :
    Operated driver → plan context driver = .error halt after → Operated after
  | noted {step_seq : Nat} {driver after : OperationDriver K} : Operated driver →
    note_committed step_seq driver = .ok () after → Operated after
  | unnoted {step_seq : Nat} {halt : Halt} {driver after : OperationDriver K} :
    Operated driver → note_committed step_seq driver = .error halt after → Operated after

/-- A live policy is the policy of a loop. -/
def Configured (driver : OperationDriver K) : Prop := driver.policy.isSome = true → driver.engine.isSome = true

/-! What the operation stands on. -/

/-- Any two rosters. -/
def Anyhow (_ _ : Roster) : Prop := True

instance : Tolerant Anyhow where
  same _ := trivial
  next _ _ := trivial
  root _ _ _ := trivial
  ended _ _ _ := trivial
  unwaited _ _ := trivial
  heard _ _ := trivial
  starting _ _ := trivial
  spawned _ _ _ _ _ _ := trivial

/-- The loop and the ledgers have gone on, and the operation stands on what it stood on. -/
abbrev Advanced (before after : OperationDriver K) : Prop := OnDriver Anyhow before after

theorem Configured.advanced {before after : OperationDriver K} (configured : Configured before)
    (advanced : Advanced before after) :
    Configured after := by
  have policy : after.policy = before.policy := congrArg policy advanced.standing
  unfold Configured
  rw [policy,advanced.built]
  exact configured

theorem Configured.spent {before after : OperationDriver K} (configured : Configured before)
    (spent : Spent Anyhow before after) :
    Configured after := by
  have unspent := configured.advanced spent.unspent
  exact unspent

private theorem plan_policy_patch_lands (patch : Json) {driver : OperationDriver K} (configured : Configured driver) :
    Lands (plan_policy_patch patch) driver (fun _ after => Configured after) (· = driver) := by
  unfold plan_policy_patch
  refine (lands_bind _ _ _).mpr ((lands_get _).mpr ?_)
  split
  · exact lands_throw _ _ rfl
  next policy patched =>
  split
  · exact lands_throw _ _ rfl
  next revision config _ =>
  have built : driver.engine ≠ none := by
    have some_ := configured (by rw [patched]; rfl)
    intro unbuilt
    rw [unbuilt] at some_
    cases some_
  refine (lands_bind _ _ _).mpr
    ((lands_modify _ _).mpr ((lands_bind _ _ _).mpr
    (engine_mut_judged (fun unbuilt => (built unbuilt).elim) fun engine held => ?_)))
  refine (lands_bind _ _ _).mpr ((lands_modify _ _).mpr ((lands_bind _ _ _).mpr ((lands_get _).mpr ((lands_modify _ _).mpr ?_))))
  exact (lands_bind _ _ _).mpr ((lands_get _).mpr ((lands_pure _ _).mpr fun _ => rfl))

private theorem plan_payload_lands (context : PlanContext) (payload : NormalizedPayload) {driver : OperationDriver K}
    (configured : Configured driver) :
    Lands (plan_payload context payload) driver (fun _ after => Configured after) (Advanced driver) := by
  have kept {program : DriverProgram K PlannedStep} (steered : Steered Anyhow program) :
      Lands program driver (fun _ after => Configured after) (Advanced driver) :=
    (steered driver).mono (fun _ _ both => configured.advanced both.1) fun _ left => left
  cases payload with
  | ConfigureOperation config => exact (lands_bind _ _ _).mpr ((lands_modify _ _).mpr ((lands_pure _ _).mpr fun _ => rfl))
  | StartOperation entry initial => exact kept (plan_start_steered _ _ _)
  | ResolveEffect effect_id outcome =>
    exact (plan_resolve_effect_lands context effect_id outcome driver fun nodes _ =>
    Slots.acknowledge_started_tolerated nodes fun _ _ _ => trivial).mono
      (fun _ _ spent => configured.spent spent) fun _ left => left
  | DeliverSignal delivery => exact kept (plan_signal_steered _ _)
  | ChildCompleted completed =>
    exact (plan_child_completed_lands context completed driver (fun _ _ _ _ => trivial) fun _ _ _ _ => trivial).mono
      (fun _ _ both => configured.advanced both.1) fun _ left => left
  | HostControl command =>
  by_cases patched : ∃ patch, command = .ApplyPolicyPatch patch
  · obtain ⟨patch,rfl⟩ := patched
    refine (plan_policy_patch_lands patch configured).mono (fun _ _ after => after) fun after same => ?_
    rw [same]
    exact refl driver
  · exact kept (plan_host_control_steered _ _ fun patch same => patched ⟨patch,same⟩)

/-! Refusals that come before the planner moves. -/

/-- The program refuses, and has written nothing. -/
abbrev Refused {α : Type} (program : DriverProgram K α) (driver : OperationDriver K) : Prop :=
  Lands program driver (fun _ _ => False) (· = driver)

/-- Where the program refuses, it has written nothing. -/
abbrev Unmoved {α : Type} (program : DriverProgram K α) (driver : OperationDriver K) : Prop :=
  Lands program driver (fun _ _ => True) (· = driver)

section
variable {α β : Type} {driver : OperationDriver K}

theorem refuseWith_refused (code : KernelFaultCode) (message : String) :
    Refused (refuseWith code message : DriverProgram K α) driver :=
  lands_throw _ _ rfl

theorem Refused.bind {first : DriverProgram K α} (refused : Refused first driver) (next : α → DriverProgram K β) :
    Refused (first >>= next) driver :=
  (lands_bind _ _ _).mpr (refused.mono (fun _ _ never => never.elim) fun _ left => left)

theorem guarded_refused {c : Prop} [Decidable c] {code : KernelFaultCode} {message : String}
    {rest : DriverProgram K α} (refused : ¬c → Refused rest driver) :
    Refused (if c then do (refuseWith code message : DriverProgram K Unit); rest else rest) driver := by
  by_cases holds : c
  · rw [if_pos holds]
    exact (refuseWith_refused code message).bind _
  · rw [if_neg holds]
    exact refused holds

theorem require_root_kind_refused {next : RootKind → DriverProgram K α}
    (refused : ∀ root_kind, Refused (next root_kind) driver) :
    Refused (require_root_kind >>= next) driver := require_root_kind_lands rfl refused

theorem get_refused {next : OperationDriver K → DriverProgram K α} (refused : Refused (next driver) driver) :
    Refused (get >>= next) driver :=
  (lands_bind _ _ _).mpr ((lands_get _).mpr refused)

end

variable {effect_id : EffectId} {context : PlanContext} {step : PlannedStep}

private theorem derive_provider_syscalls_refused {pending : PendingProviderCall} {consumed : OrdSet} {driver : OperationDriver K}
    {calls : List ToolCall} {call : ToolCall} (member : call ∈ calls)
    (unfit : pending.exposed_tools.contains call.name = false ∨ consumed.contains call.id = true) (seen : List CallId) :
    Refused (derive_provider_syscalls effect_id pending consumed seen calls) driver := by
  induction calls generalizing seen with
  | nil => cases member
  | cons first rest ih =>
  unfold derive_provider_syscalls
  refine guarded_refused fun exposed => guarded_refused fun fresh => ?_
  rcases List.mem_cons.mp member with rfl | later
  · rcases unfit with hidden | spent
    · simp [hidden] at exposed
    · simp [spent] at fresh
  · exact (ih later _).bind _

/-- Inputs the driver has no place for: a second root, an answer to what it never asked, a body, receipt or record that is not the
    one it asked for, an event for a task or attempt that is not there. -/
inductive Barred (context : PlanContext) (driver : OperationDriver K) : NormalizedPayload → Prop
  | second_root {entry : RootEntry} {initial : Json} : driver.root_kind.isSome = true →
    Barred context driver (.StartOperation entry initial)
  | unasked_turn {effect_id : EffectId} {completed : ProviderCompleted} :
    driver.provider_calls[effect_id]? = none → Barred context driver (.ResolveEffect effect_id (.Succeeded (.ProviderCompleted completed)))
  | unasked_overflow {effect_id : EffectId} {observed : Option Nat} :
    driver.provider_calls[effect_id]? = none → Barred context driver (.ResolveEffect effect_id (.Succeeded (.ProviderOverflow observed)))
  | unfit_call {effect_id : EffectId} {completed : ProviderCompleted} {pending : PendingProviderCall} {call : ToolCall} :
    driver.provider_calls[effect_id]? = some pending → call ∈ completed.tool_calls → is_syscall_tool call.name = true →
    (pending.exposed_tools.contains call.name = false ∨ driver.consumed_calls.contains call.id = true) →
    Barred context driver (.ResolveEffect effect_id (.Succeeded (.ProviderCompleted completed)))
  | unasked_recall {effect_id : EffectId} {recalls : List MemoryRecall} :
    driver.pending_memory_queries[effect_id]? = none →
    Barred context driver (.ResolveEffect effect_id (.Succeeded (.MemoryQueried recalls)))
  | other_record {effect_id : EffectId} {recalls : List MemoryRecall} {query : AuthoredMemoryQuery} {record_id : String} :
    driver.pending_memory_queries[effect_id]? = some query → query.record_id = some record_id →
    (1 < recalls.length ∨ ∃ recalled ∈ recalls, recalled.record_ref ≠ record_id) →
    Barred context driver (.ResolveEffect effect_id (.Succeeded (.MemoryQueried recalls)))
  | unasked_receipt {effect_id : EffectId} {record_ref : Option String} {candidate : Option MemoryCandidateReceipt} :
    driver.pending_memory_writes[effect_id]? = none →
    Barred context driver (.ResolveEffect effect_id (.Succeeded (.MemoryPersisted record_ref candidate)))
  | other_body {effect_id : EffectId} {handle_id : HandleId} {content : String} {original_size : Nat} :
    (∀ pending, driver.pending_payload_loads[effect_id]? = some pending →
    payload_mismatch (K := K) pending handle_id content original_size ≠ none) →
    Barred context driver (.ResolveEffect effect_id (.Succeeded (.PayloadLoaded handle_id content original_size)))
  | other_archive {effect_id : EffectId} {receipt : ArchiveReceipt} :
    (∀ handle_id payload, context.resolving.map KernelEffect.effect = some (.ArchivePageOut handle_id payload) →
      receipt.handle_id ≠ handle_id ∨ receipt.digest ≠ payload.digest ∨ receipt.original_size ≠ payload.original_size) →
    Barred context driver (.ResolveEffect effect_id (.Succeeded (.PageOutArchived receipt)))
  | unfit_results {effect_id : EffectId} {results : List ToolResultPayload} {measurements : List ToolMeasurement} {fault : KernelFault} :
    results.forM (K.check_payload_policy context.config) = .error fault →
    Barred context driver (.ResolveEffect effect_id (.Succeeded (.Tools results measurements)))
  | unnumbered_delivery {delivery : DeliverSignal} : delivery.attempt = 0 → Barred context driver (.DeliverSignal delivery)
  | ended_target {delivery : DeliverSignal} {task_id : TaskId} : delivery.signal.target = some task_id →
    (∀ engine, driver.engine = some engine → ∀ lifecycle, engine.tasks.lifecycle task_id = some lifecycle → lifecycle.is_terminal = true) →
    Barred context driver (.DeliverSignal delivery)
  | other_attempt {completed : ChildCompleted} : driver.attempts[completed.task_id]? ≠ some completed.attempt_id →
    Barred context driver (.ChildCompleted completed)
  | inactive_append {nodes : List WireNode} {plan : Option Json} :
    driver.root_workflow_active = false → Barred context driver (.HostControl (.AppendWorkflowNodes nodes plan))
  | inactive_close : driver.root_workflow_active = false → Barred context driver (.HostControl .CompleteDynamicWorkflow)

private theorem take_memory_write_refused {driver : OperationDriver K} (unasked : driver.pending_memory_writes[effect_id]? = none) :
    Refused (take_memory_write effect_id) driver := by
  unfold take_memory_write
  refine require_root_kind_refused fun _ => get_refused ?_
  rw [unasked]
  exact refuseWith_refused _ _

private theorem require_live_target_refused {signal : LogicalSignal} {task_id : TaskId} {driver : OperationDriver K}
    (target : signal.target = some task_id)
    (ended : ∀ engine, driver.engine = some engine → ∀ lifecycle, engine.tasks.lifecycle task_id = some lifecycle → lifecycle.is_terminal = true) :
    Refused (require_live_target signal) driver := by
  unfold require_live_target
  split
  next named same =>
    cases target.symm.trans same
    refine get_refused ?_
    extract_lets live
    have dead : live = false := by
      unfold live
      split
      next lifecycle found =>
        obtain ⟨engine,held,found⟩ := Option.bind_eq_some_iff.mp found
        simp [ended engine held lifecycle found]
      next => rfl
    rw [dead,if_pos (by simp)]
    exact refuseWith_refused _ _
  next untargeted => exact (untargeted _ target).elim

/-- Such an input is refused, and nothing has moved. -/
theorem Barred.refused {driver : OperationDriver K} {payload : NormalizedPayload}
    (barred : Barred context driver payload) :
    Refused (plan_payload context payload) driver := by
  have resolved {effect_id : EffectId} {success : EffectSuccess} (refused : Refused (plan_effect_success context effect_id success) driver) :
      Refused (plan_payload context (.ResolveEffect effect_id (.Succeeded success))) driver := refused.bind _
  cases barred with
  | second_root rooted =>
    refine get_refused (guarded_refused fun open_ => ?_)
    simp [rooted] at open_
  | @unasked_turn effect_id completed unasked =>
    refine resolved (require_root_kind_refused fun _ => Refused.bind ?_ _)
    refine get_refused ?_
    rw [unasked]
    exact refuseWith_refused _ _
  | @unasked_overflow effect_id observed unasked =>
    refine resolved (require_root_kind_refused fun _ => Refused.bind ?_ _)
    refine get_refused ?_
    rw [unasked]
    exact refuseWith_refused _ _
  | @unfit_call effect_id completed pending call asked member syscall unfit =>
    refine resolved (require_root_kind_refused fun _ => ?_)
    refine (lands_bind _ _ _).mpr ((lands_bind _ _ _).mpr ((lands_get _).mpr ?_))
    rw [asked]
    refine (lands_pure _ _).mpr (get_refused ((derive_provider_syscalls_refused ?_ unfit []).bind _))
    exact List.mem_filter.mpr ⟨member,syscall⟩
  | unasked_recall unasked =>
    refine resolved (require_root_kind_refused fun _ => get_refused ?_)
    rw [unasked]
    exact refuseWith_refused _ _
  | @other_record effect_id recalls query record_id asked fetched other =>
    refine resolved (require_root_kind_refused fun _ => get_refused ?_)
    rw [asked]
    dsimp only
    rw [fetched]
    dsimp only
    exact guarded_refused fun same => (same other).elim
  | @unasked_receipt effect_id record_ref candidate unasked =>
    refine resolved ?_
    have taken := take_memory_write_refused unasked
    cases record_ref with
    | none =>
      cases candidate with
      | none => exact refuseWith_refused _ _
      | some candidate => exact taken.bind _
    | some record_ref =>
    cases candidate with
    | none => exact taken.bind _
    | some candidate => exact refuseWith_refused _ _
  | @other_body effect_id handle_id content original_size other =>
    refine resolved (require_root_kind_refused fun _ => get_refused ?_)
    split
    · exact refuseWith_refused _ _
    next pending asked =>
    extract_lets body loaded
    split
    · exact (refuseWith_refused _ _).bind _
    next same =>
    obtain ⟨what,found⟩ := Option.ne_none_iff_exists'.mp (other pending asked)
    exact (same what found).elim
  | @other_archive effect_id receipt other =>
    refine resolved (require_root_kind_refused fun _ => Refused.bind ?_ _)
    unfold verify_page_out_receipt
    split
    next handle_id payload resolving =>
      rw [if_pos (other handle_id payload resolving)]
      exact refuseWith_refused _ _
    next => exact refuseWith_refused _ _
  | unfit_results unfit =>
    refine resolved (require_root_kind_refused fun _ => Refused.bind ?_ _)
    rw [unfit]
    exact lands_throw _ _ rfl
  | unnumbered_delivery unnumbered => exact require_root_kind_refused fun _ => guarded_refused fun numbered => (numbered unnumbered).elim
  | ended_target target ended =>
    exact require_root_kind_refused fun _ => guarded_refused fun _ => (require_live_target_refused target ended).bind _
  | other_attempt other =>
    refine require_root_kind_refused fun _ => get_refused ?_
    exact guarded_refused fun same => (same other).elim
  | inactive_append inactive =>
    refine guarded_refused fun _ => get_refused (guarded_refused fun active => ?_)
    simp [inactive] at active
  | inactive_close inactive =>
  refine get_refused (guarded_refused fun active => ?_)
  simp [inactive] at active

/-! The commands that do not drive the loop. -/

section
variable {α : Type} {driver : OperationDriver K}

theorem Unmoved.quiet {program : DriverProgram K α} (unmoved : Unmoved program driver) :
    Unmoved (program >>= fun _ => quiet_step) driver :=
  (lands_bind _ _ _).mpr (unmoved.mono (fun _ _ _ => (lands_bind _ _ _).mpr ((lands_get _).mpr ((lands_pure _ _).mpr trivial))) fun _ left => left)

end

/-! The refusal of a plan. -/

/-- The accepted time is read from every driver, and the reading fails on none. -/
theorem begin_plan_begins (now_ms : Nat) (driver : OperationDriver K) :
    ∃ begun, engine_if_any (begin_plan now_ms) driver = .ok () begun ∧ Advanced driver begun := by
  have traced (e : Engine K) : Lands observe_local_runnable_tasks e (fun _ _ => True) fun _ => False := by
    unfold observe_local_runnable_tasks
    refine (lands_bind _ _ _).mpr ((lands_get _).mpr ?_)
    extract_lets order
    split
    · exact (lands_modify _ _).mpr trivial
    · exact (lands_pure _ _).mpr trivial
  have woken (e : Engine K) : Lands (do
      let before := (← get).tasks
      onTasks fun tasks => tasks.wake_expired_timers now_ms
      if before.woken (← get).tasks then observe_local_runnable_tasks) e (fun _ _ => True) fun _ => False := by
    refine (lands_bind _ _ _).mpr
      ((lands_get _).mpr ((lands_bind _ _ _).mpr
      ((lands_modify _ _).mpr ((lands_bind _ _ _).mpr ((lands_get _).mpr ?_)))))
    split
    · exact traced _
    · exact (lands_pure _ _).mpr trivial
  have timed (e : Engine K) : Lands (observe_accepted_time now_ms) e (fun _ _ => True) fun _ => False := by
    unfold observe_accepted_time
    refine (lands_bind _ _ _).mpr ((lands_get _).mpr ((lands_bind _ _ _).mpr ((lands_modify _ _).mpr ?_)))
    split
    · exact (lands_modify _ _).mpr trivial
    · exact (lands_pure _ _).mpr trivial
  have begins (e : Engine K) : Lands (begin_plan now_ms) e (fun _ _ => True) fun _ => False := by
    refine (lands_bind _ _ _).mpr ((lands_modify _ _).mpr ((lands_bind _ _ _).mpr ?_))
    exact (timed _).mono (fun _ between _ => woken between) fun _ left => left
  have ends : Lands (engine_if_any (begin_plan now_ms)) driver (fun _ _ => True) fun _ => False := by
    refine (lands_bind _ _ _).mpr ((lands_get _).mpr ?_)
    split
    next built => exact engine_mut_judged (fun unbuilt => by simp [unbuilt] at built) fun engine _ => begins engine
    next => exact (lands_pure _ _).mpr trivial
  cases ran : engine_if_any (begin_plan now_ms) driver with
  | ok value begun => exact ⟨begun,rfl,((engine_if_any_steered (begin_plan_tolerated now_ms) driver).1 _ _ ran).1⟩
  | error halt after => exact (ends.2 halt after ran).elim

/-- A refused plan answers the fault the driver is poisoned with, poisons it over a plan that never committed, or was refused
    by the planner of its input. -/
theorem plan_refused {halt : Halt} {driver after : OperationDriver K}
    (refused : plan context driver = .error halt after) :
    (driver.poison.isSome = true ∧ after = driver) ∨
    (driver.poison = none ∧ ∃ fault, after = { driver with staged := none, poison := some fault }) ∨
    (driver.poison = none ∧ ∃ begun, engine_if_any (begin_plan context.input.observed_at_ms) driver = .ok () begun ∧
    Advanced driver begun ∧
      plan_payload context context.input.input begun = .error halt after) := by
  rw [plan_eq] at refused
  split at refused
  next fault poisoned =>
    cases refused
    exact .inl ⟨by rw [poisoned]; rfl,rfl⟩
  next staged clean _ =>
    cases refused
    exact .inr (.inl ⟨clean,_,rfl⟩)
  next clean _ =>
  split at refused
  · cases refused
  next halt' after' ran =>
  cases refused
  obtain ⟨begun,begins,advanced⟩ := begin_plan_begins context.input.observed_at_ms driver
  refine .inr (.inr ⟨clean,begun,begins,advanced,?_⟩)
  have inner : plan_inner context driver = plan_payload context context.input.input begun := by
    show (engine_if_any (begin_plan context.input.observed_at_ms) >>= fun _ => plan_payload context context.input.input) driver = _
    simp only [bind,EStateM.bind,begins]
  rw [← inner]
  exact ran

private theorem plan_made {driver after : OperationDriver K} (made : plan context driver = .ok step after) :
    ∃ begun planned planned_step, Advanced driver begun ∧ plan_payload context context.input.input begun = .ok planned_step planned ∧
      after.policy = planned.policy ∧ after.engine.isSome = planned.engine.isSome := by
  rw [plan_eq] at made
  split at made
  · cases made
  · cases made
  split at made
  next planned_step planned ran =>
    obtain ⟨_,begun,begins,ran⟩ := bind_ok ran
    refine ⟨begun,planned,planned_step,((engine_if_any_steered (begin_plan_tolerated _) driver).1 _ _ begins).1,ran,?_⟩
    cases made
    exact ⟨rfl,by simp⟩
  · cases made

theorem Operated.configured {driver : OperationDriver K} (operated : Operated driver) : Configured driver := by
  induction operated with
  | new => exact fun held => by cases held
  | restored ran =>
    unfold restore_logical_state at ran
    simp only [bind,Except.bind,pure,Except.pure] at ran
    split at ran
    · split at ran
      · cases ran
      · cases ran
        exact fun _ => rfl
    · cases ran
      exact fun _ => rfl
  | planned _ made ih =>
    obtain ⟨begun,planned,planned_step,advanced,ran,policy,built⟩ := plan_made made
    unfold Configured
    rw [policy,built]
    exact (plan_payload_lands _ _ (ih.advanced advanced)).1 _ _ ran
  | refused _ refused ih =>
    rcases plan_refused refused with ⟨_,same⟩ | ⟨_,fault,same⟩ | ⟨_,begun,_,advanced,ran⟩
    · rw [same]
      exact ih
    · rw [same]
      exact ih
    · have begun_configured := ih.advanced advanced
      exact begun_configured.advanced ((plan_payload_lands _ _ begun_configured).2 _ _ ran)
  | noted _ ran ih =>
    rw [note_committed_eq] at ran
    split at ran
    · cases ran
    · cases ran
    split at ran
    · cases ran
    · cases ran
      exact ih
  | unnoted _ ran ih =>
  rw [note_committed_eq] at ran
  split at ran
  · cases ran
    exact ih
  · cases ran
    exact ih
  split at ran
  · cases ran
    exact ih
  · cases ran

private theorem Operated.folded {driver after : OperationDriver K} (operated : Operated driver)
    (ran : fold context driver = .ok step after) : Operated after := by
  obtain ⟨_,between,made,ran⟩ := bind_ok ran
  obtain ⟨_,_,noted,returned⟩ := bind_ok ran
  cases returned
  exact (operated.planned made).noted noted

section
open PlainParts

end

end Deepstrike.Driver

import Deepstrike.Policies

/-!
The policies in force. What the loop applies is what a loop freshly built from the live configuration
would apply, its windows and counters aside, as long as no patch takes a declared governance policy
back: such a patch installs nothing, and what it should have replaced stays in force.
-/
namespace Deepstrike.Signals
open Heaps Tasks

variable {P : Type} (heap : BinaryHeap (priority (P := P)))

theorem except_bind_ok {ε α β : Type} {first : Except ε α} {next : α → Except ε β} {value : β}
    (ran : first >>= next = .ok value) :
    ∃ first_value, first = .ok first_value ∧ next first_value = .ok value := by
  cases first with
  | error error => cases ran
  | ok first_value => exact ⟨first_value,rfl,ran⟩

namespace SignalQueue

variable (queue : SignalQueue P)

private theorem admit_max_size (signal : RuntimeSignal P) (deadline_escalated : Bool) :
    (queue.admit_with_deadline_state heap signal deadline_escalated).2.max_size = queue.max_size := by
  unfold admit_with_deadline_state
  split
  · rfl
  split
  · rfl
  split
  · rfl
  split <;> rfl

private theorem expire_max_size (now_ms : Nat) (ttl_ms : Option Nat) : (queue.expire heap now_ms ttl_ms).2.max_size = queue.max_size := by
  unfold expire
  split <;> rfl

private theorem pop_max_size : (queue.pop heap).2.max_size = queue.max_size := by
  unfold pop
  split <;> rfl

end SignalQueue

namespace SignalRouter

/-- The router as it was built, with what another one has queued and seen. -/
def accumulating (built used : SignalRouter P) : SignalRouter P :=
  { built with seen := used.seen, seen_order := used.seen_order, queue := { built.queue with heap := used.queue.heap } }

/-- What a router was built with. -/
def settings (router : SignalRouter P) : Option Nat × Bool × Nat × Nat :=
  (router.ttl_ms,router.deadline_escalation,router.dedupe_capacity,router.queue.max_size)

private theorem accumulating_iff (built used : SignalRouter P) : used = built.accumulating used ↔ used.settings = built.settings := by
  constructor
  · intro same
    rw [same]
    rfl
  intro same
  obtain ⟨seen,seen_order,capacity,⟨heap,max_size⟩,ttl_ms,deadline_escalation⟩ := used
  obtain ⟨_,_,capacity',⟨_,max_size'⟩,ttl_ms',deadline_escalation'⟩ := built
  obtain ⟨rfl,rfl,rfl,rfl⟩ : ttl_ms = ttl_ms' ∧ deadline_escalation = deadline_escalation' ∧ capacity = capacity' ∧ max_size = max_size' := by
    simpa [settings] using same
  rfl

variable (router : SignalRouter P)

private theorem released_settings (keys : List String) : (keys.foldl release_dedupe_key router).settings = router.settings := by
  induction keys generalizing router with
  | nil => rfl
  | cons key rest ih => exact ih (router.release_dedupe_key key)

private theorem commit_settings (dedupe_key : Option String) : (router.commit dedupe_key).settings = router.settings := by
  unfold commit commit_dedupe
  split
  · split <;> rfl
  · rfl

private theorem expire_settings (now_ms : Nat) : (router.expire heap now_ms).2.settings = router.settings := by
  unfold expire
  dsimp only
  rw [released_settings]
  unfold settings
  dsimp only
  split
  · rw [← router.queue.expire_max_size heap now_ms router.ttl_ms]
    rfl
  · rw [router.queue.expire_max_size heap now_ms router.ttl_ms]

private theorem admission_settings (signal : RuntimeSignal P) (deadline_escalated : Bool) :
    (router.admission heap signal deadline_escalated).2.settings = router.settings := by
  unfold admission
  dsimp only
  rw [released_settings]
  unfold settings
  dsimp only
  rw [router.queue.admit_max_size heap]

private theorem route_settings (signal : RuntimeSignal P) (lifecycle : TaskLifecycle) (now_ms : Nat) (expired : List String) :
    (router.route heap signal lifecycle now_ms expired).2.settings = router.settings := by
  unfold route
  split
  · rfl
  dsimp only
  split
  · split
    · exact (commit_settings _ _).trans (admission_settings heap router _ _)
    · exact admission_settings heap router _ _
  · exact commit_settings _ _

private theorem step_settings (op : Op P) : (router.step heap op).2.settings = router.settings := by
  cases op with
  | ingest_at signal lifecycle now_ms =>
    exact (route_settings heap (router.expire heap now_ms).2 signal lifecycle now_ms _).trans (expire_settings heap router now_ms)
  | expire now_ms => exact expire_settings heap router now_ms
  | next =>
    show (router.ttl_ms,router.deadline_escalation,router.dedupe_capacity,(router.queue.pop heap).2.max_size) = router.settings
    rw [router.queue.pop_max_size heap]
    rfl
  | clear_dedup => rfl

/-- A restored router keeps its settings. -/
theorem restore_settings {router restored : SignalRouter P} {state : SignalRouterRuntimeState P}
    (ran : router.restore_state heap state = .ok restored) :
    restored.settings = router.settings := by
  unfold restore_state at ran
  split at ran
  · cases ran
  obtain ⟨seen,_,ran⟩ := except_bind_ok ran
  obtain ⟨_,_,ran⟩ := except_bind_ok ran
  obtain ⟨queue,entries,ran⟩ := except_bind_ok ran
  cases ran
  unfold SignalQueue.restore_entries at entries
  split at entries
  · cases entries
  obtain ⟨_,_,collected⟩ := except_bind_ok entries
  cases collected
  rfl

end SignalRouter
end Deepstrike.Signals

namespace Deepstrike.Policies
open Operation
open Wire (ResourceQuota ToolCall Json)
open Driver (core_quota)
open Governance Signals Heaps

variable {P : Type}

/-! What is in force. -/

/-- The loop as it was built, with the windows, the queue and the clock of another one. -/
def LoopPolicies.accumulating (built used : LoopPolicies P) : LoopPolicies P :=
  { built with
    governance := built.governance.map fun pipeline => (used.governance.map pipeline.accumulating).getD pipeline
    signal_router := built.signal_router.accumulating used.signal_router
    memory_write_times := used.memory_write_times }

/-- The loop is the one built from the configuration, but for what it has accumulated since. -/
def InForce (engine : LoopPolicies P) (config : ResolvedOperationConfig) : Prop := engine = (build_engine config).accumulating engine

/-- A running pipeline is the built one, or there is none. -/
def Governed (built : Option GovernancePipeline) : Option GovernancePipeline → Prop
  | none => built = none
  | some used => ∃ pipeline, built = some pipeline ∧ used = pipeline.accumulating used

private theorem governed_iff (built used : Option GovernancePipeline) :
    used = built.map (fun pipeline => (used.map pipeline.accumulating).getD pipeline) ↔ Governed built used := by
  cases used with
  | none => cases built <;> simp [Governed]
  | some used => cases built <;> simp [Governed]

/-- The policies in force, written out. -/
theorem inForce_iff (engine : LoopPolicies P) (config : ResolvedOperationConfig) :
    InForce engine config ↔ engine.resource_quota = core_quota config.resource_quota ∧
      Governed (core_governance config.governance_policy) engine.governance ∧
      engine.signal_router.settings = (config.signal_policy.ttl_ms,config.signal_policy.deadline_escalation,
        SignalRouter.DEFAULT_DEDUPE_CAPACITY,config.signal_policy.queue_max) ∧
      engine.provider_recovery_attempt_limit = config.recovery_policy.provider_recovery_attempts ∧
      engine.output_recovery_attempt_limit = config.recovery_policy.output_recovery_attempts := by
  rw [← governed_iff]
  have router := SignalRouter.accumulating_iff (P := P)
    (.with_policy config.signal_policy.queue_max config.signal_policy.ttl_ms config.signal_policy.deadline_escalation) engine.signal_router
  obtain ⟨quota,governance,signal_router,provider,output,writes⟩ := engine
  unfold InForce LoopPolicies.accumulating build_engine install_live_policies
  simp only [Option.or_none,LoopPolicies.mk.injEq,and_true,router]
  rfl

section
variable (refusal : ParamConstraint → Json → Option String) (heap : BinaryHeap (priority (P := P)))

/-- No use of the policies moves anything but what is accumulated. -/
theorem InForce.use {engine : LoopPolicies P} {config : ResolvedOperationConfig} (inForce : InForce engine config)
    (use : LoopPolicies.Use P) :
    InForce (engine.use refusal heap use).2 config := by
  obtain ⟨quota,governance,router,provider,output⟩ := (inForce_iff engine config).mp inForce
  refine (inForce_iff _ _).mpr ?_
  cases use with
  | ObserveTime now_ms =>
    refine ⟨quota,?_,router,provider,output⟩
    show Governed _ (engine.governance.map fun pipeline => pipeline.set_time now_ms)
    cases held : engine.governance with
    | none =>
      rw [held] at governance
      exact governance
    | some used =>
    rw [held] at governance
    obtain ⟨pipeline,built,same⟩ := governance
    exact ⟨pipeline,built,GovernancePipeline.accumulating_set_time same now_ms⟩
  | Invoke call =>
    have answered : (engine.use refusal heap (.Invoke call)).2 = (engine.evaluate_invoke refusal call).2 := rfl
    rw [answered]
    unfold LoopPolicies.evaluate_invoke
    cases held : engine.governance with
    | none =>
      rw [held] at governance
      simp only [held]
      exact ⟨quota,governance,router,provider,output⟩
    | some used =>
    rw [held] at governance
    obtain ⟨pipeline,built,same⟩ := governance
    exact ⟨quota,⟨pipeline,built,GovernancePipeline.accumulating_evaluate refusal same call⟩,router,provider,output⟩
  | WriteMemory now_ms =>
    have answered : (engine.use refusal heap (.WriteMemory now_ms)).2 = (engine.evaluate_memory_write_quota now_ms).2 := rfl
    rw [answered]
    unfold LoopPolicies.evaluate_memory_write_quota
    split
    · exact ⟨quota,governance,router,provider,output⟩
    · dsimp only
      split <;> exact ⟨quota,governance,router,provider,output⟩
  | Route op =>
  refine ⟨quota,governance,?_,provider,output⟩
  exact (SignalRouter.step_settings heap engine.signal_router op).trans router

end

/-! Patches. -/

/-- A replacement that declares nothing where something was declared. -/
def LivePolicyPatch.withdraws (current : ResolvedOperationConfig) : LivePolicyPatch → Bool
  | .ReplaceGovernancePolicy policy =>
    (core_governance current.governance_policy).isSome && (core_governance (policy.replacing current.governance_policy)).isNone
  | _ => false

theorem narrow_none {label : String} {requested current : Option Nat}
    (ran : narrow label requested current = .ok none) : current = none := by
  unfold narrow at ran
  split at ran
  · cases ran
    rfl
  · split at ran <;> cases ran
  · cases ran

/-- A quota that was declared stays declared. -/
theorem tighten_declared {patch : TightenResourceQuota} {current next : ResourceQuota}
    (ran : patch.tighten current = .ok next)
    (undeclared : next = ResourceQuota.default) : current = ResourceQuota.default := by
  unfold TightenResourceQuota.tighten at ran
  obtain ⟨concurrent,first,ran⟩ := except_bind_ok ran
  obtain ⟨total,second,ran⟩ := except_bind_ok ran
  obtain ⟨depth,third,ran⟩ := except_bind_ok ran
  obtain ⟨nodes,fourth,ran⟩ := except_bind_ok ran
  cases ran
  obtain ⟨_,_,_,_,writes⟩ := current
  simp only [ResourceQuota.default,ResourceQuota.mk.injEq] at undeclared ⊢
  obtain ⟨rfl,rfl,rfl,rfl,rfl⟩ := undeclared
  exact ⟨narrow_none first,narrow_none second,narrow_none third,narrow_none fourth,rfl⟩

theorem core_quota_none {quota : ResourceQuota} : core_quota quota = none ↔ quota = ResourceQuota.default := by
  unfold core_quota
  split <;> simp [*]

/-- What an accepted patch leaves declared: a quota in any case, the governance unless it is withdrawn. -/
structure Retains (current next : ResolvedOperationConfig) : Prop where
  quota : core_quota next.resource_quota = none → core_quota current.resource_quota = none
  governance : core_governance next.governance_policy = none → core_governance current.governance_policy = none

variable {current next : ResolvedOperationConfig}

theorem Retains.same (quota : next.resource_quota = current.resource_quota)
    (governance : next.governance_policy = current.governance_policy) : Retains current next :=
  ⟨fun undeclared => quota ▸ undeclared,fun undeclared => governance ▸ undeclared⟩

theorem Retains.trans {first second third : ResolvedOperationConfig} (one : Retains first second)
    (two : Retains second third) :
    Retains first third := ⟨fun undeclared => one.quota (two.quota undeclared),fun undeclared =>
    one.governance (two.governance undeclared)⟩

private theorem apply_to_retains {patch : LivePolicyPatch} (ran : patch.apply_to current = .ok next)
    (kept : patch.withdraws current = false) : Retains current next := by
  unfold LivePolicyPatch.apply_to at ran
  cases patch with
  | ReplaceSignalPolicy policy =>
    obtain ⟨_,_,ran⟩ := except_bind_ok ran
    cases ran
    exact .same rfl rfl
  | ReplaceGovernancePolicy policy =>
    obtain ⟨_,_,ran⟩ := except_bind_ok ran
    cases ran
    refine ⟨id,fun undeclared => ?_⟩
    unfold LivePolicyPatch.withdraws at kept
    simpa [undeclared] using kept
  | TightenResourceQuota patch =>
    obtain ⟨quota,tightened,ran⟩ := except_bind_ok ran
    obtain ⟨_,_,ran⟩ := except_bind_ok ran
    cases ran
    refine ⟨fun undeclared => ?_,id⟩
    exact core_quota_none.mpr (tighten_declared tightened (core_quota_none.mp undeclared))
  | ReplaceRecoveryPolicy policy =>
  dsimp only at ran
  split at ran
  · cases ran
  obtain ⟨_,_,ran⟩ := except_bind_ok ran
  cases ran
  exact .same rfl rfl

/-- Installing a patched configuration puts it in force. -/
theorem install_inForce {engine : LoopPolicies P} (inForce : InForce engine current)
    (retains : Retains current next) : InForce (install_live_policies next engine) next := by
  obtain ⟨quota,governance,_,_,_⟩ := (inForce_iff engine current).mp inForce
  refine (inForce_iff _ _).mpr ⟨?_,?_,rfl,rfl,rfl⟩
  · show (core_quota next.resource_quota).or engine.resource_quota = _
    cases declared : core_quota next.resource_quota with
    | some _ => rfl
    | none =>
    rw [quota,retains.quota declared]
    rfl
  show Governed _ ((core_governance next.governance_policy).or engine.governance)
  cases declared : core_governance next.governance_policy with
  | some pipeline => exact ⟨pipeline,rfl,rfl⟩
  | none =>
  rw [retains.governance declared] at governance
  cases held : engine.governance with
  | none => rfl
  | some used =>
  rw [held] at governance
  obtain ⟨_,built,_⟩ := governance
  cases built

/-- A booted engine has its configuration in force. -/
theorem build_inForce (config : ResolvedOperationConfig) : InForce (build_engine (P := P) config) config := by
  refine (inForce_iff _ _).mpr ⟨?_,?_,rfl,rfl,rfl⟩
  · show (core_quota config.resource_quota).or none = _
    rw [Option.or_none]
  show Governed _ ((core_governance config.governance_policy).or none)
  rw [Option.or_none]
  cases core_governance config.governance_policy with
  | none => rfl
  | some pipeline => exact ⟨pipeline,rfl,rfl⟩

variable {command : ApplyPolicyPatchCommand}

/-- What an accepted patch installs. -/
theorem plan_policy_patch_ok {operation after : Operation P}
    (ran : operation.plan_policy_patch command = .ok after) :
    command.patch.apply_to operation.policy.config = .ok after.policy.config ∧
    after.engine = install_live_policies after.policy.config operation.engine := by
  unfold plan_policy_patch at ran
  obtain ⟨policy,applied,ran⟩ := except_bind_ok ran
  cases ran
  unfold LivePolicyState.apply at applied
  dsimp only at applied
  split at applied
  · cases applied
  obtain ⟨config,patched,applied⟩ := except_bind_ok applied
  cases applied
  exact ⟨patched,rfl⟩

/-- A patch puts its configuration in force exactly where it does not withdraw the governance. -/
theorem patched_inForce_iff {operation after : Operation P} (inForce : InForce operation.engine operation.policy.config)
    (ran : operation.plan_policy_patch command = .ok after) :
    InForce after.engine after.policy.config ↔ command.patch.withdraws operation.policy.config = false := by
  obtain ⟨applied,installed⟩ := plan_policy_patch_ok ran
  constructor
  · intro patched
    cases withdrawn : command.patch.withdraws operation.policy.config with
    | false => rfl
    | true =>
    obtain ⟨_,governance,_,_,_⟩ := (inForce_iff _ _).mp inForce
    obtain ⟨_,governance',_,_,_⟩ := (inForce_iff _ _).mp patched
    cases patch : command.patch with
    | ReplaceGovernancePolicy policy =>
      rw [patch] at applied withdrawn
      obtain ⟨_,_,applied⟩ := except_bind_ok applied
      have next : after.policy.config.governance_policy = policy.replacing operation.policy.config.governance_policy :=
        (congrArg ResolvedOperationConfig.governance_policy (Except.ok.inj applied)).symm
      obtain ⟨declared,undeclared⟩ := Bool.and_eq_true_iff.mp withdrawn
      -- The pipeline that was in force is still there, and none belongs there.
      rw [next,Option.isNone_iff_eq_none.mp undeclared] at governance'
      cases held : operation.engine.governance with
      | none =>
        rw [held] at governance
        simp [show core_governance operation.policy.config.governance_policy = none from governance] at declared
      | some used =>
      have kept : after.engine.governance = some used := by
        rw [installed]
        show (core_governance after.policy.config.governance_policy).or operation.engine.governance = _
        rw [next,Option.isNone_iff_eq_none.mp undeclared,held]
        rfl
      rw [kept] at governance'
      obtain ⟨_,built,_⟩ := governance'
      cases built
    | _ => simp [patch,LivePolicyPatch.withdraws] at withdrawn
  · intro kept
    rw [installed]
    exact install_inForce inForce (apply_to_retains applied kept)

/-! Runs. -/

section
variable (refusal : ParamConstraint → Json → Option String) (heap : BinaryHeap (priority (P := P)))

/-- The operations reached from genesis by allowed patches, by uses of the policies and by restores from a checkpoint. -/
inductive Reached (allowed : Operation P → ApplyPolicyPatchCommand → Prop) (genesis : ResolvedOperationConfig) : Operation P → Prop where
  | configured : Reached allowed genesis (.configure genesis)
  | patched {operation after : Operation P} {command : ApplyPolicyPatchCommand} : Reached allowed genesis operation →
    allowed operation command →
    operation.plan_policy_patch command = .ok after → Reached allowed genesis after
  | used {operation : Operation P} (use : LoopPolicies.Use P) : Reached allowed genesis operation →
    Reached allowed genesis { operation with engine := (operation.engine.use refusal heap use).2 }
  | restored {operation after : Operation P} : Reached allowed genesis operation →
    restore_logical_state heap genesis (operation.project_logical_state heap) = .ok after → Reached allowed genesis after

/-- A patch that leaves a declared governance policy declared. -/
def Keeping (operation : Operation P) (command : ApplyPolicyPatchCommand) : Prop := command.patch.withdraws operation.policy.config = false

variable {refusal heap} {genesis : ResolvedOperationConfig} {operation : Operation P}

private theorem restore_inForce {restored : Operation P} (retains : Retains genesis operation.policy.config)
    (ran : restore_logical_state heap genesis (operation.project_logical_state heap) = .ok restored) :
    restored.policy = operation.policy ∧ InForce restored.engine operation.policy.config := by
  unfold restore_logical_state at ran
  obtain ⟨signal_router,requeued,ran⟩ := except_bind_ok ran
  cases ran
  have installed : InForce (install_live_policies operation.policy.config (build_engine genesis : LoopPolicies P)) operation.policy.config :=
    install_inForce (build_inForce genesis) retains
  obtain ⟨quota,governance,router,provider,output⟩ := (inForce_iff _ _).mp installed
  exact ⟨rfl,(inForce_iff _ _).mpr ⟨quota,governance,(SignalRouter.restore_settings heap requeued).trans router,provider,output⟩⟩

/-- In every reachable state the configuration is in force. -/
theorem Reached.sound (reached : Reached refusal heap Keeping genesis operation) :
    InForce operation.engine operation.policy.config ∧ Retains genesis operation.policy.config := by
  induction reached with
  | configured => exact ⟨build_inForce genesis,.same rfl rfl⟩
  | patched _ kept ran ih =>
    obtain ⟨inForce,retains⟩ := ih
    exact ⟨(patched_inForce_iff inForce ran).mpr kept,retains.trans (apply_to_retains (plan_policy_patch_ok ran).1 kept)⟩
  | used use _ ih => exact ⟨ih.1.use refusal heap use,ih.2⟩
  | restored _ ran ih =>
  obtain ⟨same,inForce⟩ := restore_inForce ih.2 ran
  rw [same]
  exact ⟨inForce,ih.2⟩

/-- As long as no patch withdraws the governance, the live loop applies what one built from the live configuration
would, and so does the loop restored from a checkpoint. -/
theorem policies_in_force (reached : Reached refusal heap Keeping genesis operation) :
    InForce operation.engine operation.policy.config ∧
    ∀ restored, restore_logical_state heap genesis (operation.project_logical_state heap) = .ok restored →
      restored.policy = operation.policy ∧ InForce restored.engine operation.policy.config :=
  ⟨reached.sound.1,fun _ ran => restore_inForce reached.sound.2 ran⟩

end

section

/-- Nothing is limited, and one tool is denied. -/
def guarded : ResolvedOperationConfig :=
  ⟨⟨8,none,false⟩,⟨.Allow,[⟨"deploy",.Deny⟩],[],[],[],false⟩,ResourceQuota.default,⟨2,3,⟨64,128,1024,2048⟩⟩,16⟩

/-- The replacement by a policy that allows everything. -/
def permissive : ApplyPolicyPatchCommand := ⟨0,.ReplaceGovernancePolicy ⟨some .Allow,[],[],[],[],none⟩⟩

/-- The replacement that asks the user instead. -/
def asking : ApplyPolicyPatchCommand := ⟨0,.ReplaceGovernancePolicy ⟨none,[⟨"deploy",.AskUser⟩],[],[],[],none⟩⟩

def deploy : ToolCall := ⟨"call","deploy","{}"⟩

/-- A patch that asks before a tool is called, and the call it gates. -/
theorem policies_in_force_asking :
    ∃ operation : Operation Unit, (configure guarded).plan_policy_patch asking = .ok operation ∧
    (operation.engine.evaluate_invoke (fun _ _ => none) deploy).1 = .Gate "tool 'deploy' requires user approval" ∧
    InForce operation.engine operation.policy.config := by
  have ran : (configure (P := Unit) guarded).plan_policy_patch asking =
      .ok ⟨⟨1,{ guarded with governance_policy := ⟨.Allow,[⟨"deploy",.AskUser⟩],[],[],[],false⟩ }⟩,_⟩ := rfl
  have kept : Keeping (configure (P := Unit) guarded) asking := rfl
  exact ⟨_,ran,by decide +kernel,(@policies_in_force Unit (fun _ _ => none) (sorted priority) guarded _ (.patched .configured kept ran)).1⟩

/-- The governance is withdrawn: the live configuration denies nothing, the loop goes on to deny. -/
theorem withdrawn_in_force : ∃ operation : Operation Unit,
    Reached (fun _ _ => none) (sorted priority) (fun _ _ => True) guarded operation ∧
    ¬InForce operation.engine operation.policy.config ∧
    (operation.engine.evaluate_invoke (fun _ _ => none) deploy).1 =
    .Deny "permission" "tool 'deploy' denied by rule 'deploy'" ∧
    ((build_engine operation.policy.config : LoopPolicies Unit).evaluate_invoke (fun _ _ => none) deploy).1 =
    .Allow := by
  have ran : (configure (P := Unit) guarded).plan_policy_patch permissive =
      .ok ⟨⟨1,{ guarded with governance_policy := ⟨.Allow,[],[],[],[],false⟩ }⟩,_⟩ := rfl
  refine ⟨_,.patched .configured trivial ran,fun inForce => ?_,by decide +kernel,by decide +kernel⟩
  have kept := (patched_inForce_iff (build_inForce guarded) ran).mp inForce
  exact absurd kept (by decide)

end

end Deepstrike.Policies

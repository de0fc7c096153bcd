import Deepstrike.Patching

/-!
What a patch disturbs. The installer refits all policies on every patch, whichever of them the patch
replaces. What the other policies say stays as it is; what the router and the rate limits have
accumulated is dropped, so that a patch disturbs nothing exactly where there is nothing to drop.
-/
namespace Deepstrike.Policies
open Wire (ResourceQuota ToolCall Json)
open Driver (core_quota)
open Governance Signals Heaps

variable {P : Type}

/-! What the loop has accumulated, and what it was told. -/

/-- The window of the calls of each tool. -/
def LoopPolicies.call_windows (engine : LoopPolicies P) : String → List Nat :=
  match engine.governance with
  | some pipeline => pipeline.rate_limiter.windows
  | none => fun _ => []

/-- A pipeline that has counted nothing. -/
def uncounted (pipeline : GovernancePipeline) : GovernancePipeline :=
  { pipeline with rate_limiter := { pipeline.rate_limiter with windows := fun _ => [], current_time_ms := 0 } }

/-- The patch of one policy leaves the other policies and everything accumulated as they are. -/
structure Undisturbed (patch : LivePolicyPatch) (before after : LoopPolicies P) : Prop where
  queue : after.signal_router.queue.heap = before.signal_router.queue.heap
  seen : after.signal_router.seen = before.signal_router.seen
  seen_order : after.signal_router.seen_order = before.signal_router.seen_order
  call_windows : after.call_windows = before.call_windows
  memory_write_times : after.memory_write_times = before.memory_write_times
  signals : (∀ policy, patch ≠ .ReplaceSignalPolicy policy) → after.signal_router.settings = before.signal_router.settings
  governance : (∀ policy, patch ≠ .ReplaceGovernancePolicy policy) → after.governance.map uncounted = before.governance.map uncounted
  quota : (∀ axes, patch ≠ .TightenResourceQuota axes) → after.resource_quota = before.resource_quota
  recovery : (∀ policy, patch ≠ .ReplaceRecoveryPolicy policy) →
    after.provider_recovery_attempt_limit = before.provider_recovery_attempt_limit ∧
    after.output_recovery_attempt_limit = before.output_recovery_attempt_limit

/-- The governance policy that a patch leaves in the configuration. -/
def LivePolicyPatch.governance (patch : LivePolicyPatch) (current : ResolvedOperationConfig) : ResolvedGovernancePolicy :=
  match patch with
  | .ReplaceGovernancePolicy policy => policy.replacing current.governance_policy
  | _ => current.governance_policy

/-- There is nothing to drop: no signal is queued, no key is remembered, and no pipeline is rebuilt over a call it counted. -/
structure Idle (patch : LivePolicyPatch) (operation : Operation P) : Prop where
  queue : operation.engine.signal_router.queue.heap = []
  seen : operation.engine.signal_router.seen = ∅
  seen_order : operation.engine.signal_router.seen_order = []
  uncalled : core_governance (patch.governance operation.policy.config) = none ∨ ∀ tool, operation.engine.call_windows tool = []

/-! What a patch replaces of the configuration. -/

/-- A patch replaces the policy it is about, and no other. -/
structure Replaces (patch : LivePolicyPatch) (current next : ResolvedOperationConfig) : Prop where
  signals : (∀ policy, patch ≠ .ReplaceSignalPolicy policy) → next.signal_policy = current.signal_policy
  governance : next.governance_policy = patch.governance current
  quota : (∀ axes, patch ≠ .TightenResourceQuota axes) → next.resource_quota = current.resource_quota
  recovery : (∀ policy, patch ≠ .ReplaceRecoveryPolicy policy) → next.recovery_policy = current.recovery_policy
  declared : core_quota next.resource_quota = none → core_quota current.resource_quota = none

variable {patch : LivePolicyPatch} {policy : ResolvedGovernancePolicy}

private theorem apply_to_replaces {current next : ResolvedOperationConfig} (ran : patch.apply_to current = .ok next) :
    Replaces patch current next := by
  unfold LivePolicyPatch.apply_to at ran
  cases patch with
  | ReplaceSignalPolicy policy =>
    obtain ⟨_,_,ran⟩ := except_bind_ok ran
    cases ran
    exact ⟨fun other => absurd rfl (other policy),rfl,fun _ => rfl,fun _ => rfl,id⟩
  | ReplaceGovernancePolicy policy =>
    obtain ⟨_,_,ran⟩ := except_bind_ok ran
    cases ran
    exact ⟨fun _ => rfl,rfl,fun _ => rfl,fun _ => rfl,id⟩
  | TightenResourceQuota axes =>
    obtain ⟨quota,tightened,ran⟩ := except_bind_ok ran
    obtain ⟨_,_,ran⟩ := except_bind_ok ran
    cases ran
    exact ⟨fun _ => rfl,rfl,fun other => absurd rfl (other axes),fun _ => rfl,
      fun undeclared => core_quota_none.mpr (tighten_declared tightened (core_quota_none.mp undeclared))⟩
  | ReplaceRecoveryPolicy policy =>
  dsimp only at ran
  split at ran
  · cases ran
  obtain ⟨_,_,ran⟩ := except_bind_ok ran
  cases ran
  exact ⟨fun _ => rfl,rfl,fun _ => rfl,fun other => absurd rfl (other policy),id⟩

/-! What stands in a reached operation, whatever was patched before. -/

/-- The loop applies the configuration, with a governance policy of its own where the configuration declares none. -/
def Standing (operation : Operation P) : Prop :=
  ∃ governance_policy, InForce operation.engine { operation.policy.config with governance_policy } ∧
    (core_governance operation.policy.config.governance_policy = none ∨ governance_policy = operation.policy.config.governance_policy)

private theorem install_standing {engine : LoopPolicies P} {current next : ResolvedOperationConfig}
    (inForce : InForce engine { current with governance_policy := policy })
    (declared : core_quota next.resource_quota = none → core_quota current.resource_quota = none) :
    ∃ governance_policy, InForce (install_live_policies next engine) { next with governance_policy } ∧
      (core_governance next.governance_policy = none ∨ governance_policy = next.governance_policy) := by
  cases built : core_governance next.governance_policy with
  | some pipeline =>
    refine ⟨next.governance_policy,install_inForce inForce ⟨declared,fun undeclared => ?_⟩,.inr rfl⟩
    rw [built] at undeclared
    cases undeclared
  | none =>
  obtain ⟨quota,governance,_,_,_⟩ := (inForce_iff _ _).mp inForce
  refine ⟨policy,(inForce_iff _ _).mpr ⟨?_,?_,rfl,rfl,rfl⟩,.inl rfl⟩
  · show (core_quota next.resource_quota).or engine.resource_quota = core_quota next.resource_quota
    cases named : core_quota next.resource_quota with
    | some _ => rfl
    | none => exact quota.trans (declared named)
  · show Governed _ ((core_governance next.governance_policy).or engine.governance)
    rw [built]
    exact governance

variable {refusal : ParamConstraint → Json → Option String} {heap : BinaryHeap (priority (P := P))}
  {allowed : Operation P → ApplyPolicyPatchCommand → Prop} {genesis : ResolvedOperationConfig} {operation after : Operation P}

private theorem Reached.standing (reached : Reached refusal heap allowed genesis operation) :
    Standing operation ∧ (core_quota operation.policy.config.resource_quota = none → core_quota genesis.resource_quota = none) := by
  induction reached with
  | configured => exact ⟨⟨genesis.governance_policy,build_inForce genesis,.inr rfl⟩,id⟩
  | patched _ _ ran ih =>
    obtain ⟨⟨_,inForce,_⟩,declared⟩ := ih
    obtain ⟨applied,installed⟩ := plan_policy_patch_ok ran
    have replaces := apply_to_replaces applied
    unfold Standing
    rw [installed]
    exact ⟨install_standing inForce replaces.declared,fun undeclared => declared (replaces.declared undeclared)⟩
  | used use _ ih =>
    obtain ⟨⟨policy,inForce,own⟩,declared⟩ := ih
    exact ⟨⟨policy,inForce.use refusal heap use,own⟩,declared⟩
  | restored _ ran ih =>
  obtain ⟨_,declared⟩ := ih
  unfold restore_logical_state at ran
  obtain ⟨signal_router,requeued,ran⟩ := except_bind_ok ran
  cases ran
  obtain ⟨policy,installed,own⟩ :=
    install_standing (show InForce (build_engine genesis) { genesis with governance_policy :=
    genesis.governance_policy } from build_inForce genesis) declared
  obtain ⟨quota,governance,router,provider,output⟩ := (inForce_iff _ _).mp installed
  exact ⟨⟨policy,(inForce_iff _ _).mpr ⟨quota,governance,(SignalRouter.restore_settings heap requeued).trans router,provider,output⟩,own⟩,declared⟩

/-! The frame of a patch. -/

private theorem core_governance_windows {pipeline : GovernancePipeline} (built : core_governance policy = some pipeline) :
    pipeline.rate_limiter.windows = fun _ => [] := by
  have limits_only (limits : List RateLimitSpec) (limiter : RateLimiter) :
      (limits.foldl (fun limiter limit => limiter.set_limit limit.tool ⟨limit.max_calls,limit.window_ms⟩) limiter).windows = limiter.windows := by
    induction limits generalizing limiter with
    | nil => rfl
    | cons limit rest ih => exact ih _
  unfold core_governance at built
  split at built
  · cases built
  · cases built
    exact limits_only _ _

private theorem install_call_windows (config : ResolvedOperationConfig) (engine : LoopPolicies P) :
    (install_live_policies config engine).call_windows = engine.call_windows ↔
      core_governance config.governance_policy = none ∨ ∀ tool, engine.call_windows tool = [] := by
  have installed : (install_live_policies config engine).governance = (core_governance config.governance_policy).or engine.governance := rfl
  cases built : core_governance config.governance_policy with
  | none =>
    rw [built,Option.none_or] at installed
    simp only [LoopPolicies.call_windows,installed,true_or]
  | some pipeline =>
  rw [built,Option.some_or] at installed
  have emptied : (install_live_policies config engine).call_windows = fun _ => [] := by
    simp only [LoopPolicies.call_windows,installed,core_governance_windows built]
  rw [emptied]
  simp only [reduceCtorEq,false_or,funext_iff,eq_comm]

/-- Where a policy is not replaced, the installer leaves in force what it says. -/
theorem install_keeps_policies {next : ResolvedOperationConfig} (standing : Standing operation)
    (replaces : Replaces patch operation.policy.config next) :
    ((∀ policy, patch ≠ .ReplaceSignalPolicy policy) →
      (install_live_policies next operation.engine).signal_router.settings = operation.engine.signal_router.settings) ∧
    ((∀ policy, patch ≠ .ReplaceGovernancePolicy policy) →
      (install_live_policies next operation.engine).governance.map uncounted =
      operation.engine.governance.map uncounted) ∧
    ((∀ axes, patch ≠ .TightenResourceQuota axes) →
      (install_live_policies next operation.engine).resource_quota = operation.engine.resource_quota) ∧
    ((∀ policy, patch ≠ .ReplaceRecoveryPolicy policy) →
      (install_live_policies next operation.engine).provider_recovery_attempt_limit =
      operation.engine.provider_recovery_attempt_limit ∧
      (install_live_policies next operation.engine).output_recovery_attempt_limit =
      operation.engine.output_recovery_attempt_limit) := by
  obtain ⟨policy,inForce,own⟩ := standing
  obtain ⟨quota,governance,router,provider,output⟩ := (inForce_iff _ _).mp inForce
  refine ⟨fun other => ?_,fun other => ?_,fun other => ?_,fun other => ?_⟩
  · rw [router]
    show (next.signal_policy.ttl_ms,next.signal_policy.deadline_escalation,SignalRouter.DEFAULT_DEDUPE_CAPACITY,next.signal_policy.queue_max) =
      (operation.policy.config.signal_policy.ttl_ms,operation.policy.config.signal_policy.deadline_escalation,
        SignalRouter.DEFAULT_DEDUPE_CAPACITY,operation.policy.config.signal_policy.queue_max)
    rw [replaces.signals other]
  · show ((core_governance next.governance_policy).or operation.engine.governance).map uncounted = _
    have same : patch.governance operation.policy.config = operation.policy.config.governance_policy := by
      unfold LivePolicyPatch.governance
      cases patch with
      | ReplaceGovernancePolicy replacement => exact absurd rfl (other replacement)
      | _ => rfl
    rw [replaces.governance,same]
    cases built : core_governance operation.policy.config.governance_policy with
    | none => rfl
    | some pipeline =>
    -- The pipeline is rebuilt from the policy that the running one was built from.
    obtain absent | rfl := own
    · rw [built] at absent
      cases absent
    dsimp only at governance
    cases held : operation.engine.governance with
    | none =>
      rw [held,built] at governance
      cases governance
    | some used =>
    rw [held,built] at governance
    obtain ⟨_,same_pipeline,accumulated⟩ := governance
    cases same_pipeline
    rw [accumulated]
    rfl
  · show (core_quota next.resource_quota).or operation.engine.resource_quota = _
    rw [replaces.quota other,quota]
    exact Option.or_self
  · exact ⟨(congrArg ResolvedRecoveryPolicy.provider_recovery_attempts (replaces.recovery other)).trans provider.symm,
      (congrArg ResolvedRecoveryPolicy.output_recovery_attempts (replaces.recovery other)).trans output.symm⟩

/-- A patch disturbs nothing exactly where there is nothing to drop. -/
theorem patch_undisturbed_iff {command : ApplyPolicyPatchCommand}
    (reached : Reached refusal heap allowed genesis operation)
    (ran : operation.plan_policy_patch command = .ok after) :
    Undisturbed command.patch operation.engine after.engine ↔ Idle command.patch operation := by
  obtain ⟨applied,installed⟩ := plan_policy_patch_ok ran
  have replaces := apply_to_replaces applied
  have windows := install_call_windows after.policy.config operation.engine
  rw [replaces.governance] at windows
  rw [installed]
  constructor
  · intro undisturbed
    exact ⟨undisturbed.queue.symm,undisturbed.seen.symm,undisturbed.seen_order.symm,windows.mp undisturbed.call_windows⟩
  · intro idle
    obtain ⟨signals,governance,quota,recovery⟩ := install_keeps_policies reached.standing.1 replaces
    exact ⟨idle.queue.symm,idle.seen.symm,idle.seen_order.symm,windows.mpr idle.uncalled,rfl,signals,governance,quota,recovery⟩

section

/-- One more sub-agent cap, and nothing about signals or tools. -/
def capping : ApplyPolicyPatchCommand := ⟨0,.TightenResourceQuota ⟨some 4,none,none,none⟩⟩

def build_failed : RuntimeSignal Unit := ⟨"build-failed",.Normal,some "ci",none,none,1,1,()⟩

/-- A cap on the sub-agents over an operation that has counted and queued nothing. -/
theorem patch_undisturbed_capping :
    ∃ after : Operation Unit, (Operation.configure guarded).plan_policy_patch capping = .ok after ∧
    Undisturbed capping.patch (Operation.configure guarded).engine after.engine := by
  have ran : (Operation.configure (P := Unit) guarded).plan_policy_patch capping =
      .ok ⟨⟨1,{ guarded with resource_quota := { ResourceQuota.default with max_concurrent_subagents := some 4 } }⟩,_⟩ := rfl
  have reached : Reached (fun _ _ => none) (sorted (priority (P := Unit))) (fun _ _ => True) guarded (.configure guarded) := .configured
  exact ⟨_,ran,(patch_undisturbed_iff reached ran).mpr ⟨rfl,rfl,rfl,.inr fun _ => rfl⟩⟩

/-- A signal is queued and a call is counted; the cap on the sub-agents drops both. -/
theorem capping_drops_signals : ∃ before after : Operation Unit,
    Reached (fun _ _ => none) (sorted priority) (fun _ _ => True) guarded before ∧
    before.plan_policy_patch capping = .ok after ∧
    before.engine.signal_router.queue.heap.map (fun queued => queued.signal) = [build_failed] ∧
    before.engine.signal_router.seen_order = ["ci"] ∧
    before.engine.call_windows "deploy" = [0] ∧
    after.engine.signal_router.queue.heap = [] ∧ after.engine.signal_router.seen_order = [] ∧
    after.engine.call_windows "deploy" = [] ∧
    ¬Undisturbed capping.patch before.engine after.engine := by
  have reached : Reached (fun _ _ => none) (sorted (priority (P := Unit))) (fun _ _ => True) guarded _ :=
    .used (.Invoke deploy) (.used (.Route (.ingest_at build_failed .Running 1)) .configured)
  refine ⟨_,_,reached,rfl,by decide +kernel,by decide +kernel,by decide +kernel,rfl,rfl,by decide +kernel,fun undisturbed => ?_⟩
  exact absurd undisturbed.seen_order (by decide +kernel)

end

end Deepstrike.Policies

import Deepstrike.Driver
import Deepstrike.Governance
import Deepstrike.Signals

/-!
The policies that may change while an operation runs: the signals, the governance, the quotas and the
recovery ladders. A patch is adjudicated on the configuration as a whole, and one installer takes the
result into the loop, at genesis and at every patch.
-/
namespace Deepstrike.Policies
open Wire (ResourceQuota TailBounds ToolCall Json)
open Driver (core_quota)
open Governance Signals Heaps Vocabulary

structure ResolvedSignalPolicy where
  queue_max : Nat
  ttl_ms : Option Nat
  deadline_escalation : Bool
  deriving DecidableEq,Repr

structure RateLimitSpec where
  tool : String
  max_calls : Nat
  window_ms : Nat
  deriving DecidableEq,Repr

structure ResolvedGovernancePolicy where
  default_action : PolicyAction
  rules : List PermissionRule
  vetoed_tools : List String
  rate_limits : List RateLimitSpec
  constraints : List ParamConstraint
  hide_denied_tools : Bool
  deriving DecidableEq,Repr

structure ResolvedRecoveryPolicy where
  provider_recovery_attempts : Nat
  output_recovery_attempts : Nat
  tail_bounds : TailBounds
  deriving DecidableEq,Repr

/-- What the live policies read of the configuration that genesis resolved. -/
structure ResolvedOperationConfig where
  signal_policy : ResolvedSignalPolicy
  governance_policy : ResolvedGovernancePolicy
  resource_quota : ResourceQuota
  recovery_policy : ResolvedRecoveryPolicy
  /-- The bound on the rules of a governance policy. -/
  governance_rules : Nat
  deriving DecidableEq,Repr

/-! Patches. What a patch leaves out of a policy stays as it is, where the policy has an axis for it. -/

structure SignalPolicy where
  queue_max : Nat
  ttl_ms : Option Nat
  deadline_escalation : Option Bool
  deriving DecidableEq,Repr

structure GovernancePolicy where
  default_action : Option PolicyAction
  rules : List PermissionRule
  vetoed_tools : List String
  rate_limits : List RateLimitSpec
  constraints : List ParamConstraint
  hide_denied_tools : Option Bool
  deriving DecidableEq,Repr

structure TightenResourceQuota where
  max_concurrent_subagents : Option Nat
  max_total_subagents : Option Nat
  max_spawn_depth : Option Nat
  max_workflow_nodes : Option Nat
  deriving DecidableEq,Repr

structure RecoveryPolicy where
  provider_recovery_attempts : Option Nat
  output_recovery_attempts : Option Nat
  tail_bounds : Option TailBounds
  deriving DecidableEq,Repr

inductive LivePolicyPatch where
  | ReplaceSignalPolicy (policy : SignalPolicy)
  | ReplaceGovernancePolicy (policy : GovernancePolicy)
  | TightenResourceQuota (patch : TightenResourceQuota)
  | ReplaceRecoveryPolicy (policy : RecoveryPolicy)
  deriving DecidableEq,Repr

structure ApplyPolicyPatchCommand where
  expected_revision : Nat
  patch : LivePolicyPatch
  deriving DecidableEq,Repr

def validate_signal (policy : ResolvedSignalPolicy) : Except String Unit :=
  if policy.queue_max = 0 then .error "signal_policy.queue_max must be positive"
  else if policy.ttl_ms = some 0 then .error "signal_policy.ttl_ms must be positive; omit it for no expiry"
  else .ok ()

def ParamConstraint.validate (constraint : ParamConstraint) : Except String Unit :=
  if constraint.tool.isEmpty then .error "governance constraint tool must not be empty"
  else if constraint.param_path.isEmpty then .error "governance constraint param_path must not be empty"
  else match constraint.rule with
    | .Required => .ok ()
    | .Enum values =>
      if values.isEmpty then
        .error s!"enum constraint on {constraint.tool}.{constraint.param_path} lists no permitted value, so every call is denied"
      else .ok ()
    | .Range none none => .error s!"range constraint on {constraint.tool}.{constraint.param_path} bounds nothing"
    | .Range (some min) (some max) =>
      if max < min then
        .error s!"range constraint on {constraint.tool}.{constraint.param_path} has min_micros {min} above max_micros {max}"
      else .ok ()
    | .Range _ _ => .ok ()

def validate_governance (policy : ResolvedGovernancePolicy) (rule_bound : Nat) : Except String Unit := do
  let total := policy.rules.length+policy.rate_limits.length+policy.constraints.length
  if rule_bound < total then
    throw s!"governance policy declares {total} rules/limits/constraints; the resolved governance_rules bound is {rule_bound}"
  if policy.rules.any fun rule => rule.tool_pattern.isEmpty then throw "governance rule tool_pattern must not be empty"
  if policy.vetoed_tools.any String.isEmpty then throw "governance vetoed_tools entries must not be empty"
  policy.rate_limits.forM fun limit => do
    if limit.tool.isEmpty then throw "governance rate limit tool must not be empty"
    if limit.window_ms = 0 then throw s!"governance rate limit for {limit.tool.quote} has a zero window"
  policy.constraints.forM ParamConstraint.validate

def validate_quota (quota : ResourceQuota) : Except String Unit := do
  if let (some concurrent,some total) := (quota.max_concurrent_subagents,quota.max_total_subagents) then
    if total < concurrent then
      throw s!"resource_quota.max_concurrent_subagents ({concurrent}) exceeds max_total_subagents ({total}); the concurrent cap can never be reached"
  if quota.max_spawn_depth = some 0 then throw "resource_quota.max_spawn_depth must be positive; omit it for no depth cap"
  if quota.memory_writes_per_window.any fun window => decide (window.2 = 0) then
    throw "resource_quota.memory_writes_per_window.window_ms must be positive"

def MAX_RECOVERY_ATTEMPTS : Nat := 16

def TailBounds.check (bounds : TailBounds) : Except String Unit :=
  if bounds.hard_records < bounds.soft_records ∨ bounds.hard_bytes < bounds.soft_bytes then
    .error s!"recovery_policy.tail_bounds watermark ({bounds.soft_records} records / {bounds.soft_bytes} bytes) exceeds its hard limit ({bounds.hard_records} records / {bounds.hard_bytes} bytes)"
  else if bounds.hard_records = 0 ∨
    bounds.hard_bytes = 0 then .error "recovery_policy.tail_bounds hard limit of zero admits no transaction at all"
  else .ok ()

def validate_recovery (policy : ResolvedRecoveryPolicy) : Except String Unit := do
  [("provider_recovery_attempts",policy.provider_recovery_attempts),("output_recovery_attempts",policy.output_recovery_attempts)].forM
    fun (label,value) => do
      if MAX_RECOVERY_ATTEMPTS < value then throw s!"recovery_policy.{label} is {value}; the bound is {MAX_RECOVERY_ATTEMPTS}"
  TailBounds.check policy.tail_bounds

/-- One axis of a quota; it only shrinks. -/
def narrow (label : String) (requested current : Option Nat) : Except String (Option Nat) :=
  match requested,current with
  | none,current => .ok current
  | some requested,some current =>
    if current < requested then
      .error s!"policy patch raises {label} from {current} to {requested}; a live quota change may only tighten — growing one is a reservation fact and needs its own contract"
    else .ok (some requested)
  | some requested,none => .ok (some requested)

def TightenResourceQuota.tighten (patch : TightenResourceQuota) (current : ResourceQuota) : Except String ResourceQuota := do
  let max_concurrent_subagents ← narrow "max_concurrent_subagents" patch.max_concurrent_subagents current.max_concurrent_subagents
  let max_total_subagents ← narrow "max_total_subagents" patch.max_total_subagents current.max_total_subagents
  let max_spawn_depth ← narrow "max_spawn_depth" patch.max_spawn_depth current.max_spawn_depth
  let max_workflow_nodes ← narrow "max_workflow_nodes" patch.max_workflow_nodes current.max_workflow_nodes
  pure { current with max_concurrent_subagents, max_total_subagents, max_spawn_depth, max_workflow_nodes }

/-- The governance policy a replacement makes of the current one. -/
def GovernancePolicy.replacing (policy : GovernancePolicy) (current : ResolvedGovernancePolicy) : ResolvedGovernancePolicy where
  default_action := policy.default_action.getD current.default_action
  rules := policy.rules
  vetoed_tools := policy.vetoed_tools
  rate_limits := policy.rate_limits
  constraints := policy.constraints
  hide_denied_tools := policy.hide_denied_tools.getD current.hide_denied_tools

/-- The configuration a patch makes of the current one, or its refusal. -/
def LivePolicyPatch.apply_to (patch : LivePolicyPatch) (current : ResolvedOperationConfig) : Except String ResolvedOperationConfig :=
  match patch with
  | .ReplaceSignalPolicy policy => do
    let signal_policy := ⟨policy.queue_max,policy.ttl_ms,policy.deadline_escalation.getD current.signal_policy.deadline_escalation⟩
    validate_signal signal_policy
    pure { current with signal_policy }
  | .ReplaceGovernancePolicy policy => do
    let governance_policy := policy.replacing current.governance_policy
    validate_governance governance_policy current.governance_rules
    pure { current with governance_policy }
  | .TightenResourceQuota patch => do
    let resource_quota ← patch.tighten current.resource_quota
    validate_quota resource_quota
    pure { current with resource_quota }
  | .ReplaceRecoveryPolicy policy => do
    if policy.tail_bounds.isSome then
      throw "recovery_policy.tail_bounds is boot-only: it is frozen in the genesis record and cannot be patched live"
    let recovery_policy : ResolvedRecoveryPolicy :=
      { current.recovery_policy with
        provider_recovery_attempts := policy.provider_recovery_attempts.getD current.recovery_policy.provider_recovery_attempts
        output_recovery_attempts := policy.output_recovery_attempts.getD current.recovery_policy.output_recovery_attempts }
    validate_recovery recovery_policy
    pure { current with recovery_policy }

structure LivePolicyState where
  revision : Nat
  config : ResolvedOperationConfig
  deriving DecidableEq,Repr

/-- A patch names the revision it was written against. -/
def LivePolicyState.apply (policy : LivePolicyState) (command : ApplyPolicyPatchCommand) : Except String LivePolicyState := do
  if command.expected_revision ≠ policy.revision then
    throw s!"policy revision mismatch: patch expects {command.expected_revision}, the operation is at {policy.revision}; re-read the policy and rebase the patch"
  let config ← command.patch.apply_to policy.config
  pure ⟨min (policy.revision+1) u64Max,config⟩

/-! The loop's side. -/

/-- Where the loop reads its policies, and what it accumulates under them. -/
structure LoopPolicies (P : Type) where
  resource_quota : Option ResourceQuota
  governance : Option GovernancePipeline
  signal_router : SignalRouter P
  provider_recovery_attempt_limit : Nat
  output_recovery_attempt_limit : Nat
  memory_write_times : List Nat

variable {P : Type}

/-- The pipeline of a policy that declares something. -/
def core_governance (policy : ResolvedGovernancePolicy) : Option GovernancePipeline :=
  if policy.default_action = .Allow ∧ policy.hide_denied_tools = false ∧ policy.rules = [] ∧ policy.vetoed_tools = [] ∧
      policy.rate_limits = [] ∧ policy.constraints = [] then none
  else
    let pipeline := GovernancePipeline.new policy.default_action
    some
      { pipeline with
        hide_denied_tools := policy.hide_denied_tools
        permission := { pipeline.permission with rules := policy.rules }
        veto := ⟨policy.vetoed_tools.toFinset⟩
        rate_limiter := policy.rate_limits.foldl
          (fun limiter limit => limiter.set_limit limit.tool ⟨limit.max_calls,limit.window_ms⟩) pipeline.rate_limiter
        constraints := ⟨policy.constraints⟩ }

def install_live_policies (config : ResolvedOperationConfig) (engine : LoopPolicies P) : LoopPolicies P :=
  { engine with
    resource_quota := (core_quota config.resource_quota).or engine.resource_quota
    governance := (core_governance config.governance_policy).or engine.governance
    signal_router := .with_policy config.signal_policy.queue_max config.signal_policy.ttl_ms config.signal_policy.deadline_escalation
    provider_recovery_attempt_limit := config.recovery_policy.provider_recovery_attempts
    output_recovery_attempt_limit := config.recovery_policy.output_recovery_attempts }

/-- The loop as it is built, before anything has been accumulated. -/
def build_engine (config : ResolvedOperationConfig) : LoopPolicies P :=
  install_live_policies config ⟨none,none,.with_policy 64 none false,2,3,[]⟩

def disposition_of : GovernanceVerdict → Disposition
  | .Allow => .Allow
  | .Deny stage reason => .Deny stage reason
  | .RateLimited retry_after_ms => .RateLimited retry_after_ms
  | .AskUser reason => .Gate reason

namespace LoopPolicies
variable (refusal : ParamConstraint → Json → Option String) (heap : BinaryHeap (priority (P := P)))

variable (engine : LoopPolicies P)

/-- The gate of a tool call. -/
def evaluate_invoke (call : ToolCall) : Disposition × LoopPolicies P :=
  match engine.governance with
  | none => (.Allow,engine)
  | some pipeline =>
    let (verdict,pipeline) := pipeline.evaluate refusal call
    (disposition_of verdict,{ engine with governance := some pipeline })

/-- The gate of a memory write. -/
def evaluate_memory_write_quota (now_ms : Nat) : Disposition × LoopPolicies P :=
  match engine.resource_quota.bind ResourceQuota.memory_writes_per_window with
  | none => (.Allow,engine)
  | some (max,window) =>
    let recent := engine.memory_write_times.filter fun time => decide (now_ms-time < window)
    if max ≤ recent.length % 2 ^ 32 then (.RateLimited (window-(now_ms-recent.headD now_ms)),{ engine with memory_write_times := recent })
    else (.Allow,{ engine with memory_write_times := recent ++ [now_ms] })

/-- What an input asks of the policies. -/
inductive Use (P : Type) where
  | ObserveTime (now_ms : Nat)
  | Invoke (call : ToolCall)
  | WriteMemory (now_ms : Nat)
  | Route (op : SignalRouter.Op P)

/-- What the policies answer. -/
inductive Answer (P : Type) where
  | Observed
  | Judged (disposition : Disposition)
  | Routed (answer : SignalRouter.Answer P)

def use : Use P → Answer P × LoopPolicies P
  | .ObserveTime now_ms => (.Observed,{ engine with governance := engine.governance.map fun pipeline => pipeline.set_time now_ms })
  | .Invoke call =>
    let (disposition,engine) := engine.evaluate_invoke refusal call
    (.Judged disposition,engine)
  | .WriteMemory now_ms =>
    let (disposition,engine) := engine.evaluate_memory_write_quota now_ms
    (.Judged disposition,engine)
  | .Route op =>
    let (answer,signal_router) := engine.signal_router.step heap op
    (.Routed answer,{ engine with signal_router })

end LoopPolicies

/-! The operation and its checkpoints. -/

structure Operation (P : Type) where
  policy : LivePolicyState
  engine : LoopPolicies P

def Operation.configure (config : ResolvedOperationConfig) : Operation P := ⟨⟨0,config⟩,build_engine config⟩

/-- A refused patch leaves the operation as it is. -/
def Operation.plan_policy_patch (operation : Operation P) (command : ApplyPolicyPatchCommand) : Except String (Operation P) := do
  let policy ← operation.policy.apply command
  pure ⟨policy,install_live_policies policy.config operation.engine⟩

/-- What a checkpoint keeps of it: the windows of the rate limits are not among it. -/
structure LogicalKernelState (P : Type) where
  policy_revision : Option Nat
  live_config : Option ResolvedOperationConfig
  memory_write_window_ms : List Nat
  signals : SignalRouterRuntimeState P

section
variable (heap : BinaryHeap (priority (P := P)))

def Operation.project_logical_state (operation : Operation P) : LogicalKernelState P :=
  ⟨some operation.policy.revision,some operation.policy.config,operation.engine.memory_write_times,
  operation.engine.signal_router.checkpoint_state heap⟩

/-- The loop is built from the genesis configuration, and the live one is installed over it. -/
def restore_logical_state (genesis_config : ResolvedOperationConfig)
    (state : LogicalKernelState P) : Except SignalQueue.RestoreError (Operation P) := do
  let live_config := state.live_config.getD genesis_config
  let engine := install_live_policies live_config (build_engine genesis_config)
  let signal_router ← engine.signal_router.restore_state heap state.signals
  pure ⟨⟨state.policy_revision.getD 0,live_config⟩,{ engine with signal_router, memory_write_times := state.memory_write_window_ms }⟩

end

end Deepstrike.Policies

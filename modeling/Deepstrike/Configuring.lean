import Deepstrike.Policies

/-!
The boot configuration of an operation. A sparse configuration is laid over a baseline, one policy after
the other, and refused as a whole where a policy or a relation between policies breaks a rule.
-/
namespace Deepstrike.Configuring
open Wire (Json ResourceQuota BudgetGrant TailBounds EffectKindTag ToolSchema MemoryBinding VerificationContract VerificationPhase)
open Governance
open Policies

/-! The sparse input. -/

structure RepeatFusePolicy where
  enabled : Option Bool
  deny_after : Option Nat
  terminate_after : Option Nat
  deriving DecidableEq,Repr

structure EntropyWatchPolicy where
  enabled : Option Bool
  threshold_ppm : Option Nat
  hysteresis_ppm : Option Nat
  cooldown_turns : Option Nat
  notify_model : Option Bool
  deriving DecidableEq,Repr

structure ExecutionPolicy where
  max_context_tokens : Option Nat
  max_turns : Option Nat
  max_total_tokens : Option Nat
  max_wall_ms : Option Nat
  criteria_gate_enabled : Option Bool
  repeat_fuse : Option RepeatFusePolicy
  entropy_watch : Option EntropyWatchPolicy
  deriving DecidableEq,Repr

structure SchedulerPolicy where
  critical_path_weight : Option Nat
  fanout_weight : Option Nat
  age_weight : Option Nat
  token_cost_weight : Option Nat
  deadline_weight : Option Nat
  process_priority_weight : Option Nat
  resource_pressure_weight : Option Nat
  budget_pressure_weight : Option Nat
  deriving DecidableEq,Repr

structure PressureThresholds where
  snip : Nat
  micro : Nat
  collapse : Nat
  auto : Nat
  renewal : Nat
  deriving DecidableEq,Repr

structure PromptBudget where
  prompt_overhead_tokens : Nat
  output_reserve_tokens : Nat
  safety_margin_tokens : Nat
  deriving DecidableEq,Repr

structure DelegatedContextTiers where
  tool_result_clearing : Bool
  compaction : Bool
  deriving DecidableEq,Repr

structure ContextPolicy where
  pressure_thresholds_ppm : Option PressureThresholds
  target_after_compress_ppm : Option Nat
  preserve_recent_turns : Option Nat
  renewal_carryover_ppm : Option Nat
  collapse_old_assistant_narration : Option Bool
  idle_micro_compact_minutes : Option Nat
  knowledge_budget_ppm : Option Nat
  prompt_budget : Option PromptBudget
  delegated_tiers : Option DelegatedContextTiers
  deriving DecidableEq,Repr

structure TailBoundsPolicy where
  soft_records : Option Nat
  hard_records : Option Nat
  soft_bytes : Option Nat
  hard_bytes : Option Nat
  deriving DecidableEq,Repr

structure BootRecoveryPolicy where
  provider_recovery_attempts : Option Nat
  output_recovery_attempts : Option Nat
  tail_bounds : Option TailBoundsPolicy
  deriving DecidableEq,Repr

structure PayloadPolicy where
  inline_threshold_bytes : Option Nat
  preview_bytes : Option Nat
  deriving DecidableEq,Repr

structure CollectionLimits where
  tool_catalog : Option Nat
  skill_catalog : Option Nat
  knowledge_entries : Option Nat
  initial_messages : Option Nat
  capability_grants : Option Nat
  governance_rules : Option Nat
  deriving DecidableEq,Repr

structure KernelLimits where
  max_input_bytes : Option Nat
  max_json_depth : Option Nat
  max_collection_entries : Option Nat
  collection_limits : Option CollectionLimits
  deriving DecidableEq,Repr

structure MemoryPolicy where
  stale_warning_days : Option Nat
  retrieval_top_k : Option Nat
  validation_enabled : Option Bool
  max_content_bytes : Option Nat
  max_name_length : Option Nat
  promotion_recall_threshold : Option Nat
  «recall» : Option Bool
  deriving DecidableEq,Repr

structure FeaturePolicy where
  memory_enabled : Option Bool
  propose_memory_enabled : Option Bool
  knowledge_enabled : Option Bool
  plan_tool_enabled : Option Bool
  stable_core_tool_ids : Option (List String)
  deriving DecidableEq,Repr

/-- A declared skill; what it grants travels as its text. -/
structure SkillMetadata where
  name : String
  description : String
  when_to_use : Option String
  allowed_tools : List String
  capability_grants : List Json
  effort : Option Nat
  estimated_tokens : Option Nat
  deriving DecidableEq,Repr

structure OperationConfig where
  execution_policy : Option ExecutionPolicy
  governance_policy : Option GovernancePolicy
  scheduler_policy : Option SchedulerPolicy
  resource_quota : Option ResourceQuota
  budget_grant : Option BudgetGrant
  signal_policy : Option SignalPolicy
  context_policy : Option ContextPolicy
  recovery_policy : Option BootRecoveryPolicy
  payload_policy : Option PayloadPolicy
  kernel_limits : Option KernelLimits
  memory_access : Option MemoryBinding
  memory_policy : Option MemoryPolicy
  tool_catalog : List ToolSchema
  skill_catalog : List SkillMetadata
  verification_contracts : List VerificationContract
  feature_policy : Option FeaturePolicy
  host_effect_support : List EffectKindTag
  deriving DecidableEq,Repr

/-! The dense record. -/

structure ResolvedRepeatFuse where
  enabled : Bool
  deny_after : Nat
  terminate_after : Nat
  deriving DecidableEq,Repr

structure ResolvedEntropyWatch where
  enabled : Bool
  threshold_ppm : Nat
  hysteresis_ppm : Nat
  cooldown_turns : Nat
  notify_model : Bool
  deriving DecidableEq,Repr

structure ResolvedExecutionPolicy where
  max_context_tokens : Nat
  max_turns : Nat
  max_total_tokens : Nat
  max_wall_ms : Option Nat
  criteria_gate_enabled : Bool
  repeat_fuse : ResolvedRepeatFuse
  entropy_watch : ResolvedEntropyWatch
  deriving DecidableEq,Repr

structure ResolvedSchedulerPolicy where
  critical_path_weight : Nat
  fanout_weight : Nat
  age_weight : Nat
  token_cost_weight : Nat
  deadline_weight : Nat
  process_priority_weight : Nat
  resource_pressure_weight : Nat
  budget_pressure_weight : Nat
  deriving DecidableEq,Repr

structure ResolvedContextPolicy where
  pressure_thresholds_ppm : PressureThresholds
  target_after_compress_ppm : Nat
  preserve_recent_turns : Nat
  renewal_carryover_ppm : Nat
  collapse_old_assistant_narration : Bool
  idle_micro_compact_minutes : Nat
  knowledge_budget_ppm : Nat
  prompt_budget : PromptBudget
  delegated_tiers : DelegatedContextTiers
  deriving DecidableEq,Repr

structure ResolvedPayloadPolicy where
  inline_threshold_bytes : Nat
  preview_bytes : Nat
  deriving DecidableEq,Repr

structure ResolvedCollectionLimits where
  tool_catalog : Nat
  skill_catalog : Nat
  knowledge_entries : Nat
  initial_messages : Nat
  capability_grants : Nat
  governance_rules : Nat
  deriving DecidableEq,Repr

structure ResolvedKernelLimits where
  max_input_bytes : Nat
  max_json_depth : Nat
  max_collection_entries : Nat
  collection_limits : ResolvedCollectionLimits
  deriving DecidableEq,Repr

structure ResolvedMemoryPolicy where
  stale_warning_days : Nat
  retrieval_top_k : Nat
  validation_enabled : Bool
  max_content_bytes : Nat
  max_name_length : Nat
  promotion_recall_threshold : Option Nat
  «recall» : Bool
  deriving DecidableEq,Repr

structure ResolvedFeaturePolicy where
  memory_enabled : Bool
  propose_memory_enabled : Bool
  knowledge_enabled : Bool
  plan_tool_enabled : Bool
  stable_core_tool_ids : List String
  deriving DecidableEq,Repr

/-- The policies that are frozen with the genesis record. -/
structure BootPolicies where
  execution_policy : ResolvedExecutionPolicy
  scheduler_policy : ResolvedSchedulerPolicy
  budget_grant : Option BudgetGrant
  context_policy : ResolvedContextPolicy
  payload_policy : ResolvedPayloadPolicy
  kernel_limits : ResolvedKernelLimits
  memory_access : Option MemoryBinding
  memory_policy : ResolvedMemoryPolicy
  tool_catalog : List ToolSchema
  skill_catalog : List SkillMetadata
  verification_contracts : List VerificationContract
  feature_policy : ResolvedFeaturePolicy
  host_effect_support : List EffectKindTag
  deriving DecidableEq,Repr

/-- The configuration that genesis stores: the frozen policies, and the four a patch may replace. -/
structure ResolvedConfig extends BootPolicies where
  governance_policy : ResolvedGovernancePolicy
  resource_quota : ResourceQuota
  signal_policy : ResolvedSignalPolicy
  recovery_policy : ResolvedRecoveryPolicy
  deriving DecidableEq,Repr

structure KernelBootstrapLimits where
  absolute_max_input_bytes : Nat
  absolute_max_json_depth : Nat
  absolute_max_collection_entries : Nat
  deriving DecidableEq,Repr

structure ConfigDefaults where
  bootstrap_limits : KernelBootstrapLimits
  baseline : ResolvedConfig
  deriving DecidableEq,Repr

def KernelBootstrapLimits.DEFAULT : KernelBootstrapLimits := ⟨16*1024*1024,64,65536⟩

/-- The baseline that a binary is compiled with. -/
def ConfigDefaults.new (bootstrap_limits : KernelBootstrapLimits) : ConfigDefaults where
  bootstrap_limits := bootstrap_limits
  baseline :=
    let entries := bootstrap_limits.absolute_max_collection_entries
    { execution_policy := ⟨128000,25,1000000,none,true,⟨true,5,8⟩,⟨false,650000,100000,4,false⟩⟩
      governance_policy := ⟨.Allow,[],[],[],[],false⟩
      scheduler_policy := ⟨1000000,10000,1000,1,0,0,0,0⟩
      resource_quota := ResourceQuota.default
      budget_grant := none
      signal_policy := ⟨64,none,false⟩
      context_policy := ⟨⟨700000,800000,900000,950000,980000⟩,650000,2,50000,true,60,250000,⟨0,0,0⟩,⟨false,false⟩⟩
      recovery_policy := ⟨1,1,⟨512,2048,4*1024*1024,16*1024*1024⟩⟩
      payload_policy := ⟨50*1024,2*1024⟩
      kernel_limits := ⟨bootstrap_limits.absolute_max_input_bytes,bootstrap_limits.absolute_max_json_depth,entries,
        ⟨entries,entries,entries,entries,entries,entries⟩⟩
      memory_access := none
      memory_policy := ⟨2,5,true,10000,100,none,false⟩
      tool_catalog := []
      skill_catalog := []
      verification_contracts := []
      feature_policy := ⟨false,false,false,false,[]⟩
      host_effect_support := [] }

/-! One policy after the other. Every policy is merged over the baseline, and the result is checked. -/

def require_le_u32 (label : String) (requested ceiling : Nat) (ceiling_label : String) : Except String Unit :=
  if ceiling < requested then
  .error s!"{label} {requested} is wider than {ceiling_label} {ceiling}; operation configuration may only tighten it"
  else .ok ()

/-- A limit that may be stated, no wider than the ceiling. -/
def tightened (label : String) (requested : Option Nat) (ceiling : Nat) (ceiling_label : String) : Except String Nat :=
  match requested with
  | none => pure ceiling
  | some requested => do
    require_le_u32 label requested ceiling ceiling_label
    pure requested

/-- A bootstrap limit, which must not be tightened to nothing. -/
def positive_limit (label : String) (requested : Option Nat) (ceiling : Nat) (ceiling_label : String) : Except String Nat := do
  let resolved ← tightened s!"kernel_limits.{label}" requested ceiling ceiling_label
  if requested = some 0 then throw s!"kernel_limits.{label} must be positive"
  pure resolved

def resolve_kernel_limits (limits : Option KernelLimits) (bootstrap : KernelBootstrapLimits) : Except String ResolvedKernelLimits := do
  let max_input_bytes ← positive_limit "max_input_bytes" (limits.bind KernelLimits.max_input_bytes)
    bootstrap.absolute_max_input_bytes "absolute_max_input_bytes"
  let max_json_depth ← positive_limit "max_json_depth" (limits.bind KernelLimits.max_json_depth)
    bootstrap.absolute_max_json_depth "absolute_max_json_depth"
  let ceiling ← positive_limit "max_collection_entries" (limits.bind KernelLimits.max_collection_entries)
    bootstrap.absolute_max_collection_entries "absolute_max_collection_entries"
  let named := limits.bind KernelLimits.collection_limits
  let collection := fun label requested =>
    tightened s!"kernel_limits.collection_limits.{label}" requested ceiling "the resolved max_collection_entries"
  let tool_catalog ← collection "tool_catalog" (named.bind CollectionLimits.tool_catalog)
  let skill_catalog ← collection "skill_catalog" (named.bind CollectionLimits.skill_catalog)
  let knowledge_entries ← collection "knowledge_entries" (named.bind CollectionLimits.knowledge_entries)
  let initial_messages ← collection "initial_messages" (named.bind CollectionLimits.initial_messages)
  let capability_grants ← collection "capability_grants" (named.bind CollectionLimits.capability_grants)
  let governance_rules ← collection "governance_rules" (named.bind CollectionLimits.governance_rules)
  pure ⟨max_input_bytes,max_json_depth,ceiling,
    ⟨tool_catalog,skill_catalog,knowledge_entries,initial_messages,capability_grants,governance_rules⟩⟩

def validate_execution (policy : ResolvedExecutionPolicy) : Except String Unit := do
  if policy.max_turns = 0 then throw "execution_policy.max_turns must be positive"
  if policy.max_context_tokens = 0 then throw "execution_policy.max_context_tokens must be positive"
  if policy.max_total_tokens = 0 then throw "execution_policy.max_total_tokens must be positive"
  if policy.max_wall_ms = some 0 then throw "execution_policy.max_wall_ms must be positive; omit it for no wall-clock limit"
  let fuse := policy.repeat_fuse
  if fuse.enabled then
    if fuse.deny_after = 0 then throw "execution_policy.repeat_fuse.deny_after must be positive while the fuse is enabled"
    if fuse.terminate_after ≤ fuse.deny_after then
      throw s!"execution_policy.repeat_fuse.terminate_after ({fuse.terminate_after}) must exceed deny_after ({fuse.deny_after}); otherwise the run terminates before the deny ever takes effect"
  let watch := policy.entropy_watch
  if watch.enabled && decide (watch.threshold_ppm < watch.hysteresis_ppm) then
    throw s!"execution_policy.entropy_watch.hysteresis_ppm ({watch.hysteresis_ppm}) must not exceed threshold_ppm ({watch.threshold_ppm}); a wider hysteresis than threshold can never re-arm"

def ExecutionPolicy.merge (policy : ExecutionPolicy) (base : ResolvedExecutionPolicy) : ResolvedExecutionPolicy where
  max_context_tokens := policy.max_context_tokens.getD base.max_context_tokens
  max_turns := policy.max_turns.getD base.max_turns
  max_total_tokens := policy.max_total_tokens.getD base.max_total_tokens
  max_wall_ms := policy.max_wall_ms.or base.max_wall_ms
  criteria_gate_enabled := policy.criteria_gate_enabled.getD base.criteria_gate_enabled
  repeat_fuse := match policy.repeat_fuse with
    | none => base.repeat_fuse
    | some fuse => ⟨fuse.enabled.getD base.repeat_fuse.enabled,fuse.deny_after.getD base.repeat_fuse.deny_after,
        fuse.terminate_after.getD base.repeat_fuse.terminate_after⟩
  entropy_watch := match policy.entropy_watch with
    | none => base.entropy_watch
    | some watch => ⟨watch.enabled.getD base.entropy_watch.enabled,watch.threshold_ppm.getD base.entropy_watch.threshold_ppm,
        watch.hysteresis_ppm.getD base.entropy_watch.hysteresis_ppm,watch.cooldown_turns.getD base.entropy_watch.cooldown_turns,
        watch.notify_model.getD base.entropy_watch.notify_model⟩

def resolve_execution (policy : Option ExecutionPolicy) (base : ResolvedExecutionPolicy) : Except String ResolvedExecutionPolicy := do
  let resolved := (policy.map fun policy => policy.merge base).getD base
  validate_execution resolved
  pure resolved

/-- A replacement at boot falls back to showing denied tools, not to the baseline. -/
def resolve_governance (policy : Option GovernancePolicy) (base : ResolvedGovernancePolicy)
    (rule_bound : Nat) : Except String ResolvedGovernancePolicy := do
  let resolved := match policy with
    | none => base
    | some policy => { policy.replacing base with hide_denied_tools := policy.hide_denied_tools.getD false }
  validate_governance resolved rule_bound
  pure resolved

def MAX_SCHEDULER_WEIGHT : Nat := 1000000000

def ResolvedSchedulerPolicy.weights (policy : ResolvedSchedulerPolicy) : List (String × Nat) :=
  [("critical_path_weight",policy.critical_path_weight),("fanout_weight",policy.fanout_weight),("age_weight",policy.age_weight),
    ("token_cost_weight",policy.token_cost_weight),("deadline_weight",
    policy.deadline_weight),("process_priority_weight",policy.process_priority_weight),
    ("resource_pressure_weight",policy.resource_pressure_weight),("budget_pressure_weight",policy.budget_pressure_weight)]

def validate_scheduler (policy : ResolvedSchedulerPolicy) : Except String Unit :=
  policy.weights.forM fun (label,weight) => do
    if MAX_SCHEDULER_WEIGHT < weight then throw s!"scheduler_policy.{label} is {weight}; the bound is {MAX_SCHEDULER_WEIGHT}"

def resolve_scheduler (policy : Option SchedulerPolicy) (base : ResolvedSchedulerPolicy) : Except String ResolvedSchedulerPolicy := do
  let stated := fun (axis : SchedulerPolicy → Option Nat) (inherited : Nat) => (policy.bind axis).getD inherited
  let resolved : ResolvedSchedulerPolicy :=
    ⟨stated SchedulerPolicy.critical_path_weight base.critical_path_weight,stated SchedulerPolicy.fanout_weight base.fanout_weight,
      stated SchedulerPolicy.age_weight base.age_weight,stated SchedulerPolicy.token_cost_weight base.token_cost_weight,
      stated SchedulerPolicy.deadline_weight base.deadline_weight,stated SchedulerPolicy.process_priority_weight
      base.process_priority_weight,
      stated SchedulerPolicy.resource_pressure_weight base.resource_pressure_weight,
      stated SchedulerPolicy.budget_pressure_weight base.budget_pressure_weight⟩
  validate_scheduler resolved
  pure resolved

def resolve_quota (quota : Option ResourceQuota) (base : ResourceQuota) : Except String ResourceQuota := do
  let resolved := quota.getD base
  validate_quota resolved
  pure resolved

def validate_budget_grant (grant : Option BudgetGrant) : Except String Unit :=
  match grant with
  | none => pure ()
  | some grant => do
    if grant.reservation_id.isEmpty then throw "budget_grant.reservation_id must not be empty"
    if grant.tokens = some 0 then throw "budget_grant.tokens must be positive; a zero grant is a refused admission, not a configuration"

def resolve_budget_grant (grant : Option BudgetGrant) : Except String (Option BudgetGrant) := do
  validate_budget_grant grant
  pure grant

def resolve_signal (policy : Option SignalPolicy) (base : ResolvedSignalPolicy) : Except String ResolvedSignalPolicy := do
  let resolved := match policy with
    | none => base
    | some policy => ⟨policy.queue_max,policy.ttl_ms,policy.deadline_escalation.getD base.deadline_escalation⟩
  validate_signal resolved
  pure resolved

def MAX_PPM : Nat := 1000000
def u32Max : Nat := 2 ^ 32-1

def PromptBudget.reserved_tokens (budget : PromptBudget) : Nat :=
  min (min (budget.prompt_overhead_tokens+budget.output_reserve_tokens) u32Max+budget.safety_margin_tokens) u32Max

def validate_context (policy : ResolvedContextPolicy) (max_context_tokens : Nat) : Except String Unit := do
  let t := policy.pressure_thresholds_ppm
  if ¬(t.snip < t.micro ∧ t.micro < t.collapse ∧ t.collapse < t.auto ∧ t.auto < t.renewal) then
    throw s!"context_policy pressure thresholds must strictly increase (snip {t.snip} < micro {t.micro} < collapse {t.collapse} < auto {t.auto} < renewal {t.renewal})"
  if t.snip ≤ policy.target_after_compress_ppm then
    throw s!"context_policy.target_after_compress_ppm ({policy.target_after_compress_ppm}) must be below the snip threshold ({t.snip}); otherwise a compression pass can never reach its own target"
  if policy.preserve_recent_turns = 0 then throw "context_policy.preserve_recent_turns must be positive"
  if MAX_PPM < policy.knowledge_budget_ppm+policy.renewal_carryover_ppm then
    throw s!"context_policy.knowledge_budget_ppm ({policy.knowledge_budget_ppm}) plus renewal_carryover_ppm ({policy.renewal_carryover_ppm}) exceeds the whole context budget"
  if max_context_tokens ≤ policy.prompt_budget.reserved_tokens then
    throw s!"context_policy.prompt_budget reserves {policy.prompt_budget.reserved_tokens} tokens of a {max_context_tokens}-token context window, leaving nothing to render"

def ContextPolicy.merge (policy : ContextPolicy) (base : ResolvedContextPolicy) : ResolvedContextPolicy where
  pressure_thresholds_ppm := policy.pressure_thresholds_ppm.getD base.pressure_thresholds_ppm
  target_after_compress_ppm := policy.target_after_compress_ppm.getD base.target_after_compress_ppm
  preserve_recent_turns := policy.preserve_recent_turns.getD base.preserve_recent_turns
  renewal_carryover_ppm := policy.renewal_carryover_ppm.getD base.renewal_carryover_ppm
  collapse_old_assistant_narration := policy.collapse_old_assistant_narration.getD base.collapse_old_assistant_narration
  idle_micro_compact_minutes := policy.idle_micro_compact_minutes.getD base.idle_micro_compact_minutes
  knowledge_budget_ppm := policy.knowledge_budget_ppm.getD base.knowledge_budget_ppm
  prompt_budget := policy.prompt_budget.getD base.prompt_budget
  delegated_tiers := policy.delegated_tiers.getD base.delegated_tiers

def resolve_context (policy : Option ContextPolicy) (base : ResolvedContextPolicy)
    (max_context_tokens : Nat) : Except String ResolvedContextPolicy := do
  let resolved := (policy.map fun policy => policy.merge base).getD base
  validate_context resolved max_context_tokens
  pure resolved

def apply_tail_bounds (policy : TailBoundsPolicy) (base : TailBounds) : TailBounds where
  soft_records := policy.soft_records.getD base.soft_records
  hard_records := policy.hard_records.getD base.hard_records
  soft_bytes := policy.soft_bytes.getD base.soft_bytes
  hard_bytes := policy.hard_bytes.getD base.hard_bytes

def resolve_recovery (policy : Option BootRecoveryPolicy) (base : ResolvedRecoveryPolicy) : Except String ResolvedRecoveryPolicy := do
  let resolved := match policy with
    | none => base
    | some policy => ⟨policy.provider_recovery_attempts.getD base.provider_recovery_attempts,
        policy.output_recovery_attempts.getD base.output_recovery_attempts,
        (policy.tail_bounds.map fun bounds => apply_tail_bounds bounds base.tail_bounds).getD base.tail_bounds⟩
  validate_recovery resolved
  pure resolved

def validate_payload (policy : ResolvedPayloadPolicy) : Except String Unit := do
  if policy.inline_threshold_bytes = 0 then throw "payload_policy.inline_threshold_bytes must be positive"
  if policy.preview_bytes = 0 ∨ policy.inline_threshold_bytes < policy.preview_bytes then
    throw s!"payload_policy.preview_bytes ({policy.preview_bytes}) must be positive and no larger than inline_threshold_bytes ({policy.inline_threshold_bytes})"

def resolve_payload (policy : Option PayloadPolicy) (base : ResolvedPayloadPolicy) : Except String ResolvedPayloadPolicy := do
  let resolved : ResolvedPayloadPolicy :=
    ⟨(policy.bind PayloadPolicy.inline_threshold_bytes).getD base.inline_threshold_bytes,
    (policy.bind PayloadPolicy.preview_bytes).getD base.preview_bytes⟩
  validate_payload resolved
  pure resolved

def validate_memory (policy : ResolvedMemoryPolicy) : Except String Unit := do
  if policy.retrieval_top_k = 0 then throw "memory_policy.retrieval_top_k must be positive"
  if policy.validation_enabled ∧ (policy.max_content_bytes = 0 ∨ policy.max_name_length = 0) then
    throw "memory_policy validation is enabled but max_content_bytes / max_name_length is zero, which rejects every write"
  if policy.promotion_recall_threshold = some 0 then
    throw "memory_policy.promotion_recall_threshold must be positive; omit it to disable promotion suggestions"

def MemoryPolicy.merge (policy : MemoryPolicy) (base : ResolvedMemoryPolicy) : ResolvedMemoryPolicy where
  stale_warning_days := policy.stale_warning_days.getD base.stale_warning_days
  retrieval_top_k := policy.retrieval_top_k.getD base.retrieval_top_k
  validation_enabled := policy.validation_enabled.getD base.validation_enabled
  max_content_bytes := policy.max_content_bytes.getD base.max_content_bytes
  max_name_length := policy.max_name_length.getD base.max_name_length
  promotion_recall_threshold := policy.promotion_recall_threshold.or base.promotion_recall_threshold
  «recall» := policy.recall.getD base.recall

def resolve_memory_policy (policy : Option MemoryPolicy) (base : ResolvedMemoryPolicy) : Except String ResolvedMemoryPolicy := do
  let resolved := (policy.map fun policy => policy.merge base).getD base
  validate_memory resolved
  pure resolved

def validate_features (policy : ResolvedFeaturePolicy) : Except String Unit :=
  if policy.stable_core_tool_ids.any String.isEmpty then .error "feature_policy.stable_core_tool_ids entries must not be empty" else .ok ()

def FeaturePolicy.merge (policy : FeaturePolicy) (base : ResolvedFeaturePolicy) : ResolvedFeaturePolicy where
  memory_enabled := policy.memory_enabled.getD base.memory_enabled
  propose_memory_enabled := policy.propose_memory_enabled.getD base.propose_memory_enabled
  knowledge_enabled := policy.knowledge_enabled.getD base.knowledge_enabled
  plan_tool_enabled := policy.plan_tool_enabled.getD base.plan_tool_enabled
  stable_core_tool_ids := policy.stable_core_tool_ids.getD base.stable_core_tool_ids

def resolve_features (policy : Option FeaturePolicy) (base : ResolvedFeaturePolicy) : Except String ResolvedFeaturePolicy := do
  let resolved := (policy.map fun policy => policy.merge base).getD base
  validate_features resolved
  pure resolved

/-! The catalogs. -/

/-- The entries in order, each with those before it. -/
def checkEach {α : Type} (check : List α → α → Except String Unit) : List α → List α → Except String Unit
  | _,[] => pure ()
  | before,entry :: rest => do
    check before entry
    checkEach check (before ++ [entry]) rest

def validate_tool_catalog (catalog : List ToolSchema) (bound : Nat) : Except String Unit := do
  if bound < catalog.length then throw s!"tool_catalog declares {catalog.length} tools; the resolved bound is {bound}"
  checkEach (fun before tool => do
    if tool.name.isEmpty then throw "tool_catalog entry has an empty name"
    if before.any fun other => other.name = tool.name then
      throw s!"tool_catalog declares {tool.name.quote} twice; a catalog is a set, and a duplicate makes dispatch order-dependent") [] catalog

def resolve_tool_catalog (catalog : List ToolSchema) (bound : Nat) : Except String (List ToolSchema) := do
  validate_tool_catalog catalog bound
  pure catalog

def validate_skill_catalog (catalog : List SkillMetadata) (bound capability_grants_bound : Nat)
    (tools : List ToolSchema) : Except String Unit := do
  if bound < catalog.length then throw s!"skill_catalog declares {catalog.length} skills; the resolved bound is {bound}"
  checkEach (fun before skill => do
    if skill.name.isEmpty then throw "skill_catalog entry has an empty name"
    if before.any fun other => other.name = skill.name then throw s!"skill_catalog declares {skill.name.quote} twice"
    if skill.effort.any fun effort => decide (effort < 1 ∨ 5 < effort) then
      throw s!"skill {skill.name.quote} declares effort {skill.effort.getD 0}; the range is 1..=5"
    if capability_grants_bound < skill.capability_grants.length then
      throw s!"skill {skill.name.quote} declares {skill.capability_grants.length} capability grants; the resolved bound is {capability_grants_bound}"
    skill.allowed_tools.forM fun tool => do
      if ¬tools.any fun declared => declared.name = tool then
        throw s!"skill {skill.name.quote} allows {tool.quote}, which the tool catalog does not declare; a skill can only ever narrow the catalog") [] catalog

def resolve_skill_catalog (catalog : List SkillMetadata) (bound capability_grants_bound : Nat) (tools : List ToolSchema) :
    Except String (List SkillMetadata) := do
  validate_skill_catalog catalog bound capability_grants_bound tools
  pure catalog

/-- The name of a kind as the program prints it. -/
def variant : EffectKindTag → String
  | .CallProvider => "CallProvider"
  | .ExecuteTools => "ExecuteTools"
  | .RequestApproval => "RequestApproval"
  | .SpawnTasks => "SpawnTasks"
  | .PreemptTasks => "PreemptTasks"
  | .PersistMemory => "PersistMemory"
  | .QueryMemory => "QueryMemory"
  | .ArchivePageOut => "ArchivePageOut"
  | .LoadPayload => "LoadPayload"
  | .EvaluateMilestone => "EvaluateMilestone"

variable (support : List EffectKindTag)

def validate_host_effect_support : Except String Unit :=
  checkEach (fun before kind => do
    if before.contains kind then throw s!"host_effect_support declares {variant kind} twice") [] support

def resolve_host_effect_support : Except String (List EffectKindTag) := do
  validate_host_effect_support support
  pure support

def validate_phase (contract_id : String) (tools : List ToolSchema) (skills : List SkillMetadata)
    (before : List VerificationPhase) (phase : VerificationPhase) :
    Except String Unit := do
  if phase.phase_id.isEmpty then throw s!"verification contract {contract_id.quote} carries a phase with an empty phase_id"
  if before.any fun other => other.phase_id = phase.phase_id then
    throw s!"verification contract {contract_id.quote} declares phase {phase.phase_id.quote} twice; a milestone verdict names its phase by id and could not say which one it advanced"
  phase.unlocks.forM fun capability_id => do
    if ¬(tools.any fun tool => tool.name = capability_id) ∧ ¬(skills.any fun skill => skill.name = capability_id) then
      throw s!"verification contract {contract_id.quote} phase {phase.phase_id.quote} unlocks {capability_id.quote}, which is in neither the tool catalog nor the skill catalog; a phase cannot mount a capability the operation never declared"

def validate_verification_contracts (contracts : List VerificationContract) (max_entries : Nat)
    (tools : List ToolSchema) (skills : List SkillMetadata) :
    Except String Unit := do
  if max_entries < contracts.length then throw s!"verification_contracts carries {contracts.length} entries; the bound is {max_entries}"
  checkEach (fun before contract => do
    if contract.contract_id.isEmpty then throw "a verification contract must carry a non-empty contract_id"
    if before.any fun other => other.contract_id = contract.contract_id then
      throw s!"verification_contracts declares {contract.contract_id.quote} twice; a contract id is the reference `verification_contract_id` resolves against and must be unique"
    if contract.phases.isEmpty then
      throw s!"verification contract {contract.contract_id.quote} declares no phases; a contract with no phase can never be evaluated"
    if max_entries < contract.phases.length then
      throw s!"verification contract {contract.contract_id.quote} carries {contract.phases.length} phases; the bound is {max_entries}"
    checkEach (validate_phase contract.contract_id tools skills) [] contract.phases) [] contracts

def resolve_verification_contracts (contracts : List VerificationContract) (max_entries : Nat)
    (tools : List ToolSchema) (skills : List SkillMetadata) :
    Except String (List VerificationContract) := do
  validate_verification_contracts contracts max_entries tools skills
  pure contracts

/-! The relations between policies. -/

/-- A governance policy that can return `ask_user`. -/
def can_ask_user (governance : ResolvedGovernancePolicy) : Bool :=
  decide (governance.default_action = .AskUser) || governance.rules.any fun rule => decide (rule.action = .AskUser)

/-- A quota or a grant that declares positive spawn or workflow capacity. -/
def declares_spawn_capacity (quota : ResourceQuota) (grant : Option BudgetGrant) : Bool :=
  [quota.max_concurrent_subagents,quota.max_total_subagents,quota.max_spawn_depth,quota.max_workflow_nodes,
  grant.bind BudgetGrant.subagents].any
    fun capacity => capacity.any fun capacity => decide (0 < capacity)

variable (features : ResolvedFeaturePolicy)

/-- The effect kinds that a configuration requires, and why. -/
def required_effects (memory_access : Option MemoryBinding) (quota : ResourceQuota) (grant : Option BudgetGrant)
    (governance : ResolvedGovernancePolicy) (tool_catalog : List ToolSchema) (verification_contracts : List VerificationContract) :
    List (EffectKindTag × Bool × String) :=
  let has_tools := !tool_catalog.isEmpty
  let memory_write := features.memory_enabled || memory_access.any MemoryBinding.write
  let memory_read := features.memory_enabled || memory_access.any MemoryBinding.read
  [(.CallProvider,true,"every operation reaches a provider call"),
    (.ExecuteTools,has_tools,"tool_catalog declares tools this operation may dispatch"),
    (.LoadPayload,has_tools,"a tool result above the inline threshold becomes an external payload the kernel must be able to page back in"),
    (.RequestApproval,can_ask_user governance,"governance_policy can return ask_user"),
    (.SpawnTasks,declares_spawn_capacity quota grant,"resource_quota or budget_grant declares spawn/workflow capacity"),
    (.PreemptTasks,declares_spawn_capacity quota grant,
      "an operation that may start child tasks must be able to stop them on cancellation or budget exhaustion"),
    (.PersistMemory,memory_write,"the memory plane is writable"),
    (.QueryMemory,memory_read,"the memory plane is readable"),
    (.ArchivePageOut,features.knowledge_enabled,
      "feature_policy.knowledge_enabled exposes a partition that is paged out under budget pressure"),
    (.EvaluateMilestone,!verification_contracts.isEmpty,"verification_contracts declares contracts that must be evaluated")]

def require_declared_effect_support (required : List (EffectKindTag × Bool × String)) : Except String Unit :=
  required.forM fun (kind,needed,because) => do
    if needed && !support.contains kind then
      throw s!"host_effect_support does not declare {kind.as_str.quote}, but {because}; a capability the host cannot execute must not be configured on"

def validate_memory_access (memory_access : Option MemoryBinding) : Except String Unit :=
  if features.memory_enabled && memory_access.isNone then
  .error "feature_policy.memory_enabled is true but no memory_access binding was configured"
  else .ok ()

def validate_stable_core_tools (tool_catalog : List ToolSchema) : Except String Unit :=
  features.stable_core_tool_ids.forM fun tool_id => do
    if ¬tool_catalog.any fun tool => tool.name = tool_id then
      throw s!"feature_policy.stable_core_tool_ids names {tool_id.quote}, which the tool catalog does not declare"

def resolve_operation_config (config : OperationConfig) (defaults : ConfigDefaults) : Except String ResolvedConfig := do
  let base := defaults.baseline
  let kernel_limits ← resolve_kernel_limits config.kernel_limits defaults.bootstrap_limits
  let limits := kernel_limits.collection_limits
  let execution_policy ← resolve_execution config.execution_policy base.execution_policy
  let governance_policy ← resolve_governance config.governance_policy base.governance_policy limits.governance_rules
  let scheduler_policy ← resolve_scheduler config.scheduler_policy base.scheduler_policy
  let resource_quota ← resolve_quota config.resource_quota base.resource_quota
  let budget_grant ← resolve_budget_grant config.budget_grant
  let signal_policy ← resolve_signal config.signal_policy base.signal_policy
  let context_policy ← resolve_context config.context_policy base.context_policy execution_policy.max_context_tokens
  let recovery_policy ← resolve_recovery config.recovery_policy base.recovery_policy
  let payload_policy ← resolve_payload config.payload_policy base.payload_policy
  let memory_policy ← resolve_memory_policy config.memory_policy base.memory_policy
  let feature_policy ← resolve_features config.feature_policy base.feature_policy
  let tool_catalog ← resolve_tool_catalog config.tool_catalog limits.tool_catalog
  let skill_catalog ← resolve_skill_catalog config.skill_catalog limits.skill_catalog limits.capability_grants tool_catalog
  let host_effect_support ← resolve_host_effect_support config.host_effect_support
  let verification_contracts ← resolve_verification_contracts config.verification_contracts
    kernel_limits.max_collection_entries tool_catalog skill_catalog
  validate_memory_access feature_policy config.memory_access
  require_declared_effect_support host_effect_support (required_effects feature_policy config.memory_access resource_quota budget_grant
    governance_policy tool_catalog verification_contracts)
  validate_stable_core_tools feature_policy tool_catalog
  pure
    { execution_policy,scheduler_policy,budget_grant,context_policy,payload_policy,kernel_limits,memory_access :=
    config.memory_access,memory_policy,
      tool_catalog,skill_catalog,verification_contracts,feature_policy,host_effect_support,governance_policy,resource_quota,signal_policy,recovery_policy }

end Deepstrike.Configuring

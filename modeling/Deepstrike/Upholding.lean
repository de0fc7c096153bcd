import Deepstrike.Configuring
import Deepstrike.Refitting

/-!
The boot rules under live patches. A patch is checked against the rules of the policy it replaces, and a
quota only narrows. What no patch checks again are the effects a policy needs of the host: a governance
policy that asks the user, and a quota that declares capacity for children.
-/
namespace Deepstrike.Configuring
open List Signals
open Wire (ResourceQuota BudgetGrant EffectKindTag MemoryBinding ToolSchema VerificationContract)
open Governance Policies

/-! The live state. -/

variable (config : ResolvedConfig)

/-- What the patches read of a configuration. -/
def ResolvedConfig.live : ResolvedOperationConfig :=
  ⟨config.signal_policy,config.governance_policy,config.resource_quota,config.recovery_policy,
  config.kernel_limits.collection_limits.governance_rules⟩

/-- The configuration with the policies of a patched one. -/
def ResolvedConfig.with_live (live : ResolvedOperationConfig) : ResolvedConfig :=
  { config with
    signal_policy := live.signal_policy
    governance_policy := live.governance_policy
    resource_quota := live.resource_quota
    recovery_policy := live.recovery_policy }

def apply_to (patch : LivePolicyPatch) (current : ResolvedConfig) : Except String ResolvedConfig := do
  let live ← patch.apply_to current.live
  pure (current.with_live live)

structure LivePolicyState where
  revision : Nat
  config : ResolvedConfig

def LivePolicyState.new : LivePolicyState := ⟨0,config⟩

/-- A patch, the revision it answers, and the state it leaves. -/
def LivePolicyState.apply (policy : LivePolicyState) (command : ApplyPolicyPatchCommand) : Except String Nat × LivePolicyState :=
  if command.expected_revision ≠ policy.revision then
    (.error s!"policy revision mismatch: patch expects {command.expected_revision}, the operation is at {policy.revision}; re-read the policy and rebase the patch",
      policy)
  else match apply_to command.patch policy.config with
    | .error rejection => (.error rejection,policy)
    | .ok next =>
      let revision := min (policy.revision+1) u64Max
      (.ok revision,⟨revision,next⟩)

/-! The rules that hold of a configuration after boot. -/

structure Lawful (bootstrap : KernelBootstrapLimits) (config : ResolvedConfig) : Prop where
  input_bytes : config.kernel_limits.max_input_bytes ≤ bootstrap.absolute_max_input_bytes
  json_depth : config.kernel_limits.max_json_depth ≤ bootstrap.absolute_max_json_depth
  collection_entries : config.kernel_limits.max_collection_entries ≤ bootstrap.absolute_max_collection_entries
  collections : ∀ bound ∈ [config.kernel_limits.collection_limits.tool_catalog,config.kernel_limits.collection_limits.skill_catalog,
    config.kernel_limits.collection_limits.knowledge_entries,config.kernel_limits.collection_limits.initial_messages,
    config.kernel_limits.collection_limits.capability_grants,config.kernel_limits.collection_limits.governance_rules],
    bound ≤ config.kernel_limits.max_collection_entries
  execution : validate_execution config.execution_policy = .ok ()
  governance : validate_governance config.governance_policy config.kernel_limits.collection_limits.governance_rules = .ok ()
  scheduler : validate_scheduler config.scheduler_policy = .ok ()
  quota : validate_quota config.resource_quota = .ok ()
  grant : validate_budget_grant config.budget_grant = .ok ()
  signal : validate_signal config.signal_policy = .ok ()
  context : validate_context config.context_policy config.execution_policy.max_context_tokens = .ok ()
  recovery : validate_recovery config.recovery_policy = .ok ()
  payload : validate_payload config.payload_policy = .ok ()
  memory : validate_memory config.memory_policy = .ok ()
  features : validate_features config.feature_policy = .ok ()
  tools : validate_tool_catalog config.tool_catalog config.kernel_limits.collection_limits.tool_catalog = .ok ()
  skills : validate_skill_catalog config.skill_catalog config.kernel_limits.collection_limits.skill_catalog
    config.kernel_limits.collection_limits.capability_grants config.tool_catalog = .ok ()
  support : validate_host_effect_support config.host_effect_support = .ok ()
  contracts : validate_verification_contracts config.verification_contracts config.kernel_limits.max_collection_entries config.tool_catalog
    config.skill_catalog = .ok ()
  access : validate_memory_access config.feature_policy config.memory_access = .ok ()
  effects : require_declared_effect_support config.host_effect_support (required_effects config.feature_policy config.memory_access
    config.resource_quota config.budget_grant config.governance_policy config.tool_catalog config.verification_contracts) = .ok ()
  core_tools : validate_stable_core_tools config.feature_policy config.tool_catalog = .ok ()

variable {α : Type} {label : String} {requested : Option Nat}

theorem checked_ok {check : Except String Unit} {value result : α} (ran : (do check; pure value) = Except.ok result) :
    check = .ok () ∧ result = value := by
  obtain ⟨_,checked,ran⟩ := except_bind_ok ran
  cases ran
  exact ⟨checked,rfl⟩

theorem tightened_le {ceiling_label : String} {ceiling bound : Nat}
    (ran : tightened label requested ceiling ceiling_label = .ok bound) : bound ≤ ceiling := by
  unfold tightened at ran
  split at ran
  · cases ran
    exact le_rfl
  next requested =>
  obtain ⟨fits,rfl⟩ := checked_ok ran
  unfold require_le_u32 at fits
  split at fits
  · cases fits
  · omega

private theorem positive_limit_le {ceiling_label : String} {ceiling bound : Nat}
    (ran : positive_limit label requested ceiling ceiling_label = .ok bound) : bound ≤ ceiling := by
  unfold positive_limit at ran
  obtain ⟨resolved,stated,ran⟩ := except_bind_ok ran
  dsimp only at ran
  split at ran
  · cases ran
  · cases ran
    exact tightened_le stated

/-- Whatever is accepted at boot satisfies all rules. -/
theorem resolve_lawful {config : OperationConfig} {defaults : ConfigDefaults} {genesis : ResolvedConfig}
    (ran : resolve_operation_config config defaults = .ok genesis) : Lawful defaults.bootstrap_limits genesis := by
  unfold resolve_operation_config at ran
  dsimp only at ran
  obtain ⟨limits,limited,ran⟩ := except_bind_ok ran
  obtain ⟨execution,execution_ran,ran⟩ := except_bind_ok ran
  obtain ⟨governance,governance_ran,ran⟩ := except_bind_ok ran
  obtain ⟨scheduler,scheduler_ran,ran⟩ := except_bind_ok ran
  obtain ⟨quota,quota_ran,ran⟩ := except_bind_ok ran
  obtain ⟨grant,grant_ran,ran⟩ := except_bind_ok ran
  obtain ⟨signal,signal_ran,ran⟩ := except_bind_ok ran
  obtain ⟨context,context_ran,ran⟩ := except_bind_ok ran
  obtain ⟨recovery,recovery_ran,ran⟩ := except_bind_ok ran
  obtain ⟨payload,payload_ran,ran⟩ := except_bind_ok ran
  obtain ⟨memory,memory_ran,ran⟩ := except_bind_ok ran
  obtain ⟨features,features_ran,ran⟩ := except_bind_ok ran
  obtain ⟨tools,tools_ran,ran⟩ := except_bind_ok ran
  obtain ⟨skills,skills_ran,ran⟩ := except_bind_ok ran
  obtain ⟨support,support_ran,ran⟩ := except_bind_ok ran
  obtain ⟨contracts,contracts_ran,ran⟩ := except_bind_ok ran
  obtain ⟨_,access,ran⟩ := except_bind_ok ran
  obtain ⟨_,effects,ran⟩ := except_bind_ok ran
  obtain ⟨core_tools,rfl⟩ := checked_ok ran
  obtain ⟨executed,rfl⟩ := checked_ok execution_ran
  obtain ⟨governed,rfl⟩ := checked_ok governance_ran
  obtain ⟨scheduled,rfl⟩ := checked_ok scheduler_ran
  obtain ⟨capped,rfl⟩ := checked_ok quota_ran
  obtain ⟨granted,rfl⟩ := checked_ok grant_ran
  obtain ⟨signalled,rfl⟩ := checked_ok signal_ran
  obtain ⟨framed,rfl⟩ := checked_ok context_ran
  obtain ⟨recovered,rfl⟩ := checked_ok recovery_ran
  obtain ⟨paid,rfl⟩ := checked_ok payload_ran
  obtain ⟨remembered,rfl⟩ := checked_ok memory_ran
  obtain ⟨featured,rfl⟩ := checked_ok features_ran
  obtain ⟨listed,rfl⟩ := checked_ok tools_ran
  obtain ⟨skilled,rfl⟩ := checked_ok skills_ran
  obtain ⟨supported,rfl⟩ := checked_ok support_ran
  obtain ⟨contracted,rfl⟩ := checked_ok contracts_ran
  unfold resolve_kernel_limits at limited
  dsimp only at limited
  obtain ⟨input_bytes,bytes,limited⟩ := except_bind_ok limited
  obtain ⟨json_depth,depth,limited⟩ := except_bind_ok limited
  obtain ⟨ceiling,entries,limited⟩ := except_bind_ok limited
  obtain ⟨tool_catalog,first,limited⟩ := except_bind_ok limited
  obtain ⟨skill_catalog,second,limited⟩ := except_bind_ok limited
  obtain ⟨knowledge_entries,third,limited⟩ := except_bind_ok limited
  obtain ⟨initial_messages,fourth,limited⟩ := except_bind_ok limited
  obtain ⟨capability_grants,fifth,limited⟩ := except_bind_ok limited
  obtain ⟨governance_rules,sixth,limited⟩ := except_bind_ok limited
  cases limited
  have collections : ∀ bound ∈ [tool_catalog,skill_catalog,knowledge_entries,initial_messages,capability_grants,governance_rules],
      bound ≤ ceiling := by
    rw [forall_mem_cons,forall_mem_cons,forall_mem_cons,forall_mem_cons,forall_mem_cons,forall_mem_singleton]
    exact ⟨tightened_le first,tightened_le second,tightened_le third,tightened_le fourth,tightened_le fifth,tightened_le sixth⟩
  exact ⟨positive_limit_le bytes,positive_limit_le depth,positive_limit_le entries,collections,executed,governed,scheduled,capped,granted,signalled,
    framed,recovered,paid,remembered,featured,listed,skilled,supported,contracted,access,effects,core_tools⟩

/-! What the effects ask of the host. -/

private theorem forM_ok_iff {check : α → Except String Unit} {entries : List α} :
    entries.forM check = .ok () ↔ ∀ entry ∈ entries, check entry = .ok () := by
  induction entries with
  | nil => exact iff_of_true rfl (by simp)
  | cons entry rest ih =>
  rw [forall_mem_cons,← ih]
  show (check entry >>= fun _ => rest.forM check) = .ok () ↔ _
  cases checked : check entry with
  | error rejection => exact iff_of_false (fun ran => by cases ran) (fun both => by cases both.1)
  | ok done => exact ⟨fun ran => ⟨rfl,ran⟩,fun both => both.2⟩

private theorem declared_support_iff {support : List EffectKindTag} {required : List (EffectKindTag × Bool × String)} :
    require_declared_effect_support support required = .ok () ↔ ∀ entry ∈ required, entry.2.1 = true → entry.1 ∈ support := by
  unfold require_declared_effect_support
  rw [forM_ok_iff]
  refine forall₂_congr fun entry _ => ?_
  obtain ⟨kind,needed,because⟩ := entry
  by_cases declared : kind ∈ support <;> cases needed <;> simp [declared] <;> rfl

section
variable {support : List EffectKindTag} {features : ResolvedFeaturePolicy} {memory_access : Option MemoryBinding} {quota next_quota : ResourceQuota}
  {grant : Option BudgetGrant} {governance next_governance : ResolvedGovernancePolicy} {tool_catalog : List ToolSchema}
  {contracts : List VerificationContract}

private theorem effects_governance
    (held : require_declared_effect_support support
    (required_effects features memory_access quota grant governance tool_catalog contracts) = .ok ()) :
    require_declared_effect_support support (required_effects features memory_access quota grant next_governance tool_catalog contracts) = .ok () ↔
      (can_ask_user next_governance = true → EffectKindTag.RequestApproval ∈ support) := by
  rw [declared_support_iff] at held ⊢
  unfold required_effects at held ⊢
  simp only [forall_mem_cons] at held ⊢
  obtain ⟨provider,tools,payload,_,rest⟩ := held
  exact ⟨fun all => all.2.2.2.1,fun asked => ⟨provider,tools,payload,asked,rest⟩⟩

/-- Of a quota only the launch and the preemption are asked. -/
theorem effects_quota
    (held : require_declared_effect_support support
    (required_effects features memory_access quota grant governance tool_catalog contracts) = .ok ()) :
    (declares_spawn_capacity quota grant = true → EffectKindTag.SpawnTasks ∈ support ∧
    EffectKindTag.PreemptTasks ∈ support) ∧
    (require_declared_effect_support support
    (required_effects features memory_access next_quota grant governance tool_catalog contracts) = .ok () ↔
      (declares_spawn_capacity next_quota grant = true → EffectKindTag.SpawnTasks ∈ support ∧
      EffectKindTag.PreemptTasks ∈ support)) := by
  rw [declared_support_iff] at held ⊢
  unfold required_effects at held ⊢
  simp only [forall_mem_cons] at held ⊢
  obtain ⟨provider,tools,payload,approval,spawn,preempt,rest⟩ := held
  refine ⟨fun declared => ⟨spawn declared,preempt declared⟩,fun all declared => ?_,fun launched => ?_⟩
  · exact ⟨all.2.2.2.2.1 declared,all.2.2.2.2.2.1 declared⟩
  · exact ⟨provider,tools,payload,approval,fun declared => (launched declared).1,fun declared => (launched declared).2,rest⟩

end

/-! What a patch narrows. -/

/-- A stated cap stays stated and does not grow. -/
def NarrowedTo (current next : Option Nat) : Prop := ∀ most ∈ current, ∃ fewer ∈ next, fewer ≤ most

structure Narrowed (current next : ResourceQuota) : Prop where
  concurrent : NarrowedTo current.max_concurrent_subagents next.max_concurrent_subagents
  total : NarrowedTo current.max_total_subagents next.max_total_subagents
  depth : NarrowedTo current.max_spawn_depth next.max_spawn_depth
  nodes : NarrowedTo current.max_workflow_nodes next.max_workflow_nodes
  writes : next.memory_writes_per_window = current.memory_writes_per_window

theorem NarrowedTo.refl (current : Option Nat) : NarrowedTo current current := fun most stated => ⟨most,stated,le_rfl⟩

theorem Narrowed.refl (quota : ResourceQuota) : Narrowed quota quota := ⟨.refl _,.refl _,.refl _,.refl _,rfl⟩

theorem narrow_ok {current next : Option Nat} (ran : narrow label requested current = .ok next) :
    next = requested.or current ∧ NarrowedTo current next := by
  unfold narrow at ran
  split at ran
  · cases ran
    exact ⟨rfl,.refl _⟩
  next requested most =>
    split at ran
    · cases ran
    next fits =>
    cases ran
    refine ⟨rfl,fun other stated => ⟨requested,rfl,?_⟩⟩
    cases stated
    omega
  · cases ran
    exact ⟨rfl,fun _ stated => by cases stated⟩

/-- A cap that declares capacity. -/
def capacious (cap : Option Nat) : Bool := cap.any fun capacity => decide (0 < capacity)

/-- A patch that states a positive cap. -/
def requests_capacity (patch : TightenResourceQuota) : Bool :=
  capacious patch.max_concurrent_subagents || capacious patch.max_total_subagents || capacious
  patch.max_spawn_depth || capacious patch.max_workflow_nodes

private theorem declares_spawn_capacity_iff {quota : ResourceQuota} {grant : Option BudgetGrant} : declares_spawn_capacity quota grant = true ↔
    capacious quota.max_concurrent_subagents ∨ capacious quota.max_total_subagents ∨ capacious quota.max_spawn_depth ∨
      capacious quota.max_workflow_nodes ∨ capacious (grant.bind BudgetGrant.subagents) := by
  simp [declares_spawn_capacity,capacious]

theorem capacious_or {requested current : Option Nat} :
    (capacious requested = true → capacious (requested.or current) = true) ∧
    (capacious (requested.or current) = true → capacious requested = true ∨ capacious current = true) := by
  cases requested with
  | none => exact ⟨fun stated => absurd stated (by decide),.inr⟩
  | some requested => exact ⟨id,.inl⟩

private theorem tighten_ok {patch : TightenResourceQuota} {current next : ResourceQuota} (ran : patch.tighten current = .ok next) :
    Narrowed current next ∧ ∀ grant,
      (requests_capacity patch = true → declares_spawn_capacity next grant = true) ∧
      (declares_spawn_capacity next grant = true → requests_capacity patch = true ∨ declares_spawn_capacity current grant = true) := by
  unfold TightenResourceQuota.tighten at ran
  obtain ⟨concurrent,first,ran⟩ := except_bind_ok ran
  obtain ⟨total,second,ran⟩ := except_bind_ok ran
  obtain ⟨depth,third,ran⟩ := except_bind_ok ran
  obtain ⟨nodes,fourth,ran⟩ := except_bind_ok ran
  cases ran
  obtain ⟨rfl,concurrent⟩ := narrow_ok first
  obtain ⟨rfl,total⟩ := narrow_ok second
  obtain ⟨rfl,depth⟩ := narrow_ok third
  obtain ⟨rfl,nodes⟩ := narrow_ok fourth
  refine ⟨⟨concurrent,total,depth,nodes,rfl⟩,fun grant => ?_⟩
  have first := @capacious_or patch.max_concurrent_subagents current.max_concurrent_subagents
  have second := @capacious_or patch.max_total_subagents current.max_total_subagents
  have third := @capacious_or patch.max_spawn_depth current.max_spawn_depth
  have fourth := @capacious_or patch.max_workflow_nodes current.max_workflow_nodes
  simp only [declares_spawn_capacity_iff,requests_capacity,Bool.or_eq_true]
  constructor
  · rintro (((stated | stated) | stated) | stated)
    · exact .inl (first.1 stated)
    · exact .inr (.inl (second.1 stated))
    · exact .inr (.inr (.inl (third.1 stated)))
    · exact .inr (.inr (.inr (.inl (fourth.1 stated))))
  rintro (stated | stated | stated | stated | granted)
  · exact (first.2 stated).imp (fun requested => .inl (.inl (.inl requested))) .inl
  · exact (second.2 stated).imp (fun requested => .inl (.inl (.inr requested))) fun declared => .inr (.inl declared)
  · exact (third.2 stated).imp (fun requested => .inl (.inr requested)) fun declared => .inr (.inr (.inl declared))
  · exact (fourth.2 stated).imp .inr fun declared => .inr (.inr (.inr (.inl declared)))
  · exact .inr (.inr (.inr (.inr (.inr granted))))

/-! One patch. -/

/-- What a patch needs of the host, and of the revision it races on. -/
def Provided (policy : LivePolicyState) (command : ApplyPolicyPatchCommand) : Prop :=
  policy.revision < u64Max ∧ match command.patch with
    | .ReplaceGovernancePolicy replacement =>
      can_ask_user (replacement.replacing policy.config.governance_policy) = true →
      EffectKindTag.RequestApproval ∈ policy.config.host_effect_support
    | .TightenResourceQuota patch => requests_capacity patch = true →
      EffectKindTag.SpawnTasks ∈ policy.config.host_effect_support ∧ EffectKindTag.PreemptTasks ∈ policy.config.host_effect_support
    | _ => True

/-- What is frozen with the genesis record. -/
structure Frozen (genesis config : ResolvedConfig) : Prop where
  boot : config.toBootPolicies = genesis.toBootPolicies
  tail_bounds : config.recovery_policy.tail_bounds = genesis.recovery_policy.tail_bounds

/-- A patch moves a configuration only where it may, and leaves it lawful. -/
structure Sound (bootstrap : KernelBootstrapLimits) (genesis : ResolvedConfig) (policy : LivePolicyState)
    (command : ApplyPolicyPatchCommand) : Prop where
  refused : ∀ rejection, (policy.apply command).1 = .error rejection → (policy.apply command).2 = policy
  accepted : ∀ revision, (policy.apply command).1 = .ok revision → revision = policy.revision+1 ∧
    (policy.apply command).2.revision = revision
  quota : Narrowed policy.config.resource_quota (policy.apply command).2.config.resource_quota
  frozen : Frozen genesis (policy.apply command).2.config
  lawful : Lawful bootstrap (policy.apply command).2.config

variable {bootstrap : KernelBootstrapLimits} {genesis : ResolvedConfig} {policy : LivePolicyState} {command : ApplyPolicyPatchCommand}

private theorem apply_cases (policy : LivePolicyState) (command : ApplyPolicyPatchCommand) :
    (∃ rejection, policy.apply command = (.error rejection,policy)) ∨
    ∃ live, command.patch.apply_to policy.config.live = .ok live ∧
      policy.apply command = (.ok (min (policy.revision+1) u64Max),⟨min (policy.revision+1) u64Max,policy.config.with_live live⟩) := by
  unfold LivePolicyState.apply
  split
  · exact .inl ⟨_,rfl⟩
  · unfold apply_to
    cases made : command.patch.apply_to policy.config.live with
    | error rejection => exact .inl ⟨rejection,rfl⟩
    | ok live => exact .inr ⟨live,rfl,rfl⟩

/-- What an accepted patch makes keeps everything frozen and narrows the quota; it is lawful exactly where the host
provides the effects it needs. -/
theorem patched_lawful_iff {live : ResolvedOperationConfig} (lawful : Lawful bootstrap policy.config)
    (made : command.patch.apply_to policy.config.live = .ok live) :
    Frozen policy.config (policy.config.with_live live) ∧ Narrowed policy.config.resource_quota live.resource_quota ∧
    (policy.revision < u64Max → (Lawful bootstrap (policy.config.with_live live) ↔ Provided policy command)) := by
  unfold LivePolicyPatch.apply_to at made
  unfold Provided
  cases patch : command.patch with
  | ReplaceSignalPolicy replacement =>
    rw [patch] at made
    obtain ⟨_,checked,made⟩ := except_bind_ok made
    cases made
    exact ⟨⟨rfl,rfl⟩,.refl _,fun room => iff_of_true { lawful with signal := checked } ⟨room,trivial⟩⟩
  | ReplaceGovernancePolicy replacement =>
    rw [patch] at made
    obtain ⟨_,checked,made⟩ := except_bind_ok made
    cases made
    refine ⟨⟨rfl,rfl⟩,.refl _,fun room => ?_⟩
    have needed := @effects_governance _ _ _ _ _ _ (replacement.replacing policy.config.governance_policy) _ _ lawful.effects
    exact ⟨fun next => ⟨room,needed.mp next.effects⟩,fun provided => { lawful with governance := checked, effects := needed.mpr provided.2 }⟩
  | TightenResourceQuota axes =>
    rw [patch] at made
    obtain ⟨quota,narrowed,made⟩ := except_bind_ok made
    obtain ⟨_,checked,made⟩ := except_bind_ok made
    cases made
    obtain ⟨narrowed,capacity⟩ := tighten_ok narrowed
    obtain ⟨asked,kept⟩ := capacity policy.config.budget_grant
    obtain ⟨declared,needed⟩ := @effects_quota _ _ _ _ quota _ _ _ _ lawful.effects
    refine ⟨⟨rfl,rfl⟩,narrowed,fun room => ⟨fun next => ⟨room,fun stated => needed.mp next.effects (asked stated)⟩,fun provided => ?_⟩⟩
    exact { lawful with quota := checked, effects := needed.mpr fun stated => (kept stated).elim provided.2 declared }
  | ReplaceRecoveryPolicy replacement =>
  rw [patch] at made
  dsimp only at made
  split at made
  · cases made
  obtain ⟨_,checked,made⟩ := except_bind_ok made
  cases made
  exact ⟨⟨rfl,rfl⟩,.refl _,fun room => iff_of_true { lawful with recovery := checked } ⟨room,trivial⟩⟩

private theorem Frozen.trans {config next : ResolvedConfig} (first : Frozen genesis config) (second : Frozen config next) : Frozen genesis next :=
  ⟨second.boot.trans first.boot,second.tail_bounds.trans first.tail_bounds⟩

/-- From a lawful configuration, a patch is sound exactly where it is refused or provided for. -/
theorem sound_iff (lawful : Lawful bootstrap policy.config) (frozen : Frozen genesis policy.config) :
    Sound bootstrap genesis policy command ↔
    ((∃ revision, (policy.apply command).1 = .ok revision) → Provided policy command) := by
  obtain ⟨rejection,refused⟩ | ⟨live,made,applied⟩ := apply_cases policy command
  · rw [refused]
    refine iff_of_true ⟨?_,?_,?_,?_,?_⟩ (fun ⟨_,answered⟩ => by cases answered)
    · exact fun _ _ => by rw [refused]
    · intro revision answered
      rw [refused] at answered
      cases answered
    · rw [refused]
      exact .refl _
    · rw [refused]
      exact frozen
    · rw [refused]
      exact lawful
  obtain ⟨kept,narrowed,needed⟩ := patched_lawful_iff lawful made
  constructor
  · intro sound _
    have counted := sound.accepted (min (policy.revision+1) u64Max) (by rw [applied])
    have next := sound.lawful
    rw [applied] at next
    exact (needed (by omega)).mp next
  intro provided
  have granted := provided ⟨_,congrArg Prod.fst applied⟩
  refine ⟨?_,?_,?_,?_,?_⟩
  · intro rejection answered
    rw [applied] at answered
    cases answered
  · intro revision answered
    rw [applied] at answered ⊢
    cases answered
    exact ⟨Nat.min_eq_left granted.1,rfl⟩
  · rw [applied]
    exact narrowed
  · rw [applied]
    exact frozen.trans kept
  · rw [applied]
    exact (needed granted.1).mpr granted

/-- A patch of the full configuration is one of what the loop reads of it. -/
theorem apply_live (policy : LivePolicyState) (command : ApplyPolicyPatchCommand) :
    Policies.LivePolicyState.apply ⟨policy.revision,policy.config.live⟩ command =
      (policy.apply command).1.map fun revision => ⟨revision,(policy.apply command).2.config.live⟩ := by
  have same_rules {live : ResolvedOperationConfig} (made : command.patch.apply_to policy.config.live = .ok live) :
      (policy.config.with_live live).live = live := by
    have kept : live.governance_rules = policy.config.live.governance_rules := by
      unfold LivePolicyPatch.apply_to at made
      cases patch : command.patch with
      | ReplaceRecoveryPolicy replacement =>
        rw [patch] at made
        dsimp only at made
        split at made
        · cases made
        obtain ⟨_,_,made⟩ := except_bind_ok made
        cases made
        rfl
      | TightenResourceQuota axes =>
        rw [patch] at made
        obtain ⟨_,_,made⟩ := except_bind_ok made
        obtain ⟨_,_,made⟩ := except_bind_ok made
        cases made
        rfl
      | _ =>
      rw [patch] at made
      obtain ⟨_,_,made⟩ := except_bind_ok made
      cases made
      rfl
    obtain ⟨signal,governance,quota,recovery,rules⟩ := live
    cases kept
    rfl
  unfold Policies.LivePolicyState.apply LivePolicyState.apply apply_to
  dsimp only
  by_cases current : command.expected_revision = policy.revision
  · rw [if_neg (not_not_intro current),if_neg (not_not_intro current)]
    cases made : command.patch.apply_to policy.config.live with
    | error rejection => rfl
    | ok live =>
    show Except.ok (⟨_,live⟩ : Policies.LivePolicyState) = Except.ok ⟨_,(policy.config.with_live live).live⟩
    rw [same_rules made]
  · rw [if_pos current,if_pos current]
    rfl

/-! Runs. -/

/-- Every command of a run, in the state in which it is applied. -/
def Along (holds : LivePolicyState → ApplyPolicyPatchCommand → Prop) : LivePolicyState → List ApplyPolicyPatchCommand → Prop
  | _,[] => True
  | policy,command :: rest => holds policy command ∧ Along holds (policy.apply command).2 rest

private theorem along_iff {holds needs : LivePolicyState → ApplyPolicyPatchCommand → Prop} {keeps : LivePolicyState → Prop}
    (same : ∀ policy command, keeps policy → (holds policy command ↔ needs policy command))
    (preserved : ∀ policy command, keeps policy → holds policy command → keeps (policy.apply command).2)
    {policy : LivePolicyState} (kept : keeps policy) (commands : List ApplyPolicyPatchCommand) :
    Along holds policy commands ↔ Along needs policy commands := by
  induction commands generalizing policy with
  | nil => exact Iff.rfl
  | cons command rest ih =>
  constructor
  · rintro ⟨held,later⟩
    exact ⟨(same policy command kept).mp held,(ih (preserved policy command kept held)).mp later⟩
  · rintro ⟨needed,later⟩
    have held := (same policy command kept).mpr needed
    exact ⟨held,(ih (preserved policy command kept held)).mpr later⟩

/-- From every accepted configuration and through every sequence of patches, all patches are sound exactly where each
accepted one is provided for. -/
theorem patches_upheld_iff {config : OperationConfig} {defaults : ConfigDefaults}
    (resolved : resolve_operation_config config defaults = .ok genesis)
    (commands : List ApplyPolicyPatchCommand) :
    Along (Sound defaults.bootstrap_limits genesis) (.new genesis) commands ↔
      Along (fun policy command => (∃ revision, (policy.apply command).1 = .ok revision) → Provided policy command)
      (.new genesis) commands := by
  have lawful : Lawful defaults.bootstrap_limits (LivePolicyState.new genesis).config := resolve_lawful resolved
  refine along_iff (fun policy command (kept : Lawful defaults.bootstrap_limits policy.config ∧ Frozen genesis policy.config) => sound_iff kept.1 kept.2)
    (fun _ _ _ sound => ⟨sound.lawful,sound.frozen⟩) ⟨lawful,rfl,rfl⟩ commands

section

/-- A host that declares some effects, and nothing else. -/
def hosting (support : List EffectKindTag) : OperationConfig :=
  ⟨none,none,none,none,none,none,none,none,none,none,none,none,[],[],[],none,support⟩

def hosted (support : List EffectKindTag) : ResolvedConfig :=
  { (ConfigDefaults.new .DEFAULT).baseline with host_effect_support := support }

/-- The calls of one tool go to the user. -/
def ask_deploy : ApplyPolicyPatchCommand := ⟨0,.ReplaceGovernancePolicy ⟨none,[⟨"deploy",.AskUser⟩],[],[],[],none⟩⟩

/-- The first cap on the children is stated live. -/
def cap_children : ApplyPolicyPatchCommand := ⟨1,.TightenResourceQuota ⟨none,some 8,none,none⟩⟩

/-- A host that can ask for approval takes a patch that needs it. -/
theorem patches_upheld_approving : Along (Sound .DEFAULT (hosted [.CallProvider,.RequestApproval]))
    (.new (hosted [.CallProvider,.RequestApproval]))
    [ask_deploy] := by
  have resolved : resolve_operation_config (hosting [.CallProvider,.RequestApproval]) (.new .DEFAULT) =
    .ok (hosted [.CallProvider,.RequestApproval]) := by
    decide +kernel
  refine (patches_upheld_iff resolved [ask_deploy]).mpr ⟨fun _ => ⟨by decide,fun _ => by decide⟩,trivial⟩

/-- The host declares neither approvals nor launches; both patches are accepted, and neither configuration would have been at boot. -/
theorem patches_escape_boot_rules :
    resolve_operation_config (hosting [.CallProvider]) (.new .DEFAULT) = .ok (hosted [.CallProvider]) ∧
    ((LivePolicyState.new (hosted [.CallProvider])).apply ask_deploy).1 = .ok 1 ∧
    (((LivePolicyState.new (hosted [.CallProvider])).apply ask_deploy).2.apply cap_children).1 = .ok 2 ∧
    ¬Lawful .DEFAULT ((LivePolicyState.new (hosted [.CallProvider])).apply ask_deploy).2.config ∧
    ¬Along (Sound .DEFAULT (hosted [.CallProvider])) (.new (hosted [.CallProvider])) [ask_deploy] ∧
    (resolve_operation_config { hosting [.CallProvider] with governance_policy := some ⟨none,[⟨"deploy",.AskUser⟩],[],[],[],none⟩ }
      (.new .DEFAULT)).toOption = none := by
  have unlawful : ¬Lawful .DEFAULT ((LivePolicyState.new (hosted [.CallProvider])).apply ask_deploy).2.config :=
    fun lawful => absurd lawful.effects (by decide +kernel)
  exact ⟨by decide +kernel,by decide +kernel,by decide +kernel,unlawful,fun sound => unlawful sound.1.lawful,by decide +kernel⟩

end

end Deepstrike.Configuring

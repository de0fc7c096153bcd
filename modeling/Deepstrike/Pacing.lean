import Mathlib.Logic.Relation
import Deepstrike.SlidingWindows
import Deepstrike.Patching

/-!
The pace of memory writes. Where the quota admits anything at all, the gate keeps it: no window of the
configured length holds more writes than the maximum, a write is refused only if it would be one too many,
and the wait a refusal names is exact. A maximum of zero refuses every write and still names a wait.
-/
namespace Deepstrike.Policies
open List Operation LoopPolicies
open Wire (ResourceQuota Json)
open Driver (core_quota)
open Governance Signals Heaps Vocabulary SlidingWindows

variable {P : Type} (refusal : ParamConstraint → Json → Option String) (heap : BinaryHeap (priority (P := P)))

/-- What happens to an operation other than a memory write. -/
inductive Aside (genesis : ResolvedOperationConfig) : Operation P → Operation P → Prop where
  | patched {operation after : Operation P} {command : ApplyPolicyPatchCommand} :
    operation.plan_policy_patch command = .ok after → Aside genesis operation after
  | used (operation : Operation P) {use : LoopPolicies.Use P} : (∀ now_ms, use ≠ .WriteMemory now_ms) →
    Aside genesis operation { operation with engine := (operation.engine.use refusal heap use).2 }
  | restored {operation after : Operation P} :
    restore_logical_state heap genesis (operation.project_logical_state heap) = .ok after → Aside genesis operation after

/-- A memory write and what the gate answered. -/
structure GatedWrite where
  now_ms : Nat
  disposition : Disposition

/-- The instants of the writes that went through. -/
def admitted (writes : List GatedWrite) : List Nat :=
  (writes.filter fun write => decide (write.disposition = .Allow)).map GatedWrite.now_ms

def Operation.write_memory (operation : Operation P) (now_ms : Nat) : Operation P :=
  { operation with engine := (operation.engine.evaluate_memory_write_quota now_ms).2 }

/-- The runs of an operation, the last instant at which it wrote, and its writes. The clock of the writes does not turn back. -/
inductive Writing (genesis : ResolvedOperationConfig) : Operation P → Nat → List GatedWrite → Prop where
  | configured : Writing genesis (.configure genesis) 0 []
  | aside {operation after : Operation P} {now : Nat} {writes : List GatedWrite} : Writing genesis operation now writes →
    Aside refusal heap genesis operation after → Writing genesis after now writes
  | wrote {operation : Operation P} {now : Nat} {writes : List GatedWrite} {later : Nat} : Writing genesis operation
    now writes → now ≤ later →
    Writing genesis (operation.write_memory later) later (writes ++ [⟨later,(operation.engine.evaluate_memory_write_quota later).1⟩])

/-- The limiter is exact: in every run no window holds more admitted writes than the maximum, a refused write is one that would
exceed it, and the write is admitted again from the end of the wait it was given on, and not before. -/
def Paced (genesis : ResolvedOperationConfig) (max window : Nat) : Prop :=
  ∀ {operation : Operation P} {now writes}, Writing refusal heap genesis operation now writes →
    (∀ start, within window start (admitted writes) ≤ max) ∧
    ∀ later, now ≤ later → (operation.engine.evaluate_memory_write_quota later).1 ≠ .Allow →
      (∃ start, start ≤ later ∧ later < start+window ∧ max < within window start (admitted writes ++ [later])) ∧
      ∃ retry_after_ms, (operation.engine.evaluate_memory_write_quota later).1 = .RateLimited retry_after_ms ∧
        ∀ retried, Relation.ReflTransGen (Aside refusal heap genesis) (operation.write_memory later) retried → ∀ again, later ≤ again →
          ((retried.engine.evaluate_memory_write_quota again).1 = .Allow ↔ later+retry_after_ms ≤ again)

variable {refusal heap} {genesis : ResolvedOperationConfig} {operation after : Operation P}

/-! The quota of the writes is never patched. -/

/-- The window of the writes is the configured one, in the configuration and in the loop. -/
structure Configured (max window : Nat) (operation : Operation P) : Prop where
  config : operation.policy.config.resource_quota.memory_writes_per_window = some (max,window)
  engine : operation.engine.resource_quota.bind ResourceQuota.memory_writes_per_window = some (max,window)

variable {max window : Nat}

private theorem install_writes_window {config : ResolvedOperationConfig}
    (declared : config.resource_quota.memory_writes_per_window = some (max,window))
    (engine : LoopPolicies P) :
    (install_live_policies config engine).resource_quota.bind ResourceQuota.memory_writes_per_window =
    some (max,window) := by
  have installed : core_quota config.resource_quota = some config.resource_quota := by
    refine if_neg fun undeclared => ?_
    rw [undeclared] at declared
    cases declared
  show ((core_quota config.resource_quota).or engine.resource_quota).bind _ = _
  rw [installed]
  exact declared

theorem Configured.configure (declared : genesis.resource_quota.memory_writes_per_window = some (max,window)) :
    Configured max window (.configure (P := P) genesis) := ⟨declared,install_writes_window declared _⟩

private theorem tighten_writes {patch : TightenResourceQuota} {current next : ResourceQuota} (ran : patch.tighten current = .ok next) :
    next.memory_writes_per_window = current.memory_writes_per_window := by
  unfold TightenResourceQuota.tighten at ran
  obtain ⟨_,_,ran⟩ := except_bind_ok ran
  obtain ⟨_,_,ran⟩ := except_bind_ok ran
  obtain ⟨_,_,ran⟩ := except_bind_ok ran
  obtain ⟨_,_,ran⟩ := except_bind_ok ran
  cases ran
  rfl

private theorem apply_to_writes {patch : LivePolicyPatch} {current next : ResolvedOperationConfig} (ran : patch.apply_to current = .ok next) :
    next.resource_quota.memory_writes_per_window = current.resource_quota.memory_writes_per_window := by
  unfold LivePolicyPatch.apply_to at ran
  cases patch with
  | ReplaceSignalPolicy policy =>
    obtain ⟨_,_,ran⟩ := except_bind_ok ran
    cases ran
    rfl
  | ReplaceGovernancePolicy policy =>
    obtain ⟨_,_,ran⟩ := except_bind_ok ran
    cases ran
    rfl
  | TightenResourceQuota patch =>
    obtain ⟨quota,tightened,ran⟩ := except_bind_ok ran
    obtain ⟨_,_,ran⟩ := except_bind_ok ran
    cases ran
    exact tighten_writes tightened
  | ReplaceRecoveryPolicy policy =>
  dsimp only at ran
  split at ran
  · cases ran
  obtain ⟨_,_,ran⟩ := except_bind_ok ran
  cases ran
  rfl

/-- What is not a write leaves the window and what it holds alone. -/
theorem Aside.keeps (aside : Aside refusal heap genesis operation after)
    (configured : Configured max window operation) :
    Configured max window after ∧ after.engine.memory_write_times = operation.engine.memory_write_times := by
  cases aside with
  | patched ran =>
    obtain ⟨applied,installed⟩ := plan_policy_patch_ok ran
    have declared := (apply_to_writes applied).trans configured.config
    rw [installed]
    refine ⟨⟨declared,?_⟩,rfl⟩
    rw [installed]
    exact install_writes_window declared _
  | @used use other =>
    cases use with
    | ObserveTime now_ms => exact ⟨⟨configured.config,configured.engine⟩,rfl⟩
    | WriteMemory now_ms => exact absurd rfl (other now_ms)
    | Route op => exact ⟨⟨configured.config,configured.engine⟩,rfl⟩
    | Invoke call =>
    have quiet : (operation.engine.evaluate_invoke refusal call).2.resource_quota = operation.engine.resource_quota ∧
        (operation.engine.evaluate_invoke refusal call).2.memory_write_times = operation.engine.memory_write_times := by
      unfold evaluate_invoke
      split <;> exact ⟨rfl,rfl⟩
    refine ⟨⟨configured.config,?_⟩,quiet.2⟩
    show (operation.engine.evaluate_invoke refusal call).2.resource_quota.bind _ = _
    rw [quiet.1]
    exact configured.engine
  | restored ran =>
  unfold restore_logical_state at ran
  obtain ⟨_,_,ran⟩ := except_bind_ok ran
  cases ran
  exact ⟨⟨configured.config,install_writes_window configured.config _⟩,rfl⟩

private theorem Aside.keep {retried : Operation P} (asides : Relation.ReflTransGen (Aside refusal heap genesis) operation retried)
    (configured : Configured max window operation) :
    Configured max window retried ∧ retried.engine.memory_write_times = operation.engine.memory_write_times := by
  induction asides with
  | refl => exact ⟨configured,rfl⟩
  | tail _ aside ih =>
  obtain ⟨configured,same⟩ := aside.keeps ih.1
  exact ⟨configured,same.trans ih.2⟩

/-! The gate is a sliding window. -/

variable {now : Nat} {writes : List GatedWrite}

/-- The answer of the gate and what it keeps, as long as the clock has not turned back and the count fits its width. -/
theorem write_memory_gate (configured : Configured max window operation)
    (past : ∀ time ∈ operation.engine.memory_write_times, time ≤ now)
    (counted : (live window now operation.engine.memory_write_times).length < 2 ^ 32) :
    operation.engine.evaluate_memory_write_quota now =
      let recent := live window now operation.engine.memory_write_times
      if max ≤ recent.length then (.RateLimited (recent.headD now+window-now),{ operation.engine with memory_write_times := recent })
      else (.Allow,{ operation.engine with memory_write_times := recent ++ [now] }) := by
  have same : (operation.engine.memory_write_times.filter fun time => decide (now-time < window)) =
      live window now operation.engine.memory_write_times := by
    refine filter_congr fun time kept => ?_
    have := past time kept
    rw [decide_eq_decide]
    omega
  unfold evaluate_memory_write_quota
  simp only [configured.engine,same,Nat.mod_eq_of_lt counted]
  split
  next full =>
    -- The oldest one kept is no later than the present, and the two ways to count the wait agree.
    suffices wait : window-(now-(live window now operation.engine.memory_write_times).headD now) =
        (live window now operation.engine.memory_write_times).headD now+window-now by rw [wait]
    cases kept : live window now operation.engine.memory_write_times with
    | nil =>
      simp only [headD_nil]
      omega
    | cons oldest rest =>
    obtain ⟨listed,unpassed⟩ := mem_live.mp (kept ▸ mem_cons_self : oldest ∈ live window now operation.engine.memory_write_times)
    have := past oldest listed
    simp only [headD_cons]
    omega
  next => rfl

private theorem admitted_snoc (writes : List GatedWrite) (now : Nat) (disposition : Disposition) :
    admitted (writes ++ [⟨now,disposition⟩]) = admitted writes ++ if disposition = .Allow then [now] else [] := by
  unfold admitted
  rw [filter_append,map_append]
  by_cases allowed : disposition = .Allow <;> simp [allowed]

theorem Writing.remembers (writing : Writing refusal heap genesis operation now writes)
    (declared : genesis.resource_quota.memory_writes_per_window = some (max,window)) (range : max < 2 ^ 32) :
    Configured max window operation ∧
    Remembers max window now (admitted writes) operation.engine.memory_write_times := by
  induction writing with
  | configured => exact ⟨.configure declared,.nothing max window⟩
  | aside _ aside ih =>
    obtain ⟨configured,remembers⟩ := ih
    obtain ⟨configured,same⟩ := aside.keeps configured
    rw [same]
    exact ⟨configured,remembers⟩
  | @wrote operation now writes later _ turned ih =>
  obtain ⟨configured,remembers⟩ := ih
  have gate := write_memory_gate configured (fun time kept => (remembers.past time (remembers.among.subset kept)).trans turned)
    ((remembers.live_length turned).trans_lt range)
  unfold write_memory
  rw [admitted_snoc,gate]
  dsimp only
  split
  next full =>
    refine ⟨⟨configured.config,configured.engine⟩,?_⟩
    rw [if_neg (by simp),append_nil]
    exact remembers.forget turned
  next room => exact ⟨⟨configured.config,configured.engine⟩,remembers.accept turned (Nat.not_le.mp room)⟩

/-- Where something may be written, a refusal is due and its wait is exact. -/
theorem Writing.refused (writing : Writing refusal heap genesis operation now writes)
    (declared : genesis.resource_quota.memory_writes_per_window = some (max,window)) (range : max < 2 ^ 32)
    (positive : 0 < max)
    {later : Nat} (turned : now ≤ later) (refused : (operation.engine.evaluate_memory_write_quota later).1 ≠ .Allow) :
    (∃ start, start ≤ later ∧ later < start+window ∧ max < within window start (admitted writes ++ [later])) ∧
    ∃ retry_after_ms, (operation.engine.evaluate_memory_write_quota later).1 = .RateLimited retry_after_ms ∧
      ∀ retried, Relation.ReflTransGen (Aside refusal heap genesis) (operation.write_memory later) retried →
      ∀ again, later ≤ again →
        ((retried.engine.evaluate_memory_write_quota again).1 = .Allow ↔ later+retry_after_ms ≤ again) := by
  obtain ⟨configured,remembers⟩ := writing.remembers declared range
  have gate := write_memory_gate configured (fun time kept => (remembers.past time (remembers.among.subset kept)).trans turned)
    ((remembers.live_length turned).trans_lt range)
  dsimp only at gate
  by_cases full : max ≤ (live window later operation.engine.memory_write_times).length
  · rw [if_pos full] at gate
    refine ⟨remembers.refusal_due turned positive full,_,congrArg Prod.fst gate,fun retried asides again waited => ?_⟩
    have kept : (operation.write_memory later).engine.memory_write_times = live window later operation.engine.memory_write_times := by
      unfold write_memory
      rw [gate]
    have configured_later : Configured max window (operation.write_memory later) := by
      refine ⟨configured.config,?_⟩
      unfold write_memory
      rw [gate]
      exact configured.engine
    obtain ⟨configured_again,same⟩ := Aside.keep asides configured_later
    have forgot := remembers.forget turned
    rw [kept] at same
    rw [← same] at forgot
    have gate_again := write_memory_gate configured_again
      (fun time held => (forgot.past time (forgot.among.subset held)).trans waited) ((forgot.live_length waited).trans_lt range)
    have room := remembers.room_iff turned positive full again
    have unpassed : later ≤ (live window later operation.engine.memory_write_times).headD later+window := by
      cases held : live window later operation.engine.memory_write_times with
      | nil => exact Nat.le_add_right ..
      | cons oldest rest => exact (mem_live.mp (held ▸ mem_cons_self : oldest ∈ live window later operation.engine.memory_write_times)).2.le
    rw [gate_again,same,Nat.add_sub_cancel' unpassed,← room]
    dsimp only
    split
    next full_again => exact iff_of_false (by simp) (Nat.not_lt.mpr full_again)
    next room_again => exact iff_of_true rfl (Nat.not_le.mp room_again)
  · rw [if_neg full] at gate
    rw [gate] at refused
    exact absurd rfl refused

/-- The gate paces the writes exactly where it admits any. -/
theorem memory_writes_paced_iff (declared : genesis.resource_quota.memory_writes_per_window = some (max,window))
    (range : max < 2 ^ 32) :
    Paced refusal heap genesis max window ↔ 0 < max := by
  constructor
  · intro paced
    by_contra none
    obtain rfl : max = 0 := by omega
    -- The first write is refused, and so is the one at the end of its wait.
    have configured : Configured 0 window (.configure (P := P) genesis) := .configure declared
    have refused (stamps : LoopPolicies P) (limit : stamps.resource_quota.bind ResourceQuota.memory_writes_per_window = some (0,window)) (now : Nat) :
        (stamps.evaluate_memory_write_quota now).1 ≠ .Allow := by
      unfold evaluate_memory_write_quota
      simp [limit]
    obtain ⟨_,retry,_,exact_wait⟩ := (paced .configured).2 0 (Nat.zero_le 0) (refused _ configured.engine 0)
    refine refused _ ?_ retry ((exact_wait _ .refl retry (Nat.zero_le _)).mpr (Nat.zero_add retry).le)
    unfold write_memory evaluate_memory_write_quota
    simp only [configured.engine,Nat.zero_le,if_true]
  · intro positive operation now writes writing
    exact ⟨(writing.remembers declared range).2.bounded,fun later turned refused => writing.refused declared range positive turned refused⟩

section

/-- A quota on the writes of a minute. -/
def metered (max : Nat) : ResolvedOperationConfig :=
  { guarded with resource_quota := { ResourceQuota.default with memory_writes_per_window := some (max,60000) } }

/-- Two writes a minute. -/
theorem memory_writes_paced_two : Paced (fun _ _ => none) (sorted (priority (P := Unit))) (metered 2) 2 60000 :=
  (memory_writes_paced_iff rfl (by decide)).mpr (by decide)

/-- The quota is valid, the first write is told to come back in a minute, and then it is told so again. -/
theorem memory_writes_zero_refused : validate_quota (metered 0).resource_quota = .ok () ∧
    ((configure (P := Unit) (metered 0)).engine.evaluate_memory_write_quota 0).1 = .RateLimited 60000 ∧
    (((configure (P := Unit) (metered 0)).write_memory 0).engine.evaluate_memory_write_quota 60000).1 =
    .RateLimited 60000 ∧
    ¬Paced (fun _ _ => none) (sorted (priority (P := Unit))) (metered 0) 0 60000 := by
  refine ⟨by decide,by decide,by decide,fun paced => ?_⟩
  obtain ⟨_,retry,named,exact_wait⟩ := (paced .configured).2 0 (Nat.zero_le 0) (by decide)
  obtain rfl : retry = 60000 := by simpa using named.symm.trans (by decide : _ = Disposition.RateLimited 60000)
  exact absurd ((exact_wait _ .refl 60000 (Nat.zero_le _)).mpr (by decide)) (by decide)

end

end Deepstrike.Policies

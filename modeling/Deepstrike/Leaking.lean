import Deepstrike.Settling

/-!
What a spawn leaves behind when its child cannot be created. The gate has taken the reservation by then,
and nothing puts it back: the pool is as it was only where nothing was asked of it.
-/
namespace Deepstrike.Scheduler
open Wire Tasks

/-- The pool of the parent, the counters of the spawns and the limits on them are as they were. -/
structure Untouched (parent : TaskId) (before after : Engine) : Prop where
  pool : (after.tasks.get parent).bind Tcb.child_budget_remaining = (before.tasks.get parent).bind Tcb.child_budget_remaining
  running : after.tasks.running = before.tasks.running
  spawned : after.tasks.spawned = before.tasks.spawned
  resource_quota : after.resource_quota = before.resource_quota
  budget_grant : after.budget_grant = before.budget_grant

private theorem budget_ext {left right : ResourceBudget} (same : ∀ axis, left.amount axis = right.amount axis) : left = right := by
  obtain ⟨amount,_⟩ := left
  obtain ⟨other,_⟩ := right
  obtain rfl : amount = other := funext same
  rfl

/-- Nothing is taken from a pool exactly where nothing is asked on an axis that it tracks. -/
theorem debit_same_iff {remaining requested : ResourceBudget}
    (fits : ∀ axis, exceeded remaining requested axis = none) :
    debit remaining requested = remaining ↔
      ∀ axis asked left, requested.amount axis = some asked → remaining.amount axis = some left → asked = 0 := by
  have amounts (axis : Axis) : (debit remaining requested).amount axis = remaining.amount axis ↔
      ∀ asked left, requested.amount axis = some asked → remaining.amount axis = some left → asked = 0 := by
    have fit := fits axis
    unfold exceeded at fit
    unfold debit
    dsimp only
    cases want : requested.amount axis with
    | none => simp
    | some asked =>
    cases has : remaining.amount axis with
    | none => simp
    | some left =>
    rw [want,has] at fit
    dsimp only at fit
    split at fit
    · cases fit
    next enough =>
    simp only [Option.some.injEq]
    constructor
    · rintro kept _ _ rfl rfl
      omega
    · intro nothing
      have := nothing asked left rfl rfl
      omega
  constructor
  · intro same axis
    exact (amounts axis).mp (by rw [same])
  · intro nothing
    exact budget_ext fun axis => (amounts axis).mpr (nothing axis)

namespace TaskTable

private theorem debited_running (table : TaskTable) (parent_id : TaskId) (remaining requested : ResourceBudget) :
    (table.debited parent_id remaining requested).running = table.running ∧
    (table.debited parent_id remaining requested).spawned = table.spawned := by
  unfold running spawned debited modify
  rw [List.filter_map,List.length_map,List.filter_map,List.length_map]
  constructor
  · congr 1
    refine List.filter_congr fun task _ => ?_
    simp only [Function.comp]
    split <;> rfl
  · congr 1
    refine List.filter_congr fun task _ => ?_
    simp only [Function.comp]
    split <;> rfl

end TaskTable

namespace Engine

private theorem rejected_launch {engine : Engine} {caller : Option TaskId} {manifest : IsolationManifest} {parent : TaskId} {error : TaskSpawnError}
    (named : caller.or engine.tasks.root_id = some parent) (failed : engine.tasks.spawn_child parent manifest .PendingLaunch = .error error) :
    (engine.launch caller manifest).tasks = engine.tasks ∧ (engine.launch caller manifest).resource_quota = engine.resource_quota ∧
      (engine.launch caller manifest).budget_grant = engine.budget_grant := by
  unfold launch
  rw [named]
  dsimp only
  rw [failed]
  exact ⟨rfl,rfl,rfl⟩

/-- A spawn that passes the gate and creates no child leaves its parent untouched exactly where it asked nothing of the pool. -/
theorem rejected_spawn_untouched_iff {engine gated : Engine} {caller : Option TaskId} {manifest : IsolationManifest}
    {parent : TaskId}
    {error : TaskSpawnError} (passed : engine.evaluate_spawn_quota_inner true caller manifest = (.Allow,gated))
    (named : caller.or engine.tasks.root_id = some parent)
    (failed : gated.tasks.spawn_child parent manifest .PendingLaunch = .error error) :
    Untouched parent engine (engine.spawn caller manifest) ↔
      ∀ requested pool, manifest.requested_budget = some requested →
      (engine.tasks.get parent).bind Tcb.child_budget_remaining = some pool →
        ∀ axis asked left, requested.amount axis = some asked → pool.amount axis = some left → asked = 0 := by
  have spawned : engine.spawn caller manifest = gated.launch caller manifest := by
    unfold spawn
    rw [passed]
  have rooted : gated.tasks.root_id = engine.tasks.root_id := by
    have kept := engine.evaluate_spawn_quota_inner_authority true caller manifest
    rw [passed] at kept
    exact root_id_congr kept
  have gated_named : caller.or gated.tasks.root_id = some parent := by
    rw [rooted]
    exact named
  obtain ⟨tasks,quota,grant⟩ := rejected_launch gated_named failed
  obtain ⟨_,allowed⟩ := evaluate_spawn_quota_inner_allow passed
  rw [spawned]
  obtain ⟨rfl,unfunded⟩ | ⟨requested,parent_id,holder,remaining,asked,caller_id,found,pool,fits,rfl⟩ := budget_verdict_allow allowed
  · refine iff_of_true ⟨by rw [tasks],by rw [tasks],by rw [tasks],quota,grant⟩ fun requested pool asked held => ?_
    rw [named] at unfunded
    obtain none_asked | none_held := unfunded
    · rw [none_asked] at asked
      cases asked
    · exact absurd (none_held.symm.trans held) nofun
  obtain rfl : parent_id = parent := Option.some.inj (caller_id.symm.trans named)
  obtain ⟨_,identity⟩ := TaskTable.get_some found
  have counters := engine.tasks.debited_running parent_id remaining requested
  have before : (engine.tasks.get parent_id).bind Tcb.child_budget_remaining = some remaining := by
    rw [found]
    exact pool
  have after : ((engine.tasks.debited parent_id remaining requested).get parent_id).bind Tcb.child_budget_remaining =
      some (debit remaining requested) := by
    rw [TaskTable.get_debited,found,Option.map_some,if_pos identity,Option.bind_some]
  have same := debit_same_iff fits
  constructor
  · intro untouched wanted held want has
    cases asked.symm.trans want
    cases before.symm.trans has
    have unchanged := untouched.pool
    rw [tasks,before] at unchanged
    exact same.mp (Option.some.inj (after.symm.trans unchanged))
  intro nothing
  refine ⟨?_,?_,?_,quota,grant⟩
  · rw [tasks,before]
    exact after.trans (congrArg some (same.mpr (nothing requested remaining asked before)))
  · rw [tasks]
    exact counters.1
  · rw [tasks]
    exact counters.2

/-- The hundred tokens with a child that has taken ten of them. -/
def lending_ten : Engine := with_hundred_tokens.spawn none (.asking "a" (some 10))

/-- A second child of one name that asks for nothing. -/
theorem rejected_spawn_untouched_unfunded :
    (lending_ten.evaluate_spawn_quota_inner true none (.asking "a" none)).1 = .Allow ∧
    Untouched "root" lending_ten (lending_ten.spawn none (.asking "a" none)) := by
  refine ⟨by decide +kernel,?_⟩
  have passed : lending_ten.evaluate_spawn_quota_inner true none (.asking "a" none) = (.Allow,_) := rfl
  exact (rejected_spawn_untouched_iff passed rfl rfl).mpr fun _ _ asked => absurd asked nofun

/-- A second child of one name is not created, and its thirty tokens are gone. -/
theorem duplicate_spawn_debits : (lending_ten.evaluate_spawn_quota_inner true none (.asking "a" (some 30))).1 = .Allow ∧
    (lending_ten.evaluate_spawn_quota_inner true none (.asking "a" (some 30))).2.tasks.spawn_child "root"
    (.asking "a" (some 30)) .PendingLaunch =
      .error .DuplicateTask ∧
    ((lending_ten.tasks.get "root").bind Tcb.child_budget_remaining).bind (fun pool => pool.amount .tokens) = some 90 ∧
    (((lending_ten.spawn none (.asking "a" (some 30))).tasks.get "root").bind Tcb.child_budget_remaining).bind
      (fun pool => pool.amount .tokens) = some 60 ∧
    ¬Untouched "root" lending_ten (lending_ten.spawn none (.asking "a" (some 30))) := by
  have before : ((lending_ten.tasks.get "root").bind Tcb.child_budget_remaining).bind (fun pool => pool.amount .tokens) = some 90 := by decide +kernel
  have after : (((lending_ten.spawn none (.asking "a" (some 30))).tasks.get "root").bind Tcb.child_budget_remaining).bind
      (fun pool => pool.amount .tokens) = some 60 := by decide +kernel
  refine ⟨by decide +kernel,rfl,before,after,fun untouched => ?_⟩
  rw [untouched.pool,before] at after
  cases after

end Engine
end Deepstrike.Scheduler

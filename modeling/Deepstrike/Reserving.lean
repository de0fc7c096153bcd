import Deepstrike.Delegating
import Deepstrike.Lending

/-!
The budgets of a task table as accounts, axis by axis: a spawn lends out of the caller's pool, a join spends,
a settlement closes the loan of a child and repays its parent.
-/
namespace Deepstrike.Scheduler
open Wire Ledgers Tcb TaskTable List ResourceBudget
open Tasks (TaskLifecycle)
open Vocabulary (Disposition)

def ResourceBudget.on (axis : Axis) (budget : Option ResourceBudget) : Option Nat := budget.bind fun budget => budget.amount axis

/-- What a task may still hand to its children. -/
def Tcb.pool (axis : Axis) (task : Tcb) : Option Nat := on axis task.child_budget_remaining
/-- What the process of a task reported it used. -/
def Tcb.usage (axis : Axis) (task : Tcb) : Nat := (on axis (task.result.map Usage.budget)).getD 0

/-- What bounds a task: its reservation, and for the root the pool of the operation. -/
def Tcb.allowance (seed : Option ResourceBudget) (axis : Axis) (task : Tcb) : Option Nat :=
  match task.budget_grant with
  | some grant => grant.reserved.amount axis
  | none => if task.parent.isNone then on axis seed else none

/-- A task as an account. A task without a reservation has nothing to settle. -/
def Tcb.account (seed : Option ResourceBudget) (axis : Axis) (task : Tcb) : Account TaskId where
  key := task.id
  parent := task.parent
  left := task.pool axis
  granted := task.allowance seed axis
  returned := (on axis (task.budget_grant.map BudgetGrant.returned)).getD 0
  settled := (task.budget_grant.map BudgetGrant.settled).getD true
  consumed := (on axis (task.budget_grant.map BudgetGrant.consumed)).getD 0
  own := if task.budget_grant.isSome then task.usage axis else 0

/-- A reservation is of the process that holds it, from its parent. -/
def Tcb.Reserved (task : Tcb) : Prop := ∀ grant, task.budget_grant = some grant → task.parent = some grant.parent ∧ task.proc = true

namespace TaskTable

variable (seed : Option ResourceBudget)

def accounts (axis : Axis) (table : TaskTable) : List (Account TaskId) := table.map (Tcb.account seed axis)

theorem accounts_keys (axis : Axis) (table : TaskTable) :
    (table.accounts seed axis).map Account.key = table.map Tcb.id := by
  simp [accounts,Function.comp_def,account]

theorem accounts_append (axis : Axis) (table : TaskTable) (task : Tcb) :
    accounts seed axis (table ++ [task]) = table.accounts seed axis ++ [task.account seed axis] := by
  simp [accounts]

variable {table : TaskTable} {id : TaskId} {edit : Tcb → Tcb}

theorem accounts_modify {seed : Option ResourceBudget} {axis : Axis}
    {rewrite : Account TaskId → Account TaskId}
    (same : ∀ task ∈ table, task.id = id → (edit task).account seed axis = rewrite (task.account seed axis)) :
    (table.modify id edit).accounts seed axis = change (table.accounts seed axis) id rewrite := by
  rw [accounts,modify,map_map,change,accounts,map_map]
  refine map_congr_left fun task member => ?_
  simp only [Function.comp]
  by_cases named : task.id = id
  · rw [if_pos named,if_pos (show (task.account seed axis).key = id from named)]
    exact same task member named
  · rw [if_neg named,if_neg (show (task.account seed axis).key ≠ id from named)]

theorem accounts_kept {seed : Option ResourceBudget} {axis : Axis}
    (same : ∀ task ∈ table, task.id = id → (edit task).account seed axis = task.account seed axis) :
    (table.modify id edit).accounts seed axis = table.accounts seed axis := by
  rw [accounts,modify,map_map]
  refine map_congr_left fun task member => ?_
  simp only [Function.comp]
  split
  next named => exact same task member named
  next => rfl

end TaskTable

theorem TaskTable.get_modify {table : TaskTable} {id : TaskId} {edit : Tcb → Tcb}
    (kept : ∀ task, (edit task).id = task.id) (sought : TaskId) :
    (table.modify id edit).get sought = (table.get sought).map fun task => if task.id = id then edit task
    else task := by
  have named : ∀ task : Tcb, (if task.id = id then edit task else task).id = task.id := by
    intro task
    split
    · exact kept task
    · rfl
  simp only [get,modify,find?_map]
  congr 2
  funext task
  exact congrArg (· == sought) (named task)

/-- The table once a reservation has been taken from the pool of a task. -/
def TaskTable.debited (table : TaskTable) (parent_id : TaskId) (remaining requested : ResourceBudget) : TaskTable :=
  table.modify parent_id fun task => { task with child_budget_remaining := some (debit remaining requested) }

theorem TaskTable.get_debited (table : TaskTable) (parent_id : TaskId) (remaining requested : ResourceBudget)
    (sought : TaskId) :
    (table.debited parent_id remaining requested).get sought = (table.get sought).map fun task =>
      if task.id = parent_id then { task with child_budget_remaining := some (debit remaining requested) }
      else task := by
  refine get_modify (fun task => ?_) sought
  rfl

/-- A child with its reservation. -/
def Tcb.funded (manifest : IsolationManifest) (state : TaskLifecycle) (parent : TaskId) (requested : ResourceBudget) : Tcb :=
  { Tcb.spawned_in manifest state parent with
    child_budget_remaining := some requested
    budget_grant := some ⟨parent,manifest.agent_id,requested,.default,.default,false⟩ }

/-- A spawn draws what it asks for on the pool of its caller. -/
structure Draws (table : TaskTable) (caller_id : Option TaskId) (manifest : IsolationManifest) (parent : Tcb)
    (remaining requested : ResourceBudget) : Prop where
  caller : caller_id = some parent.id
  found : table.get parent.id = some parent
  asked : manifest.requested_budget = some requested
  pool : parent.child_budget_remaining = some remaining
  fits : ∀ axis, exceeded remaining requested axis = none

/-- A child with an identity of its own under a live caller, or under the root. -/
structure Hosts (table : TaskTable) (manifest : IsolationManifest) (parent : Tcb) : Prop where
  live : parent.state.is_terminal = false ∨ parent.parent = none
  fresh : table.get manifest.agent_id = none

/-- What a spawn leaves of a table. The gate takes the reservation before the child exists; a child that cannot be
    created leaves it taken. -/
inductive Grown (table : TaskTable) (caller_id : Option TaskId) (manifest : IsolationManifest)
    (state : TaskLifecycle) : TaskTable → Prop where
  | unmoved : Grown table caller_id manifest state table
  | drawn {parent : Tcb} {remaining requested : ResourceBudget} (draws : Draws table caller_id manifest parent remaining requested) :
    Grown table caller_id manifest state (table.debited parent.id remaining requested)
  | funded {parent : Tcb} {remaining requested : ResourceBudget} (draws : Draws table caller_id manifest parent remaining requested)
    (hosts : Hosts table manifest parent) :
    Grown table caller_id manifest state (table.debited parent.id remaining requested ++ [.funded manifest state parent.id requested])
  | bare {parent : Tcb} (caller : caller_id = some parent.id) (found : table.get parent.id = some parent)
    (unfunded : manifest.requested_budget = none ∨ parent.child_budget_remaining = none) (hosts : Hosts table manifest parent) :
    Grown table caller_id manifest state (table ++ [.spawned_in manifest state parent.id])

private theorem TaskTable.debited_ids (table : TaskTable) (parent_id : TaskId) (remaining requested : ResourceBudget) :
    (table.debited parent_id remaining requested).map Tcb.id = table.map Tcb.id := map_modify Tcb.id fun _ => rfl

/-- A reservation goes to the row that has just been added. -/
theorem TaskTable.attach_fresh {table : TaskTable} (child : Tcb) {grant : BudgetGrant}
    (fresh : table.get child.id = none)
    (same : grant.child = child.id) : attach_child_budget_grant (table ++ [child]) child.id grant =
      table ++ [{ child with child_budget_remaining := some grant.reserved, budget_grant := some grant }] := by
  have older : table.modify child.id (fun child => { child with child_budget_remaining := some grant.reserved, budget_grant := some grant }) =
      table := (map_congr_left fun task member => if_neg (get_none fresh task member)).trans (map_id' _)
  rw [attach_child_budget_grant,if_neg (not_not.mpr same),modify,map_append,← modify,older]
  simp

/-- Only a spawn that creates its child adds an identity, and that one is new. -/
theorem Grown.ids {table after : TaskTable} {caller_id : Option TaskId} {manifest : IsolationManifest}
    {state : TaskLifecycle}
    (grown : Grown table caller_id manifest state after) : after.map Tcb.id = table.map Tcb.id ∨
      table.get manifest.agent_id = none ∧ after.map Tcb.id = table.map Tcb.id ++ [manifest.agent_id] := by
  cases grown with
  | unmoved => exact .inl rfl
  | drawn draws => exact .inl (table.debited_ids _ _ _)
  | funded draws hosts =>
    refine .inr ⟨hosts.fresh,?_⟩
    rw [map_append,table.debited_ids]
    rfl
  | bare caller found unfunded hosts => exact .inr ⟨hosts.fresh,map_append⟩

namespace Engine

private theorem reserve_ok {parent child : TaskId} {remaining requested : ResourceBudget} {grant : BudgetGrant}
    (reserved : reserve parent child remaining requested = .ok grant) :
    grant = ⟨parent,child,requested,.default,.default,false⟩ ∧ ∀ axis, exceeded remaining requested axis = none := by
  unfold reserve at reserved
  split at reserved
  · cases reserved
  next fits =>
  cases reserved
  refine ⟨rfl,fun axis => ?_⟩
  refine findSome?_eq_none_iff.mp fits axis ?_
  cases axis <;> decide

variable {manifest : IsolationManifest}

/-- The gate admits without a reservation, or takes one from the pool of the caller. -/
theorem budget_verdict_allow {engine after : Engine} {caller_id : Option TaskId}
    (allowed : engine.budget_verdict caller_id manifest = (.Allow,after)) :
    (after = engine ∧ (manifest.requested_budget = none ∨
    (caller_id.bind engine.tasks.get).bind Tcb.child_budget_remaining = none)) ∨
    ∃ requested parent_id parent remaining, manifest.requested_budget = some requested ∧ caller_id = some parent_id ∧
      engine.tasks.get parent_id = some parent ∧ parent.child_budget_remaining = some remaining ∧
      (∀ axis, exceeded remaining requested axis = none) ∧
      after = { engine with
        tasks := engine.tasks.debited parent_id remaining requested
        pending_budget_grant := some ⟨parent_id,manifest.agent_id,requested,.default,.default,false⟩ } := by
  unfold budget_verdict at allowed
  cases asked : manifest.requested_budget with
  | none =>
    simp only [asked] at allowed
    cases allowed
    exact .inl ⟨rfl,.inl rfl⟩
  | some requested =>
  cases caller_id with
  | none =>
    simp only [asked] at allowed
    cases allowed
    exact .inl ⟨rfl,.inr rfl⟩
  | some parent_id =>
  cases has : ((some parent_id).bind engine.tasks.get).bind child_budget_remaining with
  | none =>
    simp only [asked,has] at allowed
    cases allowed
    exact .inl ⟨rfl,.inr rfl⟩
  | some remaining =>
  simp only [asked,has] at allowed
  split at allowed
  · cases allowed
  next grant reserved =>
  obtain ⟨rfl,fits⟩ := reserve_ok reserved
  obtain ⟨parent,found,pool⟩ := Option.bind_eq_some_iff.mp has
  cases allowed
  exact .inr ⟨requested,parent_id,parent,remaining,rfl,rfl,found,pool,fits,rfl⟩

/-- A launch creates the child under a live caller, with the reservation that is pending. -/
theorem launch_tasks (engine : Engine) (caller : Option TaskId) (manifest : IsolationManifest) :
    (engine.launch caller manifest).tasks = engine.tasks ∨
    ∃ parent_id parent, caller.or engine.tasks.root_id = some parent_id ∧ engine.tasks.get parent_id = some parent ∧
      parent.state.is_terminal = false ∧ engine.tasks.get manifest.agent_id = none ∧
      match engine.pending_budget_grant with
      | none => (engine.launch caller manifest).tasks = engine.tasks ++ [.spawned_in manifest .PendingLaunch parent_id]
      | some grant => grant.child = manifest.agent_id → (engine.launch caller manifest).tasks = engine.tasks ++
          [{ Tcb.spawned_in manifest .PendingLaunch parent_id with child_budget_remaining := some grant.reserved, budget_grant := some grant }] := by
  unfold launch
  split
  · exact .inl rfl
  next parent_id named =>
  split
  · exact .inl rfl
  next tasks spawned =>
  obtain ⟨parent,found,live,fresh,rfl⟩ := spawn_child_ok spawned
  refine .inr ⟨parent_id,parent,named,found,live,fresh,?_⟩
  cases engine.pending_budget_grant with
  | none => rfl
  | some grant => exact fun same => attach_fresh (.spawned_in manifest .PendingLaunch parent_id) fresh same

/-- What the two halves of a spawn leave in the table. -/
theorem spawn_tasks (engine : Engine) (caller : Option TaskId) (manifest : IsolationManifest) :
    Grown engine.tasks (caller.or engine.tasks.root_id) manifest .PendingLaunch
    (engine.spawn caller manifest).tasks := by
  unfold spawn
  cases gate : engine.evaluate_spawn_quota_inner true caller manifest with
  | mk verdict gated =>
  by_cases admitted : verdict = .Allow
  · subst admitted
    have kept := engine.evaluate_spawn_quota_inner_authority true caller manifest
    rw [gate] at kept
    have rooted := root_id_congr kept
    obtain ⟨_,allowed⟩ := evaluate_spawn_quota_inner_allow gate
    have launched := gated.launch_tasks caller manifest
    rw [rooted] at launched
    show Grown _ _ _ _ (gated.launch caller manifest).tasks
    obtain ⟨rfl,unfunded⟩ | ⟨requested,parent_id,parent,remaining,asked,named,found,pool,fits,rfl⟩ := budget_verdict_allow allowed
    · obtain same | ⟨parent_id,parent,named,found,live,fresh,appended⟩ := launched
      · rw [same]
        exact .unmoved
      obtain rfl := (get_some found).2
      rw [appended]
      refine .bare named found (unfunded.imp id fun none_left => ?_) ⟨.inl live,fresh⟩
      rw [named] at none_left
      have pool := Option.bind_eq_none_iff.mp none_left parent found
      exact pool
    obtain rfl := (get_some found).2
    have draws : Draws engine.tasks (caller.or engine.tasks.root_id) manifest parent remaining requested := ⟨named,found,asked,pool,fits⟩
    obtain same | ⟨other_id,other,again,listed,live,fresh,appended⟩ := launched
    · rw [same]
      exact .drawn draws
    obtain rfl : parent.id = other_id := Option.some.inj (named.symm.trans again)
    rw [appended rfl]
    refine .funded draws ⟨.inl ?_,?_⟩
    · have seen := (engine.tasks.get_debited parent.id remaining requested parent.id).symm.trans listed
      obtain ⟨before,first,rfl⟩ := Option.map_eq_some_iff.mp seen
      obtain rfl : before = parent := Option.some.inj (first.symm.trans found)
      split at live <;> exact live
    · have seen := (engine.tasks.get_debited parent.id remaining requested manifest.agent_id).symm.trans fresh
      exact Option.map_eq_none_iff.mp seen
  have same := evaluate_spawn_quota_inner_refused gate admitted
  have refused : Grown engine.tasks (caller.or engine.tasks.root_id) manifest .PendingLaunch gated.tasks := by
    rw [same]
    exact .unmoved
  cases verdict with
  | Allow => exact absurd rfl admitted
  | Deny stage reason => exact refused
  | Gate reason => exact refused
  | RateLimited retry_after_ms => exact refused
  | Defer slot => exact refused

/-- A direct spawn of a new identity grows the table under its root, and lets the root wait. -/
theorem spawn_sub_agent_tasks {engine : Engine} {root : Tcb} (rooted : engine.tasks.root_id = some "root")
    (found : engine.tasks.get "root" = some root)
    (top : root.parent = none) (fresh : engine.tasks.get manifest.agent_id = none) :
    ∃ grown, Grown engine.tasks (some "root") manifest .Running grown ∧
      ((engine.spawn_sub_agent manifest).tasks = grown ∨
      (engine.spawn_sub_agent manifest).tasks = grown.set_state "root" .Suspended) := by
  obtain ⟨_,same⟩ | ⟨gated,gate,_,same⟩ := engine.spawn_sub_agent_cases manifest
  · exact ⟨engine.tasks,.unmoved,.inl same⟩
  have kept := engine.evaluate_spawn_quota_inner_authority false none manifest
  rw [gate] at kept
  have named := root_id_congr kept
  rw [rooted] at named
  have attached : Grown engine.tasks (some "root") manifest .Running
      (match gated.pending_budget_grant with
        | some grant => (gated.tasks.insert (.spawned_in manifest .Running (some "root"))).attach_child_budget_grant manifest.agent_id grant
        | none => gated.tasks.insert (.spawned_in manifest .Running (some "root"))) := by
    obtain ⟨_,allowed⟩ := evaluate_spawn_quota_inner_allow gate
    have own := (get_some found).2
    obtain ⟨rfl,unfunded⟩ | ⟨requested,parent_id,parent,remaining,asked,called,held,pool,fits,rfl⟩ := budget_verdict_allow allowed
    · show Grown _ _ _ _ (engine.tasks.insert (.spawned_in manifest .Running (some "root")))
      rw [insert_fresh fresh,← own]
      refine .bare rfl (own.symm ▸ found) (unfunded.imp id fun none_left => ?_) ⟨.inr top,fresh⟩
      rw [Option.none_or,rooted] at none_left
      have pool := Option.bind_eq_none_iff.mp none_left root found
      exact pool
    obtain rfl : "root" = parent_id := Option.some.inj (rooted.symm.trans called)
    obtain rfl : root = parent := Option.some.inj (found.symm.trans held)
    have absent : (engine.tasks.debited "root" remaining requested).get manifest.agent_id = none := by
      rw [engine.tasks.get_debited,fresh]
      rfl
    have funded : attach_child_budget_grant
        (engine.tasks.debited "root" remaining requested ++ [.spawned_in manifest .Running (some "root")]) manifest.agent_id
        ⟨"root",manifest.agent_id,requested,.default,.default,false⟩ =
        engine.tasks.debited "root" remaining requested ++ [.funded manifest .Running "root" requested] :=
      attach_fresh (.spawned_in manifest .Running (some "root")) absent rfl
    show Grown _ _ _ _ (((engine.tasks.debited "root" remaining requested).insert
      (.spawned_in manifest .Running (some "root"))).attach_child_budget_grant manifest.agent_id _)
    rw [insert_fresh absent,funded,← own]
    exact .funded ⟨rfl,own.symm ▸ found,asked,pool,fits⟩ ⟨.inr top,fresh⟩
  refine ⟨_,attached,.inr ?_⟩
  rw [same,adopt,named]
  have seated : ∀ grown : TaskTable, Grown engine.tasks (some "root") manifest .Running grown → (grown.get "root").isNone = false := by
    intro grown grows
    have listed : "root" ∈ engine.tasks.map Tcb.id := get_isSome.mp (by rw [found]; rfl)
    rw [Option.isNone_eq_false_iff,get_isSome]
    obtain ids | ⟨_,ids⟩ := grows.ids
    · exact ids ▸ listed
    · exact ids ▸ mem_append_left _ listed
  show set_lifecycle _ .Suspended = _
  rw [set_lifecycle]
  refine congrArg (set_state · "root" .Suspended) (if_neg fun absent => ?_)
  exact Bool.false_ne_true ((seated _ attached).symm.trans absent)

end Engine

private theorem accumulate_usage_on (axis : Axis) (total delta : ResourceBudget) :
    ((accumulate_usage total delta).amount axis).getD 0 = min ((total.amount axis).getD 0+(delta.amount axis).getD 0) axis.limit := by
  have fits := total.fits axis
  have fits_delta := delta.fits axis
  simp only [accumulate_usage]
  cases held : total.amount axis with
  | some current =>
    have within_limit := fits current held
    cases added : delta.amount axis with
    | some add => rfl
    | none =>
    simp only [Option.getD_some,Option.getD_none,Nat.add_zero]
    omega
  | none =>
  cases added : delta.amount axis with
  | some add =>
    have within_limit := fits_delta add added
    simp only [Option.getD_some,Option.getD_none,Nat.zero_add]
    omega
  | none => simp

private theorem credit_on (axis : Axis) (remaining returned : ResourceBudget) :
    (credit remaining returned).amount axis = (remaining.amount axis).map fun left => min (left+(returned.amount axis).getD 0) axis.limit := by
  have fits := remaining.fits axis
  simp only [credit]
  cases held : remaining.amount axis with
  | none => rfl
  | some left =>
  have within_limit := fits left held
  cases added : returned.amount axis with
  | some add => rfl
  | none =>
  simp only [Option.map_some,Option.getD_none,Nat.add_zero]
  rw [Nat.min_eq_left within_limit]

private theorem debit_on (axis : Axis) (remaining spent : ResourceBudget) :
    (debit remaining spent).amount axis = (remaining.amount axis).map (· - (spent.amount axis).getD 0) := by
  simp only [debit]
  cases held : remaining.amount axis with
  | none => rfl
  | some left =>
  cases taken : spent.amount axis with
  | some out => rfl
  | none => rfl

private theorem return_unused_on (axis : Axis) (grant : BudgetGrant) :
    ((return_unused grant).amount axis).getD 0 = (grant.reserved.amount axis).getD 0-(grant.consumed.amount axis).getD 0 := by
  simp only [return_unused]
  cases grant.reserved.amount axis with
  | none => simp
  | some reserved => rfl

section Accounts
variable (seed : Option ResourceBudget) (axis : Axis)

variable {task : Tcb} {grant : BudgetGrant} {table : TaskTable}

section
variable (held : task.budget_grant = some grant)
include held

private theorem Tcb.account_unused :
    (task.account seed axis).unused = ((return_unused grant).amount axis).getD 0 := by
  rw [return_unused_on]
  simp [Account.unused,account,allowance,held,on]

theorem Tcb.account_settled :
    (task.account seed axis).settled = grant.settled := by
  simp [account,held]

private theorem Tcb.account_consumed :
    (task.account seed axis).consumed = (grant.consumed.amount axis).getD 0 := by
  simp [account,held,on]

end

/-- What the settlement of a child does to the row of its parent. -/
theorem settle_with_account {child parent : Tcb} (held : child.budget_grant = some grant) :
    (TaskTable.settle_with grant parent).account seed axis =
    (child.account seed axis).repaid axis.limit (parent.account seed axis) := by
  refine Account.ext rfl rfl ?_ ?_ ?_ ?_ ?_ ?_
  · show (settle_with grant parent).pool axis = (parent.pool axis).map fun left => min (left+(child.account seed axis).unused) axis.limit
    rw [account_unused seed axis held]
    simp only [pool,settle_with,on]
    cases parent.child_budget_remaining with
    | none => rfl
    | some remaining => exact credit_on axis remaining (return_unused grant)
  · show (settle_with grant parent).allowance seed axis = parent.allowance seed axis
    simp only [allowance,settle_with]
    cases parent.budget_grant with
    | none => rfl
    | some outer =>
    simp only [Option.map_some]
    split <;> rfl
  · simp only [account,Account.repaid,settle_with]
    cases parent.budget_grant with
    | none => rfl
    | some outer =>
    simp only [Option.map_some]
    split <;> rfl
  · simp only [account,Account.repaid,settle_with]
    cases parent.budget_grant with
    | none => rfl
    | some outer =>
    simp only [Option.map_some]
    split <;> rfl
  · show (settle_with grant parent |>.account seed axis).consumed = if (parent.account seed axis).settled then
      (parent.account seed axis).consumed else min ((parent.account seed axis).consumed+(child.account seed axis).consumed) axis.limit
    rw [account_consumed seed axis held]
    cases own : parent.budget_grant with
    | none => simp [account,settle_with,own]
    | some outer =>
    cases ended : outer.settled with
    | true => simp [account,settle_with,own,ended]
    | false => simpa [account,settle_with,own,ended,on] using accumulate_usage_on axis outer.consumed grant.consumed
  · simp [account,Account.repaid,settle_with,usage]

private theorem close_account {child : Tcb} (held : child.budget_grant = some grant) :
    ({ child with budget_grant := child.budget_grant.map fun held => { held with returned := return_unused grant, settled := true } } : Tcb).account
      seed axis = (child.account seed axis).close := by
  refine Account.ext rfl rfl rfl ?_ ?_ ?_ ?_ ?_
  · simp [account,Account.close,allowance,held]
  · show _ = (child.account seed axis).unused
    rw [account_unused seed axis held]
    simp [account,held,on]
  · simp [account,Account.close,held]
  · simp [account,Account.close,held]
  · simp [account,Account.close,usage]

/-- What a returned budget writes into the accounts. -/
theorem return_accounts (distinct : (table.map Tcb.id).Nodup) (child_id : TaskId) :
    table.return_child_budget child_id = table ∨
      ∃ child grant, table.get child_id = some child ∧ child.budget_grant = some grant ∧ grant.settled = false ∧
        (table.return_child_budget child_id).accounts seed axis =
        settle axis.limit (table.accounts seed axis) (child.account seed axis) grant.parent := by
  unfold return_child_budget
  split
  · exact .inl rfl
  next grant found =>
  split
  · exact .inl rfl
  next unsettled =>
  obtain ⟨child,listed,held⟩ := Option.bind_eq_some_iff.mp found
  obtain ⟨member,rfl⟩ := get_some listed
  refine .inr ⟨child,grant,listed,held,by simpa using unsettled,?_⟩
  rw [accounts_modify fun _ _ _ => settle_with_account seed axis held,accounts_modify]
  · rfl
  · intro task other same
    obtain rfl : task = child := inj_on_of_nodup_map distinct other member same
    exact close_account seed axis held

theorem debited_accounts (distinct : (table.map Tcb.id).Nodup) {parent_id : TaskId} {parent : Tcb}
    (found : table.get parent_id = some parent) {remaining : ResourceBudget}
    (pool : parent.child_budget_remaining = some remaining)
    (requested : ResourceBudget) :
    (table.debited parent_id remaining requested).accounts seed axis =
      take (table.accounts seed axis) parent_id ((requested.amount axis).getD 0) := by
  obtain ⟨member,named⟩ := get_some found
  refine accounts_modify fun task listed same => ?_
  obtain rfl : task = parent := inj_on_of_nodup_map distinct listed member (same.trans named.symm)
  refine Account.ext rfl rfl ?_ rfl rfl rfl rfl rfl
  show (debit remaining requested).amount axis = (task.pool axis).map (· - (requested.amount axis).getD 0)
  rw [debit_on,Tcb.pool,pool]
  rfl

theorem funded_account (manifest : IsolationManifest) (state : TaskLifecycle) (parent : TaskId) (requested : ResourceBudget) :
    (Tcb.funded manifest state parent requested).account seed axis = .opened manifest.agent_id parent (requested.amount axis) := rfl

theorem spawned_in_account (manifest : IsolationManifest) (state : TaskLifecycle) (parent : TaskId) :
    (Tcb.spawned_in manifest state parent).account seed axis = .bare manifest.agent_id parent := rfl

theorem within_pool {remaining requested : ResourceBudget} (fits : ∀ axis, exceeded remaining requested axis = none)
    {left : Nat}
    (has : remaining.amount axis = some left) : (requested.amount axis).getD 0 ≤ left := by
  have fit := fits axis
  simp only [exceeded,has] at fit
  cases asked : requested.amount axis with
  | none => exact Nat.zero_le _
  | some want =>
  rw [asked] at fit
  simpa using fit

/-- A join spends on the account of a live task that holds a reservation. -/
theorem join_accounts (engine : Engine) (distinct : (engine.tasks.map Tcb.id).Nodup)
    (reserved : ∀ task ∈ engine.tasks, task.Reserved)
    (agent_id : TaskId) (usage : Usage) (next : TaskLifecycle) :
    (engine.join agent_id usage next).tasks.accounts seed axis = engine.tasks.accounts seed axis ∨
      ∃ task grant, engine.tasks.get agent_id = some task ∧ task.state.is_terminal = false ∧
      task.budget_grant = some grant ∧
        (engine.join agent_id usage next).tasks.accounts seed axis =
          spend axis.limit (engine.tasks.accounts seed axis) agent_id ((usage.budget.amount axis).getD 0) := by
  have untouched : (∀ task ∈ engine.tasks, task.id = agent_id → task.state.is_terminal = true ∨ task.budget_grant = none) →
      (engine.join agent_id usage next).tasks.accounts seed axis = engine.tasks.accounts seed axis := by
    intro kept
    refine accounts_kept fun task member named => ?_
    unfold joined
    split
    · rfl
    next live =>
    have bare := (kept task member named).resolve_left live
    simp [account,allowance,pool,bare]
  cases found : engine.tasks.get agent_id with
  | none => exact .inl (untouched fun task member same => absurd same (get_none found task member))
  | some task =>
  obtain ⟨member,named⟩ := get_some found
  have only : ∀ other ∈ engine.tasks, other.id = agent_id → other = task := by
    intro other listed same
    exact inj_on_of_nodup_map distinct listed member (same.trans named.symm)
  cases held : task.budget_grant with
  | none => exact .inl (untouched fun other listed same => .inr (only other listed same ▸ held))
  | some grant =>
  cases ended : task.state.is_terminal with
  | true => exact .inl (untouched fun other listed same => .inl (only other listed same ▸ ended))
  | false =>
  refine .inr ⟨task,grant,rfl,ended,held,accounts_modify fun other listed same => ?_⟩
  obtain rfl := only other listed same
  have process := (reserved other listed grant held).2
  rw [joined,if_neg (by simp [ended])]
  refine Account.ext rfl rfl rfl ?_ ?_ ?_ ?_ ?_
  · simp [account,allowance,held]
  · simp [account,held]
  · simp [account,held]
  · simpa [account,held,on] using accumulate_usage_on axis grant.consumed usage.budget
  · simp [Tcb.account,held,Tcb.usage,process,on]

end Accounts

end Deepstrike.Scheduler

import Deepstrike.Settling

/-!
The budget of a whole operation: what its root has left, what settled tasks have used and what open reservations
still hold, against the pool the operation started with; and how often a reservation is settled.
-/
namespace Deepstrike.Scheduler
open Wire Capabilities Ledgers TaskTable List Tcb Engine ResourceBudget
open Tasks (TaskLifecycle)

/-- What is recorded as consumed out of the reservation of a task, and the reservation. -/
def Tcb.consumed (axis : Axis) (task : Tcb) : Nat := (on axis (task.budget_grant.map BudgetGrant.consumed)).getD 0
def Tcb.reservation (axis : Axis) (task : Tcb) : Nat := (on axis (task.budget_grant.map BudgetGrant.reserved)).getD 0

/-- What the tasks with a settled reservation have used. -/
def TaskTable.used (axis : Axis) (table : TaskTable) : Nat :=
  (table.map fun task => if task.budget_grant.any BudgetGrant.settled then task.usage axis else 0).sum

/-- What the unsettled reservations still hold: what is neither consumed nor handed on out of them. -/
def TaskTable.reserved (axis : Axis) (table : TaskTable) : Nat :=
  (table.map fun task => if task.budget_grant.any (!·.settled) then
  task.reservation axis-(task.consumed axis+table.handed axis task.id) else 0).sum

/-- What the root has left, what was used and what is reserved add up to the pool of the operation at most. -/
def BudgetConserved (seed : Option ResourceBudget) (axis : Axis) (tasks : TaskTable) : Prop :=
  ∀ granted, on axis seed = some granted → ∀ root ∈ tasks, root.parent = none →
    (root.pool axis).getD 0+tasks.used axis+tasks.reserved axis ≤ granted

namespace Engine
variable {seed : Option ResourceBudget} {axis : Axis}

/-- A spawn out of a bounded pool names the axis, and takes nothing from a task that has already used of its reservation; a
    direct one has a new identity, and its caller, the root, reports nothing; a join reports no more than is left of the reservation; what is settled has nothing of its pool out. -/
def Conserving (axis : Axis) (engine : Engine) : Move → Prop
  | .Spawn caller manifest => Metered axis engine (.Spawn caller manifest) ∧
      ((((caller.or engine.tasks.root_id).bind engine.tasks.get).map (usage axis)).getD 0 = 0 ∨
        (on axis manifest.requested_budget).getD 0 = 0)
  | .SpawnSubAgent manifest => Metered axis engine (.SpawnSubAgent manifest)
  | .Join agent_id usage _ =>
    ((engine.tasks.get agent_id).all fun task => task.state.is_terminal || task.budget_grant.isNone ||
      decide (task.consumed axis+engine.tasks.handed axis agent_id+(usage.budget.amount axis).getD 0 ≤ task.reservation axis)) = true
  | move => Metered axis engine move

instance (axis : Axis) (engine : Engine) (move : Move) : Decidable (Conserving axis engine move) :=
  match move with
  | .Spawn caller manifest => inferInstanceAs (Decidable (Metered axis engine (.Spawn caller manifest) ∧
      ((((caller.or engine.tasks.root_id).bind engine.tasks.get).map (usage axis)).getD 0 = 0 ∨
        (on axis manifest.requested_budget).getD 0 = 0)))
  | .Join agent_id usage _ => inferInstanceAs (Decidable (((engine.tasks.get agent_id).all fun task => task.state.is_terminal ||
      task.budget_grant.isNone || decide (task.consumed axis+engine.tasks.handed axis agent_id+(usage.budget.amount axis).getD 0 ≤
        task.reservation axis)) = true))
  | .SpawnSubAgent manifest => inferInstanceAs (Decidable (Metered axis engine (.SpawnSubAgent manifest)))
  | .SetState agent_id state => inferInstanceAs (Decidable (Metered axis engine (.SetState agent_id state)))
  | .Acknowledge agent_id => inferInstanceAs (Decidable (Metered axis engine (.Acknowledge agent_id)))
  | .Return agent_id => inferInstanceAs (Decidable (Metered axis engine (.Return agent_id)))
  | .AtTurn turn => inferInstanceAs (Decidable (Metered axis engine (.AtTurn turn)))

variable {engine : Engine} {move : Move}

theorem Conserving.metered (conserving : Conserving axis engine move) : Metered axis engine move := by
  cases move with
  | Spawn caller manifest => exact conserving.1
  | SpawnSubAgent manifest => exact conserving
  | Join agent_id usage next => trivial
  | SetState agent_id state => trivial
  | Acknowledge agent_id => trivial
  | Return agent_id => exact conserving
  | AtTurn turn => trivial

private theorem grown_exact (ordered : engine.Ordered) {caller_id : Option TaskId} {manifest : IsolationManifest} {state : TaskLifecycle}
    {after : TaskTable} (grown : Grown engine.tasks caller_id manifest state after)
    (metered : (caller_id.bind engine.tasks.get).bind (pool axis) = none ∨ (on axis manifest.requested_budget).isSome = true)
    (unused : ((caller_id.bind engine.tasks.get).map (usage axis)).getD 0 = 0 ∨ (on axis manifest.requested_budget).getD 0 = 0)
    (exact_rows : Exact axis.limit (engine.tasks.accounts seed axis)) : Exact axis.limit (after.accounts seed axis) := by
  have contained := grown_contained ordered grown metered exact_rows.contained
  have listed : ∀ {parent : Tcb}, engine.tasks.get parent.id = some parent → parent.account seed axis ∈ engine.tasks.accounts seed axis :=
    fun found => mem_map_of_mem (get_some found).1
  cases grown with
  | unmoved => exact exact_rows
  | @drawn parent remaining requested draws =>
    rw [debited_accounts seed axis ordered.distinct draws.found draws.pool]
    exact exact_rows.take _ _
  | @funded parent remaining requested draws hosts =>
    rw [accounts_append,debited_accounts seed axis ordered.distinct draws.found draws.pool,funded_account] at contained ⊢
    have some_asked : (on axis manifest.requested_budget).isSome = true := by
      refine metered.resolve_left ?_
      rw [draws.caller,Option.bind_some,draws.found,Option.bind_some]
      exact Option.ne_none_iff_isSome.mpr (exact_rows.bounded _ (listed draws.found))
    obtain ⟨amount,want⟩ := Option.isSome_iff_exists.mp some_asked
    rw [draws.asked] at want
    have wants : requested.amount axis = some amount := want
    rw [wants] at contained ⊢
    have unspent : (parent.account seed axis).own = 0 ∨ amount = 0 := by
      obtain none_used | nothing := unused
      · rw [draws.caller,Option.bind_some,draws.found] at none_used
        left
        show (if parent.budget_grant.isSome then parent.usage axis else 0) = 0
        split
        · exact none_used
        · rfl
      · rw [draws.asked,want] at nothing
        exact .inr nothing
    have fresh_key : manifest.agent_id ∉ (engine.tasks.accounts seed axis).map Account.key := by
      intro held
      rw [accounts_keys] at held
      obtain ⟨task,known,same⟩ := mem_map.mp held
      exact get_none hosts.fresh task known same
    refine exact_rows.lend (listed draws.found) fresh_key ?_ unspent contained
    intro left has
    have pool_left : parent.pool axis = remaining.amount axis := by rw [pool,draws.pool]; rfl
    have least := within_pool axis draws.fits (pool_left.symm.trans has)
    rwa [wants] at least
  | @bare parent named found unfunded hosts =>
  -- A child without a reservation under a bounded pool was not admitted.
  rw [accounts_append,spawned_in_account] at contained
  have metered := contained.metered (.bare manifest.agent_id parent.id) (mem_append_right _ (mem_singleton_self _))
    (parent.account seed axis) (mem_append_left _ (listed found)) rfl (exact_rows.bounded _ (listed found))
  cases metered

private theorem join_exact (ordered : engine.Ordered) {agent_id : TaskId} {usage : Usage} {next : TaskLifecycle}
    (orderly : engine.Orderly (.Join agent_id usage next)) (conserving : Conserving axis engine (.Join agent_id usage next))
    (exact_rows : Exact axis.limit (engine.tasks.accounts seed axis)) :
    Exact axis.limit ((engine.join agent_id usage next).tasks.accounts seed axis) := by
  obtain same | ⟨task,grant,found,live,held,same⟩ := join_accounts seed axis engine ordered.distinct
    (fun task member => (ordered.sound task member).reserved) agent_id usage next
  · rwa [same]
  rw [same]
  obtain ⟨member,rfl⟩ := get_some found
  have unsettled : (task.account seed axis).settled = false := by
    rw [Tcb.account_settled seed axis held]
    cases ended : grant.settled with
    | false => rfl
    | true => exact absurd ((ordered.sound task member).settled grant held ended) (by simp [live])
  have unspent : (task.account seed axis).own = 0 := by
    have joined := (orderly task member rfl).resolve_left (by simp [live])
    simp [Tcb.account,Tcb.usage,joined,on]
  refine exact_rows.spend (mem_map_of_mem member) unsettled unspent ?_
  have room : task.consumed axis+engine.tasks.handed axis task.id+(usage.budget.amount axis).getD 0 ≤ task.reservation axis := by
    have fits : ((engine.tasks.get task.id).all fun other => other.state.is_terminal || other.budget_grant.isNone ||
      decide (other.consumed axis+engine.tasks.handed axis task.id+(usage.budget.amount axis).getD 0 ≤ other.reservation axis)) = true := conserving
    simpa [found,live,held] using fits
  have granted : (task.account seed axis).granted.getD 0 = task.reservation axis := by
    simp [Tcb.account,Tcb.allowance,Tcb.reservation,held,on]
  rw [granted]
  have handed : below (engine.tasks.accounts seed axis) (task.account seed axis).key Account.out = engine.tasks.handed axis task.id :=
    handed_accounts seed axis engine.tasks task.id
  rw [handed]
  exact room

private theorem apply_exact (ordered : engine.Ordered) (orderly : engine.Orderly move)
    (conserving : Conserving axis engine move) (exact_rows : Exact axis.limit (engine.tasks.accounts seed axis)) :
    Exact axis.limit ((engine.apply move).tasks.accounts seed axis) := by
  cases move with
  | Spawn caller manifest => exact grown_exact ordered (engine.spawn_tasks caller manifest) conserving.1 conserving.2 exact_rows
  | SpawnSubAgent manifest =>
    obtain ⟨grown,grows,same⟩ := ordered.spawn_sub_agent_accounts (Option.isNone_iff_eq_none.mp conserving.1)
    obtain ⟨root,_,found,top⟩ := ordered.root
    have nothing : ((some "root").bind engine.tasks.get |>.map (usage axis)).getD 0 = 0 := by
      have silent := ((ordered.sound root (get_some found).1).unjoined top).2
      rw [Option.bind_some,found,Option.map_some,usage,silent]
      rfl
    exact same.symm ▸ grown_exact ordered grows (ordered.caller_pool ▸ conserving.2) (.inl nothing) exact_rows
  | Join agent_id usage next => exact join_exact ordered orderly conserving exact_rows
  | SetState agent_id state => exact (accounts_set_state engine.tasks agent_id state).symm ▸ exact_rows
  | Acknowledge agent_id => exact (accounts_acknowledge engine.tasks agent_id).symm ▸ exact_rows
  | Return agent_id =>
    obtain same | ⟨loan,member,lender,unsettled,under,rests,same⟩ := return_loan ordered conserving.metered
    · exact same.symm ▸ exact_rows
    · exact same.symm ▸ exact_rows.settle member unsettled under rests
  | AtTurn turn => exact exact_rows

/-- The start of an operation whose pool bounds the axis. -/
theorem new_exact (capabilities : List Capability) (resource_quota : Option ResourceQuota)
    (budget_grant : Option Wire.BudgetGrant) {granted : Nat}
    (bounded : on axis (root_child_budget_seed budget_grant) = some granted) :
    Exact axis.limit ((new capabilities resource_quota budget_grant).tasks.accounts
    (root_child_budget_seed budget_grant) axis) := by
  have start : ∀ account ∈ (new capabilities resource_quota budget_grant).tasks.accounts (root_child_budget_seed budget_grant) axis,
      account.parent = none ∧ account.left = some granted ∧ account.granted = some granted := by
    intro account member
    rw [mem_singleton.mp member]
    exact ⟨rfl,bounded,bounded⟩
  have rootless : ∀ account ∈ (new capabilities resource_quota budget_grant).tasks.accounts (root_child_budget_seed budget_grant) axis,
      account.parent.isSome ≠ true := by
    intro account member parented
    rw [(start account member).1] at parented
    cases parented
  refine ⟨new_contained capabilities resource_quota budget_grant axis,?_,?_,?_,?_,?_⟩
  · intro account member
    rw [(start account member).2.2]
    obtain ⟨budget,_,amount⟩ := Option.bind_eq_some_iff.mp bounded
    exact budget.fits axis granted amount
  · intro account member
    rw [(start account member).2.1]
    rfl
  · exact fun account member parented => absurd parented (rootless account member)
  · exact fun account member parented => absurd parented (rootless account member)
  · exact fun account member parented => absurd parented (rootless account member)

/-- Whether a move settles the reservation of a task. -/
def settles (id : TaskId) (engine : Engine) : Move → Bool
  | .Return agent_id => agent_id == id && engine.tasks.unsettled id
  | _ => false

/-- How often the moves of a list settle the reservation of a task. -/
def settlements (id : TaskId) : Engine → List Move → Nat
  | _,[] => 0
  | engine,move :: rest => (if engine.settles id move then 1 else 0)+settlements id (engine.apply move) rest

/-- How often an operation settles the reservation of a task. -/
def settled_times (id : TaskId) : Engine → List Event → Nat
  | _,[] => 0
  | engine,event :: rest => settlements id engine (engine.moves event)+settled_times id (engine.step event) rest

/-- Whether an event spawns a task directly under an identity. -/
def Event.enlists (id : TaskId) : Event → Bool
  | .SpawnSubAgent manifest => manifest.agent_id == id
  | _ => false

end Engine

/-- The reservation of a task has been settled. -/
def TaskTable.closed (table : TaskTable) (id : TaskId) : Prop := ((table.get id).bind budget_grant).any BudgetGrant.settled = true

namespace TaskTable

variable {table : TaskTable} {sought : TaskId}

theorem closed_modify {id : TaskId} {edit : Tcb → Tcb} (kept : ∀ task, (edit task).id = task.id)
    (keeps : ∀ task, task.budget_grant.any BudgetGrant.settled = true →
    (edit task).budget_grant.any BudgetGrant.settled = true)
    (closed : table.closed sought) : (table.modify id edit).closed sought := by
  rw [TaskTable.closed,get_modify kept]
  obtain ⟨grant,held,ended⟩ := (Option.any_eq_true _ _).mp closed
  obtain ⟨task,found,has⟩ := Option.bind_eq_some_iff.mp held
  have settled : task.budget_grant.any BudgetGrant.settled = true := by simp [has,ended]
  rw [found,Option.map_some,Option.bind_some]
  split
  · exact keeps task settled
  · exact settled

private theorem closed_append (row : Tcb) (closed : table.closed sought) : TaskTable.closed (table ++ [row]) sought := by
  obtain ⟨grant,held,ended⟩ := (Option.any_eq_true _ _).mp closed
  obtain ⟨task,found,has⟩ := Option.bind_eq_some_iff.mp held
  have first : get (table ++ [row]) sought = some task := by
    rw [get,find?_append,← get,found]
    rfl
  simp [TaskTable.closed,first,has,ended]

private theorem closed_grown {after : TaskTable} {caller_id : Option TaskId} {manifest : IsolationManifest} {state : TaskLifecycle}
    (grown : Grown table caller_id manifest state after) (closed : table.closed sought) : after.closed sought := by
  cases grown with
  | unmoved => exact closed
  | drawn draws => exact closed_modify (fun _ => rfl) (fun _ settled => settled) closed
  | funded draws hosts => exact closed_append _ (closed_modify (fun _ => rfl) (fun _ settled => settled) closed)
  | bare caller found unfunded hosts => exact closed_append _ closed

private theorem get_insert {tcb : Tcb} (other : tcb.id ≠ sought) : (table.insert tcb).get sought = table.get sought := by
  unfold insert
  split
  · have passed : (fun task : Tcb => (if task.id = tcb.id then tcb else task).id == sought) = fun task => task.id == sought := by
      funext task
      split
      next same => rw [same]
      next => rfl
    rw [get,modify,find?_map]
    refine (congrArg (Option.map _) (congrArg (find? · table) passed)).trans ?_
    rw [← get]
    cases found : table.get sought with
    | none => rfl
    | some task => rw [Option.map_some,if_neg fun same => other (same.symm.trans (get_some found).2)]
  · rw [get,find?_append,← get,find?_singleton,if_neg (by simpa using other),Option.or_none]

private theorem closed_insert {tcb : Tcb} (other : tcb.id ≠ sought) (closed : table.closed sought) : (table.insert tcb).closed sought := by
  rwa [TaskTable.closed,get_insert other]

/-- The reservation of a new child touches no other row. -/
theorem closed_attach {child_id : TaskId} (other : child_id ≠ sought) (grant : BudgetGrant)
    (closed : table.closed sought) :
    (table.attach_child_budget_grant child_id grant).closed sought := by
  unfold attach_child_budget_grant
  split
  · exact closed
  obtain ⟨held,owned,ended⟩ := (Option.any_eq_true _ _).mp closed
  obtain ⟨task,found,has⟩ := Option.bind_eq_some_iff.mp owned
  rw [TaskTable.closed,get_modify,found,Option.map_some,if_neg fun same => other (same.symm.trans (get_some found).2)]
  · simp [has,ended]
  · exact fun _ => rfl

private theorem closed_set_lifecycle (state : TaskLifecycle) (closed : table.closed sought) : (set_lifecycle table state).closed sought := by
  refine closed_modify (fun _ => rfl) (fun _ settled => settled) ?_
  split
  next absent =>
    refine closed_insert ?_ closed
    rintro rfl
    have nothing : table.get (root [] none).id = none := Option.isNone_iff_eq_none.mp absent
    rw [TaskTable.closed,nothing] at closed
    cases closed
  · exact closed

private theorem settle_with_settled (grant : BudgetGrant) (task : Tcb) :
    (settle_with grant task).budget_grant.any BudgetGrant.settled = task.budget_grant.any BudgetGrant.settled := by
  simp only [settle_with]
  cases task.budget_grant with
  | none => rfl
  | some held =>
  simp only [Option.map_some,Option.any_some]
  split <;> rfl

/-- A settled reservation stays settled, and the settlement of an open one settles it. -/
theorem closed_return {child_id : TaskId}
    (before : table.closed sought ∨ child_id = sought ∧ table.unsettled sought = true) :
    (table.return_child_budget child_id).closed sought := by
  unfold return_child_budget
  split
  next none_held =>
    obtain closed | ⟨rfl,unsettled⟩ := before
    · exact closed
    · simp [TaskTable.unsettled,none_held] at unsettled
  next grant held =>
  split
  next ended =>
    obtain closed | ⟨rfl,unsettled⟩ := before
    · exact closed
    · simp [TaskTable.unsettled,held,ended] at unsettled
  next =>
  refine closed_modify (fun _ => rfl) (fun task settled => (settle_with_settled grant task).trans settled) ?_
  obtain closed | ⟨rfl,_⟩ := before
  · refine closed_modify (fun _ => rfl) (fun task settled => ?_) closed
    obtain ⟨own,has,_⟩ := (Option.any_eq_true _ _).mp settled
    simp [has]
  obtain ⟨task,found,has⟩ := Option.bind_eq_some_iff.mp held
  have named := (get_some found).2
  rw [closed,get_modify,found]
  · simp [named,has]
  · exact fun _ => rfl

end TaskTable

namespace Engine

variable {engine : Engine} {id : TaskId}

private theorem closed_spawn_sub_agent {manifest : IsolationManifest} (other : manifest.agent_id ≠ id) (closed : engine.tasks.closed id) :
    (engine.spawn_sub_agent manifest).tasks.closed id := by
  obtain ⟨_,same⟩ | ⟨gated,gate,_,same⟩ := engine.spawn_sub_agent_cases manifest
  · exact same.symm ▸ closed
  have kept : gated.tasks.closed id := by
    obtain ⟨_,allowed⟩ := evaluate_spawn_quota_inner_allow gate
    obtain ⟨rfl,_⟩ | ⟨_,_,_,_,_,_,_,_,_,rfl⟩ := budget_verdict_allow allowed
    · exact closed
    · exact closed_modify (fun _ => rfl) (fun _ settled => settled) closed
  rw [same,adopt]
  refine closed_set_lifecycle .Suspended ?_
  split
  · exact closed_attach other _ (closed_insert other kept)
  · exact closed_insert other kept

private theorem closed_apply {move : Move} (other : ∀ manifest, move = .SpawnSubAgent manifest → manifest.agent_id ≠ id)
    (before : engine.tasks.closed id ∨ engine.settles id move = true) : (engine.apply move).tasks.closed id := by
  cases move with
  | Return agent_id =>
    refine closed_return (before.imp_right fun settles => ?_)
    have parts : agent_id = id ∧ engine.tasks.unsettled id = true := by simpa [Engine.settles] using settles
    exact parts
  | Spawn caller manifest =>
    have closed := before.resolve_right (by simp [settles])
    exact closed_grown (engine.spawn_tasks caller manifest) closed
  | SpawnSubAgent manifest => exact closed_spawn_sub_agent (other manifest rfl) (before.resolve_right (by simp [settles]))
  | Join agent_id usage next =>
    have closed := before.resolve_right (by simp [settles])
    refine closed_modify (fun task => congrArg Prod.fst (task.joined_authority usage next)) (fun task settled => ?_) closed
    unfold joined
    split
    · exact settled
    · obtain ⟨own,has,ended⟩ := (Option.any_eq_true _ _).mp settled
      simp [has,ended]
  | SetState agent_id state =>
    exact closed_modify (fun _ => rfl) (fun _ settled => settled) (before.resolve_right (by simp [settles]))
  | Acknowledge agent_id =>
    refine closed_modify (fun task => congrArg Prod.fst task.acknowledged_authority) (fun task settled => ?_)
      (before.resolve_right (by simp [settles]))
    unfold acknowledged
    split <;> exact settled
  | AtTurn turn => exact before.resolve_right (by simp [settles])

private theorem settles_closed (closed : engine.tasks.closed id) (move : Move) : engine.settles id move = false := by
  obtain ⟨grant,held,ended⟩ := (Option.any_eq_true _ _).mp closed
  cases move with
  | Return agent_id => simp [settles,unsettled,held,ended]
  | Spawn caller manifest => rfl
  | SpawnSubAgent manifest => rfl
  | Join agent_id usage next => rfl
  | SetState agent_id state => rfl
  | Acknowledge agent_id => rfl
  | AtTurn turn => rfl

private theorem settlements_once {id : TaskId} (moves : List Move) (engine : Engine)
    (other : ∀ manifest, .SpawnSubAgent manifest ∈ moves → manifest.agent_id ≠ id) :
    settlements id engine moves ≤ 1 ∧ (engine.tasks.closed id → settlements id engine moves = 0) ∧
      (engine.tasks.closed id ∨ settlements id engine moves = 1 → (moves.foldl apply engine).tasks.closed id) := by
  induction moves generalizing engine with
  | nil => exact ⟨Nat.zero_le _,fun _ => rfl,fun before => before.resolve_right (by simp [settlements])⟩
  | cons move rest ih =>
  obtain ⟨once,never,after⟩ := ih (engine.apply move) fun manifest member => other manifest (mem_cons_of_mem _ member)
  have unfolded : settlements id engine (move :: rest) = (if engine.settles id move then 1 else 0)+settlements id (engine.apply move) rest := rfl
  have keeps : engine.tasks.closed id ∨ engine.settles id move = true → (engine.apply move).tasks.closed id :=
    closed_apply fun manifest same => other manifest (same ▸ mem_cons_self)
  cases settled : engine.settles id move with
  | true =>
    have closed := keeps (.inr settled)
    rw [unfolded,settled,never closed]
    refine ⟨le_rfl,fun open_before => ?_,fun _ => after (.inl closed)⟩
    exact absurd settled (by simp [settles_closed open_before move])
  | false =>
  rw [unfolded,settled]
  simp only [Bool.false_eq_true,if_false,Nat.zero_add]
  exact ⟨once,fun closed => never (keeps (.inl closed)),fun before => after (before.imp_left fun closed => keeps (.inl closed))⟩

/-- Only the event of a direct spawn makes one. -/
theorem moves_direct {event : Event} {manifest : IsolationManifest}
    (made : .SpawnSubAgent manifest ∈ engine.moves event) :
    event.enlists manifest.agent_id = true := by
  have never : ∀ (reason : TerminationReason) (ids : List TaskId), Move.SpawnSubAgent manifest ∉ ids.flatMap (settling · reason) := by
    intro reason ids made
    obtain ⟨id,_,listed⟩ := mem_flatMap.mp made
    simp [settling] at listed
  cases event with
  | SpawnSubAgent other =>
    cases mem_singleton.mp made
    exact beq_self_eq_true _
  | Complete agent_id usage reason workflow_owned manifests => cases workflow_owned <;> simp [moves,settling] at made
  | Preempt agent_ids => exact absurd made (never _ _)
  | Cancel => exact absurd made (never _ _)
  | Relaunch agent_id =>
    rw [moves] at made
    split at made <;> simp at made
  | Round caller manifests => simp [moves] at made
  | SpawnFailed agent_id => simp [moves,settling] at made
  | Started agent_id => simp [moves] at made
  | NextTurn turn => simp [moves] at made

private theorem settled_at_most_once {id : TaskId} (events : List Event) (engine : Engine) (other : ∀ event ∈ events, event.enlists id = false) :
    settled_times id engine events ≤ 1 ∧ (engine.tasks.closed id → settled_times id engine events = 0) := by
  induction events generalizing engine with
  | nil => exact ⟨Nat.zero_le _,fun _ => rfl⟩
  | cons event rest ih =>
  have apart : ∀ manifest, .SpawnSubAgent manifest ∈ engine.moves event → manifest.agent_id ≠ id := by
    rintro manifest made rfl
    exact Bool.false_ne_true ((other event mem_cons_self).symm.trans (moves_direct made))
  obtain ⟨once,never,after⟩ := settlements_once (engine.moves event) engine apart
  obtain ⟨later,never_later⟩ := ih (engine.step event) fun event member => other event (mem_cons_of_mem _ member)
  have unfolded : settled_times id engine (event :: rest) = settlements id engine (engine.moves event)+settled_times
    id (engine.step event) rest := rfl
  rw [unfolded]
  refine ⟨?_,fun closed => ?_⟩
  · by_cases settled : settlements id engine (engine.moves event) = 1
    · have none_later := never_later (after (.inr settled))
      omega
    · omega
  · have none_later := never_later (after (.inl closed))
    have none_now := never closed
    omega

end Engine

private theorem budget_conserved_of_exact {seed : Option ResourceBudget} {axis : Axis} {engine : Engine} (ordered : engine.Ordered)
    (exact_rows : Exact axis.limit (engine.tasks.accounts seed axis)) : BudgetConserved seed axis engine.tasks := by
  intro granted bounded root member rootless
  have alone : ∀ account ∈ engine.tasks.accounts seed axis, account.parent = none → account = root.account seed axis := by
    intro account held parentless
    obtain ⟨task,listed,rfl⟩ := mem_map.mp held
    have same := ((ordered.sound task listed).rooted.mp parentless).trans ((ordered.sound root member).rooted.mp rootless).symm
    rw [inj_on_of_nodup_map ordered.distinct listed member same]
  have bare : root.budget_grant = none := by
    cases held : root.budget_grant with
    | none => rfl
    | some grant =>
    have parented := ((ordered.sound root member).reserved grant held).1
    rw [rootless] at parented
    cases parented
  have given : (root.account seed axis).granted = some granted := by
    show root.allowance seed axis = some granted
    simp [allowance,bare,rootless,bounded]
  have conserved := exact_rows.conserved (mem_map_of_mem member) alone given
  have shares : engine.tasks.used axis+engine.tasks.reserved axis = total (engine.tasks.accounts seed axis)
      (fun account => if account.parent.isSome then account.share (engine.tasks.accounts seed axis) else 0) := by
    rw [used,reserved,← sum_map_add,total,accounts,map_map]
    refine congrArg sum (map_congr_left fun task listed => ?_)
    have handed : below (engine.tasks.accounts seed axis) task.id Account.out = engine.tasks.handed axis task.id :=
      handed_accounts seed axis engine.tasks task.id
    cases held : task.budget_grant with
    | none => simp [Account.share,account,held]
    | some grant =>
    have parented := ((ordered.sound task listed).reserved grant held).1
    rw [accounts] at handed
    cases ended : grant.settled with
    | true => simp [Account.share,account,held,ended,parented]
    | false =>
    have share : (task.account seed axis).share (engine.tasks.map (account seed axis)) =
        task.reservation axis-(task.consumed axis+engine.tasks.handed axis task.id) := by
      rw [Account.share,account_settled seed axis held,ended,← handed]
      simp [account,allowance,reservation,consumed,held,on]
    simp [share,ended,show (task.account seed axis).parent = some grant.parent from parented]
  have left : (root.account seed axis).left.getD 0 = (root.pool axis).getD 0 := rfl
  omega

/-- In every operation a reservation is settled once at most, as long as no direct spawn puts another in its place. In every
    operation whose spawns out of a bounded pool name the axis and take nothing from a task that has used of its reservation,
    whose direct spawns name no task of the table, whose joins report no more than is left of the reservation, and which
    settles no task with part of its pool out, the budget of the operation is conserved. -/
theorem budget_settled_once_and_conserved (capabilities : List Capability) (resource_quota : Option ResourceQuota)
    (budget_grant : Option Wire.BudgetGrant) (axis : Axis) :
    (∀ first later id, (∀ event ∈ later, Engine.Event.enlists id event = false) →
      settled_times id ((new capabilities resource_quota budget_grant).run first) later ≤ 1) ∧
    ∀ events, Engine.Meets (Engine.Conserving axis) (new capabilities resource_quota budget_grant) events →
      BudgetConserved (root_child_budget_seed budget_grant) axis
      ((new capabilities resource_quota budget_grant).run events).tasks := by
  refine ⟨fun first later id other => (settled_at_most_once later _ other).1,fun events met => ?_⟩
  intro granted bounded
  obtain ⟨ordered,exact_rows⟩ := run_keeps
    (fun engine => Exact axis.limit (engine.tasks.accounts (root_child_budget_seed budget_grant) axis))
    (fun _ _ conserving => Option.isNone_iff_eq_none.mp conserving.1)
    (fun _ _ ordered orderly conserving exact_rows => apply_exact ordered orderly conserving exact_rows)
    (new_ordered capabilities resource_quota budget_grant) (new_rested capabilities resource_quota budget_grant)
    (new_exact capabilities resource_quota budget_grant bounded) met
  exact budget_conserved_of_exact ordered exact_rows granted bounded

/-- What a child reports that used some tokens in one turn. -/
def Usage.of_tokens (tokens : Nat) : Usage := ⟨min tokens Axis.tokens.limit,1,Nat.min_le_right _ _,by decide⟩

/-- A child lends on, a sub-agent is spawned beside it, and both levels settle. -/
theorem budget_conserved_nested :
    Engine.Meets (Engine.Conserving .tokens) with_hundred_tokens
      [.Round none [.asking "a" (some 60)],.Round (some "a") [.asking "b" (some 30)],
      .SpawnSubAgent (.asking "c" (some 10)),
        .Complete "b" (.of_tokens 20) .Completed true [],.Complete "a" (.of_tokens 40) .Completed true []] ∧
    BudgetConserved (root_child_budget_seed (some ⟨"grant",some 100,none,none⟩)) .tokens (with_hundred_tokens.run
      [.Round none [.asking "a" (some 60)],.Round (some "a") [.asking "b" (some 30)],
      .SpawnSubAgent (.asking "c" (some 10)),
        .Complete "b" (.of_tokens 20) .Completed true [],.Complete "a" (.of_tokens 40) .Completed true []]).tasks :=
  ⟨by decide +kernel,(budget_settled_once_and_conserved _ _ _ _).2 _ (by decide +kernel)⟩

/-- A workflow's child completes, the round its completion drives reserves from its pool, and it settles: the whole of its
    reservation goes back to the root while its own child still holds part of it. -/
theorem settled_under_live_child :
    ¬ ∀ capabilities resource_quota budget_grant axis events,
      BudgetConserved (root_child_budget_seed budget_grant) axis
      ((new capabilities resource_quota budget_grant).run events).tasks := by
  intro all
  have conserved := all [] none (some ⟨"grant",some 100,none,none⟩) .tokens
    [.Round none [.asking "a" (some 60)],.Complete "a" (.of_tokens 10) .Completed true [.asking "b" (some 30)]] 100 (by decide +kernel)
  obtain ⟨root,found,facts⟩ := (Option.any_eq_true _ _).mp (show ((with_hundred_tokens.run
    [.Round none [.asking "a" (some 60)],.Complete "a" (.of_tokens 10) .Completed true [.asking "b" (some 30)]]).tasks.get "root").any
    (fun root => decide (root.parent = none ∧ 100 < (root.pool .tokens).getD 0+(with_hundred_tokens.run
      [.Round none [.asking "a" (some 60)],.Complete "a" (.of_tokens 10) .Completed true [.asking "b" (some 30)]]).tasks.used .tokens+
      (with_hundred_tokens.run
      [.Round none [.asking "a" (some 60)],.Complete "a" (.of_tokens 10) .Completed true [.asking "b" (some 30)]]).tasks.reserved .tokens)) = true
    from by decide +kernel)
  obtain ⟨rootless,exceeds⟩ := of_decide_eq_true facts
  exact absurd (conserved root (get_some found).1 rootless) (by exact Nat.not_le.mpr exceeds)

end Deepstrike.Scheduler

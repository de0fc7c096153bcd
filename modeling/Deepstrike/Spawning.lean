import Deepstrike.Capabilities
import Deepstrike.Vocabulary
import Mathlib.Data.List.Sort

/-!
The authority and the budget a task holds, the gate of a spawn, and how a reservation is taken, handed to
a child and settled. The wait sets of the tasks are in `WaitIndex`; what a spawn gives the host is not here.
-/
namespace Deepstrike.Scheduler
open Wire Tasks Vocabulary Capabilities

/-- The nine axes of a budget. -/
inductive Axis where
  | tokens | cost_microunits | turns | wall_ms | child_tasks | concurrent_children | tool_calls | memory_writes | object_bytes
  deriving DecidableEq,Repr

def Axis.all : List Axis :=
  [.tokens,.cost_microunits,.turns,.wall_ms,.child_tasks,.concurrent_children,.tool_calls,.memory_writes,.object_bytes]

/-- The largest amount an axis can hold. -/
def Axis.limit : Axis → Nat
  | .turns | .child_tasks | .concurrent_children => 2 ^ 32 - 1
  | _ => 2 ^ 64 - 1

/-- The amount on each axis, within its width; `none` is unbounded or untracked. -/
structure ResourceBudget where
  amount : Axis → Option Nat
  fits : ∀ axis value, amount axis = some value → value ≤ axis.limit

def ResourceBudget.default : ResourceBudget := ⟨fun _ => none,by rintro _ _ ⟨⟩⟩

structure BudgetGrant where
  parent : TaskId
  child : TaskId
  reserved : ResourceBudget
  consumed : ResourceBudget
  returned : ResourceBudget
  settled : Bool

structure BudgetError where
  dimension : Axis
  requested : Nat
  remaining : Nat
  deriving DecidableEq,Repr

/-- The axis a request exceeds, if both sides name it. -/
def exceeded (parent_remaining requested : ResourceBudget) (axis : Axis) : Option BudgetError :=
  match requested.amount axis,parent_remaining.amount axis with
  | some want,some left => if left < want then some ⟨axis,want,left⟩ else none
  | _,_ => none

/-- A request must fit on every axis that both sides name; the first that does not is reported. -/
def reserve (parent child : TaskId) (parent_remaining requested : ResourceBudget) : Except BudgetError BudgetGrant :=
  match Axis.all.findSome? (exceeded parent_remaining requested) with
  | some error => .error error
  | none => .ok ⟨parent,child,requested,.default,.default,false⟩

/-- Measured usage on top of what was measured before; nothing measured yet is not unbounded. -/
def accumulate_usage (total delta : ResourceBudget) : ResourceBudget where
  amount axis :=
    match total.amount axis,delta.amount axis with
    | some current,some add => some (min (current+add) axis.limit)
    | none,some add => some add
    | current,none => current
  fits axis value held := by
    split at held
    · cases held
      exact Nat.min_le_right _ _
    next named =>
      cases held
      exact delta.fits axis value named
    next => exact total.fits axis value held

/-- What comes back to a pool. An unbounded axis stays unbounded. -/
def credit (remaining amount : ResourceBudget) : ResourceBudget where
  amount axis :=
    match remaining.amount axis,amount.amount axis with
    | some left,some add => some (min (left+add) axis.limit)
    | left,_ => left
  fits axis value held := by
    split at held
    · cases held
      exact Nat.min_le_right _ _
    next => exact remaining.fits axis value held

/-- What is taken from a pool. An axis the grant does not name is left alone. -/
def debit (remaining spent : ResourceBudget) : ResourceBudget where
  amount axis :=
    match remaining.amount axis,spent.amount axis with
    | some left,some out => some (left-out)
    | left,_ => left
  fits axis value held := by
    split at held
    next left out named _ =>
      cases held
      exact (Nat.sub_le _ _).trans (remaining.fits axis left named)
    next => exact remaining.fits axis value held

def return_unused (grant : BudgetGrant) : ResourceBudget where
  amount axis := (grant.reserved.amount axis).map fun reserved => reserved-(grant.consumed.amount axis).getD 0
  fits axis value held := by
    obtain ⟨reserved,named,rfl⟩ := Option.map_eq_some_iff.mp held
    exact (Nat.sub_le _ _).trans (grant.reserved.fits axis reserved named)

/-- What a joined child reports. -/
structure Usage where
  total_tokens_used : Nat
  turns_used : Nat
  tokens_fit : total_tokens_used ≤ Axis.tokens.limit
  turns_fit : turns_used ≤ Axis.turns.limit

def Usage.budget (usage : Usage) : ResourceBudget where
  amount
    | .tokens => some usage.total_tokens_used
    | .turns => some usage.turns_used
    | _ => none
  fits axis value held := by
    split at held
    · cases held
      exact usage.tokens_fit
    · cases held
      exact usage.turns_fit
    · cases held

/-- A task with what it holds. The root carries no process. -/
structure Tcb where
  id : TaskId
  parent : Option TaskId
  state : TaskLifecycle
  capabilities : List Capability
  proc : Bool
  /-- The join of the process, once it has completed. -/
  result : Option Usage
  child_budget_remaining : Option ResourceBudget
  budget_grant : Option BudgetGrant

structure IsolationManifest where
  agent_id : TaskId
  requested_capabilities : List Capability
  requested_budget : Option ResourceBudget

def Tcb.root (capabilities : List Capability) (child_budget_remaining : Option ResourceBudget) : Tcb :=
  ⟨"root",none,.Ready,capabilities,false,none,child_budget_remaining,none⟩
def Tcb.spawned_in (manifest : IsolationManifest) (state : TaskLifecycle) (parent : Option TaskId) : Tcb :=
  ⟨manifest.agent_id,parent,state,manifest.requested_capabilities,true,none,none,none⟩

/-- The row of a task that joins. A task that has ended stays as it is. -/
def Tcb.joined (usage : Usage) (next : TaskLifecycle) (task : Tcb) : Tcb :=
  if task.state.is_terminal then task
  else { task with
    state := next
    result := if task.proc then some usage else task.result
    budget_grant := task.budget_grant.map fun grant => { grant with consumed := accumulate_usage grant.consumed usage.budget } }

/-- The row of a task whose launch the host has acknowledged. -/
def Tcb.acknowledged (task : Tcb) : Tcb := if task.state.is_terminal then task else { task with state := .Running }

abbrev TaskTable := List Tcb

namespace TaskTable

variable (table : TaskTable) (id : TaskId)

def get : Option Tcb := table.find? fun task => task.id == id

/-- Rewrite the row of one task; an absent id changes nothing. -/
def modify (change : Tcb → Tcb) : TaskTable :=
  table.map fun task => if task.id = id then change task else task

def set_state (state : TaskLifecycle) : TaskTable :=
  table.modify id fun task => { task with state }

def root_id : Option TaskId := (table.find? fun task => task.parent.isNone).map Tcb.id

/-- A new row goes to the end; a row of a known identity is replaced as it stands. -/
def insert (tcb : Tcb) : TaskTable :=
  if (table.get tcb.id).isSome then table.modify tcb.id fun _ => tcb else table ++ [tcb]

/-- A child under a live caller; an identity is used once. -/
def spawn_child (caller : TaskId) (manifest : IsolationManifest) (state : TaskLifecycle) :
    Except TaskSpawnError TaskTable :=
  match table.get caller with
  | none => .error .UnknownCaller
  | some parent =>
    if parent.state.is_terminal then .error .CallerTerminal
    else if (table.get manifest.agent_id).isSome then .error .DuplicateTask
    else .ok (table.insert (.spawned_in manifest state caller))

/-- The reservation of a child is its own pool from now on. -/
def attach_child_budget_grant (child_id : TaskId) (grant : BudgetGrant) : TaskTable :=
  if grant.child ≠ child_id then table
  else table.modify child_id fun child => { child with child_budget_remaining := some grant.reserved, budget_grant := some grant }

/-- The unused part goes back to the pool of the parent, the used part into the parent's own grant. -/
def settle_with (grant : BudgetGrant) (parent : Tcb) : Tcb :=
  { parent with
    child_budget_remaining := parent.child_budget_remaining.map fun remaining => credit remaining (return_unused grant)
    budget_grant := parent.budget_grant.map fun held =>
      if held.settled then held else { held with consumed := accumulate_usage held.consumed grant.consumed } }

def return_child_budget (child_id : TaskId) : TaskTable :=
  match (table.get child_id).bind Tcb.budget_grant with
  | none => table
  | some grant =>
    if grant.settled then table
    else
      (table.modify child_id fun child =>
        { child with budget_grant := child.budget_grant.map fun held =>
        { held with returned := return_unused grant, settled := true } }).modify
          grant.parent (settle_with grant)

/-- The number of parent edges above a task; a malformed lineage has none. -/
def lineage_depth : Option Nat := climb (table.length+1) 0 id
where
  climb : Nat → Nat → TaskId → Option Nat
    | 0,_,_ => none
    | fuel+1,depth,id => do
      let task ← table.get id
      match task.parent with
      | none => some depth
      | some parent => climb fuel (depth+1) parent

/-- The order of lineage depths, an unknown task below every known one. -/
def depthRank : Nat := ((table.lineage_depth id).map (· + 1)).getD 0

/-- The deepest tasks first. -/
def deepest_first (ids : List TaskId) : List TaskId :=
  ids.insertionSort fun left right => table.depthRank right ≤ table.depthRank left

def running : Nat := (table.filter fun task => task.proc && task.state.occupies_slot).length
def spawned : Nat := (table.filter Tcb.proc).length

end TaskTable

/-- The part of the engine a spawn reads and writes. -/
structure Engine where
  tasks : TaskTable
  turn : Nat
  resource_quota : Option ResourceQuota
  budget_grant : Option Wire.BudgetGrant
  pending_budget_grant : Option BudgetGrant
  observations : List KernelObservation

namespace Engine

/-- The pool a whole operation may hand out, from its admission grant. The amounts of the wire are within
    the width of their axis, so cutting them there changes none. -/
def root_child_budget_seed (grant : Option Wire.BudgetGrant) : Option ResourceBudget :=
  grant.map fun grant =>
    { amount := fun axis =>
        let declared := match axis with
          | .tokens => grant.tokens
          | .child_tasks => grant.subagents
          | .turns => grant.rounds
          | _ => none
        declared.map (min · axis.limit)
      fits := fun axis value held => by
        obtain ⟨declared,_,rfl⟩ := Option.map_eq_some_iff.mp held
        exact Nat.min_le_right _ _ }

def new (capabilities : List Capability) (resource_quota : Option ResourceQuota) (budget_grant : Option Wire.BudgetGrant) : Engine :=
  ⟨[.root capabilities (root_child_budget_seed budget_grant)],0,resource_quota,budget_grant,none,[]⟩

variable (engine : Engine)

/-- The axes of the quota, in the order of the gate. A full pool defers a spawn of the run queue. -/
def quota_verdict (concurrency_transient : Bool) : Option Disposition × List KernelObservation :=
  let quota := engine.resource_quota
  let grant_max := engine.budget_grant.bind Wire.BudgetGrant.subagents
  let total := engine.tasks.spawned
  let running := engine.tasks.running
  let totals : Option Disposition × List KernelObservation :=
    match least (quota.bind ResourceQuota.max_total_subagents) grant_max with
    | some max =>
      if max ≤ total then
        (some (.Deny "budget_grant" s!"subagent grant {max} reached ({total} spawned locally)"),
          if grant_max.isSome then
            [.BudgetExceeded engine.turn "subagents" (engine.budget_grant.map Wire.BudgetGrant.reservation_id)] else [])
      else (none,[])
    | none => (none,[])
  let depth : Option Disposition :=
    match quota.bind ResourceQuota.max_spawn_depth with
    | some max => if max < 1 then some (.Deny "quota" s!"max_spawn_depth={max} exceeded (depth 1)") else none
    | none => none
  match quota.bind ResourceQuota.max_concurrent_subagents with
  | some 0 => (some (.Deny "quota" "max_concurrent_subagents=0 permits no spawn (misconfigured quota)"),[])
  | some (max+1) =>
    if max+1 ≤ running then
      (some (if concurrency_transient then .Defer running
        else .Deny "quota" s!"max_concurrent_subagents={max+1} reached ({running} running)"),[])
    else if totals.1.isSome then totals else (depth,[])
  | none => if totals.1.isSome then totals else (depth,[])

variable (caller_id : Option TaskId)

/-- What the caller of a spawn may hand on. -/
def delegatable_caps : List Capability :=
  match caller_id.bind engine.tasks.get with
  | some task => task.capabilities.filter fun capability => capability.grantable engine.turn
  | none => []

/-- A child may not receive what the caller cannot delegate. -/
def capability_verdict (manifest : IsolationManifest) : Option Disposition :=
  if manifest.requested_capabilities.isEmpty then none
  else
    match caps_subset manifest.requested_capabilities (engine.delegatable_caps caller_id) with
    | .ok () => none
    | .error violations =>
      let named := ", ".intercalate (violations.map Capability.id)
      let caller := caller_id.getD "<unknown>"
      some (.Deny "capability_delegation" s!"capability delegation would widen authority beyond caller {caller}: {named}")

/-- Reserve what the child asks for from the caller's pool. Without a request, or without a pool, there is
    no check. -/
def budget_verdict (manifest : IsolationManifest) : Disposition × Engine :=
  match manifest.requested_budget,caller_id,(caller_id.bind engine.tasks.get).bind Tcb.child_budget_remaining with
  | some requested,some parent_id,some remaining =>
    match reserve parent_id manifest.agent_id remaining requested with
    | .error _ => (.Deny "budget_grant" s!"requested budget exceeds parent {parent_id}'s remaining pool",engine)
    | .ok grant =>
      (.Allow,{ engine with
        tasks := engine.tasks.modify parent_id fun task => { task with child_budget_remaining := some (debit remaining requested) }
        pending_budget_grant := some grant })
  | _,_,_ => (.Allow,engine)

/-- The spawn gate: the quotas, the delegated authority, the budget. -/
def evaluate_spawn_quota_inner (concurrency_transient : Bool) (caller : Option TaskId) (manifest : IsolationManifest) :
    Disposition × Engine :=
  let engine := { engine with pending_budget_grant := none }
  let caller_id := caller.or engine.tasks.root_id
  match engine.quota_verdict concurrency_transient with
  | (some refused,observed) => (refused,{ engine with observations := engine.observations ++ observed })
  | (none,_) =>
    match engine.capability_verdict caller_id manifest with
    | some refused => (refused,engine)
    | none => engine.budget_verdict caller_id manifest

/-- The launch of one admitted child: it is created under its caller and takes the reservation. A child that
    cannot be created leaves what the gate took. -/
def launch (caller : Option TaskId) (manifest : IsolationManifest) : Engine :=
  match caller.or engine.tasks.root_id with
  | none => engine
  | some parent =>
    match engine.tasks.spawn_child parent manifest .PendingLaunch with
    | .error error =>
      { engine with
        observations := engine.observations ++ [.ControlRequestRejected engine.turn "spawn_workflow_node" (some manifest.agent_id)
          s!"kernel-owned child creation rejected {error.reason}"] }
    | .ok tasks =>
      match engine.pending_budget_grant with
      | none => { engine with tasks }
      | some grant => { engine with tasks := tasks.attach_child_budget_grant manifest.agent_id grant, pending_budget_grant := none }

def spawn (caller : Option TaskId) (manifest : IsolationManifest) : Engine :=
  match engine.evaluate_spawn_quota_inner true caller manifest with
  | (.Allow,engine) => engine.launch caller manifest
  | (_,engine) => engine

variable (manifest : IsolationManifest)

def evaluate_spawn_quota : Disposition × Engine :=
  engine.evaluate_spawn_quota_inner false none manifest

/-- Whether the gate lets a direct spawn through. -/
def admits : Bool :=
  match (engine.evaluate_spawn_quota manifest).1 with
  | .Deny _ _ => false
  | _ => true

/-- The row of the root in another state; a table without one gets one. -/
def set_lifecycle (table : TaskTable) (state : TaskLifecycle) : TaskTable :=
  let table := if (table.get "root").isNone then table.insert (.root [] none) else table
  table.set_state "root" state

/-- The second half of a direct spawn: the child is inserted under the root of the table, whether or not its identity
    is taken, and the loop waits for it. What is reported of its process is not here. -/
def adopt : Engine :=
  let tasks := engine.tasks.insert (.spawned_in manifest .Running engine.tasks.root_id)
  let tasks :=
    match engine.pending_budget_grant with
    | some grant => tasks.attach_child_budget_grant manifest.agent_id grant
    | none => tasks
  { engine with
    tasks := set_lifecycle tasks .Suspended
    pending_budget_grant := none
    observations := engine.observations ++ [.Suspended engine.turn "sub_agent_await" [manifest.agent_id]] }

/-- A direct spawn: the loop asks for one child and waits for it. -/
def spawn_sub_agent (engine : Engine) (manifest : IsolationManifest) : Engine :=
  match engine.evaluate_spawn_quota manifest with
  | (.Deny _ reason,engine) => { engine with
    observations := engine.observations ++ [.ControlRequestRejected engine.turn "spawn_sub_agent" (some manifest.agent_id) reason] }
  | (_,engine) => engine.adopt manifest

/-- A child joins: its result and its own usage are recorded, once. The child of a workflow is not terminal
    before its completion has been driven. -/
def join (agent_id : TaskId) (usage : Usage) (next : TaskLifecycle) : Engine :=
  { engine with tasks := engine.tasks.modify agent_id (Tcb.joined usage next) }

/-- One move of the table. -/
inductive Move where
  | Spawn (caller : Option TaskId) (manifest : IsolationManifest)
  | SpawnSubAgent (manifest : IsolationManifest)
  | Join (agent_id : TaskId) (usage : Usage) (next : TaskLifecycle)
  | SetState (agent_id : TaskId) (state : TaskLifecycle)
  | Acknowledge (agent_id : TaskId)
  | Return (agent_id : TaskId)
  | AtTurn (turn : Nat)

def apply : Move → Engine
  | .Spawn caller manifest => engine.spawn caller manifest
  | .SpawnSubAgent manifest => engine.spawn_sub_agent manifest
  | .Join agent_id usage next => engine.join agent_id usage next
  | .SetState agent_id state => { engine with tasks := engine.tasks.set_state agent_id state }
  | .Acknowledge agent_id => { engine with tasks := engine.tasks.modify agent_id Tcb.acknowledged }
  | .Return agent_id => { engine with tasks := engine.tasks.return_child_budget agent_id }
  | .AtTurn turn => { engine with turn }

/-- What happens to the tasks of an operation. -/
inductive Event where
  /-- A spawn round of the run queue, in its order. -/
  | Round (caller : Option TaskId) (manifests : List IsolationManifest)
  /-- A direct spawn, beside the run queue. -/
  | SpawnSubAgent (manifest : IsolationManifest)
  /-- A child joins. The completion of a workflow's child drives a round on its behalf before it settles. -/
  | Complete (agent_id : TaskId) (usage : Usage) (reason : TerminationReason) (workflow_owned : Bool) (manifests : List IsolationManifest)
  | SpawnFailed (agent_id : TaskId)
  | Started (agent_id : TaskId)
  | Preempt (agent_ids : List TaskId)
  | Cancel
  /-- A supervised attempt that failed is launched again; only a live task has an attempt. -/
  | Relaunch (agent_id : TaskId)
  | NextTurn (turn : Nat)

/-- A task ends, and what it did not use goes back. -/
def settling (agent_id : TaskId) (reason : TerminationReason) : List Move := [.SetState agent_id (.Done reason),.Return agent_id]

/-- The moves of an event, in the order of the code. -/
def moves : Event → List Move
  | .Round caller manifests => manifests.map (.Spawn caller)
  | .SpawnSubAgent manifest => [.SpawnSubAgent manifest]
  | .Complete agent_id usage reason true manifests =>
    .Join agent_id usage .Suspended :: (manifests.map (.Spawn (some agent_id)) ++ settling agent_id reason)
  | .Complete agent_id usage reason false _ => [.Join agent_id usage (.Done reason),.Return agent_id]
  | .SpawnFailed agent_id => settling agent_id .Error
  | .Started agent_id => [.Acknowledge agent_id]
  | .Preempt agent_ids => (engine.tasks.deepest_first agent_ids).flatMap fun id => settling id .UserAbort
  | .Cancel =>
    (engine.tasks.deepest_first ((engine.tasks.filter fun task => task.id != "root" && !task.state.is_terminal).map Tcb.id)).flatMap
      fun id => settling id .UserAbort
  | .Relaunch agent_id =>
    if (engine.tasks.get agent_id).any fun task => !task.state.is_terminal then [.SetState agent_id .PendingLaunch] else []
  | .NextTurn turn => [.AtTurn turn]

def step (event : Event) : Engine := (engine.moves event).foldl apply engine

/-- An operation from its start through a list of events. -/
def run (events : List Event) : Engine := events.foldl step engine

end Engine

end Deepstrike.Scheduler

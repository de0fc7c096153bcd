import Deepstrike.Delegating
import Deepstrike.Forests

/-!
The task tree: every row names its parent and lists its children. The rows carry what `Spawning` says of
a task besides; its functions change no link of the tree.
-/
namespace Deepstrike.Lineage
open Std Wire Vocabulary Capabilities
open Scheduler (ResourceBudget IsolationManifest Usage)
open Tasks (TaskLifecycle TaskSpawnError)

structure Tcb extends Scheduler.Tcb where
  /-- Filled in as children are inserted. -/
  children : ExtTreeSet TaskId compare
  /-- A detached task outlives the cancellation of what is above it. -/
  detached : Bool

def Tcb.root (id : TaskId) (capabilities : List Capability) (child_budget_remaining : Option ResourceBudget) : Tcb :=
  ⟨⟨id,none,.Ready,capabilities,false,none,child_budget_remaining,none⟩,∅,false⟩

def Tcb.spawned_in (manifest : IsolationManifest) (state : TaskLifecycle) (parent : Option TaskId) : Tcb :=
  ⟨⟨manifest.agent_id,parent,state,manifest.requested_capabilities,true,none,none,none⟩,∅,false⟩

abbrev TaskTable := List Tcb

namespace TaskTable

variable (table : TaskTable)

def get (id : TaskId) : Option Tcb := table.find? fun task => task.id == id

def modify (id : TaskId) (change : Tcb → Tcb) : TaskTable :=
  table.map fun task => if task.id = id then change task else task

def set_state (id : TaskId) (state : TaskLifecycle) : TaskTable := table.modify id fun task => { task with state }

def root_id : Option TaskId := (table.find? fun task => task.parent.isNone).map (·.id)

/-- What the functions of `Spawning` make of the rows, put back into the tree. -/
def refill (rows : Scheduler.TaskTable) : TaskTable := table.zipWith (fun task row => { task with toTcb := row }) rows

def lift (change : Scheduler.TaskTable → Scheduler.TaskTable) : TaskTable := table.refill (change (table.map Tcb.toTcb))

/-- A new row is listed by its parent, if that is known; a known row is replaced as it stands. -/
def insert (table : TaskTable) (tcb : Tcb) : TaskTable :=
  if table.any fun task => task.id == tcb.id then table.map fun task => if task.id = tcb.id then tcb else task
  else
    match tcb.parent with
    | some parent => table.modify parent (fun above => { above with children := above.children.insert tcb.id }) ++ [tcb]
    | none => table ++ [tcb]

def spawn_child (caller : TaskId) (manifest : IsolationManifest) (state : TaskLifecycle) : Except TaskSpawnError TaskTable :=
  match table.get caller with
  | none => .error .UnknownCaller
  | some parent =>
    if parent.state.is_terminal then .error .CallerTerminal
    else if (table.get manifest.agent_id).isSome then .error .DuplicateTask
    else .ok (table.insert (.spawned_in manifest state (some caller)))

/-- `none` is a recursion that does not end: no path through the lists of children is longer than the table without
    meeting a task twice. -/
def cancel_subtree : Nat → TaskTable → TaskId → Option TaskTable
  | 0,_,_ => none
  | depth+1,table,task_id =>
    let children := ((table.get task_id).map fun task => task.children.toList).getD []
    children.foldlM (fun table child_id =>
      if (table.get child_id).any Tcb.detached then some table else cancel_subtree depth table child_id)
      (table.set_state task_id (.Done .UserAbort))

/-- The task itself is left alone, and so is a child that has ended. -/
def cancel_children (task_id : TaskId) : Option TaskTable :=
  let children := ((table.get task_id).map fun task => task.children.toList).getD []
  children.foldlM (fun table child_id =>
    if (table.get child_id).any fun child => !child.state.is_terminal && !child.detached then cancel_subtree (table.length+1) table child_id
    else some table) table

/-- The lists of children again, from the parents. -/
def rebuild_children : TaskTable :=
  let cleared := table.map fun task => { task with children := ∅ }
  let edges := cleared.filterMap fun task => task.parent.map fun parent => (parent,task.id)
  edges.foldl (fun table edge => table.modify edge.1 fun parent => { parent with children := parent.children.insert edge.2 }) cleared

end TaskTable

/-- The machine, as far as a spawn reads and writes it. -/
structure LoopStateMachine where
  tasks : TaskTable
  turn : Nat
  resource_quota : Option ResourceQuota
  budget_grant : Option Wire.BudgetGrant
  pending_budget_grant : Option Scheduler.BudgetGrant
  observations : List KernelObservation

namespace LoopStateMachine

def new (capabilities : List Capability) (resource_quota : Option ResourceQuota)
    (budget_grant : Option Wire.BudgetGrant) : LoopStateMachine :=
  ⟨[.root "root" capabilities (Scheduler.Engine.root_child_budget_seed budget_grant)],0,resource_quota,budget_grant,none,[]⟩

variable (machine : LoopStateMachine)

/-- What the gate of a spawn sees. -/
def engine : Scheduler.Engine :=
  ⟨machine.tasks.map Tcb.toTcb,machine.turn,machine.resource_quota,machine.budget_grant,machine.pending_budget_grant,machine.observations⟩

def settle (engine : Scheduler.Engine) : LoopStateMachine := { machine with
  tasks := machine.tasks.refill engine.tasks
  turn := engine.turn
  resource_quota := engine.resource_quota
  budget_grant := engine.budget_grant
  pending_budget_grant := engine.pending_budget_grant
  observations := engine.observations }

variable (manifest : IsolationManifest)

def evaluate_spawn_quota : Disposition × LoopStateMachine :=
  let (disposition,engine) := machine.engine.evaluate_spawn_quota_inner false none manifest
  (disposition,machine.settle engine)

def set_lifecycle (table : TaskTable) (state : TaskLifecycle) : TaskTable :=
  let table := if (table.get "root").isNone then table.insert (.root "root" [] none) else table
  table.set_state "root" state

/-- The second half of `spawn_sub_agent`: the child is inserted under the root of the table, whether or not its identity is
    taken, and the loop waits for it. What is reported of its process is not here. -/
def adopt : LoopStateMachine :=
  let tasks := machine.tasks.insert (.spawned_in manifest .Running machine.tasks.root_id)
  let tasks :=
    match machine.pending_budget_grant with
    | some grant => tasks.lift fun rows => rows.attach_child_budget_grant manifest.agent_id grant
    | none => tasks
  { machine with
    tasks := set_lifecycle tasks .Suspended
    pending_budget_grant := none
    observations := machine.observations ++ [.Suspended machine.turn "sub_agent_await" [manifest.agent_id]] }

def spawn_sub_agent (machine : LoopStateMachine) (manifest : IsolationManifest) : LoopStateMachine :=
  match machine.evaluate_spawn_quota manifest with
  | (.Deny _ reason,machine) => { machine with
    observations := machine.observations ++ [.ControlRequestRejected machine.turn "spawn_sub_agent" (some manifest.agent_id) reason] }
  | (_,machine) => machine.adopt manifest

/-- What changes a table. The completion of a child joins it, may spawn on its behalf, sets its last state when a workflow
    owned it, and returns its budget; an operation that ends sets the state of its tasks and returns theirs. -/
inductive Op where
  | spawn_child (caller : TaskId) (manifest : IsolationManifest) (state : TaskLifecycle)
  | spawn_sub_agent (manifest : IsolationManifest)
  | joined (agent_id : TaskId) (usage : Usage) (next : TaskLifecycle)
  | set_state (agent_id : TaskId) (state : TaskLifecycle)
  | return_child_budget (agent_id : TaskId)
  | cancel_subtree (task_id : TaskId)
  | cancel_children (task_id : TaskId)
  | rebuild_children

/-- `none` does not come back. -/
def step : Op → Option LoopStateMachine
  | .spawn_child caller manifest state =>
    match machine.tasks.spawn_child caller manifest state with
    | .error _ => some machine
    | .ok tasks => some { machine with tasks }
  | .spawn_sub_agent manifest => some (machine.spawn_sub_agent manifest)
  | .joined agent_id usage next =>
    some { machine with tasks := machine.tasks.lift fun rows => rows.modify agent_id (Scheduler.Tcb.joined usage next) }
  | .set_state agent_id state => some { machine with tasks := machine.tasks.set_state agent_id state }
  | .return_child_budget agent_id => some { machine with tasks := machine.tasks.lift fun rows => rows.return_child_budget agent_id }
  | .cancel_subtree task_id =>
    (TaskTable.cancel_subtree (machine.tasks.length+1) machine.tasks task_id).map fun tasks => { machine with tasks }
  | .cancel_children task_id => (machine.tasks.cancel_children task_id).map fun tasks => { machine with tasks }
  | .rebuild_children => some { machine with tasks := machine.tasks.rebuild_children }

def run (ops : List Op) : Option LoopStateMachine := ops.foldlM step machine

/-- Whether the gate lets a spawn through. -/
def admits : Bool :=
  match (machine.evaluate_spawn_quota manifest).1 with
  | .Deny _ _ => false
  | _ => true

/-- The identity a call inserts, if it inserts one. -/
def inserts : Op → Option TaskId
  | .spawn_child caller manifest state =>
    match machine.tasks.spawn_child caller manifest state with
    | .error _ => none
    | .ok _ => some manifest.agent_id
  | .spawn_sub_agent manifest => if machine.admits manifest then some manifest.agent_id else none
  | _ => none

/-- The move of the task table of `Spawning` that a call is, if it is one. -/
def Op.move : Op → Option Scheduler.Engine.Move
  | .spawn_sub_agent manifest => some (.SpawnSubAgent manifest)
  | .joined agent_id usage next => some (.Join agent_id usage next)
  | .set_state agent_id state => some (.SetState agent_id state)
  | .return_child_budget agent_id => some (.Return agent_id)
  | _ => none

end LoopStateMachine
end Deepstrike.Lineage

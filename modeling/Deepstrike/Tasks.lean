import Deepstrike.Wire

/-!
The task table: the root task and one row for each child, with its schedulability and its durable
wait set. What a row holds besides (capabilities, budgets, mailboxes, supervision) belongs to the
ledger of the engine's parts. The reverse wait index of the source answers exactly what a scan of
the durable wait sets answers, so the scan stands for it here.
-/
namespace Deepstrike.Tasks
open Wire

inductive TaskLifecycle where
  | PendingLaunch | Starting | Ready | Running | Suspended
  | Done (reason : TerminationReason)
  deriving DecidableEq,Repr

def TaskLifecycle.is_terminal : TaskLifecycle → Bool
  | .Done _ => true
  | _ => false
/-- Whether a task holds one of the operation's concurrency slots. -/
def TaskLifecycle.occupies_slot : TaskLifecycle → Bool
  | .PendingLaunch | .Starting | .Running => true
  | _ => false

inductive RunnableCause where
  | NestedTask | TimerWaiter | MessageWaiter | EventWaiter
  deriving DecidableEq,Repr

/-- One condition a task waits on; a condition over several children is stored as one condition
    for each child. -/
inductive WaitCondition where
  | Effect (effect_id : EffectId)
  | Child (task_id : TaskId)
  | Approval (approval_id : String)
  | Signal (filter : String)
  | Timer (deadline : Nat)
  | Channel (channel_id : String)
  | Resource (key : String)
  | External (subscription : String)
  deriving DecidableEq,Repr

inductive WaitMode where
  | Any | All
  deriving DecidableEq,Repr

structure DurableWaitSet where
  mode : WaitMode
  conditions : List WaitCondition
  /-- The indexes of the conditions that have fired, ascending. -/
  satisfied : List Nat
  deriving DecidableEq,Repr

/-- The join of a child: its status and what it reported. -/
abbrev JoinResult := ChildResult

structure Tcb where
  id : TaskId
  parent : Option TaskId
  state : TaskLifecycle
  runnable_cause : RunnableCause
  wait_set : Option DurableWaitSet
  /-- A child task carries a process identity, the root does not. -/
  proc : Bool
  result : Option JoinResult
  deriving DecidableEq,Repr

def Tcb.root (id : TaskId) : Tcb := ⟨id,none,.Ready,.NestedTask,none,false,none⟩
def Tcb.spawned_in (id parent : TaskId) (state : TaskLifecycle) : Tcb := ⟨id,some parent,state,.NestedTask,none,true,none⟩

inductive TaskSpawnError where
  | UnknownCaller | CallerTerminal | DuplicateTask
  deriving DecidableEq,Repr

def TaskSpawnError.reason : TaskSpawnError → String
  | .UnknownCaller => "unknown caller"
  | .CallerTerminal => "terminal caller"
  | .DuplicateTask => "duplicate task identity"

abbrev TaskTable := List Tcb

namespace TaskTable

variable (table : TaskTable) (id : TaskId)

def get : Option Tcb := table.find? fun task => task.id == id

/-- Rewrite the row of one task; an absent id changes nothing. -/
def modify (change : Tcb → Tcb) : TaskTable :=
  table.map fun task => if task.id = id then change task else task

/-- A new row is appended, a known one replaced in place. -/
def insert (tcb : Tcb) : TaskTable :=
  if table.any fun task => task.id == tcb.id then table.map fun task => if task.id = tcb.id then tcb else task
  else table ++ [tcb]

def set_state (state : TaskLifecycle) : TaskTable :=
  table.modify id fun task => { task with state }

def lifecycle : Option TaskLifecycle := (table.get id).map Tcb.state

def root_id : Option TaskId := (table.find? fun task => task.parent.isNone).map Tcb.id

def spawn_child (caller child : TaskId) (state : TaskLifecycle) : Except TaskSpawnError TaskTable :=
  match table.get caller with
  | none => .error .UnknownCaller
  | some parent =>
    if parent.state.is_terminal then .error .CallerTerminal
    else if (table.get child).isSome then .error .DuplicateTask
    else .ok (table.insert (Tcb.spawned_in child caller state))

def clear_wait : TaskTable :=
  table.modify id fun task => { task with wait_set := none }

/-- Suspend a task on a set of conditions; an empty set or a terminal task is left alone. -/
def register_wait_set (mode : WaitMode) (conditions : List WaitCondition) : TaskTable :=
  if conditions.isEmpty then table
  else table.modify id fun task =>
    if task.state.is_terminal then task
    else { task with state := .Suspended, wait_set := some ⟨mode,conditions,[]⟩ }

/-- The wait set of a task after one event: the conditions it matches are satisfied. -/
def fired (key : WaitCondition) (wait : DurableWaitSet) : DurableWaitSet :=
  { wait with
    satisfied := (List.range wait.conditions.length).filter fun index =>
      index ∈ wait.satisfied ∨ wait.conditions[index]? = some key }

def satisfies (wait : DurableWaitSet) : Bool :=
  match wait.mode with
  | .Any => !wait.satisfied.isEmpty
  | .All => wait.satisfied.length == wait.conditions.length

def cause_of : WaitCondition → RunnableCause
  | .Timer _ => .TimerWaiter
  | .Channel _ | .External _ => .MessageWaiter
  | _ => .EventWaiter

/-- One task hears of an event it waits on. -/
def hear (key : WaitCondition) (task : Tcb) : Tcb :=
  match task.wait_set with
  | none => task
  | some wait =>
    if key ∉ wait.conditions then task
    else if task.state.is_terminal then { task with wait_set := none }
    else
      let wait := fired key wait
      if satisfies wait then
        if task.state = .Suspended then { task with wait_set := none, state := .Ready, runnable_cause := cause_of key }
        else { task with wait_set := none }
      else { task with wait_set := some wait }

def notify (key : WaitCondition) : TaskTable := table.map (hear key)

/-- The timer conditions due at `now`, in deadline order. -/
def due_timers (now_ms : Nat) : List Nat :=
  let deadlines := table.flatMap fun task =>
    match task.wait_set with
    | none => []
    | some wait => wait.conditions.filterMap fun
      | .Timer deadline => if deadline ≤ now_ms then some deadline else none
      | _ => none
  (deadlines.mergeSort (· ≤ ·)).dedup

def wake_expired_timers (now_ms : Nat) : TaskTable :=
  (table.due_timers now_ms).foldl (fun table deadline => table.notify (.Timer deadline)) table

/-- Whether a step of the table took a task out of its suspension. -/
def woken (before after : TaskTable) : Bool :=
  (before.zip after).any fun (was,is) => decide (was.state = .Suspended) && decide (is.state = .Ready)

/-- The ready children, by id. -/
def runnable_candidates : List Tcb :=
  (table.filter fun task => task.proc && decide (task.state = .Ready)).mergeSort fun left right => decide (left.id ≤ right.id)

/-- The number of parent edges above a task; a malformed lineage has none. -/
def lineage_depth : Option Nat := climb (table.length+1) 0 id
where
  climb : Nat → Nat → TaskId → Option Nat
    | 0,_,_ => none
    | fuel+1,depth,id => do
      let task ← table.get id
      match task.parent with
      | none => some depth
      | some parent => climb fuel (depth+1) parent

/-- A failed child is put back in front of a launch. -/
def prepare_supervised_relaunch : TaskTable :=
  (table.clear_wait id).modify id fun task => { task with state := .PendingLaunch, result := none }

/-- The children ever spawned, and those that hold a slot now. -/
def spawned : Nat := (table.filter Tcb.proc).length
def running : Nat := (table.filter fun task => task.proc && task.state.occupies_slot).length

end TaskTable

end Deepstrike.Tasks

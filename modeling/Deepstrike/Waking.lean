import Mathlib.Data.List.Sort
import Mathlib.Data.String.Basic
import Deepstrike.WaitIndex

/-!
The task table with its reverse wait index, against tasks that each remember what they heard: the index is asked
which tasks an event concerns, and what it answers wakes exactly the tasks whose wait the event completes.
-/
namespace Deepstrike.Waiting
open List WaitIndex
open Wire (TaskId TerminationReason)
open Tasks (WaitMode DurableWaitSet Tcb TaskTable TaskLifecycle RunnableCause)

structure Table where
  tasks : TaskTable
  wait_index : WaitIndex

namespace Table

/-- Drop the wait set of a task, and take the task from under its conditions. -/
def clear_durable_wait (table : Table) (task_id : TaskId) : Table :=
  match (table.tasks.get task_id).bind Tcb.wait_set with
  | none => table
  | some wait => ⟨table.tasks.clear_wait task_id,wait.conditions.foldl (WaitIndex.leave task_id) table.wait_index⟩

/-- Suspend a task on a wait set. No condition at all, an unknown or a terminal task leaves the table alone. -/
def register_wait_set (table : Table) (task_id : TaskId) (wait_set : WaitSet) : Table :=
  match table.tasks.get task_id with
  | none => table
  | some task =>
    if wait_set.conditions.isEmpty || task.state.is_terminal then table
    else
      let table := table.clear_durable_wait task_id
      ⟨table.tasks.modify task_id fun task => { task with state := .Suspended, wait_set := some wait_set.durable },
        table.wait_index.register_wait_set task_id wait_set.conditions⟩

/-- Store what a wait set records. -/
def record (table : Table) (task_id : TaskId) (wait : DurableWaitSet) : Table :=
  { table with tasks := table.tasks.modify task_id fun task => { task with wait_set := some wait } }

def make_ready (table : Table) (task_id : TaskId) (cause : RunnableCause) : Table :=
  { table with tasks := table.tasks.modify task_id fun task => { task with state := .Ready, runnable_cause := cause } }

/-- One task under the key of an event. What has ended is cleared; what the event completes is woken. -/
def notify_candidate (key : WaitKey) (notified : List TaskId × Table) (task_id : TaskId) : List TaskId × Table :=
  let (woken,table) := notified
  match table.tasks.get task_id with
  | none => (woken,table.clear_durable_wait task_id)
  | some task =>
    if task.state.is_terminal then (woken,table.clear_durable_wait task_id)
    else
      match task.wait_set with
      | none => (woken,table)
      | some wait =>
        let table := table.record task_id (TaskTable.fired key wait)
        if TaskTable.satisfies (TaskTable.fired key wait) then
          let table := table.clear_durable_wait task_id
          if task.state = .Suspended then (woken ++ [task_id],table.make_ready task_id (TaskTable.cause_of key)) else (woken,table)
        else (woken,table)

/-- The tasks an event wakes. Candidates are taken in the order of their ids. -/
def notify (table : Table) (key : WaitKey) : List TaskId × Table :=
  ((table.wait_index.lookup key).insertionSort (· ≤ ·)).foldl (notify_candidate key) ([],table)

def wake_expired_timers (table : Table) (now_ms : Nat) : List TaskId × Table :=
  (table.wait_index.due_timer_keys now_ms).foldl (fun (woken,table) key =>
    let (more,table) := table.notify key
    (woken ++ more,table)) ([],table)

def complete (table : Table) (task_id : TaskId) (reason : TerminationReason) : Table :=
  { table with tasks := table.tasks.set_state task_id (.Done reason) }

/-- Cancel a subtree: a task and those of its descendants that are attached to it. -/
def cancel (table : Table) (subtree : List TaskId) : Table := subtree.foldl (fun table task_id => table.complete task_id .UserAbort) table

/-- Enter the unsatisfied conditions of every stored wait set. -/
def rebuild_wait_index (table : Table) : Table :=
  { table with
    wait_index := table.tasks.foldl (fun index task =>
      match task.wait_set with
      | none => index
      | some wait => (unsatisfied wait).foldl (WaitIndex.enter task.id) index) .new }

end Table

/-- What is done to a table. -/
inductive Op where
  | register_wait_set (task_id : TaskId) (wait_set : WaitSet)
  | notify (key : WaitKey)
  | wake_expired_timers (now_ms : Nat)
  | complete (task_id : TaskId) (reason : TerminationReason)
  | cancel (subtree : List TaskId)
  | rebuild_wait_index

/-- An operation, and the tasks it wakes. -/
def Table.step (table : Table) : Op → List TaskId × Table
  | .register_wait_set task_id wait_set => ([],table.register_wait_set task_id wait_set)
  | .notify key => table.notify key
  | .wake_expired_timers now_ms => table.wake_expired_timers now_ms
  | .complete task_id reason => ([],table.complete task_id reason)
  | .cancel subtree => ([],table.cancel subtree)
  | .rebuild_wait_index => ([],table.rebuild_wait_index)

/-- The tasks every operation of a run wakes, and the table behind it. -/
def Table.run (table : Table) : List Op → List (List TaskId) × Table
  | [] => ([],table)
  | op :: rest =>
    let (woken,table) := table.step op
    let (others,table) := table.run rest
    (woken :: others,table)

/-- What a task that waits has heard since it began to. -/
structure Vigil where
  mode : WaitMode
  conditions : List WaitKey
  heard : List WaitKey

/-- Any one condition was heard, or all were. -/
def Vigil.met (vigil : Vigil) : Bool :=
  match vigil.mode with
  | .Any => vigil.conditions.any vigil.heard.contains
  | .All => vigil.conditions.all vigil.heard.contains

def Vigil.hear (key : WaitKey) (vigil : Vigil) : Vigil := { vigil with heard := vigil.heard ++ [key] }

/-- A task, and the vigil it keeps. -/
structure Sleeper where
  id : TaskId
  state : TaskLifecycle
  vigil : Option Vigil

namespace Sleeper

/-- Whether an event ends the vigil of a task. -/
def wakes (key : WaitKey) (sleeper : Sleeper) : Bool := sleeper.vigil.any fun vigil => (vigil.hear key).met

def hear (key : WaitKey) (sleeper : Sleeper) : Sleeper :=
  match sleeper.vigil with
  | none => sleeper
  | some vigil =>
    if (vigil.hear key).met then { sleeper with state := .Ready, vigil := none } else { sleeper with vigil := some (vigil.hear key) }

/-- Begin a vigil; a task that ended begins none. -/
def watch (wait_set : WaitSet) (sleeper : Sleeper) : Sleeper :=
  if sleeper.state.is_terminal then sleeper
  else { sleeper with state := .Suspended, vigil := some ⟨wait_set.mode,wait_set.conditions.flatMap keys_for,[]⟩ }

def finish (reason : TerminationReason) (sleeper : Sleeper) : Sleeper := { sleeper with state := .Done reason, vigil := none }

end Sleeper

/-- Every task hears an event. The tasks it wakes, by id. -/
def announce (sleepers : List Sleeper) (key : WaitKey) : List TaskId × List Sleeper :=
  (((sleepers.filter (Sleeper.wakes key)).map Sleeper.id).insertionSort (· ≤ ·),sleepers.map (Sleeper.hear key))

/-- Every deadline up to a time passes, one after the other. -/
def expire (sleepers : List Sleeper) (now_ms : Nat) : List TaskId × List Sleeper :=
  ((List.range (now_ms+1)).map .Timer).foldl (fun (woken,sleepers) key =>
    let (more,sleepers) := announce sleepers key
    (woken ++ more,sleepers)) ([],sleepers)

/-- Change the task of an id. -/
def change (task_id : TaskId) (by_task : Sleeper → Sleeper) (sleepers : List Sleeper) : List Sleeper :=
  sleepers.map fun sleeper => if sleeper.id = task_id then by_task sleeper else sleeper

def observe (sleepers : List Sleeper) : Op → List TaskId × List Sleeper
  | .register_wait_set task_id wait_set =>
    ([],if wait_set.conditions.isEmpty then sleepers else change task_id (Sleeper.watch wait_set) sleepers)
  | .notify key => announce sleepers key
  | .wake_expired_timers now_ms => expire sleepers now_ms
  | .complete task_id reason => ([],change task_id (Sleeper.finish reason) sleepers)
  | .cancel subtree => ([],subtree.foldl (fun sleepers task_id => change task_id (Sleeper.finish .UserAbort) sleepers) sleepers)
  | .rebuild_wait_index => ([],sleepers)

/-- The tasks every operation of a run wakes, and the tasks behind it. -/
def observeRun (sleepers : List Sleeper) : List Op → List (List TaskId) × List Sleeper
  | [] => ([],sleepers)
  | op :: rest =>
    let (woken,sleepers) := observe sleepers op
    let (others,sleepers) := observeRun sleepers rest
    (woken :: others,sleepers)

/-- The indexes of the conditions that were heard. -/
def marks (conditions heard : List WaitKey) : List Nat :=
  (List.range conditions.length).filter fun index => (conditions[index]?).any heard.contains

/-- A stored wait set records what a vigil heard. -/
structure Tracks (wait : DurableWaitSet) (vigil : Vigil) : Prop where
  mode : wait.mode = vigil.mode
  conditions : wait.conditions = vigil.conditions
  satisfied : wait.satisfied = marks vigil.conditions vigil.heard

variable {wait : DurableWaitSet} {vigil : Vigil} {key : WaitKey} {task : Tcb} {sleeper : Sleeper} {tasks : TaskTable} {sleepers : List Sleeper}
variable {table : Table}

section
variable (tracks : Tracks wait vigil)
include tracks

theorem Tracks.fired (key : WaitKey) :
    Tracks (TaskTable.fired key wait) (vigil.hear key) where
  mode := tracks.mode
  conditions := tracks.conditions
  satisfied := by
    simp only [TaskTable.fired,tracks.conditions,tracks.satisfied,marks,Vigil.hear]
    refine filter_congr fun index inside => ?_
    obtain ⟨condition,found⟩ : ∃ condition, vigil.conditions[index]? = some condition :=
      Option.isSome_iff_exists.mp (by simpa using inside)
    simp only [found,Option.any_some,mem_filter,inside,true_and,Option.some.injEq]
    rw [Bool.eq_iff_iff]
    simp

theorem Tracks.satisfies : TaskTable.satisfies wait = vigil.met := by
  unfold TaskTable.satisfies Vigil.met
  rw [tracks.mode,tracks.conditions,tracks.satisfied]
  cases vigil.mode with
  | Any =>
    rw [Bool.eq_iff_iff]
    simp only [Bool.not_eq_true',isEmpty_eq_false_iff,any_eq_true]
    constructor
    · intro marked
      obtain ⟨index,held⟩ := exists_mem_of_ne_nil _ marked
      obtain ⟨_,heard⟩ := mem_filter.mp held
      obtain ⟨condition,found,inside⟩ := (Option.any_eq_true _ _).mp heard
      exact ⟨condition,mem_of_getElem? found,inside⟩
    · rintro ⟨condition,held,inside⟩
      obtain ⟨index,found⟩ := mem_iff_getElem?.mp held
      obtain ⟨within,_⟩ := List.getElem?_eq_some_iff.mp found
      exact ne_nil_of_mem (mem_filter.mpr ⟨mem_range.mpr within,by rw [found]; exact inside⟩)
  | All =>
  rw [Bool.eq_iff_iff]
  simp only [beq_iff_eq,all_eq_true]
  have size : (marks vigil.conditions vigil.heard).length = vigil.conditions.length ↔
      ∀ index ∈ range vigil.conditions.length, (vigil.conditions[index]?).any vigil.heard.contains = true := by
    have whole := length_filter_eq_length_iff (l := range vigil.conditions.length)
      (p := fun index => (vigil.conditions[index]?).any vigil.heard.contains)
    rw [length_range] at whole
    exact whole
  rw [size]
  constructor
  · intro all condition held
    obtain ⟨index,found⟩ := mem_iff_getElem?.mp held
    obtain ⟨within,_⟩ := List.getElem?_eq_some_iff.mp found
    have heard := all index (mem_range.mpr within)
    rw [found] at heard
    exact heard
  intro all index inside
  obtain ⟨condition,found⟩ : ∃ condition, vigil.conditions[index]? = some condition :=
    Option.isSome_iff_exists.mp (by simpa using inside)
  rw [found]
  exact all condition (mem_of_getElem? found)

private theorem Tracks.mem_unsatisfied (key : WaitKey) :
    key ∈ unsatisfied wait ↔ key ∈ vigil.conditions ∧ key ∉ vigil.heard := by
  have marked : ∀ index, vigil.conditions[index]? = some key → (index ∈ wait.satisfied ↔ key ∈ vigil.heard) := by
    intro index found
    obtain ⟨within,_⟩ := List.getElem?_eq_some_iff.mp found
    rw [tracks.satisfied,marks,mem_filter,found]
    simp [within]
  unfold unsatisfied
  rw [tracks.conditions]
  constructor
  · intro held
    obtain ⟨⟨condition,index⟩,listed,rfl⟩ := mem_map.mp held
    obtain ⟨entry,open_condition⟩ := mem_filter.mp listed
    have found := mem_zipIdx_iff_getElem?.mp entry
    refine ⟨mem_of_getElem? found,fun heard => ?_⟩
    have satisfied := (marked index found).mpr heard
    simp [satisfied] at open_condition
  rintro ⟨held,unheard⟩
  obtain ⟨index,found⟩ := mem_iff_getElem?.mp held
  refine mem_map.mpr ⟨(key,index),mem_filter.mpr ⟨mem_zipIdx_iff_getElem?.mpr found,?_⟩,rfl⟩
  have unmarked : index ∉ wait.satisfied := fun satisfied => unheard ((marked index found).mp satisfied)
  simp [unmarked]

theorem Tracks.deaf (closed : key ∉ unsatisfied wait) :
    Tracks wait (vigil.hear key) ∧ (vigil.hear key).met = vigil.met := by
  have same : ∀ condition ∈ vigil.conditions, (vigil.heard ++ [key]).contains condition = vigil.heard.contains condition := by
    intro condition held
    rw [Bool.eq_iff_iff]
    simp only [contains_iff_mem,mem_append,mem_singleton,or_iff_left_iff_imp]
    rintro rfl
    by_contra unheard
    exact closed ((tracks.mem_unsatisfied _).mpr ⟨held,unheard⟩)
  have recorded : Tracks wait (vigil.hear key) := by
    refine ⟨tracks.mode,tracks.conditions,?_⟩
    rw [tracks.satisfied]
    refine filter_congr fun index inside => ?_
    obtain ⟨condition,found⟩ : ∃ condition, vigil.conditions[index]? = some condition :=
      Option.isSome_iff_exists.mp (by simpa using inside)
    simp only [Vigil.hear,found,Option.any_some]
    exact (same condition (mem_of_getElem? found)).symm
  exact ⟨recorded,recorded.satisfies.symm.trans tracks.satisfies⟩

end

section Rows

variable {tasks : TaskTable} {task_id : TaskId} {task : Tcb} {by_task : Tcb → Tcb}

theorem get_some (distinct : (tasks.map Tcb.id).Nodup) :
    tasks.get task_id = some task ↔ task ∈ tasks ∧ task.id = task_id := by
  constructor
  · intro found
    have named := find?_some (p := fun task : Tcb => task.id == task_id) found
    exact ⟨mem_of_find?_eq_some found,by simpa using named⟩
  · rintro ⟨held,rfl⟩
    obtain ⟨twin,found⟩ := Option.isSome_iff_exists.mp (find?_isSome (p := fun other : Tcb => other.id == task.id).mpr ⟨task,held,beq_self_eq_true _⟩)
    have named : twin.id = task.id := by simpa using find?_some (p := fun other : Tcb => other.id == task.id) found
    exact found.trans (congrArg some (inj_on_of_nodup_map distinct (mem_of_find?_eq_some found) held named))

private theorem get_none : tasks.get task_id = none ↔ ∀ task ∈ tasks, task.id ≠ task_id := by
  simp [TaskTable.get]

private theorem modify_of_fixed (fixed : ∀ task ∈ tasks, task.id = task_id → by_task task = task) :
    tasks.modify task_id by_task = tasks := by
  rw [TaskTable.modify]
  conv_rhs => rw [← map_id tasks]
  refine map_congr_left fun task held => ?_
  split_ifs with named
  · exact fixed task held named
  · rfl

theorem modify_congr {other : Tcb → Tcb}
    (same : ∀ task ∈ tasks, task.id = task_id → by_task task = other task) :
    tasks.modify task_id by_task = tasks.modify task_id other := by
  refine map_congr_left fun task held => ?_
  split_ifs with named
  · exact same task held named
  · rfl

theorem modify_modify (tasks : TaskTable) (task_id : TaskId) (first second : Tcb → Tcb)
    (kept : ∀ task, (first task).id = task.id) :
    (tasks.modify task_id first).modify task_id second = tasks.modify task_id (second ∘ first) := by
  rw [TaskTable.modify,TaskTable.modify,TaskTable.modify,map_map]
  refine map_congr_left fun task _ => ?_
  by_cases named : task.id = task_id
  · simp [named,kept]
  · simp [named]

private theorem modify_ids (tasks : TaskTable) (task_id : TaskId) (by_task : Tcb → Tcb) (kept : ∀ task, (by_task task).id = task.id) :
    (tasks.modify task_id by_task).map Tcb.id = tasks.map Tcb.id := by
  rw [TaskTable.modify,map_map]
  refine map_congr_left fun task _ => ?_
  simp only [Function.comp_apply]
  split_ifs
  · exact kept task
  · rfl

theorem modify_distinct (distinct : (tasks.map Tcb.id).Nodup) (task_id : TaskId)
    (kept : ∀ task, (by_task task).id = task.id) : ((tasks.modify task_id by_task).map Tcb.id).Nodup := by
  rw [modify_ids tasks task_id by_task kept]
  exact distinct

private theorem get_modify_self (distinct : (tasks.map Tcb.id).Nodup)
    (kept : ∀ task, (by_task task).id = task.id) (held : tasks.get task_id = some task) :
    (tasks.modify task_id by_task).get task_id = some (by_task task) := by
  obtain ⟨member,named⟩ := (get_some distinct).mp held
  refine (get_some (modify_distinct distinct task_id kept)).mpr ⟨?_,(kept task).trans named⟩
  exact mem_map.mpr ⟨task,member,if_pos named⟩

end Rows

/-- What a candidate's row becomes when it hears an event. -/
def noticed (key : WaitKey) (task : Tcb) : Tcb :=
  if task.state.is_terminal then { task with wait_set := none }
  else
    match task.wait_set with
    | none => task
    | some wait =>
      if TaskTable.satisfies (TaskTable.fired key wait) then
        if task.state = .Suspended then { task with wait_set := none, state := .Ready, runnable_cause := TaskTable.cause_of key }
        else { task with wait_set := none }
      else { task with wait_set := some (TaskTable.fired key wait) }

/-- Whether an event wakes a candidate. -/
def roused (key : WaitKey) (task : Tcb) : Bool :=
  !task.state.is_terminal && decide (task.state = .Suspended) && task.wait_set.any fun wait =>
  TaskTable.satisfies (TaskTable.fired key wait)

private theorem noticed_id (key : WaitKey) (task : Tcb) : (noticed key task).id = task.id := by
  unfold noticed
  by_cases ended : task.state.is_terminal = true
  · rw [if_pos ended]
  rw [if_neg ended]
  cases task.wait_set with
  | none => rfl
  | some wait =>
  simp only
  split_ifs <;> rfl

namespace Table

/-- The index of a table knows of no wait but the stored ones, and of these all that are open. -/
structure Indexed (table : Table) : Prop where
  distinct : (table.tasks.map Tcb.id).Nodup
  lockstep : table.wait_index.Lockstep
  complete : ∀ task ∈ table.tasks, task.state.is_terminal = false → ∀ wait, task.wait_set = some wait →
    ∀ key ∈ unsatisfied wait, task.id ∈ table.wait_index.lookup key
  stored : ∀ id key, id ∈ table.wait_index.lookup key → ∃ task ∈ table.tasks, task.id = id ∧
    ∃ wait, task.wait_set = some wait ∧ key ∈ wait.conditions

variable {table : Table}

private theorem clear_durable_wait_tasks (distinct : (table.tasks.map Tcb.id).Nodup) (task_id : TaskId) :
    (table.clear_durable_wait task_id).tasks = table.tasks.clear_wait task_id := by
  unfold clear_durable_wait
  cases held : (table.tasks.get task_id).bind Tcb.wait_set with
  | some wait => rfl
  | none =>
  refine (modify_of_fixed fun task member named => ?_).symm
  rw [(get_some distinct).mpr ⟨member,named⟩,Option.bind_some] at held
  rw [← held]

/-- A cleared task is under no key any more; the others stay where they are. -/
theorem Indexed.lookup_cleared (indexed : Indexed table) (task_id id : TaskId) (key : WaitKey) :
    id ∈ (table.clear_durable_wait task_id).wait_index.lookup key ↔ id ∈ table.wait_index.lookup key ∧
    id ≠ task_id := by
  have waits : ∀ {other}, other ∈ table.wait_index.lookup key → other = task_id →
    ∃ wait, (table.tasks.get task_id).bind Tcb.wait_set = some wait ∧ key ∈ wait.conditions := by
    rintro other held rfl
    obtain ⟨task,member,named,wait,waiting,listed⟩ := indexed.stored other key held
    rw [(get_some indexed.distinct).mpr ⟨member,named⟩,Option.bind_some]
    exact ⟨wait,waiting,listed⟩
  unfold clear_durable_wait
  cases stored : (table.tasks.get task_id).bind Tcb.wait_set with
  | none =>
    refine ⟨fun held => ⟨held,fun same => ?_⟩,And.left⟩
    obtain ⟨wait,found,_⟩ := waits held same
    cases stored.symm.trans found
  | some wait =>
  simp only [mem_leaves]
  constructor
  · rintro ⟨held,outside⟩
    refine ⟨held,fun same => outside ⟨same,?_⟩⟩
    obtain ⟨twin,found,listed⟩ := waits held same
    obtain rfl := Option.some.inj (stored.symm.trans found)
    exact listed
  · rintro ⟨held,other⟩
    exact ⟨held,fun both => other both.1⟩

private theorem clear_durable_wait_lockstep (lockstep : table.wait_index.Lockstep) (task_id : TaskId) :
    (table.clear_durable_wait task_id).wait_index.Lockstep := by
  unfold clear_durable_wait
  split
  · exact lockstep
  · exact lockstep.leaves _ _

/-- One candidate: its row hears the event, it is woken if that rouses it, and it leaves the index once it waits no more. -/
theorem notify_candidate_spec (indexed : Indexed table) (key : WaitKey) (woken : List TaskId) (task_id : TaskId) :
    ∃ after, notify_candidate key (woken,table) task_id =
        (woken ++ (if (table.tasks.get task_id).any (roused key) then [task_id] else []),after) ∧
      after.tasks = table.tasks.modify task_id (noticed key) ∧ after.wait_index.Lockstep ∧
      ∀ other k, other ∈ after.wait_index.lookup k ↔ other ∈ table.wait_index.lookup k ∧
        ¬ (other = task_id ∧ ∀ task, table.tasks.get task_id = some task → (noticed key task).wait_set = none) := by
  cases held : table.tasks.get task_id with
  | none =>
    have absent := get_none.mp held
    refine ⟨table.clear_durable_wait task_id,by simp [notify_candidate,held],?_,clear_durable_wait_lockstep indexed.lockstep _,fun other k => ?_⟩
    · rw [clear_durable_wait_tasks indexed.distinct,TaskTable.clear_wait]
      exact modify_congr fun task member named => absurd named (absent task member)
    · rw [indexed.lookup_cleared]
      simp
  | some task =>
  obtain ⟨member,named⟩ := (get_some indexed.distinct).mp held
  have only : ∀ twin ∈ table.tasks, twin.id = task_id → twin = task := fun twin listed same =>
    inj_on_of_nodup_map indexed.distinct listed member (same.trans named.symm)
  by_cases ended : task.state.is_terminal = true
  · refine ⟨table.clear_durable_wait task_id,by simp [notify_candidate,held,roused,ended],?_,
      clear_durable_wait_lockstep indexed.lockstep _,fun other k => ?_⟩
    · rw [clear_durable_wait_tasks indexed.distinct,TaskTable.clear_wait]
      refine modify_congr fun twin listed same => ?_
      rw [only twin listed same,noticed,if_pos ended]
    · rw [indexed.lookup_cleared]
      simp [noticed,ended]
  rw [Bool.not_eq_true] at ended
  cases waiting : task.wait_set with
  | none =>
    have row : noticed key task = task := by simp [noticed,ended,waiting]
    refine ⟨table,by simp [notify_candidate,held,roused,ended,waiting],?_,indexed.lockstep,fun other k => ?_⟩
    · refine (modify_of_fixed fun twin listed same => ?_).symm
      rw [only twin listed same,row]
    refine ⟨fun inside => ⟨inside,?_⟩,And.left⟩
    rintro ⟨same,_⟩
    obtain ⟨twin,listed,twin_named,wait,found,_⟩ := indexed.stored other k inside
    rw [only twin listed (twin_named.trans same),waiting] at found
    cases found
  | some wait =>
  have stored : ((table.record task_id (TaskTable.fired key wait)).tasks.get task_id).bind Tcb.wait_set = some (TaskTable.fired key wait) := by
    rw [record,get_modify_self indexed.distinct _ held]
    · rfl
    · exact fun _ => rfl
  have cleared : (table.record task_id (TaskTable.fired key wait)).clear_durable_wait task_id =
      ⟨(table.record task_id (TaskTable.fired key wait)).tasks.clear_wait task_id,
        (TaskTable.fired key wait).conditions.foldl (leave task_id) table.wait_index⟩ := by
    rw [clear_durable_wait,stored]
    rfl
  by_cases met : TaskTable.satisfies (TaskTable.fired key wait) = true
  · have gone : (noticed key task).wait_set = none := by
      simp only [noticed,ended,waiting,met,Bool.false_eq_true,if_false,if_true]
      split_ifs <;> rfl
    have left : ∀ other k, other ∈ ((TaskTable.fired key wait).conditions.foldl (leave task_id) table.wait_index).lookup k ↔
        other ∈ table.wait_index.lookup k ∧ ¬ (other = task_id ∧ ∀ row, some task = some row → (noticed key row).wait_set = none) := by
      intro other k
      rw [mem_leaves]
      refine and_congr_right fun inside => not_congr (and_congr_right fun same => ?_)
      simp only [Option.some.injEq,forall_eq',gone,iff_true]
      obtain ⟨twin,listed,twin_named,found,kept,conditions⟩ := indexed.stored other k inside
      rw [only twin listed (twin_named.trans same),waiting] at kept
      exact Option.some.inj kept ▸ conditions
    by_cases suspended : task.state = .Suspended
    · have open_state : TaskLifecycle.Suspended.is_terminal = false := rfl
      refine ⟨Table.make_ready ⟨(table.record task_id (TaskTable.fired key wait)).tasks.clear_wait task_id,_⟩ task_id (TaskTable.cause_of key),?_,?_,
        indexed.lockstep.leaves _ _,left⟩
      · simp [notify_candidate,held,roused,waiting,met,suspended,open_state,cleared]
      simp only [record,make_ready,TaskTable.clear_wait]
      rw [modify_modify,modify_modify]
      · refine modify_congr fun twin listed same => ?_
        simp [only twin listed same,noticed,waiting,met,suspended,open_state]
      · exact fun _ => rfl
      · exact fun _ => rfl
    refine ⟨⟨(table.record task_id (TaskTable.fired key wait)).tasks.clear_wait task_id,_⟩,?_,?_,indexed.lockstep.leaves _ _,left⟩
    · simp [notify_candidate,held,roused,ended,waiting,met,suspended,cleared]
    simp only [record,TaskTable.clear_wait]
    rw [modify_modify]
    · refine modify_congr fun twin listed same => ?_
      simp [only twin listed same,noticed,ended,waiting,met,suspended]
    · exact fun _ => rfl
  have stays : (noticed key task).wait_set = some (TaskTable.fired key wait) := by simp [noticed,ended,waiting,met]
  refine ⟨table.record task_id (TaskTable.fired key wait),by simp [notify_candidate,held,roused,ended,waiting,met],?_,
    indexed.lockstep,fun other k => ?_⟩
  · refine modify_congr fun twin listed same => ?_
    simp [only twin listed same,noticed,ended,waiting,met]
  · simp [stays,record]

end Table

/-- A row of the table, and the task that remembers what it heard. -/
structure Watched (task : Tcb) (sleeper : Sleeper) : Prop where
  id : task.id = sleeper.id
  state : task.state = sleeper.state
  ended : task.state.is_terminal = true → sleeper.vigil = none
  idle : task.wait_set = none → sleeper.vigil = none
  waiting : task.state.is_terminal = false → ∀ wait, task.wait_set = some wait → task.state = .Suspended ∧
    ∃ vigil, sleeper.vigil = some vigil ∧ Tracks wait vigil ∧ vigil.met = false ∧ vigil.conditions ≠ []

/-- A candidate's row and the task hear an event alike, and either both are woken or neither. -/
theorem Watched.noticed (watched : Watched task sleeper) (key : WaitKey) :
    Watched (noticed key task) (sleeper.hear key) ∧ roused key task = sleeper.wakes key := by
  by_cases ended : task.state.is_terminal = true
  · have asleep := watched.ended ended
    have deaf : sleeper.hear key = sleeper := by rw [Sleeper.hear,asleep]
    rw [Waiting.noticed,if_pos ended,deaf]
    refine ⟨⟨watched.id,watched.state,fun _ => asleep,fun _ => asleep,fun open_state => ?_⟩,by simp [roused,ended,Sleeper.wakes,asleep]⟩
    exact absurd ended (by simp [open_state])
  rw [Bool.not_eq_true] at ended
  cases waiting : task.wait_set with
  | none =>
    have asleep := watched.idle waiting
    have deaf : sleeper.hear key = sleeper := by rw [Sleeper.hear,asleep]
    have row : Waiting.noticed key task = task := by simp [Waiting.noticed,ended,waiting]
    rw [row,deaf]
    exact ⟨watched,by simp [roused,waiting,Sleeper.wakes,asleep]⟩
  | some wait =>
  obtain ⟨suspended,vigil,keeps,tracks,unmet,conditions⟩ := watched.waiting ended wait waiting
  have heard := tracks.fired key
  have open_state : TaskLifecycle.Suspended.is_terminal = false := rfl
  by_cases met : (vigil.hear key).met = true
  · have satisfied : TaskTable.satisfies (TaskTable.fired key wait) = true := heard.satisfies.trans met
    have row : Waiting.noticed key task = { task with wait_set := none, state := .Ready, runnable_cause := TaskTable.cause_of key } := by
      simp [Waiting.noticed,waiting,satisfied,suspended,open_state]
    have awake : sleeper.hear key = { sleeper with state := .Ready, vigil := none } := by rw [Sleeper.hear,keeps]; exact if_pos met
    rw [row,awake]
    refine ⟨⟨watched.id,rfl,fun _ => rfl,fun _ => rfl,fun _ wait still => ?_⟩,?_⟩
    · cases still
    · simp [roused,waiting,satisfied,suspended,open_state,Sleeper.wakes,keeps,met]
  have unsatisfied : TaskTable.satisfies (TaskTable.fired key wait) = false := by
    rw [heard.satisfies]
    simpa using met
  have row : Waiting.noticed key task = { task with wait_set := some (TaskTable.fired key wait) } := by
    simp [Waiting.noticed,waiting,unsatisfied,ended]
  have asleep : sleeper.hear key = { sleeper with vigil := some (vigil.hear key) } := by rw [Sleeper.hear,keeps]; exact if_neg met
  rw [row,asleep]
  refine ⟨⟨watched.id,watched.state,fun final => ?_,fun none_left => ?_,fun _ recorded stored => ?_⟩,?_⟩
  · exact absurd final (by simp [ended])
  · cases none_left
  · cases stored
    exact ⟨suspended,_,rfl,heard,by simpa using met,conditions⟩
  · simp [roused,waiting,unsatisfied,Sleeper.wakes,keeps,met]

/-- A row that no open condition puts under an event's key hears nothing in it, and neither does the task. -/
theorem Watched.deaf (watched : Watched task sleeper)
    (closed : task.state.is_terminal = false → ∀ wait, task.wait_set = some wait → key ∉ unsatisfied wait) :
    Watched task (sleeper.hear key) ∧ sleeper.wakes key = false := by
  cases keeps : sleeper.vigil with
  | none =>
    have deaf : sleeper.hear key = sleeper := by rw [Sleeper.hear,keeps]
    rw [deaf]
    exact ⟨watched,by simp [Sleeper.wakes,keeps]⟩
  | some vigil =>
  have ended : task.state.is_terminal = false := by
    rw [Bool.eq_false_iff]
    intro ended
    cases keeps.symm.trans (watched.ended ended)
  cases waiting : task.wait_set with
  | none => cases keeps.symm.trans (watched.idle waiting)
  | some wait =>
  obtain ⟨suspended,twin,kept,tracks,unmet,conditions⟩ := watched.waiting ended wait waiting
  obtain rfl := Option.some.inj (keeps.symm.trans kept)
  obtain ⟨recorded,same⟩ := tracks.deaf (closed ended wait waiting)
  have still : (vigil.hear key).met = false := same.trans unmet
  have asleep : sleeper.hear key = { sleeper with vigil := some (vigil.hear key) } := by
    rw [Sleeper.hear,keeps]
    exact if_neg (by simp [still])
  rw [asleep]
  refine ⟨⟨watched.id,watched.state,fun final => ?_,fun none_left => ?_,fun _ other stored => ?_⟩,by simp [Sleeper.wakes,keeps,still]⟩
  · exact absurd final (by simp [ended])
  · cases waiting.symm.trans none_left
  · obtain rfl := Option.some.inj (waiting.symm.trans stored)
    exact ⟨suspended,_,rfl,recorded,still,conditions⟩

/-- A table stands for tasks that remember, row by row, and its index knows them. -/
structure Simulates (table : Table) (sleepers : List Sleeper) : Prop where
  watched : List.Forall₂ Watched table.tasks sleepers
  indexed : table.Indexed

theorem forall₂_map_of {α β : Type} {Rel : α → β → Prop} {left : List α} {right : List β}
    (related : List.Forall₂ Rel left right) {f : α → α} {g : β → β}
    (kept : ∀ a ∈ left, ∀ b, Rel a b → Rel (f a) (g b)) : List.Forall₂ Rel (left.map f) (right.map g) := by
  induction related with
  | nil => exact .nil
  | cons first _ ih =>
    exact .cons (kept _ mem_cons_self _ first) (ih fun a held => kept a (mem_cons_of_mem _ held))

private theorem noticed_wait {recorded : DurableWaitSet} (stored : (noticed key task).wait_set = some recorded) :
    task.state.is_terminal = false ∧ ∃ wait, task.wait_set = some wait ∧ recorded = TaskTable.fired key wait := by
  unfold noticed at stored
  by_cases ended : task.state.is_terminal = true
  · rw [if_pos ended] at stored
    cases stored
  rw [if_neg ended] at stored
  refine ⟨by simpa using ended,?_⟩
  cases waiting : task.wait_set with
  | none =>
    rw [waiting] at stored
    cases waiting.symm.trans stored
  | some wait =>
  rw [waiting] at stored
  simp only at stored
  split_ifs at stored
  exact ⟨wait,rfl,(Option.some.inj stored).symm⟩

private theorem watched_find (watched : List.Forall₂ Watched tasks sleepers) (task_id : TaskId) :
    Option.Rel Watched (tasks.get task_id) (sleepers.find? fun sleeper => sleeper.id == task_id) := by
  induction watched with
  | nil => exact .none
  | cons first rest ih =>
  rw [TaskTable.get] at ih ⊢
  rw [find?_cons,find?_cons,first.id]
  split
  · exact .some first
  · exact ih

private theorem unsatisfied_fired {other : WaitKey} (still : other ∈ unsatisfied (TaskTable.fired key wait)) :
    other ∈ unsatisfied wait := by
  obtain ⟨⟨condition,index⟩,listed,rfl⟩ := mem_map.mp still
  obtain ⟨entry,unmarked⟩ := mem_filter.mp listed
  refine mem_map.mpr ⟨_,mem_filter.mpr ⟨entry,?_⟩,rfl⟩
  obtain ⟨within,_⟩ := List.getElem?_eq_some_iff.mp (List.mem_zipIdx_iff_getElem?.mp entry)
  simp only [TaskTable.fired,Bool.not_eq_true',contains_eq_mem,decide_eq_false_iff_not,mem_filter,mem_range] at unmarked ⊢
  exact fun marked => unmarked ⟨within,by simp [marked]⟩

/-- One candidate hears an event as the task does, and nothing enters the index. -/
theorem Simulates.candidate (simulates : Simulates table sleepers) (key : WaitKey) (woken : List TaskId)
    (task_id : TaskId) : ∃ after, Table.notify_candidate key (woken,table) task_id =
        (woken ++ (if (sleepers.find? fun sleeper => sleeper.id == task_id).any (Sleeper.wakes key) then [task_id]
        else []),after) ∧
      Simulates after (change task_id (Sleeper.hear key) sleepers) ∧
      ∀ other k, other ∈ after.wait_index.lookup k → other ∈ table.wait_index.lookup k := by
  obtain ⟨watched,indexed⟩ := simulates
  obtain ⟨after,executed,rows,lockstep,lookup⟩ := Table.notify_candidate_spec indexed key woken task_id
  have rouses : (table.tasks.get task_id).any (roused key) = (sleepers.find? fun sleeper => sleeper.id == task_id).any (Sleeper.wakes key) := by
    have found := watched_find watched task_id
    revert found
    generalize table.tasks.get task_id = row
    generalize (sleepers.find? fun sleeper => sleeper.id == task_id) = sleeper
    rintro (paired | _)
    · exact (Watched.noticed paired key).2
    · rfl
  refine ⟨after,by rw [executed,rouses],⟨?_,?_,lockstep,?_,?_⟩,fun other k inside => ((lookup other k).mp inside).1⟩
  · rw [rows]
    refine forall₂_map_of watched fun task _ sleeper paired => ?_
    rw [← paired.id]
    split_ifs
    · exact (paired.noticed key).1
    · exact paired
  · rw [rows]
    exact modify_distinct indexed.distinct task_id (noticed_id key)
  · rw [rows]
    intro row member
    obtain ⟨task,held,rfl⟩ := mem_map.mp member
    by_cases named : task.id = task_id
    · rw [if_pos named]
      intro open_state recorded stored k unheard
      obtain ⟨still,wait,waiting,rfl⟩ := noticed_wait stored
      rw [noticed_id]
      refine (lookup _ k).mpr ⟨indexed.complete task held still wait waiting k (unsatisfied_fired unheard),fun both => ?_⟩
      cases stored.symm.trans (both.2 task ((get_some indexed.distinct).mpr ⟨held,named⟩))
    · rw [if_neg named]
      intro open_state wait waiting k unheard
      exact (lookup _ k).mpr ⟨indexed.complete task held open_state wait waiting k unheard,fun both => named both.1⟩
  intro id k inside
  obtain ⟨before,kept⟩ := (lookup id k).mp inside
  obtain ⟨task,held,named,wait,waiting,conditions⟩ := indexed.stored id k before
  rw [rows]
  by_cases same : task.id = task_id
  · refine ⟨noticed key task,mem_map.mpr ⟨task,held,if_pos same⟩,(noticed_id key task).trans named,?_⟩
    cases recorded : (noticed key task).wait_set with
    | none =>
      refine absurd ⟨named.symm.trans same,fun row found => ?_⟩ kept
      rw [(get_some indexed.distinct).mpr ⟨held,same⟩] at found
      cases found
      exact recorded
    | some left =>
    obtain ⟨_,twin,stored,rfl⟩ := noticed_wait recorded
    obtain rfl := Option.some.inj (waiting.symm.trans stored)
    exact ⟨_,rfl,conditions⟩
  · exact ⟨task,mem_map.mpr ⟨task,held,if_neg same⟩,named,wait,waiting,conditions⟩

private theorem Sleeper.hear_id (key : WaitKey) (sleeper : Sleeper) : (sleeper.hear key).id = sleeper.id := by
  unfold Sleeper.hear
  split
  · rfl
  · split_ifs <;> rfl

private theorem find_change {task_id other : TaskId} (apart : other ≠ task_id) (key : WaitKey) (sleepers : List Sleeper) :
    ((change task_id (Sleeper.hear key) sleepers).find? fun sleeper => sleeper.id == other) = sleepers.find? fun sleeper => sleeper.id == other := by
  induction sleepers with
  | nil => rfl
  | cons sleeper rest ih =>
  rw [change] at ih ⊢
  rw [map_cons,find?_cons,find?_cons,ih]
  by_cases named : sleeper.id = task_id
  · have distinct : (sleeper.id == other) = false := by
      rw [named]
      exact beq_eq_false_iff_ne.mpr (Ne.symm apart)
    rw [if_pos named,Sleeper.hear_id,distinct]
  · rw [if_neg named]

/-- The candidates hear an event one by one, each on its own. -/
theorem Simulates.candidates (key : WaitKey) (candidates : List TaskId) :
    ∀ {table : Table} {sleepers : List Sleeper} (woken : List TaskId),
    Simulates table sleepers → candidates.Nodup → ∃ after, candidates.foldl (Table.notify_candidate key) (woken,table) =
        (woken ++ (candidates.filter fun task_id =>
        (sleepers.find? fun sleeper => sleeper.id == task_id).any (Sleeper.wakes key)),after) ∧
      Simulates after (sleepers.map fun sleeper => if sleeper.id ∈ candidates then sleeper.hear key else sleeper) ∧
      ∀ other k, other ∈ after.wait_index.lookup k → other ∈ table.wait_index.lookup k := by
  induction candidates with
  | nil =>
    intro table sleepers woken simulates _
    exact ⟨table,by simp,by simpa using simulates,fun _ _ inside => inside⟩
  | cons task_id rest ih =>
  intro table sleepers woken simulates distinct
  obtain ⟨fresh,distinct⟩ := nodup_cons.mp distinct
  obtain ⟨middle,executed,stands,shrinks⟩ := simulates.candidate key woken task_id
  obtain ⟨after,finished,still,fewer⟩ := ih
    (woken ++ (if (sleepers.find? fun sleeper => sleeper.id == task_id).any (Sleeper.wakes key) then [task_id] else [])) stands distinct
  refine ⟨after,?_,?_,fun other k inside => shrinks other k (fewer other k inside)⟩
  · rw [foldl_cons,executed,finished]
    have others : (rest.filter fun other =>
    ((change task_id (Sleeper.hear key) sleepers).find? fun sleeper => sleeper.id == other).any (Sleeper.wakes key)) =
        rest.filter fun other => (sleepers.find? fun sleeper => sleeper.id == other).any (Sleeper.wakes key) := by
      refine filter_congr fun other held => ?_
      have apart : other ≠ task_id := by
        rintro rfl
        exact fresh held
      rw [find_change apart]
    rw [others,filter_cons,append_assoc]
    split_ifs <;> rfl
  rw [change,map_map] at still
  have same : ((fun sleeper => if sleeper.id ∈ rest then sleeper.hear key else sleeper) ∘
      fun sleeper => if sleeper.id = task_id then sleeper.hear key else sleeper) =
      fun sleeper : Sleeper => if sleeper.id ∈ task_id :: rest then sleeper.hear key else sleeper := by
    funext sleeper
    simp only [Function.comp_apply,mem_cons]
    by_cases named : sleeper.id = task_id
    · simp [named,Sleeper.hear_id,fresh]
    · simp [named]
  rw [same] at still
  exact still

private theorem watched_ids (watched : List.Forall₂ Watched tasks sleepers) :
    sleepers.map Sleeper.id = tasks.map Tcb.id := by
  induction watched with
  | nil => rfl
  | cons first _ ih => rw [map_cons,map_cons,ih,first.id]

theorem watched_partner (watched : List.Forall₂ Watched tasks sleepers)
    (held : sleeper ∈ sleepers) : ∃ task ∈ tasks, Watched task sleeper := by
  induction watched with
  | nil => cases held
  | cons first _ ih =>
  obtain rfl | inside := mem_cons.mp held
  · exact ⟨_,mem_cons_self,first⟩
  · obtain ⟨task,member,paired⟩ := ih inside
    exact ⟨task,mem_cons_of_mem _ member,paired⟩

private theorem Simulates.wakes_indexed (simulates : Simulates table sleepers)
    (held : sleeper ∈ sleepers) (wakes : sleeper.wakes key = true) : sleeper.id ∈ table.wait_index.lookup key := by
  obtain ⟨task,member,paired⟩ := watched_partner simulates.watched held
  by_contra outside
  have unwaited : task.state.is_terminal = false → ∀ wait, task.wait_set = some wait → key ∉ unsatisfied wait :=
    fun open_state wait waiting unheard =>
    outside (paired.id ▸ simulates.indexed.complete task member open_state wait waiting key unheard)
  have deaf := paired.deaf unwaited
  cases wakes.symm.trans deaf.2

private theorem sorted_eq {left right : List TaskId} (sorted : left.Pairwise (· ≤ ·)) (sorted_right : right.Pairwise (· ≤ ·)) (distinct : left.Nodup)
    (distinct_right : right.Nodup) (same : ∀ id, id ∈ left ↔ id ∈ right) : left = right :=
  ((perm_ext_iff_of_nodup distinct distinct_right).mpr same).eq_of_pairwise (fun _ _ _ _ least most => le_antisymm least most) sorted sorted_right

/-- An event wakes the tasks it completes, in the order of their ids, and every task has heard it. -/
theorem Simulates.notify (simulates : Simulates table sleepers) (key : WaitKey) :
    ∃ after, table.notify key = ((announce sleepers key).1,after) ∧ Simulates after (announce sleepers key).2 ∧
      ∀ other k, other ∈ after.wait_index.lookup k → other ∈ table.wait_index.lookup k := by
  have ids := watched_ids simulates.watched
  have distinct : (sleepers.map Sleeper.id).Nodup := ids ▸ simulates.indexed.distinct
  have members : ∀ id, id ∈ (table.wait_index.lookup key).insertionSort (· ≤ ·) ↔ id ∈ table.wait_index.lookup key := fun id =>
    (perm_insertionSort _ _).mem_iff
  have once : ((table.wait_index.lookup key).insertionSort (· ≤ ·)).Nodup :=
    (perm_insertionSort _ _).nodup_iff.mpr (simulates.indexed.lockstep.once key)
  obtain ⟨after,executed,stands,shrinks⟩ := Simulates.candidates key _ [] simulates once
  refine ⟨after,?_,⟨?_,stands.indexed⟩,shrinks⟩
  · rw [Table.notify,executed,nil_append]
    refine congrArg (·,after) (sorted_eq ?_ ?_ (once.filter _) ?_ fun id => ?_)
    · exact (pairwise_insertionSort _ _).filter _
    · exact pairwise_insertionSort _ _
    · exact (perm_insertionSort _ _).nodup_iff.mpr (distinct.sublist (filter_sublist.map _))
    rw [mem_filter,members,announce,(perm_insertionSort _ _).mem_iff,mem_map]
    constructor
    · rintro ⟨_,rouses⟩
      obtain ⟨sleeper,found,wakes⟩ := (Option.any_eq_true _ _).mp rouses
      refine ⟨sleeper,mem_filter.mpr ⟨mem_of_find?_eq_some found,wakes⟩,?_⟩
      simpa using find?_some found
    rintro ⟨sleeper,listed,rfl⟩
    obtain ⟨held,wakes⟩ := mem_filter.mp listed
    refine ⟨simulates.wakes_indexed held wakes,(Option.any_eq_true _ _).mpr ⟨sleeper,?_,wakes⟩⟩
    obtain ⟨twin,found⟩ := Option.isSome_iff_exists.mp
      (find?_isSome (p := fun other : Sleeper => other.id == sleeper.id).mpr ⟨sleeper,held,beq_self_eq_true _⟩)
    have named : twin.id = sleeper.id := by simpa using find?_some found
    exact found.trans (congrArg some (inj_on_of_nodup_map distinct (mem_of_find?_eq_some found) held named))
  let candidates := (table.wait_index.lookup key).insertionSort (· ≤ ·)
  have rest : List.Forall₂ Watched (after.tasks.map id)
      ((sleepers.map fun sleeper => if sleeper.id ∈ candidates then sleeper.hear key else sleeper).map fun sleeper =>
        if sleeper.id ∈ candidates then sleeper else sleeper.hear key) := by
    refine forall₂_map_of stands.watched fun task member sleeper paired => ?_
    split_ifs with candidate
    · exact paired
    · refine (paired.deaf fun open_state wait waiting unheard => candidate ?_).1
      have entered := stands.indexed.complete task member open_state wait waiting key unheard
      exact (members sleeper.id).mpr (paired.id ▸ shrinks task.id key entered)
  rw [map_id,map_map] at rest
  have all_heard : ((fun sleeper => if sleeper.id ∈ candidates then sleeper else sleeper.hear key) ∘
      fun sleeper => if sleeper.id ∈ candidates then sleeper.hear key else sleeper) = Sleeper.hear key := by
    funext sleeper
    simp only [Function.comp_apply]
    by_cases candidate : sleeper.id ∈ candidates
    · rw [if_pos candidate,if_pos (by rw [Sleeper.hear_id]; exact candidate)]
    · rw [if_neg candidate,if_neg candidate]
  rw [all_heard] at rest
  exact rest

private theorem unsatisfied_subset (held : key ∈ unsatisfied wait) : key ∈ wait.conditions := by
  obtain ⟨⟨condition,index⟩,listed,rfl⟩ := mem_map.mp held
  exact mem_of_getElem? (mem_zipIdx_iff_getElem?.mp (mem_filter.mp listed).1)

theorem Simulates.unheard (simulates : Simulates table sleepers)
    (nobody : table.wait_index.lookup key = []) :
    (announce sleepers key).1 = [] ∧ Simulates table (announce sleepers key).2 := by
  have closed : ∀ task ∈ table.tasks, task.state.is_terminal = false → ∀ wait, task.wait_set = some wait → key ∉ unsatisfied wait := by
    intro task member open_state wait waiting unheard
    have entered := simulates.indexed.complete task member open_state wait waiting key unheard
    rw [nobody] at entered
    cases entered
  constructor
  · have none_wakes : sleepers.filter (Sleeper.wakes key) = [] := by
      rw [filter_eq_nil_iff]
      intro sleeper held
      obtain ⟨task,member,paired⟩ := watched_partner simulates.watched held
      simp [(paired.deaf (closed task member)).2]
    rw [announce,none_wakes]
    rfl
  · have rest := forall₂_map_of simulates.watched (f := id) (g := Sleeper.hear key) fun task member sleeper paired =>
      (paired.deaf (closed task member)).1
    rw [map_id] at rest
    exact ⟨rest,simulates.indexed⟩

/-- Deadlines under which nobody stands may be left out. -/
theorem Simulates.passing {due : Nat → Bool} (deadlines : List Nat) :
    ∀ {table : Table} {sleepers : List Sleeper} (woken : List TaskId),
    Simulates table sleepers →
    (∀ deadline ∈ deadlines, due deadline = false → table.wait_index.lookup (.Timer deadline) = []) →
    ∃ after, ((deadlines.filter due).map Tasks.WaitCondition.Timer).foldl (fun (woken,table) key =>
          let (more,table) := Table.notify table key
          (woken ++ more,table)) (woken,table) =
        (((deadlines.map Tasks.WaitCondition.Timer).foldl (fun (woken,sleepers) key =>
          let (more,sleepers) := announce sleepers key
          (woken ++ more,sleepers)) (woken,sleepers)).1,after) ∧
      Simulates after ((deadlines.map Tasks.WaitCondition.Timer).foldl (fun (woken,sleepers) key =>
        let (more,sleepers) := announce sleepers key
        (woken ++ more,sleepers)) (woken,sleepers)).2 := by
  induction deadlines with
  | nil => exact fun woken simulates _ => ⟨_,rfl,simulates⟩
  | cons deadline rest ih =>
  intro table sleepers woken simulates vacant
  rw [map_cons,foldl_cons,filter_cons]
  cases passes : due deadline with
  | true =>
    obtain ⟨middle,executed,stands,shrinks⟩ := simulates.notify (.Timer deadline)
    rw [if_pos rfl,map_cons,foldl_cons]
    simp only [executed]
    refine ih (woken ++ (announce sleepers (.Timer deadline)).1) stands fun other held skipped => ?_
    rw [eq_nil_iff_forall_not_mem]
    intro id inside
    have before := shrinks id (.Timer other) inside
    rw [vacant other (mem_cons_of_mem _ held) skipped] at before
    cases before
  | false =>
  obtain ⟨nobody,stands⟩ := simulates.unheard (vacant deadline mem_cons_self passes)
  rw [if_neg Bool.false_ne_true]
  simp only [nobody,append_nil]
  exact ih woken stands fun other held => vacant other (mem_cons_of_mem _ held)

private theorem WaitIndex.due_timer_keys_eq {index : WaitIndex} (lockstep : index.Lockstep) (now_ms : Nat) : index.due_timer_keys now_ms =
    ((List.range (now_ms+1)).filter fun deadline => !(index.lookup (.Timer deadline)).isEmpty).map .Timer := by
  refine congrArg (map Tasks.WaitCondition.Timer) ?_
  have ascending : (index.timers.keys.filter (· ≤ now_ms)).Pairwise (· < ·) :=
    (index.timers.ordered_keys.imp fun less => Nat.compare_eq_lt.mp less).filter _
  have ascending_range : ((range (now_ms+1)).filter fun deadline => !(index.lookup (.Timer deadline)).isEmpty).Pairwise (· < ·) :=
    pairwise_lt_range.filter _
  have distinct : ∀ {deadlines : List Nat}, deadlines.Pairwise (· < ·) → deadlines.Nodup := fun increasing => increasing.imp fun less => less.ne
  refine ((perm_ext_iff_of_nodup (distinct ascending) (distinct ascending_range)).mpr fun deadline => ?_).eq_of_pairwise
    (fun _ _ _ _ less more => absurd less (lt_asymm more)) ascending ascending_range
  have listed := mem_due_timer_keys lockstep now_ms (.Timer deadline)
  rw [due_timer_keys,mem_map_of_injective fun _ _ same => Tasks.WaitCondition.Timer.inj same] at listed
  rw [listed,mem_filter,mem_range,Nat.lt_succ_iff]
  simp

theorem Simulates.wake_expired_timers (simulates : Simulates table sleepers) (now_ms : Nat) :
    ∃ after, table.wake_expired_timers now_ms = ((expire sleepers now_ms).1,after) ∧
    Simulates after (expire sleepers now_ms).2 := by
  rw [Table.wake_expired_timers,due_timer_keys_eq simulates.indexed.lockstep]
  exact simulates.passing _ [] fun deadline _ skipped => by simpa using skipped

private theorem change_of_fixed {task_id : TaskId} {by_task : Sleeper → Sleeper}
    (fixed : ∀ sleeper ∈ sleepers, sleeper.id = task_id → by_task sleeper = sleeper) : change task_id by_task sleepers = sleepers := by
  rw [change]
  conv_rhs => rw [← map_id sleepers]
  refine map_congr_left fun sleeper held => ?_
  split_ifs with named
  · exact fixed sleeper held named
  · rfl

/-- A wait set that names something, or nothing at all. -/
def Named : Op → Prop
  | .register_wait_set _ wait_set => wait_set.conditions = [] ∨ wait_set.conditions.flatMap keys_for ≠ []
  | _ => True

instance : DecidablePred Named
  | .register_wait_set _ wait_set => inferInstanceAs (Decidable (wait_set.conditions = [] ∨ wait_set.conditions.flatMap keys_for ≠ []))
  | .notify _ | .wake_expired_timers _ | .complete _ _ | .cancel _ | .rebuild_wait_index => .isTrue trivial

private theorem durable_tracks (wait_set : WaitSet) : Tracks wait_set.durable ⟨wait_set.mode,wait_set.conditions.flatMap keys_for,[]⟩ where
  mode := rfl
  conditions := rfl
  satisfied := by
    refine (filter_eq_nil_iff.mpr fun index _ => ?_).symm
    cases (wait_set.conditions.flatMap keys_for)[index]? <;> simp

theorem Simulates.register_wait_set (simulates : Simulates table sleepers) (task_id : TaskId) {wait_set : WaitSet}
    (named : wait_set.conditions = [] ∨ wait_set.conditions.flatMap keys_for ≠ []) :
    Simulates (table.register_wait_set task_id wait_set)
      (if wait_set.conditions.isEmpty then sleepers else change task_id (Sleeper.watch wait_set) sleepers) := by
  obtain ⟨watched,indexed⟩ := simulates
  obtain empty | filled := named
  · have kept : table.register_wait_set task_id wait_set = table := by
      unfold Table.register_wait_set
      split
      · rfl
      · simp [empty]
    rw [kept,empty]
    exact ⟨watched,indexed⟩
  have nonempty : wait_set.conditions.isEmpty = false := by
    rw [Bool.eq_false_iff]
    intro empty
    rw [isEmpty_iff.mp empty] at filled
    exact filled rfl
  rw [nonempty,if_neg Bool.false_ne_true]
  unfold Table.register_wait_set
  cases held : table.tasks.get task_id with
  | none =>
    have absent : change task_id (Sleeper.watch wait_set) sleepers = sleepers := change_of_fixed fun sleeper listed same => by
      obtain ⟨task,member,paired⟩ := watched_partner watched listed
      exact absurd (paired.id.trans same) (get_none.mp held task member)
    rw [absent]
    exact ⟨watched,indexed⟩
  | some task =>
  obtain ⟨member,same⟩ := (get_some indexed.distinct).mp held
  have only : ∀ twin ∈ table.tasks, twin.id = task_id → twin = task := fun twin listed named =>
    inj_on_of_nodup_map indexed.distinct listed member (named.trans same.symm)
  by_cases ended : task.state.is_terminal = true
  · have final : change task_id (Sleeper.watch wait_set) sleepers = sleepers := change_of_fixed fun sleeper listed named => by
      obtain ⟨twin,inside,paired⟩ := watched_partner watched listed
      obtain rfl := only twin inside (paired.id.trans named)
      rw [Sleeper.watch,if_pos (paired.state ▸ ended)]
    simp only [ended,Bool.or_true,if_true,final]
    exact ⟨watched,indexed⟩
  rw [Bool.not_eq_true] at ended
  simp only [nonempty,ended,Bool.or_false,Bool.false_eq_true,if_false]
  have rows : (table.clear_durable_wait task_id).tasks.modify task_id
    (fun task => { task with state := .Suspended, wait_set := some wait_set.durable }) =
      table.tasks.modify task_id fun task => { task with state := .Suspended, wait_set := some wait_set.durable } := by
    rw [Table.clear_durable_wait_tasks indexed.distinct,TaskTable.clear_wait,modify_modify]
    · rfl
    · exact fun _ => rfl
  rw [rows,register_wait_set_eq]
  have lookup : ∀ id k, id ∈ ((wait_set.conditions.flatMap keys_for).foldl (enter task_id) (table.clear_durable_wait task_id).wait_index).lookup k ↔
      (id ∈ table.wait_index.lookup k ∧ id ≠ task_id) ∨ id = task_id ∧ k ∈ wait_set.durable.conditions := by
    intro id k
    rw [mem_enters,indexed.lookup_cleared]
    rfl
  refine ⟨?_,⟨?_,(Table.clear_durable_wait_lockstep indexed.lockstep _).enters _ _,?_,?_⟩⟩
  · refine forall₂_map_of watched fun twin inside sleeper paired => ?_
    rw [← paired.id]
    split_ifs with named
    · obtain rfl := only twin inside named
      have begins : sleeper.watch wait_set =
      { sleeper with state := .Suspended, vigil := some ⟨wait_set.mode,wait_set.conditions.flatMap keys_for,[]⟩ } := by
        rw [Sleeper.watch,if_neg (by simp [← paired.state,ended])]
      rw [begins]
      refine ⟨paired.id,rfl,fun final => ?_,fun none_left => ?_,fun _ stored kept => ?_⟩
      · cases final
      · cases none_left
      cases kept
      refine ⟨rfl,_,rfl,durable_tracks wait_set,?_,filled⟩
      obtain ⟨condition,listed⟩ := exists_mem_of_ne_nil _ filled
      cases mode : wait_set.mode with
      | Any => simp [Vigil.met]
      | All =>
      simp only [Vigil.met,all_eq_false]
      exact ⟨condition,listed,by simp⟩
    · exact paired
  · exact modify_distinct indexed.distinct task_id (by intro _; rfl)
  · intro row listed open_state wait stored k unheard
    obtain ⟨twin,inside,rfl⟩ := mem_map.mp listed
    by_cases named : twin.id = task_id
    · rw [if_pos named] at stored ⊢
      cases stored
      exact (lookup _ k).mpr (.inr ⟨named,unsatisfied_subset unheard⟩)
    · rw [if_neg named] at stored open_state ⊢
      exact (lookup _ k).mpr (.inl ⟨indexed.complete twin inside open_state wait stored k unheard,named⟩)
  intro id k entered
  obtain ⟨before,other⟩ | ⟨rfl,condition⟩ := (lookup id k).mp entered
  · obtain ⟨twin,inside,named,wait,stored,listed⟩ := indexed.stored id k before
    exact ⟨twin,mem_map.mpr ⟨twin,inside,if_neg fun same => other (named.symm.trans same)⟩,named,wait,stored,listed⟩
  · exact ⟨_,mem_map.mpr ⟨task,member,if_pos same⟩,same,_,rfl,condition⟩

theorem Simulates.complete (simulates : Simulates table sleepers) (task_id : TaskId) (reason : TerminationReason) :
    Simulates (table.complete task_id reason) (change task_id (Sleeper.finish reason) sleepers) := by
  obtain ⟨watched,indexed⟩ := simulates
  refine ⟨?_,⟨?_,indexed.lockstep,?_,?_⟩⟩
  · refine forall₂_map_of watched fun task _ sleeper paired => ?_
    rw [← paired.id]
    split_ifs
    · exact ⟨paired.id,rfl,fun _ => rfl,fun _ => rfl,fun open_state => by cases open_state⟩
    · exact paired
  · exact modify_distinct indexed.distinct task_id (by intro _; rfl)
  · intro row listed open_state wait stored k unheard
    obtain ⟨task,inside,rfl⟩ := mem_map.mp listed
    by_cases named : task.id = task_id
    · rw [if_pos named] at open_state
      cases open_state
    · rw [if_neg named] at open_state stored ⊢
      exact indexed.complete task inside open_state wait stored k unheard
  intro id k entered
  obtain ⟨task,inside,named,wait,stored,condition⟩ := indexed.stored id k entered
  by_cases same : task.id = task_id
  · exact ⟨_,mem_map.mpr ⟨task,inside,if_pos same⟩,named,wait,stored,condition⟩
  · exact ⟨task,mem_map.mpr ⟨task,inside,if_neg same⟩,named,wait,stored,condition⟩

theorem Simulates.cancel (subtree : List TaskId) :
    ∀ {table : Table} {sleepers : List Sleeper}, Simulates table sleepers →
    Simulates (table.cancel subtree)
    (subtree.foldl (fun sleepers task_id => change task_id (Sleeper.finish .UserAbort) sleepers) sleepers) := by
  induction subtree with
  | nil => exact fun simulates => simulates
  | cons task_id rest ih => exact fun simulates => ih (simulates.complete task_id .UserAbort)

private theorem Table.lookup_rebuilt (table : Table) (id : TaskId) (key : WaitKey) : id ∈ table.rebuild_wait_index.wait_index.lookup key ↔
    ∃ task ∈ table.tasks, task.id = id ∧ ∃ wait, task.wait_set = some wait ∧ key ∈ unsatisfied wait := by
  have entered : ∀ (tasks : TaskTable) (index : WaitIndex), id ∈ (tasks.foldl (fun index task =>
        match task.wait_set with
        | none => index
        | some wait => (unsatisfied wait).foldl (enter task.id) index) index).lookup key ↔
      id ∈ index.lookup key ∨ ∃ task ∈ tasks, task.id = id ∧ ∃ wait, task.wait_set = some wait ∧ key ∈ unsatisfied wait := by
    intro tasks
    induction tasks with
    | nil => simp
    | cons task rest ih =>
    intro index
    rw [foldl_cons,ih]
    cases waiting : task.wait_set with
    | none => simp [waiting]
    | some wait =>
    simp only [mem_enters,exists_mem_cons_iff,waiting,Option.some.injEq,exists_eq_left']
    rw [or_assoc,eq_comm]
  refine (entered table.tasks .new).trans (or_iff_right fun held => ?_)
  cases held

theorem Simulates.rebuild_wait_index (simulates : Simulates table sleepers) :
    Simulates table.rebuild_wait_index sleepers := by
  obtain ⟨watched,indexed⟩ := simulates
  have lockstep : ∀ (tasks : TaskTable) (index : WaitIndex), index.Lockstep → (tasks.foldl (fun index task =>
      match task.wait_set with
      | none => index
      | some wait => (unsatisfied wait).foldl (enter task.id) index) index).Lockstep := by
    intro tasks
    induction tasks with
    | nil => exact fun _ kept => kept
    | cons task rest ih =>
    intro index kept
    rw [foldl_cons]
    refine ih _ ?_
    split
    · exact kept
    · exact kept.enters _ _
  refine ⟨watched,indexed.distinct,lockstep _ _ .new,?_,?_⟩
  · intro task member _ wait stored key unheard
    exact (table.lookup_rebuilt task.id key).mpr ⟨task,member,rfl,wait,stored,unheard⟩
  · intro id key entered
    obtain ⟨task,member,named,wait,stored,unheard⟩ := (table.lookup_rebuilt id key).mp entered
    exact ⟨task,member,named,wait,stored,unsatisfied_subset unheard⟩

theorem Simulates.step {table : Table} {sleepers : List Sleeper} (simulates : Simulates table sleepers) {op : Op}
    (named : Named op) :
    ∃ after, table.step op = ((observe sleepers op).1,after) ∧ Simulates after (observe sleepers op).2 := by
  cases op with
  | register_wait_set task_id wait_set => exact ⟨_,rfl,simulates.register_wait_set task_id named⟩
  | notify key =>
    obtain ⟨after,executed,stands,_⟩ := simulates.notify key
    exact ⟨after,executed,stands⟩
  | wake_expired_timers now_ms => exact simulates.wake_expired_timers now_ms
  | complete task_id reason => exact ⟨_,rfl,simulates.complete task_id reason⟩
  | cancel subtree => exact ⟨_,rfl,Simulates.cancel subtree simulates⟩
  | rebuild_wait_index => exact ⟨_,rfl,simulates.rebuild_wait_index⟩

theorem Simulates.run (ops : List Op) : ∀ {table : Table} {sleepers : List Sleeper}, Simulates table sleepers →
    (∀ op ∈ ops, Named op) →
    (table.run ops).1 = (observeRun sleepers ops).1 ∧ Simulates (table.run ops).2 (observeRun sleepers ops).2 := by
  induction ops with
  | nil => exact fun simulates _ => ⟨rfl,simulates⟩
  | cons op rest ih =>
  intro table sleepers simulates named
  obtain ⟨after,executed,stands⟩ := simulates.step (named op mem_cons_self)
  obtain ⟨woken,still⟩ := ih stands fun other held => named other (mem_cons_of_mem _ held)
  simp only [Table.run,observeRun,executed]
  exact ⟨by rw [woken],still⟩

/-- Tasks none of which waits. -/
def asleep (tasks : TaskTable) : List Sleeper := tasks.map fun task => ⟨task.id,task.state,none⟩

private theorem simulates_idle (distinct : (tasks.map Tcb.id).Nodup) (idle : ∀ task ∈ tasks, task.wait_set = none) :
    Simulates ⟨tasks,.new⟩ (asleep tasks) := by
  refine ⟨?_,distinct,.new,?_,?_⟩
  · have paired : List.Forall₂ (fun task sleeper => task ∈ tasks ∧ sleeper = ⟨task.id,task.state,none⟩) tasks (asleep tasks) := by
      rw [asleep,forall₂_map_right_iff,forall₂_same]
      exact fun task held => ⟨held,rfl⟩
    refine paired.imp ?_
    rintro task sleeper ⟨held,rfl⟩
    refine ⟨rfl,rfl,fun _ => rfl,fun _ => rfl,fun _ wait waiting => ?_⟩
    cases (idle task held).symm.trans waiting
  · intro task held _ wait waiting
    cases (idle task held).symm.trans waiting
  · intro id key held
    cases held

/-- In every run every operation wakes exactly the tasks whose wait it completes, as tasks do that remember what they
    heard. The index has every open condition of every waiting task under its key, a task once under each, and nothing
    whose wait set is not stored any more. A rebuilt index has exactly the open conditions, and no later operation can
    tell it from the one it replaces. -/
theorem wakes_exactly (tasks : TaskTable) (distinct : (tasks.map Tcb.id).Nodup)
    (idle : ∀ task ∈ tasks, task.wait_set = none)
    (ops : List Op) (named : ∀ op ∈ ops, Named op) :
    (Table.run ⟨tasks,.new⟩ ops).1 = (observeRun (asleep tasks) ops).1 ∧ (Table.run ⟨tasks,.new⟩ ops).2.Indexed ∧
      (∀ id key, id ∈ (Table.run ⟨tasks,.new⟩ ops).2.rebuild_wait_index.wait_index.lookup key ↔
        ∃ task ∈ (Table.run ⟨tasks,.new⟩ ops).2.tasks, task.id = id ∧ ∃ wait, task.wait_set = some wait ∧
        key ∈ unsatisfied wait) ∧
      ∀ later : List Op, (∀ op ∈ later, Named op) →
        ((Table.run ⟨tasks,.new⟩ ops).2.rebuild_wait_index.run later).1 =
        ((Table.run ⟨tasks,.new⟩ ops).2.run later).1 := by
  obtain ⟨woken,stands⟩ := Simulates.run ops (simulates_idle distinct idle) named
  refine ⟨woken,stands.indexed,Table.lookup_rebuilt _,fun later names => ?_⟩
  exact ((Simulates.run later stands.rebuild_wait_index names).1).trans (Simulates.run later stands names).1.symm

/-- Two tasks, one of which waits for both of two effects and a deadline. -/
def waiters : TaskTable := [Tcb.root "root",Tcb.spawned_in "child" "root" .Running]

def bothEffects : List Op :=
  [.register_wait_set "child" ⟨.All,[.Effect "first",.Effect "second",.Timer 5]⟩,.notify (.Effect "first"),.wake_expired_timers 7]

/-- Two effects and a timer, all of them awaited, over a rebuilt index. -/
theorem wakes_exactly_bothEffects :
    (Table.run ⟨waiters,.new⟩
    (bothEffects ++ [.rebuild_wait_index,.notify (.Effect "first"),.notify (.Effect "second")])).1 =
      [[],[],[],[],[],["child"]] := by
  rw [(wakes_exactly waiters (by decide) (by decide) _ (by decide)).1]
  decide +kernel

/-- The index still names a task under a condition that has fired. -/
theorem satisfied_still_indexed : ∃ task ∈ (Table.run ⟨waiters,.new⟩ bothEffects).2.tasks, ∃ wait,
    task.wait_set = some wait ∧
    Tasks.WaitCondition.Effect "first" ∉ unsatisfied wait ∧
    task.id ∈ (Table.run ⟨waiters,.new⟩ bothEffects).2.wait_index.lookup (.Effect "first") := by
  obtain ⟨task,held,still⟩ := any_eq_true.mp (show (Table.run ⟨waiters,.new⟩ bothEffects).2.tasks.any (fun task =>
    task.wait_set.any fun wait => decide (Tasks.WaitCondition.Effect "first" ∉ unsatisfied wait ∧
      task.id ∈ (Table.run ⟨waiters,.new⟩ bothEffects).2.wait_index.lookup (.Effect "first"))) = true from by decide +kernel)
  obtain ⟨wait,waiting,facts⟩ := (Option.any_eq_true _ _).mp still
  exact ⟨task,held,wait,waiting,of_decide_eq_true facts⟩

end Deepstrike.Waiting

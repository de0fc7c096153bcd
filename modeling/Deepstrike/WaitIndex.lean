import Deepstrike.Tasks

/-!
The reverse wait index: which tasks wait under an event key, kept beside the durable wait sets of the tasks by every
operation that registers, hears or clears a wait, and rebuilt from them.
-/
namespace Deepstrike.Waiting
open Std List
open Wire (EffectId TaskId TerminationReason)
open Tasks (WaitMode DurableWaitSet Tcb TaskTable TaskLifecycle)

/-- One indexable event key, and one stored condition: what is stored of a condition names one thing. -/
abbrev WaitKey := Tasks.WaitCondition

/-- The wait vocabulary as a caller names it. -/
inductive WaitCondition where
  | Effect (effect_id : EffectId)
  | Child (task_id : TaskId)
  | Children (task_ids : List TaskId)
  | Approval (approval_id : String)
  | Signal (filter : String)
  | Timer (deadline : Nat)
  | Channel (channel_id : String)
  | Resource (key : String)
  | External (subscription : String)
  deriving DecidableEq,Repr

def keys_for : WaitCondition → List WaitKey
  | .Effect id => [.Effect id]
  | .Child id => [.Child id]
  | .Children ids => ids.map .Child
  | .Approval id => [.Approval id]
  | .Signal filter => [.Signal filter]
  | .Timer deadline => [.Timer deadline]
  | .Channel id => [.Channel id]
  | .Resource key => [.Resource key]
  | .External id => [.External id]

structure WaitSet where
  mode : WaitMode
  conditions : List WaitCondition
  deriving DecidableEq,Repr

/-- The durable half of a wait. A condition over several children is stored as one for each child. -/
def WaitSet.durable (wait_set : WaitSet) : DurableWaitSet := ⟨wait_set.mode,wait_set.conditions.flatMap keys_for,[]⟩

/-- The conditions that have not fired. -/
def unsatisfied (wait : DurableWaitSet) : List WaitKey :=
  (wait.conditions.zipIdx.filter fun entry => !wait.satisfied.contains entry.2).map Prod.fst

structure WaitIndex where
  tasks_by_key : WaitKey → List TaskId
  /-- The waiting tasks by deadline. -/
  timers : ExtTreeMap Nat (List TaskId)

namespace WaitIndex

def new : WaitIndex := ⟨fun _ => [],∅⟩

def lookup (index : WaitIndex) (key : WaitKey) : List TaskId := index.tasks_by_key key

/-- Put a task under one key. A bucket names a task once. -/
def enter (task_id : TaskId) (index : WaitIndex) (key : WaitKey) : WaitIndex where
  tasks_by_key other :=
    if other = key then if (index.lookup key).contains task_id then index.lookup key
    else index.lookup key ++ [task_id] else index.lookup other
  timers :=
    match key with
    | .Timer deadline => index.timers.insert deadline (index.timers.getD deadline [] ++ [task_id])
    | _ => index.timers

def insert (task_id : TaskId) (index : WaitIndex) (condition : WaitCondition) : WaitIndex :=
  (keys_for condition).foldl (enter task_id) index

/-- Take a task from under one key. -/
def leave (task_id : TaskId) (index : WaitIndex) (key : WaitKey) : WaitIndex where
  tasks_by_key other := if other = key then (index.lookup key).filter (· ≠ task_id) else index.lookup other
  timers :=
    match key with
    | .Timer deadline =>
      match index.timers[deadline]? with
      | none => index.timers
      | some bucket =>
        let rest := bucket.filter (· ≠ task_id)
        if rest.isEmpty then index.timers.erase deadline else index.timers.insert deadline rest
    | _ => index.timers

def register_wait_set (task_id : TaskId) (index : WaitIndex) (conditions : List WaitCondition) : WaitIndex :=
  conditions.foldl (insert task_id) index

/-- The timer keys due at a time, by deadline. -/
def due_timer_keys (index : WaitIndex) (now_ms : Nat) : List WaitKey := (index.timers.keys.filter (· ≤ now_ms)).map .Timer

theorem register_wait_set_eq (task_id : TaskId) (index : WaitIndex) (conditions : List WaitCondition) :
    index.register_wait_set task_id conditions = (conditions.flatMap keys_for).foldl (enter task_id) index := by
  rw [foldl_flatMap]
  rfl

private theorem lookup_enter (task_id : TaskId) (index : WaitIndex) (key other : WaitKey) : (index.enter task_id key).lookup other =
    if other = key then if (index.lookup key).contains task_id then index.lookup key else index.lookup key ++ [task_id] else index.lookup other := rfl

private theorem lookup_leave (task_id : TaskId) (index : WaitIndex) (key other : WaitKey) : (index.leave task_id key).lookup other =
    if other = key then (index.lookup key).filter (· ≠ task_id) else index.lookup other := rfl

variable (task_id id : TaskId)

private theorem mem_enter (index : WaitIndex) (key other : WaitKey) :
    id ∈ (index.enter task_id key).lookup other ↔ id ∈ index.lookup other ∨ id = task_id ∧ other = key := by
  rw [lookup_enter]
  by_cases same : other = key
  · subst same
    rw [if_pos rfl]
    by_cases known : task_id ∈ index.lookup other
    · rw [if_pos (contains_iff_mem.mpr known)]
      constructor
      · exact .inl
      · rintro (held | ⟨rfl,_⟩)
        · exact held
        · exact known
    · rw [if_neg (mt contains_iff_mem.mp known)]
      simp
  · rw [if_neg same]
    simp [same]

private theorem mem_leave (index : WaitIndex) (key other : WaitKey) :
    id ∈ (index.leave task_id key).lookup other ↔ id ∈ index.lookup other ∧ ¬ (id = task_id ∧ other = key) := by
  rw [lookup_leave]
  by_cases same : other = key
  · subst same
    simp
  · simp [same]

theorem mem_enters (keys : List WaitKey) (other : WaitKey) : ∀ index : WaitIndex,
    id ∈ (keys.foldl (enter task_id) index).lookup other ↔ id ∈ index.lookup other ∨ id = task_id ∧ other ∈ keys := by
  induction keys with
  | nil => simp
  | cons key rest ih =>
  intro index
  rw [foldl_cons,ih,mem_enter,mem_cons]
  tauto

theorem mem_leaves (keys : List WaitKey) (other : WaitKey) : ∀ index : WaitIndex,
    id ∈ (keys.foldl (leave task_id) index).lookup other ↔ id ∈ index.lookup other ∧
    ¬ (id = task_id ∧ other ∈ keys) := by
  induction keys with
  | nil => simp
  | cons key rest ih =>
  intro index
  rw [foldl_cons,ih,mem_leave,mem_cons]
  tauto

/-- Every bucket names a task once, and the timers are the timer keys that have one. -/
structure Lockstep (index : WaitIndex) : Prop where
  once : ∀ key, (index.lookup key).Nodup
  timed : ∀ deadline id, id ∈ index.timers.getD deadline [] ↔ id ∈ index.lookup (.Timer deadline)
  occupied : ∀ (deadline : Nat) (bucket : List TaskId), index.timers[deadline]? = some bucket → bucket ≠ []

theorem Lockstep.new : Lockstep new where
  once _ := nodup_nil
  timed deadline id := by simp [WaitIndex.new,lookup]
  occupied deadline bucket found := by simp [WaitIndex.new] at found

variable {index : WaitIndex}

section
variable (lockstep : Lockstep index)
include lockstep

/-- A task that waits is entered on both sides. -/
theorem Lockstep.enter (task_id : TaskId) (key : WaitKey) : Lockstep (index.enter task_id key) where
  once other := by
    rw [lookup_enter]
    split_ifs with same known
    · exact lockstep.once key
    · rw [contains_iff_mem] at known
      exact (nodup_append.mpr ⟨lockstep.once key,by simp,fun first held second single => by
        rintro rfl
        exact known (mem_singleton.mp single ▸ held)⟩)
    · exact lockstep.once other
  timed deadline id := by
    rw [mem_enter,← lockstep.timed]
    cases key with
    | Timer due =>
      simp only [WaitIndex.enter,ExtTreeMap.getD_insert,Tasks.WaitCondition.Timer.injEq]
      by_cases same : due = deadline
      · subst same
        simp
      · have apart : compare due deadline ≠ .eq := fun equal => same (LawfulEqCmp.eq_of_compare equal)
        rw [if_neg apart]
        simp [Ne.symm same]
    | _ => simp [WaitIndex.enter]
  occupied deadline bucket found := by
    cases key with
    | Timer due =>
      simp only [WaitIndex.enter,ExtTreeMap.getElem?_insert] at found
      split at found
      · cases found
        simp
      · exact lockstep.occupied deadline bucket found
    | _ => exact lockstep.occupied deadline bucket found

/-- A task that leaves is taken out on both sides. -/
theorem Lockstep.leave (task_id : TaskId) (key : WaitKey) : Lockstep (index.leave task_id key) where
  once other := by
    rw [lookup_leave]
    split_ifs
    · exact (lockstep.once key).filter _
    · exact lockstep.once other
  timed deadline id := by
    rw [mem_leave,← lockstep.timed]
    cases key with
    | Timer due =>
      simp only [WaitIndex.leave,Tasks.WaitCondition.Timer.injEq]
      cases held : index.timers[due]? with
      | none =>
        by_cases same : deadline = due
        · subst same
          simp [ExtTreeMap.getD_eq_getD_getElem?,held]
        · simp [same]
      | some bucket =>
      simp only
      by_cases same : deadline = due
      · subst same
        split_ifs with emptied
        · rw [ExtTreeMap.getD_erase_self,ExtTreeMap.getD_eq_getD_getElem?,held]
          have gone := isEmpty_iff.mp emptied
          rw [filter_eq_nil_iff] at gone
          simp only [not_mem_nil,Option.getD_some,and_true,false_iff,not_and,not_not]
          intro listed
          simpa using gone id listed
        · rw [ExtTreeMap.getD_insert_self,ExtTreeMap.getD_eq_getD_getElem?,held]
          simp
      have apart : compare due deadline ≠ .eq := fun equal => same (LawfulEqCmp.eq_of_compare equal).symm
      split_ifs
      · rw [ExtTreeMap.getD_erase,if_neg apart]
        simp [same]
      · rw [ExtTreeMap.getD_insert,if_neg apart]
        simp [same]
    | _ => simp [WaitIndex.leave]
  occupied deadline bucket found := by
    cases key with
    | Timer due =>
      simp only [WaitIndex.leave] at found
      split at found
      · exact lockstep.occupied deadline bucket found
      next listed held =>
      split_ifs at found with emptied
      · rw [ExtTreeMap.getElem?_erase] at found
        split at found
        · cases found
        · exact lockstep.occupied deadline bucket found
      rw [ExtTreeMap.getElem?_insert] at found
      split at found
      · cases found
        simpa using emptied
      · exact lockstep.occupied deadline bucket found
    | _ => exact lockstep.occupied deadline bucket found

theorem Lockstep.enters (task_id : TaskId) (keys : List WaitKey) :
    Lockstep (keys.foldl (WaitIndex.enter task_id) index) := by
  induction keys generalizing index with
  | nil => exact lockstep
  | cons key rest ih => exact ih (lockstep.enter task_id key)

theorem Lockstep.leaves (task_id : TaskId) (keys : List WaitKey) :
    Lockstep (keys.foldl (WaitIndex.leave task_id) index) := by
  induction keys generalizing index with
  | nil => exact lockstep
  | cons key rest ih => exact ih (lockstep.leave task_id key)

/-- A deadline is due when a task waits under its key and the time has come. -/
theorem mem_due_timer_keys (now_ms : Nat) (key : WaitKey) :
    key ∈ index.due_timer_keys now_ms ↔ ∃ deadline, key = .Timer deadline ∧ deadline ≤ now_ms ∧
    index.lookup key ≠ [] := by
  have listed : ∀ deadline, deadline ∈ index.timers.keys ↔ index.lookup (.Timer deadline) ≠ [] := by
    intro deadline
    rw [ExtTreeMap.mem_keys]
    constructor
    · intro held empty
      obtain ⟨bucket,found⟩ : ∃ bucket, index.timers[deadline]? = some bucket := by
        rw [← Option.isSome_iff_exists]
        simpa using held
      obtain ⟨id,inside⟩ := exists_mem_of_ne_nil _ (lockstep.occupied deadline bucket found)
      have timed := (lockstep.timed deadline id).mp (by rw [ExtTreeMap.getD_eq_getD_getElem?,found]; exact inside)
      rw [empty] at timed
      cases timed
    intro waiting
    obtain ⟨id,inside⟩ := exists_mem_of_ne_nil _ waiting
    have timed := (lockstep.timed deadline id).mpr inside
    by_contra absent
    rw [ExtTreeMap.getD_eq_fallback absent] at timed
    cases timed
  unfold due_timer_keys
  rw [mem_map]
  constructor
  · rintro ⟨deadline,held,rfl⟩
    obtain ⟨inside,due⟩ := mem_filter.mp held
    exact ⟨deadline,rfl,by simpa using due,(listed deadline).mp inside⟩
  · rintro ⟨deadline,rfl,due,waiting⟩
    exact ⟨deadline,mem_filter.mpr ⟨(listed deadline).mpr waiting,by simpa using due⟩,rfl⟩

end

end WaitIndex
end Deepstrike.Waiting

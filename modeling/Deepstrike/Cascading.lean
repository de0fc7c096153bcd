import Deepstrike.Lineage
import Mathlib.Data.Set.Lattice

/-!
What the cancellation of a subtree writes: every task below that no detached one hides, whether it has
ended or not.
-/
namespace Deepstrike.Lineage
open Std Wire Forests List Tcb Function
open Scheduler (IsolationManifest)
open Tasks (TaskLifecycle)

/-- What a row says of the tree. -/
def Tcb.links (task : Tcb) : TaskId × Option TaskId × ExtTreeSet TaskId compare := (task.id,task.parent,task.children)

namespace TaskTable

/-- One step up: the task of the first identity has the second as its parent. -/
abbrev Parent (table : TaskTable) : TaskId → TaskId → Prop := Under (fun task : Tcb => task.id) (fun task : Tcb => task.parent) table

/-- One step down, to a child that is not detached. -/
def Attached (table : TaskTable) (above child : TaskId) : Prop :=
  ∃ row ∈ table, row.id = child ∧ row.parent = some above ∧ row.detached = false

/-- The task and what is below it, save what a detached task hides. -/
def Reach (table : TaskTable) (task_id : TaskId) : Set TaskId := { other | Relation.ReflTransGen table.Attached task_id other }

/-- What is below the task, save what a detached task hides. -/
def Descendants (table : TaskTable) (task_id : TaskId) : Set TaskId := { other | Relation.TransGen table.Attached task_id other }

/-- What is below the task by way of a child that has not ended. -/
def LiveBranches (table : TaskTable) (task_id : TaskId) : Set TaskId :=
  { other | ∃ child ∈ table, child.parent = some task_id ∧ child.detached = false ∧ child.state.is_terminal = false ∧
  other ∈ table.Reach child.id }

/-- The children of every row are the rows that name it. -/
def Listed (table : TaskTable) : Prop := ∀ task ∈ table, ∀ child, child ∈ task.children ↔
    ∃ row ∈ table, row.id = child ∧ row.parent = some task.id

/-- A tree of tasks, under whatever root. -/
structure Planted (table : TaskTable) : Prop where
  rooted : ∃ root rank, Rooted (fun task : Tcb => task.id) (fun task => task.parent) root rank table
  listed : table.Listed

open Classical in
/-- What is asked of a cancellation: those hit that have not ended are aborted, and every other row stays as it is. -/
noncomputable def cancelled (table : TaskTable) (hit : Set TaskId) : TaskTable :=
  table.map fun task => if task.id ∈ hit ∧ task.state.is_terminal = false then { task with state := .Done .UserAbort } else task

open Classical in
/-- What the walk makes of the rows it meets. -/
noncomputable def marked (table : TaskTable) (hit : Set TaskId) : TaskTable :=
  table.map fun task => if task.id ∈ hit then { task with state := .Done .UserAbort } else task

variable {table : TaskTable}

variable {id : TaskId} {row : Tcb}

theorem get_some {task : Tcb} (found : table.get id = some task) : task ∈ table ∧ task.id = id :=
  ⟨mem_of_find?_eq_some found,by simpa using find?_some found⟩

theorem get_none (absent : table.get id = none) : ∀ task ∈ table, task.id ≠ id := by simpa [get] using absent

theorem marked_links (table : TaskTable) (hit : Set TaskId) : (table.marked hit).map links = table.map links := by
  simp only [marked,map_map]
  refine map_congr_left fun task _ => ?_
  simp only [comp]
  split <;> rfl

private theorem marked_length (table : TaskTable) (hit : Set TaskId) : (table.marked hit).length = table.length := length_map _

theorem marked_empty (table : TaskTable) : table.marked ∅ = table := by
  simp only [marked,Set.mem_empty_iff_false,if_false,map_id']

open Classical in
private theorem get_marked (table : TaskTable) (hit : Set TaskId) (id : TaskId) :
    (table.marked hit).get id = (table.get id).map fun task => if task.id ∈ hit then { task with state := .Done .UserAbort } else task := by
  unfold marked get
  rw [find?_map]
  have same : ((fun task : Tcb => task.id == id) ∘ fun task => if task.id ∈ hit then { task with state := .Done .UserAbort } else task) =
      fun task => task.id == id := by
    funext task
    simp only [comp]
    split <;> rfl
  rw [same]

private theorem set_state_marked (table : TaskTable) (hit : Set TaskId) (id : TaskId) :
    (table.marked hit).set_state id (.Done .UserAbort) = table.marked (hit ∪ {id}) := by
  simp only [marked,set_state,modify,map_map]
  refine map_congr_left fun task _ => ?_
  by_cases met : task.id ∈ hit
  · simp only [comp,met,if_true,Set.mem_union,true_or,ite_self]
  · simp only [comp,met,if_false,Set.mem_union,false_or,Set.mem_singleton_iff]

private theorem foldlM_marked {body : TaskTable → TaskId → Option TaskTable} (holds : Set TaskId → Prop)
    {part : TaskId → Set TaskId} {items : List TaskId}
    (each : ∀ item ∈ items, ∀ hit, holds hit → body (table.marked hit) item = some (table.marked (hit ∪ part item)) ∧ holds (hit ∪ part item))
    {hit : Set TaskId} (held : holds hit) : items.foldlM body (table.marked hit) = some (table.marked (hit ∪ ⋃ item ∈ items, part item)) := by
  induction items generalizing hit with
  | nil => simp
  | cons item rest ih =>
  obtain ⟨went,kept⟩ := each item mem_cons_self hit held
  rw [foldlM_cons,went,Option.bind_eq_bind,Option.bind_some,ih (fun item member => each item (mem_cons_of_mem _ member)) kept]
  simp only [mem_cons,Set.iUnion_iUnion_eq_or_left,Set.union_assoc]

theorem Planted.mem_children (planted : table.Planted) (task_id child : TaskId) :
    child ∈ ((table.get task_id).map fun task => task.children.toList).getD [] ↔ ∃ row ∈ table, row.id = child ∧
    row.parent = some task_id := by
  cases held : table.get task_id with
  | none =>
    obtain ⟨root,rank,rooted⟩ := planted.rooted
    refine ⟨nofun,?_⟩
    rintro ⟨row,member,_,under⟩
    obtain ⟨above,listed,named⟩ := mem_map.mp (rooted.parents row member task_id under).1
    exact (get_none held above listed named).elim
  | some task =>
  obtain ⟨member,rfl⟩ := get_some held
  rw [Option.map_some,Option.getD_some,ExtTreeSet.mem_toList,planted.listed task member child]

private theorem Planted.get_row (planted : table.Planted) (member : row ∈ table) : table.get row.id = some row := by
  obtain ⟨root,rank,rooted⟩ := planted.rooted
  cases found : table.get row.id with
  | none => exact (get_none found row member rfl).elim
  | some other =>
  obtain ⟨listed,named⟩ := get_some found
  rw [rooted.same_row listed member named]

private theorem Planted.attached_iff (planted : table.Planted) (member : row ∈ table) {above : TaskId} (under : row.parent = some above) :
    table.Attached above row.id ↔ row.detached = false := by
  obtain ⟨root,rank,rooted⟩ := planted.rooted
  constructor
  · rintro ⟨other,listed,named,_,attached⟩
    rwa [← rooted.same_row listed member named]
  · exact fun attached => ⟨row,member,rfl,under,attached⟩

private theorem reach_eq (table : TaskTable) (task_id : TaskId) :
    table.Reach task_id = {task_id} ∪ { other | ∃ child, table.Attached task_id child ∧ other ∈ table.Reach child } := by
  ext other
  rw [Reach,Set.mem_ofPred_eq,Relation.ReflTransGen.cases_head_iff,eq_comm]
  rfl

/-- In a tree the walk down a subtree ends, and marks what it reaches. The depth left covers the ranks above the task. -/
theorem Planted.cancel_subtree_marks (planted : table.Planted) {root : TaskId} {rank : TaskId → Nat}
    (rooted : Rooted (fun task : Tcb => task.id) (fun task => task.parent) root rank table) :
    ∀ (depth : Nat) (task_id : TaskId),
    0 < depth → (rank task_id < table.length → table.length < depth + rank task_id) → ∀ hit : Set TaskId,
    cancel_subtree depth (table.marked hit) task_id = some (table.marked (hit ∪ table.Reach task_id)) := by
  intro depth
  induction depth with
  | zero => exact fun _ positive => (Nat.lt_irrefl 0 positive).elim
  | succ depth ih =>
  intro task_id _ enough hit
  have walked := @foldlM_marked table (fun now child_id => if (now.get child_id).any detached then some now else cancel_subtree depth now child_id)
    (fun _ => True) (fun child => { other | table.Attached task_id child ∧ other ∈ table.Reach child })
    (((table.get task_id).map fun task => task.children.toList).getD []) ?_ (hit ∪ {task_id}) trivial
  · have children : (((table.marked hit).get task_id).map fun task => task.children.toList).getD [] =
        ((table.get task_id).map fun task => task.children.toList).getD [] := by
      rw [get_marked,Option.map_map]
      congr 2
      funext task
      simp only [comp]
      split <;> rfl
    have parts : (⋃ child ∈ ((table.get task_id).map fun task => task.children.toList).getD [],
        { other | table.Attached task_id child ∧ other ∈ table.Reach child }) =
        { other | ∃ child, table.Attached task_id child ∧ other ∈ table.Reach child } := by
      ext other
      simp only [Set.mem_iUnion,Set.mem_ofPred_eq,exists_prop]
      refine exists_congr fun child => and_iff_right_of_imp ?_
      rintro ⟨⟨row,member,named,under,_⟩,_⟩
      exact (planted.mem_children task_id child).mpr ⟨row,member,named,under⟩
    rw [cancel_subtree,set_state_marked,children]
    rw [parts,Set.union_assoc,← reach_eq] at walked
    exact walked
  intro child found now _
  obtain ⟨row,member,rfl,under⟩ := (planted.mem_children task_id child).mp found
  have higher := (rooted.parents row member task_id under).2
  have bounded := rooted.bounded row member
  have room := enough (Nat.lt_trans higher bounded)
  have flag : ((table.marked now).get row.id).any detached = row.detached := by
    rw [get_marked,planted.get_row member,Option.map_some,Option.any_some]
    split <;> rfl
  refine ⟨?_,trivial⟩
  rw [flag,planted.attached_iff member under]
  cases row.detached with
  | true => simp
  | false =>
  rw [if_neg Bool.false_ne_true,ih row.id (by omega) (fun _ => by omega) now]
  simp

theorem Planted.cancel_subtree (planted : table.Planted) (hit : Set TaskId) (task_id : TaskId) :
    TaskTable.cancel_subtree (table.length+1)
    (table.marked hit) task_id = some (table.marked (hit ∪ table.Reach task_id)) := by
  obtain ⟨root,rank,rooted⟩ := planted.rooted
  exact planted.cancel_subtree_marks rooted _ task_id (Nat.succ_pos _) (fun _ => by omega) hit

/-- The children one by one. What is marked at any time holds with a task all it reaches, so a child that is marked already
    brings nothing new. -/
theorem Planted.cancel_children (planted : table.Planted) (task_id : TaskId) :
    table.cancel_children task_id = some (table.marked (table.LiveBranches task_id)) := by
  have walked := @foldlM_marked table
    (fun now child_id => if (now.get child_id).any fun child => !child.state.is_terminal && !child.detached
      then TaskTable.cancel_subtree (now.length+1) now child_id else some now)
    (fun hit => ∀ top ∈ hit, table.Reach top ⊆ hit)
    (fun child => { other | ∃ row ∈ table, row.id = child ∧ row.detached = false ∧ row.state.is_terminal = false ∧ other ∈ table.Reach child })
    (((table.get task_id).map fun task => task.children.toList).getD []) ?_ ∅ nofun
  · have parts : (⋃ child ∈ ((table.get task_id).map fun task => task.children.toList).getD [],
        { other | ∃ row ∈ table, row.id = child ∧ row.detached = false ∧ row.state.is_terminal = false ∧ other ∈ table.Reach child }) =
        table.LiveBranches task_id := by
      ext other
      simp only [Set.mem_iUnion,Set.mem_ofPred_eq,exists_prop,LiveBranches]
      constructor
      · rintro ⟨child,found,row,member,rfl,attached,live,reached⟩
        obtain ⟨twin,listed,named,under⟩ := (planted.mem_children task_id row.id).mp found
        obtain ⟨root,rank,rooted⟩ := planted.rooted
        cases rooted.same_row listed member named
        exact ⟨row,member,under,attached,live,reached⟩
      · rintro ⟨row,member,under,attached,live,reached⟩
        exact ⟨row.id,(planted.mem_children task_id row.id).mpr ⟨row,member,rfl,under⟩,row,member,rfl,attached,live,reached⟩
    rw [marked_empty,parts,Set.empty_union] at walked
    exact walked
  intro child found now closed
  obtain ⟨row,member,rfl,under⟩ := (planted.mem_children task_id child).mp found
  obtain ⟨root,rank,rooted⟩ := planted.rooted
  have alone : { other | ∃ twin ∈ table, twin.id = row.id ∧ twin.detached = false ∧ twin.state.is_terminal = false ∧ other ∈ table.Reach row.id } =
      { other | row.detached = false ∧ row.state.is_terminal = false ∧ other ∈ table.Reach row.id } := by
    ext other
    constructor
    · rintro ⟨twin,listed,named,held⟩
      cases rooted.same_row listed member named
      exact held
    · exact fun held => ⟨row,member,rfl,held⟩
  rw [alone,get_marked,planted.get_row member,Option.map_some,Option.any_some,marked_length]
  by_cases met : row.id ∈ now
  · have known : { other | row.detached = false ∧ row.state.is_terminal = false ∧ other ∈ table.Reach row.id } ⊆ now :=
      fun other held => closed row.id met held.2.2
    rw [if_pos met,Set.union_eq_left.mpr known]
    exact ⟨rfl,closed⟩
  rw [if_neg met]
  by_cases taken : row.detached = false ∧ row.state.is_terminal = false
  · have whole : { other | row.detached = false ∧ row.state.is_terminal = false ∧ other ∈ table.Reach row.id } = table.Reach row.id := by
      ext other
      exact ⟨fun held => held.2.2,fun reached => ⟨taken.1,taken.2,reached⟩⟩
    rw [whole,if_pos (by simp [taken])]
    refine ⟨planted.cancel_subtree now row.id,?_⟩
    rintro top (before | reached) other below
    · exact .inl (closed top before below)
    · exact .inr (Relation.ReflTransGen.trans reached below)
  have none : { other | row.detached = false ∧ row.state.is_terminal = false ∧ other ∈ table.Reach row.id } = ∅ := by
    ext other
    exact ⟨fun held => (taken ⟨held.1,held.2.1⟩).elim,nofun⟩
  rw [none,Set.union_empty,if_neg (by simpa [and_comm] using taken)]
  exact ⟨rfl,closed⟩

private theorem live_branches_subset (table : TaskTable) (task_id : TaskId) : table.LiveBranches task_id ⊆ table.Descendants task_id := by
  rintro other ⟨child,member,under,attached,_,reached⟩
  exact .head' ⟨child,member,rfl,under,attached⟩ reached

/-- Marking does what is asked when no other end is written over, and no live task is missed. -/
theorem marked_eq_cancelled_iff {hit asked : Set TaskId} (subset : hit ⊆ asked) :
    table.marked hit = table.cancelled asked ↔
    (∀ task ∈ table, task.id ∈ hit → task.state.is_terminal = true → task.state = .Done .UserAbort) ∧
      ∀ task ∈ table, task.id ∈ asked → task.state.is_terminal = false → task.id ∈ hit := by
  unfold marked cancelled
  rw [map_inj_left,← forall_and]
  refine forall_congr' fun task => ?_
  rw [← forall_and]
  refine forall_congr' fun _ => ?_
  by_cases met : task.id ∈ hit <;> cases ended : task.state.is_terminal
  · simp [met,subset met]
  · constructor
    · intro same
      have states := congrArg (fun task : Tcb => task.state) same
      simp only [met,if_true,Bool.true_eq_false,and_false,if_false] at states
      exact ⟨fun _ _ => states.symm,nofun⟩
    · rintro ⟨aborted,_⟩
      rw [if_pos met,if_neg (by simp)]
      rw [← aborted met rfl]
  · constructor
    · intro same
      refine ⟨nofun,fun wanted _ => ?_⟩
      have states := congrArg (fun task : Tcb => task.state) same
      simp only [met,if_false,wanted,true_and,if_true] at states
      rw [states] at ended
      cases ended
    · rintro ⟨_,missed⟩
      rw [if_neg met,if_neg fun both => met (missed both.1 rfl)]
  · simp [met]

/-- In every tree: the cancellation of a subtree aborts the live tasks it reaches and leaves every other row exactly when it
    reaches no task that came to another end; that of the children does so exactly when it reaches none by way of a live
    child, and there is no live task below a child that has ended. -/
theorem cancellation_exact (planted : table.Planted) (task_id : TaskId) :
    (TaskTable.cancel_subtree (table.length+1) table task_id = some (table.cancelled (table.Reach task_id)) ↔
      ∀ task ∈ table, task.id ∈ table.Reach task_id → task.state.is_terminal = true → task.state = .Done .UserAbort) ∧
    (table.cancel_children task_id = some (table.cancelled (table.Descendants task_id)) ↔
      (∀ task ∈ table, task.id ∈ table.LiveBranches task_id → task.state.is_terminal = true →
      task.state = .Done .UserAbort) ∧
        ∀ task ∈ table, task.id ∈ table.Descendants task_id → task.state.is_terminal = false →
        task.id ∈ table.LiveBranches task_id) := by
  constructor
  · have marks := planted.cancel_subtree ∅ task_id
    rw [marked_empty,Set.empty_union] at marks
    rw [marks,Option.some_inj,marked_eq_cancelled_iff subset_rfl]
    exact and_iff_left fun _ _ reached _ => reached
  · rw [planted.cancel_children task_id,Option.some_inj,marked_eq_cancelled_iff (live_branches_subset table task_id)]

/-- A root over a worker that runs, over a helper that has completed. -/
def household : TaskTable :=
  [{ root "root" [] none with children := .ofList ["worker"] },
    { spawned_in ⟨"worker",[],none⟩ .Running (some "root") with children := .ofList ["helper"] },
    spawned_in ⟨"helper",[],none⟩ (.Done .Completed) (some "worker")]

theorem household_planted : household.Planted := by
  refine ⟨⟨"root",fun id => if id = "root" then 0 else if id = "worker" then 1 else 2,?_⟩,?_⟩
  · refine ⟨by decide,by decide,?_,?_,?_⟩ <;> simp [household,root,spawned_in]
  · simp [Listed,household,root,spawned_in]

/-- A cancel of the whole household. -/
theorem cancellation_exact_household : household.Planted ∧
    (household.cancel_children "root" = some (household.cancelled (household.Descendants "root")) ↔
      (∀ task ∈ household, task.id ∈ household.LiveBranches "root" → task.state.is_terminal = true →
      task.state = .Done .UserAbort) ∧
        ∀ task ∈ household, task.id ∈ household.Descendants "root" → task.state.is_terminal = false →
        task.id ∈ household.LiveBranches "root") :=
  ⟨household_planted,(cancellation_exact household_planted "root").2⟩

/-- The helper had completed, and is aborted with the worker above it. -/
theorem completed_helper_aborted : ¬ ∀ table : TaskTable, table.Planted → ∀ task_id,
    TaskTable.cancel_subtree (table.length+1) table task_id = some (table.cancelled (table.Reach task_id)) ∧
      table.cancel_children task_id = some (table.cancelled (table.Descendants task_id)) := by
  intro claimed
  have children := (claimed household household_planted "root").2
  rw [household_planted.cancel_children "root",Option.some_inj,marked_eq_cancelled_iff (live_branches_subset household "root")] at children
  have helper : spawned_in ⟨"helper",[],none⟩ (.Done .Completed) (some "worker") ∈ household := by simp [household]
  have reached : household.Attached "worker" "helper" := ⟨_,helper,rfl,rfl,rfl⟩
  have written := children.1 _ helper ⟨{ spawned_in ⟨"worker",[],none⟩ .Running (some "root") with children := .ofList ["helper"] },
    by simp [household],rfl,rfl,rfl,.single reached⟩ rfl
  cases written

end TaskTable
end Deepstrike.Lineage

import Deepstrike.Cascading

/-!
What holds of the task tree in every run, and the one call that can break it: a spawn whose identity is
taken.
-/
namespace Deepstrike.Lineage
open Std Wire Capabilities Forests List Tcb Scheduler.TaskTable TaskTable ExtTreeSet Function
open Scheduler (IsolationManifest)
open Tasks (TaskLifecycle)

namespace TaskTable

/-- The tree as it should be: distinct identities, parents that exist, no circle, every chain up ends at the root, and each
    list of children is the inverse of the parents. A list of children is a set, so it names none twice. -/
structure Tree (table : TaskTable) : Prop where
  unique : (table.map fun task => task.id).Nodup
  parents : ∀ task ∈ table, ∀ parent, task.parent = some parent → ∃ above ∈ table, above.id = parent
  root : ∀ task ∈ table, task.parent = none ↔ task.id = "root"
  acyclic : ∀ id, ¬ Relation.TransGen table.Parent id id
  rooted : ∀ task ∈ table, Relation.ReflTransGen table.Parent task.id "root"
  children : ∀ task ∈ table, ∀ child, child ∈ task.children ↔ ∃ row ∈ table, row.id = child ∧ row.parent = some task.id

/-- The invariant of the runs. -/
structure Sound (table : TaskTable) : Prop where
  rooted : ∃ rank, Rooted (fun task : Tcb => task.id) (fun task => task.parent) "root" rank table
  listed : table.Listed

variable {table : TaskTable}

theorem Sound.tree (sound : table.Sound) : table.Tree := by
  obtain ⟨rank,rooted⟩ := sound.rooted
  refine ⟨rooted.unique,fun task member parent named => ?_,rooted.root_alone,rooted.acyclic,fun task member => rooted.reaches member,sound.listed⟩
  exact mem_map.mp (rooted.parents task member parent named).1

variable {after : TaskTable} {task tcb : Tcb} {id parent : TaskId} {change : Tcb → Tcb}

theorem twin_of_links (same : after.map links = table.map links) (member : task ∈ after) :
    ∃ twin ∈ table, twin.id = task.id ∧ twin.parent = task.parent ∧ twin.children = task.children := by
  have listed : task.links ∈ table.map links := same ▸ mem_map_of_mem member
  obtain ⟨twin,held,equal⟩ := mem_map.mp listed
  simp only [links,Prod.mk.injEq] at equal
  exact ⟨twin,held,equal⟩

theorem Sound.congr (sound : table.Sound) (same : after.map links = table.map links) : Sound after := by
  obtain ⟨rank,rooted⟩ := sound.rooted
  refine ⟨⟨rank,rooted.congr ?_⟩,fun task member child => ?_⟩
  · have pairs := congrArg (map fun links : TaskId × Option TaskId × ExtTreeSet TaskId compare => (links.1,links.2.1)) same
    simpa [comp_def,links] using pairs
  obtain ⟨twin,held,id,_,children⟩ := twin_of_links same member
  rw [← children,sound.listed twin held child,id]
  constructor
  · rintro ⟨row,listed,named,under⟩
    obtain ⟨other,member',id',parent',_⟩ := twin_of_links same.symm listed
    exact ⟨other,member',id'.trans named,parent'.trans under⟩
  · rintro ⟨row,listed,named,under⟩
    obtain ⟨other,member',id',parent',_⟩ := twin_of_links same listed
    exact ⟨other,member',id'.trans named,parent'.trans under⟩

theorem map_modify {α : Type} (view : Tcb → α) (kept : ∀ task, view (change task) = view task) :
    (table.modify id change).map view = table.map view := by
  simp only [modify,map_map]
  refine map_congr_left fun task _ => ?_
  simp only [comp]
  split
  · exact kept task
  · rfl

private theorem set_state_links (table : TaskTable) (id : TaskId) (state : TaskLifecycle) : (table.set_state id state).map links = table.map links :=
  map_modify links fun _ => rfl

private theorem refill_links {rows : Scheduler.TaskTable} (same : rows.map Scheduler.Tcb.authority = (table.map toTcb).map Scheduler.Tcb.authority) :
    (table.refill rows).map links = table.map links := by
  induction table generalizing rows with
  | nil => cases rows <;> rfl
  | cons task rest ih =>
  cases rows with
  | nil => cases same
  | cons row others =>
  simp only [map_cons,cons.injEq] at same
  obtain ⟨id,parent,_⟩ := Scheduler.Tcb.authority_eq.mp same.1
  show links { task with toTcb := row } :: (refill rest others).map links = task.links :: _
  rw [ih same.2]
  simp only [links,id,parent]

private theorem lift_links (table : TaskTable) {change : Scheduler.TaskTable → Scheduler.TaskTable}
    (kept : ∀ rows : Scheduler.TaskTable, (change rows).map Scheduler.Tcb.authority = rows.map Scheduler.Tcb.authority) :
    (table.lift change).map links = table.map links := refill_links (kept _)

theorem refill_rows {rows : Scheduler.TaskTable}
    (same : rows.map Scheduler.Tcb.authority = (table.map toTcb).map Scheduler.Tcb.authority) :
    (table.refill rows).map toTcb = rows := by
  induction table generalizing rows with
  | nil =>
    cases rows with
    | nil => rfl
    | cons row others => cases same
  | cons task rest ih =>
  cases rows with
  | nil => cases same
  | cons row others =>
  simp only [map_cons,cons.injEq] at same
  exact congrArg (row :: ·) (ih same.2)

private theorem modify_rows (row : Scheduler.Tcb → Scheduler.Tcb) (same : ∀ task, (change task).toTcb = row task.toTcb) :
    (table.modify id change).map toTcb = Scheduler.TaskTable.modify (table.map toTcb) id row := by
  rw [modify,Scheduler.TaskTable.modify,map_map,map_map]
  refine map_congr_left fun task _ => ?_
  simp only [comp]
  split
  · exact same task
  · rfl

private theorem get_rows : Scheduler.TaskTable.get (table.map toTcb) id = (table.get id).map toTcb := find?_map

private theorem root_id_rows : Scheduler.TaskTable.root_id (table.map toTcb) = table.root_id := by
  rw [Scheduler.TaskTable.root_id,find?_map,Option.map_map]
  rfl

private theorem insert_rows (tcb : Tcb) : (table.insert tcb).map toTcb = Scheduler.TaskTable.insert (table.map toTcb) tcb.toTcb := by
  have known : (table.any fun task => task.id == tcb.id) = (Scheduler.TaskTable.get (table.map toTcb) tcb.id).isSome := by
    rw [get_rows,Option.isSome_map,get,isSome_find?]
  rw [insert,Scheduler.TaskTable.insert,known]
  split
  · exact modify_rows (fun _ => tcb.toTcb) fun _ => rfl
  · split
    · rw [map_append]
      exact congrArg (· ++ [tcb.toTcb]) (map_modify toTcb fun _ => rfl)
    · exact map_append

theorem insert_new (fresh : ∀ task ∈ table, task.id ≠ tcb.id) (named : tcb.parent = some parent) :
    table.insert tcb = table.modify parent (fun above => { above with children := above.children.insert tcb.id }) ++
    [tcb] := by
  have unknown : ¬ (table.any fun task => task.id == tcb.id) = true := by
    intro known
    obtain ⟨task,member,same⟩ := any_eq_true.mp known
    exact fresh task member (by simpa using same)
  unfold insert
  rw [if_neg unknown,named]

private theorem mem_modify (member : task ∈ table.modify id change) :
    ∃ older ∈ table, task = if older.id = id then change older else older := by
  obtain ⟨older,held,same⟩ := mem_map.mp member
  exact ⟨older,held,same.symm⟩

theorem Sound.insert_new (sound : table.Sound) (fresh : ∀ task ∈ table, task.id ≠ tcb.id)
    (named : tcb.parent = some parent) (known : ∃ above ∈ table, above.id = parent) (childless : tcb.children = ∅) :
    (table.insert tcb).Sound := by
  obtain ⟨rank,rooted⟩ := sound.rooted
  rw [TaskTable.insert_new fresh named]
  have edges : (table.modify parent fun above => { above with children := above.children.insert tcb.id }).map (fun task => (task.id,task.parent)) =
      table.map fun task => (task.id,task.parent) := map_modify _ fun _ => rfl
  have names : (table.modify parent fun above => { above with children := above.children.insert tcb.id }).map (fun task => task.id) =
      table.map fun task => task.id := map_modify _ fun _ => rfl
  refine ⟨⟨_,(rooted.congr edges).append ?_ named ?_⟩,fun task member child => ?_⟩
  · rw [names]
    intro taken
    obtain ⟨task,member,same⟩ := mem_map.mp taken
    exact fresh task member same
  · rw [names]
    exact mem_map.mpr known
  -- A row of the new table is a new row, or an old one whose list may have grown.
  have named_by : ∀ above : TaskId, (∃ row ∈ table.modify parent (fun above => { above with children := above.children.insert tcb.id }) ++ [tcb],
      row.id = child ∧ row.parent = some above) ↔ (∃ row ∈ table, row.id = child ∧ row.parent = some above) ∨ tcb.id = child ∧ parent = above := by
    intro above
    constructor
    · rintro ⟨row,listed,id,under⟩
      obtain before | last := mem_append.mp listed
      · obtain ⟨older,held,rfl⟩ := mem_modify before
        refine .inl ⟨older,held,?_⟩
        split at id <;> split at under <;> exact ⟨id,under⟩
      · cases mem_singleton.mp last
        exact .inr ⟨id,Option.some.inj (named ▸ under)⟩
    · rintro (⟨row,held,id,under⟩ | ⟨id,rfl⟩)
      · refine ⟨_,mem_append_left _ (mem_map_of_mem held),?_⟩
        split <;> exact ⟨id,under⟩
      · exact ⟨tcb,mem_append_right _ (mem_singleton.mpr rfl),id,named⟩
  rw [named_by]
  obtain before | last := mem_append.mp member
  · obtain ⟨older,held,rfl⟩ := mem_modify before
    split
    next same =>
      rw [ExtTreeSet.mem_insert,LawfulEqCmp.compare_eq_iff_eq,sound.listed older held child,or_comm]
      simp only [same,and_true]
    next other =>
    rw [sound.listed older held child,or_iff_left]
    exact fun both => other both.2.symm
  cases mem_singleton.mp last
  rw [childless]
  refine ⟨fun held => (not_mem_empty held).elim,?_⟩
  rintro (⟨row,held,_,under⟩ | ⟨_,rfl⟩)
  · obtain ⟨above,listed,same⟩ := mem_map.mp (rooted.parents row held _ under).1
    exact (fresh above listed same).elim
  · obtain ⟨above,listed,same⟩ := known
    exact (fresh above listed same).elim

private theorem Sound.insert_known (sound : table.Sound) {old : Tcb} (held : old ∈ table) (id : old.id = tcb.id) (parent : old.parent = tcb.parent)
    (children : old.children = tcb.children) : (table.insert tcb).Sound := by
  have known : (table.any fun task => task.id == tcb.id) = true := any_eq_true.mpr ⟨old,held,by simpa using id⟩
  unfold insert
  rw [if_pos known]
  refine sound.congr ?_
  rw [map_map]
  refine map_congr_left fun task member => ?_
  simp only [comp]
  split
  next same =>
    obtain ⟨rank,rooted⟩ := sound.rooted
    cases rooted.same_row member held (same.trans id.symm)
    simp only [links,id,parent,children]
  next => rfl

private theorem foldl_modify (edges : List (TaskId × TaskId)) (table : TaskTable) :
    edges.foldl (fun table edge => table.modify edge.1 fun parent => { parent with children := parent.children.insert edge.2 }) table =
      table.map fun task => { task with
        children := edges.foldl (fun children edge => if task.id = edge.1 then children.insert edge.2 else children) task.children } := by
  induction edges generalizing table with
  | nil => exact (map_id' table).symm
  | cons edge rest ih =>
  rw [foldl_cons,ih,modify,map_map]
  refine map_congr_left fun task _ => ?_
  simp only [comp,foldl_cons]
  split <;> rfl

private theorem mem_foldl_children (id child : TaskId) (edges : List (TaskId × TaskId)) (children : ExtTreeSet TaskId compare) :
    child ∈ edges.foldl (fun children edge => if id = edge.1 then children.insert edge.2 else children) children ↔
      child ∈ children ∨ (id,child) ∈ edges := by
  induction edges generalizing children with
  | nil => simp
  | cons edge rest ih =>
  rw [foldl_cons,ih,mem_cons]
  split
  next same =>
    rw [ExtTreeSet.mem_insert,LawfulEqCmp.compare_eq_iff_eq,Prod.ext_iff,eq_comm (a := edge.2)]
    tauto
  next other =>
  rw [Prod.ext_iff]
  tauto

theorem Sound.rebuild_children (sound : table.Sound) : table.rebuild_children.Sound := by
  obtain ⟨rank,rooted⟩ := sound.rooted
  unfold TaskTable.rebuild_children
  rw [foldl_modify,map_map]
  refine ⟨⟨rank,rooted.congr ?_⟩,fun task member child => ?_⟩
  · rw [map_map]
    exact map_congr_left fun _ _ => rfl
  obtain ⟨older,held,rfl⟩ := mem_map.mp member
  simp only [comp,mem_foldl_children,not_mem_empty,false_or]
  constructor
  · intro listed
    obtain ⟨_,source,edge⟩ := mem_filterMap.mp listed
    obtain ⟨row,member',rfl⟩ := mem_map.mp source
    obtain ⟨parent,named,same⟩ := Option.map_eq_some_iff.mp edge
    obtain ⟨rfl,rfl⟩ := Prod.mk.inj same
    exact ⟨_,mem_map_of_mem member',rfl,named⟩
  · rintro ⟨_,listed,rfl,under⟩
    obtain ⟨row,member',rfl⟩ := mem_map.mp listed
    exact mem_filterMap.mpr ⟨_,mem_map_of_mem member',Option.map_eq_some_iff.mpr ⟨_,under,rfl⟩⟩

private theorem Sound.planted (sound : table.Sound) : table.Planted := by
  obtain ⟨rank,rooted⟩ := sound.rooted
  exact ⟨⟨"root",rank,rooted⟩,sound.listed⟩

theorem Sound.cancel_subtree (sound : table.Sound) (task_id : TaskId) :
    ∃ after, cancel_subtree (table.length+1) table task_id = some after ∧ after.map links = table.map links := by
  have marks := sound.planted.cancel_subtree ∅ task_id
  rw [marked_empty] at marks
  exact ⟨_,marks,marked_links table _⟩

theorem Sound.cancel_children (sound : table.Sound) (task_id : TaskId) :
    ∃ after, table.cancel_children task_id = some after ∧ after.map links = table.map links :=
  ⟨_,sound.planted.cancel_children task_id,marked_links table _⟩

private theorem spawn_child_ok {caller : TaskId} {manifest : IsolationManifest} {state : TaskLifecycle}
    (spawned : table.spawn_child caller manifest state = .ok after) :
    (∃ above ∈ table, above.id = caller) ∧ (∀ task ∈ table, task.id ≠ manifest.agent_id) ∧
      after = table.insert (.spawned_in manifest state (some caller)) := by
  unfold spawn_child at spawned
  split at spawned
  · cases spawned
  next parent found =>
  split at spawned
  · cases spawned
  split at spawned
  · cases spawned
  next fresh =>
  cases spawned
  exact ⟨⟨parent,get_some found⟩,get_none (by simpa using fresh),rfl⟩

theorem Sound.root_id (sound : table.Sound) : table.root_id = some "root" := by
  obtain ⟨rank,rooted⟩ := sound.rooted
  obtain ⟨root,member,named⟩ := mem_map.mp rooted.held
  have some_root : (table.find? fun task => task.parent.isNone).isSome := by
    rw [find?_isSome]
    exact ⟨root,member,by rw [(rooted.root_alone root member).mpr named]; rfl⟩
  obtain ⟨found,first⟩ := Option.isSome_iff_exists.mp some_root
  unfold TaskTable.root_id
  rw [first,Option.map_some,(rooted.root_alone found (mem_of_find?_eq_some first)).mp (by simpa using find?_some first)]

private theorem insert_keeps (tcb : Tcb) (held : ∃ task ∈ table, task.id = id) : ∃ task ∈ table.insert tcb, task.id = id := by
  obtain ⟨task,member,rfl⟩ := held
  unfold insert
  split
  · refine ⟨_,mem_map_of_mem member,?_⟩
    split
    next same => exact same.symm
    next => rfl
  · split
    · refine ⟨_,mem_append_left _ (mem_map_of_mem member),?_⟩
      split <;> rfl
    · exact ⟨task,mem_append_left _ member,rfl⟩

private theorem insert_replaces (tcb : Tcb) (known : ∃ task ∈ table, task.id = tcb.id) :
    tcb ∈ table.insert tcb ∧ ∀ task ∈ table, task.id ≠ tcb.id → task ∈ table.insert tcb := by
  obtain ⟨old,held,same⟩ := known
  have taken : (table.any fun task => task.id == tcb.id) = true := any_eq_true.mpr ⟨old,held,by simpa using same⟩
  unfold insert
  rw [if_pos taken]
  exact ⟨mem_map.mpr ⟨old,held,if_pos same⟩,fun task member other => mem_map.mpr ⟨task,member,if_neg other⟩⟩

private theorem set_lifecycle_links (held : ∃ task ∈ table, task.id = "root") (state : TaskLifecycle) :
    (LoopStateMachine.set_lifecycle table state).map links = table.map links := by
  have known : ¬ (table.get "root").isNone = true := by
    intro absent
    obtain ⟨root,member,named⟩ := held
    exact get_none (Option.isNone_iff_eq_none.mp absent) root member named
  unfold LoopStateMachine.set_lifecycle
  rw [if_neg known]
  exact set_state_links table "root" state

theorem held_of_links (same : after.map links = table.map links) (held : ∃ task ∈ table, task.id = id) :
    ∃ task ∈ after, task.id = id := by
  obtain ⟨task,member,rfl⟩ := held
  obtain ⟨twin,member',named,_⟩ := twin_of_links same.symm member
  exact ⟨twin,member',named⟩

end TaskTable

namespace LoopStateMachine

/-- A spawn that goes through names an identity that is free, or that of a child of the root which has ended and has no children. -/
def Meets (machine : LoopStateMachine) : Op → Prop
  | .spawn_sub_agent manifest => machine.admits manifest = true → ∀ task ∈ machine.tasks, task.id = manifest.agent_id →
      task.state.is_terminal = true ∧ task.parent = some "root" ∧ task.children = ∅
  | _ => True

/-- A call that comes back, leaves a tree, and puts no row in the place of a live task. -/
def Kept (machine : LoopStateMachine) (op : Op) : Prop :=
  ∃ after, machine.step op = some after ∧ after.tasks.Tree ∧
    ∀ id, machine.inserts op = some id → ∀ task ∈ machine.tasks, task.id = id → task.state.is_terminal = true

/-- A condition on each call of a run, in the state before it. -/
def Along (condition : LoopStateMachine → Op → Prop) : LoopStateMachine → List Op → Prop
  | _,[] => True
  | machine,op :: ops => condition machine op ∧ ∀ after, machine.step op = some after → Along condition after ops

private theorem evaluate_spawn_quota_links (machine : LoopStateMachine) (manifest : IsolationManifest) :
    (machine.evaluate_spawn_quota manifest).2.tasks.map links = machine.tasks.map links :=
  refill_links (machine.engine.evaluate_spawn_quota_inner_authority false none manifest)

variable {machine : LoopStateMachine} {op : Op}

private theorem adopt_links (held : ∃ task ∈ machine.tasks, task.id = "root") (manifest : IsolationManifest) :
    (machine.adopt manifest).tasks.map links = (machine.tasks.insert (.spawned_in manifest .Running machine.tasks.root_id)).map links := by
  have rooted := insert_keeps (.spawned_in manifest .Running machine.tasks.root_id) held
  unfold adopt
  dsimp only
  split
  next grant _ =>
    have funded := lift_links (machine.tasks.insert (.spawned_in manifest .Running machine.tasks.root_id)) fun rows =>
      attach_authority rows manifest.agent_id grant
    exact (set_lifecycle_links (held_of_links funded rooted) .Suspended).trans funded
  next => exact set_lifecycle_links rooted .Suspended

private theorem spawn_sub_agent_links (held : ∃ task ∈ machine.tasks, task.id = "root") (manifest : IsolationManifest) :
    (machine.admits manifest = false ∧ (machine.spawn_sub_agent manifest).tasks.map links = machine.tasks.map links) ∨
      machine.admits manifest = true ∧ ∃ gated : TaskTable, gated.map links = machine.tasks.map links ∧
        (machine.spawn_sub_agent manifest).tasks.map links = (gated.insert (.spawned_in manifest .Running gated.root_id)).map links := by
  have same := machine.evaluate_spawn_quota_links manifest
  unfold admits spawn_sub_agent
  generalize machine.evaluate_spawn_quota manifest = verdict at same ⊢
  obtain ⟨disposition,gated⟩ := verdict
  have adopted := adopt_links (held_of_links same held) manifest
  cases disposition with
  | Deny stage reason => exact .inl ⟨rfl,same⟩
  | Allow | Gate _ | RateLimited _ | Defer _ => exact .inr ⟨rfl,gated.tasks,same,adopted⟩

private theorem set_lifecycle_rows (table : TaskTable) (state : TaskLifecycle) :
    (set_lifecycle table state).map toTcb = Scheduler.Engine.set_lifecycle (table.map toTcb) state := by
  have seated : (table.get "root").isNone = (Scheduler.TaskTable.get (table.map toTcb) "root").isNone := by
    rw [get_rows,Option.isNone_map]
  rw [set_lifecycle,Scheduler.Engine.set_lifecycle,← seated]
  refine (modify_rows (fun task => { task with state }) fun _ => rfl).trans (congrArg (Scheduler.TaskTable.modify · "root" _) ?_)
  split
  · exact insert_rows _
  · rfl

private theorem adopt_engine (manifest : IsolationManifest) : (machine.adopt manifest).engine = machine.engine.adopt manifest := by
  have child : (machine.tasks.insert (.spawned_in manifest .Running machine.tasks.root_id)).map toTcb =
      machine.engine.tasks.insert (.spawned_in manifest .Running machine.engine.tasks.root_id) := by
    rw [insert_rows,engine,root_id_rows]
    rfl
  have waits : machine.engine.pending_budget_grant = machine.pending_budget_grant := rfl
  unfold adopt Scheduler.Engine.adopt
  cases pending : machine.pending_budget_grant with
  | none =>
    rw [← child,waits,pending]
    simp only [engine,set_lifecycle_rows]
  | some grant =>
  have funded := refill_rows (attach_authority
    ((machine.tasks.insert (.spawned_in manifest .Running machine.tasks.root_id)).map toTcb) manifest.agent_id grant)
  rw [← child,waits,pending]
  simp only [engine,set_lifecycle_rows,lift,funded]

/-- A call that is a move of the table of `Spawning` makes that move. -/
theorem step_engine {move : Scheduler.Engine.Move} (named : op.move = some move) :
    (machine.step op).map engine = some (machine.engine.apply move) := by
  have changed : ∀ (tasks : TaskTable) rows, tasks.map toTcb = rows → engine { machine with tasks } = { machine.engine with tasks := rows } := by
    rintro tasks _ rfl
    rfl
  cases op with
  | spawn_sub_agent manifest =>
    cases named
    have kept := machine.engine.evaluate_spawn_quota_inner_authority false none manifest
    show some (machine.spawn_sub_agent manifest).engine = some (machine.engine.spawn_sub_agent manifest)
    unfold spawn_sub_agent evaluate_spawn_quota Scheduler.Engine.spawn_sub_agent Scheduler.Engine.evaluate_spawn_quota
    cases gate : machine.engine.evaluate_spawn_quota_inner false none manifest with
    | mk disposition gated =>
    rw [gate] at kept
    have settled : (machine.settle gated).engine = gated := by
      simp only [settle,engine,refill_rows kept]
    cases disposition with
    | Deny stage reason =>
      refine congrArg some (.trans ?_ (congrArg (fun engine : Scheduler.Engine => { engine with observations := engine.observations ++
        [Vocabulary.KernelObservation.ControlRequestRejected engine.turn "spawn_sub_agent" (some manifest.agent_id) reason] }) settled))
      rfl
    | Allow | Gate _ | RateLimited _ | Defer _ => exact congrArg some (adopt_engine manifest |>.trans (congrArg (·.adopt manifest) settled))
  | joined agent_id usage next =>
    cases named
    exact congrArg some (changed _ _ (refill_rows (map_modify _ (Scheduler.Tcb.joined_authority usage next))))
  | set_state agent_id state =>
    cases named
    have rows : (machine.tasks.set_state agent_id state).map toTcb = set_state (machine.tasks.map toTcb) agent_id state :=
      modify_rows (fun task => { task with state }) fun _ => rfl
    exact congrArg some (changed _ _ rows)
  | return_child_budget agent_id =>
    cases named
    exact congrArg some (changed _ _ (refill_rows (return_child_budget_authority _ _)))
  | spawn_child caller manifest state => cases named
  | cancel_subtree task_id => cases named
  | cancel_children task_id => cases named
  | rebuild_children => cases named

/-- One call in a sound table that meets the condition. -/
theorem step_sound (sound : machine.tasks.Sound) (meets : machine.Meets op) :
    ∃ after, machine.step op = some after ∧ after.tasks.Sound ∧
      ∀ id, machine.inserts op = some id → ∀ task ∈ machine.tasks, task.id = id → task.state.is_terminal = true := by
  obtain ⟨rank,rooted⟩ := sound.rooted
  cases op with
  | spawn_child caller manifest state =>
    cases spawned : machine.tasks.spawn_child caller manifest state with
    | error error =>
      refine ⟨machine,by simp only [step,spawned],sound,fun id inserted => ?_⟩
      simp only [inserts,spawned] at inserted
      cases inserted
    | ok tasks =>
    obtain ⟨known,fresh,rfl⟩ := spawn_child_ok spawned
    refine ⟨_,by simp only [step,spawned]; rfl,sound.insert_new fresh rfl known rfl,fun id inserted task member named => ?_⟩
    simp only [inserts,spawned,Option.some.injEq] at inserted
    exact (fresh task member (named.trans inserted.symm)).elim
  | spawn_sub_agent manifest =>
    have held := mem_map.mp rooted.held
    obtain ⟨refused,same⟩ | ⟨admitted,gated,same,after⟩ := spawn_sub_agent_links held manifest
    · refine ⟨_,rfl,sound.congr same,fun id inserted => ?_⟩
      simp only [inserts,refused,Bool.false_eq_true,if_false] at inserted
      cases inserted
    have met := meets admitted
    have gated_sound := sound.congr same
    rw [gated_sound.root_id] at after
    refine ⟨_,rfl,?_,fun id inserted task member named => ?_⟩
    · refine Sound.congr ?_ after
      by_cases taken : ∃ old ∈ gated, old.id = manifest.agent_id
      · obtain ⟨old,listed,named⟩ := taken
        obtain ⟨twin,member,id,parent,children⟩ := twin_of_links same listed
        obtain ⟨_,under,childless⟩ := met twin member (id.trans named)
        exact gated_sound.insert_known listed named (parent.symm.trans under) (children.symm.trans childless)
      · exact gated_sound.insert_new (fun old listed named => taken ⟨old,listed,named⟩) rfl (held_of_links same held) rfl
    · simp only [inserts,admitted,if_true,Option.some.injEq] at inserted
      exact (met task member (named.trans inserted.symm)).1
  | joined agent_id usage next =>
    exact ⟨_,rfl,sound.congr (lift_links _ fun rows => map_modify Scheduler.Tcb.authority (Scheduler.Tcb.joined_authority usage next)),nofun⟩
  | set_state agent_id state => exact ⟨_,rfl,sound.congr (set_state_links _ agent_id state),nofun⟩
  | return_child_budget agent_id =>
    exact ⟨_,rfl,sound.congr (lift_links _ fun rows => return_child_budget_authority rows agent_id),nofun⟩
  | cancel_subtree task_id =>
    obtain ⟨tasks,went,same⟩ := sound.cancel_subtree task_id
    exact ⟨{ machine with tasks },by simp only [step,went]; rfl,sound.congr same,nofun⟩
  | cancel_children task_id =>
    obtain ⟨tasks,went,same⟩ := sound.cancel_children task_id
    exact ⟨{ machine with tasks },by simp only [step,went]; rfl,sound.congr same,nofun⟩
  | rebuild_children => exact ⟨_,rfl,sound.rebuild_children,nofun⟩

/-- A call that leaves a tree and takes no live row away meets the condition. -/
theorem meets_of_kept (sound : machine.tasks.Sound) (kept : machine.Kept op) : machine.Meets op := by
  obtain ⟨after,went,tree,live⟩ := kept
  obtain ⟨rank,rooted⟩ := sound.rooted
  cases op with
  | spawn_sub_agent manifest =>
    intro admitted task member named
    cases went
    obtain ⟨refused,_⟩ | ⟨_,gated,same,after⟩ := spawn_sub_agent_links (mem_map.mp rooted.held) manifest
    · rw [admitted] at refused
      cases refused
    rw [(sound.congr same).root_id] at after
    obtain ⟨replaced,others⟩ := insert_replaces (.spawned_in manifest .Running (some "root")) (held_of_links same ⟨task,member,named⟩)
    obtain ⟨row,listed,id,parent,children⟩ := twin_of_links after.symm replaced
    -- Every row of another identity is still there with its links.
    have stays : ∀ other ∈ machine.tasks, other.id ≠ manifest.agent_id → ∃ row ∈ (machine.spawn_sub_agent manifest).tasks,
        row.id = other.id ∧ row.parent = other.parent ∧ row.children = other.children := by
      intro other member different
      obtain ⟨twin,member',id,parent,children⟩ := twin_of_links same.symm member
      obtain ⟨row,listed,id',parent',children'⟩ := twin_of_links after.symm (others twin member' (id ▸ different))
      exact ⟨row,listed,id'.trans id,parent'.trans parent,children'.trans children⟩
    have apart : ∀ child above, Under (fun task : Tcb => task.id) (fun task => task.parent) machine.tasks child above → child ≠ above := by
      rintro child above link rfl
      exact rooted.acyclic child (.single link)
    refine ⟨live manifest.agent_id (by simp only [inserts,admitted,if_true]) task member named,?_,?_⟩
    · cases under : task.parent with
      | none =>
        have first : row.id = "root" := id.trans (named.symm.trans ((rooted.root_alone task member).mp under))
        rw [(tree.root row listed).mpr first] at parent
        cases parent
      | some above =>
      obtain ⟨held,_⟩ := rooted.parents task member above under
      obtain ⟨upper,member',rfl⟩ := mem_map.mp held
      obtain ⟨row',listed',id',_,children'⟩ := stays upper member' (named ▸ (apart _ _ ⟨task,member,rfl,under⟩).symm)
      have inside : task.id ∈ row'.children := by
        rw [children',sound.listed upper member']
        exact ⟨task,member,rfl,under⟩
      obtain ⟨one,member'',same_id,below⟩ := (tree.children row' listed' task.id).mp inside
      have equal : one = row := inj_on_of_nodup_map tree.unique member'' listed (same_id.trans (named.trans id.symm))
      rw [equal,parent,id'] at below
      exact below.symm
    refine ext_mem fun child => ⟨fun inside => ?_,fun none => (not_mem_empty none).elim⟩
    obtain ⟨below,member',rfl,under⟩ := (sound.listed task member child).mp inside
    obtain ⟨row',listed',id',parent',_⟩ := stays below member' (named ▸ apart _ _ ⟨below,member',rfl,under⟩)
    have listed_too : below.id ∈ row.children := by
      rw [tree.children row listed]
      exact ⟨row',listed',id',by rw [parent',under,named,id]; rfl⟩
    rw [children] at listed_too
    exact (not_mem_empty listed_too).elim
  | _ => exact trivial

private theorem new_sound (capabilities : List Capability) (resource_quota : Option ResourceQuota) (budget_grant : Option Wire.BudgetGrant) :
    (new capabilities resource_quota budget_grant).tasks.Sound := by
  refine ⟨⟨fun _ => 0,?_⟩,?_⟩
  · exact ⟨by simp [new,root],by simp [new,root],by simp [new,root],by simp [new,root],by simp [new]⟩
  · simp [Listed,new,root]

private theorem along_iff (sound : machine.tasks.Sound) (ops : List Op) :
    Along Meets machine ops ↔ Along Kept machine ops := by
  induction ops generalizing machine with
  | nil => exact Iff.rfl
  | cons op ops ih =>
  constructor
  · rintro ⟨meets,later⟩
    obtain ⟨after,went,kept,live⟩ := step_sound sound meets
    refine ⟨⟨after,went,kept.tree,live⟩,fun other went' => ?_⟩
    cases went.symm.trans went'
    exact (ih kept).mp (later after went)
  rintro ⟨kept,later⟩
  have meets := meets_of_kept sound kept
  obtain ⟨after,went,sound',_⟩ := step_sound sound meets
  refine ⟨meets,fun other went' => ?_⟩
  cases went.symm.trans went'
  exact (ih sound').mpr (later after went)

/-- Over every run from the start: the tree is kept by every call, and no live task replaced, exactly when no spawn that passes
    the gate names a task of the table, save for a child of the root that has ended and has no children. -/
theorem tree_kept (capabilities : List Capability) (resource_quota : Option ResourceQuota)
    (budget_grant : Option Wire.BudgetGrant) (ops : List Op) :
    (new capabilities resource_quota budget_grant).tasks.Tree ∧
      (Along Meets (new capabilities resource_quota budget_grant) ops ↔
      Along Kept (new capabilities resource_quota budget_grant) ops) :=
  have sound := new_sound capabilities resource_quota budget_grant
  ⟨sound.tree,along_iff sound ops⟩

theorem Along.at {condition : LoopStateMachine → Op → Prop} {between : LoopStateMachine} {front back : List Op}
    (along : Along condition machine (front ++ op :: back)) (ran : machine.run front = some between) :
    condition between op := by
  induction front generalizing machine with
  | nil =>
    cases ran
    exact along.1
  | cons first rest ih =>
  unfold run at ran
  rw [foldlM_cons] at ran
  obtain ⟨next,went,ran⟩ := Option.bind_eq_some_iff.mp ran
  exact ih (along.2 next went) ran

/-- A worker with a helper below it is spawned again while it runs: its row is replaced, and the helper has no parent that lists it. -/
theorem live_task_replaced : ¬ Along Kept (new [] none none)
    ([.spawn_sub_agent ⟨"worker",[],none⟩,.spawn_child "worker" ⟨"helper",[],none⟩ .Running] ++
    [.spawn_sub_agent ⟨"worker",[],none⟩]) := by
  intro along
  have reached : ((new [] none none).run [.spawn_sub_agent ⟨"worker",[],none⟩,.spawn_child "worker" ⟨"helper",[],none⟩ .Running]).any
      (fun machine => machine.inserts (.spawn_sub_agent ⟨"worker",[],none⟩) == some "worker" &&
        machine.tasks.any fun task => task.id == "worker" && !task.state.is_terminal) = true := by decide +kernel
  obtain ⟨machine,ran,both⟩ := (Option.any_eq_true _ _).mp reached
  rw [Bool.and_eq_true] at both
  obtain ⟨inserted,held⟩ := both
  obtain ⟨task,member,live⟩ := any_eq_true.mp held
  rw [Bool.and_eq_true] at live
  obtain ⟨_,_,_,kept⟩ := along.at ran
  have ended := kept "worker" (by simpa using inserted) task member (by simpa using live.1)
  rw [ended] at live
  cases live.2

end LoopStateMachine
end Deepstrike.Lineage

import Deepstrike.Plotting

/-!
The children of an operation and their slots. A child is counted once it has been spawned, and holds a
slot while it is launched or runs. The gate counts the slots when it spawns; a relaunch and the
acknowledgement of a launch give a slot out without it, and so must find it held.
-/
namespace Deepstrike.Slots
open Wire Tasks Components List TaskTable
open Loop Frames

/-- The root's row is there and is no child, and no identity has two rows. -/
structure Rooted (tasks : TaskTable) : Prop where
  ids : (tasks.map Tcb.id).Nodup
  held : (tasks.get "root").isSome
  root : ∀ task ∈ tasks, task.id = "root" → task.proc = false

/-- A change of one row that gives no slot out. -/
structure Frees (change : Tcb → Tcb) (task : Tcb) : Prop where
  id : (change task).id = task.id
  proc : (change task).proc = task.proc
  frees : task.proc = true → (change task).state.occupies_slot = true → task.state.occupies_slot = true

section
variable {tasks after : TaskTable} {change : Tcb → Tcb}

private theorem spawned_map (child : ∀ task ∈ tasks, (change task).proc = task.proc) : spawned (tasks.map change) = tasks.spawned := by
  unfold spawned
  rw [← countP_eq_length_filter,← countP_eq_length_filter,countP_map]
  exact countP_congr fun task member => by simp [child task member]

theorem running_map (frees : ∀ task ∈ tasks, Frees change task) : running (tasks.map change) ≤ tasks.running := by
  unfold running
  rw [← countP_eq_length_filter,← countP_eq_length_filter,countP_map]
  refine countP_mono_left fun task member holds => ?_
  simp only [Function.comp,Bool.and_eq_true] at holds ⊢
  rw [(frees task member).proc] at holds
  exact ⟨holds.1,(frees task member).frees holds.1 holds.2⟩

theorem get_map (named : ∀ task ∈ tasks, (change task).id = task.id) (id : TaskId) :
    get (tasks.map change) id = (tasks.get id).map change := by
  induction tasks with
  | nil => rfl
  | cons task rest ih =>
  have rest_named := ih fun task member => named task (mem_cons_of_mem _ member)
  unfold TaskTable.get at rest_named ⊢
  rw [map_cons,find?_cons,find?_cons,named task (mem_cons_self ..)]
  split
  · rfl
  · exact rest_named

private theorem ids_map (named : ∀ task ∈ tasks, (change task).id = task.id) : (tasks.map change).map Tcb.id = tasks.map Tcb.id := by
  rw [map_map]
  exact map_congr_left named

theorem Rooted.map (rooted : Rooted tasks) (named : ∀ task ∈ tasks, (change task).id = task.id)
    (child : ∀ task ∈ tasks, task.id = "root" → (change task).proc = task.proc) : Rooted (tasks.map change) := by
  constructor
  · rw [ids_map named]
    exact rooted.ids
  · rw [get_map named,Option.isSome_map]
    exact rooted.held
  intro task member here
  obtain ⟨before,inside,rfl⟩ := mem_map.mp member
  have here' := (named before inside) ▸ here
  rw [child before inside here']
  exact rooted.root before inside here'

variable {row : Tcb}

theorem Rooted.append (rooted : Rooted tasks) (fresh : tasks.get row.id = none) : Rooted (tasks ++ [row]) := by
  have other : row.id ≠ "root" := by
    intro same
    rw [same] at fresh
    simpa [fresh] using rooted.held
  constructor
  · rw [map_append,nodup_append]
    refine ⟨rooted.ids,by simp,fun id known id' last => ?_⟩
    obtain ⟨task,member,rfl⟩ := mem_map.mp known
    cases mem_singleton.mp last
    intro same
    have unknown := find?_eq_none.mp fresh task member
    simp [same] at unknown
  · have held := rooted.held
    unfold TaskTable.get at held ⊢
    rw [find?_append]
    simp [held]
  intro task member named
  rcases mem_append.mp member with inside | last
  · exact rooted.root task inside named
  · cases mem_singleton.mp last
    exact (other named).elim

private theorem filter_single (keeps : Tcb → Bool) (row : Tcb) : ((tasks ++ [row]).filter keeps).length ≤ (tasks.filter keeps).length+1 := by
  have single := length_filter_le keeps [row]
  rw [filter_append,length_append]
  simp only [length_singleton] at single
  omega

private theorem insert_fresh (fresh : tasks.get row.id = none) : tasks.insert row = tasks ++ [row] := by
  unfold TaskTable.insert
  rw [if_neg]
  unfold TaskTable.get at fresh
  simpa [any_eq_true] using find?_eq_none.mp fresh

end

/-- A step of the children within the limits of the roster it starts from. -/
structure Within (before after : Roster) : Prop where
  quota : after.quota = before.quota
  grant : after.grant = before.grant
  rooted : Rooted after.tasks
  running : ∀ most ∈ before.slots, after.tasks.running ≤ most ∨ after.tasks.running ≤ before.tasks.running
  spawned : ∀ most ∈ before.places, after.tasks.spawned ≤ most ∨ after.tasks.spawned ≤ before.tasks.spawned

section
variable {first second third roster : Roster}

/-- Two steps within the limits are one. -/
theorem Within.next (one : Within first second) (two : Within second third) : Within first third where
  quota := two.quota.trans one.quota
  grant := two.grant.trans one.grant
  rooted := two.rooted
  running := fun most limited => by
    have limited' : most ∈ second.slots := by
      unfold Roster.slots
      rw [one.quota]
      exact limited
    have before := one.running most limited
    have behind := two.running most limited'
    omega
  spawned := fun most limited => by
    have limited' : most ∈ second.places := by
      unfold Roster.places
      rw [one.quota,one.grant]
      exact limited
    have before := one.spawned most limited
    have behind := two.spawned most limited'
    omega

theorem Within.same (rooted : Rooted roster.tasks) : Within roster roster :=
  ⟨rfl,rfl,rooted,fun _ _ => .inr (Nat.le_refl _),fun _ _ => .inr (Nat.le_refl _)⟩

theorem Within.map (rooted : Rooted roster.tasks) {change : Tcb → Tcb}
    (frees : ∀ task ∈ roster.tasks, Frees change task) :
    Within roster (roster.map fun tasks => tasks.map change) where
  quota := rfl
  grant := rfl
  rooted := rooted.map (fun task member => (frees task member).id) fun task member _ => (frees task member).proc
  running := fun _ _ => .inr (running_map frees)
  spawned := fun _ _ => .inr (Nat.le_of_eq (spawned_map fun task member => (frees task member).proc))

theorem Within.append (rooted : Rooted roster.tasks) (opens : roster.Open) {row : Tcb}
    (fresh : roster.tasks.get row.id = none) :
    Within roster { roster with tasks := roster.tasks ++ [row] } where
  quota := rfl
  grant := rfl
  rooted := rooted.append fresh
  running := fun most limited => .inl (Nat.le_trans (filter_single _ row) (opens.1 most limited))
  spawned := fun most limited => .inl (Nat.le_trans (filter_single _ row) (opens.2 most limited))

end

/-- The row holds a slot, or has given it back for good. -/
def Holds (task : Tcb) : Prop := task.state.occupies_slot = true ∨ task.state.is_terminal = true

/-- These tasks hold their slots, unless nothing limits them. -/
def Holding (named : List TaskId) (roster : Roster) : Prop :=
  roster.slots = none ∨ ∀ task ∈ roster.tasks, task.proc = true → task.id ∈ named → Holds task

/-- A change that takes no slot from a row that runs on. -/
structure Steady (change : Tcb → Tcb) (task : Tcb) : Prop extends Frees change task where
  holds : task.proc = true → Holds task → Holds (change task)

/-- A step within the limits, in which the named tasks go on holding their slots. -/
def Guarding (named : List TaskId) (before after : Roster) : Prop :=
  Rooted before.tasks → Holding named before → Within before after ∧ Holding named after

section
variable {named : List TaskId} {roster : Roster} {change : Tcb → Tcb}

theorem Guarding.map (steady : ∀ task ∈ roster.tasks, Rooted roster.tasks → Steady change task) :
    Guarding named roster (roster.map fun tasks => tasks.map change) := by
  intro rooted holding
  refine ⟨Within.map rooted fun task member => (steady task member rooted).toFrees,holding.imp id fun held task member child listed => ?_⟩
  obtain ⟨before,inside,rfl⟩ := mem_map.mp member
  have same := steady before inside rooted
  rw [same.proc] at child
  rw [same.id] at listed
  exact same.holds child (held before inside child listed)

theorem steady_same (task : Tcb) : Steady (fun task => task) task where
  id := rfl
  proc := rfl
  frees := fun _ occupied => occupied
  holds := fun _ holds => holds

variable {task : Tcb} {id : TaskId}

theorem Steady.here {other : Tcb → Tcb} (steady : Steady change task) (same : other task = change task) :
    Steady other task where
  id := same ▸ steady.id
  proc := same ▸ steady.proc
  frees := same ▸ steady.frees
  holds := same ▸ steady.holds

theorem frees_modify (frees : task.id = id → Frees change task) :
    Frees (fun task => if task.id = id then change task else task) task := by
  have taken (same : task.id = id) : (if task.id = id then change task else task) = change task := if_pos same
  by_cases here : task.id = id
  · exact ⟨(taken here).symm ▸ (frees here).id,(taken here).symm ▸ (frees here).proc,(taken here).symm ▸ (frees here).frees⟩
  · exact ⟨by rw [if_neg here],by rw [if_neg here],by rw [if_neg here]; exact fun _ occupied => occupied⟩

theorem steady_modify (steady : task.id = id → Steady change task) :
    Steady (fun task => if task.id = id then change task else task) task := by
  by_cases here : task.id = id
  · exact (steady here).here (if_pos here)
  · exact (steady_same task).here (if_neg here)

theorem Guarding.next {first second third : Roster} (one : Guarding named first second)
    (two : Guarding named second third) :
    Guarding named first third := by
  intro rooted holding
  obtain ⟨within,held⟩ := one rooted holding
  obtain ⟨within',held'⟩ := two within.rooted held
  exact ⟨within.next within',held'⟩

private theorem steady_root (rooted : Rooted roster.tasks) (member : task ∈ roster.tasks) (named : task.id = "root")
    (id : (change task).id = task.id) (proc : (change task).proc = task.proc) : Steady change task := by
  have free := rooted.root task member named
  exact { id, proc, frees := fun child => by simp [free] at child, holds := fun child => by simp [free] at child }

private theorem guarding_root (state : TaskLifecycle) (wait : Option (WaitMode × List WaitCondition)) :
    Guarding named roster (roster.map (settle_root state wait)) := by
  intro rooted holding
  have present : ¬ (roster.tasks.get "root").isNone = true := by
    rw [Option.isNone_iff_eq_none]
    exact fun absent => by simpa [absent] using rooted.held
  have stated : Guarding named roster (roster.map fun tasks => tasks.set_state "root" state) :=
    Guarding.map fun task member rooted => steady_modify fun here => steady_root rooted member here rfl rfl
  have waited : Guarding named (roster.map fun tasks => tasks.set_state "root" state) (roster.map (settle_root state wait)) := by
    unfold settle_root Roster.map
    dsimp only
    rw [if_neg present]
    cases wait with
    | none =>
      exact @Guarding.map named (roster.map fun tasks => tasks.set_state "root" state) _ fun task member rooted =>
        steady_modify fun here => steady_root rooted member here rfl rfl
    | some waiting =>
    dsimp only [register_wait_set]
    split
    · exact fun rooted holding => ⟨Within.same rooted,holding⟩
    · refine @Guarding.map named (roster.map fun tasks => tasks.set_state "root" state) _ fun task member rooted =>
        steady_modify fun here => steady_root rooted member here ?_ ?_
      · split <;> rfl
      · split <;> rfl
  exact stated.next waited rooted holding

theorem steady_hear (key : WaitCondition) (task : Tcb) : Steady (hear key) task := by
  refine (?_ : Steady (hear key) task)
  cases waiting : task.wait_set with
  | none => exact (steady_same task).here (by simp [hear,waiting])
  | some wait =>
  have quiet (next : Option DurableWaitSet) : Steady (fun task => { task with wait_set := next }) task :=
    ⟨⟨rfl,rfl,fun _ occupied => occupied⟩,fun _ holds => holds⟩
  by_cases heard : key ∈ wait.conditions
  · by_cases terminal : task.state.is_terminal = true
    · exact (quiet none).here (by simp [hear,waiting,heard,terminal])
    by_cases complete : satisfies (fired key wait) = true
    · by_cases suspended : task.state = .Suspended
      · have ready : Steady (fun task => { task with wait_set := none, state := .Ready, runnable_cause := cause_of key }) task :=
          ⟨⟨rfl,rfl,fun _ occupied => by cases occupied⟩,fun _ holds => by
            rcases holds with occupied | ended <;> simp [suspended,TaskLifecycle.occupies_slot,TaskLifecycle.is_terminal] at *⟩
        exact ready.here (by simp [hear,waiting,heard,complete,suspended,TaskLifecycle.is_terminal])
      · exact (quiet none).here (by simp [hear,waiting,heard,terminal,complete,suspended])
    · exact (quiet (some (fired key wait))).here (by simp [hear,waiting,heard,terminal,complete])
  · exact (steady_same task).here (by simp [hear,waiting,heard])

variable {tasks : TaskTable}

private theorem guarding_spawned {parent child : TaskId} (opens : roster.Open)
    (spawned : roster.tasks.spawn_child parent child .PendingLaunch = .ok tasks) : Guarding named roster { roster with tasks } := by
  intro rooted holding
  unfold spawn_child at spawned
  split at spawned
  next => cases spawned
  next =>
  split at spawned
  next => cases spawned
  next =>
  split at spawned
  next => cases spawned
  next fresh =>
  cases spawned
  have absent : roster.tasks.get child = none := by simpa using fresh
  have appended : roster.tasks.insert (Tcb.spawned_in child parent .PendingLaunch) = _ := insert_fresh absent
  rw [appended]
  refine ⟨Within.append rooted opens absent,holding.imp id fun held task member proc listed => ?_⟩
  rcases mem_append.mp member with inside | last
  · exact held task inside proc listed
  · cases mem_singleton.mp last
    exact .inl rfl

instance : Tolerant (Guarding named) where
  same _ := fun rooted holding => ⟨Within.same rooted,holding⟩
  next := Guarding.next
  root _ := guarding_root
  ended _ _ reason := Guarding.map fun _ _ _ => steady_modify fun _ => ⟨⟨rfl,rfl,fun _ occupied => by cases occupied⟩,fun _ _ => .inr rfl⟩
  unwaited _ _ := Guarding.map fun _ _ _ => steady_modify fun _ => ⟨⟨rfl,rfl,fun _ occupied => occupied⟩,fun _ holds => holds⟩
  heard _ key := Guarding.map fun task _ _ => steady_hear key task
  starting _ _ := Guarding.map fun task _ _ => steady_modify fun _ => by
    by_cases pending : task.state = .PendingLaunch
    · have launched : Steady (fun task : Tcb => { task with state := .Starting }) task :=
        ⟨⟨rfl,rfl,fun _ _ => by rw [pending]; rfl⟩,fun _ _ => .inl rfl⟩
      exact launched.here (if_pos pending)
    · exact (steady_same task).here (if_neg pending)
  spawned _ _ _ _ := guarding_spawned

/-! The two ways past the gate. -/

/-- What becomes of a row that is no child, or holds a slot, or is not given one: as far as nothing limits the slots, it does not matter. -/
theorem Within.unlimited (rooted : Rooted roster.tasks) (unlimited : roster.slots = none)
    (named : ∀ task ∈ roster.tasks, (change task).id = task.id)
    (child : ∀ task ∈ roster.tasks, (change task).proc = task.proc) :
    Within roster (roster.map fun tasks => tasks.map change) where
  quota := rfl
  grant := rfl
  rooted := rooted.map named fun task member _ => child task member
  running := fun most limited => by simp [unlimited] at limited
  spawned := fun _ _ => .inr (Nat.le_of_eq (spawned_map child))

/-- A named task that starts goes on holding its slot. -/
theorem guarding_started (listed : id ∈ named) :
    Guarding named roster (roster.map fun tasks => tasks.modify id fun task =>
    if task.state.is_terminal then task else { task with state := .Running }) := by
  intro rooted holding
  rcases holding with unlimited | held
  · refine ⟨Within.unlimited rooted unlimited (fun task _ => ?_) fun task _ => ?_,.inl unlimited⟩
    · dsimp only
      split
      · split <;> rfl
      · rfl
    · dsimp only
      split
      · split <;> rfl
      · rfl
  have steady : ∀ task ∈ roster.tasks,
    Steady (fun task => if task.id = id then if task.state.is_terminal then task else { task with state := .Running }
      else task) task := fun task member => steady_modify fun here => by
    by_cases ended : task.state.is_terminal = true
    · exact (steady_same task).here (if_pos ended)
    · have runs : Steady (fun task : Tcb => { task with state := .Running }) task :=
        ⟨⟨rfl,rfl,fun child _ => (held task member child (here ▸ listed)).resolve_right ended⟩,fun _ _ => .inl rfl⟩
      exact runs.here (if_neg ended)
  exact Guarding.map (fun task member _ => steady task member) rooted (.inr held)

private theorem prepare_supervised_relaunch_eq (tasks : TaskTable) (id : TaskId) :
    tasks.prepare_supervised_relaunch id = tasks.modify id fun task => { task with wait_set := none, state := .PendingLaunch, result := none } := by
  unfold TaskTable.prepare_supervised_relaunch TaskTable.clear_wait TaskTable.modify
  rw [map_map]
  refine map_congr_left fun task _ => ?_
  by_cases here : task.id = id <;> simp [here]

private theorem counted_modify (counts : Tcb → Bool) (ids : (tasks.map Tcb.id).Nodup) (id : TaskId) (change : Tcb → Tcb) :
    (modify tasks id change).countP counts ≤ tasks.countP counts+1 := by
  unfold TaskTable.modify
  induction tasks with
  | nil => simp
  | cons task rest ih =>
  obtain ⟨fresh,ids⟩ := nodup_cons.mp ids
  by_cases here : task.id = id
  · have untouched : (rest.map fun task => if task.id = id then change task else task) = rest := by
      refine (map_congr_left fun other member => ?_).trans (map_id rest)
      exact if_neg fun same => fresh (mem_map.mpr ⟨other,member,same.trans here.symm⟩)
    rw [map_cons,untouched,countP_cons,countP_cons]
    split <;> split <;> omega
  · have later := ih ids
    rw [map_cons,if_neg here,countP_cons,countP_cons]
    omega

private theorem running_modify (ids : (tasks.map Tcb.id).Nodup) (id : TaskId) (change : Tcb → Tcb) :
    running (tasks.modify id change) ≤ tasks.running+1 := by
  unfold running
  rw [← countP_eq_length_filter,← countP_eq_length_filter]
  exact counted_modify _ ids id change

private theorem spawned_modify (ids : (tasks.map Tcb.id).Nodup) (id : TaskId) (change : Tcb → Tcb) :
    spawned (tasks.modify id change) ≤ tasks.spawned+1 := by
  unfold spawned
  rw [← countP_eq_length_filter,← countP_eq_length_filter]
  exact counted_modify _ ids id change

/-- A row that is inserted behind the gate, new or in the place of another one. -/
theorem Within.insert (rooted : Rooted roster.tasks) (opens : roster.Open) {row : Tcb} (other : row.id ≠ "root") :
    Within roster (roster.map fun tasks => tasks.insert row) := by
  by_cases known : (roster.tasks.any fun task => task.id == row.id) = true
  · have replaced : roster.tasks.insert row = roster.tasks.modify row.id fun _ => row := if_pos known
    refine ⟨rfl,rfl,?_,fun most limited => .inl ?_,fun most limited => .inl ?_⟩
    · show Rooted (roster.tasks.insert row)
      rw [replaced]
      refine rooted.map (fun task _ => ?_) fun task _ here => ?_
      · split
        next same => exact same.symm
        next => rfl
      · rw [if_neg fun same => other (same.symm.trans here)]
    · show TaskTable.running (roster.tasks.insert row) ≤ most
      rw [replaced]
      exact Nat.le_trans (running_modify rooted.ids _ _) (opens.1 most limited)
    · show TaskTable.spawned (roster.tasks.insert row) ≤ most
      rw [replaced]
      exact Nat.le_trans (spawned_modify rooted.ids _ _) (opens.2 most limited)
  have fresh : roster.tasks.get row.id = none := find?_eq_none.mpr fun task member same => known (any_eq_true.mpr ⟨task,member,same⟩)
  have appended : (roster.map fun tasks => tasks.insert row) = { roster with tasks := roster.tasks ++ [row] } := by
    unfold Roster.map
    dsimp only
    rw [insert_fresh fresh]
  rw [appended]
  exact Within.append rooted opens fresh

/-- The task holds its slot, or another one is free. -/
def Regains (roster : Roster) (id : TaskId) : Prop :=
  (∀ task ∈ roster.tasks, task.id = id → task.proc = true → task.state.occupies_slot = true) ∨ ∀ most ∈ roster.slots,
  roster.tasks.running < most

/-- A relaunch of a task that regains its slot stays within the limits. -/
theorem guarding_prepared (regains : Regains roster id) :
    Guarding [] roster (roster.map fun tasks => tasks.prepare_supervised_relaunch id) := by
  intro rooted _
  refine ⟨?_,.inr fun _ _ _ listed => by cases listed⟩
  simp only [prepare_supervised_relaunch_eq]
  rcases regains with held | free
  · exact Within.map rooted fun task member => frees_modify fun here => ⟨rfl,rfl,fun child _ => held task member here child⟩
  exact {
    quota := rfl
    grant := rfl
    rooted := rooted.map (fun task _ => by dsimp only; split <;> rfl) fun task _ _ => by dsimp only; split <;> rfl
    running := fun most limited => .inl (Nat.le_trans (running_modify rooted.ids id _) (free most limited))
    spawned := fun _ _ => .inr (Nat.le_of_eq (spawned_map fun task _ => by dsimp only; split <;> rfl)) }

theorem guarding_joined (id : TaskId) (state : TaskLifecycle) (result : ChildResult)
    (free : state.occupies_slot = false) :
    Guarding [] roster (roster.map fun tasks => tasks.modify id fun task =>
    { task with state, result := some result }) := by
  intro rooted _
  refine ⟨Within.map rooted fun task member => frees_modify fun here => ?_,.inr fun _ _ _ listed => by cases listed⟩
  exact ⟨rfl,rfl,fun _ occupied => by simp [free] at occupied⟩

theorem acknowledge_started_tolerated {K : LoopParts} {related : Roster → Roster → Prop} [Tolerant related]
    (nodes : List WorkflowSpawnInfo)
    (started : ∀ node ∈ nodes, ∀ roster : Roster,
    related roster (roster.map fun tasks => tasks.modify node.agent_id fun task =>
      if task.state.is_terminal then task else { task with state := .Running })) :
    Tolerated (K := K) related (acknowledge_started nodes) := by
  induction nodes with
  | nil => exact tolerated_pure
  | cons node rest ih =>
  refine Spans.seq (onTasks_tolerated (started node (mem_cons_self ..))) fun _ => ?_
  exact (process_changed_tolerated _).seq fun _ => ih fun node member => started node (mem_cons_of_mem _ member)

end
end Deepstrike.Slots

import Deepstrike.Promoting

/-!
The indexes of a task graph: a counter of open dependencies for each node, a row of dependents for each
dependency, a heap of the ready ones with a generation for each entry. A step that suits the graph keeps
them; three kinds do not: a node added under a dependency that completed, a node added so low that the
rows above it are cut off, and a completed node that is started or made ready again.
-/
namespace Deepstrike.Orchestration
open Vocabulary List TaskNode ReadyEntry

namespace TaskGraph

/-- The nodes that list a dependency, in the order of their ids. -/
def depending (graph : TaskGraph) (dependency : Nat) : List Nat :=
  (List.range graph.nodes.length).filter fun id => (graph.get id).any fun node => decide (dependency ∈ node.dependencies)

/-- What is done to a graph. -/
inductive Action where
  | add (task : String) (dependencies : List Nat)
  | start (task_id : Nat)
  | set_ready (task_id : Nat)
  | complete (task_id : Nat) (result : LoopResult)
  | complete_partial (task_id : Nat) (result : LoopResult)
  | fail (task_id : Nat)
  | fail_with_result (task_id : Nat) (result : LoopResult)
  | skip_upstream_failed (task_id : Nat)
  | restore_runtime_state (states : List (TaskStatus × Option LoopResult))
  | ready_tasks
  | configure_scheduling (policy : SchedulerPolicyConfig) (token_costs : List Nat) (factors : List SchedulingFactors)

/-- A restore that is refused leaves the graph as it is. -/
def apply (graph : TaskGraph) : Action → TaskGraph
  | .add task dependencies => graph.add task dependencies
  | .start task_id => graph.start task_id
  | .set_ready task_id => graph.set_ready task_id
  | .complete task_id result => graph.complete task_id result
  | Action.complete_partial task_id result => graph.complete_partial task_id result
  | .fail task_id => graph.fail task_id
  | .fail_with_result task_id result => graph.fail_with_result task_id result
  | .skip_upstream_failed task_id => graph.skip_upstream_failed task_id
  | .restore_runtime_state states => (graph.restore_runtime_state states).toOption.getD graph
  | .ready_tasks => graph.ready_tasks.2
  | .configure_scheduling policy token_costs factors => graph.configure_scheduling_with_factors policy token_costs factors

/-- The steps that suit a graph. An added node has no completed dependency, and no node lists a dependency above the rows that
    are left; a completed node that is started or made ready has no dependents; and the heap holds no entry of the generation
    that a node made ready comes to. -/
def Suits (graph : TaskGraph) : Action → Prop
  | .add _ dependencies =>
    (∀ node ∈ graph.nodes, ∀ dependency ∈ node.dependencies, dependency < row_count graph.nodes.length dependencies.eraseDups) ∧
    ∀ dependency ∈ dependencies, graph.status_of dependency ≠ some .Completed
  | .start task_id => graph.status_of task_id = some .Completed → graph.depending task_id = []
  | .set_ready task_id => graph.status_of task_id ≠ some .Ready →
    (graph.status_of task_id = some .Completed → graph.depending task_id = []) ∧
    ∀ generation ∈ graph.ready_generation[task_id]?, ∀ entry ∈ graph.ready_heap, entry.node_id = task_id →
      entry.generation ≠ saturating_succ generation
  | _ => True

/-- The graphs that suitable steps lead to. -/
inductive Suited : TaskGraph → Prop where
  | new : Suited .new
  | step {graph : TaskGraph} {action : Action} : Suited graph → graph.Suits action → Suited (graph.apply action)

/-- The indexes say what the nodes say: each counter is the number of dependencies that have not completed, and no completion
    takes one below zero; each row is the list of dependents; and the ready tasks are the ready nodes, each once. -/
structure Indexes (graph : TaskGraph) : Prop where
  counters : graph.in_degree = graph.residual
  above : ∀ id status, graph.status_of id = some status → status.is_terminal = false →
    (graph.dependents id).Nodup ∧ ∀ dep_id ∈ graph.dependents id, ∃ degree, graph.in_degree[dep_id]? = some (degree+1)
  rows : ∀ dependency, graph.dependents dependency = graph.depending dependency
  ready : ∀ id, graph.ready_tasks.1.count id = if graph.status_of id = some .Ready then 1 else 0

/-- The entry of the heap is the one a node was last made ready with. -/
def current (graph : TaskGraph) (id : Nat) (entry : ReadyEntry) : Bool :=
  entry.node_id == id && graph.ready_generation[id]? == some entry.generation

/-- The indexes between two steps of an operation: some nodes are owed a decrement, some are not queued yet. -/
structure Ranked (graph : TaskGraph) (owed unqueued : List Nat) : Prop where
  counters : ∀ id, graph.in_degree[id]? = graph.residual[id]?.map (· + owed.count id)
  rows : ∀ dependency, graph.dependents dependency = graph.depending dependency
  distinct : ∀ node ∈ graph.nodes, node.dependencies.Nodup
  generations : graph.ready_generation.length = graph.nodes.length
  inside : ∀ entry ∈ graph.ready_heap, entry.node_id < graph.nodes.length
  queued : ∀ id, id ∉ unqueued → graph.status_of id = some .Ready → graph.ready_heap.countP (graph.current id) = 1
  waiting : ∀ id, graph.status_of id = some .Pending → ∀ entry ∈ graph.ready_heap, entry.node_id ≠ id

section
variable {graph before after : TaskGraph} {owed unqueued wider : List Nat} {id : Nat} {status : TaskStatus} {result : Option LoopResult}

private theorem depending_congr (dependencies : after.nodes.map TaskNode.dependencies = before.nodes.map TaskNode.dependencies) (dependency : Nat) :
    after.depending dependency = before.depending dependency := by
  have lengths : after.nodes.length = before.nodes.length := by simpa using congrArg length dependencies
  have listed (graph : TaskGraph) (id : Nat) : ((graph.get id).any fun node => decide (dependency ∈ node.dependencies)) =
      (graph.nodes.map TaskNode.dependencies)[id]?.any fun dependencies => decide (dependency ∈ dependencies) := by
    unfold get
    rw [getElem?_map]
    cases graph.nodes[id]? <;> rfl
  unfold depending
  simp only [listed,lengths,dependencies]

theorem mem_depending {dependency : Nat} :
    id ∈ graph.depending dependency ↔ ∃ node, graph.get id = some node ∧ dependency ∈ node.dependencies := by
  unfold depending
  rw [mem_filter,Option.any_eq_true]
  simp only [decide_eq_true_eq,mem_range]
  constructor
  · exact fun held => held.2
  · rintro ⟨node,found,member⟩
    exact ⟨(List.getElem?_eq_some_iff.mp found).1,node,found,member⟩

private theorem depending_ne_nil {node : TaskNode} {dependency : Nat} (listed : node ∈ graph.nodes) (member : dependency ∈ node.dependencies) :
    graph.depending dependency ≠ [] := by
  obtain ⟨id,found⟩ := getElem?_of_mem listed
  exact ne_nil_of_mem (mem_depending.mpr ⟨node,found,member⟩)

private theorem nodup_depending (graph : TaskGraph) (dependency : Nat) : (graph.depending dependency).Nodup := nodup_range.filter _

private theorem Ranked.relisted (ranked : Ranked before owed unqueued) (reverse_adjacency : after.reverse_adjacency = before.reverse_adjacency)
    (dependencies : after.nodes.map dependencies = before.nodes.map dependencies) :
    (∀ dependency, after.dependents dependency = after.depending dependency) ∧ ∀ node ∈ after.nodes, node.dependencies.Nodup := by
  refine ⟨fun dependency => ?_,fun node listed => ?_⟩
  · rw [depending_congr dependencies,dependents,reverse_adjacency]
    exact ranked.rows dependency
  · have among : node.dependencies ∈ before.nodes.map TaskNode.dependencies := dependencies ▸ mem_map_of_mem listed
    obtain ⟨held,listed_before,same⟩ := mem_map.mp among
    rw [← same]
    exact ranked.distinct held listed_before

/-- A node that takes another state: the counters stand as long as no dependency completes or is reopened. -/
theorem Ranked.moved (ranked : Ranked before owed unqueued) (moved : Moved before after id status result)
    (heap : after.ready_heap = before.ready_heap) (generations : after.ready_generation = before.ready_generation)
    (completes : (before.status_of id = some .Completed ↔ status = .Completed) ∨ before.depending id = [])
    (waits : status ≠ .Pending) (more : ∀ other ∈ unqueued, other ∈ wider) (ready : status = .Ready → id ∈ wider) :
    Ranked after owed wider := by
  have residual : after.residual = before.residual := by
    have counts : ∀ graph : TaskGraph, graph.residual = (graph.nodes.map dependencies).map fun dependencies =>
        (dependencies.filter fun dependency => decide (graph.status_of dependency ≠ some .Completed)).length := fun graph => by
      rw [map_map]
      rfl
    rw [counts,counts,moved.dependencies,map_map,map_map]
    refine map_congr_left fun node listed => congrArg length (filter_congr fun dependency member => ?_)
    refine decide_eq_decide.mpr (not_congr ?_)
    rw [moved.status_of]
    split
    next same =>
      subst same
      obtain completes | unlisted := completes
      · cases stands : before.status_of dependency with
        | none => simp
        | some held =>
        rw [stands] at completes
        simpa using completes.symm
      · exact absurd unlisted (depending_ne_nil listed member)
    next => rfl
  obtain ⟨rows,distinct⟩ := ranked.relisted moved.reverse_adjacency moved.dependencies
  have lengths : after.nodes.length = before.nodes.length := by simpa using congrArg length moved.dependencies
  refine ⟨fun other => ?_,rows,distinct,?_,?_,fun other free is_ready => ?_,fun other pending => ?_⟩
  · rw [moved.in_degree,residual]
    exact ranked.counters other
  · rw [generations,ranked.generations,lengths]
  · rw [heap,lengths]
    exact ranked.inside
  · have other_ready : before.status_of other = some .Ready := by
      rw [moved.status_of] at is_ready
      split at is_ready
      next same =>
        subst same
        obtain ⟨_,_,same⟩ := Option.map_eq_some_iff.mp is_ready
        exact absurd (ready same) free
      next => exact is_ready
    have counted := ranked.queued other (fun member => free (more other member)) other_ready
    rw [heap,← counted]
    refine countP_congr fun entry _ => ?_
    rw [current,current,generations]
  rw [heap]
  refine ranked.waiting other ?_
  rw [moved.status_of] at pending
  split at pending
  next same =>
    obtain ⟨_,_,same⟩ := Option.map_eq_some_iff.mp pending
    exact absurd same waits
  next => exact pending

private theorem Ranked.passed (ranked : Ranked graph owed (id :: unqueued))
    (stands : graph.status_of id ≠ some .Ready) : Ranked graph owed unqueued := by
  refine ⟨ranked.counters,ranked.rows,ranked.distinct,ranked.generations,ranked.inside,fun other free ready => ?_,ranked.waiting⟩
  refine ranked.queued other (fun member => ?_) ready
  obtain same | member := mem_cons.mp member
  · exact stands (same ▸ ready)
  · exact free member

/-! The heap. -/

/-- A node whose generation goes up: the entries it has are stale. -/
def advanced (graph : TaskGraph) (id : Nat) : TaskGraph :=
  { graph with
    ready_generation := graph.ready_generation.modify id saturating_succ
    enqueued_round := graph.enqueued_round.modify id fun _ => graph.ready_round
    enqueue_sequence := saturating_succ graph.enqueue_sequence }

private theorem current_advanced {other : Nat} (differs : other ≠ id) (entry : ReadyEntry) :
    (graph.advanced id).current other entry = graph.current other entry := by
  unfold current advanced
  rw [getElem?_modify]
  simp [Ne.symm differs]

section
variable (ranked : Ranked graph owed (id :: unqueued))
include ranked

theorem Ranked.advanced : Ranked (graph.advanced id) owed (id :: unqueued) := by
  refine ⟨ranked.counters,ranked.rows,ranked.distinct,?_,ranked.inside,fun other free ready => ?_,ranked.waiting⟩
  · simpa [TaskGraph.advanced] using ranked.generations
  · have differs : other ≠ id := fun same => free (same ▸ mem_cons_self)
    rw [← ranked.queued other free ready]
    exact countP_congr fun entry _ => by rw [current_advanced differs]

/-- A node without an entry of its generation is put into the heap. -/
theorem Ranked.push (bound : id < graph.nodes.length) (stands : graph.status_of id ≠ some .Pending)
    (fresh : ∀ entry ∈ graph.ready_heap, graph.current id entry = false) :
    Ranked (graph.push_ready_entry id) owed unqueued := by
  have held : graph.ready_generation[id]? = some (graph.ready_generation[id]?.getD 0) := by
    rw [getElem?_eq_getElem (ranked.generations ▸ bound)]
    rfl
  refine ⟨ranked.counters,ranked.rows,ranked.distinct,ranked.generations,fun entry member => ?_,fun other free ready => ?_,
    fun other pending entry member => ?_⟩
  · obtain member | member := mem_append.mp member
    · exact ranked.inside entry member
    · cases mem_singleton.mp member
      exact bound
  · have added : (graph.push_ready_entry id).ready_heap.countP ((graph.push_ready_entry id).current other) =
        graph.ready_heap.countP (graph.current other) + if other = id then 1 else 0 := by
      refine countP_append.trans (congrArg _ ?_)
      rw [countP_singleton]
      unfold current push_ready_entry
      by_cases same : other = id
      · subst same
        simp [← held]
      · simp [same,Ne.symm same]
    rw [added]
    split
    next same =>
      subst same
      rw [countP_eq_zero.mpr fun entry member => by rw [fresh entry member]; exact Bool.false_ne_true]
    next differs =>
    refine ranked.queued other (fun member => ?_) ready
    obtain same | member := mem_cons.mp member
    · exact differs same
    · exact free member
  obtain member | member := mem_append.mp member
  · exact ranked.waiting other pending entry member
  · cases mem_singleton.mp member
    rintro rfl
    exact stands pending

private theorem Ranked.enqueue (bound : id < graph.nodes.length) (stands : graph.status_of id ≠ some .Pending)
    (fresh : ∀ generation ∈ graph.ready_generation[id]?, ∀ entry ∈ graph.ready_heap, entry.node_id = id →
      entry.generation ≠ saturating_succ generation) :
    Ranked (graph.enqueue_ready id) owed unqueued := by
  refine ranked.advanced.push bound stands fun entry member => ?_
  unfold current TaskGraph.advanced
  rw [getElem?_modify,Bool.and_eq_false_iff]
  by_cases own : entry.node_id = id
  · refine .inr ?_
    cases held : graph.ready_generation[id]? with
    | none => rfl
    | some generation =>
    have differs := fresh generation held entry member own
    simpa using Ne.symm differs
  · exact .inl (beq_false_of_ne own)

private theorem Ranked.enqueue_unseen (bound : id < graph.nodes.length)
    (stands : graph.status_of id ≠ some .Pending)
    (unseen : ∀ entry ∈ graph.ready_heap, entry.node_id ≠ id) : Ranked (graph.enqueue_ready id) owed unqueued :=
  ranked.enqueue bound stands fun _ _ entry member own => absurd own (unseen entry member)

end

/-- The ready nodes are put into a heap that names none of them, under a new generation or under the one they have. -/
theorem Ranked.refill (put : TaskGraph → Nat → TaskGraph)
    (named : ∀ graph id, (put graph id).ready_heap.map node_id = graph.ready_heap.map node_id ++ [id])
    (puts : ∀ (graph : TaskGraph) (id : Nat) (unqueued : List Nat), Ranked graph owed (id :: unqueued) →
    id < graph.nodes.length →
      graph.status_of id ≠ some .Pending → (∀ entry ∈ graph.ready_heap, entry.node_id ≠ id) →
      Ranked (put graph id) owed unqueued) :
    ∀ (ids : List Nat) (graph : TaskGraph), ids.Nodup → Ranked graph owed ids →
      (∀ id ∈ ids, id ∉ graph.ready_heap.map node_id) →
      Ranked (ids.foldl (fun graph id => if graph.status_of id = some .Ready then put graph id else graph) graph) owed
      [] := by
  intro ids
  induction ids with
  | nil => exact fun graph _ ranked _ => ranked
  | cons id rest ih =>
  intro graph distinct ranked unseen
  obtain ⟨apart,distinct⟩ := nodup_cons.mp distinct
  rw [foldl_cons]
  split
  next ready =>
    refine ih _ distinct ?_ fun other member => ?_
    · refine puts graph id rest ranked (isSome_status_of.mp (by rw [ready]; rfl)) (by rw [ready]; simp) fun entry member own => ?_
      exact unseen id mem_cons_self (mem_map.mpr ⟨entry,member,own⟩)
    · rw [named,mem_append,mem_singleton]
      rintro (seen | rfl)
      · exact unseen other (mem_cons_of_mem id member) seen
      · exact apart member
  next unready => exact ih graph distinct (ranked.passed unready) fun other member => unseen other (mem_cons_of_mem id member)

/-! What each step does. -/

theorem Ranked.lowered (ranked : Ranked graph (id :: owed) unqueued) : Ranked (graph.lowered id) owed unqueued := by
  refine ⟨fun other => ?_,ranked.rows,ranked.distinct,ranked.generations,ranked.inside,ranked.queued,ranked.waiting⟩
  change (graph.in_degree.modify id (· - 1))[other]? = graph.residual[other]?.map (· + owed.count other)
  rw [getElem?_modify,ranked.counters]
  cases graph.residual[other]? with
  | none => rfl
  | some degree =>
  by_cases same : id = other
  · subst same
    simp
  · simp [same]

theorem Ranked.promote (ranked : Ranked graph (id :: owed) []) : Ranked (graph.promote id) owed [] := by
  have lowered := ranked.lowered
  rw [promote_eq]
  split
  next ready =>
    have waits : (graph.lowered id).status_of id = some .Pending := ready.2
    have moved : Moved (graph.lowered id) ((graph.lowered id).set_status id .Ready) id .Ready none := ⟨rfl,rfl,rfl⟩
    have queued : Ranked ((graph.lowered id).set_status id .Ready) owed [id] :=
      lowered.moved moved rfl rfl (.inl (by rw [waits]; simp)) (by simp) (by simp) (by simp)
    refine queued.enqueue_unseen ?_ ?_ (lowered.waiting id waits)
    · exact isSome_status_of.mp (by rw [moved.status_of,if_pos rfl,waits]; rfl)
    · rw [moved.status_of,if_pos rfl,waits]
      simp
  next => exact lowered

private theorem Ranked.promote_all : ∀ (rest : List Nat) (graph : TaskGraph), Ranked graph rest [] →
    Ranked (rest.foldl TaskGraph.promote graph) [] [] := by
  intro rest
  induction rest with
  | nil => exact fun _ ranked => ranked
  | cons id rest ih => exact fun graph ranked => ih (graph.promote id) ranked.promote

/-- The counters of the dependents are one too high once a node has completed. -/
theorem Ranked.completed {held : TaskStatus} (ranked : Ranked before [] [])
    (moved : Moved before after id .Completed result)
    (heap : after.ready_heap = before.ready_heap) (generations : after.ready_generation = before.ready_generation)
    (stands : before.status_of id = some held) (open_before : held.is_terminal = false) :
    Ranked after (before.dependents id) [] := by
  have out_before : before.status_of id ≠ some .Completed := by
    rw [stands]
    rintro ⟨⟩
    cases open_before
  have out_after (dep : Nat) : decide (after.status_of dep ≠ some .Completed) =
      (decide (before.status_of dep ≠ some .Completed) && decide (dep ≠ id)) := by
    rw [moved.status_of]
    by_cases same : dep = id
    · subst same
      rw [stands]
      simp
    · simp [same]
  obtain ⟨rows,distinct⟩ := ranked.relisted moved.reverse_adjacency moved.dependencies
  have lengths : after.nodes.length = before.nodes.length := by simpa using congrArg length moved.dependencies
  have kept (other : Nat) (status : TaskStatus) (open_after : status ≠ .Completed) (now : after.status_of other = some status) :
      before.status_of other = some status := by
    rw [moved.status_of] at now
    split at now
    next same =>
      subst same
      rw [stands] at now
      cases now
      exact (open_after rfl).elim
    next => exact now
  refine ⟨fun other => ?_,rows,distinct,?_,?_,fun other free is_ready => ?_,fun other pending => ?_⟩
  · rw [moved.in_degree,ranked.counters,residual_eq,residual_eq,moved.get]
    cases found : before.get other with
    | none => by_cases same : other = id <;> simp [same]
    | some node =>
    have row : other ∈ before.depending id ↔ id ∈ node.dependencies := by
      rw [mem_depending,found]
      simp
    have times : (before.dependents id).count other = if id ∈ node.dependencies then 1 else 0 := by
      rw [ranked.rows,(nodup_depending before id).count]
      simp only [row]
    have count := filter_without (ranked.distinct node (mem_of_getElem? found))
      (fun dep => decide (before.status_of dep ≠ some .Completed)) (decide_eq_true out_before)
    have same_node : (if other = id then (some node).map fun node => { node with status := .Completed, result := result.or node.result }
        else some node).map dependencies = some node.dependencies := by
      split <;> rfl
    obtain ⟨now,found_now,same⟩ := Option.map_eq_some_iff.mp same_node
    rw [found_now,Option.map_some,Option.map_some,Option.map_some,Option.map_some,same,times,count]
    simp only [out_after,count_nil,Nat.add_zero]
  · rw [generations,ranked.generations,lengths]
  · rw [heap,lengths]
    exact ranked.inside
  · rw [heap,← ranked.queued other free (kept other .Ready (by simp) is_ready)]
    exact countP_congr fun entry _ => by rw [current,current,generations]
  · rw [heap]
    exact ranked.waiting other (kept other .Pending (by simp) pending)

theorem Ranked.settle (ranked : Ranked graph [] []) (id : Nat) (status : TaskStatus) (result : Option LoopResult)
    (way : status.is_terminal = true ∧ status ≠ .Completed) : Ranked (graph.settle id status result) [] [] := by
  by_cases open_before : ∃ held, graph.status_of id = some held ∧ held.is_terminal = false
  · obtain ⟨held,stands,open_before⟩ := open_before
    refine ranked.moved (settle_moved status result stands open_before) rfl rfl (.inl ?_) ?_ (by simp) ?_
    · rw [stands]
      refine iff_of_false ?_ way.2
      rintro ⟨⟩
      cases open_before
    · rintro rfl
      cases way.1
    · rintro rfl
      cases way.1
  · rwa [settle_of_terminal status result fun held stands => by
      by_contra still_open
      exact open_before ⟨held,stands,Bool.eq_false_iff.mpr still_open⟩]

theorem Ranked.complete (ranked : Ranked graph [] []) (id : Nat) (result : LoopResult) :
    Ranked (graph.complete id result) [] [] := by
  unfold TaskGraph.complete
  split
  next => exact ranked
  next held stands =>
  split
  next => exact ranked
  next still_open =>
  have open_before := Bool.eq_false_iff.mpr still_open
  exact Ranked.promote_all _ _ (ranked.completed (settle_moved .Completed (some result) stands open_before) rfl rfl stands open_before)

theorem Ranked.start (ranked : Ranked graph [] []) (suits : graph.Suits (.start id)) : Ranked (graph.start id) []
    [] := by
  refine ranked.moved (start_moved graph id) rfl rfl ?_ (by simp) (by simp) (by simp)
  by_cases completed : graph.status_of id = some .Completed
  · exact .inr (suits completed)
  · exact .inl (iff_of_false completed (by simp))

theorem Ranked.set_ready (ranked : Ranked graph [] []) (suits : graph.Suits (.set_ready id)) :
    Ranked (graph.set_ready id) [] [] := by
  unfold TaskGraph.set_ready
  split
  next => exact ranked
  next => exact ranked
  next held other stands =>
  have unready : graph.status_of id ≠ some .Ready := by
    rw [stands]
    rintro ⟨⟩
    exact other rfl
  have moved : Moved graph (graph.set_status id .Ready) id .Ready none := ⟨rfl,rfl,rfl⟩
  have ready : (graph.set_status id .Ready).status_of id = some .Ready := by
    rw [moved.status_of,if_pos rfl,stands]
    rfl
  have reopened : (graph.status_of id = some .Completed ↔ TaskStatus.Ready = .Completed) ∨ graph.depending id = [] := by
    by_cases completed : graph.status_of id = some .Completed
    · exact .inr ((suits unready).1 completed)
    · exact .inl (iff_of_false completed (by simp))
  have queued : Ranked (graph.set_status id .Ready) [] [id] := ranked.moved moved rfl rfl reopened (by simp) (by simp) (by simp)
  exact queued.enqueue (isSome_status_of.mp (by rw [ready]; rfl)) (by rw [ready]; simp) (suits unready).2

/-- A node behind the others, before it is queued. -/
def added (graph : TaskGraph) (task : String) (dependencies : List Nat) : TaskGraph :=
  { graph with
    reverse_adjacency := dependencies.eraseDups.foldl (fun rows dependency => rows.modify dependency (· ++ [graph.nodes.length]))
      (resize_rows graph.reverse_adjacency (row_count graph.nodes.length dependencies.eraseDups))
    nodes := graph.nodes ++
      [⟨graph.nodes.length,task,if dependencies.eraseDups.length = 0 then .Ready else .Pending,none,dependencies.eraseDups⟩]
    in_degree := graph.in_degree ++ [dependencies.eraseDups.length]
    ready_generation := graph.ready_generation ++ [0]
    enqueued_round := graph.enqueued_round ++ [graph.ready_round]
    scheduling := graph.scheduling ++ [.default] }

private theorem add_eq (graph : TaskGraph) (task : String) (dependencies : List Nat) : graph.add task dependencies =
    if dependencies.eraseDups.length = 0 then (graph.added task dependencies).enqueue_ready graph.nodes.length
    else graph.added task dependencies := rfl

section
variable {task : String} {dependencies : List Nat}

private theorem added_get (id : Nat) : (graph.added task dependencies).get id = if id = graph.nodes.length then
    some ⟨id,task,if dependencies.eraseDups.length = 0 then .Ready else .Pending,none,dependencies.eraseDups⟩ else graph.get id := by
  unfold get added
  rw [getElem?_append]
  by_cases older : id < graph.nodes.length
  · rw [if_pos older,if_neg (by omega)]
  rw [if_neg older]
  by_cases same : id = graph.nodes.length
  · simp [same]
  · rw [if_neg same,getElem?_eq_none (Nat.not_lt.mp older),getElem?_eq_none]
    simp only [length_singleton]
    omega

theorem added_status_of (id : Nat) : (graph.added task dependencies).status_of id = if id = graph.nodes.length then
    some (if dependencies.eraseDups.length = 0 then .Ready else .Pending) else graph.status_of id := by
  unfold status_of
  rw [added_get]
  split <;> rfl

private theorem added_completed (id : Nat) : (graph.added task dependencies).status_of id = some .Completed ↔
    graph.status_of id = some .Completed := by
  rw [added_status_of]
  split
  next same =>
    subst same
    have unseen : graph.status_of graph.nodes.length = none := by
      unfold status_of get
      rw [getElem?_eq_none (Nat.le_refl _)]
      rfl
    rw [unseen]
    split <;> simp
  next => rfl

private theorem added_dependents (dependency : Nat) : (graph.added task dependencies).dependents dependency =
    (if dependency < row_count graph.nodes.length dependencies.eraseDups then graph.dependents dependency else []) ++
      if dependency ∈ dependencies then [graph.nodes.length] else [] := by
  rw [← add_dependents graph task dependencies dependency,add_eq]
  split <;> rfl

private theorem added_depending (dependency : Nat) : (graph.added task dependencies).depending dependency =
    graph.depending dependency ++ if dependency ∈ dependencies then [graph.nodes.length] else [] := by
  have length : (graph.added task dependencies).nodes.length = graph.nodes.length + 1 := length_append
  unfold depending
  rw [length,range_succ,filter_append]
  refine congr (congrArg _ (filter_congr fun id member => ?_)) ?_
  · have older := mem_range.mp member
    rw [added_get,if_neg (by omega)]
  · rw [filter_singleton,added_get,if_pos rfl]
    by_cases member : dependency ∈ dependencies <;> simp [member]

theorem Ranked.added (ranked : Ranked graph [] []) (suits : graph.Suits (.add task dependencies)) :
    Ranked (graph.added task dependencies) [] [graph.nodes.length] := by
  obtain ⟨kept,pending⟩ := suits
  have length : (graph.added task dependencies).nodes.length = graph.nodes.length + 1 := length_append
  have residual : (graph.added task dependencies).residual = graph.residual ++ [dependencies.eraseDups.length] := by
    have out (listed : List Nat) :
        (listed.filter fun dependency => decide ((graph.added task dependencies).status_of dependency ≠ some .Completed)) =
        listed.filter fun dependency => decide (graph.status_of dependency ≠ some .Completed) :=
      filter_congr fun dependency _ => decide_eq_decide.mpr (not_congr (added_completed dependency))
    have all : (dependencies.eraseDups.filter fun dependency => decide (graph.status_of dependency ≠ some .Completed)) = dependencies.eraseDups :=
      filter_eq_self.mpr fun dependency member => decide_eq_true (pending dependency (mem_eraseDups.mp member))
    unfold TaskGraph.residual
    simp only [out]
    refine map_append.trans (congrArg _ ?_)
    rw [map_singleton,all]
  refine ⟨fun id => ?_,fun dependency => ?_,fun node listed => ?_,?_,fun entry member => ?_,fun id free ready => ?_,
    fun id waits entry member => ?_⟩
  · have same : graph.in_degree = graph.residual := ext_getElem? fun id => by
      rw [ranked.counters]
      simp
    change (graph.in_degree ++ [dependencies.eraseDups.length])[id]? = _
    rw [residual,same]
    simp
  · rw [added_dependents,added_depending]
    split
    next => rw [ranked.rows]
    next cut =>
    have unlisted : graph.depending dependency = [] := eq_nil_iff_forall_not_mem.mpr fun id member => cut ?_
    · rw [unlisted]
    obtain ⟨node,found,listed⟩ := mem_depending.mp member
    exact kept node (mem_of_getElem? found) dependency listed
  · obtain listed | listed := mem_append.mp listed
    · exact ranked.distinct node listed
    · cases mem_singleton.mp listed
      exact nodup_eraseDups dependencies
  · rw [length,← ranked.generations]
    exact length_append
  · have older := ranked.inside entry member
    omega
  · have older : id ≠ graph.nodes.length := by simpa using free
    rw [added_status_of,if_neg older] at ready
    rw [← ranked.queued id (by simp) ready]
    refine countP_congr fun entry member => ?_
    have bound : id < graph.ready_generation.length := ranked.generations ▸ isSome_status_of.mp (by rw [ready]; rfl)
    unfold current TaskGraph.added
    rw [getElem?_append_left bound]
  rw [added_status_of] at waits
  split at waits
  next same =>
    have older := ranked.inside entry member
    omega
  next => exact ranked.waiting id waits entry member

theorem Ranked.add (ranked : Ranked graph [] []) (suits : graph.Suits (.add task dependencies)) :
    Ranked (graph.add task dependencies) [] [] := by
  have stands := @added_status_of graph task dependencies graph.nodes.length
  have added := ranked.added suits
  rw [if_pos rfl] at stands
  rw [add_eq]
  split
  next free =>
    rw [if_pos free] at stands
    refine added.enqueue_unseen ?_ (by rw [stands]; simp) fun entry member => ?_
    · exact isSome_status_of.mp (by rw [stands]; rfl)
    · exact Nat.ne_of_lt (ranked.inside entry member)
  next waits =>
  rw [if_neg waits] at stands
  exact added.passed (by rw [stands]; simp)

end

theorem Ranked.ready_tasks (ranked : Ranked graph [] []) : Ranked graph.ready_tasks.2 [] [] := by
  have drawn (entry : ReadyEntry) (member : entry ∈ graph.ready_tasks.2.ready_heap) : entry ∈ graph.ready_heap :=
    mem_mergeSort.mp (mem_of_mem_filter member)
  refine ⟨ranked.counters,ranked.rows,ranked.distinct,ranked.generations,fun entry member => ranked.inside entry (drawn entry member),
    fun id free ready => ?_,fun id pending entry member => ranked.waiting id pending entry (drawn entry member)⟩
  have ready : graph.status_of id = some .Ready := ready
  rw [← ranked.queued id free ready,← (mergeSort_perm graph.ready_heap before).countP_eq]
  refine countP_filter.trans (countP_congr fun entry _ => ?_)
  change (graph.current id entry && (graph.status_of entry.node_id == some .Ready && _)) = true ↔ _
  unfold current
  by_cases own : entry.node_id = id
  · subst own
    rw [ready]
    simp
  · simp [own]

private theorem push_ready_entry_named (graph : TaskGraph) (id : Nat) :
    (graph.push_ready_entry id).ready_heap.map node_id = graph.ready_heap.map node_id ++ [id] := map_append

theorem Ranked.counted (ranked : Ranked graph [] []) : graph.in_degree = graph.residual := ext_getElem? fun id => by
  rw [ranked.counters]
  simp

private theorem Ranked.recounted (ranked : Ranked before [] []) (reverse_adjacency : after.reverse_adjacency = before.reverse_adjacency)
    (dependencies : after.nodes.map dependencies = before.nodes.map dependencies) (counted : after.in_degree = after.residual)
    (heap : after.ready_heap = []) (generations : after.ready_generation.length = before.ready_generation.length) :
    Ranked after [] (List.range after.nodes.length) := by
  obtain ⟨rows,distinct⟩ := ranked.relisted reverse_adjacency dependencies
  refine ⟨fun id => ?_,rows,distinct,?_,?_,fun id free ready => ?_,?_⟩
  · rw [counted]
    simp
  · rw [generations,ranked.generations]
    simpa using (congrArg length dependencies).symm
  · rw [heap]
    simp
  · exact absurd (mem_range.mpr (isSome_status_of.mp (by rw [ready]; rfl))) free
  · rw [heap]
    simp

private theorem Ranked.rebuild (ranked : Ranked graph [] []) : Ranked graph.rebuild_ready_heap [] [] := by
  refine Ranked.refill push_ready_entry push_ready_entry_named (fun graph id _ ranked bound stands unseen => ?_) _ _ nodup_range
    (ranked.recounted rfl rfl ranked.counted rfl rfl) (by simp)
  refine ranked.push bound stands fun entry member => ?_
  rw [current,beq_false_of_ne (unseen entry member)]
  rfl

private theorem Ranked.measured (ranked : Ranked graph [] []) (token_costs : List Nat) (factors : List SchedulingFactors)
    (reachable : List (List Nat)) (node : Nat) :
    Ranked (graph.measure_node token_costs factors reachable node).1 [] [] :=
  ⟨ranked.counters,ranked.rows,ranked.distinct,ranked.generations,ranked.inside,ranked.queued,ranked.waiting⟩

private theorem Ranked.configure (ranked : Ranked graph [] []) (policy : SchedulerPolicyConfig)
    (token_costs : List Nat) (factors : List SchedulingFactors) :
    Ranked (graph.configure_scheduling_with_factors policy token_costs factors) [] [] := by
  have measured (order : List Nat) : ∀ state : TaskGraph × List (List Nat), Ranked state.1 [] [] →
      Ranked (order.foldl (fun state node => state.1.measure_node token_costs factors state.2 node) state).1 [] [] := by
    induction order with
    | nil => exact fun _ ranked => ranked
    | cons node rest ih => exact fun state ranked => ih _ (ranked.measured token_costs factors state.2 node)
  have policed : Ranked { graph with scheduler_policy := policy } [] [] :=
    ⟨ranked.counters,ranked.rows,ranked.distinct,ranked.generations,ranked.inside,ranked.queued,ranked.waiting⟩
  exact (measured _ (_,_) policed).rebuild

private theorem zipWith_dependencies {put : TaskNode → TaskStatus × Option LoopResult → TaskNode}
    (keeps : ∀ node state, (put node state).dependencies = node.dependencies) :
    ∀ (nodes : List TaskNode) (states : List (TaskStatus × Option LoopResult)), states.length = nodes.length →
      (nodes.zipWith put states).map dependencies = nodes.map dependencies := by
  intro nodes
  induction nodes with
  | nil => simp
  | cons node rest ih =>
  rintro (_ | ⟨state,states⟩) lengths
  · cases lengths
  · simpa [keeps] using ih states (by simpa using lengths)

private theorem Ranked.restore (ranked : Ranked before [] []) {states : List (TaskStatus × Option LoopResult)}
    (restored : before.restore_runtime_state states = .ok after) : Ranked after [] [] := by
  unfold restore_runtime_state at restored
  split at restored
  next => cases restored
  next fits =>
  have lengths : states.length = before.nodes.length := Decidable.not_not.mp fits
  cases restored
  refine Ranked.refill enqueue_ready (fun _ _ => map_append) (fun _ _ _ ranked => ranked.enqueue_unseen) _ _ nodup_range
    (ranked.recounted rfl ?_ rfl rfl ?_) (by simp)
  · refine zipWith_dependencies (fun node state => ?_) before.nodes states lengths
    rfl
  · exact length_map _

/-! Runs. -/

theorem Ranked.apply (ranked : Ranked graph [] []) {action : Action} (suits : graph.Suits action) :
    Ranked (graph.apply action) [] [] := by
  cases action with
  | add task dependencies => exact ranked.add suits
  | start id => exact ranked.start suits
  | set_ready id => exact ranked.set_ready suits
  | complete id result => exact ranked.complete id result
  | complete_partial id result => exact ranked.settle id .CompletedPartial (some result) (by decide)
  | fail id => exact ranked.settle id .Failed none (by decide)
  | fail_with_result id result => exact ranked.settle id .Failed (some result) (by decide)
  | skip_upstream_failed id => exact ranked.settle id .SkippedUpstreamFailed none (by decide)
  | restore_runtime_state states =>
    change Ranked ((graph.restore_runtime_state states).toOption.getD graph) [] []
    cases restored : graph.restore_runtime_state states with
    | error => exact ranked
    | ok after => exact ranked.restore restored
  | ready_tasks => exact ranked.ready_tasks
  | configure_scheduling policy token_costs factors => exact ranked.configure policy token_costs factors

theorem Suited.ranked (suited : Suited graph) : Ranked graph [] [] := by
  induction suited with
  | new =>
    refine ⟨fun _ => rfl,fun _ => rfl,?_,rfl,?_,fun _ _ ready => ?_,fun _ pending => ?_⟩
    · exact forall_mem_nil _
    · exact forall_mem_nil _
    · cases ready
    · cases pending
  | step _ suits ranked => exact ranked.apply suits

private theorem Ranked.indexes (ranked : Ranked graph [] []) : Indexes graph := by
  refine ⟨ranked.counted,fun id status stands still_open => ⟨?_,fun dep_id member => ?_⟩,ranked.rows,fun id => ?_⟩
  · rw [ranked.rows]
    exact nodup_depending graph id
  · rw [ranked.rows] at member
    obtain ⟨node,found,listed⟩ := mem_depending.mp member
    have out : id ∈ node.dependencies.filter fun dependency => decide (graph.status_of dependency ≠ some .Completed) := by
      refine mem_filter.mpr ⟨listed,decide_eq_true ?_⟩
      rw [stands]
      rintro ⟨⟩
      cases still_open
    refine ⟨(node.dependencies.filter fun dependency => decide (graph.status_of dependency ≠ some .Completed)).length - 1,?_⟩
    rw [ranked.counted,residual_eq,found,Option.map_some,Nat.sub_add_cancel (length_pos_of_mem out)]
  have drawn : graph.ready_tasks.1.count id = graph.ready_tasks.2.ready_heap.countP fun entry => entry.node_id == id := countP_map
  rw [drawn]
  split
  next ready =>
    rw [← ranked.ready_tasks.queued id (by simp) ready]
    refine countP_congr fun entry member => ?_
    have fresh := (mem_filter.mp member).2
    change _ ↔ graph.current id entry = true
    unfold current
    by_cases own : entry.node_id = id
    · subst own
      simpa using ((Bool.and_eq_true _ _).mp fresh).2
    · simp [own]
  next unready =>
  refine countP_eq_zero.mpr fun entry member own => unready ?_
  have fresh := (mem_filter.mp member).2
  rw [← of_decide_eq_true own]
  exact eq_of_beq ((Bool.and_eq_true _ _).mp fresh).1

/-- The indexes of a graph say what its nodes say after every run of suitable steps. -/
theorem indexes_suited (suited : Suited graph) : Indexes graph := suited.ranked.indexes

/-- A node runs to its end, lets its dependent run, and the two are restored as they stand. -/
theorem indexes_chain : Indexes
    (([.add "a" [],.add "b" [0],.start 0,.complete 0 ⟨.Completed,none,1,0,none⟩,.start 1,.set_ready 1,
    .restore_runtime_state [(.Completed,none),(.Ready,none)]] : List Action).foldl apply new) := by
  have founded : Suited (apply new (.add "a" [])) := .step .new ⟨by decide,by decide⟩
  have grown : Suited (apply _ (.add "b" [0])) := founded.step ⟨by decide,by decide⟩
  have started : Suited (apply _ (.start 0)) := grown.step fun completed => absurd completed (by decide)
  have ended : Suited (apply _ (.complete 0 ⟨.Completed,none,1,0,none⟩)) := started.step trivial
  have followed : Suited (apply _ (.start 1)) := ended.step fun completed => absurd completed (by decide)
  have again : Suited (apply _ (.set_ready 1)) := followed.step fun _ => ⟨fun completed => absurd completed (by decide),by decide⟩
  have restored : Suited (apply _ (.restore_runtime_state [(.Completed,none),(.Ready,none)])) := again.step trivial
  exact indexes_suited restored

/-- The row of a dependency yet to come is cut off by the node that is added before it. -/
theorem later_row_cut_off : ¬ Indexes (([.add "a" [2],.add "b" [],.add "c" []] : List Action).foldl apply new) := by
  intro indexes
  have row := indexes.rows 2
  revert row
  decide

end
end TaskGraph
end Deepstrike.Orchestration

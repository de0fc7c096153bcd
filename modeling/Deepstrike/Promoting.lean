import Deepstrike.Resolving

/-!
A task that ends. Its state is written once, and when it completes each dependent loses one
dependency: the counters go down along the rows, and a waiting task whose counter reaches zero is
ready.
-/
namespace Deepstrike.Orchestration
open Vocabulary List

namespace TaskGraph

theorem settle_of_terminal {graph : TaskGraph} {id : Nat} (status : TaskStatus) (result : Option LoopResult)
    (ended : ∀ held, graph.status_of id = some held → held.is_terminal = true) :
    graph.settle id status result = graph := by
  have unchanged : graph.nodes.modify id (fun node => if node.status.is_terminal then node
      else { node with status, result := result.or node.result }) = graph.nodes := by
    refine ext_getElem? fun index => ?_
    rw [getElem?_modify]
    cases held : graph.nodes[index]? with
    | none => rfl
    | some node =>
    by_cases same : id = index
    · subst same
      have ended := ended node.status (by unfold status_of get; rw [held]; rfl)
      simp [ended]
    · simp [same]
  unfold settle
  rw [unchanged]

/-- Settling a node that is open moves it alone. -/
theorem settle_moved {graph : TaskGraph} {id : Nat} {held : TaskStatus} (status : TaskStatus)
    (result : Option LoopResult)
    (stands : graph.status_of id = some held) (open_before : held.is_terminal = false) :
    Moved graph (graph.settle id status result) id status result := by
  refine ⟨ext_getElem? fun index => ?_,rfl,rfl⟩
  unfold settle
  rw [getElem?_modify,getElem?_modify]
  by_cases same : id = index
  · subst same
    obtain ⟨node,found,same⟩ := Option.map_eq_some_iff.mp stands
    rw [show graph.nodes[id]? = some node from found]
    simp [same,open_before]
  · simp [same]

theorem start_moved (graph : TaskGraph) (id : Nat) : Moved graph (graph.start id) id .Running none := ⟨rfl,rfl,rfl⟩

theorem Moved.sticky {before after : TaskGraph} {id : Nat} {held status : TaskStatus} {result : Option LoopResult}
    (moved : Moved before after id status result) (stands : before.status_of id = some held)
    (open_before : held.is_terminal = false) :
    Sticky before.status_of after.status_of := by
  intro other kept was ended
  rw [moved.status_of]
  split
  next same =>
    subst same
    rw [stands] at was
    cases was
    rw [open_before] at ended
    cases ended
  next => exact was

/-- What moves one open node keeps the others' decisions. -/
theorem Moved.keeps {before after : TaskGraph} {id : Nat} {held status : TaskStatus} {result : Option LoopResult}
    (moved : Moved before after id status result) (stands : before.status_of id = some held)
    (open_before : held.is_terminal = false)
    {other : Nat} {node : TaskNode} (found : before.get other = some node) (ended : node.status.is_terminal = true) :
    after.get other = some node := by
  rw [moved.get]
  split
  next same =>
    subst same
    unfold TaskGraph.status_of at stands
    rw [found] at stands
    cases stands
    rw [open_before] at ended
    cases ended
  next => exact found

section
variable {nodes : List WorkflowNode} {before after : TaskGraph} {id : Nat} {held status : TaskStatus} {result : Option LoopResult}

/-- A node that ran stays justified. -/
theorem Justified.ran (justified : Justified nodes before) (shaped : Shaped nodes before) (placed : Placed nodes)
    (moved : Moved before after id status result) (stands : before.status_of id = some held)
    (open_before : held.is_terminal = false)
    (let_run : held ≠ .Pending) (way : status ≠ .SkippedUpstreamFailed) : Justified nodes after := by
  refine justified.advance shaped placed (moved.sticky stands open_before) fun other node now declared at_after => ?_
  rw [moved.status_of] at at_after
  by_cases same : other = id
  · subst same
    rw [if_pos rfl,stands] at at_after
    cases at_after
    refine ⟨fun skipped => (way skipped).elim,fun _ _ => .inl ⟨held,stands,let_run,?_⟩⟩
    rintro rfl
    cases open_before
  · rw [if_neg same] at at_after
    exact ⟨fun same => .inl (same ▸ at_after),fun moved other => .inl ⟨now,at_after,moved,other⟩⟩

theorem Sound.ran (sound : Sound nodes before) (placed : Placed nodes) (moved : Moved before after id status result)
    (stands : before.status_of id = some held) (open_before : held.is_terminal = false) (let_run : held ≠ .Pending)
    (way : status ≠ .SkippedUpstreamFailed) (open_after : status ≠ .Completed) : Sound nodes after := by
  refine ⟨moved.consistent sound.consistent ?_ open_after,?_⟩
  · rw [stands]
    rintro ⟨⟩
    cases open_before
  · exact sound.justified.ran sound.consistent.toShaped placed moved stands open_before let_run way

end

/-- The state between two decrements: the counters of the dependents still to be visited are one too
    high. -/
structure Releasing (nodes : List WorkflowNode) (rest : List Nat) (graph : TaskGraph) : Prop where
  shaped : Shaped nodes graph
  justified : Justified nodes graph
  counted : ∀ id, graph.in_degree[id]? = graph.residual[id]?.map (·+if id ∈ rest then 1 else 0)

section
variable {nodes : List WorkflowNode} {graph : TaskGraph}

theorem Releasing.done (releasing : Releasing nodes [] graph) : Sound nodes graph := by
  refine ⟨⟨releasing.shaped,ext_getElem? fun id => ?_⟩,releasing.justified⟩
  rw [releasing.counted]
  simp

theorem residual_eq (graph : TaskGraph) (id : Nat) : graph.residual[id]? = (graph.get id).map fun node =>
    (node.dependencies.filter fun dependency => decide (graph.status_of dependency ≠ some .Completed)).length := by
  unfold residual get
  rw [getElem?_map]

private theorem Shaped.permitted (shaped : Shaped nodes graph) {id : Nat} {node : WorkflowNode} (declared : nodes[id]? = some node)
    (none_out : graph.residual[id]? = some 0) : Permits node.dep_policy (graph.statusesOf node) := by
  have completed : ∀ status ∈ graph.statusesOf node, status = .Completed := by
    intro status member
    obtain ⟨dep,needed,stands⟩ := mem_filterMap.mp member
    rw [residual_eq] at none_out
    obtain ⟨held,found,count⟩ := Option.map_eq_some_iff.mp none_out
    have own := shaped.get_dependencies found
    have inside : dep ∈ held.dependencies := by
      rw [own,mem_eraseDups,dependsOn_of_getElem? declared]
      exact needed
    have kept := filter_eq_nil_iff.mp (eq_nil_of_length_eq_zero count) dep inside
    rw [stands] at kept
    simpa using kept
  cases policy : node.dep_policy with
  | AllSuccess => exact completed
  | AcceptPartial => exact fun status member => .inl (completed status member)
  | AllTerminal =>
    intro status member
    rw [completed status member]
    rfl
  | Optional => trivial

/-- The counter of a task goes down by one. -/
def lowered (graph : TaskGraph) (id : Nat) : TaskGraph := { graph with in_degree := graph.in_degree.modify id (· - 1) }

theorem promote_eq (graph : TaskGraph) (id : Nat) : graph.promote id =
    if (graph.lowered id).in_degree[id]? = some 0 ∧ graph.status_of id = some .Pending then
      ((graph.lowered id).set_status id .Ready).enqueue_ready id
    else graph.lowered id := rfl

/-- One dependent is visited: its counter was above zero, and comes to what is out. -/
theorem Releasing.promote {id : Nat} {rest : List Nat} (releasing : Releasing nodes (id :: rest) graph)
    (placed : Placed nodes)
    (distinct : id ∉ rest) : Releasing nodes rest (graph.promote id) ∧ Resolves graph (graph.promote id) := by
  have counted : ∀ other, (graph.lowered id).in_degree[other]? = graph.residual[other]?.map (·+if other ∈ rest then 1 else 0) := by
    intro other
    unfold lowered
    rw [getElem?_modify,releasing.counted]
    by_cases same : id = other
    · subst same
      rw [if_neg distinct,if_pos mem_cons_self]
      cases graph.residual[id]? <;> simp
    · have member : other ∈ id :: rest ↔ other ∈ rest := by simp [Ne.symm same]
      simp only [if_neg same,member]
      cases graph.residual[other]? <;> rfl
  have shaped : Shaped nodes (graph.lowered id) := releasing.shaped.of_rows rfl rfl
  have justified : Justified nodes (graph.lowered id) := releasing.justified
  rw [promote_eq]
  split
  next ready =>
    obtain ⟨count,pending⟩ := ready
    have none_out : graph.residual[id]? = some 0 := by
      rw [counted,if_neg distinct] at count
      obtain ⟨out,held,same⟩ := Option.map_eq_some_iff.mp count
      rw [held,← same]
      rfl
    have inside : id < nodes.length := by
      rw [← releasing.shaped.length]
      exact isSome_status_of.mp (by rw [pending]; rfl)
    obtain ⟨node,declared⟩ : ∃ node, nodes[id]? = some node := ⟨nodes[id],getElem?_eq_getElem inside⟩
    have permits : Permits node.dep_policy (graph.statusesOf node) := releasing.shaped.permitted declared none_out
    have moved : Moved (graph.lowered id) (((graph.lowered id).set_status id .Ready).enqueue_ready id) id .Ready none := ⟨rfl,rfl,rfl⟩
    have waits : (graph.lowered id).status_of id = some .Pending := pending
    have kept := moved.residual (by rw [waits]; simp) (by simp)
    refine ⟨⟨shaped.of_rows moved.dependencies moved.reverse_adjacency,?_,fun other => ?_⟩,?_⟩
    · exact justified.moved shaped placed moved waits declared (.inl ⟨rfl,permits⟩)
    · rw [moved.in_degree,counted,kept]
      rfl
    · exact ⟨moved.reverse_adjacency,(moved.resolves waits (.inl rfl)).nodes⟩
  next => exact ⟨⟨shaped,justified,counted⟩,⟨rfl,fun _ => .inl rfl⟩⟩

theorem Releasing.promote_all (placed : Placed nodes) :
    ∀ (rest : List Nat) (graph : TaskGraph), Releasing nodes rest graph → rest.Nodup →
    Sound nodes (rest.foldl TaskGraph.promote graph) ∧ Resolves graph (rest.foldl TaskGraph.promote graph) := by
  intro rest
  induction rest with
  | nil => exact fun graph releasing _ => ⟨releasing.done,.refl graph⟩
  | cons id rest ih =>
  intro graph releasing distinct
  obtain ⟨fresh,distinct⟩ := nodup_cons.mp distinct
  obtain ⟨next,resolves⟩ := releasing.promote placed fresh
  obtain ⟨sound,resolves_rest⟩ := ih (graph.promote id) next distinct
  exact ⟨sound,resolves.trans resolves_rest⟩

end

section
variable {nodes : List WorkflowNode} {before after : TaskGraph} {id : Nat} {held : TaskStatus} {result : Option LoopResult}

theorem filter_without {items : List Nat} (distinct : items.Nodup) (out : Nat → Bool) {item : Nat}
    (counts : out item = true) :
    (items.filter out).length = (items.filter fun other => out other && decide (other ≠ item)).length+if item ∈
    items then 1 else 0 := by
  have erased : (items.filter fun other => out other && decide (other ≠ item)) = (items.filter out).erase item := by
    rw [(distinct.filter out).erase_eq_filter,filter_filter]
    refine filter_congr fun other _ => ?_
    rw [Bool.and_comm]
    congr 1
    by_cases same : other = item <;> simp [same]
  rw [erased]
  by_cases member : item ∈ items
  · have kept : item ∈ items.filter out := mem_filter.mpr ⟨member,counts⟩
    have positive := length_pos_of_mem kept
    rw [length_erase_of_mem kept,if_pos member]
    omega
  · have gone : item ∉ items.filter out := fun kept => member (mem_filter.mp kept).1
    rw [erase_of_not_mem gone,if_neg member]
    rfl

/-- The counters of the dependents are one too high once a task has completed. -/
theorem Sound.completed (sound : Sound nodes before) (placed : Placed nodes)
    (moved : Moved before after id .Completed result)
    (stands : before.status_of id = some held) (open_before : held.is_terminal = false) (let_run : held ≠ .Pending) :
    Releasing nodes (before.dependents id) after := by
  have shaped := sound.consistent.toShaped
  refine ⟨shaped.of_rows moved.dependencies moved.reverse_adjacency,
    sound.justified.ran shaped placed moved stands open_before let_run (by simp),fun other => ?_⟩
  have out_before : before.status_of id ≠ some .Completed := by
    rw [stands]
    rintro ⟨⟩
    cases open_before
  have out_after : ∀ dep, decide (after.status_of dep ≠ some .Completed) =
      (decide (before.status_of dep ≠ some .Completed) && decide (dep ≠ id)) := by
    intro dep
    rw [moved.status_of]
    by_cases same : dep = id
    · subst same
      rw [stands]
      simp
    · simp [same]
  rw [moved.in_degree,sound.consistent.counted,residual_eq,residual_eq,moved.get]
  cases found : before.get other with
  | none => by_cases same : other = id <;> simp [same]
  | some node =>
  have own := shaped.get_dependencies found
  have row : other ∈ before.dependents id ↔ id ∈ node.dependencies := by
    rw [shaped.dependents,own,mem_eraseDups]
  have distinct : node.dependencies.Nodup := by
    rw [own]
    exact nodup_eraseDups _
  have count := filter_without distinct (fun dep => decide (before.status_of dep ≠ some .Completed)) (decide_eq_true out_before)
  have kept : (if other = id then (some node).map fun node => { node with status := .Completed, result := result.or node.result } else some node).map
      TaskNode.dependencies = some node.dependencies := by
    split <;> rfl
  obtain ⟨now,found_now,same⟩ := Option.map_eq_some_iff.mp kept
  rw [found_now,Option.map_some,Option.map_some,Option.map_some,same,count]
  simp only [out_after,row]

end

/-- What a step of a run does to the tasks: those that have ended stay as they are, those that wait
    become ready or are skipped, and those that were started are not put back. -/
structure Progress (before after : TaskGraph) : Prop where
  keeps : ∀ id node, before.get id = some node → node.status.is_terminal = true → after.get id = some node
  waits : ∀ id, before.status_of id = some .Pending →
    after.status_of id = some .Pending ∨ after.status_of id = some .Ready ∨ after.status_of id = some .SkippedUpstreamFailed
  started : ∀ id status, before.status_of id = some status → status ≠ .Pending → status ≠ .Ready →
    ∃ now, after.status_of id = some now ∧ now ≠ .Pending ∧ now ≠ .Ready

section
variable {before middle after : TaskGraph} {id : Nat} {held status : TaskStatus} {result : Option LoopResult}

/-- A resolution is progress. -/
theorem Resolves.progress (resolves : Resolves before after) : Progress before after := by
  refine ⟨fun id node found ended => ?_,fun id pending => ?_,fun id status stands moved other => ?_⟩
  · refine resolves.keeps found fun pending => ?_
    rw [pending] at ended
    cases ended
  · obtain same | ⟨_,ready | skipped⟩ := resolves.status_of id
    · exact .inl (same.trans pending)
    · exact .inr (.inl ready)
    · exact .inr (.inr skipped)
  obtain same | ⟨pending,_⟩ := resolves.status_of id
  · exact ⟨status,same.trans stands,moved,other⟩
  · rw [stands] at pending
    cases pending
    exact (moved rfl).elim

theorem Progress.refl (graph : TaskGraph) : Progress graph graph := (Resolves.refl graph).progress

theorem SameTasks.resolves (same : SameTasks before after) : Resolves before after := by
  refine ⟨same.reverse_adjacency,fun id => .inl ?_⟩
  unfold TaskGraph.get
  rw [same.nodes]

theorem Progress.trans_resolves (progress : Progress before middle) (resolves : Resolves middle after) :
    Progress before after := by
  have rest := resolves.progress
  refine ⟨fun id node found ended => rest.keeps id node (progress.keeps id node found ended) ended,fun id pending => ?_,
    fun id status stands moved other => ?_⟩
  · have kept : ∀ status, status ≠ .Pending → middle.status_of id = some status → after.status_of id = some status := by
      intro status moved stands
      obtain same | ⟨waits,_⟩ := resolves.status_of id
      · exact same.trans stands
      · rw [stands] at waits
        cases waits
        exact (moved rfl).elim
    obtain waits | ready | skipped := progress.waits id pending
    · exact rest.waits id waits
    · exact .inr (.inl (kept _ (by simp) ready))
    · exact .inr (.inr (kept _ (by simp) skipped))
  · obtain ⟨now,stands,moved,other⟩ := progress.started id status stands moved other
    exact rest.started id now stands moved other

theorem Moved.progress (moved : Moved before middle id status result) (stands : before.status_of id = some held)
    (open_before : held.is_terminal = false) (let_run : held ≠ .Pending) (way : status ≠ .Pending ∧ status ≠ .Ready)
    (resolves : Resolves middle after) : Progress before after := by
  have rest := resolves.progress
  refine ⟨fun other node found ended => rest.keeps other node (moved.keeps stands open_before found ended) ended,
    fun other pending => ?_,fun other now was moved_on started => ?_⟩
  · refine rest.waits other ?_
    rw [moved.status_of,if_neg ?_]
    · exact pending
    · rintro rfl
      rw [stands] at pending
      cases pending
      exact let_run rfl
  have middle_status := moved.status_of other
  by_cases same : other = id
  · subst same
    rw [if_pos rfl,was] at middle_status
    exact rest.started other status middle_status way.1 way.2
  · rw [if_neg same,was] at middle_status
    exact rest.started other now middle_status moved_on started

end

/-- What the end of a task leaves before the rounds: the graph is sound, and the task, when it was
    running, has its state. -/
def Ends (nodes : List WorkflowNode) (before after : TaskGraph) : Prop :=
  Sound nodes after ∧ ∀ last, Resolves after last → Progress before last

section
variable {nodes : List WorkflowNode} {before : TaskGraph} {id : Nat}

/-- Settling a node keeps the graph sound. -/
theorem Sound.settle (sound : Sound nodes before) (placed : Placed nodes)
    (let_run : before.status_of id ≠ some .Pending)
    (status : TaskStatus) (result : Option LoopResult) (way : status = .CompletedPartial ∨ status = .Failed) :
    Ends nodes before (before.settle id status result) := by
  by_cases open_before : ∃ held, before.status_of id = some held ∧ held.is_terminal = false
  · obtain ⟨held,stands,open_before⟩ := open_before
    have moved := settle_moved status result stands open_before
    have ran : held ≠ .Pending := by
      rintro rfl
      exact let_run stands
    refine ⟨sound.ran placed moved stands open_before ran ?_ ?_,fun last => moved.progress stands open_before ran ?_⟩
    · obtain rfl | rfl := way <;> simp
    · obtain rfl | rfl := way <;> simp
    · obtain rfl | rfl := way <;> simp
  · rw [settle_of_terminal status result fun held stands => by
      by_contra still_open
      exact open_before ⟨held,stands,Bool.eq_false_iff.mpr still_open⟩]
    exact ⟨sound,fun last resolves => resolves.progress⟩

/-- Completing a node keeps the graph sound. -/
theorem Sound.complete (sound : Sound nodes before) (placed : Placed nodes)
    (let_run : before.status_of id ≠ some .Pending)
    (result : LoopResult) : Ends nodes before (before.complete id result) := by
  unfold TaskGraph.complete
  split
  next => exact ⟨sound,fun last resolves => resolves.progress⟩
  next held stands =>
  split
  next => exact ⟨sound,fun last resolves => resolves.progress⟩
  next still_open =>
  have open_before := Bool.eq_false_iff.mpr still_open
  have moved := settle_moved .Completed (some result) stands open_before
  have ran : held ≠ .Pending := by
    rintro rfl
    exact let_run stands
  obtain ⟨sound_after,released⟩ := Releasing.promote_all placed _ _ (sound.completed placed moved stands open_before ran)
    (sound.consistent.distinct id)
  exact ⟨sound_after,fun last resolves => moved.progress stands open_before ran (by simp) (released.trans resolves)⟩

end

/-! A batch behind the tasks of a graph. -/

private theorem appended_status_of {graph : TaskGraph} {batch : List WorkflowNode} {id : Nat} (older : id < graph.nodes.length) :
    (graph.appended batch).status_of id = graph.status_of id := by
  unfold status_of get
  rw [appended_nodes,getElem?_append_left older]

theorem appended_progress (graph : TaskGraph) (batch : List WorkflowNode) : Progress graph (graph.appended batch) := by
  have kept : ∀ id status, graph.status_of id = some status → (graph.appended batch).status_of id = some status := by
    intro id status stands
    rw [appended_status_of (isSome_status_of.mp (by rw [stands]; rfl))]
    exact stands
  refine ⟨fun id node found _ => ?_,fun id pending => .inl (kept id _ pending),fun id status stands moved started =>
    ⟨status,kept id status stands,moved,started⟩⟩
  unfold get at found ⊢
  rw [appended_nodes,List.getElem?_append_left (List.getElem?_eq_some_iff.mp found).1]
  exact found

/-- New tasks without dependencies may run, and the others wait. -/
theorem Sound.appended {nodes batch : List WorkflowNode} {graph : TaskGraph} (sound : Sound nodes graph)
    (placed : Placed nodes)
    (sheltered : Sheltered batch) : Sound (nodes ++ shifted nodes.length batch)
    (graph.appended (shifted nodes.length batch)) := by
  have length := sound.consistent.length
  refine ⟨sound.consistent.appended placed sheltered,fun id node status declared stands => ?_⟩
  by_cases older : id < nodes.length
  · rw [getElem?_append_left older] at declared
    rw [appended_status_of (by omega)] at stands
    have same : (graph.appended (shifted nodes.length batch)).statusesOf node = graph.statusesOf node := by
      refine filterMap_congr fun dep member => appended_status_of ?_
      have bound := (placed id dep (by rwa [dependsOn_of_getElem? declared])).1
      omega
    rw [same]
    exact sound.justified id node status declared stands
  rw [getElem?_append_right (Nat.not_lt.mp older)] at declared
  unfold status_of get at stands
  rw [appended_nodes,getElem?_append_right (by omega),length] at stands
  simp only [freshNodes,getElem?_map,getElem?_zipIdx,declared,Option.map_some,Option.some.injEq] at stands
  split at stands
  next empty =>
    have none_needed : node.depends_on = [] := by
      refine eq_nil_iff_forall_not_mem.mpr fun dep member => ?_
      have listed := mem_eraseDups.mpr member
      rw [eq_nil_of_length_eq_zero empty] at listed
      cases listed
    subst stands
    refine ⟨fun pending => ?_,fun _ _ => ?_⟩
    · cases pending
    unfold statusesOf
    rw [none_needed]
    cases node.dep_policy <;> simp [Permits]
  next =>
  subst stands
  refine ⟨fun ready => ?_,fun waits => (waits rfl).elim⟩
  cases ready

end TaskGraph

end Deepstrike.Orchestration

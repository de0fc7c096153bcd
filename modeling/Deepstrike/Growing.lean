import Deepstrike.Validating

/-!
What the graph of a run keeps: its rows and counters say what its nodes say, however the nodes were
added, and the order of the ready ones is beside the point.
-/
namespace Deepstrike.Orchestration
open List

namespace TaskGraph

/-- Graphs of the same tasks in the same states: only the order of the ready ones may differ. -/
structure SameTasks (before after : TaskGraph) : Prop where
  nodes : after.nodes = before.nodes
  in_degree : after.in_degree = before.in_degree
  reverse_adjacency : after.reverse_adjacency = before.reverse_adjacency

theorem SameTasks.refl (graph : TaskGraph) : SameTasks graph graph := ⟨rfl,rfl,rfl⟩

theorem SameTasks.trans {first second third : TaskGraph} (before : SameTasks first second)
    (after : SameTasks second third) :
    SameTasks first third :=
  ⟨after.nodes.trans before.nodes,after.in_degree.trans before.in_degree,after.reverse_adjacency.trans before.reverse_adjacency⟩

theorem SameTasks.foldl {α : Type} {step : TaskGraph → α → TaskGraph}
    (same : ∀ graph item, SameTasks graph (step graph item)) :
    ∀ (items : List α) (graph : TaskGraph), SameTasks graph (items.foldl step graph) := by
  intro items
  induction items with
  | nil => exact SameTasks.refl
  | cons item rest ih => exact fun graph => (same graph item).trans (ih (step graph item))

private theorem push_ready_entry_same (graph : TaskGraph) (id : Nat) : SameTasks graph (graph.push_ready_entry id) := ⟨rfl,rfl,rfl⟩
theorem ready_tasks_same (graph : TaskGraph) : SameTasks graph graph.ready_tasks.2 := ⟨rfl,rfl,rfl⟩

private theorem rebuild_ready_heap_same (graph : TaskGraph) : SameTasks graph graph.rebuild_ready_heap := by
  have cleared : SameTasks graph { graph with ready_heap := [] } := ⟨rfl,rfl,rfl⟩
  refine cleared.trans (SameTasks.foldl (fun graph id => ?_) _ _)
  split
  · exact push_ready_entry_same graph id
  · exact SameTasks.refl graph

private theorem measure_nodes_same (token_costs : List Nat) (factors : List SchedulingFactors) (order : List Nat)
    (state : TaskGraph × List (List Nat)) :
    SameTasks state.1 (order.foldl (fun (graph,reachable) node => graph.measure_node token_costs factors reachable node) state).1 := by
  induction order generalizing state with
  | nil => exact SameTasks.refl state.1
  | cons node rest ih =>
  obtain ⟨graph,reachable⟩ := state
  have step : SameTasks graph (graph.measure_node token_costs factors reachable node).1 := ⟨rfl,rfl,rfl⟩
  exact step.trans (ih (graph.measure_node token_costs factors reachable node))

theorem configure_scheduling_same (graph : TaskGraph) (policy : SchedulerPolicyConfig) (token_costs : List Nat)
    (factors : List SchedulingFactors) :
    SameTasks graph (graph.configure_scheduling_with_factors policy token_costs factors) := by
  have policed : SameTasks graph { graph with scheduler_policy := policy } := ⟨rfl,rfl,rfl⟩
  exact (policed.trans (measure_nodes_same _ _ _ (_,_))).trans (rebuild_ready_heap_same _)

/-- The dependencies of each node that have not completed: what a counter should hold. -/
def residual (graph : TaskGraph) : List Nat :=
  graph.nodes.map fun node => (node.dependencies.filter fun dependency => decide (graph.status_of dependency ≠ some .Completed)).length

/-- A graph says what the nodes of its run say: the dependencies of each node and the row of each
    dependency. -/
structure Shaped (nodes : List WorkflowNode) (graph : TaskGraph) : Prop where
  dependencies : graph.nodes.map TaskNode.dependencies = nodes.map fun node => node.depends_on.eraseDups
  dependents : ∀ dep id, id ∈ graph.dependents dep ↔ dep ∈ dependsOn nodes id
  distinct : ∀ dep, (graph.dependents dep).Nodup

/-- The counters say how many dependencies of each node are still out. -/
structure Consistent (nodes : List WorkflowNode) (graph : TaskGraph) : Prop extends Shaped nodes graph where
  counted : graph.in_degree = graph.residual

variable {nodes : List WorkflowNode} {graph : TaskGraph}

theorem Shaped.length (shaped : Shaped nodes graph) :
    graph.nodes.length = nodes.length := by
  simpa using congrArg List.length shaped.dependencies

theorem Shaped.of_rows {before after : TaskGraph} (shaped : Shaped nodes before)
    (dependencies : after.nodes.map TaskNode.dependencies = before.nodes.map TaskNode.dependencies)
    (rows : after.reverse_adjacency = before.reverse_adjacency) : Shaped nodes after := by
  have dependents : ∀ dep, after.dependents dep = before.dependents dep := fun dep => by
    rw [TaskGraph.dependents,TaskGraph.dependents,rows]
  refine ⟨dependencies.trans shaped.dependencies,fun dep id => ?_,fun dep => ?_⟩
  · rw [dependents]
    exact shaped.dependents dep id
  · rw [dependents]
    exact shaped.distinct dep

theorem Consistent.same {before after : TaskGraph} (consistent : Consistent nodes before)
    (same : SameTasks before after) : Consistent nodes after := by
  refine ⟨consistent.of_rows (by rw [same.nodes]) same.reverse_adjacency,?_⟩
  rw [same.in_degree,consistent.counted]
  unfold residual status_of get
  rw [same.nodes]

/-- A shaped graph holds each node's dependencies once. -/
theorem Shaped.get_dependencies (shaped : Shaped nodes graph) {id : Nat}
    {node : TaskNode} (held : graph.get id = some node) : node.dependencies = (dependsOn nodes id).eraseDups := by
  have listed := congrArg (·[id]?) shaped.dependencies
  simp only [getElem?_map] at listed
  rw [show graph.nodes[id]? = some node from held] at listed
  unfold dependsOn
  cases declared : nodes[id]? with
  | none =>
    rw [declared] at listed
    cases listed
  | some declared_node =>
  rw [declared] at listed
  exact Option.some.inj listed

/-! Adding tasks. -/

private theorem add_nodes (graph : TaskGraph) (task : String) (dependencies : List Nat) :
    (graph.add task dependencies).nodes = graph.nodes ++
      [⟨graph.nodes.length,task,if dependencies.eraseDups.length = 0 then .Ready else .Pending,none,dependencies.eraseDups⟩] := by
  unfold add
  dsimp only
  split <;> rfl

private theorem add_in_degree (graph : TaskGraph) (task : String) (dependencies : List Nat) :
    (graph.add task dependencies).in_degree = graph.in_degree ++ [dependencies.eraseDups.length] := by
  unfold add
  dsimp only
  split <;> rfl

/-- A batch put behind the nodes of a graph. -/
def appended (graph : TaskGraph) (batch : List WorkflowNode) : TaskGraph :=
  batch.foldl (fun graph node => graph.add node.task node.depends_on) graph

private theorem appended_concat (graph : TaskGraph) (batch : List WorkflowNode) (node : WorkflowNode) :
    graph.appended (batch ++ [node]) = (graph.appended batch).add node.task node.depends_on := foldl_concat ..

/-- The nodes a batch becomes: those without dependencies are ready, the others wait. -/
def freshNodes (base : Nat) (batch : List WorkflowNode) : List TaskNode :=
  batch.zipIdx.map fun (node,index) =>
    ⟨base+index,node.task,if node.depends_on.eraseDups.length = 0 then .Ready else .Pending,none,node.depends_on.eraseDups⟩

theorem appended_nodes (graph : TaskGraph) (batch : List WorkflowNode) :
    (graph.appended batch).nodes = graph.nodes ++ freshNodes graph.nodes.length batch := by
  induction batch using reverseRecOn with
  | nil => simp [appended,freshNodes]
  | append_singleton batch node ih =>
  rw [appended_concat,add_nodes,ih]
  simp [freshNodes,zipIdx_append]

private theorem appended_in_degree (graph : TaskGraph) (batch : List WorkflowNode) :
    (graph.appended batch).in_degree = graph.in_degree ++ batch.map fun node => node.depends_on.eraseDups.length := by
  induction batch using reverseRecOn with
  | nil => simp [appended]
  | append_singleton batch node ih =>
  rw [appended_concat,add_in_degree,ih]
  simp

/-- The rows after a batch: those of the older nodes stand, and those of the batch are as if it had
    been added to nothing. -/
theorem appended_dependents (graph : TaskGraph) (batch : List WorkflowNode)
    (outside : ∀ dep, graph.nodes.length ≤ dep → graph.dependents dep = []) (dep : Nat) :
    (graph.appended (shifted graph.nodes.length batch)).dependents dep =
      if dep < graph.nodes.length then graph.dependents dep
      else ((built batch).dependents (dep - graph.nodes.length)).map (graph.nodes.length+·) := by
  induction batch using reverseRecOn with
  | nil =>
    split
    · rfl
    next beyond =>
    rw [show (built []).dependents (dep - graph.nodes.length) = [] by simp [built,dependents,new]]
    exact outside dep (Nat.not_lt.mp beyond)
  | append_singleton batch node ih =>
  have split_batch : shifted graph.nodes.length (batch ++ [node]) =
      shifted graph.nodes.length batch ++ [{ node with depends_on := node.depends_on.map (graph.nodes.length+·) }] := by
    simp [shifted]
  have placed : (graph.appended (shifted graph.nodes.length batch)).nodes.length = graph.nodes.length+batch.length := by
    rw [appended_nodes]
    simp [freshNodes,shifted]
  rw [split_batch,appended_concat,add_dependents,ih,built_concat,add_dependents,built_length,placed]
  by_cases older : dep < graph.nodes.length
  · have reached : dep < row_count (graph.nodes.length+batch.length) (node.depends_on.map (graph.nodes.length+·)).eraseDups :=
      lt_row_count.mpr (.inl (by omega))
    have absent : dep ∉ node.depends_on.map (graph.nodes.length+·) := by
      rw [mem_map]
      rintro ⟨other,_,same⟩
      omega
    rw [if_pos reached,if_pos older,if_neg absent,append_nil,if_pos older]
  obtain ⟨offset,rfl⟩ := Nat.exists_eq_add_of_le (Nat.not_lt.mp older)
  have row : graph.nodes.length+offset <
        row_count (graph.nodes.length+batch.length) (node.depends_on.map (graph.nodes.length+·)).eraseDups ↔
      offset < row_count batch.length node.depends_on.eraseDups := by
    rw [lt_row_count,lt_row_count]
    simp
  have named : graph.nodes.length+offset ∈ node.depends_on.map (graph.nodes.length+·) ↔ offset ∈ node.depends_on := by
    simp
  simp only [row,named,if_neg older,Nat.add_sub_cancel_left]
  rw [map_append]
  congr 1
  · split <;> rfl
  · split <;> rfl

/-- A validated batch keeps a graph consistent. -/
theorem Consistent.appended {batch : List WorkflowNode} (consistent : Consistent nodes graph)
    (placed : Placed nodes) (sheltered : Sheltered batch) :
    Consistent (nodes ++ shifted nodes.length batch) (graph.appended (shifted nodes.length batch)) := by
  have length := consistent.length
  have outside : ∀ dep, graph.nodes.length ≤ dep → graph.dependents dep = [] := by
    intro dep beyond
    refine List.eq_nil_iff_forall_not_mem.mpr fun id member => ?_
    have needed := (placed id dep ((consistent.dependents dep id).mp member)).1
    omega
  have rows := appended_dependents graph batch outside
  rw [length] at rows
  have among : ∀ dep id, id ∈ (built batch).dependents dep ↔ dep ∈ dependsOn batch id := by
    intro dep id
    rw [(mem_dependents batch dep).1 id]
    refine and_iff_left_of_imp fun member between behind _ => ?_
    by_cases near : dep ≤ between
    · exact .inl near
    · exact .inr (sheltered id dep member between behind (Nat.not_le.mp near))
  refine ⟨⟨?_,fun dep id => ?_,fun dep => ?_⟩,?_⟩
  · rw [appended_nodes,List.map_append,List.map_append,consistent.dependencies]
    refine congrArg _ (List.ext_getElem? fun index => ?_)
    simp only [freshNodes,List.map_map,List.getElem?_map,List.getElem?_zipIdx]
    cases (shifted nodes.length batch)[index]? <;> rfl
  · rw [rows,dependsOn_grown placed]
    split
    next older =>
      rw [consistent.dependents]
      constructor
      · exact fun member => .inl ⟨lt_of_dependsOn member,older,member⟩
      · rintro (⟨_,_,member⟩ | ⟨_,need,_,same,_⟩)
        · exact member
        · omega
    next newer =>
    rw [List.mem_map]
    constructor
    · rintro ⟨fresh,member,rfl⟩
      exact .inr ⟨fresh,dep - nodes.length,rfl,by omega,(among _ _).mp member⟩
    · rintro (⟨_,older,_⟩ | ⟨fresh,need,rfl,rfl,member⟩)
      · omega
      · refine ⟨fresh,(among _ _).mpr ?_,rfl⟩
        rwa [Nat.add_sub_cancel_left]
  · rw [rows]
    split
    · exact consistent.distinct dep
    · exact (mem_dependents batch _).2.map (fun _ _ same => Nat.add_left_cancel same)
  rw [appended_in_degree,consistent.counted]
  unfold residual
  rw [appended_nodes,List.map_append]
  congr 1
  · refine List.map_congr_left fun node member => ?_
    obtain ⟨id,held⟩ := List.mem_iff_getElem?.mp member
    have own := consistent.get_dependencies held
    refine congrArg List.length (List.filter_congr fun dep needed => ?_)
    rw [own,List.mem_eraseDups] at needed
    have inside := (placed id dep needed).1
    unfold status_of get
    rw [appended_nodes,List.getElem?_append_left (by omega)]
  refine List.ext_getElem? fun index => ?_
  simp only [freshNodes,List.map_map,List.getElem?_map,List.getElem?_zipIdx]
  cases declared : (shifted nodes.length batch)[index]? with
  | none => rfl
  | some node =>
  simp only [Option.map_some,Function.comp]
  refine congrArg some (Eq.symm (congrArg List.length (List.filter_eq_self.mpr fun dep needed => decide_eq_true ?_)))
  intro completed
  rw [List.mem_eraseDups] at needed
  have needed : dep ∈ dependsOn (shifted nodes.length batch) index := by
    unfold dependsOn
    rwa [declared]
  rw [dependsOn_shifted,List.mem_map] at needed
  obtain ⟨offset,_,rfl⟩ := needed
  unfold status_of get at completed
  rw [appended_nodes,List.getElem?_append_right (by omega)] at completed
  simp only [freshNodes,List.getElem?_map,List.getElem?_zipIdx] at completed
  obtain ⟨fresh,found,done⟩ := Option.map_eq_some_iff.mp completed
  obtain ⟨entry,_,rfl⟩ := Option.map_eq_some_iff.mp found
  split at done <;> cases done

end TaskGraph

end Deepstrike.Orchestration

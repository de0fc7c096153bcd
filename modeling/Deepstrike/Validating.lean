import Mathlib.Data.List.Induction
import Deepstrike.TaskGraph

/-!
What the validation of a workflow accepts. The rows of the reverse adjacency are resized at every
insertion, so a dependency on a node that is listed later survives only where the nodes in between
reach as far; the count then finds the relation cyclic when such a row is gone.
-/
namespace Deepstrike.Orchestration
open Vocabulary List TaskGraph WorkflowSpec

/-- What a node depends on. -/
def dependsOn (nodes : List WorkflowNode) (id : Nat) : List Nat := (nodes[id]?.map WorkflowNode.depends_on).getD []

/-- Every dependency names another node, and no node depends on itself through others. -/
structure WellFormed (nodes : List WorkflowNode) : Prop where
  in_range : ∀ id, ∀ dep ∈ dependsOn nodes id, dep < nodes.length
  not_self : ∀ id, id ∉ dependsOn nodes id
  acyclic : Kahn.Acyclic (dependsOn nodes)

/-- Whenever a node depends on one listed later, all nodes listed between the two depend on one that is
    listed as late or later. -/
def Sheltered (nodes : List WorkflowNode) : Prop :=
  ∀ id, ∀ dep ∈ dependsOn nodes id, ∀ between, id < between → between < dep → ∃ other ∈ dependsOn nodes between, dep ≤ other

/-- No item is left twice. -/
theorem nodup_eraseDups {α : Type} [BEq α] [LawfulBEq α] (items : List α) : items.eraseDups.Nodup := by
  suffices bounded : ∀ length (items : List α), items.length ≤ length → items.eraseDups.Nodup from bounded _ items (Nat.le_refl _)
  intro length
  induction length with
  | zero =>
    intro items short
    rw [length_eq_zero_iff.mp (Nat.le_zero.mp short)]
    exact nodup_nil
  | succ length ih =>
  intro items short
  cases items with
  | nil => exact nodup_nil
  | cons item rest =>
  rw [eraseDups_cons]
  refine nodup_cons.mpr ⟨?_,ih _ ?_⟩
  · rw [mem_eraseDups,mem_filter]
    simp
  · have fewer := length_filter_le (fun other => !other == item) rest
    rw [length_cons] at short
    omega

variable {id : Nat} {spec : WorkflowSpec}

theorem lt_row_count {dep : Nat} {dependencies : List Nat} :
    dep < row_count id dependencies ↔ dep ≤ id ∨ ∃ other ∈ dependencies, dep ≤ other := by
  unfold row_count
  cases most : dependencies.max? with
  | none =>
    rw [max?_eq_none_iff.mp most]
    simp only [Option.getD_none,not_mem_nil,false_and,exists_false,or_false]
    omega
  | some other =>
  have greatest := max?_eq_some_iff.mp most
  rw [Option.getD_some,Nat.lt_succ_iff,le_max_iff]
  constructor
  · rintro (reached | near)
    · exact .inr ⟨other,greatest.1,reached⟩
    · exact .inl near
  · rintro (near | ⟨further,member,reached⟩)
    · exact .inr near
    · exact .inl (Nat.le_trans reached (greatest.2 further member))

private theorem resize_rows_getD (rows : List (List Nat)) (length index : Nat) :
    (resize_rows rows length)[index]?.getD [] = if index < length then rows[index]?.getD [] else [] := by
  unfold resize_rows
  rw [getElem?_append,length_take]
  split
  next short =>
    have inside : index < length := by omega
    rw [getElem?_take,if_pos inside,if_pos inside]
  next long =>
  rw [getElem?_replicate]
  by_cases inside : index < length
  · have beyond : rows[index]? = none := getElem?_eq_none (by omega)
    rw [if_pos inside,beyond]
    split <;> rfl
  · rw [if_neg inside,if_neg (by omega)]
    rfl

private theorem resize_rows_length (rows : List (List Nat)) (length : Nat) : (resize_rows rows length).length = length := by
  unfold resize_rows
  rw [length_append,length_take,length_replicate]
  omega

private theorem push_rows_getD (id : Nat) (dependencies : List Nat) : ∀ rows : List (List Nat), dependencies.Nodup →
    (∀ dep ∈ dependencies, dep < rows.length) → ∀ index,
      (dependencies.foldl (fun rows dependency => rows.modify dependency (· ++ [id])) rows)[index]?.getD [] =
        rows[index]?.getD [] ++ if index ∈ dependencies then [id] else [] := by
  induction dependencies with
  | nil => simp
  | cons dep rest ih =>
  intro rows distinct inside index
  obtain ⟨fresh,distinct⟩ := nodup_cons.mp distinct
  have bound : dep < rows.length := inside dep mem_cons_self
  rw [foldl_cons,ih _ distinct fun other member => by
    simpa using inside other (mem_cons_of_mem dep member)]
  rw [getElem?_modify]
  by_cases same : dep = index
  · subst same
    simp [fresh,bound]
  · simp [same,Ne.symm same]

namespace TaskGraph
variable {graph : TaskGraph}

@[simp] theorem enqueue_ready_nodes (graph : TaskGraph) (id : Nat) : (graph.enqueue_ready id).nodes = graph.nodes := rfl
@[simp] theorem enqueue_ready_reverse_adjacency (graph : TaskGraph) (id : Nat) :
    (graph.enqueue_ready id).reverse_adjacency = graph.reverse_adjacency := rfl

private theorem add_dependencies (graph : TaskGraph) (task : String) (dependencies : List Nat) :
    (graph.add task dependencies).nodes.map TaskNode.dependencies = graph.nodes.map TaskNode.dependencies ++ [dependencies.eraseDups] := by
  unfold add
  dsimp only
  split <;> simp

theorem add_dependents (graph : TaskGraph) (task : String) (dependencies : List Nat) (index : Nat) :
    (graph.add task dependencies).dependents index =
      (if index < row_count graph.nodes.length dependencies.eraseDups then graph.dependents index else []) ++
        if index ∈ dependencies then [graph.nodes.length] else [] := by
  have inside : ∀ dep ∈ dependencies.eraseDups,
      dep < (resize_rows graph.reverse_adjacency (row_count graph.nodes.length dependencies.eraseDups)).length := by
    intro dep member
    rw [resize_rows_length,lt_row_count]
    exact .inr ⟨dep,member,Nat.le_refl dep⟩
  have pushed := push_rows_getD graph.nodes.length dependencies.eraseDups _ (nodup_eraseDups dependencies) inside index
  rw [resize_rows_getD] at pushed
  simp only [mem_eraseDups] at pushed
  rw [dependents,dependents,← pushed]
  unfold add
  dsimp only
  split <;> rfl

/-- The graph of nodes that are in range. -/
def built (nodes : List WorkflowNode) : TaskGraph := nodes.foldl (fun graph node => graph.add node.task node.depends_on) new

variable (nodes : List WorkflowNode)

theorem built_concat (node : WorkflowNode) :
    built (nodes ++ [node]) = (built nodes).add node.task node.depends_on := foldl_concat ..

private theorem built_dependencies :
    (built nodes).nodes.map TaskNode.dependencies = nodes.map fun node => node.depends_on.eraseDups := by
  induction nodes using reverseRecOn with
  | nil => rfl
  | append_singleton nodes node ih =>
    rw [built_concat,add_dependencies,ih,map_append,map_singleton]

theorem built_length : (built nodes).nodes.length = nodes.length := by
  simpa using congrArg length (built_dependencies nodes)

end TaskGraph

theorem dependsOn_of_lt (nodes others : List WorkflowNode) (bound : id < nodes.length) :
    dependsOn (nodes ++ others) id = dependsOn nodes id := by
  unfold dependsOn
  rw [getElem?_append_left bound]

private theorem dependsOn_of_le (nodes others : List WorkflowNode) (bound : nodes.length ≤ id) :
    dependsOn (nodes ++ others) id = dependsOn others (id - nodes.length) := by
  unfold dependsOn
  rw [getElem?_append_right bound]

theorem dependsOn_outside (nodes : List WorkflowNode) (bound : nodes.length ≤ id) : dependsOn nodes id = [] := by
  unfold dependsOn
  rw [getElem?_eq_none bound]
  rfl

theorem lt_of_dependsOn {nodes : List WorkflowNode} {dep : Nat} (member : dep ∈ dependsOn nodes id) :
    id < nodes.length := by
  by_contra beyond
  rw [dependsOn_outside nodes (Nat.not_lt.mp beyond)] at member
  cases member

namespace TaskGraph

/-- The rows that survive: a node stands in the row of a dependency when no node listed behind it cut
    the row off. -/
theorem mem_dependents (nodes : List WorkflowNode) (dep : Nat) :
    (∀ id, id ∈ (built nodes).dependents dep ↔ dep ∈ dependsOn nodes id ∧
      ∀ between, id < between → between < nodes.length → dep ≤ between ∨ ∃ other ∈ dependsOn nodes between,
      dep ≤ other) ∧
    ((built nodes).dependents dep).Nodup := by
  induction nodes using reverseRecOn with
  | nil => exact ⟨fun id => by simp [built,dependents,new,dependsOn],nodup_nil⟩
  | append_singleton nodes node ih =>
  obtain ⟨older,distinct⟩ := ih
  have last : dependsOn (nodes ++ [node]) nodes.length = node.depends_on := by
    rw [dependsOn_of_le nodes [node] (Nat.le_refl _),Nat.sub_self]
    rfl
  have cut : dep < row_count nodes.length node.depends_on.eraseDups ↔
      dep ≤ nodes.length ∨ ∃ other ∈ dependsOn (nodes ++ [node]) nodes.length, dep ≤ other := by
    simp only [lt_row_count,mem_eraseDups,last]
  have kept : ∀ id, id ∈ (if dep < row_count nodes.length node.depends_on.eraseDups then (built nodes).dependents dep else []) ↔
      id ∈ (built nodes).dependents dep ∧ dep < row_count nodes.length node.depends_on.eraseDups := by
    intro id
    by_cases wide : dep < row_count nodes.length node.depends_on.eraseDups
    · rw [if_pos wide,and_iff_left wide]
    · rw [if_neg wide]
      exact ⟨fun member => (not_mem_nil member).elim,fun member => (wide member.2).elim⟩
  rw [built_concat,add_dependents,built_length]
  constructor
  · intro id
    rw [mem_append,kept,older]
    obtain earlier | rfl | later := Nat.lt_trichotomy id nodes.length
    · have apart : id ∉ (if dep ∈ node.depends_on then [nodes.length] else []) := by
        split <;> simp [Nat.ne_of_lt earlier]
      rw [dependsOn_of_lt nodes [node] earlier,cut,or_iff_left apart,and_assoc]
      refine and_congr_right fun _ => ⟨?_,?_⟩
      · rintro ⟨reached,final⟩ between behind bound
        rw [length_append,length_singleton] at bound
        obtain inside | rfl : between < nodes.length ∨ between = nodes.length := by omega
        · rw [dependsOn_of_lt nodes [node] inside]
          exact reached between behind inside
        · exact final
      · intro reached
        refine ⟨fun between behind inside => ?_,reached nodes.length earlier (by simp)⟩
        have held := reached between behind (by rw [length_append]; omega)
        rwa [dependsOn_of_lt nodes [node] inside] at held
    · have gone : dependsOn nodes nodes.length = [] := dependsOn_outside nodes (Nat.le_refl _)
      rw [gone,last]
      simp only [not_mem_nil,false_and,false_or,length_append,length_singleton]
      constructor
      · intro member
        refine ⟨by by_contra absent; simp [absent] at member,fun between behind bound => by omega⟩
      · rintro ⟨member,_⟩
        simp [member]
    rw [dependsOn_outside nodes (Nat.le_of_lt later),
      dependsOn_outside (nodes ++ [node]) (by rw [length_append,length_singleton]; omega)]
    have apart : id ∉ (if dep ∈ node.depends_on then [nodes.length] else []) := by
      split <;> simp [Nat.ne_of_gt later]
    simp [apart]
  refine nodup_append.mpr ⟨?_,?_,?_⟩
  · split
    · exact distinct
    · exact nodup_nil
  · split
    · exact nodup_singleton _
    · exact nodup_nil
  intro id member other new same
  have inside := lt_of_dependsOn ((older id).mp ((kept id).mp member).1).1
  have placed : other = nodes.length := by
    split at new
    · exact mem_singleton.mp new
    · cases new
  omega

end TaskGraph

private theorem needs_iff (nodes : List WorkflowNode) (id dep : Nat) : dep ∈ (dependsOn nodes id).eraseDups ↔ dep ∈ dependsOn nodes id :=
  mem_eraseDups

private theorem acyclic_eraseDups (nodes : List WorkflowNode) :
    Kahn.Acyclic (fun id => (dependsOn nodes id).eraseDups) ↔ Kahn.Acyclic (dependsOn nodes) := by
  unfold Kahn.Acyclic
  simp only [needs_iff]

/-- The sort of a graph in range finds an order when it has no cycle and no row was cut off. -/
theorem topological_sort_iff {nodes : List WorkflowNode}
    (in_range : ∀ id, ∀ dep ∈ dependsOn nodes id, dep < nodes.length) :
    (∃ order, (built nodes).topological_sort = .ok order) ↔ Kahn.Acyclic (dependsOn nodes) ∧ Sheltered nodes := by
  have relation : Kahn.Feeds nodes.length (fun id => (dependsOn nodes id).eraseDups) (built nodes).dependents := by
    refine ⟨fun id => nodup_eraseDups _,fun need => (mem_dependents nodes need).2,fun need id member => ?_⟩
    have needed := (((mem_dependents nodes need).1 id).mp member).1
    exact ⟨lt_of_dependsOn needed,(needs_iff nodes id need).mpr needed⟩
  have outside : ∀ id, nodes.length ≤ id → (dependsOn nodes id).eraseDups = [] := by
    intro id bound
    rw [dependsOn_outside nodes bound]
    rfl
  have degrees : (built nodes).nodes.map (fun node => node.dependencies.length) =
      (range nodes.length).map fun id => (dependsOn nodes id).eraseDups.length := by
    have counted := congrArg (map length) (built_dependencies nodes)
    rw [map_map,map_map] at counted
    refine counted.trans (ext_getElem? fun id => ?_)
    by_cases bound : id < nodes.length
    · simp [dependsOn,bound]
    · simp [bound]
  have taken := Kahn.taken_all_iff relation outside
  have sheltered : (∀ id, ∀ need ∈ (dependsOn nodes id).eraseDups, need < nodes.length ∧ id ∈ (built nodes).dependents need) ↔
      Sheltered nodes := by
    simp only [needs_iff]
    constructor
    · intro complete id dep member between behind before
      obtain ⟨bound,fed⟩ := complete id dep member
      obtain near | reached := (((mem_dependents nodes dep).1 id).mp fed).2 between behind (Nat.lt_trans before bound)
      · omega
      · exact reached
    intro sheltered id dep member
    refine ⟨in_range id dep member,((mem_dependents nodes dep).1 id).mpr ⟨member,fun between behind _ => ?_⟩⟩
    by_cases near : dep ≤ between
    · exact .inl near
    · exact .inr (sheltered id dep member between behind (Nat.not_le.mp near))
  rw [← degrees,sheltered,acyclic_eraseDups,and_comm] at taken
  rw [← taken]
  unfold topological_sort
  rw [built_length]
  by_cases full : (Kahn.takenFrom ((built nodes).nodes.map fun node => node.dependencies.length)
      (built nodes).dependents).length = nodes.length
  · simp [full]
  · simp [full]

private theorem findSome_zipIdx_none {α β : Type} (items : List α) (check : α × Nat → Option β) :
    items.zipIdx.findSome? check = none ↔ ∀ id item, items[id]? = some item → check (item,id) = none := by
  rw [findSome?_eq_none_iff]
  constructor
  · intro passed id item held
    exact passed (item,id) (mem_zipIdx_iff_getElem?.mpr held)
  · rintro passed ⟨item,id⟩ member
    exact passed id item (mem_zipIdx_iff_getElem?.mp member)

theorem dependsOn_of_getElem? {nodes : List WorkflowNode} {node : WorkflowNode} (held : nodes[id]? = some node) :
    dependsOn nodes id = node.depends_on := by
  unfold dependsOn
  rw [held]
  rfl

private theorem forall_dependsOn {nodes : List WorkflowNode} {held : Nat → Nat → Prop} :
    (∀ id, ∀ dep ∈ dependsOn nodes id, held id dep) ↔ ∀ id node, nodes[id]? = some node → ∀ dep ∈ node.depends_on, held id dep := by
  constructor
  · intro all id node placed dep member
    exact all id dep (by rwa [dependsOn_of_getElem? placed])
  intro all id dep member
  have bound := lt_of_dependsOn member
  have placed : nodes[id]? = some nodes[id] := getElem?_eq_getElem bound
  rw [dependsOn_of_getElem? placed] at member
  exact all id _ placed dep member

/-- Every dependency is in range and names another node. -/
def Placed (nodes : List WorkflowNode) : Prop := ∀ id, ∀ dep ∈ dependsOn nodes id, dep < nodes.length ∧ dep ≠ id

private theorem placed_iff {ε : Type} (nodes : List WorkflowNode) (range self : Nat → Nat → ε) :
    (nodes.zipIdx.findSome? fun (node,index) => node.depends_on.findSome? fun dep =>
      if nodes.length ≤ dep then some (range index dep) else if dep = index then some (self index dep) else none) = none ↔ Placed nodes := by
  unfold Placed
  rw [findSome_zipIdx_none,forall_dependsOn]
  refine forall_congr' fun id => forall_congr' fun node => imp_congr_right fun _ => ?_
  rw [findSome?_eq_none_iff]
  refine forall_congr' fun dep => imp_congr_right fun _ => ?_
  by_cases outside : nodes.length ≤ dep
  · simp [outside]
  · rw [if_neg outside]
    by_cases same : dep = id
    · simp [same]
    · simp [same,Nat.not_le.mp outside]

private theorem misplaced_iff (nodes : List WorkflowNode) :
    (nodes.zipIdx.findSome? fun (node,index) => misplaced nodes.length index node.depends_on) = none ↔ Placed nodes :=
  placed_iff nodes
    (fun index dep => DeepStrikeError.InvalidConfig s!"node {index} depends on out-of-range node {dep} (have {nodes.length})")
    fun index _ => DeepStrikeError.InvalidConfig s!"node {index} depends on itself"

private theorem submission_error_iff (nodes : List WorkflowNode) :
    (nodes.zipIdx.findSome? fun (node,index) => WorkflowRun.submission_error nodes.length index node.depends_on) = none ↔ Placed nodes :=
  placed_iff nodes
    (fun index dep => WorkflowSubmissionError.mk index s!"dependency {dep} out of range for batch of {nodes.length} nodes")
    fun index _ => WorkflowSubmissionError.mk index "node depends on itself"

theorem wellFormed_iff (nodes : List WorkflowNode) :
    WellFormed nodes ↔ Placed nodes ∧ Kahn.Acyclic (dependsOn nodes) := by
  constructor
  · intro formed
    exact ⟨fun id dep member => ⟨formed.in_range id dep member,fun same => formed.not_self id (same ▸ member)⟩,formed.acyclic⟩
  · rintro ⟨placed,acyclic⟩
    exact ⟨fun id dep member => (placed id dep member).1,fun id member => (placed id id member).2 rfl,acyclic⟩

private theorem to_task_graph_built (in_range : ∀ node ∈ spec.nodes, ∀ dep ∈ node.depends_on, dep < spec.nodes.length) :
    spec.to_task_graph = .ok (built spec.nodes) := by
  obtain ⟨nodes⟩ := spec
  unfold to_task_graph built
  dsimp only at in_range ⊢
  generalize nodes.length = count at in_range ⊢
  generalize new = graph
  induction nodes generalizing graph with
  | nil => rfl
  | cons node rest ih =>
  have passed : (node.depends_on.find? fun dep => decide (count ≤ dep)) = none := by
    rw [find?_eq_none]
    intro dep member
    have bound := in_range node mem_cons_self dep member
    simp only [decide_eq_true_eq]
    omega
  rw [foldlM_cons,passed]
  exact ih (fun other member => in_range other (mem_cons_of_mem node member)) _

private theorem to_task_graph_placed (placed : Placed spec.nodes) : spec.to_task_graph = .ok (built spec.nodes) := by
  refine to_task_graph_built fun node member dep needed => ?_
  obtain ⟨id,held⟩ := mem_iff_getElem?.mp member
  exact (forall_dependsOn.mp placed id node held dep needed).1

/-- A validated specification yields the graph that is built from it. -/
theorem validate_built {graph : TaskGraph} (validated : spec.validate = .ok graph) : graph = built spec.nodes := by
  unfold validate at validated
  split at validated
  next => cases validated
  next passed =>
  rw [to_task_graph_placed ((misplaced_iff spec.nodes).mp passed)] at validated
  cases sorted : (built spec.nodes).topological_sort with
  | error error =>
    simp only [bind,Except.bind,sorted] at validated
    cases validated
  | ok order =>
  simp only [bind,Except.bind,sorted] at validated
  cases validated
  rfl

/-- A specification is accepted where it is well formed and sheltered. -/
theorem validate_iff (spec : WorkflowSpec) :
    (∃ graph, spec.validate = .ok graph) ↔ WellFormed spec.nodes ∧ Sheltered spec.nodes := by
  rw [wellFormed_iff,and_assoc]
  unfold validate
  split
  next error found =>
    have misplaced : ¬Placed spec.nodes := by
      rw [← misplaced_iff,found]
      simp
    simp [misplaced]
  next passed =>
  have placed := (misplaced_iff spec.nodes).mp passed
  rw [and_iff_right placed]
  rw [← topological_sort_iff fun id dep member => (placed id dep member).1,to_task_graph_placed placed]
  cases sorted : (built spec.nodes).topological_sort with
  | error error => simp [bind,Except.bind,sorted]
  | ok order => simp [bind,Except.bind,sorted]

/-- A batch where it is appended: its dependencies move with it. -/
def shifted (base : Nat) (batch : List WorkflowNode) : List WorkflowNode :=
  batch.map fun node => { node with depends_on := node.depends_on.map (base+·) }

theorem shifted_zero (batch : List WorkflowNode) : shifted 0 batch = batch := by
  unfold shifted
  refine (map_congr_left fun node _ => ?_).trans (map_id batch)
  simp

theorem dependsOn_shifted (base : Nat) (batch : List WorkflowNode) (id : Nat) :
    dependsOn (shifted base batch) id = (dependsOn batch id).map (base+·) := by
  unfold dependsOn shifted
  rw [getElem?_map]
  cases batch[id]? <;> rfl

section
variable {nodes batch : List WorkflowNode}

/-- What a node of the grown list depends on. -/
theorem dependsOn_grown (placed : Placed nodes) {id dep : Nat} :
    dep ∈ dependsOn (nodes ++ shifted nodes.length batch) id ↔
      (id < nodes.length ∧ dep < nodes.length ∧ dep ∈ dependsOn nodes id) ∨
      ∃ new need, id = nodes.length+new ∧ dep = nodes.length+need ∧ need ∈ dependsOn batch new := by
  by_cases older : id < nodes.length
  · rw [dependsOn_of_lt nodes _ older]
    constructor
    · exact fun member => .inl ⟨older,(placed id dep member).1,member⟩
    · rintro (⟨_,_,member⟩ | ⟨new,need,rfl,_,_⟩)
      · exact member
      · omega
  rw [dependsOn_of_le nodes _ (Nat.not_lt.mp older),dependsOn_shifted,mem_map]
  constructor
  · rintro ⟨need,member,rfl⟩
    exact .inr ⟨id - nodes.length,need,by omega,rfl,member⟩
  · rintro (⟨inside,_,_⟩ | ⟨new,need,rfl,rfl,member⟩)
    · exact (older inside).elim
    · rw [Nat.add_sub_cancel_left]
      exact ⟨need,member,rfl⟩

private theorem placed_grown (placed : Placed nodes) : Placed (nodes ++ shifted nodes.length batch) ↔ Placed batch := by
  have length : (nodes ++ shifted nodes.length batch).length = nodes.length+batch.length := by simp [shifted]
  unfold Placed
  rw [length]
  constructor
  · intro grown new need member
    have held := grown (nodes.length+new) (nodes.length+need)
      ((dependsOn_grown placed).mpr (.inr ⟨new,need,rfl,rfl,member⟩))
    omega
  intro own id dep member
  obtain ⟨older,bound,among⟩ | ⟨new,need,rfl,rfl,among⟩ := (dependsOn_grown placed).mp member
  · exact ⟨by omega,(placed id dep among).2⟩
  · have held := own new need among
    omega

private theorem path_grown (placed : Placed nodes) {first last : Nat}
    (path : Relation.TransGen (fun id dep => dep ∈ dependsOn (nodes ++ shifted nodes.length batch) id) first last) :
    (first < nodes.length ∧ last < nodes.length ∧ Relation.TransGen (fun id dep => dep ∈ dependsOn nodes id) first last) ∨
      ∃ new need, first = nodes.length+new ∧ last = nodes.length+need ∧
        Relation.TransGen (fun id dep => dep ∈ dependsOn batch id) new need := by
  induction path with
  | single member =>
    obtain ⟨older,bound,among⟩ | ⟨new,need,rfl,rfl,among⟩ := (dependsOn_grown placed).mp member
    · exact .inl ⟨older,bound,.single among⟩
    · exact .inr ⟨new,need,rfl,rfl,.single among⟩
  | tail _ member ih =>
  obtain ⟨older,bound,path⟩ | ⟨new,need,rfl,rfl,path⟩ := ih
  · obtain ⟨_,next,member⟩ | ⟨other,need,same,_,_⟩ := (dependsOn_grown placed).mp member
    · exact .inl ⟨older,next,path.tail member⟩
    · omega
  · obtain ⟨inside,_,_⟩ | ⟨other,next,same,rfl,member⟩ := (dependsOn_grown placed).mp member
    · omega
    · cases Nat.add_left_cancel same
      exact .inr ⟨new,next,rfl,rfl,path.tail member⟩

private theorem acyclic_grown (formed : WellFormed nodes) :
    Kahn.Acyclic (dependsOn (nodes ++ shifted nodes.length batch)) ↔ Kahn.Acyclic (dependsOn batch) := by
  have placed := ((wellFormed_iff nodes).mp formed).1
  constructor
  · intro acyclic new cycle
    refine acyclic (nodes.length+new) (cycle.lift (nodes.length+·) fun id dep member => ?_)
    exact (dependsOn_grown placed).mpr (.inr ⟨id,dep,rfl,rfl,member⟩)
  intro acyclic id cycle
  obtain ⟨_,_,cycle⟩ | ⟨new,need,rfl,same,cycle⟩ := path_grown placed cycle
  · exact formed.acyclic id cycle
  · cases Nat.add_left_cancel same
    exact acyclic new cycle

theorem wellFormed_grown (formed : WellFormed nodes) : WellFormed (nodes ++ shifted nodes.length batch) ↔
    WellFormed batch := by
  have placed := ((wellFormed_iff nodes).mp formed).1
  rw [wellFormed_iff,wellFormed_iff batch,placed_grown placed,acyclic_grown formed]

end

namespace WorkflowRun

private theorem submit_nodes_iff (run : WorkflowRun) (batch : List WorkflowNode) :
    (∃ ids, (run.submit_nodes batch).1 = .ok ids) ↔ WellFormed batch ∧ Sheltered batch := by
  rw [← validate_iff ⟨batch⟩]
  unfold submit_nodes
  dsimp only
  split
  next error found =>
    have misplaced : ¬Placed batch := by
      rw [← submission_error_iff,found]
      simp
    have refused : ¬∃ graph, (WorkflowSpec.mk batch).validate = .ok graph := by
      intro accepted
      exact misplaced ((wellFormed_iff batch).mp ((validate_iff ⟨batch⟩).mp accepted).1).1
    simp only [reduceCtorEq,exists_false,refused]
  next =>
    cases (WorkflowSpec.mk batch).validate <;> simp

private theorem submit_nodes_nodes (run : WorkflowRun) (batch : List WorkflowNode) :
    (run.submit_nodes batch).2.nodes = run.nodes ∨
      (WellFormed batch ∧ (run.submit_nodes batch).2.nodes = run.nodes ++ shifted run.nodes.length batch) := by
  by_cases accepted : ∃ ids, (run.submit_nodes batch).1 = .ok ids
  · refine .inr ⟨((submit_nodes_iff run batch).mp accepted).1,?_⟩
    obtain ⟨ids,accepted⟩ := accepted
    unfold submit_nodes at accepted ⊢
    dsimp only at accepted ⊢
    split at accepted
    · cases accepted
    · split at accepted
      · cases accepted
      · rfl
  refine .inl ?_
  unfold submit_nodes at accepted ⊢
  dsimp only at accepted ⊢
  split at accepted
  · rfl
  · split at accepted
    · rfl
    · exact (accepted ⟨_,rfl⟩).elim

/-- The runs a workflow can be in. -/
inductive Reachable : WorkflowRun → Prop where
  | new {spec : WorkflowSpec} {run : WorkflowRun} (made : WorkflowRun.new spec = .ok run) : Reachable run
  | restore_from_checkpoint {spec : WorkflowSpec} {states : List WorkflowRuntimeNodeState} {run : WorkflowRun}
    (made : WorkflowRun.restore_from_checkpoint spec states = .ok run) : Reachable run
  | ready_batch {run : WorkflowRun} (reached : Reachable run) : Reachable run.ready_batch.2
  | set_scheduler_policy {run : WorkflowRun} (reached : Reachable run) (policy : SchedulerPolicyConfig) :
    Reachable (run.set_scheduler_policy policy)
  | mark_spawned {run : WorkflowRun} (reached : Reachable run) (node : Nat) (agent_id : String) : Reachable (run.mark_spawned node agent_id)
  | mark_denied {run : WorkflowRun} (reached : Reachable run) (node : Nat) : Reachable (run.mark_denied node)
  | mark_spawn_failed {run : WorkflowRun} (reached : Reachable run) (agent_id : String) : Reachable (run.mark_spawn_failed agent_id).2
  | record_completion {run : WorkflowRun} (reached : Reachable run) (agent_id : String) (result : LoopResult) :
    Reachable (run.record_completion agent_id result).2
  | submit_nodes {run : WorkflowRun} (reached : Reachable run) (batch : List WorkflowNode) : Reachable (run.submit_nodes batch).2
  | submit_nodes_from {run : WorkflowRun} (reached : Reachable run) (submitter : Option String) (batch : List WorkflowNode) :
    Reachable (run.submit_nodes_from submitter batch).2
  | finish {run : WorkflowRun} (reached : Reachable run) : Reachable run.finish.2

variable {spec : WorkflowSpec} {run : WorkflowRun}

private theorem new_nodes (made : WorkflowRun.new spec = .ok run) :
    WellFormed spec.nodes ∧ run.nodes = spec.nodes := by
  unfold WorkflowRun.new at made
  cases validated : spec.validate with
  | error error =>
    rw [validated] at made
    cases made
  | ok graph =>
  rw [validated] at made
  cases made
  exact ⟨((validate_iff spec).mp ⟨graph,validated⟩).1,rfl⟩

private theorem restored_nodes {states : List WorkflowRuntimeNodeState}
    (made : WorkflowRun.restore_from_checkpoint spec states = .ok run) : WellFormed spec.nodes ∧ run.nodes = spec.nodes := by
  unfold WorkflowRun.restore_from_checkpoint at made
  cases fresh : WorkflowRun.new spec with
  | error error =>
    rw [fresh] at made
    cases made
  | ok first =>
  obtain ⟨formed,same⟩ := new_nodes fresh
  rw [fresh] at made
  simp only [bind,Except.bind] at made
  split at made
  · cases made
  · split at made
    · cases made
    · cases made
      exact ⟨formed,same⟩

private theorem submitted_formed (formed : WellFormed run.nodes) (batch : List WorkflowNode) :
    WellFormed (run.submit_nodes batch).2.nodes := by
  obtain kept | ⟨own,grown⟩ := submit_nodes_nodes run batch
  · rwa [kept]
  · rw [grown]
    exact (wellFormed_grown formed).mpr own

/-- Every reachable run has well-formed nodes. -/
theorem Reachable.formed (reached : Reachable run) : WellFormed run.nodes := by
  induction reached with
  | new made =>
    obtain ⟨formed,same⟩ := new_nodes made
    rwa [same]
  | restore_from_checkpoint made =>
    obtain ⟨formed,same⟩ := restored_nodes made
    rwa [same]
  | ready_batch _ formed => exact formed
  | set_scheduler_policy _ _ formed => exact formed
  | mark_spawned _ _ _ formed => exact formed
  | mark_denied _ _ formed => exact formed
  | @mark_spawn_failed run _ agent_id formed =>
    unfold WorkflowRun.mark_spawn_failed
    split <;> exact formed
  | @record_completion run _ agent_id result formed =>
    unfold WorkflowRun.record_completion
    split <;> exact formed
  | submit_nodes _ batch formed => exact submitted_formed formed batch
  | submit_nodes_from _ submitter batch formed => exact submitted_formed formed _
  | finish _ formed => exact formed

end WorkflowRun

/-- A spec is accepted exactly when its relation is well-formed, and a batch exactly when the grown
    relation is, in case a well-formed relation has no row that is cut off. -/
theorem accepted_as_formed (spec : WorkflowSpec) (run : WorkflowRun) (batch : List WorkflowNode)
    (reached : run.Reachable) :
    (((∃ graph, spec.validate = .ok graph) ↔ WellFormed spec.nodes) ↔ (WellFormed spec.nodes → Sheltered spec.nodes)) ∧
    (((∃ ids, (run.submit_nodes batch).1 = .ok ids) ↔ WellFormed (run.nodes ++ shifted run.nodes.length batch)) ↔
      (WellFormed (run.nodes ++ shifted run.nodes.length batch) → Sheltered batch)) := by
  constructor
  · rw [validate_iff]
    exact and_iff_left_iff_imp
  · rw [WorkflowRun.submit_nodes_iff,wellFormed_grown reached.formed]
    exact and_iff_left_iff_imp

/-- A node that depends on nodes. -/
def nodeOn (depends_on : List Nat) : WorkflowNode := ⟨"task",.Shared,.Trusted,none,.AllSuccess,depends_on,.default⟩

private theorem sheltered_forward : Sheltered [nodeOn [1],nodeOn []] := by
  intro id dep member between behind before
  have first : id = 0 ∧ dep = 1 := by
    match id with
    | 0 => exact ⟨rfl,mem_singleton.mp member⟩
    | 1 => cases member
    | id+2 => cases member
  omega

/-- Such nodes are accepted as a spec, and as a batch behind the root of a run. -/
theorem accepted_as_formed_forward :
    ∃ run, WorkflowRun.new ⟨[nodeOn []]⟩ = .ok run ∧
      ((∃ graph, (mk [nodeOn [1],nodeOn []]).validate = .ok graph) ↔ WellFormed [nodeOn [1],nodeOn []]) ∧
      ((∃ ids, (run.submit_nodes [nodeOn [1],nodeOn []]).1 = .ok ids) ↔
        WellFormed (run.nodes ++ shifted run.nodes.length [nodeOn [1],nodeOn []])) := by
  obtain ⟨graph,validated⟩ : ∃ graph, (mk [nodeOn []]).validate = .ok graph := ⟨_,rfl⟩
  have made : ∃ run, WorkflowRun.new ⟨[nodeOn []]⟩ = .ok run := by
    unfold WorkflowRun.new
    rw [validated]
    exact ⟨_,rfl⟩
  obtain ⟨run,made⟩ := made
  obtain ⟨listed,submitted⟩ := accepted_as_formed ⟨[nodeOn [1],nodeOn []]⟩ run [nodeOn [1],nodeOn []] (.new made)
  exact ⟨run,made,listed.mpr fun _ => sheltered_forward,submitted.mpr fun _ => sheltered_forward⟩

/-- The first of three nodes depends on the last, and no other depends on any. -/
def overNode : List WorkflowNode := [nodeOn [2],nodeOn [],nodeOn []]

theorem overNode_dependsOn {dep : Nat} (member : dep ∈ dependsOn overNode id) : id = 0 ∧ dep = 2 := by
  match id with
  | 0 => exact ⟨rfl,mem_singleton.mp member⟩
  | 1 => cases member
  | 2 => cases member
  | id+3 => cases member

private theorem overNode_formed : WellFormed overNode := by
  refine ⟨fun id dep member => ?_,fun id member => ?_,fun id cycle => ?_⟩
  · rw [(overNode_dependsOn member).2]
    decide
  · have ends := overNode_dependsOn member
    omega
  have ends : ∀ last, Relation.TransGen (fun id dep => dep ∈ dependsOn overNode id) id last → id = 0 ∧ last = 2 := by
    intro last path
    induction path with
    | single member => exact overNode_dependsOn member
    | tail _ member ih => exact ⟨ih.1,(overNode_dependsOn member).2⟩
  have both := ends id cycle
  omega

/-- The node in between cuts the row of the last node off, and the relation is taken for a cycle. -/
theorem forward_dependency_lost :
    (mk overNode).validate = .error .OrchestrationCycle ∧
      ¬((∃ graph, (mk overNode).validate = .ok graph) ↔ WellFormed overNode) := by
  have refused : (mk overNode).validate = .error .OrchestrationCycle := rfl
  refine ⟨refused,fun accepts => ?_⟩
  obtain ⟨graph,accepted⟩ := accepts.mpr overNode_formed
  rw [refused] at accepted
  cases accepted

end Deepstrike.Orchestration

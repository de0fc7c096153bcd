import Mathlib.Data.Finset.Card
import Deepstrike.Deciding

/-!
The two ways a waiting task is moved on: by the counter of a dependency that completed, and by the
rounds that look at every waiting task until no policy has a verdict on one.
-/
namespace Deepstrike.Orchestration
open Vocabulary List WorkflowRun

namespace TaskGraph

/-- One task takes a state, and a result when there is one; nothing else is said of the tasks. -/
structure Moved (before after : TaskGraph) (id : Nat) (status : TaskStatus) (result : Option LoopResult) : Prop where
  nodes : after.nodes = before.nodes.modify id fun node => { node with status, result := result.or node.result }
  in_degree : after.in_degree = before.in_degree
  reverse_adjacency : after.reverse_adjacency = before.reverse_adjacency

section
variable {before after : TaskGraph} {id : Nat} {status : TaskStatus} {result : Option LoopResult}

section
variable (moved : Moved before after id status result)
include moved

theorem Moved.get (other : Nat) :
    after.get other =
      if other = id then (before.get other).map fun node => { node with status, result := result.or node.result }
      else before.get other := by
  unfold TaskGraph.get
  rw [moved.nodes,getElem?_modify]
  by_cases same : other = id
  · subst same
    rw [if_pos rfl]
    cases before.nodes[other]? <;> simp
  · simp [same,Ne.symm same]

theorem Moved.status_of (other : Nat) :
    after.status_of other = if other = id then (before.status_of other).map fun _ => status
    else before.status_of other := by
  unfold TaskGraph.status_of
  rw [moved.get]
  split
  · rw [Option.map_map,Option.map_map]
    rfl
  · rfl

theorem Moved.dependencies :
    after.nodes.map TaskNode.dependencies = before.nodes.map TaskNode.dependencies := by
  rw [moved.nodes]
  refine ext_getElem? fun index => ?_
  rw [getElem?_map,getElem?_map,getElem?_modify]
  cases before.nodes[index]? with
  | none => rfl
  | some node => by_cases same : id = index <;> simp [same]

end

private theorem residual_congr (dependencies : after.nodes.map TaskNode.dependencies = before.nodes.map TaskNode.dependencies)
    (completed : ∀ dep, after.status_of dep = some .Completed ↔ before.status_of dep = some .Completed) :
    after.residual = before.residual := by
  have counts : ∀ graph : TaskGraph, graph.residual = (graph.nodes.map TaskNode.dependencies).map fun dependencies =>
      (dependencies.filter fun dependency => decide (graph.status_of dependency ≠ some .Completed)).length := fun graph => by
    rw [map_map]
    rfl
  rw [counts,counts,dependencies]
  refine map_congr_left fun dependencies _ => congrArg length (filter_congr fun dep _ => ?_)
  exact decide_eq_decide.mpr (not_congr (completed dep))

theorem Moved.residual (moved : Moved before after id status result)
    (open_before : before.status_of id ≠ some .Completed)
    (open_after : status ≠ .Completed) : after.residual = before.residual := by
  refine residual_congr moved.dependencies fun dep => ?_
  rw [moved.status_of]
  split
  next same =>
    subst same
    refine iff_of_false ?_ open_before
    cases before.status_of dep with
    | none => simp
    | some _ => simpa using open_after
  next => rfl

theorem Moved.consistent {nodes : List WorkflowNode} (moved : Moved before after id status result)
    (consistent : Consistent nodes before)
    (open_before : before.status_of id ≠ some .Completed) (open_after : status ≠ .Completed) :
    Consistent nodes after := by
  refine ⟨consistent.of_rows moved.dependencies moved.reverse_adjacency,?_⟩
  rw [moved.in_degree,consistent.counted,moved.residual open_before open_after]

end

/-- The states of what a node depends on. -/
def statusesOf (graph : TaskGraph) (node : WorkflowNode) : List TaskStatus := node.depends_on.filterMap graph.status_of

/-- Every task that does not wait stands as its policy says. -/
def Justified (nodes : List WorkflowNode) (graph : TaskGraph) : Prop :=
  ∀ id node status, nodes[id]? = some node → graph.status_of id = some status →
    (status = .SkippedUpstreamFailed → Forbids node.dep_policy (graph.statusesOf node)) ∧
    (status ≠ .Pending → status ≠ .SkippedUpstreamFailed → Permits node.dep_policy (graph.statusesOf node))

/-- Waiting tasks become ready or are skipped, and all others stay as they are. -/
structure Resolves (before after : TaskGraph) : Prop where
  reverse_adjacency : after.reverse_adjacency = before.reverse_adjacency
  nodes : ∀ id, after.get id = before.get id ∨ ∃ node, before.get id = some node ∧ node.status = .Pending ∧
    (after.get id = some { node with status := .Ready } ∨ after.get id = some { node with status := .SkippedUpstreamFailed })

theorem Resolves.refl (graph : TaskGraph) : Resolves graph graph := ⟨rfl,fun _ => .inl rfl⟩

/-- Two resolutions in turn are one. -/
theorem Resolves.trans {first second third : TaskGraph} (before : Resolves first second)
    (after : Resolves second third) :
    Resolves first third := by
  refine ⟨after.reverse_adjacency.trans before.reverse_adjacency,fun id => ?_⟩
  obtain same | ⟨node,held,pending,moved⟩ := before.nodes id
  · rw [← same]
    exact after.nodes id
  refine .inr ⟨node,held,pending,?_⟩
  obtain same | ⟨other,found,waits,_⟩ := after.nodes id
  · rwa [same]
  obtain moved | moved := moved
  · rw [moved] at found
    cases found
    cases waits
  · rw [moved] at found
    cases found
    cases waits

theorem Moved.resolves {before after : TaskGraph} {id : Nat} {status : TaskStatus}
    (moved : Moved before after id status none)
    (pending : before.status_of id = some .Pending) (way : status = .Ready ∨ status = .SkippedUpstreamFailed) :
    Resolves before after := by
  refine ⟨moved.reverse_adjacency,fun other => ?_⟩
  rw [moved.get]
  split
  next same =>
    subst same
    obtain ⟨node,held,waits⟩ := Option.map_eq_some_iff.mp pending
    refine .inr ⟨node,held,waits,?_⟩
    rw [held]
    obtain rfl | rfl := way
    · exact .inl rfl
    · exact .inr rfl
  next => exact .inl rfl

theorem Resolves.keeps {before after : TaskGraph} (resolves : Resolves before after) {id : Nat} {node : TaskNode}
    (held : before.get id = some node) (moved : node.status ≠ .Pending) : after.get id = some node := by
  obtain same | ⟨other,found,pending,_⟩ := resolves.nodes id
  · rw [same,held]
  · rw [held] at found
    cases found
    exact (moved pending).elim

/-- A resolution makes waiting tasks ready or skips them. -/
theorem Resolves.status_of {before after : TaskGraph} (resolves : Resolves before after) (id : Nat) :
    after.status_of id = before.status_of id ∨
      before.status_of id = some .Pending ∧
      (after.status_of id = some .Ready ∨ after.status_of id = some .SkippedUpstreamFailed) := by
  unfold TaskGraph.status_of
  obtain same | ⟨node,held,pending,moved⟩ := resolves.nodes id
  · exact .inl (by rw [same])
  · refine .inr ⟨by rw [held,Option.map_some,pending],?_⟩
    obtain moved | moved := moved
    · exact .inl (by rw [moved]; rfl)
    · exact .inr (by rw [moved]; rfl)

theorem Resolves.sticky {before after : TaskGraph} (resolves : Resolves before after) :
    Sticky before.status_of after.status_of := by
  intro id status held ended
  obtain same | ⟨pending,_⟩ := resolves.status_of id
  · rw [same,held]
  · rw [held] at pending
    cases pending
    cases ended

variable {graph : TaskGraph}

theorem isSome_status_of {id : Nat} : (graph.status_of id).isSome ↔ id < graph.nodes.length := by
  unfold status_of get
  simp

section
variable {nodes : List WorkflowNode} {before after : TaskGraph}

/-- What is known of a graph at any point of a resolution. -/
structure Sound (nodes : List WorkflowNode) (graph : TaskGraph) : Prop where
  consistent : Consistent nodes graph
  justified : Justified nodes graph

theorem Justified.same (justified : Justified nodes before) (same : SameTasks before after) :
    Justified nodes after := by
  have statuses : after.status_of = before.status_of := by
    funext id
    unfold status_of get
    rw [same.nodes]
  unfold Justified statusesOf
  rw [statuses]
  exact justified

theorem Sound.same (sound : Sound nodes before) (same : SameTasks before after) : Sound nodes after :=
  ⟨sound.consistent.same same,sound.justified.same same⟩

variable {node : WorkflowNode}

theorem Shaped.defined (shaped : Shaped nodes before) (placed : Placed nodes) {id : Nat}
    (declared : nodes[id]? = some node) :
    ∀ dep ∈ node.depends_on, (before.status_of dep).isSome := by
  intro dep member
  rw [isSome_status_of,shaped.length]
  refine (placed id dep ?_).1
  rwa [dependsOn_of_getElem? declared]

/-- A graph stays justified when states that have ended stay and each task that stopped waiting has
    the verdict of its policy. -/
theorem Justified.advance (justified : Justified nodes before) (shaped : Shaped nodes before) (placed : Placed nodes)
    (sticky : Sticky before.status_of after.status_of)
    (verdict : ∀ id node status, nodes[id]? = some node → after.status_of id = some status →
      (status = .SkippedUpstreamFailed → before.status_of id = some .SkippedUpstreamFailed ∨
        Forbids node.dep_policy (before.statusesOf node)) ∧
      (status ≠ .Pending → status ≠ .SkippedUpstreamFailed →
        (∃ held, before.status_of id = some held ∧ held ≠ .Pending ∧ held ≠ .SkippedUpstreamFailed) ∨
          Permits node.dep_policy (before.statusesOf node))) : Justified nodes after := by
  intro id node status declared stands
  obtain ⟨skipped,let_run⟩ := verdict id node status declared stands
  refine ⟨fun same => ?_,fun moved other => ?_⟩
  · obtain held | forbids := skipped same
    · exact ((justified id node _ declared held).1 rfl).sticky sticky
    · exact forbids.sticky sticky
  · obtain ⟨held,stood,moved,other⟩ | permits := let_run moved other
    · exact ((justified id node held declared stood).2 moved other).sticky sticky (shaped.defined placed declared)
    · exact permits.sticky sticky (shaped.defined placed declared)

/-- A waiting task moved on by the verdict of its policy. -/
theorem Justified.moved {id : Nat} {status : TaskStatus} (justified : Justified nodes before)
    (shaped : Shaped nodes before) (placed : Placed nodes) (moved : Moved before after id status none)
    (pending : before.status_of id = some .Pending) (declared : nodes[id]? = some node)
    (verdict : (status = .Ready ∧ Permits node.dep_policy (before.statusesOf node)) ∨
      (status = .SkippedUpstreamFailed ∧ Forbids node.dep_policy (before.statusesOf node))) : Justified nodes
      after := by
  have way : status = .Ready ∨ status = .SkippedUpstreamFailed := verdict.imp And.left And.left
  refine justified.advance shaped placed (moved.resolves pending way).sticky fun other declared_node held stands at_after => ?_
  rw [moved.status_of] at at_after
  by_cases same : other = id
  · subst same
    rw [if_pos rfl,pending] at at_after
    cases at_after
    rw [declared] at stands
    cases stands
    obtain ⟨rfl,permits⟩ | ⟨rfl,forbids⟩ := verdict
    · exact ⟨nofun,fun _ _ => .inr permits⟩
    · exact ⟨fun _ => .inr forbids,fun _ other => (other rfl).elim⟩
  · rw [if_neg same] at at_after
    exact ⟨fun same => .inl (same ▸ at_after),fun moved other => .inl ⟨held,at_after,moved,other⟩⟩

theorem Sound.moved {id : Nat} {status : TaskStatus} (sound : Sound nodes before) (placed : Placed nodes)
    (moved : Moved before after id status none) (pending : before.status_of id = some .Pending)
    (declared : nodes[id]? = some node)
    (verdict : (status = .Ready ∧ Permits node.dep_policy (before.statusesOf node)) ∨
      (status = .SkippedUpstreamFailed ∧ Forbids node.dep_policy (before.statusesOf node))) : Sound nodes after := by
  refine ⟨moved.consistent sound.consistent ?_ ?_,sound.justified.moved sound.consistent.toShaped placed moved pending declared verdict⟩
  · rw [pending]
    simp
  · obtain ⟨rfl,_⟩ | ⟨rfl,_⟩ := verdict <;> simp

end

/-! The rounds over the waiting tasks. -/

private theorem set_ready_moved {id : Nat} (pending : graph.status_of id = some .Pending) :
    Moved graph (graph.set_ready id) id .Ready none := by
  have value : graph.set_ready id = (graph.set_status id .Ready).enqueue_ready id := by
    unfold set_ready
    rw [pending]
  rw [value]
  exact ⟨rfl,rfl,rfl⟩

private theorem skip_upstream_failed_moved {id : Nat} (pending : graph.status_of id = some .Pending) :
    Moved graph (graph.skip_upstream_failed id) id .SkippedUpstreamFailed none := by
  refine ⟨?_,rfl,rfl⟩
  obtain ⟨node,held,waits⟩ := Option.map_eq_some_iff.mp pending
  refine ext_getElem? fun index => ?_
  unfold skip_upstream_failed settle
  rw [getElem?_modify,getElem?_modify]
  by_cases same : id = index
  · subst same
    rw [show graph.nodes[id]? = some node from held]
    simp [waits,TaskStatus.is_terminal]
  · simp [same]

/-- What the rounds ask of one task: it does not wait, or its policy has no verdict yet. -/
def Undecided (nodes : List WorkflowNode) (graph : TaskGraph) (id : Nat) : Prop :=
  ∀ node, nodes[id]? = some node → graph.status_of id = some .Pending →
    ¬Permits node.dep_policy (graph.statusesOf node) ∧ ¬Forbids node.dep_policy (graph.statusesOf node)

section
variable {nodes : List WorkflowNode}

variable {node : WorkflowNode}

private theorem resolve_node_declared {graph : TaskGraph} {id : Nat} (pending : graph.status_of id = some .Pending)
    (declared : nodes[id]? = some node) : resolve_node nodes graph id =
      match decided node.dep_policy (graph.statusesOf node) with
      | some .Ready => (graph.set_ready id,true)
      | some _ => (graph.skip_upstream_failed id,true)
      | none => (graph,false) := by
  unfold resolve_node
  rw [pending,declared]
  rfl

private theorem resolve_node_cases (nodes : List WorkflowNode) (graph : TaskGraph) (id : Nat) :
    (resolve_node nodes graph id = (graph,false) ∧ Undecided nodes graph id) ∨
      ∃ node status, nodes[id]? = some node ∧ graph.status_of id = some .Pending ∧
        ((status = .Ready ∧ Permits node.dep_policy (graph.statusesOf node)) ∨
          (status = .SkippedUpstreamFailed ∧ Forbids node.dep_policy (graph.statusesOf node))) ∧
        ∃ after, resolve_node nodes graph id = (after,true) ∧ Moved graph after id status none := by
  by_cases asked : graph.status_of id = some .Pending ∧ ∃ node, nodes[id]? = some node
  · obtain ⟨pending,node,declared⟩ := asked
    have value := resolve_node_declared pending declared
    obtain ⟨permits,decided⟩ | ⟨forbids,decided⟩ | ⟨waits,waits_also,decided⟩ := decided_eq node.dep_policy (graph.statusesOf node)
    · rw [decided] at value
      exact .inr ⟨node,.Ready,declared,pending,.inl ⟨rfl,permits⟩,_,value,set_ready_moved pending⟩
    · rw [decided] at value
      exact .inr ⟨node,.SkippedUpstreamFailed,declared,pending,.inr ⟨rfl,forbids⟩,_,value,skip_upstream_failed_moved pending⟩
    rw [decided] at value
    refine .inl ⟨value,fun other held _ => ?_⟩
    rw [declared] at held
    cases held
    exact ⟨waits,waits_also⟩
  refine .inl ⟨?_,fun node declared pending => (asked ⟨pending,node,declared⟩).elim⟩
  unfold resolve_node
  split
  next pending declared => exact (asked ⟨pending,_,declared⟩).elim
  next => rfl

/-- The tasks that wait, of those a run declares. -/
def waitingIds (nodes : List WorkflowNode) (graph : TaskGraph) : Finset Nat :=
  (Finset.range nodes.length).filter fun id => graph.status_of id = some .Pending

private theorem Resolves.waitingIds_subset {before after : TaskGraph} (resolves : Resolves before after) :
    after.waitingIds nodes ⊆ before.waitingIds nodes := by
  intro id member
  obtain ⟨inside,pending⟩ := Finset.mem_filter.mp member
  refine Finset.mem_filter.mpr ⟨inside,?_⟩
  obtain same | ⟨waits,_⟩ := resolves.status_of id
  · rwa [← same]
  · exact waits

private theorem Moved.waitingIds_ssubset {before after : TaskGraph} {id : Nat} {status : TaskStatus}
    (moved : Moved before after id status none) (declared : nodes[id]? = some node) (pending : before.status_of id = some .Pending)
    (way : status = .Ready ∨ status = .SkippedUpstreamFailed) : after.waitingIds nodes ⊂ before.waitingIds nodes := by
  refine Finset.ssubset_iff_subset_ne.mpr ⟨(moved.resolves pending way).waitingIds_subset,fun same => ?_⟩
  have inside : id ∈ before.waitingIds nodes :=
    Finset.mem_filter.mpr ⟨Finset.mem_range.mpr (List.getElem?_eq_some_iff.mp declared).1,pending⟩
  rw [← same] at inside
  have waits := (Finset.mem_filter.mp inside).2
  rw [moved.status_of,if_pos rfl,pending] at waits
  obtain rfl | rfl := way <;> cases waits

/-- What a pass over some tasks comes to: the graph is left alone and none of them is decided, or fewer
    tasks wait. -/
structure Passed (nodes : List WorkflowNode) (ids : List Nat) (before after : TaskGraph) (changed : Bool) : Prop where
  sound : Sound nodes before → Sound nodes after
  resolves : Resolves before after
  rested : changed = false → after = before ∧ ∀ id ∈ ids, Undecided nodes before id
  fewer : changed = true → after.waitingIds nodes ⊂ before.waitingIds nodes

private theorem pass_from (placed : Placed nodes) : ∀ (ids : List Nat) (graph : TaskGraph) (changed : Bool), ∃ moved after,
    ids.foldl (fun (graph,changed) node =>
      let (graph,moved) := resolve_node nodes graph node; (graph,changed || moved)) (graph,changed) = (after,changed || moved) ∧
    Passed nodes ids graph after moved := by
  intro ids
  induction ids with
  | nil => exact fun graph changed => ⟨false,graph,by simp,id,.refl graph,fun _ => ⟨rfl,nofun⟩,nofun⟩
  | cons id rest ih =>
  intro graph changed
  obtain ⟨value,waits⟩ | ⟨node,status,declared,pending,verdict,next,value,one⟩ := resolve_node_cases nodes graph id
  · obtain ⟨moved,after,result,passed⟩ := ih graph changed
    refine ⟨moved,after,?_,passed.sound,passed.resolves,fun still => ?_,passed.fewer⟩
    · simp only [foldl_cons,value,Bool.or_false]
      exact result
    · obtain ⟨same,others⟩ := passed.rested still
      exact ⟨same,forall_mem_cons.mpr ⟨waits,others⟩⟩
  have way : status = .Ready ∨ status = .SkippedUpstreamFailed := verdict.imp And.left And.left
  obtain ⟨moved,after,result,passed⟩ := ih next true
  refine ⟨true,after,?_,fun sound => ?_,(one.resolves pending way).trans passed.resolves,nofun,fun _ => ?_⟩
  · simp only [foldl_cons,value,Bool.or_true]
    exact result
  · exact passed.sound (sound.moved placed one pending declared verdict)
  · exact lt_of_le_of_lt passed.resolves.waitingIds_subset (one.waitingIds_ssubset declared pending way)

private theorem resolve_pass_passed (placed : Placed nodes) (graph : TaskGraph) :
    ∃ after changed, resolve_pass nodes graph = (after,changed) ∧ Passed nodes (List.range nodes.length) graph after changed := by
  obtain ⟨changed,after,result,passed⟩ := pass_from placed (range nodes.length) graph false
  rw [Bool.false_or] at result
  exact ⟨after,changed,result,passed⟩

/-- Enough rounds settle every node that waits. -/
theorem resolve_rounds_settles (placed : Placed nodes) :
    ∀ (fuel : Nat) (graph : TaskGraph), (graph.waitingIds nodes).card < fuel →
    (Sound nodes graph → Sound nodes (resolve_rounds nodes fuel graph)) ∧
      Resolves graph (resolve_rounds nodes fuel graph) ∧
      ∀ id, Undecided nodes (resolve_rounds nodes fuel graph) id := by
  intro fuel
  induction fuel with
  | zero => exact fun _ short => (Nat.not_lt_zero _ short).elim
  | succ fuel ih =>
  intro graph enough
  obtain ⟨after,changed,result,passed⟩ := resolve_pass_passed placed graph
  unfold resolve_rounds
  rw [result]
  cases changed with
  | true =>
    have fewer := Finset.card_lt_card (passed.fewer rfl)
    obtain ⟨sound,resolves,settled⟩ := ih after (by omega)
    exact ⟨fun before => sound (passed.sound before),passed.resolves.trans resolves,settled⟩
  | false =>
  obtain ⟨rfl,waits⟩ := passed.rested rfl
  refine ⟨id,.refl after,fun id node declared pending => ?_⟩
  exact waits id (List.mem_range.mpr (List.getElem?_eq_some_iff.mp declared).1) node declared pending

theorem waitingIds_card (nodes : List WorkflowNode) (graph : TaskGraph) :
    (graph.waitingIds nodes).card < nodes.length+1 := by
  have bound := Finset.card_filter_le (Finset.range nodes.length) fun id => graph.status_of id = some .Pending
  rw [Finset.card_range] at bound
  exact Nat.lt_succ_of_le bound

end

end TaskGraph

end Deepstrike.Orchestration

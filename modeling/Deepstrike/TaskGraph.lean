import Deepstrike.Kahn
import Deepstrike.Vocabulary

/-!
The graph of tasks a workflow runs over, the declarative spec it is built from, and the run itself:
which nodes are ready, spawned and settled. Indices into the nodes are positions of lists.
-/
namespace Deepstrike.Orchestration
open Wire Vocabulary List

inductive TaskStatus where
  | Pending | Ready | Running | Completed | CompletedPartial | Failed | SkippedUpstreamFailed
  deriving DecidableEq,Repr

def TaskStatus.is_terminal : TaskStatus → Bool
  | .Completed | .CompletedPartial | .Failed | .SkippedUpstreamFailed => true
  | .Pending | .Ready | .Running => false

structure TaskNode where
  id : Nat
  task : String
  status : TaskStatus
  result : Option LoopResult
  dependencies : List Nat
  deriving DecidableEq,Repr

structure SchedulingFactors where
  deadline_urgency : Nat
  process_priority : Nat
  resource_pressure : Nat
  budget_pressure : Nat
  deriving DecidableEq,Repr

structure SchedulingMetadata where
  critical_path_remaining : Nat
  downstream_fanout : Nat
  token_cost : Nat
  factors : SchedulingFactors
  deriving DecidableEq,Repr

structure SchedulerPolicyConfig where
  critical_path_weight : Int
  fanout_weight : Int
  age_weight : Int
  token_cost_weight : Int
  deadline_weight : Int
  process_priority_weight : Int
  resource_pressure_weight : Int
  budget_pressure_weight : Int
  deriving DecidableEq,Repr

def SchedulingFactors.default : SchedulingFactors := ⟨0,0,0,0⟩
def SchedulingMetadata.default : SchedulingMetadata := ⟨0,0,0,.default⟩
def SchedulerPolicyConfig.default : SchedulerPolicyConfig := ⟨1000000,10000,1000,1,0,0,0,0⟩

structure ReadyEntry where
  priority : Int
  enqueue_sequence : Nat
  node_id : Nat
  generation : Nat
  deriving DecidableEq,Repr

/-- The order in which the heap gives its entries out: the higher priority, then the earlier one. -/
def ReadyEntry.before (left right : ReadyEntry) : Bool :=
  decide (right.priority < left.priority) || (left.priority == right.priority &&
    (decide (left.enqueue_sequence < right.enqueue_sequence) || (left.enqueue_sequence == right.enqueue_sequence &&
      decide (left.node_id ≤ right.node_id))))

structure TaskGraph where
  nodes : List TaskNode
  in_degree : List Nat
  reverse_adjacency : List (List Nat)
  ready_heap : List ReadyEntry
  ready_generation : List Nat
  enqueued_round : List Nat
  enqueue_sequence : Nat
  ready_round : Nat
  scheduling : List SchedulingMetadata
  scheduler_policy : SchedulerPolicyConfig
  deriving DecidableEq,Repr

inductive DeepStrikeError where
  | OrchestrationCycle
  | InvalidConfig (message : String)
  deriving DecidableEq,Repr

def saturating_succ (value : Nat) : Nat := min (value+1) (2 ^ 64 - 1)

/-- `Vec::resize_with` for rows that start empty: a shorter length cuts rows off. -/
def resize_rows (rows : List (List Nat)) (length : Nat) : List (List Nat) :=
  rows.take length ++ replicate (length - rows.length) []

namespace TaskGraph

def new : TaskGraph := ⟨[],[],[],[],[],[],0,0,[],.default⟩

variable (graph : TaskGraph) (task_id : Nat)

def get : Option TaskNode := graph.nodes[task_id]?
def len : Nat := graph.nodes.length
def all_done : Bool := graph.nodes.all fun node => node.status.is_terminal
def status_of : Option TaskStatus := (graph.get task_id).map TaskNode.status

def push_ready_entry : TaskGraph :=
  let metadata := graph.scheduling[task_id]?.getD .default
  let policy := graph.scheduler_policy
  let priority : Int := policy.critical_path_weight*metadata.critical_path_remaining+policy.fanout_weight*metadata.downstream_fanout
    - policy.age_weight*(graph.enqueued_round[task_id]?.getD 0) - policy.token_cost_weight*metadata.token_cost
    + policy.deadline_weight*metadata.factors.deadline_urgency+policy.process_priority_weight*metadata.factors.process_priority
    + policy.resource_pressure_weight*metadata.factors.resource_pressure+policy.budget_pressure_weight*metadata.factors.budget_pressure
  { graph with
    ready_heap := graph.ready_heap ++ [⟨priority,graph.enqueue_sequence,task_id,graph.ready_generation[task_id]?.getD 0⟩] }

def enqueue_ready : TaskGraph :=
  { graph with
    ready_generation := graph.ready_generation.modify task_id saturating_succ
    enqueued_round := graph.enqueued_round.modify task_id fun _ => graph.ready_round
    enqueue_sequence := saturating_succ graph.enqueue_sequence }.push_ready_entry task_id

/-- The row length an insertion asks for: room for the new node and for all it depends on. -/
def row_count (id : Nat) (dependencies : List Nat) : Nat := max (dependencies.max?.getD id) id+1

/-- Add a task under the next id. Duplicate dependencies collapse. -/
def add (task : String) (dependencies : List Nat) : TaskGraph :=
  let dependencies := dependencies.eraseDups
  let id := graph.nodes.length
  let deg := dependencies.length
  let resized := resize_rows graph.reverse_adjacency (row_count id dependencies)
  let added := { graph with
    reverse_adjacency := dependencies.foldl (fun rows dependency => rows.modify dependency (· ++ [id])) resized
    nodes := graph.nodes ++ [⟨id,task,if deg = 0 then .Ready else .Pending,none,dependencies⟩]
    in_degree := graph.in_degree ++ [deg]
    ready_generation := graph.ready_generation ++ [0]
    enqueued_round := graph.enqueued_round ++ [graph.ready_round]
    scheduling := graph.scheduling ++ [.default] }
  if deg = 0 then added.enqueue_ready id else added

def dependents (id : Nat) : List Nat := graph.reverse_adjacency[id]?.getD []

/-- The ids in dependency order, or the error of a cycle. -/
def topological_sort : Except DeepStrikeError (List Nat) :=
  let order := Kahn.takenFrom (graph.nodes.map fun node => node.dependencies.length) graph.dependents
  if order.length ≠ graph.nodes.length then .error .OrchestrationCycle else .ok order

/-- The ready tasks in priority order; stale entries of the heap are dropped. -/
def ready_tasks : List Nat × TaskGraph :=
  let valid := (graph.ready_heap.mergeSort ReadyEntry.before).filter fun entry =>
    graph.status_of entry.node_id == some .Ready && graph.ready_generation[entry.node_id]? == some entry.generation
  (valid.map ReadyEntry.node_id,{ graph with ready_heap := valid, ready_round := saturating_succ graph.ready_round })

def set_status (status : TaskStatus) : TaskGraph :=
  { graph with nodes := graph.nodes.modify task_id fun node => { node with status } }

def start : TaskGraph := graph.set_status task_id .Running

def set_ready : TaskGraph :=
  match graph.status_of task_id with
  | none | some .Ready => graph
  | some _ => (graph.set_status task_id .Ready).enqueue_ready task_id

/-- A terminal state is written once. -/
def settle (status : TaskStatus) (result : Option LoopResult) : TaskGraph :=
  { graph with nodes := graph.nodes.modify task_id fun node =>
    if node.status.is_terminal then node else { node with status, result := result.or node.result } }

/-- A dependent loses one dependency, and is promoted when it has none left. -/
def promote (dep_id : Nat) : TaskGraph :=
  let graph := { graph with in_degree := graph.in_degree.modify dep_id (· - 1) }
  if graph.in_degree[dep_id]? = some 0 ∧ graph.status_of dep_id = some .Pending then
    (graph.set_status dep_id .Ready).enqueue_ready dep_id
  else graph

def complete (result : LoopResult) : TaskGraph :=
  match graph.status_of task_id with
  | none => graph
  | some status =>
    if status.is_terminal then graph
    else (graph.dependents task_id).foldl promote (graph.settle task_id .Completed (some result))

def complete_partial (result : LoopResult) : TaskGraph :=
  graph.settle task_id .CompletedPartial (some result)
def fail : TaskGraph := graph.settle task_id .Failed none
def fail_with_result (result : LoopResult) : TaskGraph :=
  graph.settle task_id .Failed (some result)
def skip_upstream_failed : TaskGraph := graph.settle task_id .SkippedUpstreamFailed none

/-- Put the node states of a checkpoint into a validated graph; what is derived is built anew. -/
def restore_runtime_state (states : List (TaskStatus × Option LoopResult)) : Except String TaskGraph :=
  if states.length ≠ graph.nodes.length then
    .error s!"workflow checkpoint carries {states.length} node states for a {graph.nodes.length} node graph"
  else
    let nodes := graph.nodes.zipWith (fun node (status,result) => { node with status, result }) states
    let restored := { graph with nodes }
    let residual := nodes.map fun node =>
      (node.dependencies.filter fun dependency => decide (restored.status_of dependency ≠ some .Completed)).length
    let cleared := { restored with
      in_degree := residual
      ready_heap := []
      ready_generation := graph.ready_generation.map fun _ => 0
      enqueued_round := graph.enqueued_round.map fun _ => 0
      enqueue_sequence := 0
      ready_round := 0 }
    .ok ((range nodes.length).foldl (fun graph id => if graph.status_of id = some .Ready then graph.enqueue_ready id else graph) cleared)

def rebuild_ready_heap : TaskGraph :=
  (range graph.nodes.length).foldl
    (fun graph id => if graph.status_of id = some .Ready then graph.push_ready_entry id else graph) { graph with ready_heap := [] }

/-- The critical path and the fanout of one node, from those of its dependents. -/
def measure_node (token_costs : List Nat) (factors : List SchedulingFactors) (reachable : List (List Nat)) (node : Nat) :
    TaskGraph × List (List Nat) :=
  let children := graph.dependents node
  let critical := children.foldl
    (fun critical child => max critical (1+(graph.scheduling[child]?.getD .default).critical_path_remaining)) 1
  let reached := children.foldl
    (fun reached child => (reachable[child]?.getD []).foldl (fun reached id => reached.insert id) (reached.insert child))
    (reachable[node]?.getD [])
  ({ graph with
      scheduling := graph.scheduling.set node ⟨critical,reached.length,token_costs[node]?.getD 0,factors[node]?.getD .default⟩ },
    reachable.set node reached)

def configure_scheduling_with_factors (policy : SchedulerPolicyConfig) (token_costs : List Nat)
    (factors : List SchedulingFactors) : TaskGraph :=
  let graph := { graph with scheduler_policy := policy }
  let order := match graph.topological_sort with
    | .ok order => order
    | .error _ => range graph.nodes.length
  let (measured,_) := order.reverse.foldl (fun (graph,reachable) node => graph.measure_node token_costs factors reachable node)
    (graph,replicate graph.nodes.length [])
  measured.rebuild_ready_heap

end TaskGraph

inductive NodeTrust where
  | Trusted | Quarantined
  deriving DecidableEq,Repr

inductive AgentIsolation where
  | Shared | ReadOnly | Worktree | Remote
  deriving DecidableEq,Repr

inductive DependencyPolicy where
  | AllSuccess | AcceptPartial | AllTerminal | Optional
  deriving DecidableEq,Repr

/-- A node of a workflow, with the contract fields the run reads. -/
structure WorkflowNode where
  task : String
  isolation : AgentIsolation
  trust : NodeTrust
  token_budget : Option Nat
  dep_policy : DependencyPolicy
  depends_on : List Nat
  scheduling_factors : SchedulingFactors
  deriving DecidableEq,Repr

structure WorkflowSpec where
  nodes : List WorkflowNode
  deriving DecidableEq,Repr

namespace WorkflowSpec

/-- The first dependency of a node that is out of range or the node itself. -/
def misplaced (count : Nat) (index : Nat) (depends_on : List Nat) : Option DeepStrikeError :=
  depends_on.findSome? fun dep =>
    if count ≤ dep then some (.InvalidConfig s!"node {index} depends on out-of-range node {dep} (have {count})")
    else if dep = index then some (.InvalidConfig s!"node {index} depends on itself")
    else none

/-- Lower into a graph; the order of the nodes gives their ids. -/
def to_task_graph (spec : WorkflowSpec) : Except DeepStrikeError TaskGraph :=
  spec.nodes.foldlM (fun graph node =>
    match node.depends_on.find? fun dep => decide (spec.nodes.length ≤ dep) with
    | some bad => .error (.InvalidConfig s!"dependency index {bad} out of range (have {spec.nodes.length})")
    | none => .ok (graph.add node.task node.depends_on)) TaskGraph.new

/-- Dependencies are in range and the graph is acyclic. -/
def validate (spec : WorkflowSpec) : Except DeepStrikeError TaskGraph :=
  match spec.nodes.zipIdx.findSome? fun (node,index) => misplaced spec.nodes.length index node.depends_on with
  | some error => .error error
  | none => do
    let graph ← spec.to_task_graph
    let _ ← graph.topological_sort
    .ok graph

end WorkflowSpec

structure WorkflowSubmissionError where
  node_index : Nat
  reason : String
  deriving DecidableEq,Repr

inductive WorkflowNodeStatus where
  | Completed | CompletedPartial | Failed | SkippedUpstreamFailed
  deriving DecidableEq,Repr

structure WorkflowNodeOutcome where
  node_id : String
  status : WorkflowNodeStatus
  termination : Option TerminationReason
  output : Option CoreMessage
  deriving DecidableEq,Repr

/-- What a checkpoint keeps of a node of a run. -/
structure WorkflowRuntimeNodeState where
  status : TaskStatus
  result : Option LoopResult
  active_agent_id : Option String
  deriving DecidableEq,Repr

structure WorkflowRun where
  graph : TaskGraph
  nodes : List WorkflowNode
  scheduler_policy : SchedulerPolicyConfig
  node_of_agent : OrdMap Nat

namespace WorkflowRun

variable (run : WorkflowRun)

def refresh_scheduling : WorkflowRun :=
  { run with
    graph := run.graph.configure_scheduling_with_factors run.scheduler_policy (run.nodes.map fun node => node.token_budget.getD 0)
      (run.nodes.map WorkflowNode.scheduling_factors) }

/-- What a policy makes of the states of the dependencies: a node is skipped, ready, or waits on. -/
def decided (policy : DependencyPolicy) (statuses : List TaskStatus) : Option TaskStatus :=
  let impossible := match policy with
    | .AllSuccess => statuses.any ([TaskStatus.CompletedPartial,.Failed,.SkippedUpstreamFailed].contains ·)
    | .AcceptPartial => statuses.any ([TaskStatus.Failed,.SkippedUpstreamFailed].contains ·)
    | .AllTerminal | .Optional => false
  if policy = .Optional then some .Ready
  else if impossible then some .SkippedUpstreamFailed
  else if statuses.all TaskStatus.is_terminal then some .Ready
  else none

variable (nodes : List WorkflowNode)

/-- One node of a pass, and whether it changed. -/
def resolve_node (graph : TaskGraph) (node : Nat) : TaskGraph × Bool :=
  match graph.status_of node,nodes[node]? with
  | some .Pending,some declared =>
    match decided declared.dep_policy (declared.depends_on.filterMap graph.status_of) with
    | some .Ready => (graph.set_ready node,true)
    | some _ => (graph.skip_upstream_failed node,true)
    | none => (graph,false)
  | _,_ => (graph,false)

def resolve_pass (graph : TaskGraph) : TaskGraph × Bool :=
  (range nodes.length).foldl
    (fun (graph,changed) node => let (graph,moved) := resolve_node nodes graph node; (graph,changed || moved)) (graph,false)

/-- Passes until nothing changes. Every changing pass settles a pending node, so there is one round
    for each. -/
def resolve_rounds (nodes : List WorkflowNode) : Nat → TaskGraph → TaskGraph
  | 0,graph => graph
  | fuel+1,graph =>
    match resolve_pass nodes graph with
    | (graph,true) => resolve_rounds nodes fuel graph
    | (graph,false) => graph

def resolve_dependency_outcomes : WorkflowRun :=
  { run with graph := resolve_rounds run.nodes (run.nodes.length+1) run.graph }

def new (spec : WorkflowSpec) : Except DeepStrikeError WorkflowRun := do
  let graph ← spec.validate
  .ok (WorkflowRun.mk graph spec.nodes .default ∅).refresh_scheduling.resolve_dependency_outcomes

/-- The agents of the running nodes of a checkpoint. -/
def restore_agents : Nat → List WorkflowRuntimeNodeState → OrdMap Nat → Except DeepStrikeError (OrdMap Nat)
  | _,[],agents => .ok agents
  | node,state :: rest,agents =>
    match state.status,state.active_agent_id with
    | .Running,some agent_id => restore_agents (node+1) rest (agents.insert agent_id node)
    | .Running,none => .error (.InvalidConfig s!"running workflow node {node} carries no active agent id")
    | _,some agent_id => .error (.InvalidConfig s!"non-running workflow node {node} carries active agent id {repr agent_id}")
    | _,none => restore_agents (node+1) rest agents

def restore_from_checkpoint (spec : WorkflowSpec) (states : List WorkflowRuntimeNodeState) : Except DeepStrikeError WorkflowRun := do
  let run ← new spec
  let graph ← (run.graph.restore_runtime_state (states.map fun state => (state.status,state.result))).mapError .InvalidConfig
  let agents ← restore_agents 0 states run.node_of_agent
  .ok { run with graph, node_of_agent := agents }.refresh_scheduling

def ready_batch : List Nat × WorkflowRun :=
  let (ready,graph) := run.graph.ready_tasks
  (ready,{ run with graph })

def set_scheduler_policy (policy : SchedulerPolicyConfig) : WorkflowRun :=
  { run with scheduler_policy := policy }.refresh_scheduling

def mark_spawned (node : Nat) (agent_id : String) : WorkflowRun :=
  { run with graph := run.graph.start node, node_of_agent := run.node_of_agent.insert agent_id node }

def mark_denied (node : Nat) : WorkflowRun :=
  { run with graph := run.graph.fail node }.resolve_dependency_outcomes

def mark_spawn_failed (agent_id : String) : Option Nat × WorkflowRun :=
  match run.node_of_agent[agent_id]? with
  | none => (none,run)
  | some node =>
    (some node,{ run with node_of_agent := run.node_of_agent.erase agent_id, graph := run.graph.fail node }.resolve_dependency_outcomes)

def settle_result (node : Nat) (result : LoopResult) : WorkflowRun :=
  let graph := match result.termination with
    | .Completed => run.graph.complete node result
    | .MaxTurns | .TokenBudget | .Timeout | .MilestoneExceeded | .ContextOverflow | .NoProgress => run.graph.complete_partial node result
    | .Error | .UserAbort => run.graph.fail_with_result node result
  { run with graph }.resolve_dependency_outcomes

def record_completion (agent_id : String) (result : LoopResult) : Option Nat × WorkflowRun :=
  match run.node_of_agent[agent_id]? with
  | none => (none,run)
  | some node => (some node,run.settle_result node result)

/-- The first dependency of a batch that is out of its range or its own node. -/
def submission_error (batch_len : Nat) (node_index : Nat) (depends_on : List Nat) : Option WorkflowSubmissionError :=
  depends_on.findSome? fun dependency =>
    if batch_len ≤ dependency then
      some ⟨node_index,s!"dependency {dependency} out of range for batch of {batch_len} nodes"⟩
    else if dependency = node_index then some ⟨node_index,"node depends on itself"⟩
    else none

/-- Append a batch to the graph in flight; its dependencies are relative to the batch. -/
def submit_nodes : Except WorkflowSubmissionError (List Nat) × WorkflowRun :=
  let base := run.nodes.length
  match nodes.zipIdx.findSome? fun (node,index) => submission_error nodes.length index node.depends_on with
  | some error => (.error error,run)
  | none =>
    match (WorkflowSpec.mk nodes).validate with
    | .error _ => (.error ⟨0,"submission introduces a dependency cycle"⟩,run)
    | .ok _ =>
      let placed := nodes.map fun node => { node with depends_on := node.depends_on.map (base+·) }
      let graph := placed.foldl (fun graph node => graph.add node.task node.depends_on) run.graph
      (.ok (range' run.graph.nodes.length placed.length),
        { run with graph, nodes := run.nodes ++ placed }.refresh_scheduling.resolve_dependency_outcomes)

def node_agent_id (node : Nat) : String := s!"wf-node{node}"

/-- The outcomes of the settled nodes. -/
def node_outcomes : List WorkflowNodeOutcome :=
  run.graph.nodes.zipIdx.filterMap fun (graph_node,node) =>
    let outcome := fun status => some ⟨node_agent_id node,status,graph_node.result.map LoopResult.termination,
      graph_node.result.bind LoopResult.final_message⟩
    match graph_node.status with
    | .Completed => outcome .Completed
    | .CompletedPartial => outcome .CompletedPartial
    | .Failed => outcome .Failed
    | .SkippedUpstreamFailed => outcome .SkippedUpstreamFailed
    | .Pending | .Ready | .Running => none

/-- Close a workflow: each node gets a terminal state. -/
def finish : List WorkflowNodeOutcome × WorkflowRun :=
  let graph := (range run.graph.len).foldl (fun graph node =>
    match graph.status_of node with
    | some .Pending | some .Ready => graph.skip_upstream_failed node
    | some .Running => graph.fail node
    | _ => graph) run.graph
  let run := { run with graph }
  (run.node_outcomes,run)

def is_agent_quarantined (agent_id : String) : Bool :=
  match run.node_of_agent[agent_id]? with
  | some node => run.nodes[node]?.any fun node => node.trust == .Quarantined
  | none => false

/-- What a quarantined submitter asks for is quarantined with it. -/
def submit_nodes_from (submitter : Option String) (nodes : List WorkflowNode) :
    Except WorkflowSubmissionError (List Nat) × WorkflowRun :=
  let nodes := if submitter.any run.is_agent_quarantined then nodes.map fun node => { node with trust := .Quarantined } else nodes
  run.submit_nodes nodes

end WorkflowRun

end Deepstrike.Orchestration

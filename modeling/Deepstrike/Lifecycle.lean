import Deepstrike.Promoting

/-!
A run over its whole life: which nodes wait, which may run and which never will is said by their
policies in every state the run can reach, what has ended stays, and a run that stands still is done.
-/
namespace Deepstrike.Orchestration
open Wire Vocabulary List TaskGraph WorkflowRun

private theorem node_agent_id_injective {left right : Nat} (same : node_agent_id left = node_agent_id right) : left = right := by
  unfold node_agent_id at same
  have chars := congrArg String.toList same
  simp only [String.toList_append,ToString.toString] at chars
  have digits : Nat.toDigits 10 left = Nat.toDigits 10 right := by
    simpa [Nat.repr] using append_cancel_left chars
  rw [← Nat.ofDigitChars_ten_toDigits (n := left),digits,Nat.ofDigitChars_ten_toDigits]

namespace WorkflowRun

/-- The states a run stands in between two calls. -/
structure Orderly (run : WorkflowRun) : Prop where
  formed : WellFormed run.nodes
  sound : TaskGraph.Sound run.nodes run.graph
  undecided : ∀ id, TaskGraph.Undecided run.nodes run.graph id
  assigned : ∀ (agent_id : String) (node : Nat), run.node_of_agent[agent_id]? = some node →
    ∃ status, run.graph.status_of node = some status ∧ status ≠ .Pending ∧ status ≠ .Ready

/-- The calls on a run. A node is spawned when it is ready (or runs already), and one that waits is not
    denied: both are asked of the nodes of a ready batch. -/
inductive Advances (run : WorkflowRun) : WorkflowRun → Prop where
  | ready_batch : Advances run run.ready_batch.2
  | set_scheduler_policy (policy : SchedulerPolicyConfig) : Advances run (run.set_scheduler_policy policy)
  | mark_spawned (node : Nat) (agent_id : String)
    (offered : run.graph.status_of node = some .Ready ∨ run.graph.status_of node = some .Running) :
    Advances run (run.mark_spawned node agent_id)
  | mark_denied (node : Nat) (offered : run.graph.status_of node ≠ some .Pending) : Advances run (run.mark_denied node)
  | mark_spawn_failed (agent_id : String) : Advances run (run.mark_spawn_failed agent_id).2
  | record_completion (agent_id : String) (result : LoopResult) : Advances run (run.record_completion agent_id result).2
  | submit_nodes (batch : List WorkflowNode) : Advances run (run.submit_nodes batch).2
  | submit_nodes_from (submitter : Option String) (batch : List WorkflowNode) : Advances run (run.submit_nodes_from submitter batch).2

section
variable {run : WorkflowRun}

theorem Orderly.placed (orderly : Orderly run) : Placed run.nodes := ((wellFormed_iff run.nodes).mp orderly.formed).1

private theorem refresh_scheduling_same (run : WorkflowRun) : TaskGraph.SameTasks run.graph run.refresh_scheduling.graph :=
  configure_scheduling_same ..

private theorem resolved (run : WorkflowRun) (placed : Placed run.nodes) (sound : TaskGraph.Sound run.nodes run.graph) :
    TaskGraph.Sound run.nodes run.resolve_dependency_outcomes.graph ∧
      TaskGraph.Resolves run.graph run.resolve_dependency_outcomes.graph ∧
      ∀ id, TaskGraph.Undecided run.nodes run.resolve_dependency_outcomes.graph id := by
  obtain ⟨kept,resolves,undecided⟩ :=
    resolve_rounds_settles placed (run.nodes.length+1) run.graph (waitingIds_card run.nodes run.graph)
  exact ⟨kept sound,resolves,undecided⟩

variable {graph : TaskGraph} {spec : WorkflowSpec}

theorem Orderly.ended (orderly : Orderly run) (ends : TaskGraph.Ends run.nodes run.graph graph) (agents : OrdMap Nat)
    (known : ∀ (agent_id : String) (node : Nat), agents[agent_id]? = some node →
    run.node_of_agent[agent_id]? = some node) :
    Orderly { run with graph, node_of_agent := agents }.resolve_dependency_outcomes ∧
      TaskGraph.Progress run.graph { run with graph, node_of_agent := agents }.resolve_dependency_outcomes.graph := by
  obtain ⟨sound,resolves,undecided⟩ := resolved { run with graph, node_of_agent := agents } orderly.placed ends.1
  have progress := ends.2 _ resolves
  refine ⟨⟨orderly.formed,sound,undecided,fun agent_id node held => ?_⟩,progress⟩
  obtain ⟨status,stands,moved,started⟩ := orderly.assigned agent_id node (known agent_id node held)
  exact progress.started node status stands moved started

theorem Orderly.same (orderly : Orderly run) (same : TaskGraph.SameTasks run.graph graph)
    (policy : SchedulerPolicyConfig) :
    Orderly { run with graph, scheduler_policy := policy } := by
  have statuses : graph.status_of = run.graph.status_of := by
    funext id
    unfold TaskGraph.status_of TaskGraph.get
    rw [same.nodes]
  refine ⟨orderly.formed,orderly.sound.same same,fun id => ?_,fun agent_id node held => ?_⟩
  · unfold TaskGraph.Undecided statusesOf
    rw [statuses]
    exact orderly.undecided id
  · rw [statuses]
    exact orderly.assigned agent_id node held

/-- A batch is refused and changes nothing, or is appended whole. -/
theorem submit_nodes_cases (run : WorkflowRun) (batch : List WorkflowNode) :
    (run.submit_nodes batch).2 = run ∨
      Sheltered batch ∧ WellFormed batch ∧ (run.submit_nodes batch).2 =
        { run with graph := run.graph.appended (shifted run.nodes.length batch), nodes :=
        run.nodes ++ shifted run.nodes.length batch
          }.refresh_scheduling.resolve_dependency_outcomes := by
  unfold submit_nodes
  dsimp only
  split
  next => exact .inl rfl
  next =>
  cases validated : (WorkflowSpec.mk batch).validate with
  | error error => exact .inl rfl
  | ok graph =>
  obtain ⟨formed,sheltered⟩ := (validate_iff ⟨batch⟩).mp ⟨graph,validated⟩
  exact .inr ⟨sheltered,formed,rfl⟩

/-- A submission keeps the run orderly, and is progress. -/
theorem Orderly.submitted (orderly : Orderly run) (batch : List WorkflowNode) :
    Orderly (run.submit_nodes batch).2 ∧ TaskGraph.Progress run.graph (run.submit_nodes batch).2.graph := by
  obtain same | ⟨sheltered,own,grown⟩ := submit_nodes_cases run batch
  · rw [same]
    exact ⟨orderly,.refl run.graph⟩
  rw [grown]
  have formed : WellFormed (run.nodes ++ shifted run.nodes.length batch) := (wellFormed_grown orderly.formed).mpr own
  have placed := ((wellFormed_iff _).mp formed).1
  have sound := orderly.sound.appended orderly.placed sheltered
  have same := refresh_scheduling_same { run with graph := run.graph.appended (shifted run.nodes.length batch),
                                                  nodes := run.nodes ++ shifted run.nodes.length batch }
  obtain ⟨sound,resolves,undecided⟩ := resolved { run with graph := run.graph.appended (shifted run.nodes.length batch),
                                                           nodes := run.nodes ++ shifted run.nodes.length batch
                                                           }.refresh_scheduling placed (sound.same same)
  have progress := ((appended_progress run.graph _).trans_resolves (same.resolves.trans resolves))
  refine ⟨⟨formed,sound,undecided,fun agent_id node held => ?_⟩,progress⟩
  obtain ⟨status,stands,moved,started⟩ := orderly.assigned agent_id node held
  exact progress.started node status stands moved started

/-- A node that may run is started; nothing else is decided by it. -/
theorem Orderly.spawned (orderly : Orderly run) {node : Nat} (agent_id : String)
    (offered : run.graph.status_of node = some .Ready ∨ run.graph.status_of node = some .Running) :
    Orderly (run.mark_spawned node agent_id) ∧ TaskGraph.Progress run.graph (run.mark_spawned node agent_id).graph := by
  have moved := start_moved run.graph node
  obtain ⟨held,stands,open_before,let_run⟩ : ∃ held, run.graph.status_of node = some held ∧ held.is_terminal = false ∧ held ≠ .Pending := by
    obtain stands | stands := offered
    · exact ⟨_,stands,rfl,by simp⟩
    · exact ⟨_,stands,rfl,by simp⟩
  have started : (run.graph.start node).status_of node = some .Running := by
    rw [moved.status_of,if_pos rfl,stands]
    rfl
  have progress := moved.progress stands open_before let_run ⟨by simp,by simp⟩ (.refl _)
  have back : Sticky (run.graph.start node).status_of run.graph.status_of := by
    intro id status at_after ended
    rw [moved.status_of] at at_after
    by_cases same : id = node
    · subst same
      rw [if_pos rfl,stands] at at_after
      cases at_after
      cases ended
    · rwa [if_neg same] at at_after
  have sound := orderly.sound.ran orderly.placed moved stands open_before let_run (by simp) (by simp)
  refine ⟨⟨orderly.formed,sound,fun id declared held_node waits => ?_,fun agent other held => ?_⟩,progress⟩
  · have waited : run.graph.status_of id = some .Pending := by
      have at_after := moved.status_of id
      by_cases same : id = node
      · subst same
        rw [show (run.graph.start id).status_of id = some .Pending from waits] at started
        cases started
      · rw [if_neg same] at at_after
        exact at_after.symm.trans waits
    obtain ⟨not_permitted,not_forbidden⟩ := orderly.undecided id declared held_node waited
    refine ⟨fun permits => not_permitted ?_,fun forbids => not_forbidden (forbids.sticky back)⟩
    exact permits.sticky back (sound.consistent.defined orderly.placed held_node)
  have listed : (run.node_of_agent.insert agent_id node)[agent]? = some other := held
  rw [Std.ExtTreeMap.getElem?_insert] at listed
  split at listed
  · cases listed
    exact ⟨_,started,by simp,by simp⟩
  · obtain ⟨status,stood,moved_on,begun⟩ := orderly.assigned agent other listed
    exact progress.started other status stood moved_on begun

/-- A step keeps a run in order. -/
theorem Orderly.advances {next : WorkflowRun} (orderly : Orderly run) (step : Advances run next) :
    Orderly next ∧ TaskGraph.Progress run.graph next.graph := by
  have placed := orderly.placed
  have known : ∀ (agent_id : String) (node : Nat), run.node_of_agent[agent_id]? = some node → run.graph.status_of node ≠ some .Pending := by
    intro agent_id node held pending
    obtain ⟨status,stands,moved,_⟩ := orderly.assigned agent_id node held
    rw [pending] at stands
    cases stands
    exact moved rfl
  cases step with
  | ready_batch =>
    have same := ready_tasks_same run.graph
    exact ⟨orderly.same same run.scheduler_policy,same.resolves.progress⟩
  | set_scheduler_policy policy =>
    have same := refresh_scheduling_same { run with scheduler_policy := policy }
    exact ⟨orderly.same same policy,same.resolves.progress⟩
  | mark_spawned node agent_id offered => exact orderly.spawned agent_id offered
  | mark_denied node offered =>
    exact orderly.ended (orderly.sound.settle placed offered .Failed none (.inr rfl)) run.node_of_agent fun _ _ held => held
  | mark_spawn_failed agent_id =>
    unfold mark_spawn_failed
    split
    next => exact ⟨orderly,.refl run.graph⟩
    next node held =>
    refine orderly.ended (orderly.sound.settle placed (known agent_id node held) .Failed none (.inr rfl)) _ fun agent other found => ?_
    rw [Std.ExtTreeMap.getElem?_erase] at found
    split at found
    · cases found
    · exact found
  | record_completion agent_id result =>
    unfold record_completion
    split
    next => exact ⟨orderly,.refl run.graph⟩
    next node held =>
    have let_run := known agent_id node held
    refine orderly.ended ?_ run.node_of_agent fun _ _ held => held
    cases result.termination with
    | Completed => exact orderly.sound.complete placed let_run result
    | MaxTurns | TokenBudget | Timeout | MilestoneExceeded | ContextOverflow | NoProgress =>
      exact orderly.sound.settle placed let_run .CompletedPartial (some result) (.inl rfl)
    | Error | UserAbort => exact orderly.sound.settle placed let_run .Failed (some result) (.inr rfl)
  | submit_nodes batch => exact orderly.submitted batch
  | submit_nodes_from submitter batch => exact orderly.submitted _

/-- The nodes of a spec are a batch behind none. -/
theorem new_orderly {first : WorkflowRun} (made : new spec = .ok first) : Orderly first := by
  unfold new at made
  cases validated : spec.validate with
  | error error =>
    rw [validated] at made
    cases made
  | ok graph =>
  rw [validated] at made
  cases made
  obtain ⟨formed,sheltered⟩ := (validate_iff spec).mp ⟨graph,validated⟩
  have placed := ((wellFormed_iff spec.nodes).mp formed).1
  have sound : TaskGraph.Sound spec.nodes graph := by
    have none_yet : TaskGraph.Sound [] TaskGraph.new := by
      refine ⟨⟨⟨rfl,fun dep id => ?_,fun dep => nodup_nil⟩,rfl⟩,fun id node status declared _ => by cases declared⟩
      simp [TaskGraph.dependents,TaskGraph.new,dependsOn]
    have grown := none_yet.appended (fun id dep member => by cases member) sheltered
    rw [length_nil,shifted_zero,nil_append] at grown
    rw [validate_built validated]
    exact grown
  have same := refresh_scheduling_same ⟨graph,spec.nodes,.default,∅⟩
  obtain ⟨sound,_,undecided⟩ := resolved (mk graph spec.nodes .default ∅).refresh_scheduling placed (sound.same same)
  refine ⟨formed,sound,undecided,fun agent_id node held => ?_⟩
  have absent : (∅ : OrdMap Nat)[agent_id]? = some node := held
  simp at absent

/-- The runs a workflow comes to from its spec. -/
def Lived (spec : WorkflowSpec) (run : WorkflowRun) : Prop :=
  ∃ first, new spec = .ok first ∧ Relation.ReflTransGen Advances first run

theorem Lived.orderly (lived : Lived spec run) : Orderly run := by
  obtain ⟨first,made,path⟩ := lived
  induction path with
  | refl => exact new_orderly made
  | tail _ step ih => exact (ih.advances step).1

theorem Orderly.later {later : WorkflowRun} (orderly : Orderly run) (path : Relation.ReflTransGen Advances run later) :
    Orderly later ∧ ∀ id node, run.graph.get id = some node → node.status.is_terminal = true →
    later.graph.get id = some node := by
  induction path with
  | refl => exact ⟨orderly,fun _ _ found _ => found⟩
  | tail _ step ih =>
  obtain ⟨before,kept⟩ := ih
  obtain ⟨after,progress⟩ := before.advances step
  exact ⟨after,fun id node found ended => progress.keeps id node (kept id node found ended) ended⟩

/-- A node waits, may run or is skipped just as its policy says of its dependencies. -/
theorem Orderly.verdict (orderly : Orderly run) {id : Nat} {node : WorkflowNode} {status : TaskStatus}
    (declared : run.nodes[id]? = some node)
    (stands : run.graph.status_of id = some status) :
    (status = .Pending ↔ ¬Permits node.dep_policy (run.graph.statusesOf node) ∧
    ¬Forbids node.dep_policy (run.graph.statusesOf node)) ∧
    (status = .SkippedUpstreamFailed ↔ Forbids node.dep_policy (run.graph.statusesOf node)) ∧
    (status ≠ .Pending ∧ status ≠ .SkippedUpstreamFailed ↔ Permits node.dep_policy (run.graph.statusesOf node)) := by
  obtain ⟨skipped,let_run⟩ := orderly.sound.justified id node status declared stands
  have waits : status = .Pending →
      ¬Permits node.dep_policy (run.graph.statusesOf node) ∧ ¬Forbids node.dep_policy (run.graph.statusesOf node) :=
    fun same => orderly.undecided id node declared (same ▸ stands)
  by_cases pending : status = .Pending
  · obtain ⟨not_permitted,not_forbidden⟩ := waits pending
    subst pending
    simp [not_permitted,not_forbidden]
  by_cases other : status = .SkippedUpstreamFailed
  · have forbids := skipped other
    have not_permitted : ¬Permits node.dep_policy (run.graph.statusesOf node) := fun permits => permits.not_forbids forbids
    subst other
    simp [forbids,not_permitted]
  · have permits := let_run pending other
    simp [pending,other,permits,permits.not_forbids]

/-- A run in which no node may run or runs is done: a waiting node would wait for one that waits. -/
theorem Orderly.all_done (orderly : Orderly run)
    (still : ∀ id, run.graph.status_of id ≠ some .Ready ∧ run.graph.status_of id ≠ some .Running) :
    run.graph.all_done = true := by
  have length := orderly.sound.consistent.length
  have ended : ∀ id < run.nodes.length, run.graph.status_of id ≠ some .Pending := by
    refine orderly.formed.acyclic.induction orderly.formed.in_range fun id bound ih pending => ?_
    have declared : run.nodes[id]? = some run.nodes[id] := getElem?_eq_getElem bound
    obtain ⟨not_permitted,not_forbidden⟩ := orderly.undecided id _ declared pending
    refine (permits_or_forbids fun status member => ?_).elim not_permitted not_forbidden
    obtain ⟨dep,needed,stands⟩ := mem_filterMap.mp member
    have waited := ih dep (by rwa [dependsOn_of_getElem? declared])
    cases status with
    | Pending => exact (waited stands).elim
    | Ready => exact ((still dep).1 stands).elim
    | Running => exact ((still dep).2 stands).elim
    | Completed | CompletedPartial | Failed | SkippedUpstreamFailed => rfl
  refine all_eq_true.mpr fun node member => ?_
  obtain ⟨id,held⟩ := mem_iff_getElem?.mp member
  have stands : run.graph.status_of id = some node.status := by
    unfold TaskGraph.status_of TaskGraph.get
    rw [held]
    rfl
  have bound : id < run.nodes.length := by
    rw [← length]
    exact (List.getElem?_eq_some_iff.mp held).1
  cases status : node.status with
  | Pending => exact (ended id bound (status ▸ stands)).elim
  | Ready => exact ((still id).1 (status ▸ stands)).elim
  | Running => exact ((still id).2 (status ▸ stands)).elim
  | Completed | CompletedPartial | Failed | SkippedUpstreamFailed => rfl

/-- One node is closed, and no other is touched. -/
theorem close_node (graph : TaskGraph) (node : Nat) :
    ∃ after, (match graph.status_of node with
      | some .Pending | some .Ready => graph.skip_upstream_failed node
      | some .Running => graph.fail node
      | _ => graph) = after ∧ after.nodes.length = graph.nodes.length ∧
      (∀ status, after.status_of node = some status → status.is_terminal = true) ∧
        Sticky graph.status_of after.status_of := by
  have settled : ∀ held status, graph.status_of node = some held → held.is_terminal = false → status.is_terminal = true →
      (graph.settle node status none).nodes.length = graph.nodes.length ∧
      (∀ now, (graph.settle node status none).status_of node = some now → now.is_terminal = true) ∧
      Sticky graph.status_of (graph.settle node status none).status_of := by
    intro held status stands still_open ended
    have moved := settle_moved status none stands still_open
    refine ⟨by simpa using congrArg length moved.dependencies,fun now at_after => ?_,moved.sticky stands still_open⟩
    rw [moved.status_of,if_pos rfl,stands] at at_after
    cases at_after
    exact ended
  refine ⟨_,rfl,?_⟩
  cases stands : graph.status_of node with
  | none =>
    refine ⟨rfl,fun status at_after => ?_,fun _ _ held _ => held⟩
    rw [stands] at at_after
    cases at_after
  | some held =>
  cases held with
  | Pending | Ready => exact settled _ .SkippedUpstreamFailed stands rfl rfl
  | Running => exact settled _ .Failed stands rfl rfl
  | Completed | CompletedPartial | Failed | SkippedUpstreamFailed =>
  refine ⟨rfl,fun status at_after => ?_,fun _ _ held _ => held⟩
  rw [stands] at at_after
  cases at_after
  rfl

private theorem finish_closes : ∀ (ids : List Nat) (graph : TaskGraph),
    let after := ids.foldl (fun graph node =>
      match graph.status_of node with
      | some .Pending | some .Ready => graph.skip_upstream_failed node
      | some .Running => graph.fail node
      | _ => graph) graph
    after.nodes.length = graph.nodes.length ∧ Sticky graph.status_of after.status_of ∧
      ∀ id ∈ ids, ∀ status, after.status_of id = some status → status.is_terminal = true := by
  intro ids
  induction ids with
  | nil => exact fun graph => ⟨rfl,fun _ _ held _ => held,nofun⟩
  | cons node rest ih =>
  intro graph
  obtain ⟨next,value,length,closed,sticky⟩ := close_node graph node
  dsimp only
  rw [foldl_cons,value]
  obtain ⟨length_rest,sticky_rest,closed_rest⟩ := ih next
  refine ⟨length_rest.trans length,fun id status held ended => sticky_rest id status (sticky id status held ended) ended,
    forall_mem_cons.mpr ⟨fun status at_after => ?_,closed_rest⟩⟩
  -- What the node was closed to is what it stays at.
  have inside : (next.status_of node).isSome := by
    rw [isSome_status_of,← length_rest]
    exact isSome_status_of.mp (by rw [at_after]; rfl)
  obtain ⟨now,held⟩ := Option.isSome_iff_exists.mp inside
  have kept := sticky_rest node now held (closed now held)
  rw [at_after] at kept
  cases kept
  exact closed _ held

private theorem finish_ids (run : WorkflowRun) :
    run.finish.1.map WorkflowNodeOutcome.node_id = (List.range run.graph.len).map node_agent_id := by
  obtain ⟨length,_,closed⟩ := finish_closes (range run.graph.len) run.graph
  have each : ∀ (graph : TaskGraph), (∀ id status, graph.status_of id = some status → status.is_terminal = true) →
      (node_outcomes { run with graph }).map WorkflowNodeOutcome.node_id = (range graph.nodes.length).map node_agent_id := by
    intro graph closed
    unfold node_outcomes
    rw [map_filterMap,range_eq_range',← zipIdx_map_snd 0 graph.nodes,map_map,← filterMap_eq_map]
    refine filterMap_congr fun (node,id) member => ?_
    have held := (mem_zipIdx_iff_getElem?.mp member)
    have ended := closed id node.status (by unfold TaskGraph.status_of TaskGraph.get; rw [held]; rfl)
    dsimp only
    cases status : node.status with
    | Pending | Ready | Running =>
      rw [status] at ended
      cases ended
    | Completed | CompletedPartial | Failed | SkippedUpstreamFailed => rfl
  refine (each _ fun id status at_after => ?_).trans (congrArg (fun count => (range count).map node_agent_id) length)
  refine closed id (mem_range.mpr ?_) status at_after
  unfold len
  rw [← length]
  exact isSome_status_of.mp (Option.isSome_iff_exists.mpr ⟨status,at_after⟩)

end

end WorkflowRun

/-- Over the calls that take nodes out of a ready batch, a node stops waiting just when its policy says
    so, what has ended stays, a run that stands still is done, and each node has one outcome. -/
theorem advances_by_policy {spec : WorkflowSpec} {run : WorkflowRun} (lived : run.Lived spec) :
    (∀ id node status, run.nodes[id]? = some node → run.graph.status_of id = some status →
      (status = .Pending ↔ ¬Permits node.dep_policy (run.graph.statusesOf node) ∧
      ¬Forbids node.dep_policy (run.graph.statusesOf node)) ∧
      (status = .SkippedUpstreamFailed ↔ Forbids node.dep_policy (run.graph.statusesOf node)) ∧
      (status ≠ .Pending ∧ status ≠ .SkippedUpstreamFailed ↔ Permits node.dep_policy (run.graph.statusesOf node))) ∧
    (∀ next id, WorkflowRun.Advances run next → run.graph.status_of id = some .Pending →
      next.graph.status_of id = some .Pending ∨ next.graph.status_of id = some .Ready ∨
        next.graph.status_of id = some .SkippedUpstreamFailed) ∧
    (∀ later id node, Relation.ReflTransGen WorkflowRun.Advances run later → run.graph.get id = some node →
      node.status.is_terminal = true → later.graph.get id = some node) ∧
    ((∀ id, run.graph.status_of id ≠ some .Ready ∧ run.graph.status_of id ≠ some .Running) →
      run.graph.all_done = true) ∧
    run.finish.1.map WorkflowNodeOutcome.node_id = (List.range run.nodes.length).map node_agent_id ∧
    (run.finish.1.map WorkflowNodeOutcome.node_id).Nodup := by
  have orderly := lived.orderly
  have ids := run.finish_ids
  have count : run.graph.len = run.nodes.length := orderly.sound.consistent.length
  rw [count] at ids
  refine ⟨fun id node status declared stands => orderly.verdict declared stands,
    fun next id step pending => (orderly.advances step).2.waits id pending,
    fun later id node path found ended => (orderly.later path).2 id node found ended,orderly.all_done,ids,?_⟩
  rw [ids]
  exact nodup_range.map fun _ _ same => node_agent_id_injective same

/-- A result without a message. -/
def resultOf (termination : TerminationReason) : LoopResult := ⟨termination,none,1,0,none⟩

theorem new_of_any (spec : WorkflowSpec) (check : WorkflowRun → Bool) (found : (new spec).toOption.any check = true) :
    ∃ run, new spec = .ok run ∧ check run = true := by
  cases made : new spec with
  | error error =>
    rw [made] at found
    cases found
  | ok run =>
  rw [made] at found
  exact ⟨run,rfl,found⟩

/-- A node whose dependency failed is skipped, and both nodes have their outcome. -/
theorem advances_by_policy_failed :
    ∃ run : WorkflowRun, run.Lived ⟨[nodeOn [],nodeOn [0]]⟩ ∧ run.graph.status_of 1 = some .SkippedUpstreamFailed ∧
      run.finish.1.map WorkflowNodeOutcome.node_id = ["wf-node0","wf-node1"] := by
  obtain ⟨first,made,facts⟩ := new_of_any ⟨[nodeOn [],nodeOn [0]]⟩ (fun first =>
    let last := ((first.mark_spawned 0 "wf-node0").record_completion "wf-node0" (resultOf .Error)).2
    decide (first.graph.status_of 0 = some .Ready) && decide (last.graph.status_of 1 = some .SkippedUpstreamFailed) &&
      decide (last.nodes.length = 2)) (by decide +kernel)
  simp only [Bool.and_eq_true,decide_eq_true_eq] at facts
  obtain ⟨⟨ready,skipped⟩,count⟩ := facts
  have lived : WorkflowRun.Lived ⟨[nodeOn [],nodeOn [0]]⟩ _ :=
    ⟨first,made,.tail (.single (.mark_spawned 0 "wf-node0" (.inl ready))) (.record_completion "wf-node0" (resultOf .Error))⟩
  refine ⟨_,lived,skipped,?_⟩
  rw [(advances_by_policy lived).2.2.2.2.1,count]
  decide

/-- A call on a node that is not on offer is not refused: a completed node runs again, and a waiting one
    runs whatever its policy says. -/
theorem spawned_unasked :
    ∃ first, new ⟨[nodeOn [],nodeOn [0]]⟩ = .ok first ∧
      (let done := ((first.mark_spawned 0 "wf-node0").record_completion "wf-node0" (resultOf .Completed)).2
       done.graph.status_of 0 = some .Completed ∧ (done.mark_spawned 0 "wf-node0").graph.status_of 0 = some .Running) ∧
      first.graph.status_of 1 = some .Pending ∧ (first.mark_spawned 1 "wf-node1").graph.status_of 1 = some .Running ∧
      (first.mark_spawned 1 "wf-node1").graph.status_of 0 = some .Ready := by
  obtain ⟨first,made,facts⟩ := new_of_any ⟨[nodeOn [],nodeOn [0]]⟩ (fun first =>
    let done := ((first.mark_spawned 0 "wf-node0").record_completion "wf-node0" (resultOf .Completed)).2
    decide (done.graph.status_of 0 = some .Completed ∧ (done.mark_spawned 0 "wf-node0").graph.status_of 0 = some .Running) &&
      decide (first.graph.status_of 1 = some .Pending ∧ (first.mark_spawned 1 "wf-node1").graph.status_of 1 = some .Running ∧
        (first.mark_spawned 1 "wf-node1").graph.status_of 0 = some .Ready)) (by decide +kernel)
  simp only [Bool.and_eq_true,decide_eq_true_eq] at facts
  exact ⟨first,made,facts.1,facts.2⟩

end Deepstrike.Orchestration

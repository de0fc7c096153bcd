import Deepstrike.Lifecycle

/-!
The quarantine of a run. What an agent in quarantine submits is in quarantine, so is what that submits in turn, and
none of them gets an agent that could write.
-/
namespace Deepstrike.Orchestration.WorkflowRun
open Wire Vocabulary List

/-- A node in quarantine that asks for more than to read. -/
def quarantine_violation (run : WorkflowRun) (node : Nat) : Bool :=
  run.nodes[node]?.any fun node => node.trust == .Quarantined && node.isolation != .ReadOnly

def Quarantined (run : WorkflowRun) (node : Nat) : Prop := ∃ declared, run.nodes[node]? = some declared ∧ declared.trust = .Quarantined

/-- The nodes a submission adds, each with the node whose agent asked for it. -/
def launched (run : WorkflowRun) (submitter : Option String) (batch : List WorkflowNode) : List (Nat × Nat) :=
  match submitter.bind fun agent_id => run.node_of_agent[agent_id]?,(run.submit_nodes_from submitter batch).1 with
  | some owner,.ok ids => ids.map fun id => (owner,id)
  | _,_ => []

/-- What a spawn round does with a node of its batch: one in violation is denied, any other has the word of the
    spawn gate. -/
def spawn_node (run : WorkflowRun) (node : Nat) (agent_id : String) (admitted : Bool) : WorkflowRun :=
  if run.quarantine_violation node then run.mark_denied node
  else if admitted then run.mark_spawned node agent_id
  else run.mark_denied node

/-- The calls on a run as the drive makes them, with what they launch. -/
inductive Drives (run : WorkflowRun) : WorkflowRun → List (Nat × Nat) → Prop where
  | ready_batch : Drives run run.ready_batch.2 []
  | set_scheduler_policy (policy : SchedulerPolicyConfig) : Drives run (run.set_scheduler_policy policy) []
  | spawn_node (node : Nat) (agent_id : String) (admitted : Bool)
    (offered : run.graph.status_of node = some .Ready ∨ run.graph.status_of node = some .Running) :
    Drives run (run.spawn_node node agent_id admitted) []
  | mark_denied (node : Nat) (offered : run.graph.status_of node ≠ some .Pending) : Drives run (run.mark_denied node) []
  | mark_spawn_failed (agent_id : String) : Drives run (run.mark_spawn_failed agent_id).2 []
  | record_completion (agent_id : String) (result : LoopResult) : Drives run (run.record_completion agent_id result).2 []
  | submit_nodes_from (submitter : Option String) (batch : List WorkflowNode) :
    Drives run (run.submit_nodes_from submitter batch).2 (run.launched submitter batch)

/-- The states of a run with who launched which node so far. -/
inductive Lineage (spec : WorkflowSpec) : WorkflowRun → List (Nat × Nat) → Prop where
  | start {run : WorkflowRun} (made : WorkflowRun.new spec = .ok run) : Lineage spec run []
  | step {run after : WorkflowRun} {edges more : List (Nat × Nat)} (before : Lineage spec run edges) (drives : Drives run after more) :
    Lineage spec after (edges ++ more)

/-- Quarantine passes from who launches to what is launched, and an agent keeps to it. -/
structure Contained (run : WorkflowRun) (edges : List (Nat × Nat)) : Prop where
  orderly : Orderly run
  inside : ∀ edge ∈ edges, edge.1 < run.nodes.length ∧ edge.2 < run.nodes.length
  tainted : ∀ edge ∈ edges, run.Quarantined edge.1 → run.Quarantined edge.2
  confined : ∀ (agent_id : String) node, run.node_of_agent[agent_id]? = some node → run.quarantine_violation node = false

variable {run after : WorkflowRun} {edges : List (Nat × Nat)} {batch : List WorkflowNode}

private theorem spawn_node_cases (run : WorkflowRun) (node : Nat) (agent_id : String) (admitted : Bool) :
    run.spawn_node node agent_id admitted = run.mark_denied node ∨
      run.quarantine_violation node = false ∧ run.spawn_node node agent_id admitted = run.mark_spawned node agent_id := by
  unfold spawn_node
  split
  · exact .inl rfl
  next allowed =>
  split
  · exact .inr ⟨Bool.not_eq_true _ ▸ allowed,rfl⟩
  · exact .inl rfl

theorem Orderly.length (orderly : Orderly run) : run.graph.nodes.length = run.nodes.length :=
    orderly.sound.consistent.length

private theorem Orderly.agent_inside (orderly : Orderly run) {agent_id : String} {node : Nat} (held : run.node_of_agent[agent_id]? = some node) :
    node < run.nodes.length := by
  obtain ⟨status,stands,_⟩ := orderly.assigned agent_id node held
  obtain ⟨listed,found,_⟩ := Option.map_eq_some_iff.mp stands
  exact orderly.length ▸ (List.getElem?_eq_some_iff.mp found).1

private theorem submit_nodes_ok {ids : List Nat} (accepted : (run.submit_nodes batch).1 = .ok ids) :
    ids = List.range' run.graph.nodes.length batch.length ∧ (run.submit_nodes batch).2.nodes = run.nodes ++ shifted run.nodes.length batch := by
  unfold submit_nodes at accepted ⊢
  dsimp only at accepted ⊢
  split at accepted
  · cases accepted
  · split at accepted
    · cases accepted
    · cases accepted
      exact ⟨by rw [length_map],rfl⟩

/-- Behind a call that leaves the nodes, or puts some behind them, and gives no agent a node in violation. -/
theorem Contained.moved (contained : Contained run edges) (orderly : Orderly after) (nodes : run.nodes <+: after.nodes)
    (agents : ∀ (agent_id : String) node, after.node_of_agent[agent_id]? = some node →
      run.node_of_agent[agent_id]? = some node ∨ node < run.nodes.length ∧ run.quarantine_violation node = false) :
      Contained after edges := by
  have same : ∀ node, node < run.nodes.length → after.nodes[node]? = run.nodes[node]? := fun node inside => by
    obtain ⟨rest,grown⟩ := nodes
    rw [← grown,getElem?_append_left inside]
  have longer := nodes.length_le
  refine ⟨orderly,fun edge member => ?_,fun edge member => ?_,fun agent_id node held => ?_⟩
  · have inside := contained.inside edge member
    omega
  · unfold Quarantined
    rw [same _ (contained.inside edge member).1,same _ (contained.inside edge member).2]
    exact contained.tainted edge member
  unfold quarantine_violation
  rcases agents agent_id node held with before | ⟨inside,allowed⟩
  · rw [same node (contained.orderly.agent_inside before)]
    exact contained.confined agent_id node before
  · rwa [same node inside]

private theorem Drives.advances {more : List (Nat × Nat)} (drives : Drives run after more) : Advances run after := by
  cases drives with
  | ready_batch => exact .ready_batch
  | set_scheduler_policy policy => exact .set_scheduler_policy policy
  | spawn_node node agent_id admitted offered =>
    have waited : run.graph.status_of node ≠ some .Pending := by
      obtain ready | running := offered <;> simp [*]
    obtain same | ⟨_,same⟩ := spawn_node_cases run node agent_id admitted <;> rw [same]
    · exact .mark_denied node waited
    · exact .mark_spawned node agent_id offered
  | mark_denied node offered => exact .mark_denied node offered
  | mark_spawn_failed agent_id => exact .mark_spawn_failed agent_id
  | record_completion agent_id result => exact .record_completion agent_id result
  | submit_nodes_from submitter batch => exact .submit_nodes_from submitter batch

/-- A submission is one of a batch that is in quarantine where its submitter is. -/
theorem submit_nodes_from_eq (run : WorkflowRun) (submitter : Option String) (batch : List WorkflowNode) :
    ∃ coerced, run.submit_nodes_from submitter batch = run.submit_nodes coerced ∧
      (submitter.any run.is_agent_quarantined = true → ∀ node ∈ coerced, node.trust = .Quarantined) := by
  refine ⟨_,rfl,fun quarantined node member => ?_⟩
  rw [if_pos quarantined] at member
  obtain ⟨_,_,rfl⟩ := mem_map.mp member
  rfl

private theorem Contained.submitted (contained : Contained run edges) (submitter : Option String) (batch : List WorkflowNode) :
    Contained (run.submit_nodes_from submitter batch).2 (edges ++ run.launched submitter batch) := by
  have orderly := (contained.orderly.advances (.submit_nodes_from submitter batch)).1
  obtain ⟨coerced,called,trusts⟩ := submit_nodes_from_eq run submitter batch
  unfold launched
  rw [called] at orderly ⊢
  have before : Contained (run.submit_nodes coerced).2 edges := by
    obtain same | ⟨_,_,grown⟩ := submit_nodes_cases run coerced
    · rwa [same]
    · refine contained.moved orderly ⟨_,(congrArg WorkflowRun.nodes grown).symm⟩ fun agent_id node held => .inl ?_
      rwa [grown] at held
  suffices added : ∀ submitting owner ids, submitter = some submitting → run.node_of_agent[submitting]? = some owner →
      (run.submit_nodes coerced).1 = .ok ids → ∀ id ∈ ids, owner < (run.submit_nodes coerced).2.nodes.length ∧
        id < (run.submit_nodes coerced).2.nodes.length ∧
        ((run.submit_nodes coerced).2.Quarantined owner → (run.submit_nodes coerced).2.Quarantined id) by
    split
    next owner ids asked accepted =>
      obtain ⟨submitting,named,held⟩ := Option.bind_eq_some_iff.mp asked
      have each := added submitting owner ids named held accepted
      refine ⟨orderly,fun edge member => ?_,fun edge member => ?_,before.confined⟩
      all_goals rcases mem_append.mp member with old | new
      · exact before.inside edge old
      · obtain ⟨id,listed,rfl⟩ := mem_map.mp new
        exact ⟨(each id listed).1,(each id listed).2.1⟩
      · exact before.tainted edge old
      · obtain ⟨id,listed,rfl⟩ := mem_map.mp new
        exact (each id listed).2.2
    next => rwa [append_nil]
  rintro submitting owner ids rfl held accepted id listed
  obtain ⟨rfl,nodes⟩ := submit_nodes_ok accepted
  have inside := contained.orderly.agent_inside held
  obtain ⟨place,within,rfl⟩ := mem_range'.mp listed
  rw [contained.orderly.length,Nat.one_mul,nodes,length_append,shifted,length_map]
  refine ⟨by omega,by omega,?_⟩
  rintro ⟨declared,found,trust⟩
  rw [nodes,getElem?_append_left inside] at found
  have origin : run.is_agent_quarantined submitting = true := by simp [is_agent_quarantined,held,found,trust]
  rw [Quarantined,nodes,getElem?_append_right (Nat.le_add_right ..),Nat.add_sub_cancel_left,shifted,getElem?_map,
    getElem?_eq_getElem within]
  exact ⟨_,rfl,trusts origin coerced[place] (getElem_mem within)⟩

variable {spec : WorkflowSpec}

theorem Lineage.contained (lineage : Lineage spec run edges) : Contained run edges := by
  induction lineage with
  | start made =>
    refine ⟨new_orderly made,by rintro _ ⟨⟩,by rintro _ ⟨⟩,fun agent_id node held => ?_⟩
    unfold WorkflowRun.new at made
    cases validated : spec.validate with
    | error error =>
      rw [validated] at made
      cases made
    | ok graph =>
    rw [validated] at made
    cases made
    have absent : (∅ : OrdMap Nat)[agent_id]? = some node := held
    simp at absent
  | step _ drives contained =>
  have orderly := (contained.orderly.advances drives.advances).1
  cases drives with
  | submit_nodes_from submitter batch => exact contained.submitted submitter batch
  | spawn_node node agent_id admitted offered =>
    rw [append_nil]
    obtain same | ⟨allowed,same⟩ := spawn_node_cases _ node agent_id admitted <;> rw [same] at orderly ⊢
    · exact contained.moved orderly (prefix_refl _) fun _ _ held => .inl held
    refine contained.moved orderly (prefix_refl _) fun other found held => ?_
    simp only [mark_spawned,Std.ExtTreeMap.getElem?_insert] at held
    split at held
    · cases held
      refine .inr ⟨?_,allowed⟩
      rcases offered with stands | stands
      all_goals
        obtain ⟨listed,found,_⟩ := Option.map_eq_some_iff.mp stands
        exact contained.orderly.length ▸ (List.getElem?_eq_some_iff.mp found).1
    · exact .inl held
  | mark_spawn_failed agent_id =>
    rw [append_nil]
    unfold mark_spawn_failed at orderly ⊢
    split at orderly
    · exact contained
    refine contained.moved orderly (prefix_refl _) fun other found held => .inl ?_
    have erased : (‹WorkflowRun›.node_of_agent.erase agent_id)[other]? = some found := held
    rw [Std.ExtTreeMap.getElem?_erase] at erased
    split at erased
    · cases erased
    · exact erased
  | record_completion agent_id result =>
    rw [append_nil]
    unfold record_completion at orderly ⊢
    split at orderly
    · exact contained
    · exact contained.moved orderly (prefix_refl _) fun _ _ held => .inl held
  | ready_batch | set_scheduler_policy | mark_denied =>
  rw [append_nil]
  exact contained.moved orderly (prefix_refl _) fun _ _ held => .inl held

/-- Over every run, what a quarantined node launched, by itself or through what it launched, is in quarantine, and an
    agent that runs it may only read. -/
theorem lineage_quarantined (lineage : Lineage spec run edges) {first last : Nat}
    (path : Relation.ReflTransGen (fun owner launched => (owner,launched) ∈ edges) first last)
    (quarantined : run.Quarantined first) :
    run.Quarantined last ∧ ∀ (agent_id : String), run.node_of_agent[agent_id]? = some last →
      ∃ declared, run.nodes[last]? = some declared ∧ declared.isolation = .ReadOnly := by
  have contained := lineage.contained
  have tainted : run.Quarantined last := by
    induction path with
    | refl => exact quarantined
    | tail _ edge ih => exact contained.tainted _ edge ih
  refine ⟨tainted,fun agent_id held => ?_⟩
  obtain ⟨declared,found,trust⟩ := tainted
  have allowed := contained.confined agent_id last held
  rw [quarantine_violation,found] at allowed
  exact ⟨declared,found,by simpa [trust] using allowed⟩

def untrusted : WorkflowNode := { nodeOn [] with isolation := .ReadOnly,trust := .Quarantined }

/-- An agent in quarantine asks for a node that is trusted and may write, and gets one in quarantine. -/
theorem lineage_quarantined_submitted : ∃ run, Lineage ⟨[untrusted]⟩ run [(0,1)] ∧ run.Quarantined 1 := by
  obtain ⟨first,made,facts⟩ := new_of_any ⟨[untrusted]⟩ (fun first =>
    let spawned := first.spawn_node 0 "wf-node0" true
    decide (first.graph.status_of 0 = some .Ready) &&
      decide (spawned.launched (some "wf-node0") [nodeOn []] = [(0,1)]) &&
      decide ((spawned.submit_nodes_from (some "wf-node0") [nodeOn []]).2.nodes[0]? = some untrusted)) (by decide +kernel)
  simp only [Bool.and_eq_true,decide_eq_true_eq] at facts
  obtain ⟨⟨ready,edge⟩,declared⟩ := facts
  have lineage := ((Lineage.start made).step (.spawn_node 0 "wf-node0" true (.inl ready))).step
    (.submit_nodes_from (some "wf-node0") [nodeOn []])
  rw [edge] at lineage
  exact ⟨_,lineage,(lineage_quarantined lineage (.single mem_cons_self) ⟨untrusted,declared,rfl⟩).1⟩

end Deepstrike.Orchestration.WorkflowRun

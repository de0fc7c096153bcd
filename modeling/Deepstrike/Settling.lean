import Deepstrike.Reserving

/-!
The order in which an operation ends and settles its tasks, and what the live tasks below a task may still hand
out of its budget.
-/
namespace Deepstrike.Scheduler
open Wire Capabilities Ledgers TaskTable Tcb Option Engine Account ResourceBudget
open Tasks (TaskLifecycle)

namespace TaskTable

variable {table : TaskTable} {id : TaskId} {edit : Tcb → Tcb} {holds : Tcb → Prop}

theorem forall_modify (all : ∀ task ∈ table, holds task)
    (kept : ∀ task ∈ table, task.id = id → holds task → holds (edit task)) :
    ∀ task ∈ table.modify id edit, holds task := by
  intro task member
  obtain ⟨before,listed,rfl⟩ := List.mem_map.mp member
  split
  next named => exact kept before listed named (all before listed)
  next => exact all before listed

private theorem ended_modify (ended : ∀ task, (edit task).state.is_terminal = true) :
    ∀ task ∈ table.modify id edit, task.id = id → task.state.is_terminal = true := by
  intro task member named
  obtain ⟨before,_,rfl⟩ := List.mem_map.mp member
  split at named
  next same =>
    rw [if_pos same]
    exact ended before
  next other => exact absurd named other

private theorem forall_append {row : Tcb} (all : ∀ task ∈ table, holds task) (last : holds row) :
    ∀ task ∈ table ++ [row], holds task := by
  intro task member
  obtain older | rfl := (List.mem_append.mp member).imp id List.mem_singleton.mp
  · exact all task older
  · exact last

private theorem forall_return (all : ∀ task ∈ table, holds task) (child_id : TaskId)
    (closed : ∀ task ∈ table, task.id = child_id → ∀ returned, holds task →
      holds { task with budget_grant := task.budget_grant.map fun grant => { grant with returned, settled := true } })
    (repaid : ∀ task grant, holds task → holds (settle_with grant task)) : ∀ task ∈ table.return_child_budget child_id, holds task := by
  unfold return_child_budget
  split
  · exact all
  next grant _ =>
  split
  · exact all
  · exact forall_modify (forall_modify all fun task member named => closed task member named (return_unused grant)) fun task _ _ => repaid task grant

end TaskTable

section Grown
variable {table after : TaskTable} {caller_id : Option TaskId} {manifest : IsolationManifest} {state : TaskLifecycle} {holds : Tcb → Prop}

private theorem Grown.forall (grown : Grown table caller_id manifest state after) (all : ∀ task ∈ table, holds task)
    (debited : ∀ task budget, holds task → holds { task with child_budget_remaining := some budget })
    (bare : ∀ parent_id, table.get manifest.agent_id = none → holds (.spawned_in manifest state (some parent_id)))
    (funded : ∀ parent_id requested, table.get manifest.agent_id = none → holds (.funded manifest state parent_id requested)) :
    ∀ task ∈ after, holds task := by
  cases grown with
  | unmoved => exact all
  | drawn draws => exact forall_modify all fun task _ _ => debited task _
  | funded draws hosts =>
    exact forall_append (forall_modify all fun task _ _ => debited task _) (funded _ _ hosts.fresh)
  | bare caller found unfunded hosts => exact forall_append all (bare _ hosts.fresh)

end Grown

/-- What every row of a table keeps. The root carries no process and never joins. -/
structure Tcb.Sound (task : Tcb) : Prop where
  reserved : task.Reserved
  settled : ∀ grant, task.budget_grant = some grant → grant.settled = true → task.state.is_terminal = true
  rooted : task.parent = none ↔ task.id = "root"
  unjoined : task.parent = none → task.proc = false ∧ task.result = none

namespace Engine

variable {engine : Engine} {but : Option TaskId}

/-- A condition on each move of a list, in the state before it. -/
def Along (condition : Engine → Move → Prop) : Engine → List Move → Prop
  | _,[] => True
  | engine,move :: rest => condition engine move ∧ Along condition (engine.apply move) rest

/-- A condition on each move of the events of an operation. -/
def Meets (condition : Engine → Move → Prop) : Engine → List Event → Prop
  | _,[] => True
  | engine,event :: rest => Along condition engine (engine.moves event) ∧ Meets condition (engine.step event) rest

instance {condition : Engine → Move → Prop} [∀ engine move, Decidable (condition engine move)] (engine : Engine) (moves : List Move) :
    Decidable (Along condition engine moves) := decide_along engine moves
where
  decide_along : (engine : Engine) → (moves : List Move) → Decidable (Along condition engine moves)
    | _,[] => .isTrue trivial
    | engine,move :: rest => @instDecidableAnd _ _ _ (decide_along (engine.apply move) rest)

instance {condition : Engine → Move → Prop} [∀ engine move, Decidable (condition engine move)] (engine : Engine) (events : List Event) :
    Decidable (Meets condition engine events) := decide_meets engine events
where
  decide_meets : (engine : Engine) → (events : List Event) → Decidable (Meets condition engine events)
    | _,[] => .isTrue trivial
    | engine,event :: rest => @instDecidableAnd _ _ _ (decide_meets (engine.step event) rest)

private theorem along_append {condition : Engine → Move → Prop} {first second : List Move} (head : Along condition engine first)
    (tail : Along condition (first.foldl apply engine) second) : Along condition engine (first ++ second) := by
  induction first generalizing engine with
  | nil => exact tail
  | cons move rest ih => exact ⟨head.1,ih head.2 tail⟩

/-- The order in which the code makes its moves: a task ends before it is settled, an ended task is not launched
    again, and a join is the first of its task. -/
def Orderly (engine : Engine) : Move → Prop
  | .Return agent_id => ∀ task ∈ engine.tasks, task.id = agent_id → task.state.is_terminal = true
  | .SetState agent_id state => state.is_terminal = true ∨ ∀ task ∈ engine.tasks, task.id = agent_id → task.state.is_terminal = false
  | .Join agent_id _ _ => ∀ task ∈ engine.tasks, task.id = agent_id → task.state.is_terminal = true ∨ task.result = none
  | .SpawnSubAgent manifest => engine.tasks.get manifest.agent_id = none
  | _ => True

/-- The table of an operation: identities are used once, the root is there, every row is sound. -/
structure Ordered (engine : Engine) : Prop where
  distinct : (engine.tasks.map Tcb.id).Nodup
  rooted : "root" ∈ engine.tasks.map Tcb.id
  sound : ∀ task ∈ engine.tasks, task.Sound

section
variable (ordered : engine.Ordered)
include ordered

theorem Ordered.root :
    ∃ root, engine.tasks.root_id = some "root" ∧ engine.tasks.get "root" = some root ∧ root.parent = none := by
  obtain ⟨root,found⟩ := isSome_iff_exists.mp (get_isSome.mpr ordered.rooted)
  obtain ⟨member,named⟩ := get_some found
  have top : root.parent = none := (ordered.sound root member).rooted.mpr named
  have some_top : (engine.tasks.find? fun task => task.parent.isNone).isSome = true :=
    List.find?_isSome.mpr ⟨root,member,by rw [top]; rfl⟩
  obtain ⟨first,leads⟩ := isSome_iff_exists.mp some_top
  have parentless : first.parent = none := by simpa using List.find?_some leads
  refine ⟨root,?_,found,top⟩
  rw [root_id,leads,map_some]
  exact congrArg some ((ordered.sound first (List.mem_of_find?_eq_some leads)).rooted.mp parentless)

variable {manifest : IsolationManifest}

/-- A direct spawn of a new identity grows the table as a spawn of the run queue does, and lets the root wait. -/
theorem Ordered.spawn_sub_agent (fresh : engine.tasks.get manifest.agent_id = none) :
    ∃ grown, Grown engine.tasks (some "root") manifest .Running grown ∧
      ((engine.spawn_sub_agent manifest).tasks = grown ∨
      (engine.spawn_sub_agent manifest).tasks = grown.set_state "root" .Suspended) := by
  obtain ⟨_,rooted,found,top⟩ := ordered.root
  exact spawn_sub_agent_tasks rooted found top fresh

private theorem Ordered.fresh_child {id : TaskId} (fresh : engine.tasks.get id = none) : id ≠ "root" := by
  rintro rfl
  have taken := get_isSome.mpr ordered.rooted
  rw [fresh] at taken
  cases taken

theorem Ordered.grown_sound {caller_id : Option TaskId} {state : TaskLifecycle}
    {after : TaskTable} (grown : Grown engine.tasks caller_id manifest state after) : ∀ task ∈ after, task.Sound := by
  refine grown.forall ordered.sound (fun task budget held => ⟨held.reserved,held.settled,held.rooted,held.unjoined⟩) ?_ ?_
  · intro parent_id fresh
    refine ⟨by rintro grant ⟨⟩,by rintro grant ⟨⟩,?_,by rintro ⟨⟩⟩
    exact iff_of_false nofun (ordered.fresh_child fresh)
  intro parent_id requested fresh
  refine ⟨?_,?_,iff_of_false nofun (ordered.fresh_child fresh),by rintro ⟨⟩⟩
  · rintro grant ⟨⟩
    exact ⟨rfl,rfl⟩
  · rintro grant ⟨⟩ ⟨⟩

end

/-- A task that has joined has ended, with one exception at most. -/
def RestedBut (but : Option TaskId) (tasks : TaskTable) : Prop :=
  ∀ task ∈ tasks, some task.id ≠ but → task.result.isSome = true → task.state.is_terminal = true

theorem RestedBut.grown {table after : TaskTable} {caller_id : Option TaskId} {state : TaskLifecycle}
    (rested : RestedBut but table) (grown : Grown table caller_id manifest state after) : RestedBut but after := by
  refine grown.forall rested (fun _ _ held => held) ?_ ?_
  · rintro parent_id _ _ ⟨⟩
  · rintro parent_id requested _ _ ⟨⟩

theorem RestedBut.spawn_sub_agent (rested : RestedBut none engine.tasks) (ordered : engine.Ordered)
    (fresh : engine.tasks.get manifest.agent_id = none) : RestedBut none (engine.spawn_sub_agent manifest).tasks := by
  obtain ⟨grown,grows,same | same⟩ := ordered.spawn_sub_agent fresh
  · exact same ▸ rested.grown grows
  rw [same]
  refine forall_modify (rested.grown grows) fun task member named _ _ joined => ?_
  have sound := ordered.grown_sound grows task member
  rw [(sound.unjoined (sound.rooted.mpr named)).2] at joined
  cases joined

theorem RestedBut.return_child_budget {tasks : TaskTable} (rested : RestedBut but tasks) (child_id : TaskId) :
    RestedBut but (tasks.return_child_budget child_id) :=
  forall_return rested child_id (fun _ _ _ _ held => held) fun _ _ held => held

private theorem spawns_orderly (caller : Option TaskId) (manifests : List IsolationManifest)
    (rested : RestedBut but engine.tasks) : Along Orderly engine (manifests.map (.Spawn caller)) ∧
      RestedBut but ((manifests.map (Move.Spawn caller)).foldl apply engine).tasks := by
  induction manifests generalizing engine with
  | nil => exact ⟨trivial,rested⟩
  | cons manifest rest ih =>
  obtain ⟨along,after⟩ := ih (rested.grown (engine.spawn_tasks caller manifest))
  exact ⟨⟨trivial,along⟩,after⟩

private theorem settling_orderly (agent_id : TaskId) (reason : TerminationReason) (rested : RestedBut (some agent_id) engine.tasks) :
    Along Orderly engine (settling agent_id reason) ∧ RestedBut none ((settling agent_id reason).foldl apply engine).tasks := by
  have ended : ∀ task ∈ (engine.apply (.SetState agent_id (.Done reason))).tasks, task.id = agent_id → task.state.is_terminal = true :=
    ended_modify fun _ => rfl
  have all_rested : RestedBut none (engine.apply (.SetState agent_id (.Done reason))).tasks := by
    intro task member _ joined
    by_cases named : task.id = agent_id
    · exact ended task member named
    obtain ⟨before,listed,rfl⟩ := List.mem_map.mp member
    split at named
    next same => exact absurd same named
    next other =>
    rw [if_neg other] at joined ⊢
    exact rested before listed (fun same => other (some.inj same)) joined
  exact ⟨⟨.inl rfl,ended,trivial⟩,all_rested.return_child_budget agent_id⟩

private theorem RestedBut.weaken {tasks : TaskTable} (rested : RestedBut none tasks) (but : Option TaskId) : RestedBut but tasks :=
  fun task member _ joined => rested task member (by simp) joined

private theorem settlings_orderly (reason : TerminationReason) (ids : List TaskId) (rested : RestedBut none engine.tasks) :
    Along Orderly engine (ids.flatMap fun id => settling id reason) ∧
      RestedBut none ((ids.flatMap fun id => settling id reason).foldl apply engine).tasks := by
  induction ids generalizing engine with
  | nil => exact ⟨trivial,rested⟩
  | cons id rest ih =>
  obtain ⟨first,between⟩ := settling_orderly id reason (rested.weaken (some id))
  obtain ⟨along,after⟩ := ih between
  rw [List.flatMap_cons,List.foldl_append]
  exact ⟨along_append first along,after⟩

theorem RestedBut.join (rested : RestedBut none engine.tasks) (agent_id : TaskId) (usage : Usage)
    (next : TaskLifecycle) :
    RestedBut (if next.is_terminal then none else some agent_id) (engine.join agent_id usage next).tasks := by
  refine forall_modify (rested.weaken _) fun task _ named held => ?_
  unfold joined
  split
  · exact held
  next =>
  intro other _
  cases ended : next.is_terminal with
  | true => rfl
  | false =>
  rw [ended] at other
  exact absurd (congrArg some named) other

/-- The moves of every event are in order, and leave every joined task ended. A direct spawn must be given a new identity. -/
theorem moves_orderly (ordered : engine.Ordered) (rested : RestedBut none engine.tasks) (event : Event)
    (fresh : ∀ manifest, event = .SpawnSubAgent manifest → engine.tasks.get manifest.agent_id = none) :
    Along Orderly engine (engine.moves event) ∧ RestedBut none (engine.step event).tasks := by
  have joins : ∀ agent_id usage next, Orderly engine (.Join agent_id usage next) := by
    intro agent_id usage next task member _
    cases joined : task.result with
    | none => exact .inr rfl
    | some result => exact .inl (rested task member (by simp) (by simp [joined]))
  cases event with
  | Round caller manifests => exact spawns_orderly caller manifests rested
  | SpawnSubAgent manifest => exact ⟨⟨fresh manifest rfl,trivial⟩,rested.spawn_sub_agent ordered (fresh manifest rfl)⟩
  | Complete agent_id usage reason workflow_owned manifests =>
    cases workflow_owned with
    | true =>
      have joined := rested.join agent_id usage .Suspended
      obtain ⟨spawns,between⟩ := spawns_orderly (some agent_id) manifests joined
      obtain ⟨settles,after⟩ := settling_orderly agent_id reason between
      refine ⟨⟨joins agent_id usage .Suspended,along_append spawns settles⟩,?_⟩
      show RestedBut none ((manifests.map (Move.Spawn (some agent_id)) ++ settling agent_id reason).foldl
        apply (engine.apply (.Join agent_id usage .Suspended))).tasks
      rw [List.foldl_append]
      exact after
    | false =>
    have joined := rested.join agent_id usage (.Done reason)
    refine ⟨⟨joins agent_id usage (.Done reason),?_,trivial⟩,joined.return_child_budget agent_id⟩
    refine ended_modify fun task => ?_
    unfold Tcb.joined
    split
    next ended => exact ended
    next => rfl
  | SpawnFailed agent_id => exact settling_orderly agent_id .Error (rested.weaken _)
  | Started agent_id =>
    refine ⟨⟨trivial,trivial⟩,forall_modify rested fun task _ _ held => ?_⟩
    unfold acknowledged
    split
    · exact held
    next live =>
    intro _ joined
    exact absurd (held (by simp) joined) live
  | Preempt agent_ids => exact settlings_orderly .UserAbort _ rested
  | Cancel => exact settlings_orderly .UserAbort _ rested
  | Relaunch agent_id =>
    by_cases live : ((engine.tasks.get agent_id).any fun task => !task.state.is_terminal) = true
    · obtain ⟨task,found,running⟩ := (any_eq_true _ _).mp live
      obtain ⟨held,named⟩ := get_some found
      have made : engine.moves (.Relaunch agent_id) = [.SetState agent_id .PendingLaunch] := if_pos live
      have only : ∀ other ∈ engine.tasks, other.id = agent_id → other.state.is_terminal = false := by
        intro other listed same
        obtain rfl : other = task := List.inj_on_of_nodup_map ordered.distinct listed held (same.trans named.symm)
        simpa using running
      rw [step,made]
      refine ⟨⟨.inr only,trivial⟩,forall_modify rested fun other listed same rests _ joined => ?_⟩
      exact absurd (rests (by simp) joined) (by simp [only other listed same])
    · have none_made : engine.moves (.Relaunch agent_id) = [] := if_neg live
      rw [step,none_made]
      exact ⟨trivial,rested⟩
  | NextTurn turn => exact ⟨⟨trivial,trivial⟩,rested⟩

variable {move : Move}

private theorem Ordered.sound_apply (ordered : engine.Ordered) (orderly : engine.Orderly move) :
    ∀ task ∈ (engine.apply move).tasks, task.Sound := by
  have sound := ordered.sound
  cases move with
  | Spawn caller manifest => exact ordered.grown_sound (engine.spawn_tasks caller manifest)
  | SpawnSubAgent manifest =>
    obtain ⟨grown,grows,same | same⟩ := ordered.spawn_sub_agent orderly
    · exact fun task member => ordered.grown_sound grows task (same ▸ member)
    intro task member
    rw [apply,same] at member
    revert task
    refine forall_modify (ordered.grown_sound grows) fun task _ named held => ⟨held.reserved,fun grant has _ => ?_,held.rooted,held.unjoined⟩
    have under := (held.reserved grant has).1
    rw [held.rooted.mpr named] at under
    cases under
  | Join agent_id usage next =>
    refine forall_modify sound fun task _ _ held => ?_
    unfold joined
    split
    · exact held
    next live =>
    refine ⟨?_,?_,held.rooted,fun top => ?_⟩
    · intro grant has
      obtain ⟨before,had,rfl⟩ := map_eq_some_iff.mp has
      exact held.reserved before had
    · intro grant has ended
      obtain ⟨before,had,rfl⟩ := map_eq_some_iff.mp has
      exact absurd (held.settled before had ended) live
    · obtain ⟨bare,nothing⟩ := held.unjoined top
      exact ⟨bare,by rw [if_neg (by simp [bare])]; exact nothing⟩
  | SetState agent_id state =>
    refine forall_modify sound fun task member named held =>
      ⟨held.reserved,fun grant has ended => ?_,held.rooted,held.unjoined⟩
    obtain terminal | live := orderly
    · exact terminal
    · exact absurd (held.settled grant has ended) (by simp [live task member named])
  | Acknowledge agent_id =>
    refine forall_modify sound fun task _ _ held => ?_
    unfold acknowledged
    split
    · exact held
    next live => exact ⟨held.reserved,fun grant has ended => absurd (held.settled grant has ended) live,held.rooted,held.unjoined⟩
  | Return agent_id =>
    refine forall_return sound agent_id (fun task member named returned held => ?_) fun task grant held => ?_
    · refine ⟨?_,fun _ _ _ => orderly task member named,held.rooted,held.unjoined⟩
      intro grant has
      obtain ⟨before,had,rfl⟩ := map_eq_some_iff.mp has
      exact held.reserved before had
    refine ⟨?_,?_,held.rooted,held.unjoined⟩
    · intro outer has
      obtain ⟨before,had,rfl⟩ := map_eq_some_iff.mp has
      have same : (if before.settled then before else { before with consumed := accumulate_usage before.consumed grant.consumed }).parent =
          before.parent := by
        split <;> rfl
      rw [same]
      exact held.reserved before had
    intro outer has ended
    obtain ⟨before,had,rfl⟩ := map_eq_some_iff.mp has
    split at ended
    · exact held.settled before had ended
    · exact held.settled before had ended
  | AtTurn turn => exact sound

/-- A move keeps the identities of a table, and adds a new one at most. -/
theorem Ordered.ids_apply (ordered : engine.Ordered) (orderly : engine.Orderly move) :
    (engine.apply move).tasks.map Tcb.id = engine.tasks.map Tcb.id ∨
      ∃ id, engine.tasks.get id = none ∧ (engine.apply move).tasks.map Tcb.id = engine.tasks.map Tcb.id ++ [id] := by
  cases move with
  | Spawn caller manifest => exact (engine.spawn_tasks caller manifest).ids.imp id fun added => ⟨_,added⟩
  | SpawnSubAgent manifest =>
    obtain ⟨grown,grows,same⟩ := ordered.spawn_sub_agent orderly
    have ids : (engine.spawn_sub_agent manifest).tasks.map Tcb.id = grown.map Tcb.id := by
      obtain same | same := same
      · rw [same]
      · rw [same]
        exact map_modify Tcb.id fun _ => rfl
    rw [apply,ids]
    exact grows.ids.imp id fun added => ⟨_,added⟩
  | Join agent_id usage next => exact .inl (map_modify Tcb.id fun task => congrArg Prod.fst (task.joined_authority usage next))
  | SetState agent_id state => exact .inl (map_modify Tcb.id fun _ => rfl)
  | Acknowledge agent_id => exact .inl (map_modify Tcb.id fun task => congrArg Prod.fst task.acknowledged_authority)
  | Return agent_id => exact .inl (ids_congr (engine.tasks.return_child_budget_authority agent_id))
  | AtTurn turn => exact .inl rfl

/-- An orderly move keeps the table in order. -/
theorem Ordered.apply (ordered : engine.Ordered) (orderly : engine.Orderly move) : (engine.apply move).Ordered := by
  have sound := ordered.sound_apply orderly
  obtain ids | ⟨id,fresh,ids⟩ := ordered.ids_apply orderly
  · exact ⟨ids ▸ ordered.distinct,ids ▸ ordered.rooted,sound⟩
  have absent : id ∉ engine.tasks.map Tcb.id := fun listed => by
    have taken := get_isSome.mpr listed
    rw [fresh] at taken
    cases taken
  refine ⟨ids ▸ List.nodup_append.mpr ⟨ordered.distinct,List.nodup_singleton id,?_⟩,ids ▸ List.mem_append_left _ ordered.rooted,sound⟩
  rintro other listed _ single rfl
  exact absent (List.mem_singleton.mp single ▸ listed)

/-- What every orderly move keeps, every run keeps. -/
theorem run_keeps {condition : Engine → Move → Prop} (holds : Engine → Prop)
    (fresh : ∀ engine manifest, condition engine (.SpawnSubAgent manifest) → engine.tasks.get manifest.agent_id = none)
    (kept : ∀ engine move, engine.Ordered → engine.Orderly move → condition engine move → holds engine →
    holds (engine.apply move))
    (ordered : engine.Ordered) (rested : RestedBut none engine.tasks) (start : holds engine) {events : List Event}
    (met : Meets condition engine events) : (engine.run events).Ordered ∧ holds (engine.run events) := by
  have moved : ∀ (moves : List Move) (engine : Engine), engine.Ordered → holds engine → Along Orderly engine moves → Along condition engine moves →
      (moves.foldl apply engine).Ordered ∧ holds (moves.foldl apply engine) := by
    intro moves
    induction moves with
    | nil => exact fun _ ordered held _ _ => ⟨ordered,held⟩
    | cons move rest ih =>
    intro engine ordered held in_order meets
    exact ih _ (ordered.apply in_order.1) (kept engine move ordered in_order.1 meets.1 held) in_order.2 meets.2
  induction events generalizing engine with
  | nil => exact ⟨ordered,start⟩
  | cons event rest ih =>
  have unused : ∀ manifest, event = .SpawnSubAgent manifest → engine.tasks.get manifest.agent_id = none := by
    rintro manifest rfl
    exact fresh engine manifest met.1.1
  obtain ⟨in_order,rests⟩ := moves_orderly ordered rested event unused
  obtain ⟨later,held⟩ := moved _ engine ordered start in_order met.1
  exact ih later rests held met.2

theorem new_ordered (capabilities : List Capability) (resource_quota : Option ResourceQuota)
    (budget_grant : Option Wire.BudgetGrant) :
    (new capabilities resource_quota budget_grant).Ordered := by
  refine ⟨List.nodup_singleton _,List.mem_singleton_self _,fun task member => ?_⟩
  rw [List.mem_singleton.mp member]
  exact ⟨by rintro grant ⟨⟩,by rintro grant ⟨⟩,iff_of_true rfl rfl,fun _ => ⟨rfl,rfl⟩⟩

theorem new_rested (capabilities : List Capability) (resource_quota : Option ResourceQuota)
    (budget_grant : Option Wire.BudgetGrant) :
    RestedBut none (new capabilities resource_quota budget_grant).tasks := by
  intro task member _ joined
  rw [List.mem_singleton.mp member] at joined
  cases joined

end Engine

/-- What is out of the reservation a task holds. -/
def Tcb.outstanding (axis : Axis) (task : Tcb) : Nat :=
  match task.budget_grant with
  | some grant => if grant.settled then 0 else (grant.reserved.amount axis).getD 0
  | none => 0

/-- What the children of a task hold of its pool. -/
def TaskTable.handed (axis : Axis) (table : TaskTable) (id : TaskId) : Nat :=
  (table.map fun task => if task.parent = some id then task.outstanding axis else 0).sum

def TaskTable.unsettled (table : TaskTable) (id : TaskId) : Bool := ((table.get id).bind budget_grant).any fun grant => !grant.settled

theorem handed_accounts (seed : Option ResourceBudget) (axis : Axis) (table : TaskTable) (id : TaskId) :
    below (table.accounts seed axis) id out = table.handed axis id := by
  rw [below,total,accounts,List.map_map]
  refine congrArg List.sum (List.map_congr_left fun task _ => ?_)
  have out : (task.account seed axis).out = task.outstanding axis := by
    cases held : task.budget_grant with
    | none => simp [out,account,outstanding,held]
    | some grant => simp [out,account,outstanding,allowance,held]
  simp only [Function.comp,out]
  rfl

namespace Engine
variable {seed : Option ResourceBudget} {axis : Axis}

/-- What is left in the pool a spawn would draw on. -/
def caller_pool (engine : Engine) (axis : Axis) (caller : Option TaskId) : Option Nat :=
  ((caller.or engine.tasks.root_id).bind engine.tasks.get).bind (pool axis)

/-- A spawn out of a pool that bounds the axis names the axis, a direct one under a new identity; and what is settled has
    nothing of its pool out. -/
def Metered (axis : Axis) (engine : Engine) : Move → Prop
  | .Spawn caller manifest => engine.caller_pool axis caller = none ∨ (on axis manifest.requested_budget).isSome = true
  | .SpawnSubAgent manifest => (engine.tasks.get manifest.agent_id).isNone = true ∧
      (engine.caller_pool axis none = none ∨ (on axis manifest.requested_budget).isSome = true)
  | .Return agent_id => engine.tasks.unsettled agent_id = false ∨ engine.tasks.handed axis agent_id = 0
  | _ => True

instance (axis : Axis) (engine : Engine) (move : Move) : Decidable (Metered axis engine move) := by
  cases move <;> unfold Metered <;> infer_instance

private theorem unsettled_of_live {task : Tcb} (sound : task.Sound) (live : task.state.is_terminal = false) (parented : task.parent.isSome = true)
    (granted : (task.allowance seed axis).isSome = true) : (task.account seed axis).settled = false := by
  cases held : task.budget_grant with
  | none =>
    rw [allowance,held] at granted
    simp [isNone_iff_eq_none,ne_none_iff_isSome.mpr parented] at granted
  | some grant =>
  rw [account_settled seed axis held]
  cases ended : grant.settled with
  | false => rfl
  | true => exact absurd (sound.settled grant held ended) (by simp [live])

variable {engine : Engine}

/-- A child that is granted its budget keeps the accounts contained. -/
theorem grown_contained (ordered : engine.Ordered) {caller_id : Option TaskId} {manifest : IsolationManifest}
    {state : TaskLifecycle}
    {after : TaskTable} (grown : Grown engine.tasks caller_id manifest state after)
    (metered : (caller_id.bind engine.tasks.get).bind (pool axis) = none ∨
    (on axis manifest.requested_budget).isSome = true)
    (contained : Contained (engine.tasks.accounts seed axis)) : Contained (after.accounts seed axis) := by
  have listed : ∀ {parent : Tcb}, engine.tasks.get parent.id = some parent → parent.account seed axis ∈ engine.tasks.accounts seed axis :=
    fun found => List.mem_map_of_mem (get_some found).1
  have fresh_key : engine.tasks.get manifest.agent_id = none → manifest.agent_id ∉ (engine.tasks.accounts seed axis).map key := by
    intro fresh held
    rw [accounts_keys] at held
    obtain ⟨task,known,same⟩ := List.mem_map.mp held
    exact get_none fresh task known same
  have metered_pool : ∀ {parent : Tcb}, caller_id = some parent.id → engine.tasks.get parent.id = some parent →
      (parent.pool axis).isSome = true → (on axis manifest.requested_budget).isSome = true := by
    intro parent named found bounded
    obtain none_left | asks := metered
    · rw [named,bind_some,found,bind_some] at none_left
      rw [none_left] at bounded
      cases bounded
    · exact asks
  cases grown with
  | unmoved => exact contained
  | @drawn parent remaining requested draws =>
    rw [debited_accounts seed axis ordered.distinct draws.found draws.pool]
    exact contained.take _ _
  | @funded parent remaining requested draws hosts =>
    have lender_open : (parent.account seed axis).parent.isSome = true → (parent.account seed axis).granted.isSome = true →
        (parent.account seed axis).settled = true → (opened manifest.agent_id parent.id (requested.amount axis)).out = 0 := by
      intro parented given ended
      obtain live | top := hosts.live
      · exact absurd ended (by simp [unsettled_of_live (ordered.sound parent (get_some draws.found).1) live parented given])
      · rw [show (parent.account seed axis).parent = none from top] at parented
        cases parented
    have lent : Contained (take (engine.tasks.accounts seed axis) (parent.account seed axis).key ((requested.amount axis).getD 0) ++
        [.opened manifest.agent_id parent.id (requested.amount axis)]) := by
      refine contained.lend (listed draws.found) (fresh_key hosts.fresh) rfl (by rintro ⟨⟩) ?_ ?_ lender_open
      · refine contained.balanced.lend (listed draws.found) (fresh_key hosts.fresh) rfl rfl ?_ fun _ has => has
        intro left has
        refine ⟨le_rfl,within_pool axis draws.fits ?_⟩
        have pool_left : parent.pool axis = remaining.amount axis := by rw [pool,draws.pool]; rfl
        exact pool_left.symm.trans has
      · intro bounded
        have asks := metered_pool draws.caller draws.found bounded
        rwa [draws.asked] at asks
    rw [accounts_append,debited_accounts seed axis ordered.distinct draws.found draws.pool,funded_account]
    exact lent
  | @bare parent named found unfunded hosts =>
  have unbounded : parent.pool axis = none := by
    cases bounded : parent.pool axis with
    | none => rfl
    | some left =>
    have asks := metered_pool named found (by simp [bounded])
    obtain none_asked | no_pool := unfunded
    · rw [none_asked] at asks
      cases asks
    · rw [pool,no_pool] at bounded
      cases bounded
  have lent : Contained (take (engine.tasks.accounts seed axis) (parent.account seed axis).key 0 ++ [.bare manifest.agent_id parent.id]) := by
    refine contained.lend (listed found) (fresh_key hosts.fresh) rfl (fun _ => rfl) ?_ ?_ fun _ _ _ => rfl
    · refine contained.balanced.lend (listed found) (fresh_key hosts.fresh) rfl rfl ?_ (by rintro left ⟨⟩)
      intro left has
      exact absurd (unbounded.symm.trans has) (by simp)
    · intro bounded
      have some_left : (parent.pool axis).isSome = true := bounded
      rw [unbounded] at some_left
      cases some_left
  rw [take_zero] at lent
  rw [accounts_append,spawned_in_account]
  exact lent

/-- A settlement that meets the condition settles an open loan with nothing lent out of it, or nothing. -/
theorem return_loan (ordered : engine.Ordered) {agent_id : TaskId} (metered : Metered axis engine (.Return agent_id)) :
    (engine.tasks.return_child_budget agent_id).accounts seed axis = engine.tasks.accounts seed axis ∨
      ∃ loan ∈ engine.tasks.accounts seed axis, ∃ lender, loan.settled = false ∧ loan.parent = some lender ∧
        below (engine.tasks.accounts seed axis) loan.key out = 0 ∧
        (engine.tasks.return_child_budget agent_id).accounts seed axis =
        settle axis.limit (engine.tasks.accounts seed axis) loan lender := by
  obtain same | ⟨child,grant,found,held,unsettled,same⟩ := return_accounts seed axis ordered.distinct agent_id
  · exact .inl (congrArg _ same)
  obtain ⟨member,rfl⟩ := TaskTable.get_some found
  have rests : engine.tasks.handed axis child.id = 0 := by
    refine metered.resolve_left ?_
    simp [TaskTable.unsettled,found,held,unsettled]
  refine .inr ⟨child.account seed axis,List.mem_map_of_mem member,grant.parent,?_,((ordered.sound child member).reserved grant held).1,?_,same⟩
  · rw [account_settled seed axis held]
    exact unsettled
  · exact (handed_accounts seed axis engine.tasks child.id).trans rests

theorem accounts_set_state (table : TaskTable) (agent_id : TaskId) (state : TaskLifecycle) :
    (table.set_state agent_id state).accounts seed axis = table.accounts seed axis := by
  refine accounts_kept fun task _ _ => ?_
  rfl

theorem accounts_acknowledge (table : TaskTable) (agent_id : TaskId) :
    (table.modify agent_id acknowledged).accounts seed axis = table.accounts seed axis := by
  refine accounts_kept fun task _ _ => ?_
  unfold acknowledged
  split <;> rfl

/-- A direct spawn of a new identity changes the accounts as a spawn of the run queue by the root does. -/
theorem Ordered.spawn_sub_agent_accounts (ordered : engine.Ordered) {manifest : IsolationManifest}
    (fresh : engine.tasks.get manifest.agent_id = none) :
    ∃ grown, Grown engine.tasks (some "root") manifest .Running grown ∧
      (engine.spawn_sub_agent manifest).tasks.accounts seed axis = grown.accounts seed axis := by
  obtain ⟨grown,grows,same | same⟩ := ordered.spawn_sub_agent fresh
  · exact ⟨grown,grows,by rw [same]⟩
  · exact ⟨grown,grows,by rw [same,accounts_set_state]⟩

theorem Ordered.caller_pool (ordered : engine.Ordered) :
    engine.caller_pool axis none = ((some "root").bind engine.tasks.get).bind (pool axis) := by
  obtain ⟨_,rooted,_,_⟩ := ordered.root
  rw [Engine.caller_pool,none_or,rooted]

private theorem apply_contained {move : Move} (ordered : engine.Ordered) (metered : Metered axis engine move)
    (contained : Contained (engine.tasks.accounts seed axis)) : Contained ((engine.apply move).tasks.accounts seed axis) := by
  cases move with
  | Spawn caller manifest => exact grown_contained ordered (engine.spawn_tasks caller manifest) metered contained
  | SpawnSubAgent manifest =>
    obtain ⟨grown,grows,same⟩ := ordered.spawn_sub_agent_accounts (isNone_iff_eq_none.mp metered.1)
    exact same.symm ▸ grown_contained ordered grows (ordered.caller_pool ▸ metered.2) contained
  | Join agent_id usage next =>
    obtain same | ⟨_,_,_,_,_,same⟩ := join_accounts seed axis engine ordered.distinct
      (fun task member => (ordered.sound task member).reserved) agent_id usage next
    · exact same.symm ▸ contained
    · exact same.symm ▸ contained.spend _ _ _
  | SetState agent_id state => exact (accounts_set_state engine.tasks agent_id state).symm ▸ contained
  | Acknowledge agent_id => exact (accounts_acknowledge engine.tasks agent_id).symm ▸ contained
  | Return agent_id =>
    obtain same | ⟨loan,member,lender,unsettled,under,rests,same⟩ := return_loan ordered metered
    · exact same.symm ▸ contained
    · exact same.symm ▸ contained.settle axis.limit member unsettled under rests
  | AtTurn turn => exact contained

/-- A new engine's accounts are contained. -/
theorem new_contained (capabilities : List Capability) (resource_quota : Option ResourceQuota)
    (budget_grant : Option Wire.BudgetGrant) (axis : Axis) :
    Contained ((new capabilities resource_quota budget_grant).tasks.accounts (root_child_budget_seed budget_grant)
    axis) := by
  refine ⟨⟨List.nodup_singleton _,?_,?_,?_⟩,?_,?_⟩
  · intro account member parent under
    rw [List.mem_singleton.mp member] at under
    cases under
  · intro account member unsettled
    rw [List.mem_singleton.mp member] at unsettled
    cases unsettled
  · intro account member left has
    rw [List.mem_singleton.mp member] at has ⊢
    refine ⟨left,has,?_⟩
    simp [below,total,accounts,new,Tcb.account,Tcb.root]
  · intro account member above _ under
    rw [List.mem_singleton.mp member] at under
    cases under
  · intro account member parented
    rw [List.mem_singleton.mp member] at parented
    cases parented

end Engine

/-- The tasks above a task, by any number of spawns. -/
inductive Above (tasks : TaskTable) : Tcb → Tcb → Prop where
  | parent {task ancestor : Tcb} : task ∈ tasks → ancestor ∈ tasks → task.parent = some ancestor.id → Above tasks task ancestor
  | step {task between ancestor : Tcb} : Above tasks task between → Above tasks between ancestor → Above tasks task ancestor

/-- Below a task whose pool bounds an axis every pool does, and what the live tasks there may still hand out is
    within what the task was granted. -/
def BudgetContained (seed : Option ResourceBudget) (axis : Axis) (tasks : TaskTable) : Prop :=
  ∀ task ∈ tasks, (task.pool axis).isSome = true → ∃ granted, task.allowance seed axis = some granted ∧
    (∀ lower, Above tasks lower task → (lower.pool axis).isSome = true) ∧
    ∀ live : List Tcb, live.Sublist tasks → (∀ lower ∈ live, Above tasks lower task ∧ lower.state.is_terminal = false) →
      (live.map fun lower => (lower.pool axis).getD 0).sum ≤ granted

section Contained
variable {seed : Option ResourceBudget} {axis : Axis} {tasks : TaskTable}

theorem Above.accounts {lower upper : Tcb} (above : Above tasks lower upper) :
    Relation.TransGen (Under (tasks.accounts seed axis)) (lower.account seed axis) (upper.account seed axis) := by
  induction above with
  | parent member listed parented => exact .single ⟨List.mem_map_of_mem member,List.mem_map_of_mem listed,parented⟩
  | step _ _ first second => exact first.trans second

theorem Above.lower {lower upper : Tcb} (above : Above tasks lower upper) :
    lower ∈ tasks ∧ lower.parent.isSome = true := by
  induction above with
  | parent member _ parented => exact ⟨member,by simp [parented]⟩
  | step _ _ first _ => exact first

private theorem budget_contained (sound : ∀ task ∈ tasks, task.Sound) (contained : Contained (tasks.accounts seed axis)) :
    BudgetContained seed axis tasks := by
  intro task member bounded
  have bounded_below : ∀ lower, Above tasks lower task → (lower.pool axis).isSome = true :=
    fun lower above => contained.bounded_below (Above.accounts above) bounded
  have granted_of_bounded : ∀ task ∈ tasks, (task.pool axis).isSome = true → ∃ granted, task.allowance seed axis = some granted := by
    intro task member bounded
    obtain ⟨left,has⟩ := isSome_iff_exists.mp bounded
    obtain ⟨granted,given,_⟩ := contained.balanced.bounded (task.account seed axis) (List.mem_map_of_mem member) left has
    exact ⟨granted,given⟩
  obtain ⟨granted,given⟩ := granted_of_bounded task member bounded
  refine ⟨granted,given,bounded_below,fun live sub inside => ?_⟩
  have top : (task.account seed axis).granted = some granted := given
  have chosen : ∀ account ∈ live.map (Tcb.account seed axis),
      Relation.TransGen (Under (tasks.accounts seed axis)) account (task.account seed axis) ∧ account.settled = false := by
    intro account held
    obtain ⟨lower,listed,rfl⟩ := List.mem_map.mp held
    obtain ⟨above,running⟩ := inside lower listed
    obtain ⟨known,parented⟩ := above.lower
    obtain ⟨amount,named⟩ := granted_of_bounded lower known (bounded_below lower above)
    exact ⟨Above.accounts above,unsettled_of_live (sound lower known) running parented (by simp [named])⟩
  have within_grant := contained.left_below bounded top (sub.map (Tcb.account seed axis)) chosen
  rw [total,List.map_map] at within_grant
  exact within_grant

/-- In every operation whose spawns out of a bounded pool name the axis, whose direct spawns name no task of the table, and
    which settles no task with part of its pool out, the budgets of live tasks are contained in the budgets above them. -/
theorem live_budgets_contained (capabilities : List Capability) (resource_quota : Option ResourceQuota)
    (budget_grant : Option Wire.BudgetGrant)
    (axis : Axis) (events : List Engine.Event)
    (met : Engine.Meets (Engine.Metered axis) (new capabilities resource_quota budget_grant) events) :
    BudgetContained (root_child_budget_seed budget_grant) axis
    ((new capabilities resource_quota budget_grant).run events).tasks := by
  obtain ⟨ordered,contained⟩ := run_keeps
    (fun engine => Contained (engine.tasks.accounts (root_child_budget_seed budget_grant) axis))
    (fun _ _ metered => isNone_iff_eq_none.mp metered.1)
    (fun _ _ ordered _ metered contained => apply_contained ordered metered contained)
    (new_ordered capabilities resource_quota budget_grant) (new_rested capabilities resource_quota budget_grant)
    (new_contained capabilities resource_quota budget_grant axis) met
  exact budget_contained ordered.sound contained

end Contained

/-- A budget of tokens alone. -/
def ResourceBudget.of_tokens (tokens : Nat) : ResourceBudget where
  amount
    | .tokens => some (min tokens Axis.tokens.limit)
    | _ => none
  fits axis value held := by
    split at held
    · cases held
      exact Nat.min_le_right _ _
    · cases held

/-- A child that asks for a number of tokens, or for no budget. -/
def IsolationManifest.asking (agent_id : TaskId) (tokens : Option Nat) : IsolationManifest :=
  ⟨agent_id,[],tokens.map of_tokens⟩

/-- An operation with a pool of a hundred tokens. -/
def Engine.with_hundred_tokens : Engine := .new [] none (some ⟨"grant",some 100,none,none⟩)

/-- A child of a child, and a sub-agent beside them. -/
theorem live_budgets_contained_nested :
    Engine.Meets (Engine.Metered .tokens) with_hundred_tokens
      [.Round none [.asking "a" (some 60)],.Round (some "a") [.asking "b" (some 30)],
      .SpawnSubAgent (.asking "c" (some 10))] ∧
    BudgetContained (root_child_budget_seed (some ⟨"grant",some 100,none,none⟩)) .tokens (with_hundred_tokens.run
      [.Round none [.asking "a" (some 60)],.Round (some "a") [.asking "b" (some 30)],
      .SpawnSubAgent (.asking "c" (some 10))]).tasks :=
  ⟨by decide +kernel,live_budgets_contained _ _ _ _ _ (by decide +kernel)⟩

/-- A child that asks for no budget holds no bound on any axis, whatever bounds its parent. -/
theorem unmetered_child_unbounded :
    ¬ ∀ capabilities resource_quota budget_grant axis events,
      BudgetContained (root_child_budget_seed budget_grant) axis
      ((new capabilities resource_quota budget_grant).run events).tasks := by
  intro all
  have contained := all [] none (some ⟨"grant",some 100,none,none⟩) .tokens [.Round none [.asking "a" none]]
  obtain ⟨root,found,bounded⟩ := (any_eq_true _ _).mp (show ((with_hundred_tokens.run [.Round none [.asking "a" none]]).tasks.get "root").any
    (fun root => (root.pool .tokens).isSome) = true from by decide +kernel)
  obtain ⟨child,listed,facts⟩ := (any_eq_true _ _).mp (show ((with_hundred_tokens.run [.Round none [.asking "a" none]]).tasks.get "a").any
    (fun child => decide (child.parent = some "root" ∧ child.pool .tokens = none)) = true from by decide +kernel)
  obtain ⟨parented,unbounded⟩ := of_decide_eq_true facts
  obtain ⟨member,named⟩ := get_some found
  obtain ⟨_,_,below_bounded,_⟩ := contained root member bounded
  have bound := below_bounded child (.parent (get_some listed).1 member (named ▸ parented))
  rw [unbounded] at bound
  cases bound

end Deepstrike.Scheduler

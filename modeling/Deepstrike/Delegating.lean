import Deepstrike.Spawning

/-!
Authority along chains of spawns. No move of the table but a spawn changes what a task holds or whom it is parented
to; a spawn makes a child whose capabilities passed the gate against those of its caller. A direct spawn may put the
child in the row of another task, so a chain is told by the spawns of a run and not by the rows that are left.
-/
namespace Deepstrike.Scheduler
open Wire Capabilities Tcb List TaskTable Engine Function
open Tasks (TaskLifecycle)
open Vocabulary (Disposition)

/-- What a row keeps for good: its identity, its parent and its capabilities. -/
def Tcb.authority (task : Tcb) : TaskId × Option TaskId × List Capability := (task.id,task.parent,task.capabilities)

theorem Tcb.joined_authority (usage : Usage) (next : TaskLifecycle) (task : Tcb) :
    (task.joined usage next).authority = task.authority := by
  unfold joined
  split <;> rfl

theorem Tcb.acknowledged_authority (task : Tcb) : task.acknowledged.authority = task.authority := by
  unfold acknowledged
  split <;> rfl

theorem Tcb.authority_eq {left right : Tcb} :
    left.authority = right.authority ↔ left.id = right.id ∧ left.parent = right.parent ∧
    left.capabilities = right.capabilities := by
  simp [authority]

namespace TaskTable

variable {table : TaskTable} {id : TaskId}

theorem map_modify {α : Type} (view : Tcb → α) {change : Tcb → Tcb}
    (kept : ∀ task, view (change task) = view task) : (table.modify id change).map view = table.map view := by
  simp only [modify,map_map]
  refine map_congr_left fun task _ => ?_
  simp only [comp]
  split
  · exact kept task
  · rfl

theorem get_some {task : Tcb} (found : table.get id = some task) : task ∈ table ∧ task.id = id :=
  ⟨mem_of_find?_eq_some found,by simpa using find?_some found⟩

theorem get_none (absent : table.get id = none) : ∀ task ∈ table, task.id ≠ id := by
  simpa [get] using absent

theorem get_isSome {table : TaskTable} {id : TaskId} : (table.get id).isSome = true ↔ id ∈ table.map Tcb.id := by
  rw [get,find?_isSome,mem_map]
  simp

theorem insert_fresh {tcb : Tcb} (fresh : table.get tcb.id = none) : table.insert tcb = table ++ [tcb] := by
  rw [insert,fresh]
  rfl

theorem mem_insert {tcb task : Tcb} (member : task ∈ table.insert tcb) : task = tcb ∨ task ∈ table := by
  unfold insert at member
  split at member
  · obtain ⟨before,held,rfl⟩ := mem_map.mp member
    split
    · exact .inl rfl
    · exact .inr held
  · exact (mem_append.mp member).symm.imp mem_singleton.mp id

/-- What a child that is spawned was given, and by whom. -/
theorem spawn_child_ok {after : TaskTable} {caller : TaskId} {manifest : IsolationManifest} {state : TaskLifecycle}
    (spawned : table.spawn_child caller manifest state = .ok after) :
    ∃ parent, table.get caller = some parent ∧ parent.state.is_terminal = false ∧ table.get manifest.agent_id = none ∧
      after = table ++ [.spawned_in manifest state caller] := by
  unfold spawn_child at spawned
  split at spawned
  · cases spawned
  next parent found =>
  split at spawned
  · cases spawned
  next live =>
  split at spawned
  · cases spawned
  next fresh =>
  cases spawned
  have absent : table.get manifest.agent_id = none := by simpa using fresh
  exact ⟨parent,found,by simpa using live,absent,insert_fresh absent⟩

theorem attach_authority (table : TaskTable) (child_id : TaskId) (grant : BudgetGrant) :
    (table.attach_child_budget_grant child_id grant).map authority = table.map authority := by
  unfold attach_child_budget_grant
  split
  · rfl
  · exact map_modify authority fun _ => rfl

theorem return_child_budget_authority (table : TaskTable) (child_id : TaskId) :
    (table.return_child_budget child_id).map authority = table.map authority := by
  unfold return_child_budget
  split
  · rfl
  split
  · rfl
  rw [map_modify authority,map_modify authority]
  · intro task
    rfl
  · intro task
    rfl

end TaskTable

namespace Engine

variable {engine : Engine} {manifest : IsolationManifest} {task : Tcb}

/-- An admitted spawn: the capabilities asked for attenuate what the caller holds, and the table has changed
    in the caller's pool at most. -/
theorem evaluate_spawn_quota_inner_allow {after : Engine} {transient : Bool} {caller : Option TaskId}
    (allowed : engine.evaluate_spawn_quota_inner transient caller manifest = (.Allow,after)) :
    ({ engine with pending_budget_grant := none } : Engine).capability_verdict (caller.or engine.tasks.root_id)
    manifest = none ∧
      ({ engine with pending_budget_grant := none } : Engine).budget_verdict (caller.or engine.tasks.root_id)
      manifest = (.Allow,after) := by
  unfold evaluate_spawn_quota_inner at allowed
  simp only at allowed
  split at allowed
  next refused observed verdict =>
    -- The quota refuses or defers, it never allows.
    exfalso
    cases allowed
    revert verdict
    unfold quota_verdict
    simp only
    repeat' split
    all_goals simp_all
  next =>
  split at allowed
  next refused verdict =>
    exfalso
    cases allowed
    revert verdict
    unfold capability_verdict
    repeat' split
    all_goals simp_all
  next verdict => exact ⟨verdict,allowed⟩

private theorem budget_verdict_authority (engine : Engine) (caller_id : Option TaskId) (manifest : IsolationManifest) :
    (engine.budget_verdict caller_id manifest).2.tasks.map authority = engine.tasks.map authority := by
  unfold budget_verdict
  split
  · split
    · rfl
    · exact map_modify authority fun _ => rfl
  · rfl

theorem evaluate_spawn_quota_inner_authority (engine : Engine) (transient : Bool) (caller : Option TaskId)
    (manifest : IsolationManifest) :
    (engine.evaluate_spawn_quota_inner transient caller manifest).2.tasks.map authority =
    engine.tasks.map authority := by
  unfold evaluate_spawn_quota_inner
  simp only
  split
  · rfl
  · split
    · rfl
    · exact budget_verdict_authority _ _ _

variable {tasks after : TaskTable}

theorem ids_congr (same : after.map authority = tasks.map authority) :
    after.map Tcb.id = tasks.map Tcb.id := by
  have firsts := congrArg (map Prod.fst) same
  simpa [comp_def,authority] using firsts

private theorem twin_of_mem (same : after.map authority = tasks.map authority) (member : task ∈ after) :
    ∃ twin ∈ tasks, twin.authority = task.authority := by
  have listed : task.authority ∈ tasks.map authority := same ▸ mem_map_of_mem member
  exact mem_map.mp listed

private theorem delegatable_caps_mem {caller_id : Option TaskId} {capability : Capability}
    (member : capability ∈ engine.delegatable_caps caller_id) :
    ∃ id task, caller_id = some id ∧ engine.tasks.get id = some task ∧ capability ∈ task.capabilities := by
  unfold delegatable_caps at member
  split at member
  next task found =>
    obtain ⟨id,named,held⟩ := Option.bind_eq_some_iff.mp found
    exact ⟨id,task,named,held,(mem_filter.mp member).1⟩
  next => cases member

private theorem capability_verdict_none {caller_id : TaskId}
    (clean : engine.capability_verdict (some caller_id) manifest = none) (found : engine.tasks.get caller_id = some task) :
    ∀ capability ∈ manifest.requested_capabilities, ∃ origin ∈ task.capabilities, is_attenuation_of capability origin = true := by
  intro capability asked
  unfold capability_verdict at clean
  split at clean
  next nothing =>
    rw [isEmpty_iff.mp nothing] at asked
    cases asked
  next =>
  split at clean
  next within =>
    obtain ⟨origin,held,attenuates⟩ := (caps_subset_iff _ _).mp within capability asked
    obtain ⟨id,holder,named,held_by,member⟩ := delegatable_caps_mem held
    cases named
    cases found.symm.trans held_by
    exact ⟨origin,member,attenuates⟩
  next => cases clean

theorem root_id_congr (same : after.map authority = tasks.map authority) :
    TaskTable.root_id after = TaskTable.root_id tasks := by
  have rooted : ∀ rows : TaskTable, rows.root_id = ((rows.map authority).find? fun row => row.2.1.isNone).map Prod.fst := by
    intro rows
    simp [root_id,find?_map,comp_def,authority]
  rw [rooted,rooted,same]

/-- A launch appends the child it was admitted for, or leaves the rows as they are. -/
theorem spawn_authority (engine : Engine) (caller : Option TaskId) (manifest : IsolationManifest) :
    (engine.spawn caller manifest).tasks.map authority = engine.tasks.map authority ∨
      ∃ parent, (caller.or engine.tasks.root_id).bind engine.tasks.get = some parent ∧
      engine.tasks.get manifest.agent_id = none ∧
        (∀ capability ∈ manifest.requested_capabilities, ∃ origin ∈ parent.capabilities,
        is_attenuation_of capability origin = true) ∧
        (engine.spawn caller manifest).tasks.map authority =
          engine.tasks.map authority ++ [(manifest.agent_id,some parent.id,manifest.requested_capabilities)] := by
  have kept := engine.evaluate_spawn_quota_inner_authority true caller manifest
  unfold spawn
  cases gate : engine.evaluate_spawn_quota_inner true caller manifest with
  | mk verdict gated =>
  rw [gate] at kept
  cases verdict with
  | Deny stage reason => exact .inl kept
  | Gate reason => exact .inl kept
  | RateLimited retry_after_ms => exact .inl kept
  | Defer slot => exact .inl kept
  | Allow =>
  show (gated.launch caller manifest).tasks.map authority = _ ∨
    ∃ parent, _ ∧ _ ∧ _ ∧ (gated.launch caller manifest).tasks.map authority = _
  obtain ⟨clean,_⟩ := evaluate_spawn_quota_inner_allow gate
  unfold launch
  split
  · exact .inl kept
  next parent_id named =>
  rw [root_id_congr kept] at named
  split
  · exact .inl kept
  next tasks spawned =>
  obtain ⟨parent,found,_,fresh,rfl⟩ := spawn_child_ok spawned
  have known : (engine.tasks.get parent_id).isSome = true := by
    rw [get_isSome,← ids_congr kept]
    exact get_isSome.mp (by rw [found]; rfl)
  obtain ⟨task,holds⟩ := Option.isSome_iff_exists.mp known
  rw [named] at clean
  refine .inr ⟨task,by rw [named]; exact holds,?_,capability_verdict_none clean holds,?_⟩
  · rw [← Option.not_isSome_iff_eq_none,get_isSome,← ids_congr kept,← get_isSome,fresh]
    exact Bool.false_ne_true
  rw [(get_some holds).2]
  have appended : ∀ rows : TaskTable,
      rows.map authority = (gated.tasks ++ [spawned_in manifest .PendingLaunch parent_id]).map authority →
      rows.map authority = engine.tasks.map authority ++ [(manifest.agent_id,some parent_id,manifest.requested_capabilities)] := by
    intro rows same
    rw [same,map_append,kept]
    rfl
  split
  · exact appended _ rfl
  · exact appended _ (attach_authority _ _ _)

theorem evaluate_spawn_quota_inner_refused {engine after : Engine} {transient : Bool} {caller : Option TaskId}
    {verdict : Disposition} (refused : engine.evaluate_spawn_quota_inner transient caller manifest = (verdict,after))
    (other : verdict ≠ .Allow) :
    after.tasks = engine.tasks := by
  unfold evaluate_spawn_quota_inner at refused
  simp only at refused
  split at refused
  · cases refused
    rfl
  next =>
  split at refused
  · cases refused
    rfl
  next =>
  unfold budget_verdict at refused
  split at refused
  · split at refused
    · cases refused
      rfl
    · cases refused
      exact absurd rfl other
  · cases refused
    exact absurd rfl other

/-- A direct spawn is denied and leaves the table, or is admitted and adopts the child. -/
theorem spawn_sub_agent_cases (engine : Engine) (manifest : IsolationManifest) :
    (engine.admits manifest = false ∧ (engine.spawn_sub_agent manifest).tasks = engine.tasks) ∨
      ∃ gated, engine.evaluate_spawn_quota_inner false none manifest = (.Allow,gated) ∧ engine.admits manifest = true ∧
        engine.spawn_sub_agent manifest = gated.adopt manifest := by
  have decided : (engine.evaluate_spawn_quota manifest).1 = .Allow ∨ ∃ stage reason,
    (engine.evaluate_spawn_quota manifest).1 = .Deny stage reason := by
    unfold evaluate_spawn_quota evaluate_spawn_quota_inner
    simp only
    split
    next refused observed verdict =>
      revert verdict
      unfold quota_verdict
      simp only [Bool.false_eq_true,if_false]
      repeat' split
      all_goals intro verdict
      all_goals cases verdict
      all_goals exact .inr ⟨_,_,rfl⟩
    next =>
    split
    next refused verdict =>
      revert verdict
      unfold capability_verdict
      repeat' split
      all_goals intro verdict
      all_goals cases verdict
      all_goals exact .inr ⟨_,_,rfl⟩
    next =>
    unfold budget_verdict
    split
    · split
      · exact .inr ⟨_,_,rfl⟩
      · exact .inl rfl
    · exact .inl rfl
  unfold admits spawn_sub_agent
  cases gate : engine.evaluate_spawn_quota manifest with
  | mk verdict gated =>
  rw [gate] at decided
  obtain rfl | ⟨stage,reason,rfl⟩ := decided
  · exact .inr ⟨gated,gate,rfl,rfl⟩
  · have other : Disposition.Deny stage reason ≠ .Allow := nofun
    have kept : gated.tasks = engine.tasks := evaluate_spawn_quota_inner_refused gate other
    exact .inl ⟨rfl,kept⟩

private theorem mem_set_lifecycle {state : TaskLifecycle} (member : task ∈ set_lifecycle tasks state) :
    task.capabilities = [] ∨ ∃ before ∈ tasks, before.authority = task.authority := by
  obtain ⟨before,held,rfl⟩ := mem_map.mp member
  have same : (if before.id = "root" then { before with state } else before).authority = before.authority := by split <;> rfl
  have nothing : before.capabilities = [] ∨ before ∈ tasks := by
    split at held
    · obtain rfl | older := mem_insert held
      · exact .inl rfl
      · exact .inr older
    · exact .inr held
  exact nothing.imp (fun empty => (authority_eq.mp same).2.2.trans empty) fun older => ⟨before,older,same.symm⟩

/-- The rows of a direct spawn: those of the table, and that of the child if it is admitted. -/
theorem spawn_sub_agent_rows (member : task ∈ (engine.spawn_sub_agent manifest).tasks) :
    task.capabilities = [] ∨ (∃ before ∈ engine.tasks, before.authority = task.authority) ∨
      engine.admits manifest = true ∧
      task.authority = (spawned_in manifest .Running engine.tasks.root_id).authority := by
  obtain ⟨_,same⟩ | ⟨gated,gate,admitted,same⟩ := engine.spawn_sub_agent_cases manifest
  · exact .inr (.inl ⟨task,same ▸ member,rfl⟩)
  have kept := engine.evaluate_spawn_quota_inner_authority false none manifest
  rw [gate] at kept
  rw [same] at member
  obtain nothing | ⟨before,held,alike⟩ := mem_set_lifecycle member
  · exact .inl nothing
  have attached : ∃ row ∈ gated.tasks.insert (.spawned_in manifest .Running gated.tasks.root_id), row.authority = before.authority := by
    split at held
    · exact twin_of_mem (attach_authority _ _ _) held
    · exact ⟨before,held,rfl⟩
  obtain ⟨row,listed,twins⟩ := attached
  obtain rfl | older := mem_insert listed
  · rw [root_id_congr kept] at twins
    exact .inr (.inr ⟨admitted,(twins.trans alike).symm⟩)
  · obtain ⟨origin,stands,equal⟩ := twin_of_mem kept older
    exact .inr (.inl ⟨origin,stands,equal.trans (twins.trans alike)⟩)

/-- The row of the caller as the gate sees it and the row of the child, of a spawn that creates one. -/
def creates (engine : Engine) : Move → Option (Tcb × Tcb)
  | .Spawn caller manifest =>
    if (engine.tasks.get manifest.agent_id).isNone ∧ ((engine.spawn caller manifest).tasks.get manifest.agent_id).isSome then
      ((caller.or engine.tasks.root_id).bind engine.tasks.get).map fun parent => (parent,.spawned_in manifest .PendingLaunch parent.id)
    else none
  | .SpawnSubAgent manifest =>
    if engine.admits manifest then
      (engine.tasks.root_id.bind engine.tasks.get).map fun parent => (parent,.spawned_in manifest .Running parent.id)
    else none
  | _ => none

private theorem ids_isSome {id : TaskId} (same : after.map authority = engine.tasks.map authority) :
    (after.get id).isSome = (engine.tasks.get id).isSome := by
  rw [Bool.eq_iff_iff,get_isSome,get_isSome,ids_congr same]

/-- What a child is created with attenuates what its caller holds. -/
theorem creates_attenuates {move : Move} {parent child : Tcb} (created : engine.creates move = some (parent,child)) :
    ∀ capability ∈ child.capabilities, ∃ origin ∈ parent.capabilities, is_attenuation_of capability origin = true := by
  cases move with
  | Spawn caller manifest =>
    simp only [creates] at created
    split at created
    next fresh =>
      obtain ⟨caller_row,found,same⟩ := Option.map_eq_some_iff.mp created
      cases same
      obtain ⟨absent,present⟩ := fresh
      obtain same | ⟨other,listed,_,attenuates,_⟩ := engine.spawn_authority caller manifest
      · rw [ids_isSome same,← Option.not_isNone,absent] at present
        cases present
      · cases listed.symm.trans found
        exact attenuates
    next => cases created
  | SpawnSubAgent manifest =>
    simp only [creates] at created
    split at created
    next admitted =>
      obtain ⟨caller_row,found,same⟩ := Option.map_eq_some_iff.mp created
      cases same
      obtain ⟨denied,_⟩ | ⟨gated,gate,_,_⟩ := engine.spawn_sub_agent_cases manifest
      · rw [denied] at admitted
        cases admitted
      · obtain ⟨clean,_⟩ := evaluate_spawn_quota_inner_allow gate
        obtain ⟨root,rooted,holds⟩ := Option.bind_eq_some_iff.mp found
        rw [Option.none_or,rooted] at clean
        exact capability_verdict_none clean holds
    next => cases created
  | Join agent_id usage next => cases created
  | SetState agent_id state => cases created
  | Acknowledge agent_id => cases created
  | Return agent_id => cases created
  | AtTurn turn => cases created

/-- Every row behind a move holds nothing, or was there before it, or is that of the child that the move creates. -/
theorem apply_rows {move : Move} (member : task ∈ (engine.apply move).tasks) :
    task.capabilities = [] ∨ (∃ before ∈ engine.tasks, before.authority = task.authority) ∨
      ∃ parent child, engine.creates move = some (parent,child) ∧ parent ∈ engine.tasks ∧
      child.authority = task.authority := by
  have unmoved : (engine.apply move).tasks.map authority = engine.tasks.map authority →
      ∃ before ∈ engine.tasks, before.authority = task.authority := fun same => twin_of_mem same member
  cases move with
  | Spawn caller manifest =>
    obtain same | ⟨parent,found,fresh,_,same⟩ := engine.spawn_authority caller manifest
    · exact .inr (.inl (unmoved same))
    have listed : task.authority ∈ (engine.spawn caller manifest).tasks.map authority := mem_map_of_mem member
    rw [same] at listed
    obtain older | new := mem_append.mp listed
    · exact .inr (.inl (mem_map.mp older))
    have named : manifest.agent_id ∈ (engine.spawn caller manifest).tasks.map Tcb.id := by
      have ids : (engine.spawn caller manifest).tasks.map Tcb.id = ((engine.spawn caller manifest).tasks.map Tcb.authority).map Prod.fst := by
        simp [comp_def,authority]
      rw [ids,same]
      simp
    refine .inr (.inr ⟨parent,.spawned_in manifest .PendingLaunch parent.id,?_,?_,(mem_singleton.mp new).symm⟩)
    · rw [creates,if_pos ⟨by rw [fresh]; rfl,get_isSome.mpr named⟩,found]
      rfl
    · obtain ⟨_,_,holds⟩ := Option.bind_eq_some_iff.mp found
      exact (get_some holds).1
  | SpawnSubAgent manifest =>
    obtain nothing | before | ⟨admitted,same⟩ := spawn_sub_agent_rows member
    · exact .inl nothing
    · exact .inr (.inl before)
    cases found : engine.tasks.root_id.bind engine.tasks.get with
    | some parent =>
      obtain ⟨root,rooted,holds⟩ := Option.bind_eq_some_iff.mp found
      refine .inr (.inr ⟨parent,.spawned_in manifest .Running parent.id,?_,(get_some holds).1,?_⟩)
      · rw [creates,if_pos admitted,found]
        rfl
      · rw [same,rooted,(get_some holds).2]
    | none =>
    -- Without a root there is nothing to hand on.
    obtain ⟨denied,_⟩ | ⟨gated,gate,_,_⟩ := engine.spawn_sub_agent_cases manifest
    · rw [denied] at admitted
      cases admitted
    left
    obtain ⟨clean,_⟩ := evaluate_spawn_quota_inner_allow gate
    have holds : task.capabilities = manifest.requested_capabilities := (authority_eq.mp same).2.2
    rw [holds]
    refine eq_nil_iff_forall_not_mem.mpr fun capability asked => ?_
    unfold capability_verdict at clean
    split at clean
    next nothing =>
      rw [isEmpty_iff.mp nothing] at asked
      cases asked
    next =>
    split at clean
    next within =>
      obtain ⟨origin,held,_⟩ := (caps_subset_iff _ _).mp within capability asked
      obtain ⟨id,holder,named,held_by,_⟩ := delegatable_caps_mem held
      rw [Option.none_or] at named
      rw [named,Option.bind_some] at found
      exact absurd (held_by.symm.trans found) (by simp)
    next => cases clean
  | Join agent_id usage next => exact .inr (.inl (unmoved (map_modify authority (joined_authority usage next))))
  | SetState agent_id state => exact .inr (.inl (unmoved (map_modify authority fun _ => rfl)))
  | Acknowledge agent_id => exact .inr (.inl (unmoved (map_modify authority acknowledged_authority)))
  | Return agent_id => exact .inr (.inl (unmoved (return_child_budget_authority _ _)))
  | AtTurn turn => exact .inr (.inl (unmoved rfl))

/-- The moves of a list, each with the state that it is made in. -/
def steps : Engine → List Move → List (Engine × Move)
  | _,[] => []
  | engine,move :: rest => (engine,move) :: steps (engine.apply move) rest

/-- The moves of an operation, each with the state that it is made in. -/
def trace : Engine → List Event → List (Engine × Move)
  | _,[] => []
  | engine,event :: rest => engine.steps (engine.moves event) ++ trace (engine.step event) rest

end Engine

/-- A task as it was created stands below another along a chain of spawns: its caller was that one, or stands below it. -/
inductive Descends (trace : List (Engine × Engine.Move)) : Tcb → Tcb → Prop where
  | spawned {engine : Engine} {move : Engine.Move} {parent child : Tcb} : (engine,move) ∈ trace →
    engine.creates move = some (parent,child) → Descends trace child parent
  | further {engine : Engine} {move : Engine.Move} {parent child between ancestor : Tcb} : (engine,move) ∈ trace →
    engine.creates move = some (parent,child) → between.authority = parent.authority → Descends trace between ancestor →
    Descends trace child ancestor

theorem Descends.attenuates {trace : List (Engine × Engine.Move)} {child ancestor : Tcb}
    (descends : Descends trace child ancestor) :
    ∀ capability ∈ child.capabilities, ∃ origin ∈ ancestor.capabilities,
    is_attenuation_of capability origin = true := by
  induction descends with
  | spawned _ created => exact creates_attenuates created
  | further _ created same _ ih =>
  intro capability held
  obtain ⟨between,kept,attenuates⟩ := creates_attenuates created capability held
  rw [← (authority_eq.mp same).2.2] at kept
  obtain ⟨origin,keeps,upper⟩ := ih between kept
  exact ⟨origin,keeps,is_attenuation_of_trans attenuates upper⟩

/-- Every capability in a table attenuates one of a list. -/
def Within (capabilities : List Capability) (tasks : TaskTable) : Prop :=
  ∀ task ∈ tasks, ∀ capability ∈ task.capabilities, ∃ origin ∈ capabilities, is_attenuation_of capability origin = true

/-- One move grants no capability outside the set. -/
theorem Within.apply {capabilities : List Capability} {engine : Engine} (held : Within capabilities engine.tasks)
    (move : Engine.Move) :
    Within capabilities (engine.apply move).tasks := by
  intro task member capability holds
  obtain nothing | ⟨before,listed,same⟩ | ⟨parent,child,created,listed,same⟩ := apply_rows member
  · rw [nothing] at holds
    cases holds
  · exact held before listed capability ((authority_eq.mp same).2.2 ▸ holds)
  · obtain ⟨between,kept,attenuates⟩ := creates_attenuates created capability ((authority_eq.mp same).2.2 ▸ holds)
    obtain ⟨origin,keeps,upper⟩ := held parent listed between kept
    exact ⟨origin,keeps,is_attenuation_of_trans attenuates upper⟩

/-- No run grants a capability outside the set. -/
theorem Within.run {capabilities : List Capability} {engine : Engine} (held : Within capabilities engine.tasks)
    (events : List Engine.Event) :
    Within capabilities (engine.run events).tasks := by
  have moved : ∀ (moves : List Engine.Move) (engine : Engine), Within capabilities engine.tasks →
      Within capabilities (moves.foldl Engine.apply engine).tasks := by
    intro moves
    induction moves with
    | nil => exact fun _ held => held
    | cons move rest ih => exact fun engine held => ih _ (held.apply move)
  induction events generalizing engine with
  | nil => exact held
  | cons event rest ih => exact ih (moved _ _ held)

/-- Containment of selectors is containment of what they match; attenuation is a preorder; along every chain of the spawns
    of an operation a capability admits nothing that the one it was derived from does not; and no task ever holds one that
    admits more than the operation started with. -/
theorem attenuation_never_widens :
    (∀ parent child : ResourceSelector, selector_contains parent child = true ↔
      ∀ resource, resource_matches child resource = true → resource_matches parent resource = true) ∧
    (∀ capability, is_attenuation_of capability capability = true) ∧
    (∀ first second third, is_attenuation_of first second = true → is_attenuation_of second third = true →
      is_attenuation_of first third = true) ∧
    (∀ capabilities resource_quota budget_grant events child ancestor,
      Descends ((new capabilities resource_quota budget_grant).trace events) child ancestor →
      ∀ capability ∈ child.capabilities, ∃ origin ∈ ancestor.capabilities, is_attenuation_of capability origin = true ∧
        ∀ use, capability.Admits use → origin.Admits use) ∧
    ∀ capabilities resource_quota budget_grant events,
      ∀ task ∈ ((new capabilities resource_quota budget_grant).run events).tasks,
      ∀ capability ∈ task.capabilities, ∃ origin ∈ capabilities, is_attenuation_of capability origin = true ∧
        ∀ use, capability.Admits use → origin.Admits use := by
  refine ⟨selector_contains_iff,is_attenuation_of_refl,fun _ _ _ => is_attenuation_of_trans,?_,?_⟩
  · intro capabilities resource_quota budget_grant events child ancestor descends capability held
    obtain ⟨origin,member,attenuates⟩ := descends.attenuates capability held
    exact ⟨origin,member,attenuates,fun _ => admits_of_attenuation attenuates⟩
  intro capabilities resource_quota budget_grant events task listed capability held
  have start : Within capabilities (new capabilities resource_quota budget_grant).tasks := by
    intro task member capability held
    rw [mem_singleton.mp member] at held
    exact ⟨capability,held,is_attenuation_of_refl capability⟩
  obtain ⟨origin,member,attenuates⟩ := start.run events task listed capability held
  exact ⟨origin,member,attenuates,fun _ => admits_of_attenuation attenuates⟩

end Deepstrike.Scheduler

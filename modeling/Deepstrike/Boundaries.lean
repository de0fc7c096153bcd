import Deepstrike.Deferring

/-!
The steps of a context against its rendered knowledge: what each step does is one of four things. It leaves
every entry where it stands, pushes content, takes an entry out, or is a boundary.
-/
namespace Deepstrike.Context
open Std Wire Renderings KnowledgePartition

variable {W : Wording}

/-- The knowledge stays as it is rendered, and the prefix as it was sent. -/
structure Still (before after : ContextManager) : Prop where
  entries : List.Forall₂ Quiet before.knowledge.entries after.knowledge.entries
  sent : after.prefix_sent = before.prefix_sent

section
variable {manager before after : ContextManager}

theorem Still.refl (manager : ContextManager) : Still manager manager := ⟨forall₂_same Quiet.refl _,rfl⟩

theorem Still.trans {last : ContextManager} (first : Still before after) (second : Still after last) :
    Still before last :=
  ⟨quiet_trans first.entries second.entries,second.sent.trans first.sent⟩

theorem Still.of_knowledge (same : after.knowledge = before.knowledge)
    (sent : after.prefix_sent = before.prefix_sent) : Still before after :=
  ⟨same ▸ forall₂_same Quiet.refl _,sent⟩

end

namespace ContextManager
variable {manager before after : ContextManager}

@[simp] theorem prune_item_graph_knowledge (manager : ContextManager) :
    manager.prune_item_graph.knowledge = manager.knowledge := by
  unfold prune_item_graph
  rfl

@[simp] theorem prune_item_graph_sent (manager : ContextManager) :
    manager.prune_item_graph.prefix_sent = manager.prefix_sent := by
  unfold prune_item_graph
  rfl

theorem linkless_still : Linkless Still where
  refl := Still.refl
  trans := Still.trans
  graph _ _ := Still.of_knowledge rfl rfl
  counted _ _ _ := Still.of_knowledge rfl rfl
  observed W _ msg _ _ := ⟨observe_references_quiet W msg _ _,rfl⟩
  credited _ _ _ := ⟨credit_lexical_quiet _ _,rfl⟩
  held _ _ := Still.of_knowledge rfl rfl

private theorem history_still (manager : ContextManager) (history : Partition) : Still manager { manager with history } := Still.of_knowledge rfl rfl

private theorem admit_history_still (manager : ContextManager) (msg : CoreMessage) (tokens : Nat) :
    Still manager (manager.admit_history W msg tokens) :=
  linkless_still.admit_history manager msg tokens (fun _ _ _ _ => Still.of_knowledge rfl rfl) fun _ _ => history_still _ _

private theorem admit_held_still (manager : ContextManager) : Still manager (manager.admit_held W) :=
  linkless_still.admit_held manager fun _ _ _ => admit_history_still _ _ _

private theorem push_history_still (manager : ContextManager) (msg : CoreMessage) (tokens : Nat) :
    Still manager (manager.push_history W msg tokens) :=
  linkless_still.push_history manager msg tokens admit_history_still

private theorem push_history_after_tool_results_still (manager : ContextManager) (msg : CoreMessage) (tokens : Nat) :
    Still manager (manager.push_history_after_tool_results W msg tokens) := by
  unfold push_history_after_tool_results
  split
  · exact Still.of_knowledge rfl rfl
  · exact push_history_still manager msg tokens

private theorem truncate_history_still (manager : ContextManager) (len : Nat) : Still manager (manager.truncate_history len) :=
  Still.of_knowledge (by unfold truncate_history; simp) (by unfold truncate_history; simp)

private theorem remove_knowledge_still (manager : ContextManager) (key : String) : Still manager (manager.remove_knowledge key) :=
  ⟨remove_quiet key,rfl⟩

private theorem sweep_expired_item_leases_still (manager : ContextManager) (turn : Nat) : Still manager (manager.sweep_expired_item_leases turn) :=
  ⟨{ manager.knowledge with turn }.expire_leases_quiet _,rfl⟩

private theorem deactivate_skill_still (manager : ContextManager) (name : String) : Still manager (manager.deactivate_skill name) := by
  unfold deactivate_skill
  split
  · refine ⟨?_,rfl⟩
    dsimp only
    have ended := manager.knowledge.end_lease_quiet .SkillDeactivated ("skill:" ++ name)
    split
    · exact ended
    · exact quiet_trans ended (remove_quiet _)
  · exact Still.refl manager

private theorem sweep_expired_skill_leases_still (manager : ContextManager) (turn : Nat) : Still manager (manager.sweep_expired_skill_leases turn) :=
  linkless_still.foldl _ (fun manager name _ => deactivate_skill_still manager name) manager

private theorem mark_evicted_quiet (budget : Nat) (indices : List Nat) (projected : Nat) (entries : List ContextItem) :
    List.Forall₂ Quiet entries (mark_evicted budget indices projected entries) := by
  induction indices generalizing projected entries with
  | nil => exact forall₂_same Quiet.refl entries
  | cons index rest ih =>
  unfold mark_evicted
  split
  · exact forall₂_same Quiet.refl entries
  · exact quiet_trans (forall₂_modify Quiet.refl fun _ _ => Quiet.of_mark (by simp) (.inr rfl)) (ih _ _)

private theorem enforce_knowledge_budget_still (manager : ContextManager) : Still manager manager.enforce_knowledge_budget := by
  unfold enforce_knowledge_budget
  split
  · exact Still.refl manager
  · split
    · exact Still.refl manager
    · exact ⟨mark_evicted_quiet _ _ _ _,rfl⟩

/-- The item a push appends. -/
structure Fresh (origin : ItemOrigin) (key : Option String) (msg : CoreMessage) (pinned staged : Bool) (item : ContextItem) : Prop where
  lease : item.lease = Lease.for_item origin pinned
  key : item.key = key
  origin : item.origin = origin
  message : item.message = msg
  pending : item.pending = none
  leaving : item.leaving = none
  staged : item.staged = staged

/-- Whether a push under a key replaces the content of an entry. -/
def held (manager : ContextManager) (key : Option String) : Bool := key.any fun key => manager.knowledge.entries.any (keyed key)

private theorem modify_last {α : Type} (rows : List α) (row : α) (change : α → α) :
    (rows ++ [row]).modify ((rows ++ [row]).length-1) change = rows ++ [change row] := by
  rw [List.length_append,List.length_singleton,Nat.add_sub_cancel]
  induction rows with
  | nil => rfl
  | cons first rest ih => rw [List.cons_append,List.length_cons,List.modify_succ_cons,ih,List.cons_append]

/-- An appended item gets its id, and stands staged behind a sent prefix, unless all that is staged is promoted. -/
theorem place_appended {manager : ContextManager} {before : List ContextItem} {item : ContextItem}
    (appended : manager.knowledge.entries = before ++ [item])
    (unstaged : item.staged = false) : ∃ id,
    (manager.place_appended_knowledge before.length).knowledge.entries = before ++
    [{ item with id, staged := manager.prefix_sent }] ∧
        (manager.place_appended_knowledge before.length).prefix_sent = manager.prefix_sent ∨
      manager.prefix_sent = true ∧ (manager.place_appended_knowledge before.length).prefix_sent = false ∧
        (manager.place_appended_knowledge before.length).knowledge.entries =
          (before ++ [{ item with id, staged := true }]).map promoted ∧
        (manager.place_appended_knowledge before.length).cache_invalidated_tokens =
          manager.cache_invalidated_tokens+manager.history.token_count := by
  have longer : ¬manager.knowledge.entries.length = before.length := by simp [appended]
  have named : manager.knowledge.entries.modify (manager.knowledge.entries.length-1) (fun entry => { entry with id := manager.last_item_id+1 }) =
      before ++ [{ item with id := manager.last_item_id+1 }] := by
    rw [appended]
    exact modify_last _ _ _
  have staged : (before ++ [{ item with id := manager.last_item_id+1 }]).modify (manager.knowledge.entries.length-1)
    (fun entry => { entry with staged := true }) =
      before ++ [{ item with id := manager.last_item_id+1, staged := true }] := by
    have length : manager.knowledge.entries.length = (before ++ [{ item with id := manager.last_item_id+1 }]).length := by simp [appended]
    rw [length]
    exact modify_last _ _ _
  refine ⟨manager.last_item_id+1,?_⟩
  unfold place_appended_knowledge
  by_cases sent : manager.prefix_sent = true
  · simp only [longer,if_false,named,staged,sent,Bool.not_true,Bool.false_eq_true]
    split
    · exact .inr ⟨trivial,rfl,rfl,rfl⟩
    · exact .inl ⟨rfl,rfl⟩
  · have unsent : manager.prefix_sent = false := by simpa using sent
    simp only [longer,if_false,named,unsent,Bool.not_false,if_true]
    exact .inl ⟨by rw [← unstaged],trivial⟩

/-- What a push does: the entry under its key waits for its new content, or an item is appended. The item
    is staged behind a sent prefix, and promoted with all that was staged where that is worth it. -/
theorem push_knowledge_item_cases (manager : ContextManager) (origin : ItemOrigin) (key : Option String)
    (msg : CoreMessage) (tokens : Nat)
    (pinned : Bool) :
    (manager.held key ∧ manager.push_knowledge_item origin key msg tokens pinned =
      { manager with knowledge := manager.knowledge.push_item origin key msg tokens pinned }) ∨
    (¬manager.held key ∧ ∃ item, Fresh origin key msg pinned manager.prefix_sent item ∧
      ((manager.push_knowledge_item origin key msg tokens pinned).knowledge.entries = manager.knowledge.entries ++
      [item] ∧
        (manager.push_knowledge_item origin key msg tokens pinned).prefix_sent = manager.prefix_sent ∨
      manager.prefix_sent = true ∧ (manager.push_knowledge_item origin key msg tokens pinned).prefix_sent = false ∧
        (manager.push_knowledge_item origin key msg tokens pinned).knowledge.entries =
          (manager.knowledge.entries ++ [item]).map promoted ∧
        (manager.push_knowledge_item origin key msg tokens pinned).cache_invalidated_tokens =
          manager.cache_invalidated_tokens+manager.history.token_count)) := by
  by_cases found : manager.held key = true
  · left
    refine ⟨found,?_⟩
    have replaced : key.any (fun key => manager.knowledge.entries.any (keyed key)) = true := found
    unfold push_knowledge_item place_appended_knowledge
    rw [if_pos]
    unfold push_item
    rw [if_pos replaced]
    exact length_modifyFirst _
  right
  refine ⟨found,?_⟩
  have absent : ¬key.any (fun key => manager.knowledge.entries.any (keyed key)) = true := found
  have pushed : (manager.knowledge.push_item origin key msg tokens pinned).entries = manager.knowledge.entries ++
      [{ ContextItem.new origin key msg tokens pinned manager.knowledge.turn with
        value := { (ContextItem.new origin key msg tokens pinned manager.knowledge.turn).value with
          paged_in_after_evict := key.any fun key => key ∈ manager.knowledge.evicted_keys } }] := by
    unfold push_item
    rw [if_neg absent]
  let grown : ContextManager := { manager with knowledge := manager.knowledge.push_item origin key msg tokens pinned }
  obtain ⟨id,placed⟩ := @place_appended grown _ _ pushed rfl
  refine ⟨{ ContextItem.new origin key msg tokens pinned manager.knowledge.turn with
    id
    staged := manager.prefix_sent
    value := { (ContextItem.new origin key msg tokens pinned manager.knowledge.turn).value with
      paged_in_after_evict := key.any fun key => key ∈ manager.knowledge.evicted_keys } },⟨rfl,rfl,rfl,rfl,rfl,rfl,rfl⟩,?_⟩
  rcases placed with ⟨entries,sent⟩ | ⟨sent,unsent,entries,counted⟩
  · exact .inl ⟨entries,sent⟩
  · refine .inr ⟨sent,unsent,?_,counted⟩
    rw [show manager.prefix_sent = true from sent]
    exact entries

end ContextManager

/-- The steps of a context that concern its knowledge. What a compaction, a renewal or a provider's summary
    makes of the history is their own; here they bring it. -/
inductive ContextOp where
  | push_knowledge (text : String) (tokens : Nat)
  | push_knowledge_entry (key : Option String) (text : String) (tokens : Nat) (pinned : Bool)
  | push_recalled (record_id line : String)
  | sync_governance_surface_note (note : Option String)
  | remove_knowledge (key : String)
  | note_memory_expanded (record_id : String)
  | sweep_expired_item_leases (turn : Nat)
  | sweep_expired_skill_leases (turn : Nat)
  | activate_skill (name : String) (expires_at_turn : Option Nat)
  | deactivate_skill (name : String)
  | retract_refused_skill (name : String)
  | enforce_knowledge_budget
  | push_history (msg : CoreMessage) (tokens : Nat)
  | push_history_after_tool_results (msg : CoreMessage) (tokens : Nat)
  | release_held_history
  | truncate_history (len : Nat)
  | mark_prefix_sent
  | compress (history : Partition) (archived : Bool)
  | renew (history : Partition)
  | absorb_provider_compaction (history : Partition)

namespace ContextManager

variable (manager : ContextManager)

/-- A compaction is a boundary when it archived something. -/
def compress (history : Partition) (archived : Bool) : ContextManager :=
  if archived then { manager with history }.sweep_knowledge_at_boundary else { manager with history }

def renew (history : Partition) : ContextManager :=
  { manager with
    history
    signals := []
    knowledge := { manager.knowledge with
      entries := manager.knowledge.entries.filter fun entry => entry.origin.defaults.scope.survives_renewal } }.sweep_knowledge_at_boundary

def absorb_provider_compaction (history : Partition) : ContextManager :=
  { manager with history }.sweep_knowledge_at_boundary

def step (W : Wording) (manager : ContextManager) : ContextOp → ContextManager
  | .push_knowledge text tokens => manager.push_knowledge (.system text) tokens
  | .push_knowledge_entry key text tokens pinned => manager.push_knowledge_entry key (.system text) tokens pinned
  | .push_recalled record_id line => manager.push_recalled W record_id line
  | .sync_governance_surface_note note => manager.sync_governance_surface_note W note
  | .remove_knowledge key => manager.remove_knowledge key
  | .note_memory_expanded record_id => manager.note_memory_expanded record_id
  | .sweep_expired_item_leases turn => manager.sweep_expired_item_leases turn
  | .sweep_expired_skill_leases turn => manager.sweep_expired_skill_leases turn
  | .activate_skill name expires_at_turn => manager.activate_skill name expires_at_turn
  | .deactivate_skill name => manager.deactivate_skill name
  | .retract_refused_skill name => manager.retract_refused_skill name
  | .enforce_knowledge_budget => manager.enforce_knowledge_budget
  | .push_history msg tokens => manager.push_history W msg tokens
  | .push_history_after_tool_results msg tokens => manager.push_history_after_tool_results W msg tokens
  | .release_held_history => manager.release_held_history W
  | .truncate_history len => manager.truncate_history len
  | .mark_prefix_sent => manager.mark_prefix_sent
  | .compress history archived => manager.compress history archived
  | .renew history => manager.renew history
  | .absorb_provider_compaction history => manager.absorb_provider_compaction history

end ContextManager

/-- A compaction that archived something, a renewal, and a provider's compaction. -/
def ContextOp.boundary : ContextOp → Bool
  | .compress _ archived => archived
  | .renew _ | .absorb_provider_compaction _ => true
  | _ => false

/-- The content a step pushes, and the key it pushes it under. -/
def pushed_by (W : Wording) (manager : ContextManager) : ContextOp → Option (ItemOrigin × Option String × CoreMessage × Nat × Bool)
  | .push_knowledge text tokens => some (.Reference,none,.system text,tokens,false)
  | .push_knowledge_entry key text tokens pinned => some (ItemOrigin.for_host_key key,key,.system text,tokens,pinned)
  | .push_recalled record_id line =>
    if (manager.knowledge.renew ("memory:" ++ record_id)).1 then none
    else some (.MemoryRecall,some ("memory:" ++ record_id),.system line,max (W.count line) 1,false)
  | .sync_governance_surface_note (some note) =>
    if manager.current_note = some (some note,false) then none
    else some (.System,some ContextManager.DENIED_TOOLS_KEY,.system note,max (W.count note) 1,true)
  | _ => none

/-- What a step does to the knowledge. -/
inductive Effect (W : Wording) (manager : ContextManager) (op : ContextOp) : Prop where
  | quiet (pushed : pushed_by W manager op = none) (inner : op.boundary = false)
      (entries : List.Forall₂ Quiet manager.knowledge.entries (manager.step W op).knowledge.entries)
      (sent : manager.prefix_sent = true → (manager.step W op).prefix_sent = true)
  | pushed (origin : ItemOrigin) (key : Option String) (msg : CoreMessage) (tokens : Nat) (pinned : Bool)
      (pushed : pushed_by W manager op = some (origin,key,msg,tokens,pinned)) (inner : op.boundary = false)
      (skill : origin = .Skill → ∃ named, key = some named ∧ Capabilities.starts_with named "skill:") (plain : ∃ text, msg = .system text)
      (step : manager.step W op = manager.push_knowledge_item origin key msg tokens pinned)
  | taken (name : String) (pushed : pushed_by W manager op = none) (refused : op = .retract_refused_skill name)
      (inactive : manager.active_skills.contains name = false) (index : Nat) (entry : ContextItem)
      (held : manager.knowledge.entries[index]? = some entry)
      (found : manager.knowledge.entries.find? (keyed ("skill:" ++ name)) = some entry) (settled : entry.pending = none)
      (entries : (manager.step W op).knowledge.entries = manager.knowledge.entries.eraseIdx index)
      (sent : (manager.step W op).prefix_sent = manager.prefix_sent)
  | boundary (pushed : pushed_by W manager op = none) (outer : op.boundary = true) (staying : KnowledgePartition)
      (part : staying.entries.Sublist manager.knowledge.entries)
      (entries : (manager.step W op).knowledge.entries = staying.sweep_at_boundary.2.entries)
      (unsent : (manager.step W op).prefix_sent = false)

namespace ContextManager
variable {manager : ContextManager}

private theorem skill_of_host_key {key : Option String} (skill : ItemOrigin.for_host_key key = .Skill) :
    ∃ named, key = some named ∧ Capabilities.starts_with named "skill:" := by
  cases key with
  | none => cases skill
  | some key =>
  unfold ItemOrigin.for_host_key at skill
  refine ⟨key,rfl,?_⟩
  by_contra other
  simp only [other,if_false] at skill
  split at skill <;> cases skill

private theorem push_recalled_absent {record_id : String} (line : String) (absent : (manager.knowledge.renew ("memory:" ++ record_id)).1 = false) :
    manager.push_recalled W record_id line =
      manager.push_knowledge_item .MemoryRecall (some ("memory:" ++ record_id)) (.system line) (max (W.count line) 1) false := by
  have none_ : ∀ entry ∈ manager.knowledge.entries, ¬live ("memory:" ++ record_id) entry := by
    simpa [KnowledgePartition.renew] using absent
  have unchanged : (manager.knowledge.renew ("memory:" ++ record_id)).2 = manager.knowledge := by
    unfold KnowledgePartition.renew
    dsimp only
    rw [modifyFirst_of_none none_]
  unfold push_recalled
  simp only [absent,unchanged,Bool.false_eq_true,if_false]

private theorem boundary_effect {op : ContextOp} (outer : op.boundary = true) (staying : ContextManager)
    (part : staying.knowledge.entries.Sublist manager.knowledge.entries) (step : manager.step W op = staying.sweep_knowledge_at_boundary)
    (pushed : pushed_by W manager op = none) : Effect W manager op := by
  refine .boundary pushed outer staying.knowledge part ?_ ?_
  · rw [step]
    unfold sweep_knowledge_at_boundary
    simp
  · rw [step]
    unfold sweep_knowledge_at_boundary
    simp

theorem effect_of_still {op : ContextOp} (still : Still manager (manager.step W op))
    (pushed : pushed_by W manager op = none)
    (inner : op.boundary = false) : Effect W manager op :=
  .quiet pushed inner still.entries fun sent => still.sent.trans sent

private theorem recall_effect (record_id line : String) : Effect W manager (.push_recalled record_id line) := by
  by_cases resident : (manager.knowledge.renew ("memory:" ++ record_id)).1 = true
  · have renewed : manager.push_recalled W record_id line = { manager with knowledge := (manager.knowledge.renew ("memory:" ++ record_id)).2 } := by
      unfold push_recalled
      simp only [resident,if_true]
    refine effect_of_still ?_ (by simp [pushed_by,resident]) rfl
    rw [show manager.step W (.push_recalled record_id line) = _ from renewed]
    exact ⟨renew_quiet _,rfl⟩
  · have absent : (manager.knowledge.renew ("memory:" ++ record_id)).1 = false := by simpa using resident
    exact .pushed .MemoryRecall _ _ _ false (by simp only [pushed_by,absent,Bool.false_eq_true,if_false]) rfl (by simp) ⟨line,rfl⟩
      (push_recalled_absent line absent)

private theorem note_effect (note : Option String) : Effect W manager (.sync_governance_surface_note note) := by
  cases note with
  | none =>
    refine effect_of_still ?_ rfl rfl
    show Still manager (manager.sync_governance_surface_note W none)
    unfold sync_governance_surface_note
    split
    next impossible => cases impossible
    · exact remove_knowledge_still manager _
    · exact Still.refl manager
  | some note =>
  by_cases current : manager.current_note = some (some note,false)
  · have same : manager.sync_governance_surface_note W (some note) = manager := by
      unfold sync_governance_surface_note
      simp only [current,if_true]
    refine effect_of_still ?_ (by simp only [pushed_by,current,if_true]) rfl
    rw [show manager.step W (.sync_governance_surface_note (some note)) = manager from same]
    exact Still.refl manager
  · refine .pushed .System (some DENIED_TOOLS_KEY) _ (max (W.count note) 1) true
      (by simp only [pushed_by,current,if_false]) rfl (by simp) ⟨note,rfl⟩ ?_
    show manager.sync_governance_surface_note W (some note) = _
    unfold sync_governance_surface_note
    simp only [current,if_false]

private theorem retract_effect (name : String) : Effect W manager (.retract_refused_skill name) := by
  by_cases active : manager.active_skills.contains name = true
  · refine effect_of_still ?_ rfl rfl
    show Still manager (manager.retract_refused_skill name)
    unfold retract_refused_skill
    rw [if_pos active]
    exact Still.refl manager
  have inactive : manager.active_skills.contains name = false := Bool.eq_false_of_not_eq_true active
  have retracted : manager.step W (.retract_refused_skill name) =
      { manager with knowledge := (manager.knowledge.retract_staged ("skill:" ++ name)).2 } := by
    show manager.retract_refused_skill name = _
    unfold retract_refused_skill
    rw [if_neg active]
  rcases manager.knowledge.retract_staged_cases ("skill:" ++ name) with quiet | ⟨index,entry,held,found,settled,entries⟩
  · refine effect_of_still ?_ rfl rfl
    rw [retracted]
    exact ⟨quiet,rfl⟩
  · refine .taken name rfl rfl inactive index entry held found settled ?_ ?_
    · rw [retracted]
      exact entries
    · rw [retracted]

end ContextManager

open ContextManager in
/-- Each step has one of the four effects; what the model asks for in full does not wait for an event. -/
theorem effect_of_step {manager : ContextManager} (op : ContextOp)
    (timed : ∀ record_id, op = .note_memory_expanded record_id → ∀ entry ∈ manager.knowledge.entries,
    entry.key = some ("memory:" ++ record_id) →
      ∀ event, entry.lease ≠ .Until event) : Effect W manager op := by
  cases op with
  | push_knowledge text tokens => exact .pushed _ none _ tokens false rfl rfl (by simp) ⟨text,rfl⟩ rfl
  | push_knowledge_entry key text tokens pinned => exact .pushed _ key _ tokens pinned rfl rfl skill_of_host_key ⟨text,rfl⟩ rfl
  | push_recalled record_id line => exact recall_effect record_id line
  | sync_governance_surface_note note => exact note_effect note
  | remove_knowledge key => exact effect_of_still (remove_knowledge_still manager key) rfl rfl
  | note_memory_expanded record_id =>
    exact effect_of_still ⟨note_expanded_quiet (timed record_id rfl),rfl⟩ rfl rfl
  | sweep_expired_item_leases turn => exact effect_of_still (sweep_expired_item_leases_still manager turn) rfl rfl
  | sweep_expired_skill_leases turn => exact effect_of_still (sweep_expired_skill_leases_still manager turn) rfl rfl
  | activate_skill name expires_at_turn => exact effect_of_still (Still.of_knowledge rfl rfl) rfl rfl
  | deactivate_skill name => exact effect_of_still (deactivate_skill_still manager name) rfl rfl
  | retract_refused_skill name => exact retract_effect name
  | enforce_knowledge_budget => exact effect_of_still (enforce_knowledge_budget_still manager) rfl rfl
  | push_history msg tokens => exact effect_of_still (push_history_still manager msg tokens) rfl rfl
  | push_history_after_tool_results msg tokens => exact effect_of_still (push_history_after_tool_results_still manager msg tokens) rfl rfl
  | release_held_history => exact effect_of_still (admit_held_still manager) rfl rfl
  | truncate_history len => exact effect_of_still (truncate_history_still manager len) rfl rfl
  | mark_prefix_sent => exact .quiet rfl rfl (forall₂_same Quiet.refl _) fun _ => rfl
  | compress history archived =>
    cases archived with
    | true => exact boundary_effect rfl { manager with history } (List.Sublist.refl _) rfl rfl
    | false => exact effect_of_still (history_still manager history) rfl rfl
  | renew history => exact boundary_effect rfl _ List.filter_sublist rfl rfl
  | absorb_provider_compaction history => exact boundary_effect rfl { manager with history } (List.Sublist.refl _) rfl rfl

end Deepstrike.Context

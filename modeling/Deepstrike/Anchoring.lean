import Deepstrike.Compressors
import Deepstrike.Freezing

/-!
The frozen part of a history over a run: between two anchorings its turns are rendered alike, as long as no
step rolls back into it, changes what of it fits, or changes the form one of its rows is rendered in.
-/
namespace Deepstrike.Context
open Wire List ContextManager HandleTable

section
variable {handles after : HandleTable} {row : PartitionRow}

/-- Whether a row renders the result of a call as a preview. -/
def previewed (handles : HandleTable) (row : PartitionRow) (call_id : CallId) : Bool :=
  (row.tag.id = 0 || (projected_items handles).contains row.tag.id) &&
    (residency_for_source handles call_id).any Residency.projected

/-- Whether a row is rendered without its narration once it is old. -/
def narrates (config : ContextConfig) (row : PartitionRow) : Bool :=
  (project_assistant_narration row.message config.collapse_assistant_narration).isSome

/-- A message with the previews of some calls. -/
def preview_where (shown : CallId → Bool) (message : CoreMessage) : Option CoreMessage :=
  match message.content with
  | .Text _ => none
  | .Parts parts =>
    if (tool_results message).any fun result => shown result.1 then
      some { message with content := .Parts (parts.map fun part =>
        match part with
        | .ToolResult call_id output is_error durable_content =>
          if shown call_id then .ToolResult call_id (collapse_preview output call_id) is_error durable_content
          else .ToolResult call_id output is_error durable_content
        | .Other durable => .Other durable) }
    else none

private theorem project_message_eq (message : CoreMessage) :
    project_message message handles = preview_where (fun call_id => (residency_for_source handles call_id).any Residency.projected) message := by
  unfold project_message preview_where
  cases message.content with
  | Text text => rfl
  | Parts parts =>
  have mapped : parts.map (project_part handles) = parts.map fun part =>
      match part with
      | .ToolResult call_id output is_error durable_content =>
        if (residency_for_source handles call_id).any Residency.projected then
          .ToolResult call_id (collapse_preview output call_id) is_error durable_content
        else .ToolResult call_id output is_error durable_content
      | .Other durable => .Other durable := map_congr_left fun part _ => by cases part <;> rfl
  dsimp only
  rw [mapped]

private theorem preview_where_none {shown : CallId → Bool} (never : ∀ call_id, shown call_id = false) (message : CoreMessage) :
    preview_where shown message = none := by
  unfold preview_where
  split
  · rfl
  · rw [if_neg]
    simp [never]

private theorem preview_where_congr {shown other : CallId → Bool} {message : CoreMessage}
    (same : ∀ result ∈ tool_results message, other result.1 = shown result.1) : preview_where other message = preview_where shown message := by
  unfold preview_where
  split
  · rfl
  next parts content =>
  have among : ∀ call_id output is_error durable_content, ContentPart.ToolResult call_id output is_error durable_content ∈ parts →
      other call_id = shown call_id := by
    intro call_id output is_error durable_content member
    refine same (call_id,output) ?_
    unfold tool_results
    rw [content]
    exact mem_filterMap.mpr ⟨_,member,rfl⟩
  have any : ((tool_results message).any fun result => other result.1) =
      (tool_results message).any fun result => shown result.1 := by
    rw [Bool.eq_iff_iff,any_eq_true,any_eq_true]
    refine exists_congr fun result => and_congr_right fun member => ?_
    rw [same result member]
  have mapped : (parts.map fun part =>
      match part with
      | .ToolResult call_id output is_error durable_content =>
        if other call_id then ContentPart.ToolResult call_id (collapse_preview output call_id) is_error durable_content
        else .ToolResult call_id output is_error durable_content
      | .Other durable => .Other durable) = parts.map fun part =>
      match part with
      | .ToolResult call_id output is_error durable_content =>
        if shown call_id then .ToolResult call_id (collapse_preview output call_id) is_error durable_content
        else .ToolResult call_id output is_error durable_content
      | .Other durable => .Other durable := by
    refine map_congr_left fun part member => ?_
    cases part with
    | ToolResult call_id output is_error durable_content =>
      dsimp only
      rw [among call_id output is_error durable_content member]
    | Other durable => rfl
  rw [any,mapped]

private theorem project_row_eq (collapse_narration is_protected : Bool) : project_row handles collapse_narration is_protected row =
    (preview_where (previewed handles row) row.message).or
      (if is_protected then none else project_assistant_narration row.message collapse_narration) := by
  unfold project_row
  dsimp only
  congr 1
  split
  next as_handle =>
    rw [project_message_eq]
    congr 1
    funext call_id
    rw [previewed,as_handle,Bool.true_and]
  next whole =>
  refine (preview_where_none (fun call_id => ?_) row.message).symm
  rw [previewed,Bool.eq_false_of_not_eq_true whole,Bool.false_and]

private theorem project_row_congr {config : ContextConfig} {is_protected still : Bool}
    (previews : ∀ result ∈ tool_results row.message, previewed after row result.1 = previewed handles row result.1)
    (narration : narrates config row = true → still = is_protected) :
    project_row after config.collapse_assistant_narration still row = project_row handles config.collapse_assistant_narration is_protected row := by
  rw [project_row_eq,project_row_eq,preview_where_congr previews]
  congr 1
  by_cases told : narrates config row = true
  · rw [narration told]
  · have silent : project_assistant_narration row.message config.collapse_assistant_narration = none := by
      simpa [narrates] using told
    rw [silent,ite_self,ite_self]

end

/-- A context with what a render reads beside it. -/
structure View where
  manager : ContextManager
  setting : Setting

/-- The frozen rows are the same, behind the same boundary. -/
structure SameRows (before after : ContextManager) : Prop where
  frozen : after.frozen_history_len = before.frozen_history_len
  config : after.config = before.config
  rows : ∀ index < before.frozen_history_len, after.history.rows[index]? = before.history.rows[index]?

/-- What of the frozen rows fits the allowance is the same; and of what fits no result becomes a preview or
    ceases to be one, and no narration enters the protected tail or leaves it. -/
structure Undisturbed (engine : ContextTokenEngine) (budget : Nat) (before after : View) : Prop where
  admitted : ∀ index < before.manager.frozen_history_len,
    after.manager.admitted engine after.setting budget index = before.manager.admitted engine before.setting budget index
  previewed : ∀ index < before.manager.frozen_history_len, before.manager.admitted engine before.setting budget index = true →
    ∀ row, before.manager.history.rows[index]? = some row → ∀ result ∈ tool_results row.message,
      previewed after.manager.handles row result.1 = previewed before.manager.handles row result.1
  narrated : ∀ index < before.manager.frozen_history_len, before.manager.admitted engine before.setting budget index = true →
    ∀ row, before.manager.history.rows[index]? = some row → narrates before.manager.config row = true →
      after.manager.shielded engine index = before.manager.shielded engine index

section
variable {engine : ContextTokenEngine} {budget : Nat} {before after : View}

/-- Rows that stay and an undisturbed view keep the frozen turns. -/
theorem frozen_turns_eq (same : SameRows before.manager after.manager)
    (undisturbed : Undisturbed engine budget before after) :
    after.manager.frozen_turns engine after.setting budget =
    before.manager.frozen_turns engine before.setting budget := by
  unfold frozen_turns turns_of
  rw [same.frozen,filter_congr fun index member => undisturbed.admitted index (mem_range.mp member)]
  refine filterMap_congr fun index member => ?_
  obtain ⟨bound,fit⟩ := mem_filter.mp member
  have within := mem_range.mp bound
  unfold turn_of render_row
  rw [same.rows index within]
  cases held : before.manager.history.rows[index]? with
  | none => rfl
  | some row =>
  have form := @project_row_congr before.manager.handles after.manager.handles row before.manager.config _ _
    (undisturbed.previewed index within fit row held) (undisturbed.narrated index within fit row held)
  rw [Option.map_some,Option.map_some,same.config,form]
  rfl

end

/-- Whatever either render declares frozen, both begin with it. -/
def Agree (first second : InternalRenderedContext) : Prop :=
  ∀ count, first.frozen_prefix_len = some count ∨ second.frozen_prefix_len = some count → first.turns.take count = second.turns.take count

/-- Views with the same frozen turns agree on the prefix. -/
theorem agree_of_frozen {engine : ContextTokenEngine} {budget : Nat} {before after : View}
    (same : after.manager.frozen_turns engine after.setting budget =
    before.manager.frozen_turns engine before.setting budget) :
    Agree (before.manager.render_projected engine before.setting budget)
    (after.manager.render_projected engine after.setting budget) := by
  obtain ⟨old,begins,counted⟩ := @ContextManager.render_frozen engine before.manager before.setting budget
  obtain ⟨new,begins',counted'⟩ := @ContextManager.render_frozen engine after.manager after.setting budget
  have equal : after.manager.frozen_prefix engine after.setting budget = before.manager.frozen_prefix engine before.setting budget := by
    unfold frozen_prefix
    rw [same]
  rw [same,equal] at counted' begins'
  intro count declared
  have both : before.manager.frozen_turns engine before.setting budget ≠ [] ∧
      count = (before.manager.frozen_prefix engine before.setting budget).length := declared.elim (counted count) (counted' count)
  rw [begins both.1,begins' both.1,both.2,take_left',take_left']
  · rfl
  · rfl

/-- The history is what it was, with rows behind it, and the boundary stays. -/
structure Grown (before after : ContextManager) : Prop where
  frozen : after.frozen_history_len = before.frozen_history_len
  config : after.config = before.config
  rows : before.history.rows <+: after.history.rows

section
variable {W : Wording} {manager before after : ContextManager}

theorem Grown.refl (manager : ContextManager) : Grown manager manager := ⟨rfl,rfl,prefix_refl _⟩

theorem Grown.trans {last : ContextManager} (first : Grown before after) (second : Grown after last) :
    Grown before last :=
  ⟨second.frozen.trans first.frozen,second.config.trans first.config,first.rows.trans second.rows⟩

theorem Grown.beside (frozen : after.frozen_history_len = before.frozen_history_len)
    (config : after.config = before.config)
    (history : after.history = before.history) : Grown before after := ⟨frozen,config,history ▸ prefix_refl _⟩

theorem Grown.same (grown : Grown before after) (within : before.frozen_history_len ≤ before.history.rows.length) :
    SameRows before after ∧ after.frozen_history_len ≤ after.history.rows.length := by
  refine ⟨⟨grown.frozen,grown.config,fun index bound => ?_⟩,?_⟩
  · obtain ⟨more,rows⟩ := grown.rows
    rw [← rows,getElem?_append_left (by omega)]
  · have longer := grown.rows.length_le
    rw [grown.frozen]
    omega

end

namespace ContextManager
variable {W : Wording}

theorem prune_item_graph_grown (manager : ContextManager) : Grown manager manager.prune_item_graph :=
  Grown.beside (by unfold prune_item_graph; rfl) (by unfold prune_item_graph; rfl) (by unfold prune_item_graph; rfl)

end ContextManager

/-- A relation of contexts in which only the history, its frozen part, the configuration and the handles show. -/
structure Unread (R : ContextManager → ContextManager → Prop) : Prop where
  trans : ∀ {first second third}, R first second → R second third → R first third
  beside : ∀ {before after : ContextManager}, after.frozen_history_len = before.frozen_history_len → after.config = before.config →
    after.history = before.history → after.handles = before.handles → R before after

/-- A step that brings nothing into the history and takes nothing out of it. -/
def ContextOp.aside : ContextOp → Bool
  | .push_history _ _ | .push_history_after_tool_results _ _ | .release_held_history | .truncate_history _
  | .compress _ _ | .renew _ | .absorb_provider_compaction _ => false
  | _ => true

namespace Unread
variable {R : ContextManager → ContextManager → Prop} (unread : Unread R) {W : Wording}
include unread

variable (manager : ContextManager)

theorem refl : R manager manager := unread.beside rfl rfl rfl rfl

theorem linkless : Linkless R where
  refl := unread.refl
  trans := unread.trans
  graph _ _ := unread.beside rfl rfl rfl rfl
  counted _ _ _ := unread.beside rfl rfl rfl rfl
  observed _ _ _ _ _ := unread.beside rfl rfl rfl rfl
  credited _ _ _ := unread.beside rfl rfl rfl rfl
  held _ _ := unread.beside rfl rfl rfl rfl

theorem push_knowledge_item (origin : ItemOrigin) (key : Option String) (msg : CoreMessage) (tokens : Nat)
    (pinned : Bool) : R manager (manager.push_knowledge_item origin key msg tokens pinned) := by
  unfold ContextManager.push_knowledge_item ContextManager.place_appended_knowledge
  dsimp only
  split
  · exact unread.beside rfl rfl rfl rfl
  split
  · exact unread.beside rfl rfl rfl rfl
  · split
    · exact unread.beside rfl rfl rfl rfl
    · exact unread.beside rfl rfl rfl rfl

theorem sync_governance_surface_note (note : Option String) :
    R manager (manager.sync_governance_surface_note W note) := by
  unfold ContextManager.sync_governance_surface_note
  split
  · split
    · exact unread.refl manager
    · exact unread.push_knowledge_item manager _ _ _ _ _
  · exact unread.beside rfl rfl rfl rfl
  · exact unread.refl manager

theorem deactivate_skill (name : String) : R manager (manager.deactivate_skill name) := by
  unfold ContextManager.deactivate_skill
  split
  · exact unread.beside rfl rfl rfl rfl
  · exact unread.refl manager

theorem enforce_knowledge_budget : R manager manager.enforce_knowledge_budget := by
  unfold ContextManager.enforce_knowledge_budget
  split
  · exact unread.refl manager
  · split
    · exact unread.refl manager
    · exact unread.beside rfl rfl rfl rfl

theorem step {op : ContextOp} (aside : op.aside = true) : R manager (manager.step W op) := by
  cases op with
  | push_knowledge text tokens => exact unread.push_knowledge_item manager _ _ _ _ _
  | push_knowledge_entry key text tokens pinned => exact unread.push_knowledge_item manager _ _ _ _ _
  | push_recalled record_id line =>
    unfold ContextManager.step ContextManager.push_recalled
    dsimp only
    have found : R manager { manager with knowledge := (manager.knowledge.renew ("memory:" ++ record_id)).2 } := unread.beside rfl rfl rfl rfl
    split
    · exact found
    · exact unread.trans found (unread.push_knowledge_item _ _ _ _ _ _)
  | sync_governance_surface_note note => exact unread.sync_governance_surface_note manager note
  | remove_knowledge | note_memory_expanded | sweep_expired_item_leases | activate_skill | mark_prefix_sent => exact unread.beside rfl rfl rfl rfl
  | sweep_expired_skill_leases turn => exact unread.linkless.foldl _ (fun manager name _ => unread.deactivate_skill manager name) manager
  | deactivate_skill name => exact unread.deactivate_skill manager name
  | retract_refused_skill name =>
    unfold ContextManager.step ContextManager.retract_refused_skill
    dsimp only
    split
    · exact unread.refl manager
    · exact unread.beside rfl rfl rfl rfl
  | enforce_knowledge_budget => exact unread.enforce_knowledge_budget manager
  | push_history | push_history_after_tool_results | release_held_history | truncate_history | compress | renew | absorb_provider_compaction =>
    cases aside

end Unread

namespace ContextManager
variable {W : Wording}

theorem unread_grown : Unread Grown := ⟨Grown.trans,fun frozen config history _ => Grown.beside frozen config history⟩

variable (manager : ContextManager)

private theorem admit_history_grown (msg : CoreMessage) (tokens : Nat) : Grown manager (manager.admit_history W msg tokens) :=
  unread_grown.linkless.admit_history manager msg tokens (fun _ _ _ _ => Grown.beside rfl rfl rfl) fun _ _ => ⟨rfl,rfl,prefix_append _ _⟩

theorem admit_held_grown : Grown manager (manager.admit_held W) :=
  unread_grown.linkless.admit_held manager fun _ _ _ => admit_history_grown _ _ _

private theorem push_history_grown (msg : CoreMessage) (tokens : Nat) : Grown manager (manager.push_history W msg tokens) :=
  unread_grown.linkless.push_history manager msg tokens admit_history_grown

end ContextManager

/-- A step that replaces the history. -/
def ContextOp.replaces : ContextOp → Bool
  | .compress _ _ | .renew _ | .absorb_provider_compaction _ => true
  | _ => false

/-- A step that drops rows, and how many it leaves. -/
def ContextOp.rolls_back : ContextOp → Option Nat
  | .truncate_history len => some len
  | _ => none

namespace ContextManager
variable {W : Wording}

/-- An operation that replaces and rolls back nothing only appends. -/
theorem step_grown (manager : ContextManager) (op : ContextOp) (replaces : op.replaces = false)
    (rolls_back : op.rolls_back = none) :
    Grown manager (manager.step W op) := by
  cases op with
  | push_history msg tokens => exact push_history_grown manager msg tokens
  | push_history_after_tool_results msg tokens =>
    unfold step push_history_after_tool_results
    dsimp only
    split
    · exact Grown.beside rfl rfl rfl
    · exact push_history_grown manager msg tokens
  | release_held_history => exact admit_held_grown manager
  | truncate_history len => cases rolls_back
  | compress | renew | absorb_provider_compaction => cases replaces
  | _ => exact unread_grown.step manager rfl

private theorem truncate_rows (partition : Partition) (len : Nat) : (partition.truncate len).rows = partition.rows.take len := by
  unfold Partition.truncate
  split
  next all => exact (take_of_length_le all).symm
  next => rfl

theorem truncate_history_rows (manager : ContextManager) (len : Nat) :
    (manager.truncate_history len).history.rows = manager.history.rows.take len := by
  have rows : (manager.truncate_history len).history = manager.history.truncate len := by
    unfold truncate_history prune_item_graph
    rfl
  rw [rows,truncate_rows]

theorem truncate_history_same {manager : ContextManager} {len : Nat}
    (within : manager.frozen_history_len ≤ manager.history.rows.length)
    (behind : manager.frozen_history_len ≤ len) :
    SameRows manager (manager.truncate_history len) ∧
      (manager.truncate_history len).frozen_history_len ≤ (manager.truncate_history len).history.rows.length := by
  have pruned := prune_item_graph_grown { manager with held_history := [], history := manager.history.truncate len }
  have frozen : (manager.truncate_history len).frozen_history_len = manager.frozen_history_len := pruned.frozen
  refine ⟨⟨frozen,pruned.config,fun index bound => ?_⟩,?_⟩
  · rw [truncate_history_rows,getElem?_take_of_lt (by omega)]
  · rw [frozen,truncate_history_rows,length_take]
    omega

end ContextManager

end Deepstrike.Context

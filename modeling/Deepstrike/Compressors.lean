import Deepstrike.Boundaries
import Deepstrike.Residencies
import Deepstrike.Units

/-!
The compactions of a history: four stages that shorten or archive its rows, from the least to the heaviest,
each of which says from which row on it broke the cached prefix.
-/
namespace Deepstrike.Context
open Wire List

/-- The compaction tiers, from none to the heaviest. -/
inductive PressureAction where
  | None | SnipCompact | MicroCompact | ContextCollapse | AutoCompact
  deriving DecidableEq,Repr

def PressureAction.rank : PressureAction → Nat
  | .None => 0
  | .SnipCompact => 1
  | .MicroCompact => 2
  | .ContextCollapse => 3
  | .AutoCompact => 4

/-- The parts a compaction is made with: its limits, how a text is cut to its head and tail, how a tool output
    is summed up, and which rows the utility plan archives. -/
structure CompressionPipeline where
  per_msg_limit : Nat
  preserve_recent_turns : Nat
  excerpt_text : String → Nat → String
  excerpt_output : CallId → String → String → String
  plan_utility_archive : Partition → Nat → List Nat × Nat
  count_message : CoreMessage → Nat

/-- What a stage leaves of the history, what it took out, and the first row it touched. -/
structure CompressResult where
  history : Partition
  tokens_saved : Nat
  archived : List PartitionRow
  prefix_invalidated_at : Option Nat

namespace Partition

/-- A row is rewritten to a shorter form of the same source. -/
def excerpt (partition : Partition) (index : Nat) (message : CoreMessage) (tokens : Nat) : Partition :=
  let before := partition.rows[index]?.elim 0 PartitionRow.tokens
  ⟨partition.rows.modify index fun row => { row with message, tokens, tag := { row.tag with fidelity := .Excerpt } },
    partition.token_count-(before-tokens)⟩

def take_rows (partition : Partition) (indices : List Nat) (retained_tokens : Nat) : List PartitionRow × Partition :=
  ((partition.rows.zipIdx.filter fun row => indices.contains row.2).map Prod.fst,
    ⟨(partition.rows.zipIdx.filter fun row => !indices.contains row.2).map Prod.fst,retained_tokens⟩)

end Partition

/-- The oldest rows are kept as they are, unless that leaves nothing to shorten. -/
def prefix_keep_for (len preserve_k : Nat) : Nat := if preserve_k*3 ≤ len then preserve_k else 0

def oversized_text_message_indices (rows : List PartitionRow) (per_msg_limit prefix_keep : Nat) : List Nat :=
  (rows.zipIdx.filter fun row =>
    prefix_keep ≤ row.2 && row.1.message.content.as_text.isSome && per_msg_limit < row.1.tokens && 10 < row.1.tokens).map Prod.snd

def excerptable_tool_result_indices (rows : List PartitionRow) (preserved_refs : List String) (prefix_keep : Nat) : List Nat :=
  (rows.zipIdx.filter fun row =>
    prefix_keep ≤ row.2 && 200 ≤ row.1.tokens &&
      (ContextManager.tool_results row.1.message).any fun result => !preserved_refs.contains result.1).map Prod.snd

namespace CompressionPipeline
variable (pipeline : CompressionPipeline) (history : Partition)

/-- Texts over the limit are cut to their head and tail. -/
def snip : CompressResult :=
  let indices := oversized_text_message_indices history.rows pipeline.per_msg_limit
    (prefix_keep_for history.rows.length pipeline.preserve_recent_turns)
  let (after,saved) := indices.foldl (fun (state : Partition × Nat) index =>
    match state.1.rows[index]? with
    | some row =>
      match row.message.content with
      | .Text text =>
        let message := { row.message with content := .Text (pipeline.excerpt_text text row.tokens) }
        (state.1.excerpt index message pipeline.per_msg_limit,state.2+(row.tokens-pipeline.per_msg_limit))
      | .Parts _ => state
    | none => state) (history,0)
  ⟨after,saved,[],indices.min?⟩

/-- The tool that made a call, as the history names it. -/
def find_tool_name (call_id : CallId) : String :=
  ((history.rows.findSome? fun row => (row.message.tool_calls.find? fun call => call.id = call_id).map ToolCall.name)).getD "unknown"

/-- Tool results that nothing preserves are summed up. -/
def micro (preserved_refs : List String) : CompressResult :=
  let indices := excerptable_tool_result_indices history.rows preserved_refs
    (prefix_keep_for history.rows.length pipeline.preserve_recent_turns)
  let (after,saved) := indices.foldl (fun (state : Partition × Nat) index =>
    match state.1.rows[index]? with
    | some row =>
      match row.message.content with
      | .Parts parts =>
        let message := { row.message with content := .Parts (parts.map fun part =>
          match part with
          | .ToolResult call_id output is_error durable_content =>
            if preserved_refs.contains call_id then .ToolResult call_id output is_error durable_content
            else .ToolResult call_id (pipeline.excerpt_output call_id (find_tool_name history call_id) output) is_error none
          | .Other durable => .Other durable) }
        let tokens := pipeline.count_message message
        (state.1.excerpt index message tokens,state.2+(row.tokens-tokens))
      | .Text _ => state
    | none => state) (history,0)
  ⟨after,saved,[],indices.min?⟩

/-- The rows the utility plan gives up are archived, until the rest is within the target. -/
def archive (target_tokens non_history_tokens : Nat) : CompressResult :=
  let (indices,retained_tokens) := pipeline.plan_utility_archive history (target_tokens-non_history_tokens)
  if indices.isEmpty then ⟨history,0,[],none⟩
  else
    let (archived,after) := history.take_rows indices retained_tokens
    ⟨after,(archived.map PartitionRow.tokens).sum,archived,indices.min?⟩

def stages (target_tokens non_history_tokens : Nat) (preserved_refs : List String) : List (PressureAction × (Partition → CompressResult)) :=
  [(.SnipCompact,pipeline.snip),(.MicroCompact,fun history => pipeline.micro history preserved_refs),
    (.ContextCollapse,fun history => pipeline.archive history target_tokens non_history_tokens),
    (.AutoCompact,fun history =>
      if history.rows.isEmpty then ⟨history,0,[],none⟩ else pipeline.archive history target_tokens non_history_tokens)]

/-- The earlier of two breaks of the prefix. -/
def earliest (first second : Option Nat) : Option Nat := ([first,second].filterMap id).min?

/-- The stages up to a tier, as long as the context is over its target. -/
def cascade (action : PressureAction) (target_tokens non_history_tokens : Nat) :
    List (PressureAction × (Partition → CompressResult)) → CompressResult → CompressResult
  | [],result => result
  | (tier,stage) :: rest,result =>
    if tier.rank ≤ action.rank then
      if non_history_tokens+result.history.token_count ≤ target_tokens then result
      else
        let next := stage result.history
        cascade action target_tokens non_history_tokens rest
          ⟨next.history,result.tokens_saved+next.tokens_saved,result.archived ++ next.archived,
            earliest result.prefix_invalidated_at next.prefix_invalidated_at⟩
    else cascade action target_tokens non_history_tokens rest result

def compress (action : PressureAction) (target_tokens non_history_tokens : Nat) (preserved_refs : List String) :
    CompressResult :=
  if action = .None then ⟨history,0,[],none⟩
  else cascade action target_tokens non_history_tokens (pipeline.stages target_tokens non_history_tokens preserved_refs) ⟨history,0,[],none⟩

end CompressionPipeline

/-- A stage that says it broke no prefix touched nothing. -/
def Safe (stage : Partition → CompressResult) : Prop :=
  ∀ history, (stage history).prefix_invalidated_at = none → (stage history).history = history ∧ (stage history).archived = []

namespace CompressionPipeline
variable {pipeline : CompressionPipeline}

private theorem snip_safe : Safe pipeline.snip := by
  intro history quiet
  unfold snip at quiet ⊢
  dsimp only at quiet ⊢
  rw [min?_eq_none_iff.mp quiet]
  exact ⟨rfl,rfl⟩

private theorem micro_safe (preserved_refs : List String) : Safe fun history => pipeline.micro history preserved_refs := by
  intro history quiet
  unfold micro at quiet ⊢
  dsimp only at quiet ⊢
  rw [min?_eq_none_iff.mp quiet]
  exact ⟨rfl,rfl⟩

private theorem archive_safe (target_tokens non_history_tokens : Nat) :
    Safe fun history => pipeline.archive history target_tokens non_history_tokens := by
  intro history quiet
  dsimp only at quiet ⊢
  unfold archive at quiet ⊢
  dsimp only at quiet ⊢
  split
  next => exact ⟨rfl,rfl⟩
  next some_ =>
  rw [if_neg some_] at quiet
  rw [min?_eq_none_iff.mp quiet] at some_
  cases some_ rfl

private theorem stages_safe (target_tokens non_history_tokens : Nat) (preserved_refs : List String) :
    ∀ stage ∈ pipeline.stages target_tokens non_history_tokens preserved_refs, Safe stage.2 := by
  intro stage member
  simp only [stages,mem_cons,not_mem_nil,or_false] at member
  rcases member with rfl | rfl | rfl | rfl
  · exact snip_safe
  · exact micro_safe preserved_refs
  · exact archive_safe target_tokens non_history_tokens
  intro history quiet
  dsimp only at quiet ⊢
  split
  next => exact ⟨rfl,rfl⟩
  next some_ =>
  rw [if_neg some_] at quiet
  exact archive_safe target_tokens non_history_tokens history quiet

private theorem earliest_none {first second : Option Nat} (quiet : earliest first second = none) : first = none ∧ second = none := by
  cases first <;> cases second <;> simp_all [earliest]

variable {action : PressureAction}

private theorem cascade_safe {target_tokens non_history_tokens : Nat} {stages : List (PressureAction × (Partition → CompressResult))}
    (safe : ∀ stage ∈ stages, Safe stage.2) (result : CompressResult)
    (quiet : (cascade action target_tokens non_history_tokens stages result).prefix_invalidated_at = none) :
    result.prefix_invalidated_at = none ∧ (cascade action target_tokens non_history_tokens stages result).history = result.history ∧
      (cascade action target_tokens non_history_tokens stages result).archived = result.archived := by
  induction stages generalizing result with
  | nil => exact ⟨quiet,rfl,rfl⟩
  | cons stage rest ih =>
  obtain ⟨tier,run⟩ := stage
  have later := ih fun other member => safe other (mem_cons_of_mem _ member)
  unfold cascade at quiet ⊢
  split
  next reached =>
    rw [if_pos reached] at quiet
    split
    next within =>
      rw [if_pos within] at quiet
      exact ⟨quiet,rfl,rfl⟩
    next beyond =>
    rw [if_neg beyond] at quiet
    obtain ⟨broken,history,archived⟩ := later _ quiet
    obtain ⟨before,here⟩ := earliest_none broken
    obtain ⟨same,nothing⟩ := safe (tier,run) mem_cons_self result.history here
    refine ⟨before,history.trans same,archived.trans ?_⟩
    dsimp only at nothing ⊢
    rw [nothing,append_nil]
  next beyond =>
  rw [if_neg beyond] at quiet
  exact later result quiet

private theorem compress_safe {history : Partition} {target_tokens non_history_tokens : Nat} {preserved_refs : List String}
    (quiet : (pipeline.compress history action target_tokens non_history_tokens preserved_refs).prefix_invalidated_at = none) :
    (pipeline.compress history action target_tokens non_history_tokens preserved_refs).history = history ∧
      (pipeline.compress history action target_tokens non_history_tokens preserved_refs).archived = [] := by
  unfold compress at quiet ⊢
  split
  next => exact ⟨rfl,rfl⟩
  next some_ =>
  rw [if_neg some_] at quiet
  exact (cascade_safe (stages_safe target_tokens non_history_tokens preserved_refs) _ quiet).2

end CompressionPipeline

namespace ContextManager

/-- A compaction: what is archived takes its handles along and is a boundary, and a broken prefix is anchored
    again at the end of the history. -/
def compress_with_target (pipeline : CompressionPipeline) (manager : ContextManager) (action : PressureAction)
    (target_tokens non_history_tokens : Nat) (preserved_refs : List String) : Option Nat × ContextManager :=
  let result := pipeline.compress manager.history action target_tokens non_history_tokens preserved_refs
  let rewritten := { manager with history := result.history }
  let swept := if result.archived.isEmpty then rewritten
    else rewritten.prune_orphaned_handles.reset_collapse_generation.sweep_knowledge_at_boundary
  (result.prefix_invalidated_at,
    if result.prefix_invalidated_at.isSome then { swept with frozen_history_len := swept.history.rows.length } else swept)

/-- A renewal with the history it carries over. -/
def renew_with (manager : ContextManager) (renewed : Partition) : ContextManager :=
  let pruned := (manager.renew renewed).prune_orphaned_handles.reset_collapse_generation
  { pruned with frozen_history_len := pruned.history.rows.length }

/-- The provider summed up the history through an item: the rows it covers leave as a unit, and the summary
    heads the history in their place. -/
def absorb_provider_summary (manager : ContextManager) (through : ItemId) (summary_tokens : Nat) : Bool × ContextManager :=
  match manager.history.rows.findIdx? fun row => row.tag.id = through with
  | none => (false,manager)
  | some position =>
    let stop := ((unit_boundaries (manager.history.rows.map PartitionRow.message)).find? fun unit =>
      unit.1 ≤ position && position < unit.2).elim (position+1) Prod.snd
    let covered := manager.history.rows.take stop
    let retained := manager.history.token_count-(covered.map PartitionRow.tokens).sum
    let id := manager.last_item_id+1
    let linked := covered.foldl (fun manager row => manager.add_edge id row.tag.id .Summarizes)
      { manager with history := ⟨manager.history.rows.drop stop,retained⟩, last_item_id := id }
    let summary : PartitionRow := ⟨ItemTag.new id .ProviderSummary manager.knowledge.turn,
      ⟨.Assistant,.Text "[earlier conversation summarized by the provider]",[]⟩,summary_tokens⟩
    let headed := { linked with history := ⟨summary :: linked.history.rows,linked.history.token_count+summary_tokens⟩ }
    let pruned := headed.prune_orphaned_handles.reset_collapse_generation.sweep_knowledge_at_boundary
    (true,{ pruned with frozen_history_len := pruned.history.rows.length })

/-- A compaction that reports nothing changes nothing. -/
theorem compress_with_target_safe {pipeline : CompressionPipeline} {manager : ContextManager} {action : PressureAction}
    {target_tokens non_history_tokens : Nat} {preserved_refs : List String}
    (quiet : (manager.compress_with_target pipeline action target_tokens non_history_tokens preserved_refs).1 = none) :
    (manager.compress_with_target pipeline action target_tokens non_history_tokens preserved_refs).2 = manager := by
  obtain ⟨history,archived⟩ := CompressionPipeline.compress_safe quiet
  unfold compress_with_target at quiet ⊢
  dsimp only at quiet ⊢
  rw [quiet,archived,history]
  rfl

end ContextManager

end Deepstrike.Context

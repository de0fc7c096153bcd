import Deepstrike.Pairing
import Deepstrike.Windows

/-!
What carries whole units on keeps the pairing of a conversation: a renewal, the summary of a provider, and a render.
-/
namespace Deepstrike.Context
open Wire Excerpting Utility Collapsing List PartitionRow

def u32_max : Nat := 2^32-1

/-- The position from which a renewal carries rows over: units from the newest on, up to one over what is left. -/
def carried_from (tokens : Nat × Nat → Nat) : List (Nat × Nat) → Nat → Nat → Nat
  | [],_,start => start
  | unit :: older,remaining,start => if remaining < tokens unit then start else carried_from tokens older (remaining-tokens unit) unit.1

section Renewal
variable (codec : Codec) (engine : TokenCounter)

def unit_tokens (history : MeasuredPartition) (unit : Nat × Nat) : Nat :=
  (List.range' unit.1 (unit.2-unit.1)).foldl (fun sum index => min (sum+history.measured_tokens codec engine index) u32_max) 0

/-- The history of a renewed context: the rows carried over, each measured. -/
def renew_history (carryover_budget : Nat) (history : MeasuredPartition) : MeasuredPartition :=
  let start := carried_from (unit_tokens codec engine history) (units history.rows).reverse carryover_budget history.rows.length
  (history.rows.drop start).foldl (fun renewed row =>
    let tokens := row.measured codec engine
    ⟨renewed.rows ++ [⟨row.tag,row.message,.for_message codec row.message tokens⟩],renewed.token_count+tokens⟩) ⟨[],0⟩

variable {codec engine} {history : MeasuredPartition} {carryover_budget : Nat}

/-- What is carried over is the longest run of the newest units that fits. -/
theorem carried_run (tokens : Nat × Nat → Nat) (newest : List (Nat × Nat)) (remaining start : Nat) :
    ∃ carried left, newest = carried ++ left ∧
    carried_from tokens newest remaining start = (carried.getLast?.elim start Prod.fst) ∧
      (carried.map tokens).sum ≤ remaining ∧ ∀ unit older, left = unit :: older →
      remaining < (carried.map tokens).sum+tokens unit := by
  induction newest generalizing remaining start with
  | nil => exact ⟨[],[],rfl,rfl,Nat.zero_le _,nofun⟩
  | cons unit older ih =>
  unfold carried_from
  split
  next above =>
    refine ⟨[],unit :: older,rfl,rfl,Nat.zero_le _,?_⟩
    rintro _ _ ⟨⟩
    simpa using above
  next fits =>
  obtain ⟨carried,left,rfl,start_eq,within,beyond⟩ := ih (remaining-tokens unit) unit.1
  refine ⟨unit :: carried,left,rfl,?_,?_,fun next others same => ?_⟩
  · rw [start_eq,getLast?_cons]
    cases carried.getLast? <;> rfl
  · rw [map_cons,sum_cons]
    omega
  · have above := beyond next others same
    rw [map_cons,sum_cons]
    omega

private theorem renew_history_rows : said_in (renew_history codec engine carryover_budget history).rows =
    (said_in history.rows).drop
    (carried_from (unit_tokens codec engine history) (units history.rows).reverse carryover_budget
    history.rows.length) := by
  have pushed : ∀ (rows : List MeasuredRow) (renewed : MeasuredPartition), said_in (rows.foldl (fun (renewed : MeasuredPartition) row =>
      ⟨renewed.rows ++ [⟨row.tag,row.message,.for_message codec row.message (row.measured codec engine)⟩],
        renewed.token_count+row.measured codec engine⟩) renewed).rows = said_in renewed.rows ++ said_in rows := by
    intro rows
    induction rows with
    | nil => simp
    | cons row rest ih =>
    intro renewed
    rw [foldl_cons,ih]
    simp
  rw [renew_history,pushed]
  exact map_drop

/-- A renewal carries whole units over: the newest that fit the budget, up to one that does not; and what it carries over of
    a paired history is paired. -/
theorem renew_pairs (codec : Codec) (engine : TokenCounter) (carryover_budget : Nat) (history : MeasuredPartition) :
    (Paired (said_in history.rows) → Paired (said_in (renew_history codec engine carryover_budget history).rows)) ∧
      ∃ left carried, units history.rows = left ++ carried ∧
        said_in (renew_history codec engine carryover_budget history).rows =
          (said_in history.rows).drop (carried.head?.elim history.rows.length Prod.fst) ∧
        (carried.map (unit_tokens codec engine history)).sum ≤ carryover_budget ∧
        ∀ older unit, left = older ++ [unit] →
          carryover_budget < (carried.map (unit_tokens codec engine history)).sum+unit_tokens codec engine history
          unit := by
  obtain ⟨carried,left,split,start,within,beyond⟩ :=
    carried_run (unit_tokens codec engine history) (units history.rows).reverse carryover_budget history.rows.length
  have ranges : units history.rows = left.reverse ++ carried.reverse := by rw [← reverse_append,← split,reverse_reverse]
  have rows := @renew_history_rows codec engine history carryover_budget
  rw [start] at rows
  refine ⟨fun paired => ?_,left.reverse,carried.reverse,ranges,by rw [rows,head?_reverse],?_,fun older unit same => ?_⟩
  · rw [rows]
    refine paired.drop ?_
    cases last : carried.getLast? with
    | none =>
      rw [Option.elim_none,Cut,take_of_length_le (Nat.le_of_eq (length_map _))]
      exact paired.strict
    | some unit =>
    refine (paired.cuts ?_).1
    show unit ∈ units history.rows
    rw [ranges]
    exact mem_append_right _ (mem_reverse.mpr (mem_of_getLast? last))
  · rwa [map_reverse,sum_reverse]
  · rw [map_reverse,sum_reverse]
    exact beyond unit older.reverse (by rw [← reverse_reverse left,same,reverse_append]; rfl)

/-- The second question is carried over with its call and its result. -/
theorem renew_pairs_looked_up :
    said_in (renew_history plain .char_approx 10 looked_up_history).rows = looked_up.drop 3 ∧
    Paired (said_in (renew_history plain .char_approx 10 looked_up_history).rows) :=
  ⟨rfl,(renew_pairs plain .char_approx 10 looked_up_history).1 looked_up_paired⟩

end Renewal

/-- Ranges that follow one another hold every position between. -/
theorem Tiles.holds {start stop position : Nat} {ranges : List (Nat × Nat)} (tiles : Tiles start ranges stop)
    (after : start ≤ position)
    (before : position < stop) : ∃ range ∈ ranges, range.1 ≤ position ∧ position < range.2 := by
  induction ranges generalizing start with
  | nil =>
    obtain rfl : start = stop := tiles
    omega
  | cons range rest ih =>
  obtain ⟨rfl,_,later⟩ := tiles
  by_cases here : position < range.2
  · exact ⟨range,mem_cons_self,after,here⟩
  · obtain ⟨other,member,within⟩ := ih later (by omega)
    exact ⟨other,mem_cons_of_mem _ member,within⟩

namespace ContextManager

private theorem linkless_history : Linkless fun manager after => after.history = manager.history :=
  ⟨fun _ => rfl,fun first second => second.trans first,fun _ _ => rfl,fun _ _ _ => rfl,fun _ _ _ _ _ => rfl,fun _ _ _ => rfl,fun _ _ => rfl⟩

/-- A provider's summary takes the place of the rows through the end of the unit in which its item lies, and calls nothing;
    the summary of an item that is not in the history takes no place. -/
theorem absorb_pairs (manager : ContextManager) (through : ItemId) (summary_tokens : Nat) :
    ((∀ row ∈ manager.history.rows, row.tag.id ≠ through) →
    manager.absorb_provider_summary through summary_tokens = (false,manager)) ∧
    (∀ position, (manager.history.rows.findIdx? fun row => row.tag.id = through) = some position →
      ∃ unit ∈ unit_boundaries (manager.history.rows.map message), unit.1 ≤ position ∧ position < unit.2 ∧
        ∃ summary, (manager.absorb_provider_summary through summary_tokens).2.history.rows =
        summary :: manager.history.rows.drop unit.2) ∧
    (Paired (manager.history.rows.map message) →
      Paired ((manager.absorb_provider_summary through summary_tokens).2.history.rows.map message)) := by
  unfold absorb_provider_summary
  split
  next absent => exact ⟨fun _ => rfl,fun position found => absurd (absent.symm.trans found) (by simp),fun paired => paired⟩
  next position found =>
  obtain ⟨held,here,_⟩ := findIdx?_eq_some_iff_getElem.mp found
  have inside : position < (manager.history.rows.map message).length := by rwa [length_map]
  obtain ⟨range,member,first,last⟩ := (unit_boundaries_tiles _).holds (Nat.zero_le position) inside
  have some_ : ((unit_boundaries (manager.history.rows.map message)).find? fun unit =>
      unit.1 ≤ position && position < unit.2).isSome = true :=
    find?_isSome.mpr ⟨range,member,by simp [first,last]⟩
  obtain ⟨unit,covering⟩ := Option.isSome_iff_exists.mp some_
  have listed := mem_of_find?_eq_some covering
  have around : unit.1 ≤ position ∧ position < unit.2 := by simpa using find?_some covering
  rw [covering]
  have swept : ∀ manager : ContextManager, manager.prune_orphaned_handles.reset_collapse_generation.sweep_knowledge_at_boundary.history =
      manager.history := fun _ => rfl
  dsimp only [Option.elim_some]
  rw [swept,linkless_history.foldl _ (fun manager row _ => linkless_history.add_edge manager _ row.tag.id .Summarizes)]
  refine ⟨fun absent => absurd (by simpa using here) (absent _ (getElem_mem held)),fun other same => ?_,fun paired => ?_⟩
  · obtain rfl := Option.some.inj (found.symm.trans same)
    exact ⟨unit,listed,around.1,around.2,_,rfl⟩
  · rw [map_cons,map_drop]
    exact (show Paired [_] from ⟨rfl,by simp [answers,tool_results]⟩).append (paired.drop (paired.cuts listed).2)

def looked_up_view : ContextManager :=
  { ContextManager.new ⟨none,1,5,false,true⟩ with
    history := ⟨looked_up.zipIdx.map fun row => ⟨ItemTag.new row.2 .User 0,row.1,3⟩,18⟩ }

/-- The item is the first call; its question and its result leave with it. -/
theorem absorb_pairs_looked_up :
    ((looked_up_view.absorb_provider_summary 1 4).2.history.rows.map message).tail = looked_up.drop 3 ∧
    Paired ((looked_up_view.absorb_provider_summary 1 4).2.history.rows.map message) :=
  ⟨rfl,(absorb_pairs looked_up_view 1 4).2.2 looked_up_paired⟩

end ContextManager

private theorem project_place {handles : HandleTable} {collapse_narration is_protected : Bool} {row : PartitionRow} {projected : CoreMessage}
    (shown : project_row handles collapse_narration is_protected row = some projected) : place projected = place row.message := by
  unfold project_row at shown
  rcases Option.or_eq_some_iff.mp shown with preview | ⟨_,narration⟩
  · split at preview
    · unfold project_message at preview
      cases content : row.message.content with
      | Text text => simp [content] at preview
      | Parts parts =>
      rw [content] at preview
      dsimp only at preview
      split at preview <;> cases preview
      simp only [place,content,map_map]
      congr 3
      refine map_congr_left fun part _ => ?_
      cases part with
      | ToolResult call_id output is_error durable_content =>
        rw [Function.comp_apply,project_part]
        split <;> rfl
      | Other durable => rfl
    · cases preview
  split at narration
  · cases narration
  unfold project_assistant_narration at narration
  split at narration
  · cases narration
  cases content : row.message.content with
  | Text text =>
    rw [content] at narration
    dsimp only at narration
    split at narration <;> cases narration
    simp only [place,content]
  | Parts parts => simp [content] at narration

private theorem range_items {α : Type} (items : List α) (count : Nat) : ∀ start,
    (List.range' start count).filterMap (fun index => items[index]?) = (items.drop start).take count := by
  induction count with
  | zero => intro start; rfl
  | succ count ih =>
  intro start
  rw [range'_succ,filterMap_cons,ih]
  rcases Nat.lt_or_ge start items.length with inside | beyond
  · rw [getElem?_eq_getElem inside,drop_eq_getElem_cons inside,take_succ_cons]
  · simp [getElem?_eq_none beyond,drop_eq_nil_of_le beyond,drop_eq_nil_of_le (Nat.le_succ_of_le beyond)]

namespace ContextManager
variable {engine : ContextTokenEngine} {manager : ContextManager}

private theorem unit_places (is_protected : Bool) (range : Nat × Nat) :
    ((manager.render_unit engine is_protected range).turns.map RenderedTurn.message).map place =
      (slice (manager.history.rows.map message) range).map place := by
  have rendered : ∀ index, (manager.render_row engine is_protected index).map (fun rendered => place rendered.1.message) =
      ((manager.history.rows.map message).map place)[index]? := by
    intro index
    unfold render_row
    rw [getElem?_map,getElem?_map]
    cases manager.history.rows[index]? with
    | none => rfl
    | some row =>
    simp only [Option.map_some]
    split
    next shown => rw [project_place shown]
    next => rfl
  unfold render_unit slice
  dsimp only
  rw [map_map,map_map,map_filterMap,drop_take,map_take,map_drop,← range_items]
  exact filterMap_congr fun index _ => rendered index

/-- A render of a paired history is paired. -/
theorem render_pairs (engine : ContextTokenEngine) (manager : ContextManager) (setting : Setting) (budget : Nat)
    (paired : Paired (manager.history.rows.map message)) :
    Paired (manager.render_projected engine setting budget).turns := by
  unfold render_projected
  dsimp only
  obtain ⟨newer,rest,split,kept,_⟩ := select_takes budget (manager.render_units engine).reverse
    ⟨[],budget-manager.fixed_tokens engine setting,manager.fixed_tokens engine setting,
      if budget < manager.fixed_tokens engine setting then some ⟨.FixedContext,manager.fixed_tokens engine setting,budget⟩ else none⟩
  rw [kept,append_nil]
  have turns : Paired (((newer.reverse.filter weighs).flatMap RenderUnit.turns).map RenderedTurn.message) := by
    rw [map_flatMap]
    refine Paired.flatMap fun unit member => ?_
    have listed : unit ∈ (manager.render_units engine).reverse := by
      rw [split]
      exact mem_append_left _ (mem_reverse.mp (mem_of_mem_filter member))
    obtain ⟨⟨range,index⟩,zipped,rfl⟩ := mem_map.mp (mem_reverse.mp listed)
    exact (paired.slice (fst_mem_of_mem_zipIdx zipped)).congr (unit_places _ range)
  unfold normalize_turn_prefix
  split
  next first others same =>
    split
    · exact (show Paired [_] from ⟨rfl,by simp⟩).append turns
    · exact turns
  next => exact .nil

/-- The budget has room for the second question alone. -/
theorem render_pairs_looked_up : (looked_up_view.render_projected flat_engine idle_setting 7).turns.length = 3 ∧
    Paired (looked_up_view.render_projected flat_engine idle_setting 7).turns :=
  ⟨by decide +kernel,render_pairs flat_engine looked_up_view idle_setting 7 looked_up_paired⟩

end ContextManager

end Deepstrike.Context

import Deepstrike.Shrinking
import Deepstrike.Utility

/-!
The compaction of a history to a target: two passes shorten rows in place, two stages archive whole units by their
value. A stage that archives takes rows out in order and leaves what fits the target, or what must stay.
-/
namespace Deepstrike.Collapsing
open Context Excerpting Lexical Utility List MeasuredRow

/-- The partitions as far as a compaction reads them: what the others count, the task state as it is rendered, what
    of it tells the value of a unit, and the history. -/
structure ContextPartitions where
  system_tokens : Nat
  knowledge_tokens : Nat
  task_state : String
  context : UtilitySelectionContext
  history : MeasuredPartition

/-- The tokens of everything but the history; an empty task state costs nothing. -/
def ContextPartitions.other_tokens (engine : TokenCounter) (partitions : ContextPartitions) : Nat :=
  partitions.system_tokens+partitions.knowledge_tokens+(if partitions.task_state.isEmpty then 0 else engine.count partitions.task_state)

def ContextPartitions.total_tokens (engine : TokenCounter) (partitions : ContextPartitions) : Nat :=
  partitions.other_tokens engine+partitions.history.token_count

/-- What a stage freed, the rows it took out, and the first row it touched. -/
structure CompressResult where
  tokens_saved : Nat
  archived : List MeasuredRow
  prefix_invalidated_at : Option Nat

/-- The rows at some positions are taken out, in order, and so many tokens left behind. -/
def take_rows (history : MeasuredPartition) (indices : List Nat) (retained_tokens : Nat) : List MeasuredRow × MeasuredPartition :=
  ((history.rows.zipIdx.filter fun row => indices.contains row.2).map Prod.fst,
    ⟨(history.rows.zipIdx.filter fun row => !indices.contains row.2).map Prod.fst,retained_tokens⟩)

/-- The positions in some ranges. -/
def positions_in (ranges : List (Nat × Nat)) : List Nat := ranges.flatMap fun range => List.range' range.1 (range.2-range.1)

def apply_utility_plan (history : MeasuredPartition) (plan : UtilityArchivePlan) : List MeasuredRow × MeasuredPartition :=
  take_rows history (positions_in plan.archived_ranges) plan.retained_tokens

section Stages
variable (codec : Codec) (engine : TokenCounter) (vocabulary : Vocabulary) (scaled preserve_k : Nat)

def snip (partitions : ContextPartitions) : ContextPartitions × CompressResult :=
  let compaction := SnipCompactor.compress codec engine scaled preserve_k partitions.history
  ({ partitions with history := compaction.history },⟨compaction.tokens_saved,[],compaction.prefix_invalidated_at⟩)

def micro (partitions : ContextPartitions) : ContextPartitions × CompressResult :=
  let compaction := MicroCompactor.compress codec engine partitions.context.preserved_refs preserve_k partitions.history
  ({ partitions with history := compaction.history },⟨compaction.tokens_saved,[],compaction.prefix_invalidated_at⟩)

variable (target_tokens : Nat)

/-- The plan of an archiving: the history has what the target leaves beside everything else. -/
def plan_of (partitions : ContextPartitions) : UtilityArchivePlan :=
  let non_history_tokens := partitions.total_tokens engine-partitions.history.token_count
  let history_target := target_tokens-non_history_tokens
  plan_utility_archive_with_measurements vocabulary engine partitions.context (partitions.history.rows.map message)
    (partitions.history.rows.map measurement) partitions.history.token_count history_target preserve_k

def collapse (partitions : ContextPartitions) : ContextPartitions × CompressResult :=
  let plan := plan_of engine vocabulary preserve_k target_tokens partitions
  if plan.archived_ranges.isEmpty then (partitions,⟨0,[],none⟩)
  else
    let prefix_invalidated_at := (plan.archived_ranges.map Prod.fst).min?
    let (archived,history) := apply_utility_plan partitions.history plan
    ({ partitions with history },⟨plan.archived_tokens,archived,prefix_invalidated_at⟩)

def auto (partitions : ContextPartitions) : ContextPartitions × CompressResult :=
  if partitions.history.rows.isEmpty then (partitions,⟨0,[],none⟩) else collapse engine vocabulary preserve_k target_tokens partitions

def stages : List (PressureAction × (ContextPartitions → ContextPartitions × CompressResult)) :=
  [(.SnipCompact,snip codec engine scaled preserve_k),(.MicroCompact,micro codec engine preserve_k),
    (.ContextCollapse,collapse engine vocabulary preserve_k target_tokens),(.AutoCompact,auto engine vocabulary preserve_k target_tokens)]

/-- The stages up to a tier, as long as the context is over its target. -/
def cascade (action : PressureAction) (target_tokens : Nat) :
    List (PressureAction × (ContextPartitions → ContextPartitions × CompressResult)) →
    ContextPartitions × CompressResult → ContextPartitions × CompressResult
  | [],state => state
  | (tier,stage) :: rest,state =>
    if tier.rank ≤ action.rank then
      if state.1.total_tokens engine ≤ target_tokens then state
      else
        let (partitions,result) := stage state.1
        cascade action target_tokens rest (partitions,⟨state.2.tokens_saved+result.tokens_saved,state.2.archived ++ result.archived,
          CompressionPipeline.earliest state.2.prefix_invalidated_at result.prefix_invalidated_at⟩)
    else cascade action target_tokens rest state

/-- What a compaction leaves, saves and archives, and where it broke the cached prefix. -/
def compress (action : PressureAction) (target_tokens : Nat) (partitions : ContextPartitions) : ContextPartitions × CompressResult :=
  if action = .None then (partitions,⟨0,[],none⟩)
  else cascade engine action target_tokens (stages codec engine vocabulary scaled preserve_k target_tokens) (partitions,⟨0,[],none⟩)

end Stages

section Interleave
variable {α : Type}

/-- Two lists make up a third, each in its own order. -/
inductive Interleaves : List α → List α → List α → Prop where
  | nil : Interleaves [] [] []
  | left {item : α} {first second whole : List α} (rest : Interleaves first second whole) : Interleaves
    (item :: first) second (item :: whole)
  | right {item : α} {first second whole : List α} (rest : Interleaves first second whole) : Interleaves first
    (item :: second) (item :: whole)

theorem Interleaves.alone (items : List α) : Interleaves [] items items := by
  induction items with
  | nil => exact .nil
  | cons item rest ih => exact .right ih

theorem Interleaves.filter {β : Type} (chooses : β → Bool) (read : β → α) (items : List β) :
    Interleaves ((items.filter chooses).map read) ((items.filter fun item => !chooses item).map read)
    (items.map read) := by
  induction items with
  | nil => exact .nil
  | cons item rest ih =>
  by_cases chosen : chooses item = true
  · simp only [filter_cons,chosen,Bool.not_true,if_true,Bool.false_eq_true,if_false,map_cons]
    exact .left ih
  · simp only [filter_cons,chosen,Bool.not_false,if_true,map_cons]
    exact .right ih

variable {ranges : List (Nat × Nat)}

/-- The rows of units in a row of ranges are those that a choice by position takes, when it takes each unit whole. -/
theorem tiled_filter {items : List α} (tiles : Tiles 0 ranges items.length) (chooses : Nat → Bool)
    (retained : Finset Nat) (held : Bool)
    (whole : ∀ index range, ranges[index]? = some range → ∀ position, range.1 ≤ position → position < range.2 →
      chooses position = (decide (index ∈ retained) == held)) :
    (items.zipIdx.filter fun item => chooses item.2).map Prod.fst =
      (among ranges retained held).flatMap (slice items) := by
  induction ranges using reverseRecOn generalizing items with
  | nil =>
    have empty : items = [] := length_eq_zero_iff.mp tiles.symm
    rw [empty]
    rfl
  | append_singleton ranges last ih =>
  obtain ⟨before,nonempty,ends⟩ := tiles.of_concat
  have front : (items.take last.1).length = last.1 := by
    rw [length_take]
    omega
  have taken := @ih (items.take last.1) (by rwa [front]) fun index range found =>
    whole index range (by rw [List.getElem?_append_left (List.getElem?_eq_some_iff.mp found).1,found])
  have here := whole ranges.length last (by rw [getElem?_concat_length])
  rw [among_concat,flatMap_append]
  conv_lhs => rw [← take_append_drop last.1 items,zipIdx_append,filter_append,map_append,taken]
  congr 1
  · refine flatMap_congr fun range member => ?_
    have within : range.2 ≤ last.1 := by
      unfold among at member
      obtain ⟨⟨found,index⟩,chosen,rfl⟩ := mem_map.mp member
      exact before.within (mem_of_getElem? (mem_zipIdx_iff_getElem?.mp (mem_of_mem_filter chosen)))
    unfold slice
    rw [take_take,Nat.min_eq_left within]
  rw [front,Nat.zero_add]
  have every : ∀ item ∈ (items.drop last.1).zipIdx last.1, chooses item.2 = (decide (ranges.length ∈ retained) == held) := by
    rintro ⟨item,position⟩ member
    obtain ⟨low,high,-⟩ := mem_zipIdx member
    rw [length_drop] at high
    exact here position low (by omega)
  rw [filter_congr every]
  by_cases chosen : (decide (ranges.length ∈ retained) == held) = true
  · rw [if_pos chosen]
    simp only [chosen,filter_true,zipIdx_map_fst,flatMap_cons,flatMap_nil,append_nil,slice]
    rw [ends,take_length]
  · rw [if_neg chosen]
    simp [chosen]

theorem Tiles.ordered {start stop : Nat} (tiles : Tiles start ranges stop) :
    ranges.Pairwise fun first second => first.2 ≤ second.1 := by
  induction ranges using reverseRecOn generalizing stop with
  | nil => exact .nil
  | append_singleton ranges last ih =>
  obtain ⟨before,nonempty,ends⟩ := tiles.of_concat
  rw [pairwise_append]
  refine ⟨ih before,pairwise_singleton _ _,fun first member second last_ => ?_⟩
  rw [mem_singleton.mp last_]
  exact before.within member

private theorem position_in_iff {start stop : Nat} (tiles : Tiles start ranges stop) (retained : Finset Nat) (held : Bool) {index : Nat}
    {range : Nat × Nat} (found : ranges[index]? = some range) {position : Nat} (low : range.1 ≤ position) (high : position < range.2) :
    (positions_in (among ranges retained held)).contains position = (decide (index ∈ retained) == held) := by
  rw [Bool.eq_iff_iff,contains_iff_mem]
  unfold positions_in among
  rw [mem_flatMap]
  constructor
  · rintro ⟨other,member,lies⟩
    obtain ⟨⟨other,place⟩,filtered,rfl⟩ := mem_map.mp member
    obtain ⟨listed,chosen⟩ := mem_filter.mp filtered
    have also := mem_zipIdx_iff_getElem?.mp listed
    rw [mem_range'_1] at lies
    obtain ⟨index_some,index_is⟩ := List.getElem?_eq_some_iff.mp found
    obtain ⟨place_some,place_is⟩ := List.getElem?_eq_some_iff.mp also
    have ordered := pairwise_iff_getElem.mp (Tiles.ordered tiles)
    rcases Nat.lt_trichotomy index place with earlier | rfl | later
    · have apart := ordered index place index_some place_some earlier
      rw [index_is,place_is] at apart
      dsimp only at lies apart
      omega
    · exact chosen
    · have apart := ordered place index place_some index_some later
      rw [index_is,place_is] at apart
      dsimp only at lies apart
      omega
  · intro chosen
    refine ⟨range,mem_map.mpr ⟨(range,index),mem_filter.mpr ⟨mem_zipIdx_iff_getElem?.mpr found,chosen⟩,rfl⟩,?_⟩
    rw [mem_range'_1]
    omega

end Interleave

/-- What the rows are recorded with. -/
def recorded_tokens (rows : List MeasuredRow) : Nat := (rows.map fun row => row.measurement.tokens).sum

/-- The units of some rows. -/
def units (rows : List MeasuredRow) : List (Nat × Nat) := unit_boundaries (rows.map message)

section Units
variable {rows : List MeasuredRow}

theorem units_tile (rows : List MeasuredRow) : Tiles 0 (units rows) rows.length := by
  have tiles := unit_boundaries_tiles (rows.map message)
  rwa [length_map] at tiles

theorem units_taken (history : MeasuredPartition) (retained : Finset Nat) (retained_tokens : Nat) :
    take_rows history (positions_in (among (units history.rows) retained false)) retained_tokens =
      ((among (units history.rows) retained false).flatMap (slice history.rows),
      ⟨(among (units history.rows) retained true).flatMap (slice history.rows),retained_tokens⟩) := by
  have tiles := units_tile history.rows
  unfold take_rows
  rw [tiled_filter tiles _ retained false fun index range found position low high => position_in_iff tiles retained false found low high,
    tiled_filter tiles (fun position => !(positions_in (among (units history.rows) retained false)).contains position) retained true
      fun index range found position low high => ?_]
  rw [position_in_iff tiles retained false found low high]
  by_cases held : index ∈ retained <;> simp [held]

theorem Interleaves.length {α : Type} {first second whole : List α} (interleaves : Interleaves first second whole) :
    first.length+second.length = whole.length := by
  induction interleaves with
  | nil => rfl
  | left rest ih =>
    simp only [length_cons]
    omega
  | right rest ih =>
  simp only [length_cons]
  omega

theorem Interleaves.recorded {first second whole : List MeasuredRow} (interleaves : Interleaves first second whole) :
    recorded_tokens first+recorded_tokens second = recorded_tokens whole := by
  unfold recorded_tokens
  induction interleaves with
  | nil => rfl
  | left rest ih =>
    simp only [map_cons,sum_cons]
    omega
  | right rest ih =>
  simp only [map_cons,sum_cons]
  omega

variable {retained : Finset Nat}

theorem mem_among {α : Type} {items : List α} {held : Bool} {item : α} :
    item ∈ among items retained held ↔ ∃ index, items[index]? = some item ∧ decide (index ∈ retained) = held := by
  unfold among
  rw [mem_map]
  constructor
  · rintro ⟨⟨found,index⟩,filtered,rfl⟩
    obtain ⟨listed,chosen⟩ := mem_filter.mp filtered
    exact ⟨index,mem_zipIdx_iff_getElem?.mp listed,by simpa using chosen⟩
  · rintro ⟨index,found,chosen⟩
    exact ⟨(item,index),mem_filter.mpr ⟨mem_zipIdx_iff_getElem?.mpr found,by simpa using chosen⟩,rfl⟩

private theorem among_map {α β : Type} (read : α → β) (items : List α) (retained : Finset Nat) (held : Bool) :
    among (items.map read) retained held = (among items retained held).map read := by
  unfold among
  rw [zipIdx_map,filter_map,map_map,map_map]
  rfl

end Units

section Plan
variable (engine : TokenCounter) (vocabulary : Vocabulary) (context : UtilitySelectionContext) (preserve_k : Nat)

/-- Whether the unit at a position of some rows has to stay. -/
def stays (rows : List MeasuredRow) (index : Nat) (range : Nat × Nat) : Bool :=
  is_mandatory vocabulary context preserve_k (units rows).length index (slice (rows.map message) range)

/-- The rows of the units that have to stay. -/
def mandatory_rows (rows : List MeasuredRow) : List MeasuredRow :=
  ((units rows).zipIdx.filter fun unit => stays vocabulary context preserve_k rows unit.2 unit.1).flatMap fun unit => slice rows unit.1

/-- The scores of the units of some rows. -/
def scores (rows : List MeasuredRow) (total_tokens : Nat) : List UtilityUnitScore :=
  score_units vocabulary engine context (rows.map message) (rows.map measurement) total_tokens preserve_k

variable {engine vocabulary context preserve_k} {rows : List MeasuredRow} {total_tokens : Nat}

variable {index : Nat}

private theorem scores_at : (scores engine vocabulary context preserve_k rows total_tokens)[index]? =
    (units rows)[index]?.map (score_unit vocabulary engine context (rows.map message) (rows.map measurement)
    total_tokens preserve_k (units rows) index) := by
  unfold scores score_units units
  rw [getElem?_map,getElem?_zipIdx]
  cases (unit_boundaries (rows.map message))[index]? <;> simp

private theorem unit_tokens_eq {range : Nat × Nat} (within : range.2 ≤ rows.length) :
    unit_tokens engine (rows.map message) (rows.map measurement) range = recorded_tokens (slice rows range) := by
  unfold unit_tokens recorded_tokens slice
  congr 1
  refine ext_getElem? fun index => ?_
  rw [getElem?_map,getElem?_map,getElem?_drop,getElem?_take]
  by_cases inside : index < range.2-range.1
  · have here : range.1+index < range.2 := by omega
    have some_ : range.1+index < rows.length := by omega
    rw [getElem?_range' inside,if_pos here]
    simp [some_]
  have past : ¬range.1+index < range.2 := by omega
  have outside : (range' range.1 (range.2-range.1))[index]? = none := by
    rw [getElem?_eq_none_iff,length_range']
    omega
  rw [outside,if_neg past]
  rfl

private theorem scores_tokens : (scores engine vocabulary context preserve_k rows total_tokens).map UtilityUnitScore.tokens =
    (units rows).map fun range => recorded_tokens (slice rows range) := by
  refine ext_getElem? fun index => ?_
  rw [getElem?_map,getElem?_map,scores_at]
  cases found : (units rows)[index]? with
  | none => rfl
  | some range =>
  have within := (units_tile rows).within (mem_of_getElem? found)
  exact congrArg some (unit_tokens_eq within)

private theorem recorded_flatMap (ranges : List (Nat × Nat)) : recorded_tokens (ranges.flatMap (slice rows)) =
    (ranges.map fun range => recorded_tokens (slice rows range)).sum := by
  induction ranges with
  | nil => rfl
  | cons range rest ih =>
  rw [flatMap_cons,map_cons,sum_cons,← ih]
  unfold recorded_tokens
  rw [map_append,sum_append]

private theorem among_tokens (retained : Finset Nat) (held : Bool) :
    ((among (scores engine vocabulary context preserve_k rows total_tokens) retained held).map UtilityUnitScore.tokens).sum =
      recorded_tokens ((among (units rows) retained held).flatMap (slice rows)) := by
  rw [← among_map,scores_tokens,among_map,recorded_flatMap]

end Plan

section Archive
variable (vocabulary : Vocabulary) (context : UtilitySelectionContext) (preserve_k history_target : Nat)

/-- A stage that archives nothing: the count is within the target, or every unit has to stay, or the rows are recorded within the target. -/
structure Kept (before after : MeasuredPartition) (archived : List MeasuredRow) (saved : Nat) : Prop where
  same : after = before
  nothing : archived = []
  free : saved = 0
  settled : before.token_count ≤ history_target ∨ mandatory_rows vocabulary context preserve_k before.rows = before.rows ∨
    recorded_tokens before.rows ≤ history_target

/-- A stage that archives some units of a history whose count is over the target: the rest is within it, or has to stay. -/
structure Archived (before after : MeasuredPartition) (archived : List MeasuredRow) (saved : Nat) : Prop where
  sought : history_target < before.token_count
  optional : mandatory_rows vocabulary context preserve_k before.rows ≠ before.rows
  order : Interleaves archived after.rows before.rows
  counted : after.token_count = recorded_tokens after.rows
  saved_all : saved = recorded_tokens archived
  reached : after.token_count ≤ history_target ∨ after.rows = mandatory_rows vocabulary context preserve_k before.rows

variable {vocabulary context preserve_k history_target} {engine : TokenCounter} {partitions : ContextPartitions} {target_tokens : Nat}

private theorem other_tokens_eq : partitions.total_tokens engine-partitions.history.token_count = partitions.other_tokens engine :=
  Nat.add_sub_cancel ..

/-- What a plan retains of a history that is over its target. -/
theorem plan_cases (over_target : ¬partitions.history.token_count ≤ target_tokens-partitions.other_tokens engine)
    (filled : units partitions.history.rows ≠ []) :
    ∃ retained retained_tokens,
      Retained (scores engine vocabulary partitions.context preserve_k partitions.history.rows
      partitions.history.token_count)
        (target_tokens-partitions.other_tokens engine) (retained,retained_tokens) ∧
      (plan_of engine vocabulary preserve_k target_tokens partitions).archived_ranges =
        among (units partitions.history.rows) retained false ∧
      (plan_of engine vocabulary preserve_k target_tokens partitions).retained_tokens = retained_tokens ∧
      (plan_of engine vocabulary preserve_k target_tokens partitions).archived_tokens =
        recorded_tokens ((among (units partitions.history.rows) retained false).flatMap
        (slice partitions.history.rows)) := by
  refine ⟨_,_,retain_retained _ _,?_⟩
  unfold plan_of plan_utility_archive_with_measurements
  dsimp only
  rw [other_tokens_eq,if_neg (by simpa [units] using filled),if_neg over_target]
  exact ⟨rfl,rfl,among_tokens ..⟩

theorem plan_quiet (quiet : units partitions.history.rows = [] ∨
    partitions.history.token_count ≤ target_tokens-partitions.other_tokens engine) :
    (plan_of engine vocabulary preserve_k target_tokens partitions).archived_ranges = [] := by
  unfold plan_of plan_utility_archive_with_measurements
  dsimp only
  rw [other_tokens_eq]
  split
  next => rfl
  next filled =>
  rcases quiet with empty | within
  · rw [units] at empty
    rw [empty] at filled
    exact absurd rfl filled
  · rw [if_pos within]

end Archive

end Deepstrike.Collapsing

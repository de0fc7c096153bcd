import Mathlib.Algebra.BigOperators.Intervals
import Deepstrike.Excerpting
import Deepstrike.Lexical

/-!
The selection by value over indivisible units: which units of a history a compaction retains under a target. What
may not go is retained even where it alone is over the target; of the rest, the densest that still fit are.
-/
namespace Deepstrike.Utility
open Wire Context Excerpting Lexical List

structure UtilitySelectionContext where
  goal : String
  criteria : List String
  preserved_refs : List String
  active_directives : List String

structure UtilityUnitScore where
  range : Nat × Nat
  tokens : Nat
  mandatory : Bool
  goal_overlap : Nat
  has_unresolved : Bool
  referenced_later : Bool
  is_error_or_decision : Bool
  recency : Nat
  token_cost : Nat
  prefix_invalidation_cost : Nat
  utility : Int

structure UtilityArchivePlan where
  archived_ranges : List (Nat × Nat)
  retained_ranges : List (Nat × Nat)
  archived_tokens : Nat
  retained_tokens : Nat
  scores : List UtilityUnitScore

/-- The items of a range. -/
def slice {α : Type} (items : List α) (range : Nat × Nat) : List α := (items.take range.2).drop range.1

section Texts
variable (vocabulary : Vocabulary)

def part_text : ContentPart → String
  | .ToolResult call_id output _ _ => call_id ++ " " ++ output
  | .Other durable => vocabulary.part_text durable

def message_parts (message : CoreMessage) : List String :=
  (match message.content with
  | .Text content => [content]
  | .Parts parts => parts.map (part_text vocabulary)) ++
    message.tool_calls.map fun call => call.id ++ " " ++ call.name ++ " " ++ call.arguments

variable (messages : List CoreMessage)

/-- The text of a unit, a line for each of its parts. -/
def unit_text : String := "\n".intercalate (messages.flatMap (message_parts vocabulary))

def marker_folded (folded_text : String) (markers : List String) : Bool := markers.any (contains folded_text)

/-- Whether a message has a result that failed. -/
def has_error (message : CoreMessage) : Bool :=
  match message.content with
  | .Text _ => false
  | .Parts parts => parts.any fun part =>
    match part with
    | .ToolResult _ _ is_error _ => is_error
    | .Other _ => false

/-- A call without a result, a result that failed, or a mark of something open. -/
def has_unresolved (folded_text : String) : Bool :=
  let opened := messages.flatMap fun message => message.tool_calls.map ToolCall.id
  let resolved := messages.flatMap fun message => (ContextManager.tool_results message).map Prod.fst
  messages.any has_error || opened.any (fun call_id => !resolved.contains call_id) ||
    marker_folded folded_text ["unresolved","open question","retry","blocked","待确认","未解决","重试","阻塞"]

def is_error_or_decision (folded_text : String) : Bool :=
  messages.any has_error ||
    marker_folded folded_text ["error","failed","failure","exception","decision","decided","must","should",
      "错误","失败","异常","决定","选择","必须","应当"]

/-- The paths and links among the words of a text. -/
def paths (text : String) : List String :=
  (((split_whitespace vocabulary text).map trim_punctuation).map String.ofList).filter fun token =>
    (contains token "/" || contains token "://") && 3 < token.utf8ByteSize

/-- A later unit names a call of this one, or a path in it. -/
def unit_referenced_later (text : String) (later : List String) : Bool :=
  ((messages.flatMap fun message => message.tool_calls.map ToolCall.id) ++ paths vocabulary text).any fun reference =>
    later.any fun later_text => contains_folded vocabulary later_text reference

end Texts

/-- The denser of two units, by utility for each token. -/
def compare_density (left right : UtilityUnitScore) : Ordering :=
  ((compare (left.utility*max right.tokens 1) (right.utility*max left.tokens 1)).then (compare left.utility right.utility)).then
    (compare left.range.1 right.range.1)

section Plan
variable (vocabulary : Vocabulary) (engine : TokenCounter) (context : UtilitySelectionContext) (messages : List CoreMessage)
  (measurements : List TokenMeasurement)

/-- What the rows of a range are recorded with; one without a measurement is counted. -/
def unit_tokens (range : Nat × Nat) : Nat :=
  ((List.range' range.1 (range.2-range.1)).map fun index =>
    measurements[index]?.elim (messages[index]?.elim 0 engine.count_message) TokenMeasurement.tokens).sum

def goal_terms : Finset String := terms vocabulary (" ".intercalate (context.goal :: context.criteria))

/-- A preserved reference, or an active directive, names the text of a unit. -/
def dependency (text : String) : Bool :=
  context.preserved_refs.any (contains_folded vocabulary text) || context.active_directives.any (directive_dependency vocabulary text)

/-- Whether the unit at a position has to stay: it is among the newest, or unresolved, or something preserved names it. -/
def is_mandatory (preserve_recent_units units index : Nat) (unit : List CoreMessage) : Bool :=
  let text := unit_text vocabulary unit
  units-preserve_recent_units ≤ index || has_unresolved unit (vocabulary.to_lowercase text) || dependency vocabulary context text

def score_unit (total_tokens preserve_recent_units : Nat) (ranges : List (Nat × Nat)) (index : Nat)
    (range : Nat × Nat) : UtilityUnitScore :=
  let unit_texts := ranges.map fun range => unit_text vocabulary (slice messages range)
  let denominator := max total_tokens 1
  let unit_count := max ranges.length 1
  let unit := slice messages range
  let text := unit_text vocabulary unit
  let folded_text := vocabulary.to_lowercase text
  let tokens := unit_tokens engine messages measurements range
  let goal_terms := goal_terms vocabulary context
  let goal_overlap := if goal_terms = ∅ then 0 else overlap_count (terms vocabulary text) goal_terms
  let unresolved := has_unresolved unit folded_text
  let referenced_later := unit_referenced_later vocabulary unit text (unit_texts.drop (index+1))
  let error_or_decision := is_error_or_decision unit folded_text
  let recency := (index+1)*1000/unit_count
  let token_cost := tokens*1000/denominator
  let prefix_invalidation_cost := (ranges.length-index)*1000/unit_count
  { range, tokens
    mandatory := is_mandatory vocabulary context preserve_recent_units ranges.length index unit
    goal_overlap
    has_unresolved := unresolved
    referenced_later
    is_error_or_decision := error_or_decision
    recency, token_cost, prefix_invalidation_cost
    utility := goal_overlap*4000+(if unresolved then 20000 else 0)+(if referenced_later then 5000 else 0)+
      (if error_or_decision then 6000 else 0)+recency*2-token_cost*2-prefix_invalidation_cost }

def score_units (total_tokens preserve_recent_units : Nat) : List UtilityUnitScore :=
  let ranges := unit_boundaries messages
  ranges.zipIdx.map fun unit =>
  score_unit vocabulary engine context messages measurements total_tokens preserve_recent_units ranges unit.2 unit.1

variable (scores : List UtilityUnitScore)

/-- The tokens of the unit at a position. -/
def tokens_at (index : Nat) : Nat := scores[index]?.elim 0 UtilityUnitScore.tokens

/-- A unit is retained when it still fits. -/
def keep_if_fits (target_tokens : Nat) (state : Finset Nat × Nat) (index : Nat) : Finset Nat × Nat :=
  if state.2+tokens_at scores index ≤ target_tokens then (insert index state.1,state.2+tokens_at scores index) else state

/-- The positions of the units that have or have not to stay. -/
def positions (mandatory : Bool) : List Nat :=
  (scores.zipIdx.filter fun unit => unit.1.mandatory == mandatory).map Prod.snd

/-- The units that may go, the densest first. -/
def by_density : List Nat :=
  (positions scores false).mergeSort fun left right =>
    match scores[right]?,scores[left]? with
    | some right,some left => (compare_density right left).isLE
    | _,_ => true

/-- What is retained, and its tokens: the mandatory units, and of the others the densest that fit. -/
def retain (target_tokens : Nat) : Finset Nat × Nat :=
  let mandatory := (positions scores true).toFinset
  (by_density scores).foldl (keep_if_fits scores target_tokens) (mandatory,∑ index ∈ mandatory, tokens_at scores index)

/-- The items at the positions that a set holds, or does not. -/
def among {α : Type} (items : List α) (retained : Finset Nat) (held : Bool) : List α :=
  (items.zipIdx.filter fun item => decide (item.2 ∈ retained) == held).map Prod.fst

def plan_utility_archive_with_measurements (total_tokens target_tokens preserve_recent_units : Nat) : UtilityArchivePlan :=
  let ranges := unit_boundaries messages
  if ranges.isEmpty then ⟨[],[],0,0,[]⟩
  else
    let scores := score_units vocabulary engine context messages measurements total_tokens preserve_recent_units
    if total_tokens ≤ target_tokens then ⟨[],ranges,0,(scores.map UtilityUnitScore.tokens).sum,scores⟩
    else
      let (retained,retained_tokens) := retain scores target_tokens
      ⟨among ranges retained false,among ranges retained true,((among scores retained false).map UtilityUnitScore.tokens).sum,
        retained_tokens,scores⟩

end Plan

section Retain
variable {scores : List UtilityUnitScore} {target_tokens : Nat}

variable {mandatory : Bool} {index : Nat} {state : Finset Nat × Nat}

theorem mem_positions :
    index ∈ positions scores mandatory ↔ ∃ score, scores[index]? = some score ∧ score.mandatory = mandatory := by
  unfold positions
  rw [mem_map]
  constructor
  · rintro ⟨⟨score,position⟩,member,rfl⟩
    obtain ⟨member,marked⟩ := mem_filter.mp member
    exact ⟨score,mem_zipIdx_iff_getElem?.mp member,by simpa using marked⟩
  · rintro ⟨score,held,marked⟩
    exact ⟨(score,index),mem_filter.mpr ⟨mem_zipIdx_iff_getElem?.mpr held,by simpa using marked⟩,rfl⟩

private theorem positions_nodup (mandatory : Bool) : (positions scores mandatory).Nodup := by
  have part : (positions scores mandatory).Sublist (scores.zipIdx.map Prod.snd) := filter_sublist.map Prod.snd
  rw [zipIdx_map_snd] at part
  exact part.nodup nodup_range'

private theorem positions_within (member : index ∈ positions scores mandatory) : index < scores.length := by
  obtain ⟨score,held,-⟩ := mem_positions.mp member
  exact (List.getElem?_eq_some_iff.mp held).1

/-- What the selection retains: units of the history, the mandatory among them, weighed; and no others when over the target. -/
structure Retained (scores : List UtilityUnitScore) (target_tokens : Nat) (state : Finset Nat × Nat) : Prop where
  within : ∀ index ∈ state.1, index < scores.length
  weighed : state.2 = ∑ index ∈ state.1, tokens_at scores index
  kept : ∀ index ∈ positions scores true, index ∈ state.1
  fair : state.2 ≤ target_tokens ∨ state.1 = (positions scores true).toFinset

theorem Retained.keep_if_fits (retained : Retained scores target_tokens state) (some_ : index < scores.length)
    (fresh : index ∉ state.1) : Retained scores target_tokens (keep_if_fits scores target_tokens state index) := by
  unfold Utility.keep_if_fits
  split
  next fits =>
    refine ⟨?_,?_,fun other member => Finset.mem_insert_of_mem (retained.kept other member),.inl fits⟩
    · intro other member
      rcases Finset.mem_insert.mp member with rfl | before
      · exact some_
      · exact retained.within other before
    · dsimp only
      rw [Finset.sum_insert fresh,retained.weighed,Nat.add_comm]
  next => exact retained

private theorem Retained.fold {indices : List Nat} (retained : Retained scores target_tokens state) (once : indices.Nodup)
    (some_ : ∀ index ∈ indices, index < scores.length) (fresh : ∀ index ∈ indices, index ∉ state.1) :
    Retained scores target_tokens (indices.foldl (Utility.keep_if_fits scores target_tokens) state) := by
  induction indices generalizing state with
  | nil => exact retained
  | cons index rest ih =>
  obtain ⟨apart,once⟩ := nodup_cons.mp once
  refine ih (retained.keep_if_fits (some_ index mem_cons_self) (fresh index mem_cons_self)) once
    (fun other member => some_ other (mem_cons_of_mem _ member)) fun other member held => ?_
  unfold Utility.keep_if_fits at held
  split at held
  next =>
    rcases Finset.mem_insert.mp held with rfl | before
    · exact apart member
    · exact fresh other (mem_cons_of_mem _ member) before
  next => exact fresh other (mem_cons_of_mem _ member) held

private theorem mem_by_density : index ∈ by_density scores ↔ index ∈ positions scores false := by
  unfold by_density
  exact mem_mergeSort

/-- The units the selection keeps meet its specification. -/
theorem retain_retained (scores : List UtilityUnitScore) (target_tokens : Nat) :
    Retained scores target_tokens (retain scores target_tokens) := by
  unfold retain
  refine Retained.fold ⟨fun index member => positions_within (mem_toFinset.mp member),rfl,fun index member => mem_toFinset.mpr member,.inr rfl⟩
    ((mergeSort_perm _ _).nodup_iff.mpr (positions_nodup false)) (fun index member => positions_within (mem_by_density.mp member))
    fun index member held => ?_
  obtain ⟨score,found,optional⟩ := mem_positions.mp (mem_by_density.mp member)
  obtain ⟨other,also,mandatory⟩ := mem_positions.mp (mem_toFinset.mp held)
  cases found.symm.trans also
  rw [optional] at mandatory
  cases mandatory

end Retain

section Among
variable {α : Type}

theorem among_concat (items : List α) (item : α) (retained : Finset Nat) (held : Bool) :
    among (items ++ [item]) retained held = among items retained held ++ if decide (items.length ∈ retained) ==
    held then [item] else [] := by
  unfold among
  rw [zipIdx_append,filter_append,map_append,Nat.zero_add]
  congr 1
  simp only [zipIdx_singleton,filter_cons,filter_nil]
  split <;> rfl

end Among

end Deepstrike.Utility

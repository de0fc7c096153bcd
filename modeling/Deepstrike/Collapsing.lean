import Deepstrike.Archiving

/-!
What a compaction to a target comes to over its stages. When the target is reached or only what must stay is left,
and when what is said to be saved is what the count of the history lost, is decided by how that count stands to the
rows it counts.
-/
namespace Deepstrike.Collapsing
open ContextPartitions
open Wire Context Excerpting Lexical Utility List MeasuredPartition Function CompressionPipeline

section Run
variable (vocabulary : Vocabulary) (context : UtilitySelectionContext) (preserve_k history_target : Nat)

/-- What has to stay fits the target, or still has to stay when it stands alone. -/
def Steady (rows : List MeasuredRow) : Prop :=
  recorded_tokens (mandatory_rows vocabulary context preserve_k rows) ≤ history_target ∨
    mandatory_rows vocabulary context preserve_k (mandatory_rows vocabulary context preserve_k rows) =
    mandatory_rows vocabulary context preserve_k rows

/-- Stages that archive some units of a history whose count is over the target, one after the other. Where only one of them
    takes rows out, these are in order, and what is left is within the target or has to stay. -/
structure Moved (once : Prop) (before after : MeasuredPartition) (archived : List MeasuredRow) (saved : Nat) : Prop where
  sought : history_target < before.token_count
  optional : mandatory_rows vocabulary context preserve_k before.rows ≠ before.rows
  order : once → Interleaves archived after.rows before.rows
  reached : once → after.token_count ≤ history_target ∨ after.rows = mandatory_rows vocabulary context preserve_k before.rows
  balanced : saved+after.token_count = recorded_tokens before.rows

variable {vocabulary context preserve_k history_target} {before middle after : MeasuredPartition}
    {archived more : List MeasuredRow} {saved further : Nat}

theorem Archived.balanced
    (archives : Archived vocabulary context preserve_k history_target before after archived saved) :
    saved+after.token_count = recorded_tokens before.rows := by
  rw [archives.saved_all,archives.counted]
  exact archives.order.recorded

theorem Archived.moved (archives : Archived vocabulary context preserve_k history_target before after archived saved)
    (once : Prop) :
    Moved vocabulary context preserve_k history_target once before after archived saved :=
  ⟨archives.sought,archives.optional,fun _ => archives.order,fun _ => archives.reached,archives.balanced⟩

/-- A second stage finds nothing to take out of what has to stay. -/
theorem Archived.last (archives : Archived vocabulary context preserve_k history_target before middle archived saved)
    (again : Archived vocabulary context preserve_k history_target middle after more further)
    (steady : Steady vocabulary context preserve_k history_target before.rows) : False := by
  have left := archives.reached.resolve_left (Nat.not_le.mpr again.sought)
  have sought := again.sought
  have optional := again.optional
  rw [archives.counted,left] at sought
  rw [left] at optional
  exact steady.elim (Nat.not_le.mpr sought) optional

variable {codec : Codec} {engine : TokenCounter} {scaled : Nat} {partitions : ContextPartitions} {target_tokens : Nat}

variable {action : PressureAction} {state : ContextPartitions × CompressResult}

/-- The tier of a compaction that archives. -/
def tier (heaviest : Bool) : PressureAction := if heaviest then .AutoCompact else .ContextCollapse

theorem cascade_cons {action tier : PressureAction} {stage : ContextPartitions → ContextPartitions × CompressResult}
    {rest : List (PressureAction × (ContextPartitions → ContextPartitions × CompressResult))} :
    cascade engine action target_tokens ((tier,stage) :: rest) state =
      if tier.rank ≤ action.rank then
        if state.1.total_tokens engine ≤ target_tokens then state
        else cascade engine action target_tokens rest
          ((stage state.1).1,⟨state.2.tokens_saved+(stage state.1).2.tokens_saved,
          state.2.archived ++ (stage state.1).2.archived,
          earliest state.2.prefix_invalidated_at (stage state.1).2.prefix_invalidated_at⟩)
      else cascade engine action target_tokens rest state := rfl

end Run

section Rewrite
variable (codec : Codec) (engine : TokenCounter) (shorten : MeasuredRow → Option (CoreMessage × Nat)) (selects : Nat → MeasuredRow → Bool)

/-- The rows with the selected among them shortened. -/
def rewritten (rows : List MeasuredRow) : List MeasuredRow :=
  rows.zipIdx.map fun row => if selects row.2 row.1 then shortened codec shorten row.1 else row.1

variable (rows : List MeasuredRow)

end Rewrite

section InPlace
variable (codec : Codec) (engine : TokenCounter) (scaled preserve_k : Nat) (partitions : ContextPartitions)

/-- Whether a row is capped, by its position. -/
def caps (position : Nat) (row : MeasuredRow) : Bool :=
  snips (per_msg_limit scaled) (prefix_keep_for partitions.history.rows.length preserve_k) position row

/-- Whether the tool results of a row are put under headers, by its position. -/
def heads (position : Nat) (row : MeasuredRow) : Bool :=
  compacts partitions.context.preserved_refs (prefix_keep_for partitions.history.rows.length preserve_k) position row

def cap : MeasuredRow → Option (CoreMessage × Nat) := capped codec engine (per_msg_limit scaled)

def head : MeasuredRow → Option (CoreMessage × Nat) := compacted codec engine partitions.history.tool_name partitions.context.preserved_refs

/-- What the tool results of a row count under headers. -/
def headed_tokens (row : MeasuredRow) : Nat :=
  engine.count_message (compact_message codec engine partitions.history.tool_name partitions.context.preserved_refs row.message)

/-- What the rows stand for: a long one for its limit at least, a headed one for its headed form at least, any other for what
    it is recorded with. -/
def standing : Nat := (partitions.history.rows.zipIdx.map fun row =>
  if caps scaled preserve_k partitions row.2 row.1 then max (row.1.measured codec engine) (per_msg_limit scaled)
  else if heads preserve_k partitions row.2 row.1 then max (row.1.measured codec engine) (headed_tokens codec engine partitions row.1)
  else row.1.measurement.tokens).sum

variable {codec engine scaled preserve_k partitions}

section Rows
variable {position : Nat} {row : MeasuredRow}

end Rows

variable {position : Nat} {row : MeasuredRow}

end InPlace

section Target
variable (codec : Codec) (engine : TokenCounter) (vocabulary : Vocabulary) (scaled preserve_k target_tokens : Nat) (partitions : ContextPartitions)

/-- What a compaction to a target is to do. The rows before the archiving are those the passes in place leave, with
    their identities. The archived rows and those that are left make them up, each in order; the history is within what the
    target leaves beside everything else, or what is left are the units that have to stay; and the tokens saved are what the
    count of the history lost. -/
structure Meets (eased : List MeasuredRow) (outcome : ContextPartitions × CompressResult) : Prop where
  identities : eased.map (fun row => row.tag.id) = partitions.history.rows.map fun row => row.tag.id
  parts : Interleaves outcome.2.archived outcome.1.history.rows eased
  reached : outcome.1.history.token_count ≤ target_tokens-partitions.other_tokens engine ∨
    outcome.1.history.rows = mandatory_rows vocabulary partitions.context preserve_k eased
  saved : outcome.1.history.token_count+outcome.2.tokens_saved = partitions.history.token_count

variable {codec engine vocabulary scaled preserve_k target_tokens partitions}

/-- A compaction meets its target only under a condition, and then does if it takes rows out once. -/
structure MeetsWhen (meets once condition : Prop) : Prop where
  only : meets → condition
  enough : once → condition → meets

theorem MeetsWhen.congr {meets once other condition same : Prop} (holds : MeetsWhen meets once condition)
    (enough : other → once)
    (alike : condition ↔ same) : MeetsWhen meets other same :=
  ⟨fun met => alike.mp (holds.only met),fun granted stands => holds.enough (enough granted) (alike.mpr stands)⟩

end Target

section Coherent
variable (codec : Codec) (engine : TokenCounter) (vocabulary : Vocabulary) (scaled preserve_k target_tokens : Nat) (partitions : ContextPartitions)

/-- A history that is counted as its rows are recorded, every row measured as it stands, whose headed results grow no row. -/
structure Coherent : Prop where
  counted : partitions.history.token_count = recorded_tokens partitions.history.rows
  fresh : ∀ row ∈ partitions.history.rows, row.Fresh codec
  headed : ∀ position row, partitions.history.rows[position]? = some row → heads preserve_k partitions position row = true →
    headed_tokens codec engine partitions row ≤ row.measurement.tokens

variable {codec engine scaled preserve_k partitions}

/-- The rows of a coherent history stand for what they are recorded with. -/
theorem Coherent.standing (coherent : Coherent codec engine preserve_k partitions) :
    partitions.history.token_count = standing codec engine scaled preserve_k partitions := by
  have whole : recorded_tokens partitions.history.rows = (partitions.history.rows.zipIdx.map fun row => row.1.measurement.tokens).sum := by
    unfold recorded_tokens
    conv_lhs => rw [← zipIdx_map_fst 0 partitions.history.rows,map_map]
    rfl
  rw [coherent.counted,whole]
  refine congrArg sum (map_congr_left fun row member => ?_)
  obtain ⟨row,position⟩ := row
  have held := mem_zipIdx_iff_getElem?.mp member
  have measured : row.measured codec engine = row.measurement.tokens := if_pos (coherent.fresh row (mem_of_getElem? held))
  dsimp only
  rw [measured]
  split
  next capped =>
    unfold caps snips at capped
    simp only [Bool.and_eq_true,decide_eq_true_eq] at capped
    omega
  next =>
  split
  next headed => exact (Nat.max_eq_left (coherent.headed position row held headed)).symm
  next => rfl

end Coherent

/-- A vocabulary of ASCII. -/
def ascii : Vocabulary :=
  ⟨fun character => [character.toLower],fun text => String.ofList (text.toList.map Char.toLower),Char.isAlphanum,Char.isWhitespace,id⟩

end Deepstrike.Collapsing

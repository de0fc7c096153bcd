import Deepstrike.Compressors

/-!
The in-place compactions of a history with the measurement of each row: an oversized text is capped at its head
and tail, a tool result is replaced by an excerpt under a header. Both rewrite chosen rows one after the other,
so what a pass does is said row by row, and so is what a second pass would still change.
-/
namespace Deepstrike.Excerpting
open Wire Context List Option CompressionPipeline

/-- Counts the tokens of a text and cuts a text to a budget. A part that is no tool result weighs what its text
    counts, or the estimate of its modality. -/
structure TokenCounter where
  count : String → Nat
  truncate : String → Nat → String
  count_other : Json → Nat

namespace TokenCounter
variable (engine : TokenCounter)

def count_part : ContentPart → Nat
  | .ToolResult _ output _ _ => engine.count output
  | .Other durable => engine.count_other durable

def count_message (message : CoreMessage) : Nat :=
  match message.content with
  | .Text text => engine.count text
  | .Parts parts => (parts.map engine.count_part).sum

/-- Four characters are a token. -/
def char_approx : TokenCounter :=
  ⟨fun text => max (text.length/4) 1,fun text max_tokens => String.ofList (text.toList.take (max_tokens*4)),fun _ => 1⟩

end TokenCounter

/-- A parsed JSON value; a number is kept as it is printed, the fields of an object in the order of the map. -/
inductive JsonValue where
  | Null
  | Bool (value : Bool)
  | Number (printed : String)
  | Text (text : String)
  | Array (items : List JsonValue)
  | Object (fields : List (String × JsonValue))

/-- The parser of JSON text, and the fingerprint a measurement ties itself to its message with. -/
structure Codec where
  from_str : String → Option JsonValue
  message_fingerprint : CoreMessage → String

structure TokenMeasurement where
  fingerprint : String
  tokens : Nat
  deriving DecidableEq,Repr

def TokenMeasurement.for_message (codec : Codec) (message : CoreMessage) (tokens : Nat) : TokenMeasurement :=
  ⟨codec.message_fingerprint message,tokens⟩

/-- One item of a positional tier: its identity, its message and the host's measurement of it. -/
structure MeasuredRow where
  tag : ItemTag
  message : CoreMessage
  measurement : TokenMeasurement
  deriving DecidableEq,Repr

namespace MeasuredRow

/-- The measurement is of this very message. -/
def Fresh (codec : Codec) (row : MeasuredRow) : Prop := row.measurement.fingerprint = codec.message_fingerprint row.message

instance (codec : Codec) (row : MeasuredRow) : Decidable (row.Fresh codec) := inferInstanceAs (Decidable (_ = _))

/-- A measurement of another message is not trusted. -/
def measured (codec : Codec) (engine : TokenCounter) (row : MeasuredRow) : Nat :=
  if row.Fresh codec then row.measurement.tokens else engine.count_message row.message

/-- The row in a shorter form of the same source. -/
def excerpted (codec : Codec) (row : MeasuredRow) (message : CoreMessage) (tokens : Nat) : MeasuredRow :=
  ⟨{ row.tag with fidelity := .Excerpt },message,.for_message codec message tokens⟩

def recorded (row : MeasuredRow) : PartitionRow := ⟨row.tag,row.message,row.measurement.tokens⟩

theorem measured_excerpted (codec : Codec) (engine : TokenCounter) (row : MeasuredRow) (message : CoreMessage)
    (tokens : Nat) :
    (row.excerpted codec message tokens).measured codec engine = tokens := if_pos rfl

end MeasuredRow

structure MeasuredPartition where
  rows : List MeasuredRow
  token_count : Nat
  deriving DecidableEq,Repr

/-- What an in-place compaction leaves, the tokens it freed, and the first row it touched. -/
structure Compaction where
  history : MeasuredPartition
  tokens_saved : Nat
  prefix_invalidated_at : Option Nat
  deriving DecidableEq,Repr

namespace MeasuredPartition
variable (codec : Codec) (engine : TokenCounter)

def measured_tokens (history : MeasuredPartition) (index : Nat) : Nat := history.rows[index]?.elim 0 (MeasuredRow.measured codec engine)

def recorded (history : MeasuredPartition) : Partition := ⟨history.rows.map MeasuredRow.recorded,history.token_count⟩

/-- A row is rewritten to a shorter form of the same source; the tokens freed, and the table. -/
def excerpt (history : MeasuredPartition) (index : Nat) (message : CoreMessage) (tokens : Nat) : Nat × MeasuredPartition :=
  let saved := history.measured_tokens codec engine index-tokens
  (saved,⟨history.rows.modify index fun row => row.excerpted codec message tokens,history.token_count-saved⟩)

/-- One row is rewritten; one without a shorter form stays. -/
def rewrite_step (shorten : MeasuredRow → Option (CoreMessage × Nat)) (state : Nat × MeasuredPartition)
    (index : Nat) : Nat × MeasuredPartition :=
  match state.2.rows[index]?.bind shorten with
  | some (message,tokens) =>
    let (saved,after) := state.2.excerpt codec engine index message tokens
    (state.1+saved,after)
  | none => state

/-- The rows at some positions are rewritten one after the other. -/
def rewrite (shorten : MeasuredRow → Option (CoreMessage × Nat)) (indices : List Nat)
    (history : MeasuredPartition) : Nat × MeasuredPartition :=
  indices.foldl (rewrite_step codec engine shorten) (0,history)

end MeasuredPartition

section
variable (codec : Codec) (engine : TokenCounter)

/-- The first position from which the rest of the text fits a budget, as far as halving the range finds it. -/
def suffix_start (chars : List Char) (tail_tokens low high start : Nat) : Nat :=
  if low ≤ high then
    let mid := (low+high)/2
    if chars.length ≤ mid then start
    else if engine.count (String.ofList (chars.drop mid)) ≤ tail_tokens then
      if mid = 0 then mid else suffix_start chars tail_tokens low (mid-1) mid
    else suffix_start chars tail_tokens (mid+1) high start
  else start
termination_by high+1-low

/-- The head and the tail of a text, and how much was left out between them. -/
def excerpt_text_with_total (text : String) (head_tokens tail_tokens total_tokens : Nat) : String :=
  if total_tokens ≤ head_tokens+tail_tokens then text
  else
    let head := engine.truncate text head_tokens
    let chars := text.toList
    let start := suffix_start engine chars tail_tokens head.length chars.length chars.length
    let remaining := total_tokens-head_tokens-tail_tokens
    head ++ "… [… " ++ toString remaining ++ " tokens omitted …] …" ++ String.ofList (chars.drop start)

def excerpt_text (text : String) (head_tokens tail_tokens : Nat) : String :=
  excerpt_text_with_total engine text head_tokens tail_tokens (engine.count text)

/-- The field of an object as the summary shows it: scalars, and texts of at most 50 bytes. -/
def summary_part (field : String × JsonValue) : Option String :=
  match field.2 with
  | .Number printed => some (field.1 ++ ": " ++ printed)
  | .Bool value => some (field.1 ++ ": " ++ toString value)
  | .Text text => if text.utf8ByteSize ≤ 50 then some (field.1 ++ ": \"" ++ text ++ "\"") else none
  | .Null | .Array _ | .Object _ => none

def extract_json_excerpt (output : String) : Option String :=
  match codec.from_str output with
  | some (.Object fields) =>
    some ("JSON Keys: [" ++ ", ".intercalate (fields.map Prod.fst) ++ "]\nJSON Fields: \x7b" ++
      ", ".intercalate (fields.filterMap summary_part) ++ "\x7d")
  | some (.Array []) => some "JSON Array: []"
  | some (.Array (first :: rest)) =>
    let headers :=
      match first with
      | .Object fields => fields.map Prod.fst
      | _ => []
    some ("JSON Array: " ++ toString (rest.length+1) ++ " items. Keys: [" ++ ", ".intercalate headers ++ "]")
  | _ => none

/-- A tool result under its header: a large one is summed up where it is JSON, any other is cut to its head and tail. -/
def compact_output (call_id : CallId) (tool_name output : String) : String :=
  let original_output_tokens := engine.count output
  let header := "[tool result: " ++ call_id ++ " | " ++ tool_name ++ " | " ++ toString original_output_tokens ++ " tokens]\n"
  if 2000 < original_output_tokens then
    match extract_json_excerpt codec output with
    | some json_excerpt => header ++ json_excerpt
    | none => header ++ excerpt_text engine output 30 10
  else header ++ excerpt_text engine output 150 50

/-- The tool results that nothing preserves are replaced, and lose their durable body. -/
def compact_part (tool_name : CallId → String) (preserved_refs : List String) : ContentPart → ContentPart
  | .ToolResult call_id output is_error durable_content =>
    if preserved_refs.contains call_id then .ToolResult call_id output is_error durable_content
    else .ToolResult call_id (compact_output codec engine call_id (tool_name call_id) output) is_error none
  | .Other durable => .Other durable

def compact_message (tool_name : CallId → String) (preserved_refs : List String) (message : CoreMessage) : CoreMessage :=
  match message.content with
  | .Text _ => message
  | .Parts parts => { message with content := .Parts (parts.map (compact_part codec engine tool_name preserved_refs)) }

/-- A text row, capped at its head and tail. The omitted count comes from the measurement. -/
def capped (limit : Nat) (row : MeasuredRow) : Option (CoreMessage × Nat) :=
  match row.message.content with
  | .Text text =>
    let head_limit := limit/2
    let tail_limit := limit-head_limit
    some ({ row.message with
      content := .Text (excerpt_text_with_total engine text head_limit tail_limit (row.measured codec engine)) },limit)
  | .Parts _ => none

/-- A row of parts, with its tool results compacted and counted again. -/
def compacted (tool_name : CallId → String) (preserved_refs : List String) (row : MeasuredRow) : Option (CoreMessage × Nat) :=
  match row.message.content with
  | .Text _ => none
  | .Parts _ =>
    let message := compact_message codec engine tool_name preserved_refs row.message
    some (message,engine.count_message message)

end

/-- The cap of one message: its share of the window, and 50 at the least. -/
def per_msg_limit (scaled : Nat) : Nat := max scaled 50

/-- The rows that a snip caps. -/
def MeasuredPartition.oversized (history : MeasuredPartition) (limit preserve_k : Nat) : List Nat :=
  oversized_text_message_indices history.recorded.rows limit (prefix_keep_for history.rows.length preserve_k)

/-- The rows whose tool results a micro compaction replaces. -/
def MeasuredPartition.excerptable (history : MeasuredPartition) (preserved_refs : List String) (preserve_k : Nat) : List Nat :=
  excerptable_tool_result_indices history.recorded.rows preserved_refs (prefix_keep_for history.rows.length preserve_k)

/-- The tool that made a call, as a history names it. -/
def MeasuredPartition.tool_name (history : MeasuredPartition) : CallId → String := find_tool_name history.recorded

def SnipCompactor.compress (codec : Codec) (engine : TokenCounter) (scaled preserve_k : Nat) (history : MeasuredPartition) : Compaction :=
  let indices := history.oversized (per_msg_limit scaled) preserve_k
  let (saved,after) := history.rewrite codec engine (capped codec engine (per_msg_limit scaled)) indices
  ⟨after,saved,indices.min?⟩

def MicroCompactor.compress (codec : Codec) (engine : TokenCounter) (preserved_refs : List String) (preserve_k : Nat)
    (history : MeasuredPartition) : Compaction :=
  let indices := history.excerptable preserved_refs preserve_k
  let (saved,after) := history.rewrite codec engine (compacted codec engine history.tool_name preserved_refs) indices
  ⟨after,saved,indices.min?⟩

/-- The parts of the cascade that these compactions are. -/
def pipeline (codec : Codec) (engine : TokenCounter) (scaled preserve_k : Nat)
    (plan_utility_archive : Partition → Nat → List Nat × Nat) : CompressionPipeline where
  per_msg_limit := per_msg_limit scaled
  preserve_recent_turns := preserve_k
  excerpt_text text tokens :=
    excerpt_text_with_total engine text (per_msg_limit scaled/2) (per_msg_limit scaled-per_msg_limit scaled/2) tokens
  excerpt_output := compact_output codec engine
  plan_utility_archive := plan_utility_archive
  count_message := engine.count_message

section
variable {codec : Codec} {engine : TokenCounter}

namespace MeasuredPartition
variable {history : MeasuredPartition}

section
variable (fresh : ∀ row ∈ history.rows, row.Fresh codec)
include fresh

private theorem measured_tokens_recorded (index : Nat) :
    history.recorded.rows[index]?.elim 0 PartitionRow.tokens = history.measured_tokens codec engine index := by
  unfold recorded measured_tokens
  rw [getElem?_map]
  cases held : history.rows[index]? with
  | none => rfl
  | some row => exact (if_pos (fresh row (mem_of_getElem? held))).symm

private theorem excerpt_recorded (index : Nat) (message : CoreMessage) (tokens : Nat) :
    history.recorded.excerpt index message tokens = (history.excerpt codec engine index message tokens).2.recorded := by
  unfold Partition.excerpt
  dsimp only
  rw [@measured_tokens_recorded codec engine history fresh]
  unfold recorded excerpt
  dsimp only
  congr 1
  refine ext_getElem? fun position => ?_
  rw [getElem?_modify,getElem?_map,getElem?_map,getElem?_modify]
  cases history.rows[position]? with
  | none => rfl
  | some row =>
  by_cases here : index = position
  · simp only [if_pos here]
    rfl
  · simp only [if_neg here]
    rfl

private theorem excerpt_fresh (index : Nat) (message : CoreMessage) (tokens : Nat) :
    ∀ row ∈ (history.excerpt codec engine index message tokens).2.rows, row.Fresh codec := by
  intro row member
  obtain ⟨position,held⟩ := mem_iff_getElem?.mp member
  unfold excerpt at held
  dsimp only at held
  rw [getElem?_modify] at held
  cases stood : history.rows[position]? with
  | none =>
    rw [stood] at held
    cases held
  | some former =>
  rw [stood] at held
  by_cases here : index = position
  · simp only [if_pos here] at held
    cases held
    rfl
  · simp only [if_neg here] at held
    cases held
    exact fresh _ (mem_of_getElem? stood)

end

end MeasuredPartition

/-- Where every row is measured, the record of a rewriting is a rewriting of the record. -/
theorem rewrite_recorded {shorten : MeasuredRow → Option (CoreMessage × Nat)}
    {step : Partition × Nat → Nat → Partition × Nat}
    (follows : ∀ saved (history : MeasuredPartition) index, (∀ row ∈ history.rows, row.Fresh codec) →
      step (history.recorded,saved) index =
        match history.rows[index]?.bind shorten with
        | some (message,tokens) =>
          (history.recorded.excerpt index message tokens,saved+(history.measured_tokens codec engine index-tokens))
        | none => (history.recorded,saved))
    (indices : List Nat) (saved : Nat) (history : MeasuredPartition) (fresh : ∀ row ∈ history.rows, row.Fresh codec) :
    indices.foldl step (history.recorded,saved) =
      ((indices.foldl (MeasuredPartition.rewrite_step codec engine shorten) (saved,history)).2.recorded,
        (indices.foldl (MeasuredPartition.rewrite_step codec engine shorten) (saved,history)).1) := by
  induction indices generalizing saved history with
  | nil => rfl
  | cons index rest ih =>
  rw [foldl_cons,foldl_cons,follows saved history index fresh]
  unfold MeasuredPartition.rewrite_step
  cases shorter : history.rows[index]?.bind shorten with
  | none => exact ih saved history fresh
  | some form =>
  obtain ⟨message,tokens⟩ := form
  dsimp only
  rw [@MeasuredPartition.excerpt_recorded codec engine history fresh]
  exact ih _ _ (MeasuredPartition.excerpt_fresh fresh index message tokens)

variable {scaled preserve_k : Nat} {plan_utility_archive : Partition → Nat → List Nat × Nat} {history : MeasuredPartition}

/-- Over fresh rows the snip is that of the measured rows. -/
theorem snip_recorded (fresh : ∀ row ∈ history.rows, row.Fresh codec) :
    (pipeline codec engine scaled preserve_k plan_utility_archive).snip history.recorded =
      ⟨(SnipCompactor.compress codec engine scaled preserve_k history).history.recorded,
        (SnipCompactor.compress codec engine scaled preserve_k history).tokens_saved,[],
        (SnipCompactor.compress codec engine scaled preserve_k history).prefix_invalidated_at⟩ := by
  have length : history.recorded.rows.length = history.rows.length := length_map _
  unfold snip SnipCompactor.compress MeasuredPartition.oversized MeasuredPartition.rewrite
  dsimp only [pipeline]
  rw [length,@rewrite_recorded codec engine (capped codec engine (per_msg_limit scaled)) _ ?_ _ 0 history fresh]
  intro saved history index fresh
  unfold MeasuredPartition.recorded MeasuredPartition.measured_tokens
  dsimp only
  rw [getElem?_map]
  cases held : history.rows[index]? with
  | none => rfl
  | some row =>
  have measured : row.measured codec engine = row.measurement.tokens := if_pos (fresh row (mem_of_getElem? held))
  simp only [map_some,bind_some,elim_some,capped,MeasuredRow.recorded,measured]
  cases row.message.content with
  | Text text => rfl
  | Parts parts => rfl

/-- The micro compaction of the cascade is the measured one. -/
theorem micro_recorded (preserved_refs : List String) (fresh : ∀ row ∈ history.rows, row.Fresh codec) :
    (pipeline codec engine scaled preserve_k plan_utility_archive).micro history.recorded preserved_refs =
      ⟨(MicroCompactor.compress codec engine preserved_refs preserve_k history).history.recorded,
        (MicroCompactor.compress codec engine preserved_refs preserve_k history).tokens_saved,[],
        (MicroCompactor.compress codec engine preserved_refs preserve_k history).prefix_invalidated_at⟩ := by
  have length : history.recorded.rows.length = history.rows.length := length_map _
  unfold micro MicroCompactor.compress MeasuredPartition.excerptable MeasuredPartition.rewrite
  dsimp only [pipeline]
  rw [length,@rewrite_recorded codec engine (compacted codec engine history.tool_name preserved_refs) _ ?_ _ 0 history fresh]
  intro saved table index fresh
  unfold MeasuredPartition.recorded MeasuredPartition.measured_tokens
  dsimp only
  rw [getElem?_map]
  cases held : table.rows[index]? with
  | none => rfl
  | some row =>
  have measured : row.measured codec engine = row.measurement.tokens := if_pos (fresh row (mem_of_getElem? held))
  simp only [map_some,bind_some,elim_some,compacted,compact_message,MeasuredRow.recorded,measured]
  cases row.message.content with
  | Text text => rfl
  | Parts parts =>
  dsimp only
  rw [map_congr_left (l := parts) (g := compact_part codec engine history.tool_name preserved_refs)]
  intro part _
  cases part <;> rfl

end

end Deepstrike.Excerpting

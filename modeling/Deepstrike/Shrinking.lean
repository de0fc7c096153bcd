import Mathlib.Algebra.Order.Group.Nat
import Mathlib.Algebra.Order.BigOperators.Group.List
import Deepstrike.Excerpting

/-!
What the in-place compactions do to a history. A pass rewrites the rows it chose and no other, so that it shrinks
the history, and a second pass finds nothing left to do, exactly when each chosen row does so by itself.
-/
namespace Deepstrike.Excerpting
open Wire Context MeasuredPartition List TokenCounter MeasuredRow ContextManager MicroCompactor SnipCompactor

section
variable (codec : Codec) (engine : TokenCounter) (shorten : MeasuredRow → Option (CoreMessage × Nat))

/-- One row after its rewriting, and the tokens that frees. -/
def shortened (row : MeasuredRow) : MeasuredRow :=
  match shorten row with
  | some (message,tokens) => row.excerpted codec message tokens
  | none => row

def freed (row : MeasuredRow) : Nat :=
  match shorten row with
  | some (_,tokens) => row.measured codec engine-tokens
  | none => 0

theorem rewrite_step_eq (state : Nat × MeasuredPartition) (index : Nat) :
    rewrite_step codec engine shorten state index =
      (state.1+state.2.rows[index]?.elim 0 (freed codec engine shorten),
        ⟨state.2.rows.modify index (shortened codec shorten),
        state.2.token_count-state.2.rows[index]?.elim 0 (freed codec engine shorten)⟩) := by
  obtain ⟨count,rows,token_count⟩ := state
  unfold rewrite_step excerpt measured_tokens
  dsimp only
  cases held : rows[index]? with
  | none =>
    have beyond : rows.length ≤ index := getElem?_eq_none_iff.mp held
    simp [modify_eq_self beyond]
  | some row =>
  have kept : ∀ change : MeasuredRow → MeasuredRow, change row = shortened codec shorten row →
    rows.modify index change = rows.modify index (shortened codec shorten) := by
    intro change same
    refine ext_getElem? fun position => ?_
    rw [getElem?_modify,getElem?_modify]
    by_cases here : index = position
    · subst here
      rw [held]
      simp [same]
    · simp [here]
  dsimp only [Option.bind_some,Option.elim_some]
  cases shorter : shorten row with
  | none =>
    have untouched : rows.modify index (shortened codec shorten) = rows := by
      rw [← kept id (by simp [shortened,shorter])]
      refine ext_getElem? fun position => ?_
      rw [getElem?_modify]
      split <;> simp
    simp [freed,shorter,untouched]
  | some shorter_ =>
  obtain ⟨message,tokens⟩ := shorter_
  simp only [freed,shorter]
  rw [kept (fun row => row.excerpted codec message tokens) (by simp [shortened,shorter])]

/-- What a rewriting at some positions leaves: every row in its place, rewritten where its position was chosen. -/
theorem rewrite_fold (indices : List Nat) (once : indices.Nodup) (state : Nat × MeasuredPartition) :
    (∀ position, (indices.foldl (rewrite_step codec engine shorten) state).2.rows[position]? =
      state.2.rows[position]?.map fun row => if position ∈ indices then shortened codec shorten row else row) ∧
    (indices.foldl (rewrite_step codec engine shorten) state).1 =
      state.1+(indices.map fun index => state.2.rows[index]?.elim 0 (freed codec engine shorten)).sum ∧
    (indices.foldl (rewrite_step codec engine shorten) state).2.token_count ≤ state.2.token_count := by
  induction indices generalizing state with
  | nil => exact ⟨fun position => by simp,by simp,Nat.le_refl _⟩
  | cons index rest ih =>
  obtain ⟨apart,once⟩ := nodup_cons.mp once
  obtain ⟨rows,saved,count⟩ := ih once (rewrite_step codec engine shorten state index)
  rw [foldl_cons]
  have step := rewrite_step_eq codec engine shorten state index
  refine ⟨fun position => ?_,?_,?_⟩
  · rw [rows,step]
    dsimp only
    rw [getElem?_modify]
    by_cases here : index = position
    · subst here
      cases state.2.rows[index]? <;> simp [apart]
    · have other : position ≠ index := Ne.symm here
      simp [here,other]
  · rw [saved,step]
    dsimp only
    rw [map_cons,sum_cons,Nat.add_assoc]
    congr 2
    refine congrArg sum (map_congr_left fun other member => ?_)
    have elsewhere : index ≠ other := fun same => apart (same ▸ member)
    rw [getElem?_modify]
    simp [elsewhere]
  · refine Nat.le_trans count ?_
    rw [step]
    exact Nat.sub_le _ _

/-- The positions at which a predicate chooses the row. -/
def chosen (selects : Nat → MeasuredRow → Bool) (rows : List MeasuredRow) : List Nat :=
  (rows.zipIdx.filter fun row => selects row.2 row.1).map Prod.snd

variable {selects : Nat → MeasuredRow → Bool} {rows : List MeasuredRow} {position : Nat}

theorem mem_chosen :
    position ∈ chosen selects rows ↔ ∃ row, rows[position]? = some row ∧ selects position row = true := by
  unfold chosen
  rw [mem_map]
  constructor
  · rintro ⟨⟨row,index⟩,member,rfl⟩
    obtain ⟨member,selected⟩ := mem_filter.mp member
    exact ⟨row,mem_zipIdx_iff_getElem?.mp member,selected⟩
  · rintro ⟨row,held,selected⟩
    exact ⟨(row,position),mem_filter.mpr ⟨mem_zipIdx_iff_getElem?.mpr held,selected⟩,rfl⟩

theorem chosen_at {row : MeasuredRow} (held : rows[position]? = some row) :
    position ∈ chosen selects rows ↔ selects position row = true := by
  rw [mem_chosen]
  constructor
  · rintro ⟨other,also,selected⟩
    cases held.symm.trans also
    exact selected
  · exact fun selected => ⟨row,held,selected⟩

theorem chosen_nodup (selects : Nat → MeasuredRow → Bool) (rows : List MeasuredRow) : (chosen selects rows).Nodup := by
  have part : (chosen selects rows).Sublist (rows.zipIdx.map Prod.snd) := filter_sublist.map Prod.snd
  rw [zipIdx_map_snd] at part
  exact part.nodup nodup_range'

end

/-- The call that a part answers. -/
def answered : ContentPart → Option CallId
  | .ToolResult call_id _ _ _ => some call_id
  | .Other _ => none

/-- What no compaction may touch in a message: who wrote it, its calls, and the calls its parts answer. -/
def place (message : CoreMessage) : Role × List ToolCall × Option (List (Option CallId)) :=
  (message.role,message.tool_calls,
    match message.content with
    | .Text _ => none
    | .Parts parts => some (parts.map answered))

/-- A first pass over a history shrinks it, in total and row by row, with everything in place, and a second pass changes no message and frees nothing. -/
structure Shrinking (codec : Codec) (engine : TokenCounter) (history first second : MeasuredPartition) (saved : Nat) : Prop where
  count : first.token_count ≤ history.token_count
  measured : ∀ index, first.measured_tokens codec engine index ≤ history.measured_tokens codec engine index
  placed : first.rows.map (fun row => place row.message) = history.rows.map fun row => place row.message
  again : second.rows.map MeasuredRow.message = first.rows.map MeasuredRow.message
  nothing : saved = 0

section
variable {codec : Codec} {engine : TokenCounter} {shorten : MeasuredRow → Option (CoreMessage × Nat)}

variable {indices : List Nat}

theorem rewrite_rows (once : indices.Nodup) (history : MeasuredPartition) (position : Nat) :
    (rewrite codec engine shorten indices history).2.rows[position]? =
      history.rows[position]?.map fun row => if position ∈ indices then shortened codec shorten row else row :=
  (rewrite_fold codec engine shorten indices once (0,history)).1 position

theorem rewrite_saved (once : indices.Nodup) (history : MeasuredPartition) :
    (rewrite codec engine shorten indices history).1 =
      (indices.map fun index => history.rows[index]?.elim 0 (freed codec engine shorten)).sum :=
  (rewrite_fold codec engine shorten indices once (0,history)).2.1.trans (Nat.zero_add _)

private theorem rewrite_count (once : indices.Nodup) (history : MeasuredPartition) :
    (rewrite codec engine shorten indices history).2.token_count ≤ history.token_count :=
  (rewrite_fold codec engine shorten indices once (0,history)).2.2

/-- A row that is chosen shrinks, and where its shorter form is chosen again, that form is its own. -/
def Settles (codec : Codec) (engine : TokenCounter) (shorten : MeasuredRow → Option (CoreMessage × Nat))
    (selects : Nat → MeasuredRow → Bool)
    (position : Nat) (row : MeasuredRow) : Prop :=
  ∀ message tokens, shorten row = some (message,tokens) → tokens ≤ row.measured codec engine ∧
    (selects position (row.excerpted codec message tokens) = true →
      ∀ again less, shorten (row.excerpted codec message tokens) = some (again,less) → again = message ∧ tokens ≤ less)

variable {selects : Nat → MeasuredRow → Bool}

private theorem shortened_settled {position : Nat} {row : MeasuredRow}
    (settles : selects position row = true → Settles codec engine shorten selects position row) :
    (if selects position row then shortened codec shorten row else row).measured codec engine ≤ row.measured codec engine ∧
    (selects position (if selects position row then shortened codec shorten row else row) = true →
      (shortened codec shorten (if selects position row then shortened codec shorten row else row)).message =
        (if selects position row then shortened codec shorten row else row).message ∧
      freed codec engine shorten (if selects position row then shortened codec shorten row else row) = 0) := by
  by_cases selected : selects position row = true
  · rw [if_pos selected]
    have settled := settles selected
    cases shorter : shorten row with
    | none =>
      have untouched : shortened codec shorten row = row := by simp [shortened,shorter]
      rw [untouched]
      exact ⟨Nat.le_refl _,fun _ => ⟨congrArg message untouched,by simp [freed,shorter]⟩⟩
    | some shorter_ =>
    obtain ⟨message,tokens⟩ := shorter_
    have rewritten : shortened codec shorten row = row.excerpted codec message tokens := by simp [shortened,shorter]
    obtain ⟨fewer,stable⟩ := settled message tokens shorter
    rw [rewritten,measured_excerpted]
    refine ⟨fewer,fun selected_again => ?_⟩
    cases further : shorten (row.excerpted codec message tokens) with
    | none => exact ⟨by simp [shortened,further],by simp [freed,further]⟩
    | some further_ =>
    obtain ⟨again,less⟩ := further_
    obtain ⟨same,no_fewer⟩ := stable selected_again again less further
    have rewritten_again : shortened codec shorten (row.excerpted codec message tokens) =
      (row.excerpted codec message tokens).excerpted codec again less := by
      simp only [shortened,further]
    refine ⟨(congrArg MeasuredRow.message rewritten_again).trans same,?_⟩
    simp only [freed,further,measured_excerpted]
    exact Nat.sub_eq_zero_of_le no_fewer
  · rw [if_neg selected]
    exact ⟨Nat.le_refl _,fun selected_again => absurd selected_again selected⟩

/-- Two passes over a history shrink it and settle exactly when each chosen row does. -/
theorem shrinking_iff {history first : MeasuredPartition}
    (keeps : ∀ row message tokens, shorten row = some (message,tokens) → place message = place row.message)
    (passed : (rewrite codec engine shorten (chosen selects history.rows) history).2 = first) :
    Shrinking codec engine history first (rewrite codec engine shorten (chosen selects first.rows) first).2
        (rewrite codec engine shorten (chosen selects first.rows) first).1 ↔
      ∀ position row, history.rows[position]? = some row → selects position row = true →
        Settles codec engine shorten selects position row := by
  have placed_row : ∀ row, place (shortened codec shorten row).message = place row.message := by
    intro row
    unfold shortened
    cases shorter : shorten row with
    | none => rfl
    | some shorter_ => exact keeps row shorter_.1 shorter_.2 shorter
  have first_rows : ∀ position, first.rows[position]? =
      history.rows[position]?.map fun row => if selects position row then shortened codec shorten row else row := by
    intro position
    rw [← passed,rewrite_rows (chosen_nodup _ _)]
    cases held : history.rows[position]? with
    | none => rfl
    | some row => simp only [Option.map_some,chosen_at held]
  have second_rows := @rewrite_rows codec engine shorten _ (chosen_nodup selects first.rows) first
  have second_saved := @rewrite_saved codec engine shorten _ (chosen_nodup selects first.rows) first
  constructor
  · intro shrinks position row held selected message tokens shorter
    have here : first.rows[position]? = some (row.excerpted codec message tokens) := by
      rw [first_rows,held]
      simp [selected,shortened,shorter]
    constructor
    · have fewer := shrinks.measured position
      simpa only [measured_tokens,here,held,Option.elim_some,measured_excerpted] using fewer
    intro selected_again again less further
    have member : position ∈ chosen selects first.rows := (chosen_at here).mpr selected_again
    constructor
    · have same := congrArg (·[position]?) shrinks.again
      simp only [List.getElem?_map,second_rows,here,Option.map_some,if_pos member,shortened,further] at same
      exact Option.some.inj same
    have zero := second_saved.symm.trans shrinks.nothing
    have each := List.sum_eq_zero_iff_forall_eq_nat.mp zero _ (List.mem_map_of_mem member)
    rw [here] at each
    simp only [Option.elim_some,freed,further,measured_excerpted] at each
    omega
  intro settles
  have settled := fun position row (held : history.rows[position]? = some row) =>
    shortened_settled (settles position row held)
  refine ⟨?_,fun index => ?_,?_,?_,?_⟩
  · rw [← passed]
    exact rewrite_count (chosen_nodup _ _) history
  · unfold measured_tokens
    rw [first_rows]
    cases held : history.rows[index]? with
    | none => exact Nat.le_refl _
    | some row => exact (settled index row held).1
  · refine List.ext_getElem? fun position => ?_
    rw [List.getElem?_map,List.getElem?_map,first_rows]
    cases history.rows[position]? with
    | none => rfl
    | some row =>
    simp only [Option.map_some]
    split
    · rw [placed_row]
    · rfl
  · refine List.ext_getElem? fun position => ?_
    rw [List.getElem?_map,List.getElem?_map,second_rows]
    cases here : first.rows[position]? with
    | none => rfl
    | some row_ =>
    simp only [Option.map_some,chosen_at here]
    have from_ := here
    rw [first_rows] at from_
    obtain ⟨row,held,rfl⟩ := Option.map_eq_some_iff.mp from_
    by_cases selected_again : selects position (if selects position row then shortened codec shorten row else row) = true
    · rw [if_pos selected_again]
      exact congrArg some ((settled position row held).2 selected_again).1
    · rw [if_neg selected_again]
  rw [second_saved,List.sum_eq_zero_iff_forall_eq_nat]
  intro tokens member
  obtain ⟨position,listed,rfl⟩ := List.mem_map.mp member
  obtain ⟨row_,here,selected_again⟩ := mem_chosen.mp listed
  have from_ := here
  rw [first_rows] at from_
  obtain ⟨row,held,rfl⟩ := Option.map_eq_some_iff.mp from_
  rw [here]
  exact ((settled position row held).2 selected_again).2

end

section
variable (codec : Codec) (engine : TokenCounter)

private theorem chosen_recorded (chooses : PartitionRow × Nat → Bool) (rows : List MeasuredRow) :
    ((rows.map MeasuredRow.recorded).zipIdx.filter chooses).map Prod.snd = chosen (fun position row => chooses (row.recorded,position)) rows := by
  unfold chosen
  rw [zipIdx_map,filter_map,map_map]
  rfl

/-- A text from the kept prefix on that is recorded over the limit. -/
def snips (limit keep position : Nat) (row : MeasuredRow) : Bool :=
  keep ≤ position && row.message.content.as_text.isSome && limit < row.measurement.tokens && 10 < row.measurement.tokens

/-- A row from the kept prefix on that is recorded with 200 tokens, and holds a tool result that nothing preserves. -/
def compacts (preserved_refs : List String) (keep position : Nat) (row : MeasuredRow) : Bool :=
  keep ≤ position && 200 ≤ row.measurement.tokens &&
    (tool_results row.message).any fun result => !preserved_refs.contains result.1

theorem oversized_eq (history : MeasuredPartition) (limit preserve_k : Nat) :
    history.oversized limit preserve_k = chosen (snips limit (prefix_keep_for history.rows.length preserve_k))
    history.rows :=
  chosen_recorded _ history.rows

theorem excerptable_eq (history : MeasuredPartition) (preserved_refs : List String) (preserve_k : Nat) :
    history.excerptable preserved_refs preserve_k =
    chosen (compacts preserved_refs (prefix_keep_for history.rows.length preserve_k)) history.rows :=
  chosen_recorded _ history.rows

theorem tool_name_congr {history other : MeasuredPartition}
    (placed : other.rows.map (fun row => place row.message) = history.rows.map fun row => place row.message) :
    other.tool_name = history.tool_name := by
  have read : ∀ (table : MeasuredPartition) call_id, table.tool_name call_id =
      (((table.rows.map fun row => place row.message).findSome? fun placed =>
      (placed.2.1.find? fun call => call.id = call_id).map ToolCall.name)).getD "unknown" := by
    intro table call_id
    unfold MeasuredPartition.tool_name CompressionPipeline.find_tool_name MeasuredPartition.recorded
    rw [findSome?_map,findSome?_map]
    rfl
  funext call_id
  rw [read,read,placed]

theorem place_capped {limit : Nat} {row : MeasuredRow} {message : CoreMessage} {tokens : Nat}
    (shorter : capped codec engine limit row = some (message,tokens)) :
    place message = place row.message ∧ tokens = limit := by
  unfold capped at shorter
  cases content : row.message.content with
  | Text text =>
    rw [content] at shorter
    cases shorter
    exact ⟨by simp [place,content],rfl⟩
  | Parts parts =>
  rw [content] at shorter
  cases shorter

private theorem answered_compact (tool_name : CallId → String) (preserved_refs : List String) (part : ContentPart) :
    answered (compact_part codec engine tool_name preserved_refs part) = answered part := by
  cases part with
  | ToolResult call_id output is_error durable_content =>
    simp only [compact_part]
    split <;> rfl
  | Other durable => rfl

theorem place_compact (tool_name : CallId → String) (preserved_refs : List String) (message : CoreMessage) :
    place (compact_message codec engine tool_name preserved_refs message) = place message := by
  unfold compact_message
  cases content : message.content with
  | Text text => rfl
  | Parts parts => simp [place,content,answered_compact]

private theorem any_result_congr {message other : CoreMessage} (placed : place other = place message) (asks : CallId → Bool) :
    (tool_results other).any (fun result => asks result.1) = (tool_results message).any fun result => asks result.1 := by
  have read : ∀ message : CoreMessage, (tool_results message).any (fun result => asks result.1) =
      ((place message).2.2.getD []).any fun answers => answers.any asks := by
    intro message
    unfold tool_results place
    cases message.content with
    | Text text => rfl
    | Parts parts =>
    simp only [Option.getD_some,any_map]
    induction parts with
    | nil => rfl
    | cons part rest ih =>
    cases part with
    | ToolResult call_id output is_error durable_content => exact congrArg (asks call_id || ·) ih
    | Other durable => exact ih
  rw [read,read,placed]

private theorem settles_capped (limit keep position : Nat) (row : MeasuredRow) (selected : snips limit keep position row = true) :
    Settles codec engine (capped codec engine limit) (snips limit keep) position row ↔ limit ≤ row.measured codec engine := by
  constructor
  · intro settles
    cases content : row.message.content with
    | Text text =>
      cases shorter : capped codec engine limit row with
      | none => simp [capped,content] at shorter
      | some shorter_ =>
      obtain ⟨-,limited⟩ := place_capped codec engine shorter
      exact limited ▸ (settles _ _ shorter).1
    | Parts parts => simp [snips,content,Content.as_text] at selected
  · intro within message tokens shorter
    obtain ⟨-,rfl⟩ := place_capped codec engine shorter
    refine ⟨within,fun selected_again => ?_⟩
    simp [snips,excerpted,TokenMeasurement.for_message] at selected_again

/-- A micro compaction settles a row exactly when the compact form measures no more than the row, and is below
    200 tokens or its own compact form. -/
theorem settles_compacted (tool_name : CallId → String) (preserved_refs : List String) (keep position : Nat)
    (row : MeasuredRow)
    (selected : compacts preserved_refs keep position row = true) :
    Settles codec engine (compacted codec engine tool_name preserved_refs) (compacts preserved_refs keep) position row ↔
      engine.count_message (compact_message codec engine tool_name preserved_refs row.message) ≤
      row.measured codec engine ∧
      (200 ≤ engine.count_message (compact_message codec engine tool_name preserved_refs row.message) →
        compact_message codec engine tool_name preserved_refs
        (compact_message codec engine tool_name preserved_refs row.message) =
          compact_message codec engine tool_name preserved_refs row.message) := by
  have same_results := any_result_congr (place_compact codec engine tool_name preserved_refs row.message)
    fun call_id => !preserved_refs.contains call_id
  cases content : row.message.content with
  | Text text => simp [compacts,tool_results,content] at selected
  | Parts parts =>
  have shorter : compacted codec engine tool_name preserved_refs row =
      some (compact_message codec engine tool_name preserved_refs row.message,
        engine.count_message (compact_message codec engine tool_name preserved_refs row.message)) := by
    simp only [compacted,content]
  have compact_parts : (compact_message codec engine tool_name preserved_refs row.message).content =
      .Parts (parts.map (compact_part codec engine tool_name preserved_refs)) := by
    simp only [compact_message,content]
  generalize compact_message codec engine tool_name preserved_refs row.message = compact at *
  have further : compacted codec engine tool_name preserved_refs (row.excerpted codec compact (engine.count_message compact)) =
      some (compact_message codec engine tool_name preserved_refs compact,
        engine.count_message (compact_message codec engine tool_name preserved_refs compact)) := by
    simp only [compacted,excerpted,compact_parts]
  have selected_again : compacts preserved_refs keep position (row.excerpted codec compact (engine.count_message compact)) = true ↔
      200 ≤ engine.count_message compact := by
    simp only [compacts,Bool.and_eq_true,decide_eq_true_eq] at selected ⊢
    simp only [excerpted,TokenMeasurement.for_message,same_results]
    exact ⟨fun all => all.1.2,fun enough => ⟨⟨selected.1.1,enough⟩,selected.2⟩⟩
  constructor
  · intro settles
    obtain ⟨fewer,stable⟩ := settles _ _ shorter
    exact ⟨fewer,fun enough => (stable (selected_again.mpr enough) _ _ further).1⟩
  rintro ⟨fewer,stable⟩ message tokens shorter_
  cases shorter.symm.trans shorter_
  refine ⟨fewer,fun chosen_again again less further_ => ?_⟩
  cases further.symm.trans further_
  have same := stable (selected_again.mp chosen_again)
  exact ⟨same,Nat.le_of_eq (by rw [same])⟩

end

/-- A compaction applied once and then again. -/
def Shrinks (codec : Codec) (engine : TokenCounter) (compress : MeasuredPartition → Compaction) (history : MeasuredPartition) : Prop :=
  Shrinking codec engine history (compress history).history (compress (compress history).history).history
  (compress (compress history).history).tokens_saved

/-- What the rows themselves must meet under one token counter: a text over the cap measures at least the cap, and
    the compact form of a chosen row weighs no more than the row, and less than 200 tokens unless it is compact already. -/
structure Fits (codec : Codec) (engine : TokenCounter) (scaled preserve_k : Nat) (preserved_refs : List String)
    (history : MeasuredPartition) : Prop where
  capped : ∀ position row, history.rows[position]? = some row → position ∈ history.oversized (per_msg_limit scaled) preserve_k →
    per_msg_limit scaled ≤ row.measured codec engine
  compacted : ∀ position row, history.rows[position]? = some row → position ∈ history.excerptable preserved_refs preserve_k →
    engine.count_message (compact_message codec engine history.tool_name preserved_refs row.message) ≤ row.measured codec engine
  settled : ∀ position row, history.rows[position]? = some row → position ∈ history.excerptable preserved_refs preserve_k →
    200 ≤ engine.count_message (compact_message codec engine history.tool_name preserved_refs row.message) →
    compact_message codec engine history.tool_name preserved_refs
    (compact_message codec engine history.tool_name preserved_refs row.message) =
      compact_message codec engine history.tool_name preserved_refs row.message

section
variable (codec : Codec) (engine : TokenCounter) (scaled preserve_k : Nat) (preserved_refs : List String) (history : MeasuredPartition)

private theorem rewrite_length {shorten : MeasuredRow → Option (CoreMessage × Nat)} {indices : List Nat} (once : indices.Nodup) :
    (rewrite codec engine shorten indices history).2.rows.length = history.rows.length := by
  have rows := @rewrite_rows codec engine shorten indices once history
  refine Nat.le_antisymm ?_ ?_
  · have beyond := rows history.rows.length
    rw [getElem?_eq_none (Nat.le_refl _)] at beyond
    exact getElem?_eq_none_iff.mp beyond
  · have beyond := rows (rewrite codec engine shorten indices history).2.rows.length
    rw [getElem?_eq_none (Nat.le_refl _)] at beyond
    exact getElem?_eq_none_iff.mp (Option.map_eq_none_iff.mp beyond.symm)

private theorem snip_shrinks_iff : Shrinks codec engine (compress codec engine scaled preserve_k) history ↔
    ∀ position row, history.rows[position]? = some row → position ∈ history.oversized (per_msg_limit scaled) preserve_k →
      per_msg_limit scaled ≤ row.measured codec engine := by
  have length := @rewrite_length codec engine history (capped codec engine (per_msg_limit scaled)) _
    (chosen_nodup (snips (per_msg_limit scaled) (prefix_keep_for history.rows.length preserve_k)) history.rows)
  unfold Shrinks SnipCompactor.compress
  dsimp only
  rw [oversized_eq,oversized_eq,length,shrinking_iff (fun row message tokens shorter => (place_capped codec engine shorter).1) rfl]
  refine forall_congr' fun position => forall_congr' fun row => forall_congr' fun held => ?_
  rw [chosen_at held]
  exact forall_congr' fun selected => settles_capped codec engine _ _ position row selected

private theorem micro_shrinks_iff : Shrinks codec engine (compress codec engine preserved_refs preserve_k) history ↔
    ∀ position row, history.rows[position]? = some row → position ∈ history.excerptable preserved_refs preserve_k →
      engine.count_message (compact_message codec engine history.tool_name preserved_refs row.message) ≤ row.measured codec engine ∧
      (200 ≤ engine.count_message (compact_message codec engine history.tool_name preserved_refs row.message) →
        compact_message codec engine history.tool_name preserved_refs (compact_message codec engine history.tool_name preserved_refs row.message) =
          compact_message codec engine history.tool_name preserved_refs row.message) := by
  have length := @rewrite_length codec engine history (compacted codec engine history.tool_name preserved_refs) _
    (chosen_nodup (compacts preserved_refs (prefix_keep_for history.rows.length preserve_k)) history.rows)
  have keeps : ∀ row message tokens, compacted codec engine history.tool_name preserved_refs row = some (message,tokens) →
      place message = place row.message := by
    intro row message tokens shorter
    unfold compacted at shorter
    split at shorter
    · cases shorter
    · cases shorter
      exact place_compact codec engine _ _ row.message
  have names : (rewrite codec engine (compacted codec engine history.tool_name preserved_refs)
      (chosen (compacts preserved_refs (prefix_keep_for history.rows.length preserve_k)) history.rows) history).2.tool_name = history.tool_name := by
    refine tool_name_congr (ext_getElem? fun position => ?_)
    rw [getElem?_map,getElem?_map,rewrite_rows (chosen_nodup _ _)]
    cases history.rows[position]? with
    | none => rfl
    | some row =>
    simp only [Option.map_some]
    split
    · unfold shortened
      split
      next message tokens shorter => exact congrArg some (keeps row message tokens shorter)
      next => rfl
    · rfl
  unfold Shrinks MicroCompactor.compress
  dsimp only
  rw [excerptable_eq,excerptable_eq,length,names,shrinking_iff keeps rfl]
  refine forall_congr' fun position => forall_congr' fun row => forall_congr' fun held => ?_
  rw [chosen_at held]
  exact forall_congr' fun selected => settles_compacted codec engine _ preserved_refs _ position row selected

private theorem shrinks_iff_fits :
    (Shrinks codec engine (compress codec engine scaled preserve_k) history ∧
      Shrinks codec engine (compress codec engine preserved_refs preserve_k) history) ↔
    Fits codec engine scaled preserve_k preserved_refs history := by
  rw [snip_shrinks_iff,micro_shrinks_iff]
  constructor
  · rintro ⟨capped,compacted⟩
    exact ⟨capped,fun position row held chosen =>
    (compacted position row held chosen).1,fun position row held chosen => (compacted position row held chosen).2⟩
  · intro fits
    exact ⟨fits.capped,fun position row held chosen => ⟨fits.compacted position row held chosen,fits.settled position row held chosen⟩⟩

/-- No rewriting is risky whatever counts the tokens: what is over the cap is measured, and no tool result is chosen. -/
structure Spared : Prop where
  fresh : ∀ position row, history.rows[position]? = some row →
    position ∈ history.oversized (per_msg_limit scaled) preserve_k → row.Fresh codec
  unchosen : history.excerptable preserved_refs preserve_k = []

variable {codec scaled preserve_k preserved_refs history}

/-- A history that is spared fits every counter. -/
theorem Spared.fits (spared : Spared codec scaled preserve_k preserved_refs history) (engine : TokenCounter) :
    Fits codec engine scaled preserve_k preserved_refs history := by
  obtain ⟨fresh,unchosen⟩ := spared
  refine ⟨fun position row held chosen => ?_,fun position row held chosen => ?_,fun position row held chosen => ?_⟩
  · have measured : row.measured codec engine = row.measurement.tokens := if_pos (fresh position row held chosen)
    rw [oversized_eq,chosen_at held] at chosen
    simp only [snips,Bool.and_eq_true,decide_eq_true_eq] at chosen
    omega
  · rw [unchosen] at chosen
    cases chosen
  · rw [unchosen] at chosen
    cases chosen

private theorem compact_output_short (call_id : CallId) (tool_name output : String) (short : engine.count output ≤ 200) :
    compact_output codec engine call_id tool_name output =
      "[tool result: " ++ call_id ++ " | " ++ tool_name ++ " | " ++ toString (engine.count output) ++ " tokens]\n" ++ output := by
  have small : ¬2000 < engine.count output := by omega
  have whole : excerpt_text engine output 150 50 = output := if_pos short
  unfold compact_output
  simp only [if_neg small,whole]

private theorem compact_output_longer (call_id : CallId) (tool_name output : String) (short : engine.count output ≤ 200) :
    output.length < (compact_output codec engine call_id tool_name output).length := by
  rw [compact_output_short engine call_id tool_name output short]
  simp only [String.length_append]
  have header : "[tool result: ".length = 14 := rfl
  omega

/-- A counter that finds every text as heavy as the next. -/
def flat (tokens : Nat) : TokenCounter := ⟨fun _ => tokens,fun text _ => text,fun _ => 0⟩

/-- A counter that finds a text heavier past some length. -/
def stepped (length : Nat) : TokenCounter := ⟨fun text => if text.length ≤ length then 1 else 2,fun text _ => text,fun _ => 0⟩

variable {parts : List ContentPart} {call_id : CallId} {tool_name : CallId → String}

private theorem tool_result_listed {message : CoreMessage} {output : String} (content : message.content = .Parts parts)
    (result : (call_id,output) ∈ tool_results message) : ∃ is_error durable, ContentPart.ToolResult call_id output is_error durable ∈ parts := by
  simp only [tool_results,content,mem_filterMap] at result
  obtain ⟨part,listed,shown⟩ := result
  cases part with
  | ToolResult other text is_error durable_content =>
    cases shown
    exact ⟨is_error,durable_content,listed⟩
  | Other durable => cases shown

private theorem compact_part_unpreserved {preserved_refs : List String}
    (unpreserved : ¬preserved_refs.contains call_id = true) (output : String) (is_error : Bool) (durable : Option Json) :
    compact_part codec engine tool_name preserved_refs (.ToolResult call_id output is_error durable) =
      .ToolResult call_id (compact_output codec engine call_id (tool_name call_id) output) is_error none := by
  simp only [compact_part,if_neg unpreserved]

/-- Under a counter by length every part weighs at least as much compacted, and one just at the step weighs more. -/
theorem stepped_heavier {preserved_refs : List String} {output : String}
    {is_error : Bool} {durable : Option Json} (listed : ContentPart.ToolResult call_id output is_error durable ∈ parts)
    (unpreserved : ¬preserved_refs.contains call_id = true) : (parts.map (stepped output.length).count_part).sum <
      (parts.map ((stepped output.length).count_part ∘ compact_part codec (stepped output.length) tool_name
      preserved_refs)).sum := by
  have longer : ∀ call_id tool_name text, text.length < (compact_output codec (stepped output.length) call_id tool_name text).length := by
    intro call_id tool_name text
    refine compact_output_longer _ call_id tool_name text ?_
    simp only [stepped]
    split <;> omega
  refine sum_lt_sum _ _ (fun part _ => ?_) ⟨_,listed,?_⟩
  · cases part with
    | ToolResult other text other_error other_durable =>
      by_cases preserved : preserved_refs.contains other = true
      · simp only [Function.comp_apply,compact_part,if_pos preserved]
        exact Nat.le_refl _
      · rw [Function.comp_apply,compact_part_unpreserved _ preserved]
        have grown := longer other (tool_name other) text
        simp only [count_part,stepped] at grown ⊢
        split <;> split <;> omega
    | Other durable => exact Nat.le_refl _
  rw [Function.comp_apply,compact_part_unpreserved _ unpreserved]
  have grown := longer call_id (tool_name call_id) output
  simp only [count_part,stepped] at grown ⊢
  rw [if_pos (Nat.le_refl _),if_neg (Nat.not_le.mpr grown)]
  exact Nat.lt_succ_self 1

theorem Fits.spared (fits : ∀ engine, Fits codec engine scaled preserve_k preserved_refs history) :
    Spared codec scaled preserve_k preserved_refs history := by
  constructor
  · intro position row held chosen
    by_contra stale
    have capped := (fits (flat 1)).capped position row held chosen
    rw [oversized_eq,chosen_at held] at chosen
    simp only [snips,Bool.and_eq_true,decide_eq_true_eq] at chosen
    cases content : row.message.content with
    | Text text =>
      have measured : row.measured codec (flat 1) = 1 := by
        simp only [measured,if_neg stale,count_message,content,flat]
      rw [measured] at capped
      unfold per_msg_limit at capped
      omega
    | Parts parts => simp [content,Content.as_text] at chosen
  refine eq_nil_iff_forall_not_mem.mpr fun position chosen => ?_
  have chosen_ := chosen
  rw [excerptable_eq,mem_chosen] at chosen_
  obtain ⟨row,held,selected⟩ := chosen_
  simp only [compacts,Bool.and_eq_true,any_eq_true] at selected
  obtain ⟨-,⟨call_id,output⟩,result,unpreserved⟩ := selected
  have absent : ¬preserved_refs.contains call_id = true := by simpa using unpreserved
  cases content : row.message.content with
  | Text text => simp [tool_results,content] at result
  | Parts parts =>
  obtain ⟨is_error,durable_content,listed⟩ := tool_result_listed content result
  have compact : ∀ engine : TokenCounter, (compact_message codec engine history.tool_name preserved_refs row.message).content =
      .Parts (parts.map (compact_part codec engine history.tool_name preserved_refs)) := by
    intro engine
    simp only [compact_message,content]
  by_cases fresh : row.Fresh codec
  · -- Measured by the host: a counter that finds any text heavier than the whole row was recorded.
    have fewer := (fits (flat (row.measurement.tokens+1))).compacted position row held chosen
    have measured : row.measured codec (flat (row.measurement.tokens+1)) = row.measurement.tokens := if_pos fresh
    rw [measured] at fewer
    simp only [count_message,compact,map_map] at fewer
    have among := single_le_sum (fun tokens _ => Nat.zero_le tokens) _
      (mem_map_of_mem (f := (flat (row.measurement.tokens+1)).count_part ∘
        compact_part codec (flat (row.measurement.tokens+1)) history.tool_name preserved_refs) listed)
    rw [Function.comp_apply,compact_part_unpreserved _ absent] at among
    simp only [count_part,flat] at among
    simp only [flat] at fewer
    omega
  -- Counted again: a counter by length, that the header takes past the step.
  have fewer := (fits (stepped output.length)).compacted position row held chosen
  have measured : row.measured codec (stepped output.length) = (parts.map (stepped output.length).count_part).sum := by
    simp only [measured,if_neg fresh,count_message,content]
  rw [measured] at fewer
  simp only [count_message,compact,map_map] at fewer
  exact absurd fewer (Nat.not_le.mpr (stepped_heavier listed absent))

variable (codec scaled preserve_k preserved_refs history)

/-- Under one token counter both compactions shrink a history and settle it exactly when its rows fit; under every
    counter, exactly when no tool result is chosen and each text over the cap is measured. -/
theorem in_place_iff :
    (∀ engine, (Shrinks codec engine (compress codec engine scaled preserve_k) history ∧
        Shrinks codec engine (compress codec engine preserved_refs preserve_k) history) ↔
      Fits codec engine scaled preserve_k preserved_refs history) ∧
    ((∀ engine, Shrinks codec engine (compress codec engine scaled preserve_k) history ∧
        Shrinks codec engine (compress codec engine preserved_refs preserve_k) history) ↔
      Spared codec scaled preserve_k preserved_refs history) := by
  refine ⟨fun engine => shrinks_iff_fits codec engine scaled preserve_k preserved_refs history,fun shrinks => ?_,fun spared engine => ?_⟩
  · exact Fits.spared fun engine => (shrinks_iff_fits ..).mp (shrinks engine)
  · exact (shrinks_iff_fits ..).mpr (spared.fits engine)

end

/-- Nothing parses as JSON, and a measurement is tied to no message. -/
def plain : Codec := ⟨fun _ => none,fun _ => ""⟩

/-- One turn answers two calls with 120 tokens each. -/
def two_results (output : String) : CoreMessage := ⟨.Tool,.Parts [.ToolResult "c1" output false none,.ToolResult "c2" output false none],[]⟩

def turn_of (message : CoreMessage) (tokens : Nat) : MeasuredPartition :=
  ⟨[⟨ItemTag.new 1 .ToolResult 0,message,.for_message plain message tokens⟩],tokens⟩

private theorem count_headed (call_id tokens output : String) (named : call_id.length = 2) (digits : tokens.length = 3) :
    char_approx.count ("[tool result: " ++ call_id ++ " | " ++ "unknown" ++ " | " ++ tokens ++ " tokens]\n" ++ output) =
      (output.length+41)/4 := by
  simp only [char_approx,String.length_append,named,digits]
  have header : "[tool result: ".length = 14 := rfl
  have bar : " | ".length = 3 := rfl
  have unknown : "unknown".length = 7 := rfl
  have closer : " tokens]\n".length = 9 := rfl
  omega

section
variable {output : String} (length : output.length = 480)
include length

private theorem count_result : char_approx.count output = 120 := by
  simp only [char_approx,length]
  decide

private theorem count_headed_result {call_id : CallId} (named : call_id.length = 2) :
    char_approx.count (compact_output plain .char_approx call_id "unknown" output) = 130 := by
  have count := count_result length
  rw [compact_output_short .char_approx call_id "unknown" output (by omega),count,count_headed call_id (toString 120) output named rfl,length]

private theorem count_two_results : char_approx.count_message (two_results output) = 240 := by
  simp only [two_results,count_message,map_cons,map_nil,count_part,sum_cons,sum_nil,
    count_result length]
  decide

theorem count_compact_results :
    char_approx.count_message (compact_message plain .char_approx (fun _ => "unknown") [] (two_results output)) =
    260 := by
  simp only [two_results,compact_message,compact_part,contains_nil,map_cons,map_nil,count_message,
    count_part,sum_cons,sum_nil,count_headed_result length (show "c1".length = 2 from rfl),
    count_headed_result length (show "c2".length = 2 from rfl),Bool.false_eq_true,if_false]
  decide

private theorem two_results_grow : ¬Shrinks plain .char_approx (compress plain .char_approx [] 2) (turn_of (two_results output) 240) := by
  intro shrinks
  have unnamed : (turn_of (two_results output) 240).tool_name = fun _ => "unknown" := rfl
  have chosen : 0 ∈ (turn_of (two_results output) 240).excerptable [] 2 := by
    rw [excerptable_eq,mem_chosen]
    exact ⟨_,rfl,rfl⟩
  have fewer := ((micro_shrinks_iff ..).mp shrinks 0 _ rfl chosen).1
  rw [unnamed] at fewer
  have grown := count_compact_results length
  change char_approx.count_message (compact_message plain .char_approx (fun _ => "unknown") [] (two_results output)) ≤ 240 at fewer
  omega

end

/-- Each result is kept whole under a header, so that the row grows, and a second pass would put a header before the header. -/
theorem headers_pile_up :
    ¬Shrinks plain .char_approx (compress plain .char_approx [] 2)
    (turn_of (two_results (String.ofList (List.replicate 480 'a'))) 240) ∧
    char_approx.count_message (two_results (String.ofList (List.replicate 480 'a'))) = 240 ∧
    char_approx.count_message (compact_message plain .char_approx (fun _ => "unknown") []
      (two_results (String.ofList (List.replicate 480 'a')))) = 260 := by
  have length : (String.ofList (replicate 480 'a')).length = 480 := by
    rw [String.length_ofList,length_replicate]
  exact ⟨two_results_grow length,count_two_results length,count_compact_results length⟩

end Deepstrike.Excerpting

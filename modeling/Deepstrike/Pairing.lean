import Deepstrike.Assembling
import Deepstrike.Collapsing

/-!
The pairing of calls and results that a provider asks of a conversation. Where no call is open a conversation may be
cut, and each part stands alone; the units of a history end at such places, so what keeps whole units keeps the pairing.
-/
namespace Deepstrike.Context
open Wire Excerpting Utility List

/-- The calls a message answers. -/
def answers (message : CoreMessage) : List CallId := (ContextManager.tool_results message).map Prod.fst

/-- The calls of the last assistant turn, and those of them that are answered. -/
structure Pairing where
  pending : Option (List CallId)
  completed : List CallId

namespace Pairing

def empty : Pairing := ⟨none,[]⟩

variable (pairing : Pairing)

def pending_complete : Bool := pairing.pending.all fun ids => ids.all fun id => pairing.completed.contains id

/-- A result answers a pending call, and that once. -/
def answer (call_id : CallId) : Option Pairing :=
  if pairing.pending.any (fun ids => ids.contains call_id) && !pairing.completed.contains call_id then
    some { pairing with completed := call_id :: pairing.completed }
  else none

def step (message : CoreMessage) : Option Pairing :=
  match message.role with
  | .Assistant =>
    if pairing.pending_complete then some ⟨if message.tool_calls.isEmpty then none else some (message.tool_calls.map ToolCall.id),[]⟩
    else none
  | .Tool => (answers message).foldlM answer pairing
  | .System | .User => if pairing.pending_complete then some empty else none

def run (messages : List CoreMessage) : Option Pairing := messages.foldlM step pairing

end Pairing

def strict_tool_pairing_is_valid (messages : List CoreMessage) : Bool := (Pairing.empty.run messages).any Pairing.pending_complete

/-- A conversation that is paired, in which no assistant turn brings the results of its own calls. -/
structure Paired (messages : List CoreMessage) : Prop where
  strict : strict_tool_pairing_is_valid messages = true
  asked : ∀ message ∈ messages, message.role = .Assistant → ∀ id ∈ answers message, id ∉ message.tool_calls.map ToolCall.id

/-- Two questions, each with the call it leads to and the result. -/
def looked_up : List CoreMessage :=
  [⟨.User,.Text "where",[]⟩,⟨.Assistant,.Text "",[⟨"c","read",""⟩]⟩,⟨.Tool,.Parts [.ToolResult "c" "here" false none],[]⟩,
    ⟨.User,.Text "when",[]⟩,⟨.Assistant,.Text "",[⟨"d","read",""⟩]⟩,⟨.Tool,.Parts [.ToolResult "d" "now" false none],[]⟩]

theorem looked_up_paired : Paired looked_up := ⟨by decide,by decide⟩

namespace Pairing
variable {pairing after : Pairing} {message : CoreMessage} {messages first second : List CoreMessage}

section
variable (complete : pairing.pending_complete = true)
include complete

private theorem answer_complete (call_id : CallId) : pairing.answer call_id = none := by
  refine if_neg ?_
  unfold pending_complete at complete
  cases pending : pairing.pending with
  | none => simp
  | some ids =>
  rw [pending,Option.all_some,all_eq_true] at complete
  simp only [Option.any_some,Bool.and_eq_true,contains_iff_mem,not_and,Bool.not_eq_true',Bool.not_eq_false]
  exact fun member => contains_iff_mem.mp (complete call_id member)

/-- Where no call is open, nothing of what came before counts. -/
theorem step_complete (message : CoreMessage) :
    pairing.step message = empty.step message ∨ pairing.step message = some pairing ∧
    empty.step message = some empty := by
  unfold step
  cases message.role with
  | Assistant | System | User => exact .inl (if_pos complete)
  | Tool =>
  dsimp only
  cases answers message with
  | nil => exact .inr ⟨rfl,rfl⟩
  | cons id rest => exact .inl (by rw [foldlM_cons,foldlM_cons,answer_complete complete,answer_complete rfl])

private theorem run_complete (messages : List CoreMessage) :
    (pairing.run messages).any pending_complete = strict_tool_pairing_is_valid messages := by
  induction messages with
  | nil => exact complete
  | cons message rest ih =>
  unfold strict_tool_pairing_is_valid run
  rw [foldlM_cons,foldlM_cons]
  rcases step_complete complete message with same | ⟨stays,idle⟩
  · rw [same]
  · rw [stays,idle]
    exact ih

end

theorem run_append : pairing.run (first ++ second) = (pairing.run first).bind fun middle => middle.run second :=
    foldlM_append

/-- Behind a paired conversation another is paired as it is alone. -/
theorem strict_append (strict : strict_tool_pairing_is_valid first = true) :
    strict_tool_pairing_is_valid (first ++ second) = strict_tool_pairing_is_valid second := by
  obtain ⟨middle,reached,complete⟩ := (Option.any_eq_true _ _).mp strict
  conv_lhs => rw [strict_tool_pairing_is_valid,run_append,reached]
  exact run_complete complete second

/-- The pairing reads the place of a message alone. -/
theorem answers_place (message : CoreMessage) : answers message = ((place message).2.2.getD []).filterMap id := by
  unfold answers ContextManager.tool_results place
  cases message.content with
  | Text text => rfl
  | Parts parts =>
  rw [map_filterMap,Option.getD_some,filterMap_map]
  refine filterMap_congr fun part _ => ?_
  cases part <;> rfl

private theorem step_congr {other : CoreMessage} (placed : place message = place other) : pairing.step message = pairing.step other := by
  have role : message.role = other.role := congrArg Prod.fst placed
  have calls : message.tool_calls = other.tool_calls := congrArg (fun place => place.2.1) placed
  unfold step
  rw [role,calls,answers_place,answers_place other,placed]

private theorem run_congr (placed : first.map place = second.map place) : pairing.run first = pairing.run second := by
  induction first generalizing second pairing with
  | nil => rw [map_eq_nil_iff.mp placed.symm]
  | cons message rest ih =>
  obtain ⟨other,later,rfl,here,behind⟩ := map_eq_cons_iff.mp placed.symm
  unfold run
  rw [foldlM_cons,foldlM_cons,step_congr here.symm]
  exact bind_congr fun _ => ih behind.symm

end Pairing

namespace Paired
variable {messages first second : List CoreMessage}

theorem nil : Paired [] := ⟨rfl,by rintro _ ⟨⟩⟩

theorem append (front : Paired first) (back : Paired second) : Paired (first ++ second) :=
  ⟨(Pairing.strict_append front.strict).trans back.strict,fun message member =>
  (mem_append.mp member).elim (front.asked message) (back.asked message)⟩

theorem flatMap {α : Type} {parts : List α} {messages : α → List CoreMessage}
    (paired : ∀ part ∈ parts, Paired (messages part)) :
    Paired (parts.flatMap messages) := by
  induction parts with
  | nil => exact nil
  | cons part rest ih =>
  rw [flatMap_cons]
  exact (paired part mem_cons_self).append (ih fun part member => paired part (mem_cons_of_mem _ member))

theorem congr (paired : Paired first) (placed : second.map place = first.map place) : Paired second := by
  refine ⟨?_,fun message member => ?_⟩
  · unfold strict_tool_pairing_is_valid
    rw [Pairing.run_congr placed]
    exact paired.strict
  obtain ⟨other,listed,same⟩ := mem_map.mp (placed ▸ mem_map_of_mem member)
  have role : other.role = message.role := congrArg Prod.fst same
  have calls : other.tool_calls = message.tool_calls := congrArg (fun place => place.2.1) same
  have asked := paired.asked other listed
  rwa [role,calls,Pairing.answers_place,same,← Pairing.answers_place] at asked

/-- What is behind a place where the conversation may be cut. -/
theorem behind (whole : Paired (first ++ second)) (front : strict_tool_pairing_is_valid first = true) : Paired second :=
  ⟨(Pairing.strict_append front).symm.trans whole.strict,fun message member => whole.asked message (mem_append_right _ member)⟩

end Paired

/-- The scan of a unit holds every call that is pending and not answered. -/
def Covers (pairing : Pairing) (open_calls : List CallId) : Prop :=
  ∀ ids, pairing.pending = some ids → ∀ id ∈ ids, id ∈ pairing.completed ∨ id ∈ open_calls

theorem Covers.complete {pairing : Pairing} (covers : Covers pairing []) : pairing.pending_complete = true := by
  unfold Pairing.pending_complete
  cases pending : pairing.pending with
  | none => rfl
  | some ids => exact all_eq_true.mpr fun id member => contains_iff_mem.mpr ((covers ids pending id member).resolve_right not_mem_nil)

namespace Pairing
variable {pairing after : Pairing} {message : CoreMessage}

/-- The results of a turn leave the pending calls, and complete those they name. -/
theorem answered {ids : List CallId} (answered : ids.foldlM answer pairing = some after) :
    after.pending = pairing.pending ∧ ∀ id, id ∈ after.completed ↔ id ∈ ids ∨ id ∈ pairing.completed := by
  induction ids generalizing pairing with
  | nil =>
    cases answered
    exact ⟨rfl,by simp⟩
  | cons first rest ih =>
  rw [foldlM_cons] at answered
  obtain ⟨middle,stepped,later⟩ := Option.bind_eq_some_iff.mp answered
  unfold answer at stepped
  split at stepped
  · cases stepped
    obtain ⟨pending,completed⟩ := ih later
    refine ⟨pending,fun id => (completed id).trans ?_⟩
    simp only [mem_cons]
    tauto
  · cases stepped

private theorem mem_note {scan : UnitScan} {message : CoreMessage} {id : CallId} :
    id ∈ (scan.note message).open_calls ↔ (id ∈ scan.open_calls ∨ id ∈ message.tool_calls.map ToolCall.id) ∧ id ∉ answers message := by
  have closed : ∀ (close : List CallId → ContentPart → List CallId) (parts : List ContentPart) (calls : List CallId),
      (∀ calls part other, other ∈ close calls part ↔ other ∈ calls ∧ Excerpting.answered part ≠ some other) →
        (id ∈ parts.foldl close calls ↔ id ∈ calls ∧ id ∉ parts.filterMap Excerpting.answered) := by
    intro close parts calls closes
    induction parts generalizing calls with
    | nil => simp
    | cons part rest ih =>
    rw [foldl_cons,ih,closes,and_assoc]
    simp
  rw [answers_place]
  unfold UnitScan.note place
  cases message.content with
  | Text text => simp
  | Parts parts =>
  refine (closed _ parts _ fun calls part other => ?_).trans (by simp [filterMap_map])
  cases part with
  | ToolResult call_id output is_error durable_content =>
    rw [mem_filter,decide_eq_true_eq]
    exact and_congr_right fun _ => ⟨fun apart same => apart (Option.some.inj same).symm,fun apart same => apart (congrArg some same.symm)⟩
  | Other durable => simp [Excerpting.answered]

private theorem step_covers {scan : UnitScan} {index : Nat} (covers : Covers pairing scan.open_calls) (stepped : pairing.step message = some after)
    (asked : message.role = .Assistant → ∀ id ∈ answers message, id ∉ message.tool_calls.map ToolCall.id) :
    Covers after (scan.step index message).open_calls := by
  have noted : ∀ id, id ∈ (scan.step index message).open_calls ↔ id ∈ (scan.note message).open_calls := by
    intro id
    rw [UnitScan.step,mem_note,mem_note]
    split
    · rfl
    · split <;> rfl
  intro ids pending id member
  rw [noted,mem_note]
  unfold Pairing.step at stepped
  cases role : message.role with
  | System | User =>
    rw [role] at stepped
    dsimp only at stepped
    split at stepped <;> cases stepped
    cases pending
  | Assistant =>
    rw [role] at stepped
    dsimp only at stepped
    split at stepped <;> cases stepped
    dsimp only at pending
    split at pending <;> cases pending
    exact .inr ⟨.inr member,fun answered => asked role id answered member⟩
  | Tool =>
  rw [role] at stepped
  obtain ⟨same,completed⟩ := answered stepped
  rw [completed]
  by_cases here : id ∈ answers message
  · exact .inl (.inl here)
  · rcases covers ids (same ▸ pending) id member with before | still_open
    · exact .inl (.inr before)
    · exact .inr ⟨.inl still_open,here⟩

end Pairing

/-- A place where a conversation may be cut. -/
def Cut (messages : List CoreMessage) (index : Nat) : Prop := strict_tool_pairing_is_valid (messages.take index) = true

/-- What the scan of a paired conversation closed begins and ends where it may be cut. -/
structure Scanned (messages : List CoreMessage) (scan : UnitScan) (index : Nat) : Prop where
  covered : ∀ pairing, Pairing.empty.run (messages.take index) = some pairing → Covers pairing scan.open_calls
  start : Cut messages scan.start
  ends : ∀ range ∈ scan.boundaries, Cut messages range.1 ∧ Cut messages range.2

section Cuts
variable {messages : List CoreMessage} {scan : UnitScan} {index : Nat}

section
variable (paired : Paired messages)
include paired

theorem Scanned.cut (scanned : Scanned messages scan index) (quiet : scan.open_calls = []) : Cut messages index := by
  have whole := paired.strict
  rw [← take_append_drop index messages,strict_tool_pairing_is_valid,Pairing.run_append] at whole
  obtain ⟨last,reached,_⟩ := (Option.any_eq_true _ _).mp whole
  obtain ⟨pairing,before,_⟩ := Option.bind_eq_some_iff.mp reached
  have covers := scanned.covered pairing before
  rw [quiet] at covers
  exact (Option.any_eq_true _ _).mpr ⟨pairing,before,covers.complete⟩

/-- One more message keeps the scan of a paired history. -/
theorem Scanned.step {message : CoreMessage} (here : messages[index]? = some message)
    (scanned : Scanned messages scan index) : Scanned messages (scan.step index message) (index+1) := by
  have covered : ∀ pairing, Pairing.empty.run (messages.take (index+1)) = some pairing → Covers pairing (scan.step index message).open_calls := by
    intro pairing reached
    rw [List.take_add_one,here,Option.toList_some,Pairing.run_append] at reached
    obtain ⟨middle,before,stepped⟩ := Option.bind_eq_some_iff.mp reached
    have stepped : middle.step message = some pairing := by simpa [Pairing.run] using stepped
    exact Pairing.step_covers (scanned.covered middle before) stepped (paired.asked message (List.mem_of_getElem? here))
  suffices ends : Cut messages (scan.step index message).start ∧
      ∀ range ∈ (scan.step index message).boundaries, Cut messages range.1 ∧ Cut messages range.2 from ⟨covered,ends.1,ends.2⟩
  unfold UnitScan.step UnitScan.note
  dsimp only
  split
  next turned =>
    have quiet : scan.open_calls = [] := by
      simp only [Bool.and_eq_true,Bool.or_eq_true,List.isEmpty_iff] at turned
      tauto
    refine ⟨scanned.cut paired quiet,fun range member => ?_⟩
    rcases List.mem_append.mp member with before | last
    · exact scanned.ends range before
    · cases List.mem_singleton.mp last
      exact ⟨scanned.start,scanned.cut paired quiet⟩
  next => exact ⟨by split <;> exact scanned.start,by split <;> exact scanned.ends⟩

/-- A scan over the rest keeps what it has found. -/
theorem Scanned.run (rest : List CoreMessage) (left : messages.drop index = rest)
    (scanned : Scanned messages scan index) : Scanned messages (scan.run index rest) (index+rest.length) := by
  induction rest generalizing scan index with
  | nil => exact scanned
  | cons message rest ih =>
  have here : messages[index]? = some message := by rw [← head?_drop,left,head?_cons]
  have later : messages.drop (index+1) = rest := by rw [← tail_drop,left,tail_cons]
  have scanned := ih later (scanned.step paired here)
  rwa [Nat.add_right_comm,Nat.add_assoc index] at scanned

variable {range : Nat × Nat}

/-- The units of a paired conversation begin and end where it may be cut. -/
theorem Paired.cuts (member : range ∈ unit_boundaries messages) :
    Cut messages range.1 ∧ Cut messages range.2 := by
  have started : Scanned messages UnitScan.empty 0 := by
    refine ⟨fun pairing reached ids pending => ?_,rfl,by rintro _ ⟨⟩⟩
    cases reached
    cases pending
  have scanned := started.run paired messages rfl
  unfold unit_boundaries at member
  split at member
  · cases member
  · rcases mem_append.mp member with closed | last
    · exact scanned.ends range closed
    · cases mem_singleton.mp last
      exact ⟨scanned.start,by rw [Cut,take_length]; exact paired.strict⟩

theorem Paired.drop (cut : Cut messages index) : Paired (messages.drop index) :=
  Paired.behind (by rwa [take_append_drop]) cut

/-- A unit stands alone. -/
theorem Paired.slice (member : range ∈ unit_boundaries messages) :
    Paired (slice messages range) := by
  obtain ⟨first,last⟩ := paired.cuts member
  refine Paired.drop ⟨last,fun message held => paired.asked message (mem_of_mem_take held)⟩ ?_
  unfold Cut at first ⊢
  rcases Nat.le_total range.1 range.2 with before | behind
  · rwa [take_take,Nat.min_eq_left before]
  · rwa [take_take,Nat.min_eq_right behind]

end

end Cuts

end Deepstrike.Context

namespace Deepstrike.Collapsing
open Wire Context Excerpting Lexical Utility List

/-- The messages of some rows. -/
abbrev said_in (rows : List MeasuredRow) : List CoreMessage := rows.map MeasuredRow.message

section
variable {codec : Codec} {engine : TokenCounter} {vocabulary : Vocabulary} {scaled preserve_k target_tokens : Nat}

/-- A rewriting that keeps the place of each message keeps that of all. -/
theorem rewrite_places {shorten : MeasuredRow → Option (CoreMessage × Nat)}
    (keeps : ∀ row message tokens, shorten row = some (message,tokens) → place message = place row.message)
    (indices : List Nat)
    (state : Nat × MeasuredPartition) :
    (said_in (indices.foldl (MeasuredPartition.rewrite_step codec engine shorten) state).2.rows).map place =
    (said_in state.2.rows).map place := by
  have kept : ∀ row, place (shortened codec shorten row).message = place row.message := by
    intro row
    unfold shortened
    split
    next shorter => exact keeps row _ _ shorter
    next => rfl
  induction indices generalizing state with
  | nil => rfl
  | cons index rest ih =>
  rw [foldl_cons,ih,rewrite_step_eq]
  refine ext_getElem? fun position => ?_
  simp only [getElem?_map,getElem?_modify]
  cases state.2.rows[position]? with
  | none => rfl
  | some row =>
  by_cases here : index = position
  · simp [here,kept]
  · simp [here]

/-- A stage that is given a paired history leaves one, and what it archives is one. -/
def Pairs (stage : ContextPartitions → ContextPartitions × CompressResult) : Prop :=
  ∀ partitions, Paired (said_in partitions.history.rows) →
    Paired (said_in (stage partitions).1.history.rows) ∧ Paired (said_in (stage partitions).2.archived)

private theorem snip_pairs : Pairs (snip codec engine scaled preserve_k) := fun _ paired =>
  ⟨paired.congr (rewrite_places (fun _ _ _ shorter => (place_capped codec engine shorter).1) _ _),.nil⟩

private theorem micro_pairs : Pairs (micro codec engine preserve_k) := by
  refine fun _ paired => ⟨paired.congr (rewrite_places (fun row message tokens shorter => ?_) _ _),.nil⟩
  unfold compacted at shorter
  split at shorter <;> cases shorter
  exact place_compact ..

/-- Whole units, in whatever selection. -/
theorem units_paired {rows : List MeasuredRow} (paired : Paired (said_in rows)) (retained : Finset Nat) (held : Bool) :
    Paired (said_in ((among (units rows) retained held).flatMap (slice rows))) := by
  unfold said_in
  rw [map_flatMap]
  refine Paired.flatMap fun range member => ?_
  obtain ⟨_,found,_⟩ := mem_among.mp member
  have alone := paired.slice (mem_of_getElem? found)
  unfold slice at alone ⊢
  rwa [map_drop,map_take]

private theorem collapse_pairs : Pairs (collapse engine vocabulary preserve_k target_tokens) := by
  intro partitions paired
  unfold collapse
  dsimp only
  split
  next => exact ⟨paired,.nil⟩
  next some_ =>
  have loud := fun quiet => some_ (by rw [@plan_quiet vocabulary preserve_k engine partitions target_tokens quiet]; rfl)
  obtain ⟨filled,above⟩ := not_or.mp loud
  obtain ⟨retained,_,_,ranges,_,_⟩ := @plan_cases vocabulary preserve_k engine partitions target_tokens above filled
  unfold apply_utility_plan
  rw [ranges,units_taken]
  exact ⟨units_paired paired retained true,units_paired paired retained false⟩

private theorem auto_pairs : Pairs (auto engine vocabulary preserve_k target_tokens) := by
  intro partitions paired
  unfold auto
  split
  · exact ⟨paired,.nil⟩
  · exact collapse_pairs partitions paired

private theorem cascade_pairs {action : PressureAction} {stages : List (PressureAction × (ContextPartitions → ContextPartitions × CompressResult))}
    (pairs : ∀ stage ∈ stages, Pairs stage.2) {state : ContextPartitions × CompressResult} (paired : Paired (said_in state.1.history.rows))
    (archived : Paired (said_in state.2.archived)) :
    Paired (said_in (cascade engine action target_tokens stages state).1.history.rows) ∧
      Paired (said_in (cascade engine action target_tokens stages state).2.archived) := by
  induction stages generalizing state with
  | nil => exact ⟨paired,archived⟩
  | cons stage rest ih =>
  obtain ⟨tier,stage⟩ := stage
  have later := @ih fun stage member => pairs stage (mem_cons_of_mem _ member)
  rw [cascade_cons]
  split
  · split
    · exact ⟨paired,archived⟩
    · obtain ⟨kept,taken⟩ := pairs _ mem_cons_self state.1 paired
      refine later kept ?_
      rw [said_in,map_append]
      exact archived.append taken
  · exact later paired archived

end

/-- A compaction of any tier keeps the pairing, and so does what it archives. -/
theorem compress_pairs (codec : Codec) (engine : TokenCounter) (vocabulary : Vocabulary) (scaled preserve_k : Nat)
    (action : PressureAction)
    (target_tokens : Nat) (partitions : ContextPartitions) (paired : Paired (said_in partitions.history.rows)) :
    Paired (said_in (compress codec engine vocabulary scaled preserve_k action target_tokens
    partitions).1.history.rows) ∧
      Paired (said_in (compress codec engine vocabulary scaled preserve_k action target_tokens
      partitions).2.archived) := by
  unfold compress
  split
  · exact ⟨paired,.nil⟩
  refine cascade_pairs (fun stage member => ?_) paired .nil
  simp only [stages,mem_cons,not_mem_nil,or_false] at member
  rcases member with rfl | rfl | rfl | rfl
  · exact snip_pairs
  · exact micro_pairs
  · exact collapse_pairs
  · exact auto_pairs

def looked_up_history : MeasuredPartition :=
  ⟨looked_up.map fun message => ⟨ItemTag.new 1 .User 0,message,.for_message plain message 3⟩,18⟩

def looked_up_partitions : ContextPartitions := ⟨0,0,"",⟨"",[],[],[]⟩,looked_up_history⟩

/-- The first question leaves with its call and its result. -/
theorem compress_pairs_looked_up :
    (compress plain .char_approx ascii 0 1 .AutoCompact 0 looked_up_partitions).2.archived.length = 3 ∧
    Paired (said_in (compress plain .char_approx ascii 0 1 .AutoCompact 0 looked_up_partitions).1.history.rows) :=
  ⟨by decide +kernel,(compress_pairs plain .char_approx ascii 0 1 .AutoCompact 0 looked_up_partitions looked_up_paired).1⟩

end Deepstrike.Collapsing

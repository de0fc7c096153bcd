import Deepstrike.Pairing

/-!
The resumption of a conversation. The calls a history left open are read off it, and these are what results have to
answer, each once, for a provider to take it.
-/
namespace Deepstrike.Context
open Wire List Pairing

/-- An assistant turn with calls. -/
def asks (message : CoreMessage) : Bool := message.role = .Assistant && !message.tool_calls.isEmpty

/-- The calls of the last assistant turn with calls that no tool turn behind it answers. -/
def pending_tool_calls_from_messages (messages : List CoreMessage) : List ToolCall :=
  let later := (messages.reverse.takeWhile fun message => !asks message).reverse
  match messages.reverse.dropWhile fun message => !asks message with
  | [] => []
  | assistant :: _ =>
    let completed := (later.filter fun message => message.role = .Tool).flatMap answers
    assistant.tool_calls.filter fun call => !completed.contains call.id

/-- The turn of a result in a history that is read back from its events. -/
def result_message (sanitize : String → String) (result : ToolResult) : CoreMessage :=
  let output := match result.output with
    | .Text text => sanitize text
    | .Parts _ => ""
  ⟨.Tool,.Parts [.ToolResult result.call_id output result.is_error result.durable_content],[]⟩

/-- The calls that are pending and not completed. -/
def Pairing.unanswered (pairing : Pairing) : List CallId := (pairing.pending.getD []).filter fun id => !pairing.completed.contains id

section
variable {messages : List CoreMessage} {message : CoreMessage} {pairing : Pairing}

private theorem pending_concat : pending_tool_calls_from_messages (messages ++ [message]) =
    if asks message then message.tool_calls
    else if message.role = .Tool then (pending_tool_calls_from_messages messages).filter fun call => !(answers message).contains call.id
    else pending_tool_calls_from_messages messages := by
  unfold pending_tool_calls_from_messages
  rw [reverse_append,reverse_singleton,singleton_append,takeWhile_cons,dropWhile_cons]
  cases asked : asks message with
  | true => simp
  | false =>
  simp only [Bool.not_false,if_true,Bool.false_eq_true,if_false,reverse_cons,filter_append,flatMap_append]
  cases messages.reverse.dropWhile fun message => !asks message with
  | nil => simp
  | cons assistant before =>
  by_cases tool : message.role = .Tool
  · simp only [tool,filter_filter,filter_cons,filter_nil,decide_true,if_true,flatMap_cons,flatMap_nil,append_nil,
      contains_append,Bool.not_or,Bool.and_comm]
  · simp [tool]

private theorem Pairing.unanswered_nil : pairing.unanswered = [] ↔ pairing.pending_complete = true := by
  unfold unanswered pending_complete
  cases pairing.pending with
  | none => simp
  | some ids => simp [filter_eq_nil_iff]

/-- The calls a history leaves open are those its pairing waits for. -/
theorem pending_unanswered (messages : List CoreMessage) : ∀ {pairing : Pairing}, empty.run messages = some pairing →
    (pending_tool_calls_from_messages messages).map ToolCall.id = pairing.unanswered := by
  induction messages using reverseRecOn with
  | nil =>
    rintro _ ⟨⟩
    rfl
  | append_singleton messages message ih =>
  intro pairing reached
  rw [run_append] at reached
  obtain ⟨middle,before,stepped⟩ := Option.bind_eq_some_iff.mp reached
  have stepped : middle.step message = some pairing := by simpa [run] using stepped
  have known := ih before
  have closed : middle.pending_complete = true → pending_tool_calls_from_messages messages = [] := fun complete =>
    map_eq_nil_iff.mp (known.trans (unanswered_nil.mpr complete))
  rw [pending_concat]
  unfold step at stepped
  cases role : message.role with
  | System | User =>
    rw [role] at stepped
    dsimp only at stepped
    split at stepped <;> cases stepped
    next complete => simp [asks,role,closed complete,unanswered,empty]
  | Assistant =>
    rw [role] at stepped
    dsimp only at stepped
    split at stepped <;> cases stepped
    next complete => cases calls : message.tool_calls <;> simp [asks,role,calls,closed complete,unanswered]
  | Tool =>
  rw [role] at stepped
  obtain ⟨pending,completed⟩ := answered stepped
  have mapped : ∀ calls : List ToolCall, (calls.filter fun call => !(answers message).contains call.id).map ToolCall.id =
      (calls.map ToolCall.id).filter fun id => !(answers message).contains id := fun _ => by rw [filter_map]; rfl
  rw [asks,role,if_neg (by simp),if_pos rfl,mapped,known]
  unfold unanswered
  rw [filter_filter,pending]
  refine filter_congr fun id _ => ?_
  rw [Bool.eq_iff_iff]
  simp [completed]

private theorem Pairing.answer_eq (pairing : Pairing) (id : CallId) :
    pairing.answer id = if id ∈ pairing.unanswered then some { pairing with completed := id :: pairing.completed } else none := by
  unfold answer unanswered
  cases pairing.pending <;> simp

/-- Results close a pairing just when they answer what it waits for, each call once. -/
theorem Pairing.answers_iff (ids : List CallId) (pairing : Pairing) :
    (ids.foldlM answer pairing).any pending_complete = true ↔
    ids.Nodup ∧ ∀ id, id ∈ ids ↔ id ∈ pairing.unanswered := by
  induction ids generalizing pairing with
  | nil =>
    rw [foldlM_nil,Option.pure_def,Option.any_some,← unanswered_nil,eq_nil_iff_forall_not_mem]
    simp
  | cons first rest ih =>
  rw [foldlM_cons,answer_eq]
  by_cases waits : first ∈ pairing.unanswered
  · have left : ∀ id, id ∈ unanswered { pairing with completed := first :: pairing.completed } ↔ id ∈ pairing.unanswered ∧ id ≠ first := by
      intro id
      simp only [unanswered,mem_filter,Bool.not_eq_true',contains_cons,Bool.or_eq_false_iff,beq_eq_false_iff_ne]
      tauto
    rw [if_pos waits,Option.bind_eq_bind,Option.bind_some,ih,nodup_cons]
    simp only [left,mem_cons]
    constructor
    · rintro ⟨once,exactly⟩
      refine ⟨⟨fun again => ((exactly first).mp again).2 rfl,once⟩,fun id => ?_⟩
      by_cases here : id = first
      · exact iff_of_true (.inl here) (here ▸ waits)
      · rw [exactly]
        tauto
    · rintro ⟨⟨apart,once⟩,exactly⟩
      refine ⟨once,fun id => ⟨fun member => ⟨(exactly id).mp (.inr member),fun same => apart (same ▸ member)⟩,?_⟩⟩
      rintro ⟨waiting,other⟩
      exact ((exactly id).mpr waiting).resolve_left other
  · rw [if_neg waits]
    refine iff_of_false (by simp) fun exactly => waits ((exactly.2 first).mp mem_cons_self)

end

/-- A history that broke no pairing so far is paired behind some results just when they answer the calls it left open,
    each of them once; without results, just when it left none. -/
theorem resumed_paired_iff (messages : List CoreMessage) (sanitize : String → String) (results : List ToolResult)
    (unbroken : (empty.run messages).isSome = true) :
    strict_tool_pairing_is_valid (messages ++ results.map (result_message sanitize)) = true ↔
      (results.map ToolResult.call_id).Nodup ∧
        ∀ id, id ∈ results.map ToolResult.call_id ↔
        id ∈ (pending_tool_calls_from_messages messages).map ToolCall.id := by
  obtain ⟨pairing,reached⟩ := Option.isSome_iff_exists.mp unbroken
  have answered : pairing.run (results.map (result_message sanitize)) = (results.map ToolResult.call_id).foldlM answer pairing := by
    unfold run
    rw [foldlM_map,foldlM_map]
    congr 1
    funext pairing result
    simp [step,result_message,answers,ContextManager.tool_results]
  rw [strict_tool_pairing_is_valid,run_append,reached,Option.bind_some,answered,answers_iff,pending_unanswered messages reached]

/-- One call is open and one result answers it. -/
theorem resumed_paired_looked_up : strict_tool_pairing_is_valid (looked_up.take 2 ++
    [(⟨"c",.Text "here",none,false,false,none⟩ : ToolResult)].map (result_message id)) = true :=
  (resumed_paired_iff (looked_up.take 2) id [⟨"c",.Text "here",none,false,false,none⟩] rfl).mpr ⟨by decide,fun _ => Iff.rfl⟩

end Deepstrike.Context

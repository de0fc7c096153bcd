import Deepstrike.Windows

/-!
The rollback of a turn: the history is cut back to the length that was recorded when the provider was last called, and what the
turn had held goes with it. The length names the right row as long as nothing since the call replaces rows behind it or takes
some out; the handles of the rows that are dropped are not dropped with them.
-/
namespace Deepstrike.Context
open Wire Renderings List ContextManager HandleTable

/-- What was recorded just before the provider was called. -/
structure TurnCheckpoint where
  history_len : Nat
  signals_len : Nat
  task_state : Option Json
  deriving DecidableEq,Repr

def TurnCheckpoint.default : TurnCheckpoint := ⟨0,0,none⟩

/-- What a rollback reads and writes of the loop. -/
structure TurnContext where
  manager : ContextManager
  task_state : Json
  item_replays : List (ItemId × Json)
  checkpoint : TurnCheckpoint

/-- The steps of a turn: those of its context, a provider's summary, and the response that ends a call. -/
inductive TurnOp where
  | view (op : ViewOp)
  | absorb_provider_compaction (through : ItemId) (replay : Json) (summary_tokens : Nat)
  | respond (replay : Option Json) (msg : CoreMessage) (tokens : Nat)
  | update_task (state : Json)

/-- The step of the context itself; a rollback and a summary are steps of their own. -/
def TurnOp.of_context : TurnOp → Option ViewOp
  | .view (.content (.truncate_history _)) | .view (.absorb_provider_summary _ _) | .update_task _ => none
  | .view op => some op
  | .absorb_provider_compaction through _ summary_tokens => some (.absorb_provider_summary through summary_tokens)
  | .respond _ msg tokens => some (.content (.push_history msg tokens))

namespace TurnContext
variable (W : Wording) (pipeline : CompressionPipeline) (turn : TurnContext)

def keep_item_replay (id : ItemId) (replay : Json) : TurnContext :=
  { turn with item_replays := turn.item_replays.filter (·.1 ≠ id) ++ [(id,replay)] }

/-- A replay leaves with its item. -/
def prune_item_replays : TurnContext :=
  { turn with item_replays := turn.item_replays.filter fun entry => (turn.manager.history.rows.map fun row => row.tag.id).contains entry.1 }

/-- The replay of a response is kept for the item it becomes. -/
def kept_replays (replay : Option Json) (msg : CoreMessage) : TurnContext :=
  match replay,ItemOrigin.of_message msg with
  | some replay,.Assistant => turn.keep_item_replay (turn.manager.last_item_id+1) replay
  | _,_ => turn

def step (op : TurnOp) : TurnContext :=
  let moved := op.of_context.elim turn fun op => { turn with manager := turn.manager.advance W pipeline op }
  match op with
  | .view (.compress_with_target action target_tokens non_history_tokens preserved_refs) =>
    if (pipeline.compress turn.manager.history action target_tokens non_history_tokens preserved_refs).archived.isEmpty then moved
    else moved.prune_item_replays
  | .view (.renew_with _) => moved.prune_item_replays
  | .view _ => moved
  | .absorb_provider_compaction through replay summary_tokens =>
    if (turn.manager.absorb_provider_summary through summary_tokens).1 then
      (moved.keep_item_replay (turn.manager.last_item_id+1) replay).prune_item_replays
    else moved
  | .respond replay msg _ => { moved with item_replays := (turn.kept_replays replay msg).item_replays }
  | .update_task state => { moved with task_state := state }

/-- The provider is called: what was held is released, the lengths are recorded, and the request is rendered. -/
def emit_call_llm (note : Option String) : TurnContext :=
  let released := turn.manager.release_held_history W
  { turn with
    manager := (released.sync_governance_surface_note W note).mark_prefix_sent
    checkpoint := ⟨released.history.rows.length,released.signals.length,some turn.task_state⟩ }

/-- The turn is taken back to the recorded lengths. -/
def rollback : TurnContext :=
  let truncated := { turn with manager := turn.manager.truncate_history turn.checkpoint.history_len }.prune_item_replays
  { truncated with
    manager := { truncated.manager with signals := truncated.manager.signals.take turn.checkpoint.signals_len }
    task_state := turn.checkpoint.task_state.getD turn.task_state }

end TurnContext

/-- Whether every call of the assistant has its result in a later row. -/
def answered : List PartitionRow → Bool
  | [] => true
  | row :: later =>
    (row.message.role ≠ .Assistant || row.message.tool_calls.all fun call =>
      later.any fun other => (ContextManager.tool_results other.message).any fun result => result.1 = call.id) && answered later

/-- Whether a message that is held back carries a tool result. -/
def ContextManager.holds_results (manager : ContextManager) : Bool := manager.held_history.any fun held => !(tool_results held.1).isEmpty

/-- Whether a message that joins the history brings a handle, or one that it lets go does. -/
def ContextManager.brings_handle (W : Wording) (manager : ContextManager) (msg : CoreMessage) (tokens : Nat) : Bool :=
  let admitted := manager.admit_history W msg tokens
  !(tool_results msg).isEmpty || (msg.role = .Tool && !admitted.awaits_tool_results && admitted.holds_results)

/-- Whether a step makes a handle: a tool result joins the history, or a body is placed that no handle is anchored to. -/
def ContextManager.makes_handle (W : Wording) (manager : ContextManager) : ViewOp → Bool
  | .content (.push_history msg tokens) => manager.brings_handle W msg tokens
  | .content (.push_history_after_tool_results msg tokens) => !manager.awaits_tool_results && manager.brings_handle W msg tokens
  | .content .release_held_history => manager.holds_results
  | .set_payload_residency source _ _ _ => (manager.handles.find? (anchored source)).isNone
  | _ => false

/-- What a provider call was rendered from, as later steps that replaced rows left it, and the handles there were. -/
structure Sent where
  rows : List PartitionRow
  handles : HandleTable

/-! Handles. -/

/-- Every handle was there before. -/
def Handled (before after : ContextManager) : Prop := ∀ handle ∈ after.handles, ∃ held ∈ before.handles, held.id = handle.id

section
variable {before middle after : ContextManager}

theorem Handled.refl (manager : ContextManager) : Handled manager manager := fun handle member => ⟨handle,member,rfl⟩

theorem Handled.trans (first : Handled before middle) (second : Handled middle after) :
    Handled before after := fun handle member => by
  obtain ⟨held,member,same⟩ := second handle member
  obtain ⟨first_held,member,earlier⟩ := first held member
  exact ⟨first_held,member,earlier.trans same⟩

theorem Handled.of_eq (same : after.handles = before.handles) :
    Handled before after := fun handle member => ⟨handle,same ▸ member,rfl⟩

theorem Handled.map {change : Handle → Handle} (keeps : ∀ handle, (change handle).id = handle.id)
    (changed : after.handles = before.handles.map change) : Handled before after := fun handle member => by
  rw [changed] at member
  obtain ⟨held,listed,rfl⟩ := mem_map.mp member
  exact ⟨held,listed,(keeps held).symm⟩

end

namespace ContextManager
variable {W : Wording} {pipeline : CompressionPipeline} (manager : ContextManager)

private theorem prune_item_graph_handled : Handled manager manager.prune_item_graph := Handled.of_eq (by unfold prune_item_graph; rfl)

theorem unread_handled : Unread Handled := ⟨Handled.trans,fun _ _ _ handles => Handled.of_eq handles⟩

private theorem admit_history_handled {msg : CoreMessage} (tokens : Nat) (plain : tool_results msg = []) :
    Handled manager (manager.admit_history W msg tokens) := by
  refine unread_handled.linkless.admit_history manager msg tokens (fun _ _ result listed => ?_) fun _ _ => Handled.of_eq rfl
  rw [plain] at listed
  cases listed

private theorem admit_held_handled (plain : manager.holds_results = false) : Handled manager (manager.admit_held W) := by
  refine unread_handled.linkless.admit_held manager fun before held member => admit_history_handled before held.2 ?_
  simpa using any_eq_false.mp plain held member

private theorem push_history_handled {msg : CoreMessage} {tokens : Nat} (plain : manager.brings_handle W msg tokens = false) :
    Handled manager (manager.push_history W msg tokens) := by
  obtain ⟨bare,lets_go⟩ := Bool.or_eq_false_iff.mp plain
  have admitted := admit_history_handled (W := W) manager tokens (by simpa using bare)
  unfold push_history
  dsimp only
  split
  next released =>
    refine admitted.trans (admit_held_handled _ ?_)
    simp only [Bool.and_eq_true] at released
    simpa [released.1.1,released.2] using lets_go
  next => exact admitted

private theorem step_handled (op : ContextOp) (replaces : op.replaces = false) (forward : ∀ len, op ≠ .truncate_history len)
    (plain : manager.makes_handle W (.content op) = false) : Handled manager (manager.step W op) := by
  cases op with
  | push_history msg tokens => exact push_history_handled manager plain
  | push_history_after_tool_results msg tokens =>
    unfold step push_history_after_tool_results
    dsimp only
    split
    · exact Handled.of_eq rfl
    next ready =>
    refine push_history_handled manager ?_
    simpa [makes_handle,Bool.eq_false_iff.mpr ready] using plain
  | release_held_history => exact admit_held_handled manager plain
  | truncate_history len => exact absurd rfl (forward len)
  | compress | renew | absorb_provider_compaction => cases replaces
  | _ => exact unread_handled.step manager rfl

private theorem prune_orphaned_handles_handled : Handled manager manager.prune_orphaned_handles := fun handle member =>
  ⟨handle,mem_of_mem_filter member,rfl⟩

private theorem reset_collapse_generation_handled : Handled manager manager.reset_collapse_generation :=
  Handled.map (fun handle => by split <;> rfl) rfl

private theorem sweep_knowledge_at_boundary_handled : Handled manager manager.sweep_knowledge_at_boundary := by
  unfold sweep_knowledge_at_boundary
  refine Handled.trans ?_ (prune_item_graph_handled _)
  exact Handled.of_eq rfl

private theorem collapse_older_ids (count : Nat) (handles : HandleTable) :
    ∀ handle ∈ collapse_older count handles, ∃ held ∈ handles, held.id = handle.id := by
  fun_induction collapse_older count handles with
  | case1 => exact fun handle member => ⟨handle,member,rfl⟩
  | case2 => exact fun handle member => ⟨handle,member,rfl⟩
  | case3 count first rest result ih =>
    intro handle member
    obtain rfl | member := mem_cons.mp member
    · exact ⟨first,mem_cons_self,by split <;> rfl⟩
    · obtain ⟨held,listed,same⟩ := ih handle member
      exact ⟨held,mem_cons_of_mem first listed,same⟩
  | case4 count first rest other ih =>
  intro handle member
  obtain rfl | member := mem_cons.mp member
  · exact ⟨handle,mem_cons_self,rfl⟩
  · obtain ⟨held,listed,same⟩ := ih handle member
    exact ⟨held,mem_cons_of_mem first listed,same⟩

private theorem recompute_handle_residency_handled (pressed : Bool) : Handled manager (manager.recompute_handle_residency pressed) := by
  unfold recompute_handle_residency
  split
  · exact Handled.refl manager
  · exact collapse_older_ids _ manager.handles

private theorem modifyFirst_ids {selects : Handle → Bool} {change : Handle → Handle} (keeps : ∀ handle, (change handle).id = handle.id) :
    ∀ handles : HandleTable, ∀ handle ∈ modifyFirst selects change handles, ∃ held ∈ handles, held.id = handle.id := by
  intro handles
  induction handles with
  | nil => simp [modifyFirst]
  | cons first rest ih =>
  intro handle member
  unfold modifyFirst at member
  split at member
  · obtain rfl | member := mem_cons.mp member
    · exact ⟨first,mem_cons_self,(keeps first).symm⟩
    · exact ⟨handle,mem_cons_of_mem first member,rfl⟩
  · obtain rfl | member := mem_cons.mp member
    · exact ⟨handle,mem_cons_self,rfl⟩
    · obtain ⟨held,listed,same⟩ := ih handle member
      exact ⟨held,mem_cons_of_mem first listed,same⟩

private theorem set_payload_residency_handled {source : String} (kind : HandleKind) (tokens : Nat) (residency : Residency)
    (placed : (manager.handles.find? (anchored source)).isNone = false) :
    Handled manager (manager.set_payload_residency source kind tokens residency).2 := by
  unfold set_payload_residency
  split
  next =>
    refine modifyFirst_ids (fun handle => ?_) manager.handles
    rfl
  next missing =>
  rw [missing] at placed
  cases placed

private theorem compress_with_target_handled (action : PressureAction) (target_tokens non_history_tokens : Nat) (preserved_refs : List String) :
    Handled manager (manager.compress_with_target pipeline action target_tokens non_history_tokens preserved_refs).2 := by
  unfold compress_with_target
  dsimp only
  have swept (manager : ContextManager) : Handled manager manager.prune_orphaned_handles.reset_collapse_generation.sweep_knowledge_at_boundary :=
    ((prune_orphaned_handles_handled manager).trans (reset_collapse_generation_handled _)).trans (sweep_knowledge_at_boundary_handled _)
  generalize pipeline.compress manager.history action target_tokens non_history_tokens preserved_refs = result
  have rewritten : Handled manager { manager with history := result.history } := Handled.of_eq rfl
  have pruned := rewritten.trans (swept { manager with history := result.history })
  split
  · split
    · exact Handled.of_eq rfl
    · exact pruned.trans (Handled.of_eq rfl)
  · split
    · exact rewritten
    · exact pruned

private theorem renew_with_handled (renewed : Partition) : Handled manager (manager.renew_with renewed) := by
  have fresh : Handled manager (manager.renew renewed) := by
    unfold renew
    refine Handled.trans ?_ (sweep_knowledge_at_boundary_handled _)
    exact Handled.of_eq rfl
  have pruned := (fresh.trans (prune_orphaned_handles_handled _)).trans (reset_collapse_generation_handled _)
  unfold renew_with
  exact pruned.trans (Handled.of_eq rfl)

private theorem absorb_provider_summary_handled (through : ItemId) (summary_tokens : Nat) :
    Handled manager (manager.absorb_provider_summary through summary_tokens).2 := by
  unfold absorb_provider_summary
  split
  next => exact Handled.refl manager
  next position found =>
  dsimp only
  refine Handled.trans (Handled.trans (Handled.trans (Handled.trans ?_ (prune_orphaned_handles_handled _)) (reset_collapse_generation_handled _))
    (sweep_knowledge_at_boundary_handled _)) (Handled.of_eq rfl)
  refine Handled.trans (Handled.trans
    ?_ (unread_handled.linkless.foldl
    _ (fun manager row _ => unread_handled.linkless.add_edge manager _ row.tag.id .Summarizes) _))
    (Handled.of_eq rfl)
  exact Handled.of_eq rfl

private theorem advance_handled {op : ViewOp} (forward : ∀ len, op ≠ .content (.truncate_history len)) (plain : manager.makes_handle W op = false) :
    Handled manager (manager.advance W pipeline op) := by
  cases op with
  | content op =>
    unfold advance
    dsimp only
    split
    next => exact Handled.refl manager
    next stays => exact step_handled manager op (by simpa using stays) (fun len same => forward len (same ▸ rfl)) plain
  | recompute_handle_residency pressed => exact recompute_handle_residency_handled manager pressed
  | absorb_cleared_tool_results call_ids => exact Handled.map (fun handle => by split <;> rfl) rfl
  | set_payload_residency source kind tokens residency => exact set_payload_residency_handled manager kind tokens residency plain
  | compress_with_target action target_tokens non_history_tokens preserved_refs => exact compress_with_target_handled manager _ _ _ _
  | renew_with renewed => exact renew_with_handled manager renewed
  | absorb_provider_summary through summary_tokens => exact absorb_provider_summary_handled manager through summary_tokens
  | tell setting => exact Handled.refl manager

end ContextManager

variable (W : Wording) (pipeline : CompressionPipeline)

/-- The step leaves the recorded length where it belongs: no handle is made, and where rows are replaced, no message has joined since the
    call, as many rows are left, and every call in them has its result. -/
def TurnContext.Keeps (turn : TurnContext) (sent : Sent) (op : TurnOp) : Prop :=
  ∀ step ∈ op.of_context, turn.manager.makes_handle W step = false ∧
    (turn.manager.reanchors pipeline step = true → turn.manager.history.rows.length = sent.rows.length ∧
      (turn.manager.advance W pipeline step).history.rows.length = sent.rows.length ∧
      answered (turn.manager.advance W pipeline step).history.rows = true)

/-- Rows that a step replaces are the history of the call from then on. -/
def Sent.after (sent : Sent) (turn : TurnContext) (op : TurnOp) : Sent :=
  if op.of_context.any (turn.manager.reanchors pipeline) then { sent with rows := (turn.step W pipeline op).manager.history.rows } else sent

/-- The turns of a run, with what the last provider call was rendered from as long as every step since keeps the recorded length. A
    rollback is taken there only. -/
inductive Rollable : Option Sent → TurnContext → Prop where
  | start (config : ContextConfig) (task_state : Json) : Rollable none ⟨.new config,task_state,[],.default⟩
  | restored {turn : TurnContext} (within : turn.manager.frozen_history_len ≤ turn.manager.history.rows.length)
      (fresh : turn.checkpoint = .default) : Rollable none turn
  | call {sent : Option Sent} {turn : TurnContext} (note : Option String) (rollable : Rollable sent turn)
      (complete : answered (turn.emit_call_llm W note).manager.history.rows = true) :
      Rollable (some ⟨(turn.emit_call_llm W note).manager.history.rows,(turn.emit_call_llm W note).manager.handles⟩)
      (turn.emit_call_llm W note)
  | open_call {sent : Option Sent} {turn : TurnContext} (note : Option String) (rollable : Rollable sent turn) :
      Rollable none (turn.emit_call_llm W note)
  | kept {sent : Sent} {turn : TurnContext} (op : TurnOp) (rollable : Rollable (some sent) turn) (keeps : turn.Keeps W pipeline sent op) :
      Rollable (some (sent.after W pipeline turn op)) (turn.step W pipeline op)
  | step {sent : Option Sent} {turn : TurnContext} (op : TurnOp) (rollable : Rollable sent turn) : Rollable none (turn.step W pipeline op)
  | rollback {sent : Sent} {turn : TurnContext} (rollable : Rollable (some sent) turn) : Rollable (some sent) turn.rollback

/-- A turn that is taken back: the history is the one the call was rendered from, every call in it has its result, and nothing of the
    turn is left, neither a handle nor a replay nor a held message; and the frozen part lies within the history. -/
structure RolledBack (sent : Sent) (after : TurnContext) : Prop where
  history : after.manager.history.rows = sent.rows
  complete : answered after.manager.history.rows = true
  handles : ∀ handle ∈ after.manager.handles, ∃ held ∈ sent.handles, held.id = handle.id
  replays : ∀ replay ∈ after.item_replays, ∃ row ∈ sent.rows, row.tag.id = replay.1
  held : after.manager.held_history = []
  frozen : after.manager.frozen_history_len ≤ after.manager.history.rows.length

variable {W pipeline}

/-- The recorded length stands at the end of the rows the call was rendered from. -/
structure Recorded (sent : Sent) (turn : TurnContext) : Prop where
  index : turn.checkpoint.history_len = sent.rows.length
  rows : sent.rows <+: turn.manager.history.rows
  frozen : turn.manager.frozen_history_len ≤ sent.rows.length
  complete : answered sent.rows = true
  handles : ∀ handle ∈ turn.manager.handles, ∃ held ∈ sent.handles, held.id = handle.id

section
variable {sent : Sent} {turn : TurnContext} {op : TurnOp} {step : ViewOp}

private theorem of_context_forward (context : op.of_context = some step) (len : Nat) : step ≠ .content (.truncate_history len) := by
  rintro rfl
  unfold TurnOp.of_context at context
  split at context
  all_goals simp_all

private theorem step_context (turn : TurnContext) (op : TurnOp) :
    (turn.step W pipeline op).manager = op.of_context.elim turn.manager (turn.manager.advance W pipeline) ∧
      (turn.step W pipeline op).checkpoint = turn.checkpoint := by
  have moved : ∀ step : Option ViewOp, (step.elim turn fun step => { turn with manager := turn.manager.advance W pipeline step }).manager =
      step.elim turn.manager (turn.manager.advance W pipeline) ∧
      (step.elim turn fun step => { turn with manager := turn.manager.advance W pipeline step }).checkpoint = turn.checkpoint := by
    rintro (_ | step)
    · exact ⟨rfl,rfl⟩
    · exact ⟨rfl,rfl⟩
  unfold TurnContext.step
  dsimp only
  split
  · split
    · exact moved _
    · exact moved _
  · exact moved _
  · exact moved _
  · split
    · exact moved _
    · exact moved _
  · exact moved _
  · exact moved _

private theorem step_within (turn : TurnContext) (op : TurnOp) (within : turn.manager.frozen_history_len ≤ turn.manager.history.rows.length) :
    (turn.step W pipeline op).manager.frozen_history_len ≤ (turn.step W pipeline op).manager.history.rows.length := by
  rw [(step_context turn op).1]
  cases context : op.of_context with
  | none => exact within
  | some step =>
  change (turn.manager.advance W pipeline step).frozen_history_len ≤ (turn.manager.advance W pipeline step).history.rows.length
  cases anchored : turn.manager.reanchors pipeline step with
  | true => exact Nat.le_of_eq (reanchored anchored)
  | false => exact ((advance_grown anchored (of_context_forward context)).same within).2

private theorem push_knowledge_item_history (manager : ContextManager) (origin : ItemOrigin) (key : Option String) (msg : CoreMessage) (tokens : Nat)
    (pinned : Bool) : (manager.push_knowledge_item origin key msg tokens pinned).history = manager.history := by
  unfold push_knowledge_item place_appended_knowledge
  dsimp only
  split
  · rfl
  · split
    · rfl
    · split <;> rfl

private theorem sync_governance_surface_note_history (manager : ContextManager) (note : Option String) :
    (manager.sync_governance_surface_note W note).history = manager.history := by
  unfold sync_governance_surface_note
  split
  · split
    · rfl
    · exact push_knowledge_item_history manager _ _ _ _ _
  · rfl
  · rfl

private theorem emit_call_llm_grown (turn : TurnContext) (note : Option String) : Grown turn.manager (turn.emit_call_llm W note).manager ∧
    (turn.emit_call_llm W note).checkpoint.history_len = (turn.emit_call_llm W note).manager.history.rows.length := by
  have released : Grown turn.manager (turn.manager.release_held_history W) := admit_held_grown turn.manager
  have noted := step_grown (W := W) (turn.manager.release_held_history W) (.sync_governance_surface_note note) rfl rfl
  refine ⟨(released.trans noted).trans (Grown.beside rfl rfl rfl),?_⟩
  change (turn.manager.release_held_history W).history.rows.length =
    ((turn.manager.release_held_history W).sync_governance_surface_note W note).history.rows.length
  rw [sync_governance_surface_note_history]

private theorem Recorded.called (note : Option String) (within : turn.manager.frozen_history_len ≤ turn.manager.history.rows.length)
    (complete : answered (turn.emit_call_llm W note).manager.history.rows = true) :
    Recorded ⟨(turn.emit_call_llm W note).manager.history.rows,(turn.emit_call_llm W note).manager.handles⟩ (turn.emit_call_llm W note) := by
  obtain ⟨grown,index⟩ := emit_call_llm_grown (W := W) turn note
  exact ⟨index,prefix_refl _,(grown.same within).2,complete,fun handle member => ⟨handle,member,rfl⟩⟩

/-- A step that keeps the recorded length leaves it at the end of the rows of the call. -/
theorem Recorded.kept (recorded : Recorded sent turn) (keeps : turn.Keeps W pipeline sent op) :
    Recorded (sent.after W pipeline turn op) (turn.step W pipeline op) := by
  obtain ⟨manager,checkpoint⟩ : _ ∧ (turn.step W pipeline op).checkpoint = turn.checkpoint := step_context turn op
  have index : (turn.step W pipeline op).checkpoint.history_len = sent.rows.length := checkpoint ▸ recorded.index
  unfold Sent.after
  cases context : op.of_context with
  | none =>
    rw [context] at manager
    have same : (turn.step W pipeline op).manager = turn.manager := manager
    rw [Option.any_none,if_neg Bool.false_ne_true]
    refine ⟨index,?_,?_,recorded.complete,?_⟩
    all_goals rw [same]
    · exact recorded.rows
    · exact recorded.frozen
    · exact recorded.handles
  | some step =>
  rw [context] at manager
  have advanced : (turn.step W pipeline op).manager = turn.manager.advance W pipeline step := manager
  obtain ⟨plain,replaces⟩ := keeps step context
  have handled : Handled turn.manager (turn.manager.advance W pipeline step) :=
    advance_handled turn.manager (of_context_forward context) plain
  have handles : ∀ handle ∈ (turn.step W pipeline op).manager.handles, ∃ held ∈ sent.handles, held.id = handle.id := by
    intro handle member
    rw [advanced] at member
    obtain ⟨held,listed,same⟩ := handled handle member
    obtain ⟨first,there,earlier⟩ := recorded.handles held listed
    exact ⟨first,there,earlier.trans same⟩
  rw [Option.any_some]
  cases anchored : turn.manager.reanchors pipeline step with
  | true =>
    obtain ⟨_,left,complete⟩ := replaces anchored
    rw [if_pos rfl]
    refine ⟨?_,prefix_refl _,?_,?_,handles⟩
    · rw [index,advanced]
      exact left.symm
    · rw [advanced]
      exact Nat.le_of_eq (reanchored anchored)
    · rw [advanced]
      exact complete
  | false =>
  have grown := advance_grown (W := W) anchored (of_context_forward context)
  rw [if_neg Bool.false_ne_true]
  refine ⟨index,?_,?_,recorded.complete,handles⟩
  · rw [advanced]
    exact recorded.rows.trans grown.rows
  · rw [advanced,grown.frozen]
    exact recorded.frozen

private theorem Recorded.rolled_back (recorded : Recorded sent turn) : RolledBack sent turn.rollback := by
  have rows : turn.rollback.manager.history.rows = sent.rows := by
    change (turn.manager.truncate_history turn.checkpoint.history_len).history.rows = sent.rows
    rw [truncate_history_rows,recorded.index]
    exact (prefix_iff_eq_take.mp recorded.rows).symm
  have frozen : turn.rollback.manager.frozen_history_len = turn.manager.frozen_history_len :=
    (prune_item_graph_grown _).frozen
  refine ⟨rows,?_,fun handle member => ?_,fun replay member => ?_,?_,?_⟩
  · rw [rows]
    exact recorded.complete
  · obtain ⟨held,listed,same⟩ := prune_item_graph_handled _ handle member
    obtain ⟨first,there,earlier⟩ := recorded.handles held listed
    exact ⟨first,there,earlier.trans same⟩
  · have live := (mem_filter.mp member).2
    obtain ⟨row,listed,same⟩ := mem_map.mp (contains_iff_mem.mp live)
    exact ⟨row,rows ▸ listed,same⟩
  · change (turn.manager.truncate_history turn.checkpoint.history_len).held_history = []
    unfold truncate_history prune_item_graph
    rfl
  · rw [frozen,rows]
    exact recorded.frozen

private theorem Recorded.again (recorded : Recorded sent turn) : Recorded sent turn.rollback := by
  have back := recorded.rolled_back
  refine ⟨recorded.index,?_,?_,recorded.complete,back.handles⟩
  · rw [back.history]
  · exact back.history ▸ back.frozen

end

/-- In every run the frozen part lies within the history, and the recorded length stands where it belongs as long as it is kept. -/
theorem Rollable.recorded {now : Option Sent} {turn : TurnContext} (rollable : Rollable W pipeline now turn) :
    turn.manager.frozen_history_len ≤ turn.manager.history.rows.length ∧ ∀ sent ∈ now, Recorded sent turn := by
  induction rollable with
  | start config task_state => exact ⟨Nat.le_refl 0,fun _ absent => nomatch absent⟩
  | restored within fresh => exact ⟨within,fun _ absent => nomatch absent⟩
  | call note _ complete ih =>
    refine ⟨((emit_call_llm_grown _ note).1.same ih.1).2,?_⟩
    rintro sent ⟨⟩
    exact Recorded.called note ih.1 complete
  | open_call note _ ih => exact ⟨((emit_call_llm_grown _ note).1.same ih.1).2,fun _ absent => nomatch absent⟩
  | kept op _ keeps ih =>
    refine ⟨step_within _ op ih.1,?_⟩
    rintro sent ⟨⟩
    exact (ih.2 _ rfl).kept keeps
  | step op _ ih => exact ⟨step_within _ op ih.1,fun _ absent => nomatch absent⟩
  | rollback _ ih =>
  have recorded := ih.2 _ rfl
  refine ⟨recorded.rolled_back.frozen,?_⟩
  rintro sent ⟨⟩
  exact recorded.again

/-- In every run, a rollback that finds the recorded length kept takes the turn back. -/
theorem rollback_restores {sent : Sent} {turn : TurnContext} (rollable : Rollable W pipeline (some sent) turn) :
    RolledBack sent turn.rollback :=
  (rollable.recorded.2 sent rfl).rolled_back

private theorem Rollable.steps (ops : List TurnOp) : ∀ turn : TurnContext, (∃ now, Rollable W pipeline now turn) →
    ∃ now, Rollable W pipeline now (ops.foldl (TurnContext.step W pipeline) turn) := by
  induction ops with
  | nil => exact fun turn rollable => rollable
  | cons op rest ih =>
  rintro turn ⟨now,rollable⟩
  exact ih _ ⟨none,.step op rollable⟩

/-- A turn in which questions have been asked. -/
def askedTurn (questions : List String) : TurnContext :=
  (questions.map fun question => TurnOp.view (.content (.push_history ⟨.User,.Text question,[]⟩ 1))).foldl
    (TurnContext.step flat_engine.toWording idle_pipeline) ⟨.new ⟨none,2,5,false,false⟩,"{}",[],.default⟩

private theorem asked_rollable (questions : List String) : ∃ now, Rollable flat_engine.toWording idle_pipeline now (askedTurn questions) :=
  Rollable.steps _ _ ⟨none,.start _ _⟩

/-- The response that asks to read a file. -/
def readingResponse : TurnOp := .respond (some "signature") ⟨.Assistant,.Text "",[⟨"c1","read","{}"⟩]⟩ 1

/-- The provider is called with one question, and its response is taken back. -/
theorem rollback_restores_question : RolledBack
    ⟨((askedTurn ["q"]).emit_call_llm flat_engine.toWording none).manager.history.rows,
      ((askedTurn ["q"]).emit_call_llm flat_engine.toWording none).manager.handles⟩
    (((askedTurn ["q"]).emit_call_llm flat_engine.toWording none).step flat_engine.toWording idle_pipeline
      readingResponse).rollback := by
  obtain ⟨now,asked⟩ := asked_rollable ["q"]
  have responded := (Rollable.call none asked (by decide +kernel)).kept readingResponse fun step context => by
    cases context
    exact ⟨by decide +kernel,fun anchored => nomatch anchored⟩
  exact rollback_restores responded

/-- The provider summed up both questions into one row while it answered: the recorded length is past the answer, which stays. -/
theorem response_outlives_rollback :
    ¬∀ (now : Option Sent) (turn : TurnContext), Rollable flat_engine.toWording idle_pipeline now turn →
    answered turn.rollback.manager.history.rows = true := by
  intro complete
  obtain ⟨now,asked⟩ := asked_rollable ["q","w"]
  have summed := (Rollable.open_call none asked).step (.absorb_provider_compaction 2 "{}" 1)
  have stays := complete _ _ (summed.step readingResponse)
  revert stays
  decide +kernel

end Deepstrike.Context

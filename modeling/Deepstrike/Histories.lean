import Deepstrike.Contexts

/-!
The history of a context: how a message becomes an item, with the references, edges and handles it brings,
and how the rows of a turn are dropped again.
-/
namespace Deepstrike.Context
open Std Wire

namespace ContextManager

variable (manager : ContextManager)

def alloc_handle_id : Nat × ContextManager :=
  (manager.next_handle_id,{ manager with next_handle_id := (manager.next_handle_id+1) % 2 ^ 32 })

/-- The record a memory hit in the history carries. -/
def memory_hit_record (message : CoreMessage) : Option String :=
  if message.role ≠ .User then none
  else do
    let text ← message.content.as_text
    let rest ← text.toList.dropPrefix? "[MEMORY record_ref=".toList
    if rest.any fun character => character = ' ' || character = ']' then
      let id := rest.takeWhile fun character => character ≠ ' ' && character ≠ ']'
      if id.isEmpty then none else some (String.ofList id)
    else none

def evidence_of (message : CoreMessage) : Evidence :=
  match message.role with
  | .Assistant => .Any
  | .User => if (memory_hit_record message).isSome then .None else .Any
  | _ => .StrongOnly

/-- The tool results a message carries, each with its call. -/
def tool_results (message : CoreMessage) : List (CallId × String) :=
  match message.content with
  | .Text _ => []
  | .Parts parts => parts.filterMap fun part =>
    match part with
    | .ToolResult call_id output _ _ => some (call_id,output)
    | .Other _ => none

/-- The assistant row that made a call, the latest first. -/
def item_of_call (call_id : CallId) : Option ItemId :=
  (manager.history.rows.reverse.find? fun row =>
    row.message.role = .Assistant && row.message.tool_calls.any (fun call => call.id = call_id) && row.tag.id ≠ 0).map fun row => row.tag.id

variable (W : Wording)

/-- One hop: a use of a resident memory hit reaches the item that the hit expands. -/
def credit_expansions (manager : ContextManager) (item : ItemId) (message : CoreMessage) : ContextManager :=
  let carriers := (manager.graph.filter fun edge => edge.relation = .Expands).filterMap fun edge =>
    (manager.history.rows.find? fun row => row.tag.id = edge.from_).map fun row => (edge.from_,edge.to_,row.message)
  carriers.foldl (fun manager (carrier : ItemId × ItemId × CoreMessage) =>
    if W.mentions message carrier.2.2 then
      let linked := manager.add_edge item carrier.1 .ReferencesLexical
      { linked with knowledge := linked.knowledge.credit_lexical carrier.2.1 linked.knowledge_reference_step }
    else manager) manager

/-- What the model or the user says is evidence of a use. -/
def note_uses (manager : ContextManager) (item : ItemId) (msg : CoreMessage) : ContextManager :=
  if evidence_of msg = .Any then manager.credit_expansions W item msg else manager

/-- A handle for a tool result that enters the context. -/
def index_result (item : ItemId) (manager : ContextManager) (result : CallId × String) : ContextManager :=
  let (id,counted) := manager.alloc_handle_id
  { counted with handles := HandleTable.insert counted.handles ⟨id,.ToolResult,.Resident,max (W.count result.2) 1,some result.1,item⟩ }

/-- The knowledge a message speaks of is counted, and linked from its item. -/
def note_references (manager : ContextManager) (item : ItemId) (msg : CoreMessage) : ContextManager :=
  let (references,observed) := manager.knowledge.observe_references W msg manager.knowledge_reference_step (evidence_of msg)
  references.foldl (fun manager reference =>
  manager.add_edge item reference.1 (if reference.2 then .ReferencesStrong else .ReferencesLexical))
    { manager with knowledge := observed }

def note_answers (item : ItemId) (msg : CoreMessage) : ContextManager :=
  (tool_results msg).foldl (fun manager result =>
    match manager.item_of_call result.1 with
    | some call => manager.add_edge item call .Answers
    | none => manager) manager

/-- A memory hit is linked to the index line it gives in full. -/
def note_expansion (item : ItemId) (msg : CoreMessage) : ContextManager :=
  match memory_hit_record msg with
  | some record =>
    match manager.knowledge.entries.find? (KnowledgePartition.keyed ("memory:" ++ record)) with
    | some entry => manager.add_edge item entry.id .Expands
    | none => manager
  | none => manager

def admit_history (manager : ContextManager) (msg : CoreMessage) (tokens : Nat) : ContextManager :=
  let item := manager.last_item_id+1
  let counted := { manager with knowledge_reference_step := manager.knowledge_reference_step+1, last_item_id := item }
  let linked := (((counted.note_references W item msg).note_answers item msg).note_uses W item msg).note_expansion item msg
  let indexed := (tool_results msg).foldl (index_result W item) linked
  { indexed with
    history := indexed.history.push_row ⟨ItemTag.new item (ItemOrigin.of_message msg) indexed.knowledge.turn,msg,tokens⟩ }

/-- Whether the last assistant message asked for a call whose result is not there yet. -/
def awaits_tool_results : Bool :=
  awaited [] manager.history.rows.reverse
where
  awaited (answered : List CallId) : List PartitionRow → Bool
    | [] => false
    | row :: older =>
      match row.message.role with
      | .Tool => awaited (answered ++ (tool_results row.message).map Prod.fst) older
      | .Assistant => row.message.tool_calls.any fun call => !answered.contains call.id
      | _ => false

def admit_held (manager : ContextManager) : ContextManager :=
  manager.held_history.foldl (fun manager held => manager.admit_history W held.1 held.2) { manager with held_history := [] }

def push_history (manager : ContextManager) (msg : CoreMessage) (tokens : Nat) : ContextManager :=
  let admitted := manager.admit_history W msg tokens
  if msg.role = .Tool && !admitted.held_history.isEmpty && !admitted.awaits_tool_results then admitted.admit_held W else admitted

def push_history_after_tool_results (manager : ContextManager) (msg : CoreMessage) (tokens : Nat) : ContextManager :=
  if manager.awaits_tool_results then { manager with held_history := manager.held_history ++ [(msg,tokens)] }
  else manager.push_history W msg tokens

def release_held_history (manager : ContextManager) : ContextManager := manager.admit_held W

/-- The history of a turn that is rolled back is dropped, and what was held for it. -/
def truncate_history (len : Nat) : ContextManager :=
  { manager with held_history := [], history := manager.history.truncate len }.prune_item_graph

end ContextManager

/-- A relation of contexts to which neither the links between items matter nor the uses that the knowledge counts. -/
structure Linkless (R : ContextManager → ContextManager → Prop) : Prop where
  refl : ∀ manager, R manager manager
  trans : ∀ {first second third}, R first second → R second third → R first third
  graph : ∀ (manager : ContextManager) graph, R manager { manager with graph }
  counted : ∀ (manager : ContextManager) knowledge_reference_step last_item_id,
    R manager { manager with knowledge_reference_step, last_item_id }
  observed : ∀ W (manager : ContextManager) msg step evidence,
    R manager { manager with knowledge := (manager.knowledge.observe_references W msg step evidence).2 }
  credited : ∀ (manager : ContextManager) item step, R manager { manager with knowledge := manager.knowledge.credit_lexical item step }
  held : ∀ (manager : ContextManager) held_history, R manager { manager with held_history }

namespace Linkless
open ContextManager (index_result tool_results)
variable {R : ContextManager → ContextManager → Prop} (linkless : Linkless R) {W : Wording}
include linkless

theorem foldl {α : Type} {step : ContextManager → α → ContextManager} (items : List α)
    (each : ∀ manager, ∀ item ∈ items, R manager (step manager item))
    (manager : ContextManager) : R manager (items.foldl step manager) := by
  induction items generalizing manager with
  | nil => exact linkless.refl manager
  | cons item rest ih =>
    exact linkless.trans (each manager item List.mem_cons_self) (ih (fun manager other member => each manager other (List.mem_cons_of_mem item member)) _)

variable (manager : ContextManager)

theorem add_edge (from_ to_ : ItemId) (relation : Relation) : R manager (manager.add_edge from_ to_ relation) := by
  unfold ContextManager.add_edge
  split
  · exact linkless.refl manager
  · dsimp only
    split
    · exact linkless.trans (linkless.graph manager _) (linkless.graph _ _)
    · exact linkless.graph manager _

variable (item : ItemId) (msg : CoreMessage)

theorem note_references : R manager (manager.note_references W item msg) :=
  linkless.trans (linkless.observed W manager msg _ _) (linkless.foldl _ (fun manager _ _ => linkless.add_edge manager item _ _) _)

theorem note_answers : R manager (manager.note_answers item msg) := by
  refine linkless.foldl _ (fun manager result _ => ?_) manager
  split
  · exact linkless.add_edge manager item _ _
  · exact linkless.refl manager

theorem note_uses : R manager (manager.note_uses W item msg) := by
  unfold ContextManager.note_uses ContextManager.credit_expansions
  split
  · refine linkless.foldl _ (fun manager carrier _ => ?_) manager
    split
    · exact linkless.trans (linkless.add_edge manager item carrier.1 .ReferencesLexical) (linkless.credited _ _ _)
    · exact linkless.refl manager
  · exact linkless.refl manager

theorem note_expansion : R manager (manager.note_expansion item msg) := by
  unfold ContextManager.note_expansion
  split
  · split
    · exact linkless.add_edge manager item _ _
    · exact linkless.refl manager
  · exact linkless.refl manager

theorem admit_history (tokens : Nat)
    (indexed : ∀ item manager, ∀ result ∈ tool_results msg, R manager (index_result W item manager result))
    (pushed : ∀ (manager : ContextManager) row, R manager { manager with history := manager.history.push_row row }) :
    R manager (manager.admit_history W msg tokens) := by
  have counted := linkless.counted manager (manager.knowledge_reference_step+1) (manager.last_item_id+1)
  have answering := linkless.trans (linkless.trans counted (linkless.note_references (W := W) _ (manager.last_item_id+1) msg))
    (linkless.note_answers _ (manager.last_item_id+1) msg)
  have linked := linkless.trans (linkless.trans answering (linkless.note_uses (W := W) _ (manager.last_item_id+1) msg))
    (linkless.note_expansion _ (manager.last_item_id+1) msg)
  exact linkless.trans (linkless.trans linked (linkless.foldl _ (indexed _) _)) (pushed _ _)

theorem admit_held (each : ∀ before, ∀ held ∈ manager.held_history, R before (before.admit_history W held.1 held.2)) :
    R manager (manager.admit_held W) := linkless.trans (linkless.held manager []) (linkless.foldl _ each _)

theorem push_history (tokens : Nat)
    (each : ∀ (before : ContextManager) msg tokens, R before (before.admit_history W msg tokens)) :
    R manager (manager.push_history W msg tokens) := by
  unfold ContextManager.push_history
  dsimp only
  split
  · exact linkless.trans (each manager msg tokens) (linkless.admit_held _ fun before held _ => each before held.1 held.2)
  · exact each manager msg tokens

end Linkless

end Deepstrike.Context

import Deepstrike.Knowledge

/-!
The context manager as far as it keeps items: the knowledge before the history, the history rows with their
handles and the graph of items, and the two facts that say whether the rendered prefix is cached.
-/
namespace Deepstrike.Context
open Std Wire Renderings

/-- One row of a positional tier. -/
structure PartitionRow where
  tag : ItemTag
  message : CoreMessage
  tokens : Nat
  deriving DecidableEq,Repr

structure Partition where
  rows : List PartitionRow
  token_count : Nat
  deriving DecidableEq,Repr

def Partition.empty : Partition := ⟨[],0⟩

def Partition.push_row (partition : Partition) (row : PartitionRow) : Partition :=
  ⟨partition.rows ++ [row],partition.token_count+row.tokens⟩

/-- Every row from a length on is dropped. -/
def Partition.truncate (partition : Partition) (len : Nat) : Partition :=
  if partition.rows.length ≤ len then partition
  else ⟨partition.rows.take len,partition.token_count - ((partition.rows.drop len).map PartitionRow.tokens).sum⟩

inductive HandleKind where
  | ToolResult | MemoryPage | KnowledgeEntry | SubAgentJoin
  deriving DecidableEq,Repr

/-- Where the content of a handle lives. -/
inductive Residency where
  | Resident
  | External (payload_ref digest : String) (original_size : Nat)
  | PagedOut (payload_ref digest : String)
  | Collapsed
  deriving DecidableEq,Repr

/-- The locator a page-in hands back to the host, and the digest the body must reproduce. -/
def Residency.payload_ref : Residency → Option String
  | .External payload_ref _ _ | .PagedOut payload_ref _ => some payload_ref
  | .Resident | .Collapsed => none

def Residency.digest : Residency → Option String
  | .External _ digest _ | .PagedOut _ digest => some digest
  | .Resident | .Collapsed => none

structure Handle where
  id : Nat
  kind : HandleKind
  residency : Residency
  tokens : Nat
  source : Option String
  item : ItemId
  deriving DecidableEq,Repr

abbrev HandleTable := List Handle

/-- A handle with a known id is replaced. -/
def HandleTable.insert (handles : HandleTable) (handle : Handle) : HandleTable :=
  if handles.any fun held => held.id = handle.id then modifyFirst (fun held => held.id = handle.id) (fun _ => handle) handles
  else handles ++ [handle]

/-- `knowledge_budget` is the budget in tokens that the configured share of the window comes to. -/
structure ContextConfig where
  knowledge_budget : Option Nat
  preserve_recent_units : Nat
  preserved_tool_results : Nat
  delegate_tool_result_clearing : Bool
  collapse_assistant_narration : Bool
  deriving DecidableEq,Repr

structure ContextManager where
  config : ContextConfig
  knowledge : KnowledgePartition
  history : Partition
  signals : List String
  handles : HandleTable
  next_handle_id : Nat
  frozen_history_len : Nat
  active_skills : ExtTreeMap String (Option Nat)
  pending_knowledge_sweeps : List KnowledgeSweep
  knowledge_budget_warned : Bool
  knowledge_reference_step : Nat
  prefix_sent : Bool
  cache_invalidated_tokens : Nat
  last_item_id : ItemId
  graph : List ItemEdge
  held_history : List (CoreMessage × Nat)

/-- The edges kept that touch an item which has left, and those before the graph is pruned. -/
def RETIRED_EDGE_CAP : Nat := 128
def EDGE_PRUNE_AT : Nat := 1024

namespace ContextManager

def new (config : ContextConfig) : ContextManager :=
  ⟨config,.empty,.empty,[],[],0,0,∅,[],false,0,false,0,0,[],[]⟩

variable (manager : ContextManager)

def resident_item_ids : List ItemId :=
  (manager.history.rows.map (fun row => row.tag.id) ++ manager.knowledge.entries.map ContextItem.id).filter (· ≠ 0)

/-- The first edges that are not live go, as many as are over the cap. -/
def drop_retired (live : ItemEdge → Bool) : Nat → List ItemEdge → List ItemEdge
  | _,[] => []
  | 0,edges => edges
  | count+1,edge :: rest => if live edge then edge :: drop_retired live (count+1) rest else drop_retired live count rest

def prune_item_graph : ContextManager :=
  let resident := manager.resident_item_ids
  let live (edge : ItemEdge) := resident.contains edge.from_ && resident.contains edge.to_
  let kept := drop_retired live ((manager.graph.filter fun edge => !live edge).length-RETIRED_EDGE_CAP) manager.graph
  { manager with graph := kept.drop (kept.length-EDGE_PRUNE_AT) }

def add_edge (from_ to_ : ItemId) (relation : Relation) : ContextManager :=
  if from_ = 0 || to_ = 0 || from_ = to_
      || manager.graph.any fun edge => edge.from_ = from_ && edge.to_ = to_ && edge.relation = relation then manager
  else
    let grown := { manager with graph := manager.graph ++ [⟨from_,to_,relation,manager.knowledge.turn⟩] }
    if EDGE_PRUNE_AT < grown.graph.length then grown.prune_item_graph else grown

/-- An entry that was just appended gets its id. Once the prefix was sent it is staged, until what is staged
    weighs a quarter of the history: then all of it is promoted. -/
def place_appended_knowledge (entries_before : Nat) : ContextManager :=
  if manager.knowledge.entries.length = entries_before then manager
  else
    let last := manager.knowledge.entries.length-1
    let id := manager.last_item_id+1
    let named := { manager with
      last_item_id := id
      knowledge := { manager.knowledge with entries := manager.knowledge.entries.modify last fun entry => { entry with id } } }
    if !manager.prefix_sent then named
    else
      let staged := { named with
        knowledge := { named.knowledge with entries := named.knowledge.entries.modify last fun entry => { entry with staged := true } } }
      if manager.history.token_count ≤ staged.knowledge.staged_tokens*4 then
        { staged with
          knowledge := staged.knowledge.promote_staged
          cache_invalidated_tokens := staged.cache_invalidated_tokens+manager.history.token_count
          prefix_sent := false }
      else staged

def push_knowledge_item (origin : ItemOrigin) (key : Option String) (msg : CoreMessage) (tokens : Nat) (pinned : Bool) :
    ContextManager :=
  { manager with knowledge := manager.knowledge.push_item origin key msg tokens pinned }.place_appended_knowledge
    manager.knowledge.entries.length

def push_knowledge_entry (key : Option String) (msg : CoreMessage) (tokens : Nat) (pinned : Bool) : ContextManager :=
  manager.push_knowledge_item (ItemOrigin.for_host_key key) key msg tokens pinned

def push_knowledge (msg : CoreMessage) (tokens : Nat) : ContextManager :=
  manager.push_knowledge_entry none msg tokens false

/-- A recalled record already resident keeps its bytes and has its lease renewed. -/
def push_recalled (W : Wording) (manager : ContextManager) (record_id line : String) : ContextManager :=
  let key := "memory:" ++ record_id
  let (resident,renewed) := manager.knowledge.renew key
  let found := { manager with knowledge := renewed }
  if resident then found
  else found.push_knowledge_item .MemoryRecall (some key) (.system line) (max (W.count line) 1) false

def remove_knowledge (key : String) : ContextManager :=
  { manager with knowledge := (manager.knowledge.remove key).2 }

def DENIED_TOOLS_KEY : String := "governance:denied-tools"

/-- The note on denied tools as the next boundary leaves it, and whether it is leaving. -/
def current_note : Option (Option String × Bool) :=
  (manager.knowledge.entries.find? (KnowledgePartition.keyed DENIED_TOOLS_KEY)).map fun entry =>
    ((entry.pending.elim entry.message Prod.fst).content.as_text,entry.is_leaving)

/-- The note on denied tools in step with the tools that are hidden. -/
def sync_governance_surface_note (W : Wording) (manager : ContextManager) (note : Option String) : ContextManager :=
  match note,manager.current_note with
  | some note,current =>
    if current = some (some note,false) then manager
    else manager.push_knowledge_item .System (some DENIED_TOOLS_KEY) (.system note) (max (W.count note) 1) true
  | none,some (_,false) => manager.remove_knowledge DENIED_TOOLS_KEY
  | none,_ => manager

def note_memory_expanded (record_id : String) : ContextManager :=
  { manager with knowledge := manager.knowledge.note_expanded ("memory:" ++ record_id) }

/-- The items a resident history row still holds by a strong reference or a read-back. -/
def held_by_resident_items : List ItemId :=
  let history := manager.history.rows.map fun row => row.tag.id
  (manager.graph.filter fun edge => (edge.relation = .ReferencesStrong || edge.relation = .ReadsBack) && history.contains edge.from_).map
    ItemEdge.to_

def sweep_expired_item_leases (turn : Nat) : ContextManager :=
  { manager with knowledge := { manager.knowledge with turn }.expire_leases manager.held_by_resident_items }

def activate_skill (name : String) (expires_at_turn : Option Nat) : ContextManager :=
  { manager with active_skills := manager.active_skills.insert name expires_at_turn }

/-- The body of a skill leaves with its activation. -/
def deactivate_skill (name : String) : ContextManager :=
  if manager.active_skills.contains name then
    let key := "skill:" ++ name
    let (ended,knowledge) := manager.knowledge.end_lease .SkillDeactivated key
    { manager with
      active_skills := manager.active_skills.erase name
      knowledge := if ended then knowledge else (knowledge.remove key).2 }
  else manager

def sweep_expired_skill_leases (current_turn : Nat) : ContextManager :=
  let expired := (manager.active_skills.toList.filter fun skill => skill.2.any (· ≤ current_turn)).map Prod.fst
  expired.foldl deactivate_skill manager

/-- A refused activation: what the host pushed under the skill is withdrawn, unless the skill is active. -/
def retract_refused_skill (name : String) : ContextManager :=
  if manager.active_skills.contains name then manager
  else { manager with knowledge := (manager.knowledge.retract_staged ("skill:" ++ name)).2 }

/-- Whether the budget may choose an entry. -/
def evictable (held : List ItemId) (entry : ContextItem) : Bool :=
  !entry.is_leaving && !held.contains entry.id && !entry.pinned && !entry.key.any fun key => Capabilities.starts_with key "skill:"

/-- The lowest scores are marked until the rest fits. -/
def mark_evicted (budget : Nat) : List Nat → Nat → List ContextItem → List ContextItem
  | [],_,entries => entries
  | index :: rest,projected,entries =>
    if projected ≤ budget then entries
    else mark_evicted budget rest (projected - (entries[index]?.elim 0 ContextItem.tokens))
      (entries.modify index fun entry => { entry with leaving := some .Evicted })

def enforce_knowledge_budget : ContextManager :=
  match manager.config.knowledge_budget with
  | none => manager
  | some budget =>
    if manager.knowledge.token_count ≤ budget then manager
    else
      let marked := ((manager.knowledge.entries.filter ContextItem.is_leaving).map ContextItem.tokens).sum
      let held := manager.held_by_resident_items
      let candidates := (manager.knowledge.entries.zipIdx.filter fun entry => evictable held entry.1).map fun entry =>
        (manager.knowledge.retention_score entry.1 manager.knowledge_reference_step,entry.2)
      let ordered := candidates.mergeSort fun left right => left.1 < right.1 || (left.1 = right.1 && left.2 ≤ right.2)
      { manager with
        knowledge := { manager.knowledge with
          entries := mark_evicted budget (ordered.map Prod.snd) (manager.knowledge.token_count-marked) manager.knowledge.entries }
        knowledge_budget_warned := true }

/-- The boundary sweep, and what the model is told of it. -/
def sweep_knowledge_at_boundary : ContextManager :=
  let (sweep,knowledge) := manager.knowledge.sweep_at_boundary
  let removed := ", ".intercalate sweep.removed_keys
  let told := if sweep.removed_keys.isEmpty then manager.signals else manager.signals ++
    [s!"[KNOWLEDGE] entries removed at this boundary: {removed} — re-fetch via the memory tool if still needed."]
  { manager with
    knowledge
    signals := if sweep.changed then told else manager.signals
    pending_knowledge_sweeps := if sweep.changed then manager.pending_knowledge_sweeps ++ [sweep] else manager.pending_knowledge_sweeps
    knowledge_budget_warned := false
    prefix_sent := false }.prune_item_graph

def mark_prefix_sent : ContextManager := { manager with prefix_sent := true }

/-- The knowledge block of a render. -/
def build_system_knowledge : String :=
  "\n\n".intercalate (manager.knowledge.resident_messages.filterMap fun message => message.content.as_text)

/-- The state turn of a render; the task and the footer are the task state's. -/
def build_state_turn (task : String) (footer : Option String) : Option CoreMessage :=
  let staged := "\n\n".intercalate (manager.knowledge.staged_messages.filterMap fun message => message.content.as_text)
  let signals := "\n".intercalate manager.signals
  if task.isEmpty && manager.signals.isEmpty && staged.isEmpty then none
  else
    let parts := (if staged.isEmpty then [] else [staged]) ++ (if task.isEmpty then [] else [task])
      ++ (if signals.isEmpty then [] else [signals]) ++ footer.toList
    some ⟨.User,.Text ("\n\n".intercalate parts ++ "\n\nProceed."),[]⟩

end ContextManager

end Deepstrike.Context

import Deepstrike.Histories

/-!
The handles of a context as an address space: where the body of a handle lives, what a render shows as a
preview, and which handles leave with the history rows they were anchored to.
-/
namespace Deepstrike.Context
open Wire Renderings HandleTable

/-- Whether the body is out of the rendered view while its message stays. -/
def Residency.projected : Residency → Bool
  | .Collapsed | .PagedOut _ _ => true
  | .Resident | .External _ _ _ => false

namespace HandleTable

def anchored (source : String) (handle : Handle) : Bool := handle.source = some source

/-- The first handle with a source says where the body is. -/
def residency_for_source (handles : HandleTable) (source : String) : Option Residency :=
  (handles.find? (anchored source)).map Handle.residency

def projected_items (handles : HandleTable) : List ItemId :=
  (handles.filter fun handle => handle.item ≠ 0 && handle.residency.projected).map Handle.item

/-- The first results of a table, as many as are over what is preserved, go from the view. -/
def collapse_older : Nat → HandleTable → HandleTable
  | _,[] => []
  | 0,handles => handles
  | count+1,handle :: rest =>
    if handle.kind = .ToolResult then
      (if handle.residency = .Resident then { handle with residency := .Collapsed } else handle) :: collapse_older count rest
    else handle :: collapse_older (count+1) rest

end HandleTable

namespace ContextManager

variable (manager : ContextManager)

/-- Under pressure all but the latest tool results are rendered as previews. -/
def recompute_handle_residency (pressed : Bool) : ContextManager :=
  if manager.config.delegate_tool_result_clearing || !pressed then manager
  else
    let total := (manager.handles.filter fun handle => handle.kind = .ToolResult).length
    { manager with handles := collapse_older (total-manager.config.preserved_tool_results) manager.handles }

/-- At a boundary every preview is taken back. -/
def reset_collapse_generation : ContextManager :=
  { manager with
    handles := manager.handles.map fun handle => if handle.residency = .Collapsed then { handle with residency := .Resident } else handle }

/-- A handle leaves with the row that holds its body, unless the body lives outside. -/
def prune_orphaned_handles : ContextManager :=
  let live_items := manager.history.rows.map fun row => row.tag.id
  let live := manager.history.rows.flatMap fun row => (tool_results row.message).map Prod.fst
  { manager with
    handles := manager.handles.filter fun handle => handle.residency.payload_ref.isSome ||
      (if handle.item ≠ 0 then live_items.contains handle.item else handle.source.all live.contains) }

/-- The row that holds the result of a call, if its item has an id. -/
def history_item_holding (call_id : String) : Option ItemId :=
  ((manager.history.rows.find? fun row => (tool_results row.message).any fun result => result.1 = call_id).map
  fun row => row.tag.id).filter (· ≠ 0)

/-- A handle that was restored without an item gets the row that holds its body. -/
def backfill_handle_items : ContextManager :=
  let missing := manager.handles.filterMap fun handle => if handle.item = 0 then handle.source.map fun source =>
  (handle.id,source) else none
  missing.foldl (fun manager (handle : Nat × String) =>
    match manager.history_item_holding handle.2 with
    | some item => { manager with handles := modifyFirst (fun held => held.id = handle.1) (fun held => { held with item }) manager.handles }
    | none => manager) manager

/-- Moves the body of the handle with a source, which is made when none has it. -/
def set_payload_residency (source : String) (kind : HandleKind) (tokens : Nat) (residency : Residency) :
    Option Residency × ContextManager :=
  match manager.handles.find? (anchored source) with
  | some handle =>
    (some handle.residency,
      { manager with handles := modifyFirst (anchored source) (fun held => { held with residency, tokens }) manager.handles })
  | none =>
    let (id,counted) := manager.alloc_handle_id
    let item := (manager.history_item_holding source).getD 0
    (none,{ counted with handles := insert counted.handles ⟨id,kind,residency,tokens,some source,item⟩ })

def payload_residency (source : String) : Option Residency := residency_for_source manager.handles source

/-- Results the provider cleared on its side are previews here as well. -/
def absorb_cleared_tool_results (call_ids : List String) : ContextManager :=
  { manager with
    handles := manager.handles.map fun handle =>
      if handle.kind = .ToolResult && handle.source.any call_ids.contains && handle.residency = .Resident then
      { handle with residency := .Collapsed }
      else handle }

end ContextManager

end Deepstrike.Context

import Deepstrike.Admitting
import Deepstrike.Residencies
import Deepstrike.Units

/-!
The render of a context for a provider call: the history rows that fit the allowance, each in the form its
handles and its age give it, and how many of the turns come from the frozen part of the history.
-/
namespace Deepstrike.Context
open Std Wire

/-- The token counter of a context; parts that are no tool results are counted by their kind. -/
structure ContextTokenEngine extends Wording where
  count_other : Json → Nat

namespace ContextTokenEngine

def count_part (engine : ContextTokenEngine) : ContentPart → Nat
  | .ToolResult _ output _ _ => engine.count output
  | .Other durable => engine.count_other durable

def count_message (engine : ContextTokenEngine) (message : CoreMessage) : Nat :=
  match message.content with
  | .Text text => engine.count text
  | .Parts parts => (parts.map engine.count_part).sum

end ContextTokenEngine

def PREVIEW_BYTES : Nat := 160

def NARRATION_STUB : String :=
  "[earlier narration collapsed; tool call(s) preserved below — current progress is in the TASK STATE block]"

def NARRATION_COLLAPSE_MIN_CHARS : Nat := 40

/-- The last line of a text, without the mark that ends it. -/
def last_line (text : String) : Option String :=
  if text.isEmpty then none
  else
    let line := match text.toList.reverse with
      | '\n' :: '\r' :: rest => rest
      | '\n' :: rest => rest
      | rest => rest
    some (String.ofList (line.takeWhile (· ≠ '\n')).reverse)

/-- The longest beginning of a text that has no more than so many bytes. -/
def byte_prefix : Nat → List Char → List Char
  | _,[] => []
  | limit,character :: rest => if character.utf8Size ≤ limit then character :: byte_prefix (limit-character.utf8Size) rest else []

/-- A tool result out of view, with the way to read it again; a text that is such a preview stays. -/
def collapse_preview (output call_id : String) : String :=
  let retrieval := "Call the read_result tool with call_id \"" ++ call_id ++ "\" to re-read the full result.]"
  if (last_line output).any fun line =>
    "[Output truncated:".toList.isPrefixOf line.toList && retrieval.toList.isSuffixOf line.toList then output
  else
    let start := String.ofList <| byte_prefix PREVIEW_BYTES output.toList
    let dropped := output.utf8ByteSize-start.utf8ByteSize
    start ++ s!"…\n[Output truncated: {dropped} bytes omitted. " ++ retrieval

/-- An old assistant turn that says what it is about to do keeps its calls, and says no more. -/
def project_assistant_narration (message : CoreMessage) (enabled : Bool) : Option CoreMessage :=
  if !enabled || message.role ≠ .Assistant || message.tool_calls.isEmpty then none
  else
    match message.content with
    | .Text text => if text = NARRATION_STUB || text.length < NARRATION_COLLAPSE_MIN_CHARS then none
      else some { message with content := .Text NARRATION_STUB }
    | .Parts _ => none

def project_part (handles : HandleTable) : ContentPart → ContentPart
  | .ToolResult call_id output is_error durable_content =>
    if (HandleTable.residency_for_source handles call_id).any Residency.projected then
      .ToolResult call_id (collapse_preview output call_id) is_error durable_content
    else .ToolResult call_id output is_error durable_content
  | .Other durable => .Other durable

/-- Tool results whose body is out of the view are rendered as previews. -/
def project_message (message : CoreMessage) (handles : HandleTable) : Option CoreMessage :=
  match message.content with
  | .Text _ => none
  | .Parts parts =>
    if (ContextManager.tool_results message).any fun result =>
    (HandleTable.residency_for_source handles result.1).any Residency.projected then
      some { message with content := .Parts (parts.map (project_part handles)) }
    else none

/-- What a row renders, when that is not what it holds. -/
def project_row (handles : HandleTable) (collapse_narration is_protected : Bool) (row : PartitionRow) : Option CoreMessage :=
  let as_handle := row.tag.id = 0 || (HandleTable.projected_items handles).contains row.tag.id
  (if as_handle then project_message row.message handles else none).or
    (if is_protected then none else project_assistant_narration row.message collapse_narration)

/-- A turn with the row it comes from. -/
structure RenderedTurn where
  index : Nat
  item : ItemId
  message : CoreMessage
  deriving DecidableEq,Repr

/-- A unit as it would be rendered. -/
structure RenderUnit where
  stop : Nat
  turns : List RenderedTurn
  tokens : Nat
  is_protected : Bool

inductive ContextBudgetOverflowKind where
  | FixedContext | ProtectedTail
  deriving DecidableEq,Repr

structure ContextBudgetOverflow where
  kind : ContextBudgetOverflowKind
  required_tokens : Nat
  max_tokens : Nat
  deriving DecidableEq,Repr

structure Selection where
  kept : List RenderUnit
  remaining : Nat
  used_tokens : Nat
  budget_overflow : Option ContextBudgetOverflow

/-- Units are kept from the newest on, up to the first that is too large. -/
def select (budget : Nat) : List RenderUnit → Selection → Selection
  | [],selection => selection
  | unit :: older,selection =>
    if unit.tokens = 0 then select budget older selection
    else if unit.is_protected || unit.tokens ≤ selection.remaining then
      let used_tokens := selection.used_tokens+unit.tokens
      select budget older ⟨unit :: selection.kept,selection.remaining-unit.tokens,used_tokens,
        if unit.is_protected && budget < used_tokens && selection.budget_overflow.isNone then some ⟨.ProtectedTail,used_tokens,budget⟩
        else selection.budget_overflow⟩
    else selection

/-- The turns begin with the user. -/
def normalize_turn_prefix (turns : List CoreMessage) : List CoreMessage :=
  match turns with
  | first :: _ => if first.role = .Assistant || first.role = .Tool then ⟨.User,.Text "[context resumed]",[]⟩ :: turns else turns
  | [] => []

structure InternalRenderedContext where
  system_text : String
  system_stable : String
  system_knowledge : String
  turns : List CoreMessage
  state_turn : Option CoreMessage
  frozen_prefix_len : Option Nat
  budget_overflow : Option ContextBudgetOverflow
  turn_items : List ItemId
  estimated_tokens : Nat

/-- What a render reads beside the items: the identity before them, and the task. -/
structure Setting where
  system_stable : String
  task : String
  footer : Option String

namespace ContextManager
variable (engine : ContextTokenEngine) (manager : ContextManager) (setting : Setting)

def system_text : String :=
  "\n\n".intercalate ([setting.system_stable,manager.build_system_knowledge].filter fun text => !text.isEmpty)

/-- What is spent before the history. -/
def fixed_tokens : Nat :=
  engine.count (manager.system_text setting) +
    (manager.build_state_turn setting.task setting.footer).elim 0 engine.count_message

def render_row (is_protected : Bool) (index : Nat) : Option (RenderedTurn × Nat) :=
  manager.history.rows[index]?.map fun row =>
    match project_row manager.handles manager.config.collapse_assistant_narration is_protected row with
    | some projected => (⟨index,row.tag.id,projected⟩,engine.count_message projected)
    | none => (⟨index,row.tag.id,row.message⟩,row.tokens)

def render_unit (is_protected : Bool) (range : Nat × Nat) : RenderUnit :=
  let rows := (List.range' range.1 (range.2-range.1)).filterMap (manager.render_row engine is_protected)
  ⟨range.2,rows.map Prod.fst,(rows.map Prod.snd).sum,is_protected⟩

def render_units : List RenderUnit :=
  let ranges := unit_boundaries (manager.history.rows.map PartitionRow.message)
  let protected_from := ranges.length-manager.config.preserve_recent_units
  ranges.zipIdx.map fun range => manager.render_unit engine (protected_from ≤ range.2) range.1

/-- The render within a budget of tokens. -/
def render_projected (budget : Nat) : InternalRenderedContext :=
  let fixed := manager.fixed_tokens engine setting
  let chosen := select budget (manager.render_units engine).reverse
    ⟨[],budget-fixed,fixed,if budget < fixed then some ⟨.FixedContext,fixed,budget⟩ else none⟩
  let selected := chosen.kept.flatMap RenderUnit.turns
  let turns := normalize_turn_prefix (selected.map RenderedTurn.message)
  let anchor_count := turns.length-selected.length
  let frozen_selected := (selected.takeWhile fun turn => turn.index < manager.frozen_history_len).length
  let projected_tokens := chosen.used_tokens+((turns.take anchor_count).map engine.count_message).sum
  { system_text := manager.system_text setting
    system_stable := setting.system_stable
    system_knowledge := manager.build_system_knowledge
    turns
    state_turn := manager.build_state_turn setting.task setting.footer
    frozen_prefix_len := if 0 < frozen_selected && frozen_selected < selected.length then some (frozen_selected+anchor_count) else none
    budget_overflow :=
      if budget < projected_tokens then
        match chosen.budget_overflow with
        | none => some ⟨.ProtectedTail,projected_tokens,budget⟩
        | some overflow => if overflow.kind = .ProtectedTail then
          some { overflow with required_tokens := projected_tokens } else some overflow
      else chosen.budget_overflow
    turn_items := List.replicate anchor_count 0 ++ selected.map RenderedTurn.item
    estimated_tokens := projected_tokens }

end ContextManager

end Deepstrike.Context

import Deepstrike.Capabilities
import Deepstrike.Wire

/-!
The items of a context: what an item is, where it came from, how long it stays and what was seen of
its use. The defaults of an item follow from its origin alone.
-/
namespace Deepstrike.Wire

/-- The text of a message, when it is text. -/
def Content.as_text : Content → Option String
  | .Text text => some text
  | .Parts _ => none

def CoreMessage.system (text : String) : CoreMessage := ⟨.System,.Text text,[]⟩

end Deepstrike.Wire

namespace Deepstrike.Context
open Wire

abbrev ItemId := Nat

/-- Turns a recalled index line stays after it was recalled or last used. -/
def RECALL_LEASE_TURNS : Nat := 8

inductive ItemOrigin where
  | System | Skill | MemoryRecall | Reference | Blackboard | ToolResult | DependencyOutput | User | Assistant | TaskState | Signal
  | ProviderSummary
  deriving DecidableEq,Repr

inductive ItemScope where
  | Operation | Task | Edge | Session | Agent | Workflow
  deriving DecidableEq,Repr

inductive Fidelity where
  | Full | Structured | Excerpt | Handle
  deriving DecidableEq,Repr

inductive LeaseEvent where
  | SkillDeactivated
  deriving DecidableEq,Repr

inductive Lease where
  | Permanent
  | UntilBoundary
  | Turns (turns : Nat)
  | SingleUse
  | Until (event : LeaseEvent)
  deriving DecidableEq,Repr

inductive Authority where
  | Host | Kernel | Model | Provider
  deriving DecidableEq,Repr

structure ItemDefaults where
  scope : ItemScope
  fidelity : Fidelity
  lease : Lease
  authority : Authority
  deriving DecidableEq,Repr

/-- Why an item left. -/
inductive ItemEnd where
  | Evicted | Expired | Removed | Compacted | Renewed
  deriving DecidableEq,Repr

namespace ItemOrigin

/-- The origin of a history message, from its role. -/
def of_message (message : CoreMessage) : ItemOrigin :=
  match message.role with
  | .System => .System
  | .User => .User
  | .Assistant => .Assistant
  | .Tool => .ToolResult

/-- The origin of what a host pushes under a key. -/
def for_host_key (key : Option String) : ItemOrigin :=
  match key with
  | some key => if Capabilities.starts_with key "skill:" then .Skill
    else if Capabilities.starts_with key "blackboard:" then .Blackboard else .Reference
  | none => .Reference

def defaults : ItemOrigin → ItemDefaults
  | .System => ⟨.Operation,.Full,.Permanent,.Kernel⟩
  | .Skill => ⟨.Task,.Full,.Until .SkillDeactivated,.Model⟩
  | .MemoryRecall => ⟨.Session,.Handle,.Turns RECALL_LEASE_TURNS,.Host⟩
  | .Reference => ⟨.Operation,.Full,.Permanent,.Host⟩
  | .Blackboard => ⟨.Workflow,.Full,.Permanent,.Host⟩
  | .ToolResult => ⟨.Task,.Full,.Permanent,.Host⟩
  | .DependencyOutput => ⟨.Edge,.Handle,.Permanent,.Kernel⟩
  | .User => ⟨.Operation,.Full,.Permanent,.Host⟩
  | .Assistant => ⟨.Operation,.Full,.Permanent,.Model⟩
  | .TaskState => ⟨.Task,.Structured,.Permanent,.Kernel⟩
  | .Signal => ⟨.Operation,.Full,.SingleUse,.Host⟩
  | .ProviderSummary => ⟨.Operation,.Full,.Permanent,.Provider⟩

end ItemOrigin

/-- Whether an item of a scope stays across a renewal. -/
def ItemScope.survives_renewal (scope : ItemScope) : Bool := scope ≠ .Edge

/-- A pin keeps an item past any time limit, and not past an event that ends what it is for. -/
def Lease.for_item (origin : ItemOrigin) (pinned : Bool) : Lease :=
  match origin.defaults.lease with
  | .Until event => .Until event
  | lease => if pinned then .Permanent else lease

/-- What the kernel has seen of an item's use. -/
structure ItemValue where
  injected_turn : Nat
  ref_count : Nat
  strong_refs : Nat
  lexical_refs : Nat
  last_referenced_step : Option Nat
  last_referenced_turn : Option Nat
  expanded : Bool
  paged_in_after_evict : Bool
  deriving DecidableEq,Repr

/-- One item of the knowledge tier. -/
structure ContextItem where
  id : ItemId
  key : Option String
  origin : ItemOrigin
  lease : Lease
  message : CoreMessage
  tokens : Nat
  pinned : Bool
  leaving : Option ItemEnd
  pending : Option (CoreMessage × Nat)
  staged : Bool
  value : ItemValue
  deriving DecidableEq,Repr

/-- The life of one item, for the report at the end of a run. -/
structure ItemRecord where
  id : ItemId
  key : Option String
  origin : ItemOrigin
  tokens : Nat
  value : ItemValue
  end_ : Option ItemEnd
  deriving DecidableEq,Repr

namespace ContextItem

def new (origin : ItemOrigin) (key : Option String) (message : CoreMessage) (tokens : Nat) (pinned : Bool) (turn : Nat) : ContextItem :=
  ⟨0,key,origin,Lease.for_item origin pinned,message,tokens,pinned,none,none,false,⟨turn,0,0,0,none,none,false,false⟩⟩

variable (item : ContextItem)

/-- Whether it is marked to leave at the next boundary. -/
def is_leaving : Bool := item.leaving.isSome

/-- The turns left on a lease that is counted in turns. -/
def lease_remaining_turns (current_turn : Nat) : Option Nat :=
  match item.lease with
  | .Turns turns =>
    let since := item.value.last_referenced_turn.elim item.value.injected_turn (max · item.value.injected_turn)
    some (since+turns-current_turn)
  | _ => none

def lease_expired (current_turn : Nat) : Bool :=
  match item.lease with
  | .Permanent | .UntilBoundary | .Until _ => false
  | .Turns _ => item.lease_remaining_turns current_turn = some 0
  | .SingleUse => 0 < item.value.ref_count

def record (end_ : Option ItemEnd) : ItemRecord := ⟨item.id,item.key,item.origin,item.tokens,item.value,end_⟩

/-- One more reference to the item. -/
def referenced (strong : Bool) (step turn : Nat) : ContextItem :=
  { item with value := { item.value with
      ref_count := item.value.ref_count+1
      strong_refs := if strong then item.value.strong_refs+1 else item.value.strong_refs
      lexical_refs := if strong then item.value.lexical_refs else item.value.lexical_refs+1
      last_referenced_step := some step
      last_referenced_turn := some turn } }

end ContextItem

/-- The identity a history message has as an item. -/
structure ItemTag where
  id : ItemId
  origin : ItemOrigin
  injected_turn : Nat
  fidelity : Fidelity
  deriving DecidableEq,Repr

def ItemTag.new (id : ItemId) (origin : ItemOrigin) (injected_turn : Nat) : ItemTag := ⟨id,origin,injected_turn,.Full⟩

inductive Relation where
  | Answers | ReferencesStrong | ReferencesLexical | ReadsBack | Summarizes | Expands
  deriving DecidableEq,Repr

structure ItemEdge where
  from_ : ItemId
  to_ : ItemId
  relation : Relation
  turn : Nat
  deriving DecidableEq,Repr

end Deepstrike.Context

import Deepstrike.Capabilities
import Deepstrike.Frames
import Deepstrike.LoopHost

/-!
The capability leases of the root task at the syscall trap: the ledger carries the capabilities the
operation was started with, and no function of the loop writes them.
-/
namespace Deepstrike.Loop
open Wire Tasks Vocabulary Components Capabilities

/-- The first tool capability over the call whose lease has run out. -/
def expired_lease (capabilities : List Capability) (turn : Nat) (name : String) : Option Capability :=
  capabilities.find? fun capability => capability.kind == .Tool && resource_matches capability.resource name &&
    capability.lease.any fun lease => lease.is_expired turn

def lease_reason (call : ToolCall) (expired : Capability) : String :=
  let expiry := match expired.lease.bind Lease.expires_at_turn with
    | some turn => s!"Some({turn})"
    | none => "None"
  s!"tool {call.name.quote} is gated by capability {expired.id.quote} whose lease expired at turn {expiry}"

/-- The parts of a loop with the root's capabilities written out. The other operations of the ledger concern children and
    their budgets. -/
def leased (K : LoopParts) : LoopParts := { K with
  Ledger := List Capability × K.Ledger
  expired_tool_capability := fun _ turn call ledger => (expired_lease ledger.1 turn call.name).map (lease_reason call)
  reserve_authority := fun tasks parent manifest turn ledger =>
    (K.reserve_authority tasks parent manifest turn ledger.2).map fun rest => (ledger.1,rest)
  drop_reservation := fun ledger => (ledger.1,K.drop_reservation ledger.2)
  attach_child_budget_grant := fun child ledger => (ledger.1,K.attach_child_budget_grant child ledger.2)
  note_spawned := fun manifest ledger => (ledger.1,K.note_spawned manifest ledger.2)
  return_child_budget := fun child ledger => (ledger.1,K.return_child_budget child ledger.2)
  accumulate_usage := fun child tokens turns ledger => (ledger.1,K.accumulate_usage child tokens turns ledger.2)
  cancelled_with_root := fun tasks ledger => K.cancelled_with_root tasks ledger.2
  seed_child_budget := fun grant ledger => (ledger.1,K.seed_child_budget grant ledger.2)
  process_view := fun task ledger => K.process_view task ledger.2 }

variable {K : LoopParts}

namespace LoopStateMachine

variable (e : LoopStateMachine (leased K))

def capabilities : List Capability := e.ledger.1

/-- No lease over the call has run out at the current turn. -/
def Unexpired (call : ToolCall) : Prop := expired_lease e.capabilities e.turn call.name = none

/-- A batch waits for its approval. -/
def Parked : Prop := e.lifecycle = .Suspended ∧ ∃ calls reasons, e.suspend_state = some (.AskUser calls reasons)

/-- What the gates and the host effect slot read. -/
structure View where
  capabilities : List Capability
  turn : Nat
  governed : Bool
  lifecycle : TaskLifecycle
  suspend_state : Option SuspendState
  exposed_tool_names : Option OrdSet
  pending_host_effects : List PendingHostEffect
  active_host_effect : Option PendingHostEffect
  deferred_action : Option LoopAction

def view : View :=
  ⟨e.capabilities,e.turn,e.governance.isSome,e.lifecycle,e.suspend_state,e.exposed_tool_names,e.pending_host_effects,e.active_host_effect,
    e.deferred_action⟩

/-- Nothing of this has changed. -/
def Same (before after : LoopStateMachine (leased K)) : Prop := after.view = before.view

instance : Std.Refl (Same (K := K)) := ⟨fun _ => rfl⟩
instance : IsTrans (LoopStateMachine (leased K)) Same := ⟨fun _ _ _ first second => Eq.trans second first⟩

/-- The capabilities, the configuration of the gate and the slot of the host effects are as before. -/
structure Holds (before after : LoopStateMachine (leased K)) : Prop where
  capabilities : after.capabilities = before.capabilities
  governed : after.governance.isSome = before.governance.isSome
  active : after.active_host_effect = before.active_host_effect
  deferred : after.deferred_action = before.deferred_action

instance : Std.Refl (Holds (K := K)) := ⟨fun _ => ⟨rfl,rfl,rfl,rfl⟩⟩
instance : IsTrans (LoopStateMachine (leased K)) Holds := ⟨fun _ _ _ first second =>
  ⟨second.capabilities.trans first.capabilities,second.governed.trans first.governed,second.active.trans first.active,
    second.deferred.trans first.deferred⟩⟩

/-- And a batch that waits for its approval has waited before, in the same turn. -/
structure Settles (before after : LoopStateMachine (leased K)) : Prop extends Holds before after where
  parked : after.Parked → before.Parked ∧ after.turn = before.turn ∧ after.suspend_state = before.suspend_state

instance : Std.Refl (Settles (K := K)) := ⟨fun e => { toHolds := refl_of Holds e, parked := fun parked => ⟨parked,rfl,rfl⟩ }⟩
instance : IsTrans (LoopStateMachine (leased K)) Settles := ⟨fun _ _ _ first second =>
  { toHolds := trans_of Holds first.toHolds second.toHolds
    parked := fun parked => by
      obtain ⟨between,turn,state⟩ := second.parked parked
      obtain ⟨before,turn',state'⟩ := first.parked between
      exact ⟨before,turn.trans turn',state.trans state'⟩ }⟩

/-- The root is not suspended. -/
def Awake : Prop := e.lifecycle ≠ .Suspended

/-- A root that is awake stays so. -/
structure Stays (before after : LoopStateMachine (leased K)) : Prop extends Holds before after where
  awake : before.Awake → after.Awake

instance : Std.Refl (Stays (K := K)) := ⟨fun e => { toHolds := refl_of Holds e, awake := id }⟩
instance : IsTrans (LoopStateMachine (leased K)) Stays := ⟨fun _ _ _ first second =>
  { toHolds := trans_of Holds first.toHolds second.toHolds, awake := second.awake ∘ first.awake }⟩

/-- The suspension is as before. -/
structure Rigid (before after : LoopStateMachine (leased K)) : Prop extends Holds before after where
  suspend_state : after.suspend_state = before.suspend_state

instance : Std.Refl (Rigid (K := K)) := ⟨fun e => { toHolds := refl_of Holds e, suspend_state := rfl }⟩
instance : IsTrans (LoopStateMachine (leased K)) Rigid := ⟨fun _ _ _ first second =>
  { toHolds := trans_of Holds first.toHolds second.toHolds, suspend_state := second.suspend_state.trans first.suspend_state }⟩

variable {before after : LoopStateMachine (leased K)}

theorem Holds.settles (holds : Holds before after) (awake : after.Awake) : Settles before after :=
  { toHolds := holds, parked := fun parked => (awake parked.1).elim }

theorem Same.stays (same : Same before after) : Stays before after := by
  unfold Same view at same
  simp only [View.mk.injEq] at same
  obtain ⟨capabilities,turn,governed,lifecycle,suspend_state,_,_,active,deferred⟩ := same
  refine { capabilities, governed, active, deferred, awake := fun awake => ?_ }
  unfold Awake
  rwa [lifecycle]

theorem Same.settles (same : Same before after) : Settles before after := by
  unfold Same view at same
  simp only [View.mk.injEq] at same
  obtain ⟨capabilities,turn,governed,lifecycle,suspend_state,_,_,active,deferred⟩ := same
  refine { capabilities, governed, active, deferred, parked := fun parked => ⟨?_,turn,suspend_state⟩ }
  unfold Parked at parked ⊢
  rwa [lifecycle,suspend_state] at parked

end LoopStateMachine
end Deepstrike.Loop

import Mathlib.Data.List.Sort
import Deepstrike.Capabilities
import Deepstrike.OrderedMaps

/-!
The router between operations: who may send what to whom, in which order the messages to a receiver
go out, and what a snapshot keeps of it. Messages go out over the host's own transport.
-/
namespace Deepstrike.CrossOperation
open Std Capabilities OrderedMaps

structure OperationAddress where
  operation_id : String
  task_id : String
  deriving DecidableEq,Repr

/-- The order of addresses: by operation, then by task. -/
def addressCmp : OperationAddress → OperationAddress → Ordering :=
  compareLex (compareOn OperationAddress.operation_id) (compareOn OperationAddress.task_id)

instance : TransCmp addressCmp := inferInstanceAs (TransCmp (compareLex (compareOn _) (compareOn _)))

instance : LawfulEqCmp addressCmp where
  eq_of_compare {first second} equal := by
    obtain ⟨operation,task⟩ := first
    obtain ⟨other_operation,other_task⟩ := second
    simp only [addressCmp,compareLex,compareOn,Ordering.then_eq_eq,LawfulEqCmp.compare_eq_iff_eq] at equal
    rw [equal.1,equal.2]

/-- A locator of the host, which is passed on and never opened. -/
structure PayloadLocator where
  reference : String
  digest : String
  size : Nat
  deriving DecidableEq,Repr

inductive PayloadAvailability where
  | Available | Unavailable
  deriving DecidableEq,Repr

inductive ObjectKind where
  | ToolResult | Memory | Knowledge | Artifact | AgentResult | Dataset | File | WorkflowOutput
  | Custom (name : String)
  deriving DecidableEq,Repr

inductive Residency where
  | Resident
  | External (payload_ref digest : String) (original_size : Nat)
  | PagedOut (payload_ref digest : String)
  | Collapsed
  deriving DecidableEq,Repr

structure ObjectDescriptor where
  id : Nat
  kind : ObjectKind
  owner : String
  digest : String
  size : Nat
  residency : Residency
  payload_ref : Option String
  version : Nat
  preview : Option String
  deriving DecidableEq,Repr

structure CrossOperationMessage where
  id : String
  «from» : OperationAddress
  «to» : OperationAddress
  kind : String
  object : ObjectDescriptor
  payload : PayloadLocator
  /-- Strictly increasing for each receiver; the host's transport supplies it. -/
  sequence : Nat
  sent_at_turn : Nat
  ttl_turns : Nat
  delegated_capabilities : List Capability
  deriving DecidableEq

structure OperationRegistration where
  address : OperationAddress
  capabilities : List Capability
  cancelled : Bool
  deriving DecidableEq

inductive DeliveryState where
  | Queued | InFlight | Delivered | Failed | Expired | Cancelled
  deriving DecidableEq,Repr

def DeliveryState.is_pending : DeliveryState → Bool
  | .Queued | .InFlight => true
  | .Delivered | .Failed | .Expired | .Cancelled => false
def DeliveryState.is_terminal (state : DeliveryState) : Bool := !state.is_pending

inductive DeliverySettlement where
  | Delivered | RetryableFailure | PermanentFailure
  deriving DecidableEq,Repr

inductive DeliveryFailure where
  | UnknownOperation | Cancelled | SourceDoesNotOwnObject | InvalidPayloadLocator | PayloadUnavailable | SenderPermissionDenied
  | ReceiverPermissionDenied | CapabilityAttenuationDenied | ExpiredCapabilityLease | ExpiredTtl | OutOfOrder | Backpressure
  | ConflictingDuplicate
  deriving DecidableEq,Repr

inductive RouteOutcome where
  | Accepted (state : DeliveryState)
  | Duplicate (state : DeliveryState)
  | Rejected (failure : DeliveryFailure)
  deriving DecidableEq,Repr

structure DurableDelivery where
  message : CrossOperationMessage
  state : DeliveryState
  attempts : Nat
  deriving DecidableEq

structure ReceiverQueueSnapshot where
  receiver : OperationAddress
  message_ids : List String
  deriving DecidableEq,Repr

structure ReceiverSequenceSnapshot where
  receiver : OperationAddress
  last_sequence : Nat
  deriving DecidableEq,Repr

structure CrossOperationRouterSnapshot where
  max_pending_per_recipient : Nat
  operations : List OperationRegistration
  deliveries : List DurableDelivery
  queues : List ReceiverQueueSnapshot
  last_sequences : List ReceiverSequenceSnapshot
  deriving DecidableEq

inductive SnapshotError where
  | DuplicateOperation (address : OperationAddress)
  | DuplicateDelivery (id : String)
  | DuplicateQueue (receiver : OperationAddress)
  | DuplicateSequence (receiver : OperationAddress)
  | SequenceForUnknownOperation (receiver : OperationAddress)
  | DeliveryForUnknownOperation (id : String)
  | UnknownQueuedDelivery (id : String)
  | QueuedDeliveryForWrongReceiver (id : String)
  | NonQueuedDelivery (id : String)
  | DuplicateQueuedDelivery (id : String)
  | OutOfOrderQueue (id : String)
  deriving DecidableEq,Repr

abbrev AddressMap (V : Type) := ExtTreeMap OperationAddress V addressCmp

structure CrossOperationRouter where
  max_pending_per_recipient : Nat
  operations : AddressMap OperationRegistration
  deliveries : ExtTreeMap String DurableDelivery compare
  queues : AddressMap (List String)
  last_sequences : AddressMap Nat

def u32Max : Nat := 2 ^ 32 - 1

def expired (sent_at_turn ttl_turns now_turn : Nat) : Bool := decide (min (sent_at_turn+ttl_turns) u32Max ≤ now_turn)

def valid_payload_locator (object : ObjectDescriptor) (payload : PayloadLocator) : Bool :=
  payload.reference ≠ "" && payload.digest ≠ "" && object.payload_ref == some payload.reference && object.digest == payload.digest &&
    object.size == payload.size

def object_resource (object : ObjectDescriptor) : String := s!"object:{object.owner}/{object.id}"

def matching_expired_lease (capabilities : List Capability) (action : String) (object : ObjectDescriptor) (now_turn : Nat) : Bool :=
  capabilities.any fun capability =>
  decide (action ∈ capability.actions) && resource_matches capability.resource (object_resource object) &&
    capability.lease.any fun lease => lease.is_expired now_turn

def object_action_allowed (capabilities : List Capability) (action : String) (object : ObjectDescriptor) (now_turn : Nat) : Bool :=
  capabilities.any fun capability => capability.live now_turn && decide (action ∈ capability.actions) &&
    resource_matches capability.resource (object_resource object)

def lease_attenuates (child parent : Capability) : Bool :=
  match child.lease.bind Lease.expires_at_turn,parent.lease.bind Lease.expires_at_turn with
  | _,none => true
  | some child,some parent => decide (child ≤ parent)
  | none,some _ => false

/-- Whatever a message hands on narrows what its sender may hand on, and what its receiver holds. -/
def delegation_is_attenuated (delegated sender receiver : List Capability) (now_turn : Nat) : Bool :=
  delegated.all fun requested => requested.live now_turn &&
    (sender.any fun parent => parent.delegatable && parent.live now_turn && is_attenuation_of requested parent &&
    lease_attenuates requested parent) &&
    (receiver.any fun parent => parent.live now_turn && is_attenuation_of requested parent && lease_attenuates requested parent)

namespace CrossOperationRouter

def new (max_pending_per_recipient : Nat) : CrossOperationRouter := ⟨max_pending_per_recipient,∅,∅,∅,∅⟩

variable (router : CrossOperationRouter)

/-- Put a registration down; whether the address was new. -/
def register (registration : OperationRegistration) : Bool × CrossOperationRouter :=
  (!router.operations.contains registration.address,
    { router with operations := router.operations.insert registration.address registration })

variable (receiver : OperationAddress)

def pending_for : Nat :=
  ((values router.deliveries).filter fun delivery => decide (delivery.message.to = receiver) && delivery.state.is_pending).length

def has_in_flight_for : Bool :=
  (values router.deliveries).any fun delivery => decide (delivery.message.to = receiver) && delivery.state == .InFlight

/-- Why the authority, the payload or the lifetime of a message is refused. -/
def refusal (source receiver : OperationRegistration) (message : CrossOperationMessage) (now_turn : Nat)
    (payload_availability : PayloadAvailability) : Option DeliveryFailure :=
  if source.cancelled || receiver.cancelled then some .Cancelled
  else if message.object.owner ≠ message.from.task_id then some .SourceDoesNotOwnObject
  else if ¬ valid_payload_locator message.object message.payload then some .InvalidPayloadLocator
  else if payload_availability = .Unavailable then some .PayloadUnavailable
  else if expired message.sent_at_turn message.ttl_turns now_turn then some .ExpiredTtl
  else if (matching_expired_lease source.capabilities "share" message.object now_turn &&
      !object_action_allowed source.capabilities "share" message.object now_turn) ||
      (matching_expired_lease receiver.capabilities "read" message.object now_turn &&
        !object_action_allowed receiver.capabilities "read" message.object now_turn) then some .ExpiredCapabilityLease
  else if ¬ object_action_allowed source.capabilities "share" message.object now_turn then some .SenderPermissionDenied
  else if ¬ object_action_allowed receiver.capabilities "read" message.object now_turn then some .ReceiverPermissionDenied
  else if ¬ delegation_is_attenuated message.delegated_capabilities source.capabilities receiver.capabilities now_turn then
    some .CapabilityAttenuationDenied
  else none

def queue_of : List String := router.queues[receiver]?.getD []

def route (message : CrossOperationMessage) (now_turn : Nat) (payload_availability : PayloadAvailability) :
    RouteOutcome × CrossOperationRouter :=
  match router.deliveries[message.id]? with
  | some existing =>
    (if existing.message = message then .Duplicate existing.state else .Rejected .ConflictingDuplicate,router)
  | none =>
    match router.operations[message.from]?,router.operations[message.to]? with
    | some source,some receiver =>
      match refusal source receiver message now_turn payload_availability with
      | some failure => (.Rejected failure,router)
      | none =>
        if router.last_sequences[message.to]?.any fun last => decide (message.sequence ≤ last) then (.Rejected .OutOfOrder,router)
        else if router.max_pending_per_recipient ≤ router.pending_for message.to then (.Rejected .Backpressure,router)
        else (.Accepted .Queued,{ router with
          last_sequences := router.last_sequences.insert message.to message.sequence
          queues := router.queues.insert message.to (router.queue_of message.to ++ [message.id])
          deliveries := router.deliveries.insert message.id ⟨message,.Queued,0⟩ })
    | _,_ => (.Rejected .UnknownOperation,router)

/-- Whether an address cannot be sent to: it is not registered, or cancelled. -/
def closed : Bool :=
  router.operations[receiver]?.all OperationRegistration.cancelled

/-- Pop the queue of a receiver until a delivery goes out. -/
def pop_next (receiver : OperationAddress) (now_turn : Nat) : List String → CrossOperationRouter →
    Option CrossOperationMessage × CrossOperationRouter
  | [],router => (none,router)
  | id :: rest,router =>
    let router := { router with queues := router.queues.insert receiver rest }
    match router.deliveries[id]? with
    | none => (none,router)
    | some delivery =>
      if delivery.state ≠ .Queued then pop_next receiver now_turn rest router
      else if expired delivery.message.sent_at_turn delivery.message.ttl_turns now_turn then
        pop_next receiver now_turn rest { router with deliveries := router.deliveries.insert id { delivery with state := .Expired } }
      else (some delivery.message,{ router with
        deliveries := router.deliveries.insert id { delivery with state := .InFlight, attempts := min (delivery.attempts+1) u32Max } })

/-- The next delivery of a receiver, once all earlier ones are settled. -/
def dispatch_next (now_turn : Nat) :
    Option CrossOperationMessage × CrossOperationRouter :=
  if router.closed receiver || router.has_in_flight_for receiver then (none,router)
  else match router.queues[receiver]? with
    | none => (none,router)
    | some queue => pop_next receiver now_turn queue router

def settle (message_id : String) (settlement : DeliverySettlement) (now_turn : Nat) :
    Option DeliveryState × CrossOperationRouter :=
  match router.deliveries[message_id]? with
  | none => (none,router)
  | some delivery =>
    if delivery.state ≠ .InFlight then (some delivery.state,router)
    else
      let to_state := fun (router : CrossOperationRouter) state =>
        (some state,{ router with deliveries := router.deliveries.insert message_id { delivery with state } })
      match settlement with
      | .Delivered => to_state router .Delivered
      | .PermanentFailure => to_state router .Failed
      | .RetryableFailure =>
        let receiver := delivery.message.to
        if expired delivery.message.sent_at_turn delivery.message.ttl_turns now_turn || router.closed receiver then
          if router.operations[receiver]?.any OperationRegistration.cancelled then to_state router .Cancelled else to_state router .Expired
        else to_state { router with queues := router.queues.insert receiver (message_id :: router.queue_of receiver) } .Queued

def touches (message : CrossOperationMessage) (address : OperationAddress) : Bool :=
  decide (message.from = address) || decide (message.to = address)

/-- A pending delivery from or to a cancelled operation is cancelled with it. -/
def cancel_delivery (address : OperationAddress) (delivery : DurableDelivery) : DurableDelivery :=
  if touches delivery.message address && delivery.state.is_pending then { delivery with state := .Cancelled } else delivery

def cancel_operation (address : OperationAddress) : Nat × CrossOperationRouter :=
  match router.operations[address]? with
  | none => (0,router)
  | some operation =>
    let deliveries := router.deliveries.map fun _ delivery => cancel_delivery address delivery
    (((values router.deliveries).filter fun delivery => touches delivery.message address && delivery.state.is_pending).length,
      { router with
        operations := router.operations.insert address { operation with cancelled := true }
        deliveries
        queues := router.queues.map fun _ queue => queue.filter fun id =>
          deliveries[id]?.any fun delivery => delivery.state == .Queued })

def snapshot : CrossOperationRouterSnapshot where
  max_pending_per_recipient := router.max_pending_per_recipient
  operations := values router.operations
  deliveries := values router.deliveries
  queues := router.queues.toList.map fun (receiver,message_ids) => ⟨receiver,message_ids⟩
  last_sequences := router.last_sequences.toList.map fun (receiver,last_sequence) => ⟨receiver,last_sequence⟩

def restore_operations : List OperationRegistration → CrossOperationRouter → Except SnapshotError CrossOperationRouter
  | [],router => .ok router
  | operation :: rest,router =>
    match router.register operation with
    | (true,router) => restore_operations rest router
    | (false,_) => .error (.DuplicateOperation operation.address)

/-- A snapshot cannot hold the host's acknowledgement: what was in flight goes out again. -/
def requeued (delivery : DurableDelivery) : DurableDelivery :=
  if delivery.state = .InFlight then { delivery with state := .Queued } else delivery

def restore_deliveries : List DurableDelivery → CrossOperationRouter → Except SnapshotError CrossOperationRouter
  | [],router => .ok router
  | delivery :: rest,router =>
    let id := delivery.message.id
    if router.deliveries.contains id then .error (.DuplicateDelivery id)
    else if ¬ router.operations.contains delivery.message.from ∨ ¬ router.operations.contains delivery.message.to then
      .error (.DeliveryForUnknownOperation id)
    else restore_deliveries rest { router with deliveries := router.deliveries.insert id (requeued delivery) }

/-- The ids of a queue are distinct queued deliveries of its receiver, in the order of their sequences. -/
def check_queue (router : CrossOperationRouter) (receiver : OperationAddress) :
    List String → List String → Option Nat → Except SnapshotError Unit
  | [],_,_ => .ok ()
  | id :: rest,seen,last_sequence =>
    if id ∈ seen then .error (.DuplicateQueuedDelivery id)
    else match router.deliveries[id]? with
      | none => .error (.UnknownQueuedDelivery id)
      | some delivery =>
        if delivery.message.to ≠ receiver then .error (.QueuedDeliveryForWrongReceiver id)
        else if delivery.state ≠ .Queued then .error (.NonQueuedDelivery id)
        else if last_sequence.any fun last => decide (delivery.message.sequence ≤ last) then .error (.OutOfOrderQueue id)
        else check_queue router receiver rest (id :: seen) (some delivery.message.sequence)

def restore_queues : List ReceiverQueueSnapshot → CrossOperationRouter → Except SnapshotError CrossOperationRouter
  | [],router => .ok router
  | queue :: rest,router =>
    if router.queues.contains queue.receiver then .error (.DuplicateQueue queue.receiver)
    else do
      check_queue router queue.receiver queue.message_ids [] none
      restore_queues rest { router with queues := router.queues.insert queue.receiver queue.message_ids }

/-- The queued deliveries that stand in no queue, in the order of their sequences. -/
def replay_ids : List (OperationAddress × String × Nat) :=
  (((values router.deliveries).filter fun delivery =>
  delivery.state == .Queued && !(router.queue_of delivery.message.to).contains delivery.message.id).map
    fun delivery => (delivery.message.to,delivery.message.id,delivery.message.sequence)).insertionSort
    fun left right => left.2.2 ≤ right.2.2

def replay (entry : OperationAddress × String × Nat) : CrossOperationRouter :=
  { router with queues := router.queues.insert entry.1 (entry.2.1 :: router.queue_of entry.1) }

def restore_sequences : List ReceiverSequenceSnapshot → CrossOperationRouter → Except SnapshotError CrossOperationRouter
  | [],router => .ok router
  | sequence :: rest,router =>
    if ¬ router.operations.contains sequence.receiver then .error (.SequenceForUnknownOperation sequence.receiver)
    else if router.last_sequences.contains sequence.receiver then .error (.DuplicateSequence sequence.receiver)
    else restore_sequences rest { router with last_sequences := router.last_sequences.insert sequence.receiver sequence.last_sequence }

/-- The watermark of a receiver is at least the sequence of what it was sent. -/
def raise_watermark (delivery : DurableDelivery) : CrossOperationRouter :=
  let receiver := delivery.message.to
  { router with last_sequences :=
  router.last_sequences.insert receiver (max (router.last_sequences[receiver]?.getD 0) delivery.message.sequence) }

def from_snapshot (snapshot : CrossOperationRouterSnapshot) : Except SnapshotError CrossOperationRouter := do
  let router ← restore_operations snapshot.operations (new snapshot.max_pending_per_recipient)
  let router ← restore_deliveries snapshot.deliveries router
  let router ← restore_queues snapshot.queues router
  let router := router.replay_ids.reverse.foldl replay router
  let router ← restore_sequences snapshot.last_sequences router
  .ok ((values router.deliveries).foldl raise_watermark router)

end CrossOperationRouter

end Deepstrike.CrossOperation

import Deepstrike.Dispatching

/-!
What goes out over a run of the router: the messages to a receiver in the order of their sequences,
a retry before all that came later, and nothing from or to a cancelled operation.
-/
namespace Deepstrike.CrossOperation
open Std Capabilities Option

namespace CrossOperationRouter

/-- Of two messages to one receiver the later dispatch is a retry, or has the larger sequence. -/
def InOrder (earlier later : CrossOperationMessage) : Prop := later.to = earlier.to → later = earlier ∨ earlier.sequence < later.sequence

/-- What has gone out is known, and whatever else is pending for its receiver comes behind it. -/
def Ahead (log : List CrossOperationMessage) (router : CrossOperationRouter) : Prop :=
  ∀ message ∈ log, router.message_of message.id = some message ∧
    ∀ id' message', router.Pending id' → router.message_of id' = some message' → InOrder message message'

section
variable {before router : CrossOperationRouter}

theorem Valid.dispatched (valid : Valid before) (op : Op) : ∀ message ∈ before.dispatched op,
    before.Pending message.id ∧ before.message_of message.id = some message ∧
    (before.step op).state_of message.id = some .InFlight := by
  intro message member
  cases op with
  | dispatch_next receiver now_turn =>
    have dispatches := valid.dispatch_next receiver now_turn
    obtain ⟨_,named,flies⟩ := dispatches.out message (mem_toList.mp member)
    exact ⟨dispatches.kept.pending _ (.inr flies),(dispatches.kept.messages _).symm.trans named,flies⟩
  | register | route | settle | cancel_operation => cases member

private theorem dispatched_pairwise (router : CrossOperationRouter) (op : Op) : (router.dispatched op).Pairwise InOrder := by
  cases op with
  | dispatch_next receiver now_turn =>
    show (router.dispatch_next receiver now_turn).1.toList.Pairwise InOrder
    cases (router.dispatch_next receiver now_turn).1 with
    | none => exact List.Pairwise.nil
    | some message => exact List.pairwise_singleton InOrder message
  | register | route | settle | cancel_operation => exact List.Pairwise.nil

/-- After each operation what has gone out is ahead of what is pending. -/
theorem Ahead.step {log : List CrossOperationMessage} (ahead : Ahead log before) (valid : Valid before) (op : Op) :
    Ahead (log ++ before.dispatched op) (before.step op) := by
  have moves := valid.moves op
  intro message member
  obtain gone | goes := List.mem_append.mp member
  · obtain ⟨named,behind⟩ := ahead message gone
    refine ⟨moves.messages _ _ named,fun id' message' pending held sent => ?_⟩
    obtain ⟨older,known⟩ | newer := moves.pending id' message' pending held
    · exact behind id' message' older known sent
    · exact .inr (newer _ message named sent.symm)
  obtain ⟨_,named,flies⟩ := valid.dispatched op message goes
  have named := moves.messages _ _ named
  refine ⟨named,fun id' message' pending held sent => ?_⟩
  obtain rfl | later := (valid.step op).in_front _ message id' message' flies named pending held sent
  · rw [named] at held
    exact .inl (some.inj held).symm
  · exact .inr later

private theorem Ahead.pairwise {log : List CrossOperationMessage} (ahead : Ahead log before) (valid : Valid before) (op : Op)
    (ordered : log.Pairwise InOrder) : (log ++ before.dispatched op).Pairwise InOrder := by
  refine List.pairwise_append.mpr ⟨ordered,dispatched_pairwise before op,fun earlier gone later goes => ?_⟩
  obtain ⟨pending,named,_⟩ := valid.dispatched op later goes
  exact (ahead earlier gone).2 later.id later pending named

variable (ops : List Op)

private theorem dispatches_in_order : ∀ (router : CrossOperationRouter) (log : List CrossOperationMessage),
    Valid router → Ahead log router → log.Pairwise InOrder → (log ++ dispatches ops router).Pairwise InOrder := by
  induction ops with
  | nil =>
    intro router log _ _ ordered
    exact (List.append_nil log).symm ▸ ordered
  | cons op rest ih =>
  intro router log valid ahead ordered
  have later := ih (router.step op) (log ++ router.dispatched op) (valid.step op) (ahead.step valid op) (ahead.pairwise valid op ordered)
  rwa [List.append_assoc] at later

private theorem run_max : ∀ {router : CrossOperationRouter}, Valid router →
    (run ops router).max_pending_per_recipient = router.max_pending_per_recipient := by
  induction ops with
  | nil => exact fun _ => rfl
  | cons op rest ih => exact fun valid => (ih (valid.step op)).trans (valid.moves op).max_pending

private theorem Valid.final_run : ∀ {router : CrossOperationRouter}, Valid router → Final router (CrossOperationRouter.run ops router) := by
  induction ops with
  | nil => exact fun _ _ _ held _ => held
  | cons op rest ih =>
  intro router valid id delivery held ended
  exact ih (valid.step op) id delivery ((valid.moves op).final id delivery held ended) ended

/-! A cancelled operation. -/

/-- A call that puts down a registration of an address that is not cancelled. -/
def Op.Reopens (address : OperationAddress) : Op → Prop
  | .register registration => registration.address = address ∧ registration.cancelled = false
  | .route .. | .dispatch_next .. | .settle .. | .cancel_operation .. => False

/-- An address nothing can be sent from or to, and nothing is pending from or to. -/
structure Severed (address : OperationAddress) (router : CrossOperationRouter) : Prop where
  closed : router.closed address = true
  idle : ∀ id message, router.message_of id = some message → touches message address = true → ¬ router.Pending id

variable {address : OperationAddress} {message : CrossOperationMessage}

theorem Severed.kept {after : CrossOperationRouter} (severed : Severed address before) (kept : Kept before after) :
    Severed address after :=
  ⟨kept.closed address severed.closed,fun id message held touching pending =>
    severed.idle id message (kept.messages id ▸ held) touching (kept.pending id pending)⟩

private theorem closed_of_cancelled {operation : OperationRegistration} (shut : router.closed address = true)
    (known : router.operations[address]? = some operation) : operation.cancelled = true := by
  unfold closed at shut
  rw [known] at shut
  exact shut

private theorem Severed.refuses (severed : Severed address router)
    (touching : touches message address = true) (now_turn : Nat) (payload_availability : PayloadAvailability) :
    (router.route message now_turn payload_availability).2 = router ∧
      ∀ state, (router.route message now_turn payload_availability).1 ≠ .Accepted state := by
  refine (route_cases router message now_turn payload_availability).resolve_right ?_
  rintro ⟨_,⟨source,receiver,known_source,known_receiver,active_source,active_receiver⟩,_⟩
  obtain sends | receives := Bool.or_eq_true _ _ ▸ touching
  · rw [of_decide_eq_true sends] at known_source
    rw [closed_of_cancelled severed.closed known_source] at active_source
    cases active_source
  · rw [of_decide_eq_true receives] at known_receiver
    rw [closed_of_cancelled severed.closed known_receiver] at active_receiver
    cases active_receiver

/-- An operation that is cut off stays cut off. -/
theorem Severed.step {address : OperationAddress} (severed : Severed address before) (valid : Valid before) {op : Op}
    (stays : ¬ op.Reopens address) : Severed address (before.step op) := by
  cases op with
  | register registration =>
    refine ⟨closed_insert rfl severed.closed ?_,severed.idle⟩
    by_cases same : registration.address = address
    · exact .inl (Bool.eq_true_of_not_eq_false fun active => stays ⟨same,active⟩)
    · exact .inr same
  | route message now_turn payload_availability =>
    show Severed address (before.route message now_turn payload_availability).2
    by_cases touching : touches message address = true
    · rw [(severed.refuses touching now_turn payload_availability).1]
      exact severed
    obtain ⟨same,_⟩ | ⟨_,_,_,_,accepted⟩ := route_cases before message now_turn payload_availability
    · rw [same]
      exact severed
    rw [accepted]
    refine ⟨severed.closed,fun id other held touching_other pending => ?_⟩
    unfold Pending at pending
    rw [accepting_state_of] at pending
    rw [accepting_message_of] at held
    split at held
    next =>
      cases held
      exact touching touching_other
    next different =>
    rw [if_neg different] at pending
    exact severed.idle id other held touching_other pending
  | dispatch_next receiver now_turn => exact severed.kept (valid.dispatch_next receiver now_turn).kept
  | settle message_id settlement now_turn => exact severed.kept (valid.settle message_id settlement now_turn).2.1
  | cancel_operation other => exact severed.kept (valid.cancel_operation other).2.1

theorem Severed.run : ∀ {router : CrossOperationRouter}, Valid router → Severed address router →
    (∀ op ∈ ops, ¬ op.Reopens address) → Severed address (run ops router) := by
  induction ops with
  | nil => exact fun _ severed _ => severed
  | cons op rest ih =>
  intro router valid severed stays
  exact ih (valid.step op) (severed.step valid (stays op List.mem_cons_self)) fun other member => stays other (List.mem_cons_of_mem op member)

theorem Valid.severed (valid : Valid router) (address : OperationAddress) :
    Severed address (router.cancel_operation address).2 := by
  rw [cancel_operation_eq]
  split
  next unknown =>
    refine ⟨?_,fun id message held touching => ?_⟩
    · unfold closed
      rw [unknown]
      rfl
    obtain ⟨sender,receiver⟩ := valid.registered id message held
    obtain sends | receives := Bool.or_eq_true _ _ ▸ touching
    · rw [of_decide_eq_true sends,ExtTreeMap.mem_iff_isSome_getElem?,unknown] at sender
      cases sender
    · rw [of_decide_eq_true receives,ExtTreeMap.mem_iff_isSome_getElem?,unknown] at receiver
      cases receiver
  next operation known =>
  refine ⟨?_,fun id message held touching pending => ?_⟩
  · unfold closed CrossOperationRouter.cancelling
    dsimp only
    rw [ExtTreeMap.getElem?_insert_self]
    rfl
  rw [cancelling_message_of] at held
  have apart : touches message address = false := by
    obtain waits | flies := pending
    · exact (cancelling_state_of rfl waits).2 message held
    · exact (cancelling_state_of rfl flies).2 message held
  rw [apart] at touching
  cases touching

private theorem Severed.dispatches_none (severed : Severed address router) (valid : Valid router) {receiver : OperationAddress}
    {now_turn : Nat} (goes : (router.dispatch_next receiver now_turn).1 = some message) :
    touches message address = false := by
  obtain ⟨pending,named,_⟩ := valid.dispatched (.dispatch_next receiver now_turn) message (mem_toList.mpr goes)
  exact Bool.eq_false_iff.mpr fun touching => severed.idle _ message named touching pending

end

/-! What holds of every run. -/

theorem Valid.queue_nodup {router : CrossOperationRouter} (valid : Valid router) (receiver : OperationAddress) :
    (router.queue_of receiver).Nodup := by
  refine (valid.ordered receiver).imp_of_mem fun {id id'} member _ ordered same => ?_
  obtain ⟨_,message,named,_⟩ := valid.queued receiver id member
  exact Nat.lt_irrefl _ (ordered message message named (same ▸ named))

/-- What waits for a receiver is a delivery addressed to it. -/
theorem Valid.mem_queue_of {router : CrossOperationRouter} (valid : Valid router) (receiver : OperationAddress)
    (id : String) :
    id ∈ router.queue_of receiver ↔
      ∃ delivery : DurableDelivery, router.deliveries[id]? = some delivery ∧ delivery.message.to = receiver ∧
      delivery.state = .Queued := by
  constructor
  · intro member
    obtain ⟨waits,message,named,sent⟩ := valid.queued receiver id member
    obtain ⟨delivery,held,rfl⟩ := message_of_eq named
    refine ⟨delivery,held,sent,?_⟩
    unfold state_of at waits
    rw [held] at waits
    exact some.inj waits
  rintro ⟨delivery,held,rfl,waits⟩
  refine valid.listed id delivery.message ?_ ?_
  · unfold message_of
    rw [held]
    rfl
  · unfold state_of
    rw [held,map_some,waits]

/-- A receiver has one delivery in flight at most. -/
theorem Valid.one_in_flight {router : CrossOperationRouter} (valid : Valid router) {id id' : String}
    {delivery delivery' : DurableDelivery}
    (held : router.deliveries[id]? = some delivery) (held' : router.deliveries[id']? = some delivery')
    (out : delivery.state = .InFlight)
    (out' : delivery'.state = .InFlight) (same : delivery.message.to = delivery'.message.to) : id = id' := by
  have named : router.message_of id = some delivery.message ∧ router.state_of id = some .InFlight := by
    unfold message_of state_of
    rw [held,map_some,map_some,out]
    exact ⟨rfl,rfl⟩
  have named' : router.message_of id' = some delivery'.message ∧ router.state_of id' = some .InFlight := by
    unfold message_of state_of
    rw [held',map_some,map_some,out']
    exact ⟨rfl,rfl⟩
  obtain equal | before := valid.in_front id _ id' _ named.2 named.1 (.inr named'.2) named'.1 same.symm
  · exact equal.symm
  · obtain equal | after := valid.in_front id' _ id _ named'.2 named'.1 (.inr named.2) named.1 same
    · exact equal
    · omega

private theorem Severed.terminal {address : OperationAddress} {router : CrossOperationRouter} (severed : Severed address router) {id : String}
    {delivery : DurableDelivery} (held : router.deliveries[id]? = some delivery) (touching : touches delivery.message address = true) :
    delivery.state.is_terminal = true := by
  have named : router.message_of id = some delivery.message := by
    unfold message_of
    rw [held]
    rfl
  have idle := severed.idle id delivery.message named touching
  unfold Pending state_of at idle
  rw [held,map_some] at idle
  cases state : delivery.state with
  | Queued => exact (idle (.inl (congrArg some state))).elim
  | InFlight => exact (idle (.inr (congrArg some state))).elim
  | Delivered | Failed | Expired | Cancelled => rfl

/-- Whatever is called in whatever order: what goes out goes in order, one at a time for a receiver; what
is settled stays settled; each queue holds the queued deliveries of its receiver, once each; no receiver
has more pending than the bound; and a cancelled operation is cut off for as long as nobody registers it
again, with what was pending then cancelled for good. -/
theorem routed_safely (max_pending_per_recipient : Nat) (ops : List Op) :
    (dispatches ops (new max_pending_per_recipient)).Pairwise InOrder ∧
    (∀ (id id' : String) (delivery delivery' : DurableDelivery),
    (run ops (new max_pending_per_recipient)).deliveries[id]? = some delivery →
      (run ops (new max_pending_per_recipient)).deliveries[id']? = some delivery' → delivery.state = .InFlight →
      delivery'.state = .InFlight →
      delivery.message.to = delivery'.message.to → id = id') ∧
    (∀ (more : List Op) (id : String) (delivery : DurableDelivery),
      (run ops (new max_pending_per_recipient)).deliveries[id]? = some delivery → delivery.state.is_terminal = true →
      (run (ops ++ more) (new max_pending_per_recipient)).deliveries[id]? = some delivery) ∧
    (∀ receiver, ((run ops (new max_pending_per_recipient)).queue_of receiver).Nodup ∧
      ∀ id, id ∈ (run ops (new max_pending_per_recipient)).queue_of receiver ↔
        ∃ delivery : DurableDelivery, (run ops (new max_pending_per_recipient)).deliveries[id]? = some delivery ∧
        delivery.message.to = receiver ∧
          delivery.state = .Queued) ∧
    (∀ receiver, (run ops (new max_pending_per_recipient)).pending_for receiver ≤ max_pending_per_recipient) ∧
    ∀ address,
      (∀ (id : String) (delivery : DurableDelivery),
      (run (ops ++ [.cancel_operation address]) (new max_pending_per_recipient)).deliveries[id]? = some delivery →
        touches delivery.message address = true → delivery.state.is_terminal = true) ∧
      ∀ more, (∀ op ∈ more, ¬ op.Reopens address) →
        (∀ message now_turn payload_availability state, touches message address = true →
          ((run (ops ++ .cancel_operation address :: more) (new max_pending_per_recipient)).route message now_turn
          payload_availability).1 ≠
            .Accepted state) ∧
        ∀ receiver now_turn message,
          ((run (ops ++ .cancel_operation address :: more) (new max_pending_per_recipient)).dispatch_next receiver
          now_turn).1 = some message →
          touches message address = false := by
  have valid := (new_valid max_pending_per_recipient).run ops
  refine ⟨?_,fun id id' delivery delivery' held held' out out' same => valid.one_in_flight held held' out out' same,
    fun more id delivery held ended => ?_,fun receiver => ⟨valid.queue_nodup receiver,valid.mem_queue_of receiver⟩,fun receiver => ?_,
    fun address => ⟨fun id delivery held touching => ?_,fun more stays => ?_⟩⟩
  · exact dispatches_in_order ops _ [] (new_valid _) nofun List.Pairwise.nil
  · rw [run_append]
    exact valid.final_run more id delivery held ended
  · exact (valid.bounded receiver).trans_eq (run_max ops (new_valid _))
  · rw [run_append] at held
    exact (valid.severed address).terminal held touching
  rw [run_append]
  have valid_after := (valid.step (.cancel_operation address)).run more
  have severed := Severed.run more (valid.step (.cancel_operation address)) (valid.severed address) stays
  exact ⟨fun message now_turn payload_availability state touching => (severed.refuses touching now_turn payload_availability).2 state,
    fun receiver now_turn message goes => severed.dispatches_none valid_after goes⟩

/-! A receiver that is cancelled and registered again. -/

def source : OperationAddress := ⟨"operation-a","source"⟩
def sink : OperationAddress := ⟨"operation-b","sink"⟩

def object_route : Capability := ⟨"object-route",.Tool,⟨"object:source/7"⟩,{"share","read"},∅,none,true,"kernel-test"⟩

/-- A message of the source to the sink. -/
def artifact : CrossOperationMessage where
  id := "message-1"
  «from» := source
  «to» := sink
  kind := "artifact"
  object := ⟨7,.Artifact,"source","sha256:abc",9,.External "host://payload/7" "sha256:abc" 9,some "host://payload/7",1,some "preview"⟩
  payload := ⟨"host://payload/7","sha256:abc",9⟩
  sequence := 1
  sent_at_turn := 5
  ttl_turns := 20
  delegated_capabilities := []

/-- The new registration replaces the record of the cancellation: the message is accepted and goes out. -/
theorem sent_to_cancelled :
    dispatches [.register ⟨source,[object_route],false⟩,.register ⟨sink,[object_route],false⟩,.cancel_operation sink,
      .register ⟨sink,[object_route],false⟩,.route artifact 5 .Available,.dispatch_next sink 6] (new 8) = [artifact] ∧
    touches artifact sink = true := by decide +kernel

end CrossOperationRouter

end Deepstrike.CrossOperation

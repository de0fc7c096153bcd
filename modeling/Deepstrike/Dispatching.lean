import Mathlib.Data.Finset.Card
import Deepstrike.CrossOperation

/-!
What the router keeps over any run: a delivery is queued in one place, one delivery of a receiver is
out at a time and goes before all that came later, and what has been settled stays settled.
-/
namespace Deepstrike.CrossOperation
open Std OrderedMaps List LawfulEqCmp

namespace CrossOperationRouter

def message_of (router : CrossOperationRouter) (id : String) : Option CrossOperationMessage :=
  router.deliveries[id]?.map DurableDelivery.message
def state_of (router : CrossOperationRouter) (id : String) : Option DeliveryState := router.deliveries[id]?.map DurableDelivery.state

/-- The delivery of an id is still to be settled. -/
def Pending (router : CrossOperationRouter) (id : String) : Prop := router.state_of id = some .Queued ∨ router.state_of id = some .InFlight

/-- The calls on a router. -/
inductive Op where
  | register (registration : OperationRegistration)
  | route (message : CrossOperationMessage) (now_turn : Nat) (payload_availability : PayloadAvailability)
  | dispatch_next (receiver : OperationAddress) (now_turn : Nat)
  | settle (message_id : String) (settlement : DeliverySettlement) (now_turn : Nat)
  | cancel_operation (address : OperationAddress)

def step (router : CrossOperationRouter) : Op → CrossOperationRouter
  | .register registration => (router.register registration).2
  | .route message now_turn payload_availability => (router.route message now_turn payload_availability).2
  | .dispatch_next receiver now_turn => (router.dispatch_next receiver now_turn).2
  | .settle message_id settlement now_turn => (router.settle message_id settlement now_turn).2
  | .cancel_operation address => (router.cancel_operation address).2

def run (ops : List Op) (router : CrossOperationRouter) : CrossOperationRouter := ops.foldl step router

/-- What a call hands to the transport. -/
def dispatched (router : CrossOperationRouter) : Op → List CrossOperationMessage
  | .dispatch_next receiver now_turn => (router.dispatch_next receiver now_turn).1.toList
  | _ => []

/-- What a run hands to the transport, in order. -/
def dispatches : List Op → CrossOperationRouter → List CrossOperationMessage
  | [],_ => []
  | op :: rest,router => router.dispatched op ++ dispatches rest (router.step op)

/-- The queues and the deliveries agree. -/
structure Valid (router : CrossOperationRouter) : Prop where
  operations_keyed : KeyedBy OperationRegistration.address router.operations
  keyed : KeyedBy (fun delivery : DurableDelivery => delivery.message.id) router.deliveries
  registered : ∀ id message, router.message_of id = some message → message.from ∈ router.operations ∧ message.to ∈ router.operations
  opened : ∀ id message, router.message_of id = some message → message.to ∈ router.queues
  watermark : ∀ id message, router.message_of id = some message →
    ∃ last, router.last_sequences[message.to]? = some last ∧ message.sequence ≤ last
  sequenced : ∀ receiver, receiver ∈ router.last_sequences → receiver ∈ router.operations
  distinct : ∀ id message id' message', router.message_of id = some message → router.message_of id' = some message' →
    message.to = message'.to → message.sequence = message'.sequence → id = id'
  queued : ∀ receiver, ∀ id ∈ router.queue_of receiver, router.state_of id = some .Queued ∧
    ∃ message, router.message_of id = some message ∧ message.to = receiver
  listed : ∀ id message, router.message_of id = some message → router.state_of id = some .Queued → id ∈ router.queue_of message.to
  ordered : ∀ receiver, (router.queue_of receiver).Pairwise fun id id' => ∀ message message',
    router.message_of id = some message → router.message_of id' = some message' → message.sequence < message'.sequence
  in_front : ∀ id message id' message', router.state_of id = some .InFlight → router.message_of id = some message →
    router.Pending id' → router.message_of id' = some message' → message'.to = message.to → id' = id ∨ message.sequence < message'.sequence
  bounded : ∀ receiver, router.pending_for receiver ≤ router.max_pending_per_recipient

section
variable {before after router : CrossOperationRouter}

variable {id : String} {message : CrossOperationMessage} {state : DeliveryState} {receiver address : OperationAddress} {delivery : DurableDelivery}
variable {attempts : Nat} {queue : List String} {operation : OperationRegistration}

theorem message_of_eq (held : router.message_of id = some message) :
    ∃ delivery, router.deliveries[id]? = some delivery ∧ delivery.message = message := Option.map_eq_some_iff.mp held

theorem state_of_eq (held : router.state_of id = some state) :
    ∃ delivery, router.deliveries[id]? = some delivery ∧ delivery.state = state := Option.map_eq_some_iff.mp held

/-- The deliveries of a receiver still to be settled. -/
def pendingIds (router : CrossOperationRouter) (receiver : OperationAddress) : Finset String :=
  (((values router.deliveries).filter fun delivery => decide (delivery.message.to = receiver) && delivery.state.is_pending).map
    fun delivery => delivery.message.id).toFinset

theorem pendingIds_card (keyed : KeyedBy (fun delivery : DurableDelivery => delivery.message.id) router.deliveries)
    (receiver : OperationAddress) :
    (router.pendingIds receiver).card = router.pending_for receiver := by
  unfold pendingIds pending_for
  rw [toFinset_card_of_nodup,length_map]
  exact keyed.nodup.sublist (filter_sublist.map _)

theorem mem_pendingIds (keyed : KeyedBy (fun delivery : DurableDelivery => delivery.message.id) router.deliveries) :
    id ∈ router.pendingIds receiver ↔
      ∃ message, router.message_of id = some message ∧ message.to = receiver ∧ router.Pending id := by
  unfold pendingIds
  simp only [mem_toFinset,mem_map,mem_filter,Bool.and_eq_true,decide_eq_true_eq,mem_values]
  constructor
  · rintro ⟨delivery,⟨⟨name,held⟩,sent,pending⟩,rfl⟩
    have named := keyed name delivery held
    dsimp only at named
    subst named
    refine ⟨delivery.message,by unfold message_of; rw [held]; rfl,sent,?_⟩
    unfold Pending state_of
    rw [held]
    cases state : delivery.state with
    | Queued => exact .inl (by simp [state])
    | InFlight => exact .inr (by simp [state])
    | Delivered | Failed | Expired | Cancelled =>
    rw [state] at pending
    cases pending
  rintro ⟨message,held,sent,pending⟩
  obtain ⟨delivery,found,rfl⟩ := message_of_eq held
  refine ⟨delivery,⟨⟨id,found⟩,sent,?_⟩,keyed id delivery found⟩
  unfold Pending state_of at pending
  rw [found] at pending
  obtain same | same := pending
  · rw [Option.some.inj same]
    rfl
  · rw [Option.some.inj same]
    rfl

private theorem has_in_flight_for_iff (router : CrossOperationRouter) (receiver : OperationAddress) : router.has_in_flight_for receiver = true ↔
    ∃ id message, router.message_of id = some message ∧ message.to = receiver ∧ router.state_of id = some .InFlight := by
  unfold has_in_flight_for
  simp only [any_eq_true,Bool.and_eq_true,decide_eq_true_eq,beq_iff_eq,mem_values]
  constructor
  · rintro ⟨delivery,⟨id,held⟩,sent,out⟩
    refine ⟨id,delivery.message,?_,sent,?_⟩
    · unfold message_of
      rw [held]
      rfl
    · unfold state_of
      rw [held,Option.map_some,out]
  rintro ⟨id,message,named,sent,out⟩
  obtain ⟨delivery,held,rfl⟩ := message_of_eq named
  refine ⟨delivery,⟨id,held⟩,sent,?_⟩
  unfold state_of at out
  rw [held] at out
  exact Option.some.inj out

/-- A call that leaves the messages and the registrations as they are. -/
structure Kept (before after : CrossOperationRouter) : Prop where
  max_pending : after.max_pending_per_recipient = before.max_pending_per_recipient
  operations_keyed : KeyedBy OperationRegistration.address before.operations → KeyedBy OperationRegistration.address after.operations
  operations : ∀ address, address ∈ after.operations ↔ address ∈ before.operations
  closed : ∀ address, before.closed address = true → after.closed address = true
  opened : ∀ receiver, receiver ∈ before.queues → receiver ∈ after.queues
  last_sequences : after.last_sequences = before.last_sequences
  messages : ∀ id, after.message_of id = before.message_of id
  pending : ∀ id, after.Pending id → before.Pending id

theorem Kept.keyed (kept : Kept before after)
    (keyed : KeyedBy (fun delivery : DurableDelivery => delivery.message.id) before.deliveries) :
    KeyedBy (fun delivery : DurableDelivery => delivery.message.id) after.deliveries := by
  intro id delivery held
  have same := kept.messages id
  unfold message_of at same
  rw [held] at same
  obtain ⟨older,found,message⟩ := Option.map_eq_some_iff.mp same.symm
  have named := keyed id older found
  dsimp only at named ⊢
  rw [← message,named]

theorem Kept.refl (router : CrossOperationRouter) : Kept router router :=
  ⟨rfl,id,fun _ => Iff.rfl,fun _ => id,fun _ => id,rfl,fun _ => rfl,fun _ => id⟩

theorem Kept.trans {first second third : CrossOperationRouter} (before : Kept first second)
    (after : Kept second third) : Kept first third :=
  ⟨after.max_pending.trans before.max_pending,fun keyed => after.operations_keyed (before.operations_keyed keyed),
    fun address => (after.operations address).trans (before.operations address),
    fun address shut => after.closed address (before.closed address shut),fun receiver held => after.opened receiver (before.opened receiver held),
    after.last_sequences.trans before.last_sequences,fun id => (after.messages id).trans (before.messages id),
    fun id pending => before.pending id (after.pending id pending)⟩

/-- What has been settled stays as it is. -/
def Final (before after : CrossOperationRouter) : Prop :=
  ∀ (id : String) (delivery : DurableDelivery), before.deliveries[id]? = some delivery → delivery.state.is_terminal = true →
    after.deliveries[id]? = some delivery

theorem Final.insert {written : DurableDelivery} (held : before.deliveries[id]? = some delivery)
    (open_before : delivery.state.is_terminal = false)
    (same : after.deliveries = before.deliveries.insert id written) : Final before after := by
  intro other settled found ended
  rw [same,ExtTreeMap.getElem?_insert,if_neg]
  · exact found
  intro equal
  cases eq_of_compare equal
  rw [held] at found
  cases found
  rw [open_before] at ended
  cases ended

/-- Where only states and queues change, it is enough to look at these. -/
theorem Valid.kept (valid : Valid before) (kept : Kept before after)
    (queued : ∀ receiver, ∀ id ∈ after.queue_of receiver, after.state_of id = some .Queued ∧
      ∃ message, after.message_of id = some message ∧ message.to = receiver)
    (listed : ∀ id message, after.message_of id = some message → after.state_of id = some .Queued →
      id ∈ after.queue_of message.to)
    (ordered : ∀ receiver, (after.queue_of receiver).Pairwise fun id id' => ∀ message message',
      after.message_of id = some message → after.message_of id' = some message' → message.sequence < message'.sequence)
    (in_front : ∀ id message id' message', after.state_of id = some .InFlight → after.message_of id = some message →
      after.Pending id' → after.message_of id' = some message' → message'.to = message.to → id' = id ∨
      message.sequence < message'.sequence) :
    Valid after := by
  have keyed := kept.keyed valid.keyed
  refine ⟨kept.operations_keyed valid.operations_keyed,keyed,fun id message held => ?_,fun id message held => ?_,fun id message held => ?_,
    fun receiver held => ?_,fun id message id' message' held held' => ?_,queued,listed,ordered,in_front,fun receiver => ?_⟩
  · rw [kept.operations,kept.operations]
    exact valid.registered id message (kept.messages id ▸ held)
  · exact kept.opened _ (valid.opened id message (kept.messages id ▸ held))
  · rw [kept.last_sequences]
    exact valid.watermark id message (kept.messages id ▸ held)
  · rw [kept.last_sequences] at held
    rw [kept.operations]
    exact valid.sequenced receiver held
  · exact valid.distinct id message id' message' (kept.messages id ▸ held) (kept.messages id' ▸ held')
  · rw [kept.max_pending,← pendingIds_card keyed]
    refine Nat.le_trans (Finset.card_le_card fun id member => ?_) ((pendingIds_card valid.keyed receiver).trans_le (valid.bounded receiver))
    obtain ⟨message,held,sent,pending⟩ := (mem_pendingIds keyed).mp member
    exact (mem_pendingIds valid.keyed).mpr ⟨message,kept.messages id ▸ held,sent,kept.pending id pending⟩

theorem closed_insert {router : CrossOperationRouter} {registration : OperationRegistration} {other : OperationAddress}
    {operations : AddressMap OperationRegistration} (written : operations = router.operations.insert other registration)
    (shut : router.closed address = true) (cancelled : registration.cancelled = true ∨ other ≠ address) :
    operations[address]?.all OperationRegistration.cancelled = true := by
  rw [written,ExtTreeMap.getElem?_insert]
  split
  next same =>
    exact cancelled.resolve_right fun different => different (eq_of_compare same)
  next => exact shut

/-! One delivery takes a state. -/

private theorem message_of_insert (held : before.deliveries[id]? = some delivery)
    (written : after.deliveries = before.deliveries.insert id ⟨delivery.message,state,attempts⟩) (other : String) :
    after.message_of other = before.message_of other := by
  unfold message_of
  rw [written,ExtTreeMap.getElem?_insert]
  split
  next same =>
    cases eq_of_compare same
    rw [held]
    rfl
  next => rfl

theorem state_of_insert
    (written : after.deliveries = before.deliveries.insert id ⟨message,state,attempts⟩) (other : String) :
    after.state_of other = if other = id then some state else before.state_of other := by
  unfold state_of
  rw [written,getElem?_insert_if]
  split <;> rfl

theorem queue_of_insert (written : after.queues = before.queues.insert receiver queue)
    (other : OperationAddress) : after.queue_of other = if other = receiver then queue else before.queue_of other := by
  unfold queue_of
  rw [written,getElem?_insert_if]
  split <;> rfl

private theorem mem_queues_insert (written : after.queues = before.queues.insert receiver queue)
    {other : OperationAddress} (held : other ∈ before.queues) : other ∈ after.queues := by
  rw [written,ExtTreeMap.mem_insert]
  exact .inr held

/-- The head of a queue leaves it: it goes out, or its time is over. -/
theorem Valid.taken (valid : Valid before) {rest : List String}
    (queue : before.queue_of receiver = id :: rest) (held : before.deliveries[id]? = some delivery)
    (state : DeliveryState) (attempts : Nat)
    (written : after = { before with
      queues := before.queues.insert receiver rest, deliveries :=
        before.deliveries.insert id ⟨delivery.message,state,attempts⟩ })
    (way : state = .Expired ∨ state = .InFlight ∧ before.has_in_flight_for receiver = false) :
    Valid after ∧ Kept before after ∧ ∀ other, after.state_of other = if other = id then some state
      else before.state_of other := by
  have head := valid.queued receiver id (by rw [queue]; exact mem_cons_self)
  have messages : ∀ other, after.message_of other = before.message_of other := message_of_insert held (by rw [written])
  have states : ∀ other, after.state_of other = if other = id then some state else before.state_of other := state_of_insert (by rw [written])
  have queues : ∀ other, after.queue_of other = if other = receiver then rest else before.queue_of other := queue_of_insert (by rw [written])
  obtain ⟨first,later⟩ := pairwise_cons.mp (queue ▸ valid.ordered receiver)
  obtain ⟨waits,message,named,sent⟩ := head
  have absent : id ∉ rest := fun member => Nat.lt_irrefl _ (first id member message message named named)
  have other_queue : ∀ other, id ∈ before.queue_of other → other = receiver := by
    intro other member
    obtain ⟨_,also,named_also,sent_also⟩ := valid.queued other id member
    rw [named] at named_also
    cases named_also
    exact sent_also.symm.trans sent
  have apart : ∀ other, ∀ name ∈ after.queue_of other, name ≠ id ∧ name ∈ before.queue_of other := by
    intro other name member
    rw [queues] at member
    by_cases same : other = receiver
    · subst same
      rw [if_pos rfl] at member
      refine ⟨?_,by rw [queue]; exact mem_cons_of_mem id member⟩
      rintro rfl
      exact absent member
    · rw [if_neg same] at member
      refine ⟨?_,member⟩
      rintro rfl
      exact same (other_queue other member)
  have not_queued : state ≠ .Queued := by
    obtain rfl | ⟨rfl,_⟩ := way <;> simp
  have kept : Kept before after := by
    refine ⟨by rw [written],fun keyed => by rw [written]; exact keyed,fun address => by rw [written],fun address shut => by rw [written]; exact shut,
      fun other member => mem_queues_insert (by rw [written]) member,by rw [written],messages,fun other pending => ?_⟩
    unfold Pending at pending ⊢
    rw [states] at pending
    by_cases same : other = id
    · subst same
      exact .inl waits
    · rwa [if_neg same] at pending
  refine ⟨valid.kept kept (fun other name member => ?_) (fun name sent_message named_message waiting => ?_) (fun other => ?_)
    (fun name one name' other out named_one pending named_other same_receiver => ?_),kept,states⟩
  · obtain ⟨different,older⟩ := apart other name member
    rw [states,if_neg different,messages]
    exact valid.queued other name older
  · rw [states] at waiting
    by_cases same : name = id
    · rw [if_pos same] at waiting
      exact (not_queued (Option.some.inj waiting)).elim
    rw [if_neg same] at waiting
    have listed := valid.listed name sent_message (messages name ▸ named_message) waiting
    rw [queues]
    by_cases same_receiver : sent_message.to = receiver
    · rw [same_receiver,queue] at listed
      rw [if_pos same_receiver]
      exact (mem_cons.mp listed).resolve_left same
    · rwa [if_neg same_receiver]
  · simp only [messages]
    rw [queues]
    split
    · exact later
    · exact valid.ordered other
  rw [states] at out
  rw [messages] at named_one named_other
  by_cases same : name = id
  · subst same
    rw [named] at named_one
    cases named_one
    by_cases same' : name' = name
    · exact .inl same'
    obtain rfl | ⟨rfl,none_out⟩ := way
    · simp at out
    refine .inr ?_
    unfold Pending at pending
    rw [states,if_neg same'] at pending
    obtain waiting | flying := pending
    · have listed := valid.listed name' other named_other waiting
      rw [same_receiver,sent,queue] at listed
      exact first name' ((mem_cons.mp listed).resolve_left same') message other named named_other
    · have seen := (has_in_flight_for_iff before receiver).mpr ⟨name',other,named_other,same_receiver.trans sent,flying⟩
      rw [none_out] at seen
      cases seen
  · rw [if_neg same] at out
    exact valid.in_front name one name' other out named_one (kept.pending name' pending) named_other same_receiver

/-! One lemma for each call. -/

/-- A new router is valid. -/
theorem new_valid (max_pending_per_recipient : Nat) : Valid (new max_pending_per_recipient) := by
  have none_held : ∀ id, (new max_pending_per_recipient).message_of id = none := fun id => by simp [message_of,new]
  have none_queued : ∀ receiver, (new max_pending_per_recipient).queue_of receiver = [] := fun receiver => by simp [queue_of,new]
  refine ⟨KeyedBy.empty _,KeyedBy.empty _,fun id message held => ?_,fun id message held => ?_,fun id message held => ?_,
    fun receiver held => ?_,fun id message _ _ held => ?_,fun receiver id member => ?_,fun id message held => ?_,fun receiver => ?_,
    fun id message _ _ _ held => ?_,fun receiver => ?_⟩
  · rw [none_held] at held
    cases held
  · rw [none_held] at held
    cases held
  · rw [none_held] at held
    cases held
  · simp [new] at held
  · rw [none_held] at held
    cases held
  · rw [none_queued] at member
    cases member
  · rw [none_held] at held
    cases held
  · rw [none_queued]
    exact List.Pairwise.nil
  · rw [none_held] at held
    cases held
  · simp [pending_for,new,values_empty]

theorem Valid.register (valid : Valid before) (registration : OperationRegistration) :
    Valid (before.register registration).2 := by
  have keyed : KeyedBy OperationRegistration.address (before.register registration).2.operations := valid.operations_keyed.insert registration
  have grown : ∀ address, address ∈ before.operations → address ∈ (before.register registration).2.operations := by
    intro address held
    exact ExtTreeMap.mem_insert.mpr (.inr held)
  exact ⟨keyed,valid.keyed,fun id message held => ⟨grown _ (valid.registered id message held).1,grown _ (valid.registered id message held).2⟩,
    valid.opened,valid.watermark,fun receiver held => grown _ (valid.sequenced receiver held),valid.distinct,valid.queued,valid.listed,
    valid.ordered,valid.in_front,valid.bounded⟩

/-- The state an accepted message leaves. -/
def accepting (router : CrossOperationRouter) (message : CrossOperationMessage) : CrossOperationRouter := { router with
  last_sequences := router.last_sequences.insert message.to message.sequence
  queues := router.queues.insert message.to (router.queue_of message.to ++ [message.id])
  deliveries := router.deliveries.insert message.id ⟨message,.Queued,0⟩ }

/-- What a route changes: nothing, unless the message is accepted. -/
theorem route_cases (before : CrossOperationRouter) (message : CrossOperationMessage) (now_turn : Nat)
    (payload_availability : PayloadAvailability) :
    (before.route message now_turn payload_availability).2 = before ∧
        (∀ state, (before.route message now_turn payload_availability).1 ≠ .Accepted state) ∨
      before.deliveries[message.id]? = none ∧
      (∃ source receiver, before.operations[message.from]? = some source ∧
        before.operations[message.to]? = some receiver ∧
        source.cancelled = false ∧ receiver.cancelled = false) ∧
      (∀ last, before.last_sequences[message.to]? = some last → last < message.sequence) ∧
      before.pending_for message.to < before.max_pending_per_recipient ∧
      before.route message now_turn payload_availability = (.Accepted .Queued,before.accepting message) := by
  unfold CrossOperationRouter.route
  split
  next existing held =>
    refine .inl ⟨rfl,fun state => ?_⟩
    dsimp only
    split <;> simp
  next fresh =>
  split
  next source receiver known_source known_receiver =>
    cases refused : refusal source receiver message now_turn payload_availability with
    | some failure => exact .inl ⟨rfl,fun state => by simp⟩
    | none =>
    dsimp only
    split
    next => exact .inl ⟨rfl,fun state => by simp⟩
    next in_order =>
    split
    next => exact .inl ⟨rfl,fun state => by simp⟩
    next room =>
    have active : source.cancelled = false ∧ receiver.cancelled = false := by
      unfold refusal at refused
      split at refused
      · cases refused
      next active => simpa using active
    refine .inr ⟨fresh,⟨source,receiver,known_source,known_receiver,active⟩,fun last held => ?_,Nat.not_le.mp room,rfl⟩
    rw [held] at in_order
    simpa using in_order
  next => exact .inl ⟨rfl,fun state => by simp⟩

theorem accepting_message_of (before : CrossOperationRouter) (message : CrossOperationMessage) (id : String) :
    (before.accepting message).message_of id = if id = message.id then some message else before.message_of id := by
  unfold message_of accepting
  dsimp only
  rw [getElem?_insert_if]
  split <;> rfl

theorem accepting_state_of (before : CrossOperationRouter) (message : CrossOperationMessage) (id : String) :
    (before.accepting message).state_of id = if id = message.id then some .Queued else before.state_of id :=
    state_of_insert rfl id

private theorem accepting_queue_of (before : CrossOperationRouter) (message : CrossOperationMessage) (receiver : OperationAddress) :
    (before.accepting message).queue_of receiver =
      if receiver = message.to then before.queue_of message.to ++ [message.id] else before.queue_of receiver := queue_of_insert rfl receiver

/-- A message that comes behind all its receiver was sent is queued last. -/
theorem Valid.accepting (valid : Valid before) (fresh : before.message_of message.id = none)
    (known_from : message.from ∈ before.operations) (known_to : message.to ∈ before.operations)
    (later : ∀ last, before.last_sequences[message.to]? = some last → last < message.sequence)
    (room : before.pending_for message.to < before.max_pending_per_recipient) : Valid (before.accepting message) := by
  have behind : ∀ id other, before.message_of id = some other → other.to = message.to → other.sequence < message.sequence := by
    intro id other held sent
    obtain ⟨last,known,bound⟩ := valid.watermark id other held
    exact Nat.lt_of_le_of_lt bound (later last (sent ▸ known))
  have waiting : before.state_of message.id = none := by
    unfold message_of at fresh
    unfold state_of
    rw [Option.map_eq_none_iff] at fresh ⊢
    exact fresh
  have apart : ∀ id other, before.message_of id = some other → id ≠ message.id := by
    rintro id other held rfl
    rw [fresh] at held
    cases held
  -- What is known of a message is known of it before, or it is the new one.
  have either : ∀ id other, (before.accepting message).message_of id = some other →
      id = message.id ∧ other = message ∨ id ≠ message.id ∧ before.message_of id = some other := by
    intro id other held
    rw [accepting_message_of] at held
    by_cases same : id = message.id
    · rw [if_pos same] at held
      exact .inl ⟨same,(Option.some.inj held).symm⟩
    · rw [if_neg same] at held
      exact .inr ⟨same,held⟩
  have keyed : KeyedBy (fun delivery : DurableDelivery => delivery.message.id) (before.accepting message).deliveries :=
    valid.keyed.insert (⟨message,.Queued,0⟩ : DurableDelivery)
  refine ⟨valid.operations_keyed,keyed,fun id other held => ?_,fun id other held => ?_,fun id other held => ?_,
    fun receiver held => ?_,fun id other id' other' held held' sent same => ?_,fun receiver id member => ?_,fun id other held queued => ?_,
    fun receiver => ?_,fun id other id' other' out held pending held' sent => ?_,fun receiver => ?_⟩
  · obtain ⟨_,rfl⟩ | ⟨_,older⟩ := either id other held
    · exact ⟨known_from,known_to⟩
    · exact valid.registered id other older
  · obtain ⟨_,rfl⟩ | ⟨_,older⟩ := either id other held
    · exact ExtTreeMap.mem_insert.mpr (.inl (by simp))
    · exact mem_queues_insert rfl (valid.opened id other older)
  · have watermark : (before.accepting message).last_sequences[other.to]? =
        if other.to = message.to then some message.sequence else before.last_sequences[other.to]? := getElem?_insert_if ..
    rw [watermark]
    obtain ⟨_,rfl⟩ | ⟨_,older⟩ := either id other held
    · exact ⟨other.sequence,if_pos rfl,Nat.le_refl _⟩
    · by_cases same : other.to = message.to
      · exact ⟨message.sequence,if_pos same,Nat.le_of_lt (behind id other older same)⟩
      · rw [if_neg same]
        exact valid.watermark id other older
  · obtain equal | older := ExtTreeMap.mem_insert.mp held
    · rw [← eq_of_compare equal]
      exact known_to
    · exact valid.sequenced receiver older
  · obtain ⟨named,rfl⟩ | ⟨_,older⟩ := either id other held
    · obtain ⟨named',rfl⟩ | ⟨_,older'⟩ := either id' other' held'
      · exact named.trans named'.symm
      · have ahead := behind id' other' older' sent.symm
        omega
    · obtain ⟨_,rfl⟩ | ⟨_,older'⟩ := either id' other' held'
      · have ahead := behind id other older sent
        omega
      · exact valid.distinct id other id' other' older older' sent same
  · rw [accepting_queue_of] at member
    rw [accepting_state_of,accepting_message_of]
    by_cases same : id = message.id
    · rw [if_pos same,if_pos same]
      by_cases same_receiver : receiver = message.to
      · exact ⟨rfl,message,rfl,same_receiver.symm⟩
      · rw [if_neg same_receiver] at member
        obtain ⟨_,other,held,_⟩ := valid.queued receiver id member
        exact (apart id other held same).elim
    rw [if_neg same,if_neg same]
    refine valid.queued receiver id ?_
    split at member
    next same_receiver =>
      rw [same_receiver]
      refine (mem_append.mp member).resolve_right fun last => same (mem_singleton.mp last)
    next => exact member
  · rw [accepting_queue_of]
    obtain ⟨named,rfl⟩ | ⟨different,older⟩ := either id other held
    · rw [if_pos rfl,named]
      exact mem_append_right _ mem_cons_self
    rw [accepting_state_of,if_neg different] at queued
    have listed := valid.listed id other older queued
    split
    next same => exact mem_append_left _ (same ▸ listed)
    next => exact listed
  · have older : (before.queue_of receiver).Pairwise fun id id' => ∀ other other',
        (before.accepting message).message_of id = some other →
        (before.accepting message).message_of id' = some other' → other.sequence < other'.sequence := by
      refine (valid.ordered receiver).imp_of_mem fun {id id'} member member' ordered other other' held held' => ?_
      obtain ⟨_,found,known,_⟩ := valid.queued receiver id member
      obtain ⟨_,found',known',_⟩ := valid.queued receiver id' member'
      rw [accepting_message_of,if_neg (apart id found known)] at held
      rw [accepting_message_of,if_neg (apart id' found' known')] at held'
      exact ordered other other' held held'
    rw [accepting_queue_of]
    split
    next same =>
      subst same
      refine pairwise_append.mpr ⟨older,pairwise_singleton _ _,fun id member id' last other other' held held' => ?_⟩
      cases mem_singleton.mp last
      obtain ⟨_,found,known,sent⟩ := valid.queued message.to id member
      rw [accepting_message_of,if_neg (apart id found known)] at held
      rw [accepting_message_of,if_pos rfl] at held'
      cases held'
      rw [known] at held
      cases held
      exact behind id _ known sent
    next => exact older
  · rw [accepting_state_of] at out
    obtain ⟨named,rfl⟩ | ⟨different,older⟩ := either id other held
    · rw [if_pos named] at out
      cases out
    rw [if_neg different] at out
    obtain ⟨_,rfl⟩ | ⟨different',older'⟩ := either id' other' held'
    · exact .inr (behind id other older sent.symm)
    · unfold Pending at pending
      rw [accepting_state_of,if_neg different'] at pending
      exact valid.in_front id other id' other' out older pending older' sent
  rw [← pendingIds_card keyed]
  by_cases same : receiver = message.to
  · subst same
    have subset : (before.accepting message).pendingIds message.to ⊆ insert message.id (before.pendingIds message.to) := by
      intro id member
      obtain ⟨other,held,sent,pending⟩ := (mem_pendingIds keyed).mp member
      obtain ⟨named,_⟩ | ⟨different,older⟩ := either id other held
      · exact Finset.mem_insert.mpr (.inl named)
      · unfold Pending at pending
        rw [accepting_state_of,if_neg different] at pending
        exact Finset.mem_insert_of_mem ((mem_pendingIds valid.keyed).mpr ⟨other,older,sent,pending⟩)
    have count := (Finset.card_le_card subset).trans (Finset.card_insert_le _ _)
    rw [pendingIds_card valid.keyed] at count
    exact count.trans room
  refine Nat.le_trans (Finset.card_le_card fun id member => ?_) ((pendingIds_card valid.keyed receiver).trans_le (valid.bounded receiver))
  obtain ⟨other,held,sent,pending⟩ := (mem_pendingIds keyed).mp member
  obtain ⟨_,rfl⟩ | ⟨different,older⟩ := either id other held
  · exact (same sent.symm).elim
  · unfold Pending at pending
    rw [accepting_state_of,if_neg different] at pending
    exact (mem_pendingIds valid.keyed).mpr ⟨other,older,sent,pending⟩

/-- Routing keeps the router valid. -/
theorem Valid.route (valid : Valid before) (message : CrossOperationMessage) (now_turn : Nat)
    (payload_availability : PayloadAvailability) :
    Valid (before.route message now_turn payload_availability).2 := by
  obtain ⟨same,_⟩ | ⟨fresh,⟨source,receiver,known_source,known_receiver,_⟩,later,room,accepted⟩ :=
    route_cases before message now_turn payload_availability
  · rw [same]
    exact valid
  rw [accepted]
  refine valid.accepting ?_ ?_ ?_ later room
  · unfold message_of
    rw [fresh]
    rfl
  · rw [ExtTreeMap.mem_iff_isSome_getElem?,known_source]
    rfl
  · rw [ExtTreeMap.mem_iff_isSome_getElem?,known_receiver]
    rfl

/-- What a dispatch comes to: the router stays valid, and what goes out is the receiver's only one out. -/
structure Dispatches (receiver : OperationAddress) (before : CrossOperationRouter)
    (result : Option CrossOperationMessage × CrossOperationRouter) :
    Prop where
  valid : Valid result.2
  kept : Kept before result.2
  final : Final before result.2
  out : ∀ message, result.1 = some message →
    message.to = receiver ∧ result.2.message_of message.id = some message ∧ result.2.state_of message.id = some .InFlight

private theorem pop_next_dispatches (receiver : OperationAddress) (now_turn : Nat) : ∀ (queue : List String) (router : CrossOperationRouter),
    Valid router → router.queue_of receiver = queue → router.has_in_flight_for receiver = false →
    Dispatches receiver router (pop_next receiver now_turn queue router) := by
  intro queue
  induction queue with
  | nil => exact fun router valid _ _ => ⟨valid,.refl router,fun _ _ held _ => held,nofun⟩
  | cons id rest ih =>
  intro router valid queue none_out
  obtain ⟨waits,message,named,sent⟩ := valid.queued receiver id (by rw [queue]; exact mem_cons_self)
  obtain ⟨delivery,held,rfl⟩ := message_of_eq named
  have queued : delivery.state = .Queued := by
    unfold state_of at waits
    rw [held] at waits
    exact Option.some.inj waits
  have still_open : delivery.state.is_terminal = false := by
    rw [queued]
    rfl
  unfold pop_next
  dsimp only
  rw [held]
  dsimp only
  rw [if_neg (not_not.mpr queued)]
  split
  next late =>
    obtain ⟨valid_after,kept,states⟩ := valid.taken queue held .Expired delivery.attempts rfl (.inl rfl)
    obtain ⟨valid_last,kept_last,final_last,out⟩ := ih _ valid_after ((queue_of_insert rfl receiver).trans (if_pos rfl)) (by
      rw [Bool.eq_false_iff]
      intro seen
      obtain ⟨other,message,named,sent,out⟩ := (has_in_flight_for_iff _ receiver).mp seen
      rw [states] at out
      split at out
      · cases out
      · rw [(has_in_flight_for_iff router receiver).mpr ⟨other,message,kept.messages other ▸ named,sent,out⟩] at none_out
        cases none_out)
    refine ⟨valid_last,kept.trans kept_last,fun other settled found ended => ?_,out⟩
    exact final_last other settled (Final.insert held still_open rfl other settled found ended) ended
  next =>
  obtain ⟨valid_after,kept,states⟩ := valid.taken queue held .InFlight (min (delivery.attempts+1) u32Max) rfl (.inr ⟨rfl,none_out⟩)
  refine ⟨valid_after,kept,Final.insert held still_open rfl,fun message out => ?_⟩
  cases out
  have own : delivery.message.id = id := valid.keyed id delivery held
  rw [own]
  exact ⟨sent,(kept.messages id).trans named,(states id).trans (if_pos rfl)⟩

/-- What a dispatch from a valid router does. -/
theorem Valid.dispatch_next (valid : Valid before) (receiver : OperationAddress) (now_turn : Nat) :
    Dispatches receiver before (before.dispatch_next receiver now_turn) := by
  have idle : Dispatches receiver before (none,before) := ⟨valid,.refl before,fun _ _ held _ => held,nofun⟩
  unfold CrossOperationRouter.dispatch_next
  split
  next => exact idle
  next free =>
  split
  next => exact idle
  next queue held =>
  have none_out := (Bool.or_eq_false_iff.mp (Bool.not_eq_true _ ▸ free)).2
  refine pop_next_dispatches receiver now_turn queue before valid ?_ none_out
  unfold queue_of
  rw [held]
  rfl

/-- A delivery that is out comes to an end. -/
theorem Valid.ended (valid : Valid before) (held : before.deliveries[id]? = some delivery)
    (out : delivery.state = .InFlight) (ended : state.is_terminal = true)
    (written : after = { before with deliveries := before.deliveries.insert id { delivery with state } }) :
    Valid after ∧ Kept before after := by
  have messages : ∀ other, after.message_of other = before.message_of other := message_of_insert held (by rw [written])
  have states : ∀ other, after.state_of other = if other = id then some state else before.state_of other := state_of_insert (by rw [written])
  have queues : ∀ other, after.queue_of other = before.queue_of other := fun other => by
    rw [written]
    rfl
  have flying : before.state_of id = some .InFlight := by
    unfold state_of
    rw [held,Option.map_some,out]
  -- Nothing is pending now that was not, and nothing that is queued or out has changed.
  have same : ∀ other now, now.is_terminal = false → after.state_of other = some now → other ≠ id ∧ before.state_of other = some now := by
    intro other now still_open at_after
    rw [states] at at_after
    by_cases same : other = id
    · rw [if_pos same] at at_after
      cases at_after
      rw [ended] at still_open
      cases still_open
    · rw [if_neg same] at at_after
      exact ⟨same,at_after⟩
  have pending : ∀ other, after.Pending other → before.Pending other := by
    intro other waiting
    exact waiting.imp (fun at_after => (same other _ rfl at_after).2) fun at_after => (same other _ rfl at_after).2
  have kept : Kept before after := by
    rw [written] at messages pending ⊢
    exact ⟨rfl,fun keyed => keyed,fun _ => Iff.rfl,fun _ shut => shut,fun _ member => member,rfl,messages,pending⟩
  refine ⟨valid.kept kept (fun receiver other member => ?_) (fun other message named waiting => ?_) (fun receiver => ?_)
    (fun other message other' message' flies named waits named' sent => ?_),kept⟩
  · rw [queues] at member
    obtain ⟨waits,named⟩ := valid.queued receiver other member
    rw [states,if_neg ?_,messages]
    · exact ⟨waits,named⟩
    · rintro rfl
      rw [flying] at waits
      cases waits
  · rw [queues]
    exact valid.listed other message (messages other ▸ named) (same other _ rfl waiting).2
  · simp only [messages,queues]
    exact valid.ordered receiver
  · exact valid.in_front other message other' message' (same other _ rfl flies).2 (messages other ▸ named) (pending other' waits)
      (messages other' ▸ named') sent

/-- A delivery that is out comes back to the front of its queue. -/
theorem Valid.returned (valid : Valid before) (held : before.deliveries[id]? = some delivery)
    (out : delivery.state = .InFlight) (written : after = { before with
      queues := before.queues.insert delivery.message.to (id :: before.queue_of delivery.message.to)
      deliveries := before.deliveries.insert id { delivery with state := .Queued } }) : Valid after ∧
        Kept before after := by
  have messages : ∀ other, after.message_of other = before.message_of other := message_of_insert held (by rw [written])
  have states : ∀ other, after.state_of other = if other = id then some .Queued else before.state_of other := state_of_insert (by rw [written])
  have queues : ∀ other, after.queue_of other =
      if other = delivery.message.to then id :: before.queue_of delivery.message.to else before.queue_of other := queue_of_insert (by rw [written])
  have flying : before.state_of id = some .InFlight := by
    unfold state_of
    rw [held,Option.map_some,out]
  have named : before.message_of id = some delivery.message := by
    unfold message_of
    rw [held]
    rfl
  have absent : ∀ receiver, id ∉ before.queue_of receiver := by
    intro receiver member
    have waits := (valid.queued receiver id member).1
    rw [flying] at waits
    cases waits
  have pending : ∀ other, after.Pending other → before.Pending other := by
    intro other waiting
    unfold Pending at waiting ⊢
    rw [states] at waiting
    by_cases same : other = id
    · rw [same]
      exact .inr flying
    · rwa [if_neg same] at waiting
  have kept : Kept before after := by
    rw [written] at messages pending ⊢
    exact ⟨rfl,fun keyed => keyed,fun _ => Iff.rfl,fun _ shut => shut,fun _ member => mem_queues_insert rfl member,rfl,messages,pending⟩
  refine ⟨valid.kept kept (fun receiver other member => ?_) (fun other message named_other waiting => ?_) (fun receiver => ?_)
    (fun other message other' message' flies named_other waits named' sent => ?_),kept⟩
  · rw [queues] at member
    rw [states,messages]
    by_cases same : other = id
    · rw [if_pos same,same]
      refine ⟨rfl,delivery.message,named,?_⟩
      by_cases same_receiver : receiver = delivery.message.to
      · exact same_receiver.symm
      · rw [if_neg same_receiver,same] at member
        exact (absent receiver member).elim
    rw [if_neg same]
    refine valid.queued receiver other ?_
    split at member
    next same_receiver =>
      rw [same_receiver]
      exact (mem_cons.mp member).resolve_left same
    next => exact member
  · rw [messages] at named_other
    rw [queues]
    by_cases same : other = id
    · subst same
      rw [named] at named_other
      cases named_other
      rw [if_pos rfl]
      exact mem_cons_self
    rw [states,if_neg same] at waiting
    have listed := valid.listed other message named_other waiting
    split
    next same_receiver =>
      rw [same_receiver] at listed
      exact mem_cons_of_mem id listed
    next => exact listed
  · simp only [messages]
    rw [queues]
    split
    next =>
      refine pairwise_cons.mpr ⟨fun other member message message' named_id named_other => ?_,valid.ordered _⟩
      rw [named] at named_id
      cases named_id
      obtain ⟨waits,found,named_found,sent⟩ := valid.queued _ other member
      rw [named_found] at named_other
      cases named_other
      refine (valid.in_front id delivery.message other _ flying named (.inl waits) named_found sent).resolve_left ?_
      rintro rfl
      exact absent _ member
    next => exact valid.ordered receiver
  rw [messages] at named_other named'
  rw [states] at flies
  by_cases same : other = id
  · rw [if_pos same] at flies
    cases flies
  · rw [if_neg same] at flies
    exact valid.in_front other message other' message' flies named_other (pending other' waits) named' sent

/-- A settlement keeps the router valid and the other deliveries. -/
theorem Valid.settle (valid : Valid before) (message_id : String) (settlement : DeliverySettlement) (now_turn : Nat) :
    Valid (before.settle message_id settlement now_turn).2 ∧
    Kept before (before.settle message_id settlement now_turn).2 ∧
      Final before (before.settle message_id settlement now_turn).2 := by
  have idle : Valid before ∧ Kept before before ∧ Final before before := ⟨valid,.refl before,fun _ _ held _ => held⟩
  unfold CrossOperationRouter.settle
  split
  next => exact idle
  next delivery held =>
  split
  next => exact idle
  next flying =>
  have out : delivery.state = .InFlight := not_not.mp flying
  have still_open : delivery.state.is_terminal = false := by
    rw [out]
    rfl
  have ends : ∀ state : DeliveryState, state.is_terminal = true →
      Valid { before with deliveries := before.deliveries.insert message_id { delivery with state } } ∧
      Kept before { before with deliveries := before.deliveries.insert message_id { delivery with state } } ∧
      Final before { before with deliveries := before.deliveries.insert message_id { delivery with state } } := by
    intro state ended
    obtain ⟨valid_after,kept⟩ := valid.ended held out ended rfl
    exact ⟨valid_after,kept,Final.insert held still_open rfl⟩
  cases settlement with
  | Delivered => exact ends .Delivered rfl
  | PermanentFailure => exact ends .Failed rfl
  | RetryableFailure =>
  dsimp only
  split
  next =>
    split
    next => exact ends .Cancelled rfl
    next => exact ends .Expired rfl
  next =>
  obtain ⟨valid_after,kept⟩ := valid.returned held out rfl
  exact ⟨valid_after,kept,Final.insert held still_open rfl⟩

/-- The state a cancellation leaves. -/
def cancelling (router : CrossOperationRouter) (address : OperationAddress) (operation : OperationRegistration) : CrossOperationRouter :=
  let deliveries := router.deliveries.map fun _ delivery => cancel_delivery address delivery
  { router with
    operations := router.operations.insert address { operation with cancelled := true }
    deliveries
    queues := router.queues.map fun _ queue => queue.filter fun id => deliveries[id]?.any fun delivery => delivery.state == .Queued }

private theorem cancel_delivery_message (address : OperationAddress) (delivery : DurableDelivery) :
    (cancel_delivery address delivery).message = delivery.message := by
  unfold cancel_delivery
  split <;> rfl

private theorem cancel_delivery_pending
    (pending : (cancel_delivery address delivery).state.is_pending = true) :
    cancel_delivery address delivery = delivery ∧ touches delivery.message address = false := by
  unfold cancel_delivery at pending ⊢
  split at pending
  next => cases pending
  next other =>
  rw [if_neg other]
  rw [pending,Bool.and_true] at other
  exact ⟨rfl,Bool.eq_false_iff.mpr other⟩

theorem cancelling_get (router : CrossOperationRouter) (address : OperationAddress)
    (operation : OperationRegistration) (id : String) :
    (router.cancelling address operation).deliveries[id]? = router.deliveries[id]?.map (cancel_delivery address) := by
  unfold cancelling
  exact ExtTreeMap.getElem?_map

theorem cancelling_message_of (router : CrossOperationRouter) (address : OperationAddress)
    (operation : OperationRegistration) (id : String) :
    (router.cancelling address operation).message_of id = router.message_of id := by
  unfold message_of
  rw [cancelling_get,Option.map_map]
  cases router.deliveries[id]? with
  | none => rfl
  | some delivery => exact congrArg some (cancel_delivery_message address delivery)

theorem cancelling_state_of {router : CrossOperationRouter} (pending : state.is_pending = true)
    (stands : (router.cancelling address operation).state_of id = some state) :
    router.state_of id = some state ∧ ∀ message, router.message_of id = some message →
    touches message address = false := by
  unfold state_of at stands ⊢
  rw [cancelling_get,Option.map_map] at stands
  obtain ⟨delivery,held,same⟩ := Option.map_eq_some_iff.mp stands
  have same : (cancel_delivery address delivery).state = state := same
  obtain ⟨unchanged,apart⟩ := cancel_delivery_pending (same ▸ pending)
  refine ⟨by rw [held,← same,unchanged]; rfl,fun message named => ?_⟩
  unfold message_of at named
  rw [held] at named
  cases named
  exact apart

private theorem cancelling_queue_of (router : CrossOperationRouter) (address : OperationAddress) (operation : OperationRegistration)
    (receiver : OperationAddress) : (router.cancelling address operation).queue_of receiver =
      (router.queue_of receiver).filter fun id => (router.cancelling address operation).state_of id = some .Queued := by
  have reads : ∀ id, ((router.cancelling address operation).deliveries[id]?.any fun delivery => delivery.state == .Queued) =
      decide ((router.cancelling address operation).state_of id = some .Queued) := by
    intro id
    unfold state_of
    cases (router.cancelling address operation).deliveries[id]? with
    | none => rfl
    | some delivery =>
    rw [Option.any_some,Option.map_some]
    by_cases same : delivery.state = .Queued <;> simp [same]
  have mapped : (router.cancelling address operation).queues[receiver]? = router.queues[receiver]?.map fun queue =>
      queue.filter fun id => (router.cancelling address operation).deliveries[id]?.any fun delivery =>
      delivery.state == .Queued := ExtTreeMap.getElem?_map
  unfold queue_of
  rw [mapped]
  simp only [reads]
  cases router.queues[receiver]? <;> rfl

/-- A cancellation keeps the router valid and ends what is pending. -/
theorem Valid.cancelling (valid : Valid before) (address : OperationAddress)
    (known : before.operations[address]? = some operation) :
    Valid (before.cancelling address operation) ∧ Kept before (before.cancelling address operation) ∧
      Final before (before.cancelling address operation) := by
  have messages := cancelling_message_of before address operation
  have still : ∀ id, (before.cancelling address operation).Pending id → before.Pending id := fun id pending =>
    pending.imp (fun waits => (cancelling_state_of rfl waits).1) fun out => (cancelling_state_of rfl out).1
  have kept : Kept before (before.cancelling address operation) := by
    refine ⟨rfl,fun keyed => ?_,fun other => ?_,fun other shut => ?_,fun receiver member => ?_,rfl,messages,still⟩
    · have named := keyed address operation known
      intro other registration held
      have held : (before.operations.insert address { operation with cancelled := true })[other]? = some registration := held
      rw [ExtTreeMap.getElem?_insert] at held
      split at held
      next same =>
        cases held
        exact named.trans (eq_of_compare same)
      next => exact keyed other registration held
    · refine ExtTreeMap.mem_insert.trans (or_iff_right_of_imp fun equal => ?_)
      rw [← eq_of_compare equal,ExtTreeMap.mem_iff_isSome_getElem?,known]
      rfl
    · exact closed_insert rfl shut (.inl rfl)
    · exact ExtTreeMap.mem_map.mpr member
  refine ⟨valid.kept kept (fun receiver id member => ?_) (fun id message named waiting => ?_) (fun receiver => ?_)
    (fun id message id' message' out named pending named' sent => ?_),kept,fun id delivery held ended => ?_⟩
  · rw [cancelling_queue_of] at member
    obtain ⟨older,waits⟩ := mem_filter.mp member
    rw [messages]
    exact ⟨of_decide_eq_true waits,(valid.queued receiver id older).2⟩
  · rw [cancelling_queue_of]
    refine mem_filter.mpr ⟨?_,decide_eq_true waiting⟩
    exact valid.listed id message (messages id ▸ named) (cancelling_state_of rfl waiting).1
  · rw [cancelling_queue_of]
    simp only [messages]
    exact (valid.ordered receiver).sublist filter_sublist
  · exact valid.in_front id message id' message' (cancelling_state_of rfl out).1 (messages id ▸ named) (still id' pending)
      (messages id' ▸ named') sent
  rw [cancelling_get,held,Option.map_some]
  unfold cancel_delivery
  rw [if_neg]
  unfold DeliveryState.is_terminal at ended
  rw [Bool.not_eq_true'] at ended
  simp [ended]

theorem cancel_operation_eq (router : CrossOperationRouter) (address : OperationAddress) :
    (router.cancel_operation address).2 =
    match router.operations[address]? with
    | none => router
    | some operation => router.cancelling address operation := by
  unfold CrossOperationRouter.cancel_operation
  cases router.operations[address]? <;> rfl

theorem Valid.cancel_operation (valid : Valid before) (address : OperationAddress) :
    Valid (before.cancel_operation address).2 ∧ Kept before (before.cancel_operation address).2 ∧
    Final before (before.cancel_operation address).2 := by
  rw [cancel_operation_eq]
  split
  next => exact ⟨valid,.refl before,fun _ _ held _ => held⟩
  next operation known => exact valid.cancelling address known

/-! Over a run. -/

/-- What one call does to the messages: they stay, what is settled stays settled, and what becomes
pending comes behind all that its receiver was sent. -/
structure Moves (before after : CrossOperationRouter) : Prop where
  max_pending : after.max_pending_per_recipient = before.max_pending_per_recipient
  messages : ∀ id message, before.message_of id = some message → after.message_of id = some message
  final : Final before after
  pending : ∀ id message, after.Pending id → after.message_of id = some message → before.Pending id ∧ before.message_of id = some message ∨
    ∀ id' message', before.message_of id' = some message' → message'.to = message.to → message'.sequence < message.sequence

theorem Kept.moves (kept : Kept before after) (final : Final before after) : Moves before after :=
  ⟨kept.max_pending,fun id _ held => (kept.messages id).trans held,final,fun id _ pending held =>
  .inl ⟨kept.pending id pending,kept.messages id ▸ held⟩⟩

theorem Moves.refl (router : CrossOperationRouter) : Moves router router := (Kept.refl router).moves fun _ _ held _ =>
    held

private theorem Valid.accepting_moves (valid : Valid before) (fresh : before.deliveries[message.id]? = none)
    (later : ∀ last, before.last_sequences[message.to]? = some last → last < message.sequence) : Moves before (before.accepting message) := by
  have unheard : before.message_of message.id = none := by
    unfold message_of
    rw [fresh]
    rfl
  refine ⟨rfl,fun id other held => ?_,fun id delivery held _ => ?_,fun id other pending held => ?_⟩
  · rw [accepting_message_of,if_neg]
    · exact held
    · rintro rfl
      rw [unheard] at held
      cases held
  · show (before.deliveries.insert message.id ⟨message,.Queued,0⟩)[id]? = some delivery
    rw [ExtTreeMap.getElem?_insert,if_neg]
    · exact held
    · intro same
      rw [← eq_of_compare same,fresh] at held
      cases held
  unfold Pending at pending
  rw [accepting_state_of] at pending
  rw [accepting_message_of] at held
  by_cases same : id = message.id
  · rw [if_pos same] at held
    cases held
    refine .inr fun id' message' held' sent => ?_
    obtain ⟨last,known,bound⟩ := valid.watermark id' message' held'
    exact Nat.lt_of_le_of_lt bound (later last (sent ▸ known))
  · rw [if_neg same] at pending held
    exact .inl ⟨pending,held⟩

/-- Every operation moves a valid router as it may. -/
theorem Valid.moves (valid : Valid before) (op : Op) : Moves before (before.step op) := by
  cases op with
  | register registration => exact ⟨rfl,fun _ _ held => held,fun _ _ held _ => held,fun _ _ pending held => .inl ⟨pending,held⟩⟩
  | route message now_turn payload_availability =>
    show Moves before (before.route message now_turn payload_availability).2
    obtain ⟨same,_⟩ | ⟨fresh,_,later,_,accepted⟩ := route_cases before message now_turn payload_availability
    · rw [same]
      exact .refl before
    · rw [accepted]
      exact valid.accepting_moves fresh later
  | dispatch_next receiver now_turn =>
    have dispatches := valid.dispatch_next receiver now_turn
    exact dispatches.kept.moves dispatches.final
  | settle message_id settlement now_turn =>
    obtain ⟨_,kept,final⟩ := valid.settle message_id settlement now_turn
    exact kept.moves final
  | cancel_operation address =>
  obtain ⟨_,kept,final⟩ := valid.cancel_operation address
  exact kept.moves final

theorem Valid.step (valid : Valid before) (op : Op) : Valid (before.step op) := by
  cases op with
  | register registration => exact valid.register registration
  | route message now_turn payload_availability => exact valid.route message now_turn payload_availability
  | dispatch_next receiver now_turn => exact (valid.dispatch_next receiver now_turn).valid
  | settle message_id settlement now_turn => exact (valid.settle message_id settlement now_turn).1
  | cancel_operation address => exact (valid.cancel_operation address).1

theorem Valid.run (ops : List Op) : ∀ {router : CrossOperationRouter}, Valid router → Valid (run ops router) := by
  induction ops with
  | nil => exact fun valid => valid
  | cons op rest ih => exact fun valid => ih (valid.step op)

theorem run_append (ops more : List Op) (router : CrossOperationRouter) :
    run (ops ++ more) router = run more (run ops router) :=
  foldl_append

end

end CrossOperationRouter

end Deepstrike.CrossOperation

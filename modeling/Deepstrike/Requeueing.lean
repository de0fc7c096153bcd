import Deepstrike.Forwarding

/-!
The snapshot of the router and what comes back from it: every router a run reaches is restored, with
what was in flight queued again in front, and answers every later message as it did.
-/
namespace Deepstrike.CrossOperation
open Std OrderedMaps List

namespace CrossOperationRouter

/-- What is in flight to a receiver. -/
def in_flight_ids (router : CrossOperationRouter) (receiver : OperationAddress) : List String :=
  ((values router.deliveries).filter fun delivery => decide (delivery.message.to = receiver) && delivery.state == .InFlight).map
    fun delivery => delivery.message.id

/-- Every delivery in flight is queued again, at the front of its receiver's queue. -/
def requeue (router : CrossOperationRouter) : CrossOperationRouter := { router with
  deliveries := router.deliveries.map fun _ => requeued
  queues := router.queues.map fun receiver queue => router.in_flight_ids receiver ++ queue }

section
variable {router : CrossOperationRouter} (delivery : DurableDelivery)

theorem requeued_message : (requeued delivery).message = delivery.message := by
  unfold requeued
  split <;> rfl

theorem requeued_state :
    (requeued delivery).state = if delivery.state = .InFlight then .Queued else delivery.state := by
  unfold requeued
  split <;> rfl

private theorem requeued_pending : (requeued delivery).state.is_pending = delivery.state.is_pending := by
  rw [requeued_state]
  split
  next out => rw [out]; rfl
  next => rfl

/-! The parts of a snapshot are read back one after the other. -/

private theorem restore_operations_eq : ∀ (operations : List OperationRegistration) (router : CrossOperationRouter),
    (operations.map OperationRegistration.address).Nodup → (∀ operation ∈ operations, operation.address ∉ router.operations) →
    restore_operations operations router = .ok { router with
      operations := operations.foldl (fun collected operation => collected.insert operation.address operation) router.operations } := by
  intro operations
  induction operations with
  | nil => exact fun _ _ _ => rfl
  | cons operation rest ih =>
  intro router distinct fresh
  obtain ⟨first,distinct⟩ := nodup_cons.mp distinct
  have unknown : router.operations.contains operation.address = false :=
    Bool.eq_false_iff.mpr fun held => fresh operation mem_cons_self held
  unfold restore_operations register
  rw [unknown]
  exact ih _ distinct (not_mem_insert first fresh)

private theorem restore_deliveries_eq : ∀ (deliveries : List DurableDelivery) (router : CrossOperationRouter),
    (deliveries.map fun delivery => delivery.message.id).Nodup → (∀ delivery ∈ deliveries, delivery.message.id ∉ router.deliveries) →
    (∀ delivery ∈ deliveries, delivery.message.from ∈ router.operations ∧ delivery.message.to ∈ router.operations) →
    restore_deliveries deliveries router = .ok { router with
      deliveries := deliveries.foldl (fun collected delivery => collected.insert delivery.message.id (requeued delivery)) router.deliveries } := by
  intro deliveries
  induction deliveries with
  | nil => exact fun _ _ _ _ => rfl
  | cons delivery rest ih =>
  intro router distinct fresh known
  obtain ⟨first,distinct⟩ := nodup_cons.mp distinct
  obtain ⟨sender,receiver⟩ := known delivery mem_cons_self
  have unknown : ¬ router.deliveries.contains delivery.message.id = true := fresh delivery mem_cons_self
  have registered : ¬ (¬ router.operations.contains delivery.message.from = true ∨ ¬ router.operations.contains delivery.message.to = true) :=
    fun missing => missing.elim (fun absent => absent sender) fun absent => absent receiver
  unfold restore_deliveries
  dsimp only
  rw [if_neg unknown,if_neg registered]
  exact ih _ distinct (not_mem_insert first fresh) fun other member => known other (mem_cons_of_mem delivery member)

private theorem restore_queues_eq : ∀ (queues : List ReceiverQueueSnapshot) (router : CrossOperationRouter),
    (queues.map ReceiverQueueSnapshot.receiver).Nodup → (∀ queue ∈ queues, queue.receiver ∉ router.queues) →
    (∀ queue ∈ queues, ∀ other : CrossOperationRouter, other.deliveries = router.deliveries →
      other.check_queue queue.receiver queue.message_ids [] none = .ok ()) →
    restore_queues queues router = .ok { router with
      queues := queues.foldl (fun collected queue => collected.insert queue.receiver queue.message_ids) router.queues } := by
  intro queues
  induction queues with
  | nil => exact fun _ _ _ _ => rfl
  | cons queue rest ih =>
  intro router distinct fresh checked
  obtain ⟨first,distinct⟩ := nodup_cons.mp distinct
  have unknown : ¬ router.queues.contains queue.receiver = true := fresh queue mem_cons_self
  unfold restore_queues
  rw [if_neg unknown,checked queue mem_cons_self router rfl]
  exact ih _ distinct (not_mem_insert first fresh) fun other member => checked other (mem_cons_of_mem queue member)

private theorem restore_sequences_eq : ∀ (sequences : List ReceiverSequenceSnapshot) (router : CrossOperationRouter),
    (sequences.map ReceiverSequenceSnapshot.receiver).Nodup → (∀ sequence ∈ sequences, sequence.receiver ∉ router.last_sequences) →
    (∀ sequence ∈ sequences, sequence.receiver ∈ router.operations) →
    restore_sequences sequences router = .ok { router with
      last_sequences := sequences.foldl
        (fun collected sequence => collected.insert sequence.receiver sequence.last_sequence) router.last_sequences
        } := by
  intro sequences
  induction sequences with
  | nil => exact fun _ _ _ _ => rfl
  | cons sequence rest ih =>
  intro router distinct fresh known
  obtain ⟨first,distinct⟩ := nodup_cons.mp distinct
  have registered : router.operations.contains sequence.receiver = true := known sequence mem_cons_self
  have unknown : ¬ router.last_sequences.contains sequence.receiver = true := fresh sequence mem_cons_self
  unfold restore_sequences
  rw [if_neg (not_not.mpr registered),if_neg unknown]
  exact ih _ distinct (not_mem_insert first fresh) fun other member => known other (mem_cons_of_mem sequence member)

private theorem raise_watermarks_eq : ∀ (deliveries : List DurableDelivery) (router : CrossOperationRouter),
    (∀ delivery ∈ deliveries, ∃ last, router.last_sequences[delivery.message.to]? = some last ∧ delivery.message.sequence ≤ last) →
    deliveries.foldl raise_watermark router = router := by
  intro deliveries
  induction deliveries with
  | nil => exact fun _ _ => rfl
  | cons delivery rest ih =>
  intro router covered
  obtain ⟨last,held,bound⟩ := covered delivery mem_cons_self
  have same : raise_watermark router delivery = router := by
    unfold raise_watermark
    dsimp only
    rw [held,Option.getD_some,max_eq_left bound,insert_held held]
  rw [foldl_cons,same]
  exact ih router fun other member => covered other (mem_cons_of_mem delivery member)

/-- A queue of distinct queued deliveries of its receiver in the order of their sequences is accepted. -/
theorem check_queue_ok (router : CrossOperationRouter) (receiver : OperationAddress) :
    ∀ (ids seen : List String) (last_sequence : Option Nat),
    (∀ id ∈ ids, ∃ delivery, router.deliveries[id]? = some delivery ∧ delivery.message.to = receiver ∧
    delivery.state = .Queued) →
    (∀ id ∈ ids, id ∉ seen) → ids.Nodup →
    (∀ last, last_sequence = some last → ∀ id ∈ ids, ∀ message, router.message_of id = some message →
    last < message.sequence) →
    (ids.Pairwise fun id id' => ∀ message message',
      router.message_of id = some message → router.message_of id' = some message' →
      message.sequence < message'.sequence) →
    router.check_queue receiver ids seen last_sequence = .ok () := by
  intro ids
  induction ids with
  | nil => exact fun _ _ _ _ _ _ _ => rfl
  | cons id rest ih =>
  intro seen last_sequence queued fresh distinct behind ordered
  obtain ⟨first,distinct⟩ := nodup_cons.mp distinct
  obtain ⟨ahead,ordered⟩ := pairwise_cons.mp ordered
  obtain ⟨delivery,held,sent,waits⟩ := queued id mem_cons_self
  have named : router.message_of id = some delivery.message := by
    unfold message_of
    rw [held]
    rfl
  have in_order : ¬ (last_sequence.any fun last => decide (delivery.message.sequence ≤ last)) = true := by
    cases last_sequence with
    | none => simp
    | some last =>
    have later := behind last rfl id mem_cons_self delivery.message named
    simpa using later
  unfold check_queue
  rw [if_neg (fresh id mem_cons_self),held]
  dsimp only
  rw [if_neg (not_not.mpr sent),if_neg (not_not.mpr waits),if_neg in_order]
  refine ih (id :: seen) (some delivery.message.sequence) (fun other member => queued other (mem_cons_of_mem id member))
    (fun other member held => ?_) distinct (fun last same other member message known => ?_) ordered
  · obtain rfl | before := mem_cons.mp held
    · exact first member
    · exact fresh other (mem_cons_of_mem id member) before
  · cases same
    exact ahead other member delivery.message message named known

private theorem replay_eq : ∀ (entries : List (OperationAddress × String × Nat)) (router : CrossOperationRouter), (entries.map Prod.fst).Nodup →
    entries.foldl replay router = { router with
      queues := entries.foldl (fun collected entry => collected.insert entry.1 (entry.2.1 :: router.queue_of entry.1)) router.queues } := by
  intro entries
  induction entries with
  | nil => exact fun _ _ => rfl
  | cons entry rest ih =>
  intro router distinct
  obtain ⟨first,distinct⟩ := nodup_cons.mp distinct
  rw [foldl_cons,ih (replay router entry) distinct]
  have others : rest.foldl (fun collected other => collected.insert other.1 (other.2.1 :: (replay router entry).queue_of other.1))
      (replay router entry).queues =
      rest.foldl (fun collected other => collected.insert other.1 (other.2.1 :: router.queue_of other.1)) (replay router entry).queues := by
    refine foldl_ext _ _ _ fun collected other member => ?_
    have different : other.1 ≠ entry.1 := fun same => first (same ▸ mem_map_of_mem member)
    have moved : (replay router entry).queue_of other.1 = router.queue_of other.1 := (queue_of_insert rfl other.1).trans (if_neg different)
    rw [moved]
  rw [others]
  rfl

/-! What is in flight. -/

theorem mem_in_flight_ids (valid : Valid router) (receiver : OperationAddress) (id : String) :
    id ∈ router.in_flight_ids receiver ↔
    ∃ delivery, router.deliveries[id]? = some delivery ∧ delivery.message.to = receiver ∧
    delivery.state = .InFlight := by
  unfold in_flight_ids
  simp only [mem_map,mem_filter,Bool.and_eq_true,decide_eq_true_eq,beq_iff_eq,mem_values]
  constructor
  · rintro ⟨delivery,⟨⟨name,held⟩,sent,out⟩,rfl⟩
    have named := valid.keyed name delivery held
    dsimp only at named
    subst named
    exact ⟨delivery,held,sent,out⟩
  · rintro ⟨delivery,held,sent,out⟩
    exact ⟨delivery,⟨⟨id,held⟩,sent,out⟩,valid.keyed id delivery held⟩

variable {id : String} {receiver : OperationAddress}

private theorem in_flight_ids_one (valid : Valid router) {delivery : DurableDelivery} (held : router.deliveries[id]? = some delivery)
    (out : delivery.state = .InFlight) : router.in_flight_ids delivery.message.to = [id] := by
  have distinct : (router.in_flight_ids delivery.message.to).Nodup := valid.keyed.nodup.sublist (filter_sublist.map _)
  have member := (mem_in_flight_ids valid delivery.message.to id).mpr ⟨delivery,held,rfl,out⟩
  have only : ∀ other ∈ router.in_flight_ids delivery.message.to, other = id := by
    intro other listed
    obtain ⟨other_delivery,other_held,sent,other_out⟩ := (mem_in_flight_ids valid delivery.message.to other).mp listed
    exact valid.one_in_flight other_held held other_out out sent
  exact perm_singleton.mp ((perm_ext_iff_of_nodup distinct (nodup_singleton id)).mpr fun other =>
    ⟨fun listed => mem_singleton.mpr (only other listed),fun same => mem_singleton.mp same ▸ member⟩)

theorem requeue_get (router : CrossOperationRouter) (id : String) :
    router.requeue.deliveries[id]? = router.deliveries[id]?.map requeued :=
  ExtTreeMap.getElem?_map

theorem requeue_message_of (router : CrossOperationRouter) (id : String) :
    router.requeue.message_of id = router.message_of id := by
  unfold message_of
  rw [requeue_get,Option.map_map]
  cases router.deliveries[id]? with
  | none => rfl
  | some delivery => exact congrArg some (requeued_message delivery)

private theorem requeue_state_of (router : CrossOperationRouter) (id : String) :
    router.requeue.state_of id = (router.state_of id).map fun state => if state = .InFlight then .Queued else state := by
  unfold state_of
  rw [requeue_get,Option.map_map,Option.map_map]
  cases router.deliveries[id]? with
  | none => rfl
  | some delivery => exact congrArg some (requeued_state delivery)

theorem requeue_queued : router.requeue.state_of id = some .Queued ↔ router.Pending id := by
  rw [requeue_state_of]
  unfold Pending
  cases router.state_of id with
  | none => simp
  | some state => cases state <;> simp

private theorem requeue_not_in_flight (id : String) : router.requeue.state_of id ≠ some .InFlight := by
  rw [requeue_state_of]
  cases router.state_of id with
  | none => simp
  | some state => cases state <;> simp

private theorem in_flight_ids_empty (valid : Valid router) (absent : receiver ∉ router.queues) :
    router.in_flight_ids receiver = [] := by
  refine eq_nil_iff_forall_not_mem.mpr fun id member => ?_
  obtain ⟨delivery,held,sent,_⟩ := (mem_in_flight_ids valid receiver id).mp member
  refine absent (sent ▸ valid.opened id delivery.message ?_)
  unfold message_of
  rw [held]
  rfl

theorem requeue_queue_of (valid : Valid router) (receiver : OperationAddress) :
    router.requeue.queue_of receiver = router.in_flight_ids receiver ++ router.queue_of receiver := by
  have mapped : router.requeue.queues[receiver]? = router.queues[receiver]?.map fun queue => router.in_flight_ids receiver ++ queue :=
    ExtTreeMap.getElem?_map
  unfold queue_of
  rw [mapped]
  cases held : router.queues[receiver]? with
  | some queue => rfl
  | none =>
  rw [in_flight_ids_empty valid]
  · rfl
  · rw [ExtTreeMap.mem_iff_isSome_getElem?,held]
    exact Bool.false_ne_true

theorem in_flight_ids_flying (valid : Valid router) (member : id ∈ router.in_flight_ids receiver) :
    router.in_flight_ids receiver = [id] ∧ router.state_of id = some .InFlight ∧
      ∃ message, router.message_of id = some message ∧ message.to = receiver := by
  obtain ⟨delivery,held,rfl,out⟩ := (mem_in_flight_ids valid receiver id).mp member
  refine ⟨in_flight_ids_one valid held out,?_,delivery.message,?_,rfl⟩
  · unfold state_of
    rw [held,Option.map_some,out]
  · unfold message_of
    rw [held]
    rfl

private theorem requeue_kept (router : CrossOperationRouter) : Kept router router.requeue :=
  ⟨rfl,fun keyed => keyed,fun _ => Iff.rfl,fun _ shut => shut,fun _ member => ExtTreeMap.mem_map.mpr member,rfl,requeue_message_of router,
    fun id pending => requeue_queued.mp (pending.resolve_right (requeue_not_in_flight id))⟩

section
variable (valid : Valid router)
include valid

/-- What comes back is as sound as what was written, and in the same order. -/
theorem Valid.requeue : Valid router.requeue := by
  refine valid.kept (requeue_kept router) (fun receiver id member => ?_) (fun id message named waiting => ?_) (fun receiver => ?_)
    (fun id message id' message' flies _ _ _ _ => (requeue_not_in_flight id flies).elim)
  · rw [requeue_queue_of valid] at member
    rw [requeue_message_of]
    obtain out | waits := mem_append.mp member
    · obtain ⟨_,flies,named⟩ := in_flight_ids_flying valid out
      exact ⟨requeue_queued.mpr (.inr flies),named⟩
    · obtain ⟨waits,named⟩ := valid.queued receiver id waits
      exact ⟨requeue_queued.mpr (.inl waits),named⟩
  · rw [requeue_queue_of valid]
    rw [requeue_message_of] at named
    obtain waits | flies := requeue_queued.mp waiting
    · exact mem_append_right _ (valid.listed id message named waits)
    obtain ⟨delivery,held,out⟩ := state_of_eq flies
    refine mem_append_left _ ((mem_in_flight_ids valid message.to id).mpr ⟨delivery,held,?_,out⟩)
    unfold message_of at named
    rw [held] at named
    rw [Option.some.inj named]
  rw [requeue_queue_of valid]
  simp only [requeue_message_of]
  refine pairwise_append.mpr ⟨?_,valid.ordered receiver,fun id member id' member' message message' named named' => ?_⟩
  · cases out : router.in_flight_ids receiver with
    | nil => exact List.Pairwise.nil
    | cons id rest =>
    have listed : id ∈ router.in_flight_ids receiver := by
      rw [out]
      exact mem_cons_self
    have one := (in_flight_ids_flying valid listed).1
    rw [out] at one
    rw [one]
    exact pairwise_singleton _ id
  obtain ⟨_,flies,other,known,sent⟩ := in_flight_ids_flying valid member
  obtain ⟨waits,other',known',sent'⟩ := valid.queued receiver id' member'
  rw [known] at named
  rw [known'] at named'
  cases named
  cases named'
  refine (valid.in_front id _ id' _ flies known (.inl waits) known' (sent'.trans sent.symm)).resolve_left ?_
  rintro rfl
  rw [flies] at waits
  cases waits

/-! The whole of a snapshot. -/

/-- The queued deliveries a restore finds in no queue are those that were in flight. -/
theorem mem_replay_ids (entry : OperationAddress × String × Nat) :
    entry ∈ replay_ids { router with deliveries := router.deliveries.map fun _ => requeued } ↔
      ∃ delivery, router.deliveries[entry.2.1]? = some delivery ∧ delivery.state = .InFlight ∧
        entry = (delivery.message.to,entry.2.1,delivery.message.sequence) := by
  unfold replay_ids
  rw [mem_insertionSort,mem_map]
  simp only [values_map,mem_filter,mem_map,mem_values,Bool.and_eq_true,beq_iff_eq,Bool.not_eq_true',contains_eq_mem,
    decide_eq_false_iff_not]
  constructor
  · rintro ⟨_,⟨⟨delivery,⟨id,held⟩,rfl⟩,waits,unlisted⟩,rfl⟩
    have named := valid.keyed id delivery held
    dsimp only at named
    subst named
    rw [requeued_message] at unlisted ⊢
    refine ⟨delivery,held,?_,rfl⟩
    rw [requeued_state] at waits
    split at waits
    next out => exact out
    next =>
      refine (unlisted ((valid.mem_queue_of delivery.message.to delivery.message.id).mpr ⟨delivery,held,rfl,waits⟩)).elim
  obtain ⟨receiver,id,sequence⟩ := entry
  rintro ⟨delivery,held,out,same⟩
  have named := valid.keyed id delivery held
  dsimp only at named held
  subst named
  refine ⟨requeued delivery,⟨⟨delivery,⟨_,held⟩,rfl⟩,?_,fun member => ?_⟩,?_⟩
  · rw [requeued_state,if_pos out]
  · rw [requeued_message] at member
    obtain ⟨other,known,_,waits⟩ := (valid.mem_queue_of delivery.message.to delivery.message.id).mp member
    rw [held] at known
    cases known
    rw [out] at waits
    cases waits
  · rw [requeued_message,same]

private theorem replay_receivers :
    ((replay_ids { router with deliveries := router.deliveries.map fun _ => requeued }).map Prod.fst).Nodup := by
  have distinct : (replay_ids { router with deliveries := router.deliveries.map fun _ => requeued }).Nodup := by
    refine (perm_insertionSort _ _).nodup_iff.mpr (List.Nodup.of_map (fun entry : OperationAddress × String × Nat => entry.2.1) ?_)
    rw [map_map,values_map]
    refine List.Nodup.sublist (filter_sublist.map _) ?_
    rw [map_map]
    refine (congrArg List.Nodup (map_congr_left fun delivery _ => ?_)).mpr valid.keyed.nodup
    exact congrArg CrossOperationMessage.id (requeued_message delivery)
  refine distinct.map_on fun entry member entry' member' same => ?_
  obtain ⟨delivery,held,out,equal⟩ := (mem_replay_ids valid entry).mp member
  obtain ⟨delivery',held',out',equal'⟩ := (mem_replay_ids valid entry').mp member'
  rw [equal,equal'] at same
  have one := valid.one_in_flight held held' out out' same
  rw [one] at held
  rw [held'] at held
  cases held
  rw [equal,equal',one]

/-- Each delivery in flight goes in front of its own queue. -/
theorem replay_queues :
    (replay_ids { router with deliveries := router.deliveries.map fun _ => requeued }).reverse.foldl
        (fun collected entry => collected.insert entry.1 (entry.2.1 :: router.queue_of entry.1)) router.queues =
        router.requeue.queues := by
  have distinct : ((replay_ids { router with deliveries := router.deliveries.map fun _ => requeued }).reverse.map Prod.fst).Nodup := by
    rw [map_reverse]
    exact nodup_reverse.mpr (replay_receivers valid)
  apply ExtTreeMap.ext_getElem?
  intro receiver
  have mapped : router.requeue.queues[receiver]? = router.queues[receiver]?.map fun queue => router.in_flight_ids receiver ++ queue :=
    ExtTreeMap.getElem?_map
  rw [mapped]
  cases out : router.in_flight_ids receiver with
  | nil =>
    rw [foldl_insert_of_not_mem Prod.fst fun entry : OperationAddress × String × Nat => entry.2.1 :: router.queue_of entry.1]
    · cases router.queues[receiver]? <;> rfl
    intro member
    obtain ⟨entry,listed,rfl⟩ := mem_map.mp member
    obtain ⟨delivery,held,flies,equal⟩ := (mem_replay_ids valid entry).mp (mem_reverse.mp listed)
    have one := in_flight_ids_one valid held flies
    rw [equal] at out
    rw [one] at out
    cases out
  | cons id rest =>
  have member : id ∈ router.in_flight_ids receiver := by
    rw [out]
    exact mem_cons_self
  obtain ⟨delivery,held,rfl,flies⟩ := (mem_in_flight_ids valid receiver id).mp member
  rw [in_flight_ids_one valid held flies] at out
  cases out
  have listed := mem_reverse.mpr ((mem_replay_ids valid (delivery.message.to,id,delivery.message.sequence)).mpr ⟨delivery,held,flies,rfl⟩)
  have named : router.message_of id = some delivery.message := by
    unfold message_of
    rw [held]
    rfl
  have queue := valid.opened id delivery.message named
  rw [ExtTreeMap.mem_iff_isSome_getElem?] at queue
  obtain ⟨waiting,found⟩ := Option.isSome_iff_exists.mp queue
  have collected := foldl_insert_of_nodup Prod.fst (fun entry : OperationAddress × String × Nat => entry.2.1 :: router.queue_of entry.1) distinct
    listed router.queues
  refine collected.trans ?_
  unfold queue_of
  rw [found]
  rfl

theorem Valid.from_snapshot : from_snapshot router.snapshot = .ok router.requeue := by
  let blank := new router.max_pending_per_recipient
  have operations : restore_operations router.snapshot.operations blank = .ok { blank with operations := router.operations } := by
    refine (restore_operations_eq _ blank valid.operations_keyed.nodup fun _ _ => ExtTreeMap.not_mem_empty).trans ?_
    have unchanged : (router.operations.map fun _ => id) = router.operations := by
      apply ExtTreeMap.ext_getElem?
      intro address
      rw [ExtTreeMap.getElem?_map]
      exact Option.map_id_apply
    exact congrArg (fun operations => Except.ok { blank with operations }) ((valid.operations_keyed.foldl_values id).trans unchanged)
  have deliveries : restore_deliveries router.snapshot.deliveries { blank with operations := router.operations } =
      .ok { blank with operations := router.operations, deliveries := router.requeue.deliveries } := by
    refine (restore_deliveries_eq _ _ valid.keyed.nodup (fun _ _ => ExtTreeMap.not_mem_empty) fun delivery member => ?_).trans ?_
    · obtain ⟨id,held⟩ := mem_values.mp member
      refine valid.registered id delivery.message ?_
      unfold message_of
      rw [held]
      rfl
    · exact congrArg (fun deliveries => Except.ok { blank with operations := router.operations, deliveries }) (valid.keyed.foldl_values requeued)
  have receivers : (router.queues.toList.map Prod.fst).Nodup ∧ (router.last_sequences.toList.map Prod.fst).Nodup := by
    rw [ExtTreeMap.map_fst_toList_eq_keys,ExtTreeMap.map_fst_toList_eq_keys]
    exact ⟨ExtTreeMap.nodup_keys,ExtTreeMap.nodup_keys⟩
  have queues : restore_queues router.snapshot.queues { blank with operations := router.operations, deliveries := router.requeue.deliveries } =
      .ok { router.requeue with queues := router.queues, last_sequences := ∅ } := by
    refine (restore_queues_eq _ _ ?_ (fun _ _ => ExtTreeMap.not_mem_empty) fun queue member other same => ?_).trans ?_
    · unfold snapshot
      rw [map_map]
      exact receivers.1
    · obtain ⟨⟨receiver,ids⟩,listed,rfl⟩ := mem_map.mp member
      have held : router.queue_of receiver = ids := by
        unfold queue_of
        rw [ExtTreeMap.mem_toList_iff_getElem?_eq_some.mp listed]
        rfl
      have messages : ∀ id, other.message_of id = router.message_of id := by
        intro id
        unfold message_of
        rw [same]
        exact requeue_message_of router id
      refine check_queue_ok other receiver ids [] none (fun id member => ?_) (fun _ _ => not_mem_nil) (held ▸ valid.queue_nodup receiver)
        (fun _ absent => (nomatch absent)) ?_
      · rw [same]
        exact (valid.requeue.mem_queue_of receiver id).mp (by
          rw [requeue_queue_of valid,held]
          exact mem_append_right _ member)
      · simp only [messages]
        exact held ▸ valid.ordered receiver
    · unfold snapshot
      rw [foldl_map]
      exact congrArg (fun queues => Except.ok { router.requeue with queues, last_sequences := ∅ }) (foldl_toList router.queues)
  have sequences : restore_sequences router.snapshot.last_sequences { router.requeue with last_sequences := ∅ } = .ok router.requeue := by
    refine (restore_sequences_eq _ _ ?_ (fun _ _ => ExtTreeMap.not_mem_empty) fun sequence member => ?_).trans ?_
    · unfold snapshot
      rw [map_map]
      exact receivers.2
    · obtain ⟨⟨receiver,last⟩,listed,rfl⟩ := mem_map.mp member
      refine valid.sequenced receiver ?_
      rw [ExtTreeMap.mem_iff_isSome_getElem?,ExtTreeMap.mem_toList_iff_getElem?_eq_some.mp listed]
      rfl
    · unfold snapshot
      rw [foldl_map]
      exact congrArg (fun last_sequences => Except.ok { router.requeue with last_sequences }) (foldl_toList router.last_sequences)
  have replayed : (replay_ids { router.requeue with queues := router.queues, last_sequences := ∅ }).reverse.foldl replay
      { router.requeue with queues := router.queues, last_sequences := ∅ } = { router.requeue with last_sequences := ∅ } := by
    have entries : replay_ids { router.requeue with queues := router.queues, last_sequences := ∅ } =
        replay_ids { router with deliveries := router.deliveries.map fun _ => requeued } := rfl
    rw [entries,replay_eq]
    · exact congrArg (fun queues => { router.requeue with queues, last_sequences := ∅ }) (replay_queues valid)
    · rw [map_reverse]
      exact nodup_reverse.mpr (replay_receivers valid)
  have raised : (values router.requeue.deliveries).foldl raise_watermark router.requeue = router.requeue := by
    refine raise_watermarks_eq _ router.requeue fun delivery member => ?_
    obtain ⟨id,held⟩ := mem_values.mp member
    refine valid.requeue.watermark id delivery.message ?_
    unfold message_of
    rw [held]
    rfl
  unfold CrossOperationRouter.from_snapshot
  rw [show new router.snapshot.max_pending_per_recipient = blank from rfl,operations]
  show (restore_deliveries _ _ >>= _) = _
  rw [deliveries]
  show (restore_queues _ _ >>= _) = _
  rw [queues]
  show (restore_sequences _ _ >>= _) = _
  rw [replayed,sequences]
  show Except.ok _ = _
  rw [raised]

end

/-! What a restored router answers. -/

/-- The calls of the operations themselves; to dispatch and to settle is the transport's part. -/
def Op.Submits : Op → Prop
  | .register _ | .route .. | .cancel_operation _ => True
  | .dispatch_next .. | .settle .. => False

/-- The answer to a route. -/
def verdict (router : CrossOperationRouter) : Op → List RouteOutcome
  | .route message now_turn payload_availability => [(router.route message now_turn payload_availability).1]
  | _ => []

/-- The answers to the routes of a run, in order. -/
def verdicts : List Op → CrossOperationRouter → List RouteOutcome
  | [],_ => []
  | op :: rest,router => router.verdict op ++ verdicts rest (router.step op)

/-- A duplicate of what was in flight is a duplicate of what is queued again. -/
def requeued_verdict : RouteOutcome → RouteOutcome
  | .Duplicate .InFlight => .Duplicate .Queued
  | verdict => verdict

/-- The two know the same operations and messages, and what is in flight in one is queued in the other. -/
structure Alike (live restored : CrossOperationRouter) : Prop where
  max_pending : restored.max_pending_per_recipient = live.max_pending_per_recipient
  operations : restored.operations = live.operations
  last_sequences : restored.last_sequences = live.last_sequences
  deliveries : restored.deliveries = live.deliveries.map fun _ => requeued

section
variable {live restored : CrossOperationRouter}

private theorem Alike.get (alike : Alike live restored) (id : String) : restored.deliveries[id]? = live.deliveries[id]?.map requeued := by
  rw [alike.deliveries]
  exact ExtTreeMap.getElem?_map

theorem Alike.pending_for (alike : Alike live restored) (receiver : OperationAddress) :
    restored.pending_for receiver = live.pending_for receiver := by
  unfold CrossOperationRouter.pending_for
  rw [alike.deliveries,values_map,filter_map,length_map]
  refine congrArg length (filter_congr fun delivery _ => ?_)
  rw [Function.comp_apply,requeued_message,requeued_pending]

private theorem map_insert_requeued (deliveries : ExtTreeMap String DurableDelivery compare) (id : String) (delivery : DurableDelivery)
    (waits : requeued delivery = delivery) :
    (deliveries.map fun _ => requeued).insert id delivery = (deliveries.insert id delivery).map fun _ => requeued := by
  apply ExtTreeMap.ext_getElem?
  intro other
  rw [ExtTreeMap.getElem?_map,ExtTreeMap.getElem?_insert,ExtTreeMap.getElem?_insert]
  split
  next => exact congrArg some waits.symm
  next => exact ExtTreeMap.getElem?_map

/-- One message, sent to both: the same answer, and both take it or neither. -/
theorem Alike.route (alike : Alike live restored) (message : CrossOperationMessage) (now_turn : Nat)
    (payload_availability : PayloadAvailability) :
    (restored.route message now_turn payload_availability).1 =
    requeued_verdict (live.route message now_turn payload_availability).1 ∧
      Alike (live.route message now_turn payload_availability).2
      (restored.route message now_turn payload_availability).2 := by
  unfold CrossOperationRouter.route
  rw [alike.get]
  cases live.deliveries[message.id]? with
  | some existing =>
    refine ⟨?_,alike⟩
    dsimp only [Option.map_some]
    rw [requeued_message,requeued_state]
    split
    next => cases existing.state <;> rfl
    next => rfl
  | none =>
  dsimp only [Option.map_none]
  rw [alike.operations,alike.last_sequences,alike.max_pending,alike.pending_for]
  cases live.operations[message.from]? with
  | none => exact ⟨rfl,alike⟩
  | some source =>
  cases live.operations[message.to]? with
  | none => exact ⟨rfl,alike⟩
  | some receiver =>
  dsimp only
  cases refusal source receiver message now_turn payload_availability with
  | some failure => exact ⟨rfl,alike⟩
  | none =>
  dsimp only
  split
  next => exact ⟨rfl,alike⟩
  next =>
  split
  next => exact ⟨rfl,alike⟩
  next =>
  refine ⟨rfl,rfl,rfl,rfl,?_⟩
  exact (congrArg (fun deliveries => deliveries.insert message.id ⟨message,.Queued,0⟩) alike.deliveries).trans
    (map_insert_requeued live.deliveries message.id ⟨message,.Queued,0⟩ rfl)

private theorem cancel_requeued (address : OperationAddress) (delivery : DurableDelivery) :
    cancel_delivery address (requeued delivery) = requeued (cancel_delivery address delivery) := by
  unfold cancel_delivery
  rw [requeued_message,requeued_pending]
  split
  next => unfold requeued; split <;> rfl
  next => rfl

theorem Alike.cancel_operation (alike : Alike live restored) (address : OperationAddress) :
    Alike (live.cancel_operation address).2 (restored.cancel_operation address).2 := by
  rw [cancel_operation_eq,cancel_operation_eq,alike.operations]
  cases live.operations[address]? with
  | none => exact alike
  | some operation =>
  refine ⟨alike.max_pending,?_,alike.last_sequences,?_⟩
  · exact congrArg (fun operations => operations.insert address { operation with cancelled := true }) alike.operations
  · apply ExtTreeMap.ext_getElem?
    intro id
    rw [cancelling_get,alike.get,ExtTreeMap.getElem?_map,cancelling_get,Option.map_map,Option.map_map]
    exact congrArg (fun change => live.deliveries[id]?.map change) (funext (cancel_requeued address))

theorem Alike.step (alike : Alike live restored) {op : Op} (submits : op.Submits) :
    restored.verdict op = (live.verdict op).map requeued_verdict ∧ Alike (live.step op) (restored.step op) := by
  cases op with
  | register registration =>
    exact ⟨rfl,alike.max_pending,congrArg (fun operations => operations.insert registration.address registration) alike.operations,
      alike.last_sequences,alike.deliveries⟩
  | route message now_turn payload_availability =>
    obtain ⟨same,after⟩ := alike.route message now_turn payload_availability
    exact ⟨congrArg (fun verdict => [verdict]) same,after⟩
  | cancel_operation address => exact ⟨rfl,alike.cancel_operation address⟩
  | dispatch_next | settle => exact submits.elim

theorem Alike.verdicts (more : List Op) : ∀ {live restored : CrossOperationRouter}, Alike live restored →
    (∀ op ∈ more, op.Submits) →
    CrossOperationRouter.verdicts more restored = (CrossOperationRouter.verdicts more live).map requeued_verdict := by
  induction more with
  | nil => exact fun _ _ => rfl
  | cons op rest ih =>
  intro live restored alike submits
  obtain ⟨same,after⟩ := alike.step (submits op mem_cons_self)
  unfold CrossOperationRouter.verdicts
  rw [map_append,same,ih after fun other member => submits other (mem_cons_of_mem op member)]

end

private theorem requeue_requeue (valid : Valid router) : router.requeue.requeue = router.requeue := by
  have none_out : ∀ receiver, router.requeue.in_flight_ids receiver = [] := by
    intro receiver
    refine eq_nil_iff_forall_not_mem.mpr fun id member => ?_
    exact requeue_not_in_flight id (in_flight_ids_flying valid.requeue member).2.1
  have deliveries : router.requeue.requeue.deliveries = router.requeue.deliveries := by
    apply ExtTreeMap.ext_getElem?
    intro id
    rw [requeue_get,requeue_get,Option.map_map]
    refine congrArg (fun change => router.deliveries[id]?.map change) (funext fun delivery => ?_)
    unfold requeued Function.comp
    dsimp only
    split <;> simp_all
  have queues : router.requeue.requeue.queues = router.requeue.queues := by
    apply ExtTreeMap.ext_getElem?
    intro receiver
    refine ExtTreeMap.getElem?_map.trans ?_
    rw [none_out]
    exact Option.map_id_apply
  exact congrArg₂ (fun deliveries queues => { router.requeue with deliveries, queues }) deliveries queues

/-- Every router a run reaches comes back from its snapshot, as it was but for what was in flight: that is
queued again in front of its queue. Each pending delivery stands in the queue of its receiver once, in the
order of the sequences; later messages get the same answers; and a second snapshot changes nothing. -/
theorem snapshot_restores (max_pending_per_recipient : Nat) (ops : List Op) :
    let router := run ops (new max_pending_per_recipient)
    from_snapshot router.snapshot = .ok router.requeue ∧
    (∀ id : String, router.requeue.deliveries[id]? = router.deliveries[id]?.map requeued) ∧
    (∀ receiver,
      router.requeue.queue_of receiver = router.in_flight_ids receiver ++ router.queue_of receiver ∧
      (router.requeue.queue_of receiver).Nodup ∧
      (router.requeue.queue_of receiver).Pairwise (fun id id' => ∀ message message',
        router.message_of id = some message → router.message_of id' = some message' → message.sequence < message'.sequence) ∧
      ∀ id, id ∈ router.requeue.queue_of receiver ↔
        ∃ message, router.message_of id = some message ∧ message.to = receiver ∧ router.Pending id) ∧
    (∀ more, (∀ op ∈ more, op.Submits) →
      verdicts more router.requeue = (verdicts more router).map requeued_verdict) ∧
    from_snapshot router.requeue.snapshot = .ok router.requeue := by
  intro router
  have valid := (new_valid max_pending_per_recipient).run ops
  refine ⟨valid.from_snapshot,requeue_get _,fun receiver =>
    ⟨requeue_queue_of valid receiver,valid.requeue.queue_nodup receiver,?_,fun id => ⟨fun member => ?_,?_⟩⟩,
    fun more submits => Alike.verdicts more ⟨rfl,rfl,rfl,rfl⟩ submits,?_⟩
  · have ordered := valid.requeue.ordered receiver
    simp only [requeue_message_of] at ordered
    exact ordered
  · obtain ⟨waits,message,named,sent⟩ := valid.requeue.queued receiver id member
    exact ⟨message,(requeue_message_of _ id).symm.trans named,sent,requeue_queued.mp waits⟩
  · rintro ⟨message,named,rfl,pending⟩
    exact valid.requeue.listed id message ((requeue_message_of _ id).trans named) (requeue_queued.mpr pending)
  · rw [valid.requeue.from_snapshot,requeue_requeue valid]

end

end CrossOperationRouter

end Deepstrike.CrossOperation

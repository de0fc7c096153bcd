import Deepstrike.Signals

/-!
What one call of the signal router does: which entries the queue holds after it, which keys the window
holds, and what the call reports.
-/
namespace Deepstrike.Signals
open Heaps Tasks List PrioritizedSignal UrgencyBasedPolicy

variable {P : Type} (heap : BinaryHeap (priority (P := P)))

namespace SignalQueue

def ids (queue : SignalQueue P) : List String := queue.heap.map fun queued => queued.signal.id

/-- A queue without room, none of whose entries the signal may join or displace. -/
structure Refuses (queue : SignalQueue P) (signal : RuntimeSignal P) : Prop where
  alone : queue.coalesces_with signal = none
  full : queue.max_size ≤ queue.heap.length
  outranked : ∀ lowest, queue.lowest = some lowest → signal.urgency ≤ lowest

/-- The ways a queue takes a signal, with what it displaces. -/
inductive Takes (queue : SignalQueue P) (signal : RuntimeSignal P) (deadline_escalated : Bool) :
    Option (RuntimeSignal P) → List String → SignalQueue P → Prop where
  | coalesced (existing : PrioritizedSignal P) (found : queue.coalesces_with signal = some existing) :
    Takes queue signal deadline_escalated none [] { queue with heap := heap.collect (queue.heap.map fun queued =>
      if queued.signal.id = existing.signal.id then queued.coalesce signal deadline_escalated else queued) }
  | entered (alone : queue.coalesces_with signal = none) (room : queue.heap.length < queue.max_size) :
    Takes queue signal deadline_escalated none [] { queue with heap := heap.push (.new signal deadline_escalated) queue.heap }
  | displaced (lowest : Urgency) (removed : PrioritizedSignal P) (alone : queue.coalesces_with signal = none)
      (full : queue.max_size ≤ queue.heap.length) (least : queue.lowest = some lowest) (outranks : lowest < signal.urgency)
      (held : removed ∈ queue.heap) (chosen : queue.displacement lowest = some removed.signal.id) :
    Takes queue signal deadline_escalated (some removed.signal) removed.dedupe_keys { queue with
      heap := heap.push (.new signal deadline_escalated)
        (heap.collect (queue.heap.filter fun queued => queued.signal.id ≠ removed.signal.id)) }

private theorem displacement_held {queue : SignalQueue P} {lowest : Urgency} (least : queue.lowest = some lowest) :
    ∃ queued ∈ queue.heap, queue.displacement lowest = some queued.signal.id := by
  unfold SignalQueue.lowest at least
  obtain ⟨first,member,urgency⟩ := mem_map.mp (min?_mem least)
  have candidate : first ∈ queue.heap.filter fun queued => queued.urgency = lowest := mem_filter.mpr ⟨member,decide_eq_true urgency⟩
  unfold displacement
  cases chosen : (queue.heap.filter fun queued => queued.urgency = lowest).argmax fun queued => toLex (queued.timestamp_ms,queued.signal.id) with
  | none =>
    rw [argmax_eq_none] at chosen
    rw [chosen] at candidate
    cases candidate
  | some queued => exact ⟨queued,(mem_filter.mp (argmax_mem chosen)).1,rfl⟩

private theorem admit_takes (queue : SignalQueue P) (signal : RuntimeSignal P) (deadline_escalated : Bool) :
    queue.admit_with_deadline_state heap signal deadline_escalated = (⟨false,none,[]⟩,queue) ∧ queue.Refuses signal ∨
    ∃ displaced keys after, queue.admit_with_deadline_state heap signal deadline_escalated = (⟨true,displaced,keys⟩,after) ∧
      queue.Takes heap signal deadline_escalated displaced keys after := by
  unfold admit_with_deadline_state
  cases found : queue.coalesces_with signal with
  | some existing => exact .inr ⟨_,_,_,rfl,.coalesced existing found⟩
  | none =>
  dsimp only
  split
  next room => exact .inr ⟨_,_,_,rfl,.entered found room⟩
  next full =>
  have full := Nat.le_of_not_lt full
  cases least : queue.lowest with
  | none =>
    refine .inl ⟨rfl,found,full,fun lowest same => ?_⟩
    rw [least] at same
    cases same
  | some lowest =>
  dsimp only
  split
  next outranked =>
    refine .inl ⟨rfl,found,full,fun other same => ?_⟩
    rw [least] at same
    cases same
    exact outranked
  next outranks =>
  obtain ⟨queued,member,chosen⟩ := displacement_held least
  rw [chosen]
  simp only [Option.some.injEq,ne_eq]
  cases removed : (queue.heap.filter fun other => decide (other.signal.id = queued.signal.id)).getLast? with
  | none =>
    rw [getLast?_eq_none_iff,filter_eq_nil_iff] at removed
    exact (removed queued member (decide_eq_true rfl)).elim
  | some last =>
  have listed := mem_filter.mp (mem_of_getLast? removed)
  have same : last.signal.id = queued.signal.id := of_decide_eq_true listed.2
  rw [← same]
  exact .inr ⟨_,_,_,rfl,.displaced lowest last found full least (lt_of_not_ge outranks) listed.1 (same ▸ chosen)⟩

end SignalQueue

namespace SignalRouter

/-! The window. -/

theorem release_all (keys : List String) :
    ∀ router : SignalRouter P, keys.foldl release_dedupe_key router = { router with
    seen := router.seen \ keys.toFinset, seen_order := router.seen_order.filter fun key => key ∉ keys } := by
  induction keys with
  | nil =>
    intro router
    simp
  | cons key rest ih =>
  intro router
  rw [foldl_cons,ih]
  unfold release_dedupe_key
  have seen : router.seen.erase key \ rest.toFinset = router.seen \ (key :: rest).toFinset := by
    ext other
    simp only [Finset.mem_sdiff,Finset.mem_erase,mem_toFinset,mem_cons]
    tauto
  have order : (router.seen_order.filter fun seen_key => seen_key ≠ key).filter (fun other => other ∉ rest) =
      router.seen_order.filter fun other => other ∉ key :: rest := by
    rw [filter_filter]
    refine filter_congr fun other _ => ?_
    simp only [mem_cons,not_or,Bool.decide_and]
    exact Bool.and_comm _ _
  rw [seen,order]

/-- The set is the list of its keys, none twice and no more than the window holds. -/
structure Window (router : SignalRouter P) : Prop where
  listed : router.seen = router.seen_order.toFinset
  distinct : router.seen_order.Nodup
  capacity : router.dedupe_capacity = DEFAULT_DEDUPE_CAPACITY
  bounded : router.seen_order.length ≤ DEFAULT_DEDUPE_CAPACITY

variable {router : SignalRouter P}

theorem Window.mem (window : Window router) (key : String) : key ∈ router.seen ↔ key ∈ router.seen_order := by
  rw [window.listed,mem_toFinset]

theorem Window.release (window : Window router) (keys : List String) (queue : SignalQueue P) :
    Window (keys.foldl release_dedupe_key { router with queue }) := by
  rw [release_all]
  refine ⟨?_,window.distinct.filter _,window.capacity,(length_filter_le _ _).trans window.bounded⟩
  ext key
  simp only [Finset.mem_sdiff,window.mem,mem_toFinset,mem_filter,decide_eq_true_eq]

/-- A key that is committed enters the window, and the oldest leaves a full one. -/
theorem commit_cases (window : Window router) (key : String) :
    router.seen_order.length < DEFAULT_DEDUPE_CAPACITY ∧
      router.commit_dedupe key =
      { router with seen := insert key router.seen, seen_order := router.seen_order ++ [key] } ∨
    ∃ expired rest, router.seen_order = expired :: rest ∧ rest.length+1 = DEFAULT_DEDUPE_CAPACITY ∧
      router.commit_dedupe key = { router with seen := insert key (router.seen.erase expired), seen_order :=
      rest ++ [key] } := by
  unfold commit_dedupe
  rw [window.capacity]
  by_cases full : router.seen_order.length = DEFAULT_DEDUPE_CAPACITY
  · rw [if_pos full]
    cases order : router.seen_order with
    | nil =>
      rw [order] at full
      cases full
    | cons expired rest =>
    rw [order] at full
    exact .inr ⟨expired,rest,rfl,full,rfl⟩
  · rw [if_neg full]
    exact .inl ⟨Nat.lt_of_le_of_ne window.bounded full,rfl⟩

/-- A fresh key keeps the window of dedupe keys. -/
theorem Window.commit_dedupe (window : Window router) {key : String} (fresh : key ∉ router.seen) :
    Window (router.commit_dedupe key) := by
  rw [window.mem] at fresh
  obtain ⟨room,same⟩ | ⟨expired,rest,order,full,same⟩ := commit_cases window key
  · rw [same]
    refine ⟨?_,?_,window.capacity,?_⟩
    · ext other
      simp only [Finset.mem_insert,window.mem,mem_toFinset,mem_append,mem_singleton]
      tauto
    · exact nodup_append.mpr ⟨window.distinct,nodup_singleton key,fun other member _ last equal =>
        fresh (mem_singleton.mp last ▸ equal ▸ member)⟩
    · rw [length_append,length_singleton]
      exact room
  have distinct := window.distinct
  rw [order] at distinct fresh
  obtain ⟨first,distinct⟩ := nodup_cons.mp distinct
  rw [same]
  refine ⟨?_,?_,window.capacity,?_⟩
  · ext other
    simp only [Finset.mem_insert,Finset.mem_erase,window.mem,order,mem_toFinset,mem_append,mem_cons,not_mem_nil,or_false]
    constructor
    · rintro (named | ⟨different,gone | later⟩)
      · exact .inr named
      · exact (different gone).elim
      · exact .inl later
    · rintro (later | named)
      · exact .inr ⟨fun equal => first (equal ▸ later),.inr later⟩
      · exact .inl named
  · exact nodup_append.mpr ⟨distinct,nodup_singleton key,fun other member _ last equal =>
      fresh (mem_cons_of_mem _ (mem_singleton.mp last ▸ equal ▸ member))⟩
  · rw [length_append,length_singleton]
    exact full.le

theorem Window.commit {router : SignalRouter P} (window : Window router) {dedupe_key : Option String}
    (fresh : ∀ key, dedupe_key = some key → key ∉ router.seen) : Window (router.commit dedupe_key) := by
  cases dedupe_key with
  | none => exact window
  | some key => exact window.commit_dedupe (fresh key rfl)

/-! What a sweep leaves. -/

/-- Whether a sweep drops a queued signal. -/
def stale (router : SignalRouter P) (now_ms : Nat) (queued : PrioritizedSignal P) : Bool :=
  router.ttl_ms.any fun ttl_ms => SignalQueue.reached_expiry now_ms ttl_ms queued

/-- A queued signal a sweep keeps. -/
def aged (router : SignalRouter P) (now_ms : Nat) (queued : PrioritizedSignal P) : PrioritizedSignal P :=
  if router.deadline_escalation then queued.escalated now_ms else queued

/-- The keys of what a sweep drops. -/
def overKeys (router : SignalRouter P) (now_ms : Nat) : List String := (router.queue.heap.filter (router.stale now_ms)).flatMap dedupe_keys

theorem aged_keeps (router : SignalRouter P) (now_ms : Nat) (queued : PrioritizedSignal P) :
    (router.aged now_ms queued).signal.id = queued.signal.id ∧
    (router.aged now_ms queued).dedupe_keys = queued.dedupe_keys ∧
      (router.aged now_ms queued).signal.coalesce_key = queued.signal.coalesce_key ∧
      (router.aged now_ms queued).signal.dedupe_key = queued.signal.dedupe_key ∧
      (router.aged now_ms queued).timestamp_ms = queued.timestamp_ms ∧
      (router.aged now_ms queued).signal.timestamp_ms = queued.signal.timestamp_ms := by
  unfold aged escalated
  split
  next => split <;> exact ⟨rfl,rfl,rfl,rfl,rfl,rfl⟩
  next => exact ⟨rfl,rfl,rfl,rfl,rfl,rfl⟩

theorem aged_urgency (router : SignalRouter P) (now_ms : Nat) {queued : PrioritizedSignal P}
    (same : queued.urgency = queued.signal.urgency) :
    (router.aged now_ms queued).urgency = (router.aged now_ms queued).signal.urgency := by
  unfold aged escalated
  split
  next =>
    split
    next => rfl
    next => exact same
  next => exact same

/-- After a sweep the queue holds what is not over, and the keys of the rest are released. -/
theorem expire_spec (router : SignalRouter P) (arranged : heap.Arranged router.queue.heap) (now_ms : Nat) :
    (router.expire heap now_ms).1 =
    (router.queue.heap.filter (router.stale now_ms)).map (fun queued => queued.signal.id) ∧
    ∃ entries, heap.Arranged entries ∧
      entries.Perm ((router.queue.heap.filter fun queued => !router.stale now_ms queued).map (router.aged now_ms)) ∧
      (router.expire heap now_ms).2 = { router with
        queue := { router.queue with heap := entries }
        seen := router.seen \ (router.overKeys now_ms).toFinset
        seen_order := router.seen_order.filter fun key => key ∉ router.overKeys now_ms } := by
  have swept : ∃ entries, heap.Arranged entries ∧ entries.Perm (router.queue.heap.filter fun queued => !router.stale now_ms queued) ∧
      router.queue.expire heap now_ms router.ttl_ms =
        ((router.queue.heap.filter (router.stale now_ms)).map fun queued =>
        (queued.signal,queued.dedupe_keys),{ router.queue with heap := entries }) := by
    unfold SignalQueue.expire stale
    cases router.ttl_ms with
    | none =>
      refine ⟨router.queue.heap,arranged,?_,?_⟩
      · simp
      · simp
    | some ttl_ms => exact ⟨_,heap.collect_arranged _,heap.collect_perm _,rfl⟩
  obtain ⟨entries,arranged_swept,same,swept⟩ := swept
  have keys : ((router.queue.heap.filter (router.stale now_ms)).map fun queued => (queued.signal,queued.dedupe_keys)).flatMap Prod.snd =
      router.overKeys now_ms := by
    unfold overKeys
    rw [flatMap_map]
  unfold expire
  rw [swept]
  dsimp only
  rw [keys,release_all]
  refine ⟨by rw [map_map]; rfl,?_⟩
  by_cases escalates : router.deadline_escalation = true
  · rw [if_pos escalates]
    refine ⟨_,heap.collect_arranged _,(heap.collect_perm _).trans ?_,rfl⟩
    have aging : router.aged now_ms = escalated now_ms := by
      funext queued
      exact if_pos escalates
    rw [aging]
    exact same.map _
  rw [if_neg escalates]
  refine ⟨entries,arranged_swept,?_,rfl⟩
  have aging : router.aged now_ms = id := by
    funext queued
    exact if_neg escalates
  rwa [aging,map_id]

/-! What a route comes to. -/

/-- What becomes of a signal once what is over has been dropped. -/
inductive Routes (router : SignalRouter P) (signal : RuntimeSignal P) (lifecycle : TaskLifecycle) (now_ms : Nat) (ids : List String) :
    SignalRouteOutcome × SignalRouter P → Prop where
  | ignored (key : String) (named : signal.dedupe_key = some key) (seen : key ∈ router.seen) :
    Routes router signal lifecycle now_ms ids (⟨.Ignore,none,ids⟩,router)
  | passed (fresh : ∀ key, signal.dedupe_key = some key → key ∉ router.seen)
      (other : evaluate (router.arriving signal now_ms) lifecycle ≠ .Queue) :
    Routes router signal lifecycle now_ms ids
      (⟨evaluate (router.arriving signal now_ms) lifecycle,none,ids⟩,router.commit signal.dedupe_key)
  | dropped (fresh : ∀ key, signal.dedupe_key = some key → key ∉ router.seen)
      (queues : evaluate (router.arriving signal now_ms) lifecycle = .Queue)
      (refused : router.queue.Refuses (router.arriving signal now_ms)) : Routes router signal lifecycle now_ms ids
      (⟨.Dropped,none,ids⟩,router)
  | queued (displaced : Option (RuntimeSignal P)) (keys : List String) (queue : SignalQueue P)
      (fresh : ∀ key, signal.dedupe_key = some key → key ∉ router.seen)
      (queues : evaluate (router.arriving signal now_ms) lifecycle = .Queue)
      (takes : router.queue.Takes heap (router.arriving signal now_ms) (router.due signal now_ms) displaced keys queue)
      (same : router.queue.admit_with_deadline_state heap (router.arriving signal now_ms) (router.due signal now_ms) =
        (⟨true,displaced,keys⟩,queue)) :
    Routes router signal lifecycle now_ms ids
      (⟨.Queue,displaced.map RuntimeSignal.id,ids⟩,(keys.foldl release_dedupe_key { router with queue }).commit signal.dedupe_key)

/-- What the router does with a signal, branch by branch. -/
theorem route_routes (router : SignalRouter P) (signal : RuntimeSignal P) (lifecycle : TaskLifecycle) (now_ms : Nat)
    (ids : List String) :
    Routes heap router signal lifecycle now_ms ids (router.route heap signal lifecycle now_ms ids) := by
  unfold route
  split
  next known =>
    obtain ⟨key,named,seen⟩ := (Option.any_eq_true _ _).mp known
    exact .ignored key named (of_decide_eq_true seen)
  next unknown =>
  have fresh : ∀ key, signal.dedupe_key = some key → key ∉ router.seen := by
    intro key named seen
    exact unknown ((Option.any_eq_true _ _).mpr ⟨key,named,decide_eq_true seen⟩)
  dsimp only
  split
  next queues =>
    unfold admission
    obtain ⟨same,refused⟩ | ⟨displaced,keys,after,same,takes⟩ :=
      SignalQueue.admit_takes heap router.queue (router.arriving signal now_ms) (router.due signal now_ms)
    · rw [same]
      exact .dropped fresh queues refused
    · rw [same]
      exact .queued displaced keys after fresh queues takes same
  next other => exact .passed fresh other

theorem ingest_routes (router : SignalRouter P) (signal : RuntimeSignal P) (lifecycle : TaskLifecycle) (now_ms : Nat) :
    Routes heap (router.expire heap now_ms).2 signal lifecycle now_ms (router.expire heap now_ms).1
    (router.ingest_at heap signal lifecycle now_ms) :=
  route_routes heap ..

end SignalRouter

end Deepstrike.Signals

import Deepstrike.Deduping

/-!
The signal router and its checkpoint: when a checkpoint is accepted again, and that what it restores
answers as the router it was taken of.
-/
namespace Deepstrike.Signals
open Heaps Tasks Vocabulary List SignalQueue SignalRouter

variable {P : Type} {heap : BinaryHeap (priority (P := P))}

namespace SignalRouter

/-- Under one coalescing key there is one entry. -/
def Lone (queue : SignalQueue P) : Prop := ∀ first ∈ queue.heap, ∀ second ∈ queue.heap, ∀ key, first.signal.coalesce_key = some key →
  second.signal.coalesce_key = some key → first.signal.id = second.signal.id

/-- What a checkpoint has to show, but for a key still to be committed. -/
structure Restorable (pending : Option String) (router : SignalRouter P) : Prop where
  distinct : router.queue.ids.Nodup
  primary : ∀ queued ∈ router.queue.heap, ∀ key, queued.signal.dedupe_key = some key → key ∈ queued.dedupe_keys
  committed : ∀ queued ∈ router.queue.heap, ∀ key ∈ queued.dedupe_keys, key ∈ router.seen ∨ pending = some key
  own : ∀ first ∈ router.queue.heap, ∀ second ∈ router.queue.heap, ∀ key, key ∈ first.dedupe_keys → key ∈ second.dedupe_keys →
    first.signal.id = second.signal.id
  once : ∀ queued ∈ router.queue.heap, queued.dedupe_keys.Nodup
  lone : Lone router.queue

section
variable (heap)

/-- The router a commit finds: the signal has been admitted, if it is queued. -/
def found (router : SignalRouter P) (signal : RuntimeSignal P) (lifecycle : TaskLifecycle) (now_ms : Nat) : SignalRouter P :=
  if UrgencyBasedPolicy.evaluate (router.arriving signal now_ms) lifecycle = .Queue then
    (router.admission heap (router.arriving signal now_ms) (router.due signal now_ms)).2
  else router

/-- A commit has to push a queued signal's key out of the window. -/
def Crowded (router : SignalRouter P) : Prop :=
  router.seen_order.length = DEFAULT_DEDUPE_CAPACITY ∧ ∃ oldest, router.seen_order.head? = some oldest ∧ router.Carried oldest

/-- A call that leaves a checkpoint restorable: a new signal is not queued under the id of another, no commit
pushes out a queued signal's key, and the window is not cleared while a queued signal has a key. -/
def Meets (router : SignalRouter P) : Op P → Prop
  | .ingest_at signal lifecycle now_ms => (∃ key, signal.dedupe_key = some key ∧ key ∈ (router.expire heap now_ms).2.seen) ∨
    ((router.expire heap now_ms).2.found heap signal lifecycle now_ms).queue.ids.Nodup ∧
      ((router.ingest_at heap signal lifecycle now_ms).1.disposition = .Dropped ∨ signal.dedupe_key = none ∨
        ¬ ((router.expire heap now_ms).2.found heap signal lifecycle now_ms).Crowded)
  | .expire _ | .next => True
  | .clear_dedup => ∀ queued ∈ router.queue.heap, queued.dedupe_keys = []

end

private theorem with_policy_restorable (max_queue_size : Nat) (ttl_ms : Option Nat) (deadline_escalation : Bool) :
    Restorable none (with_policy max_queue_size ttl_ms deadline_escalation : SignalRouter P) :=
  ⟨nodup_nil,fun _ member => (not_mem_nil member).elim,fun _ member => (not_mem_nil member).elim,
    fun _ member => (not_mem_nil member).elim,fun _ member => (not_mem_nil member).elim,fun _ member => (not_mem_nil member).elim⟩

variable {router : SignalRouter P} {queue : SignalQueue P} {signal : RuntimeSignal P} {deadline_escalated : Bool}
variable {displaced : Option (RuntimeSignal P)} {keys : List String}

theorem Lone.expire (lone : Lone router.queue) (sound : Sound heap router) (now_ms : Nat) :
    Lone (router.expire heap now_ms).2.queue := by
  obtain ⟨_,entries,_,same,after⟩ := expire_spec heap router sound.arranged now_ms
  rw [after]
  intro first member second member' key named named'
  obtain ⟨older,kept,rfl⟩ := mem_map.mp (same.mem_iff.mp member)
  obtain ⟨older',kept',rfl⟩ := mem_map.mp (same.mem_iff.mp member')
  obtain ⟨id,_,coalesce,_⟩ := aged_keeps router now_ms older
  obtain ⟨id',_,coalesce',_⟩ := aged_keeps router now_ms older'
  rw [id,id']
  exact lone older (mem_filter.mp kept).1 older' (mem_filter.mp kept').1 key (coalesce ▸ named) (coalesce' ▸ named')

theorem Restorable.expire (restorable : Restorable none router) (sound : Sound heap router) (now_ms : Nat) :
    Restorable none (router.expire heap now_ms).2 := by
  have distinct := expire_nodup sound.arranged restorable.distinct now_ms
  have lone := restorable.lone.expire sound now_ms
  obtain ⟨_,entries,_,same,after⟩ := expire_spec heap router sound.arranged now_ms
  rw [after] at distinct lone ⊢
  have origin : ∀ queued ∈ entries, ∃ older ∈ router.queue.heap, router.stale now_ms older = false ∧ queued = router.aged now_ms older := by
    intro queued member
    obtain ⟨older,kept,rfl⟩ := mem_map.mp (same.mem_iff.mp member)
    obtain ⟨held,stays⟩ := mem_filter.mp kept
    exact ⟨older,held,by simpa using stays,rfl⟩
  refine ⟨distinct,fun queued member key named => ?_,fun queued member key carries => ?_,fun first member second member' key carries carries' => ?_,
    fun queued member => ?_,lone⟩
  · obtain ⟨older,held,_,rfl⟩ := origin queued member
    obtain ⟨_,keys,_,primary,_⟩ := aged_keeps router now_ms older
    rw [primary] at named
    rw [keys]
    exact restorable.primary older held key named
  · obtain ⟨older,held,stays,rfl⟩ := origin queued member
    rw [(aged_keeps router now_ms older).2.1] at carries
    refine .inl (Finset.mem_sdiff.mpr ⟨(restorable.committed older held key carries).resolve_right nofun,fun released => ?_⟩)
    obtain ⟨gone,listed,carries'⟩ := mem_flatMap.mp (mem_toFinset.mp released)
    obtain ⟨held',drops⟩ := mem_filter.mp listed
    cases same_of_id restorable.distinct held held' (restorable.own older held gone held' key carries carries')
    rw [stays] at drops
    cases drops
  · obtain ⟨older,held,_,rfl⟩ := origin first member
    obtain ⟨older',held',_,rfl⟩ := origin second member'
    obtain ⟨id,keys,_⟩ := aged_keeps router now_ms older
    obtain ⟨id',keys',_⟩ := aged_keeps router now_ms older'
    rw [id,id']
    exact restorable.own older held older' held' key (keys ▸ carries) (keys' ▸ carries')
  · obtain ⟨older,held,_,rfl⟩ := origin queued member
    rw [(aged_keeps router now_ms older).2.1]
    exact restorable.once older held

theorem Restorable.commit {router : SignalRouter P} {dedupe_key : Option String}
    (restorable : Restorable dedupe_key router) (window : Window router)
    (fresh : ∀ key, dedupe_key = some key → key ∉ router.seen) (room : dedupe_key = none ∨ ¬ router.Crowded) :
    Restorable none (router.commit dedupe_key) := by
  have queue := commit_queue router dedupe_key
  have committed : ∀ queued ∈ router.queue.heap, ∀ key ∈ queued.dedupe_keys, key ∈ (router.commit dedupe_key).seen := by
    intro queued member key carries
    cases dedupe_key with
    | none => exact (restorable.committed queued member key carries).resolve_right nofun
    | some brought =>
    have known := restorable.committed queued member key carries
    obtain ⟨_,same⟩ | ⟨oldest,rest,order,full,same⟩ := commit_cases window brought
    · show key ∈ (router.commit_dedupe brought).seen
      rw [same]
      exact Finset.mem_insert.mpr (known.symm.imp (fun equal => (Option.some.inj equal).symm) id)
    show key ∈ (router.commit_dedupe brought).seen
    rw [same]
    refine Finset.mem_insert.mpr (known.symm.imp (fun equal => (Option.some.inj equal).symm) fun seen => ?_)
    refine Finset.mem_erase.mpr ⟨?_,seen⟩
    rintro rfl
    refine (room.resolve_left nofun) ⟨?_,key,?_,queued,member,carries⟩
    · rw [order]
      exact full
    · rw [order]
      rfl
  refine ⟨?_,?_,?_,?_,?_,?_⟩
  · exact queue ▸ restorable.distinct
  · exact queue ▸ restorable.primary
  · rw [queue]
    exact fun queued member key carries => .inl (committed queued member key carries)
  · exact queue ▸ restorable.own
  · exact queue ▸ restorable.once
  · exact queue ▸ restorable.lone

private theorem coalesce_keys_nodup {queued : PrioritizedSignal P} (once : queued.dedupe_keys.Nodup)
    (signal : RuntimeSignal P) (deadline_escalated : Bool) :
    (queued.coalesce signal deadline_escalated).dedupe_keys.Nodup := by
  unfold PrioritizedSignal.coalesce
  refine nodup_append.mpr ⟨once,?_,fun key member other listed same => ?_⟩
  · refine List.Nodup.filter _ ?_
    cases signal.dedupe_key with
    | none => exact nodup_nil
    | some key => exact nodup_singleton key
  · subst same
    exact of_decide_eq_true (mem_filter.mp listed).2 member

/-- What coalesces under a key after a signal was taken did so before, or is the signal's own entry, which no other had the key of. -/
theorem takes_lone {after : SignalQueue P} (takes : queue.Takes heap signal deadline_escalated displaced keys after) :
    ∀ queued ∈ after.heap, ∀ key,
    queued.signal.coalesce_key = some key →
    (∃ older ∈ queue.heap, older.signal.coalesce_key = some key ∧ queued.signal.id = older.signal.id) ∨
      queued = .new signal deadline_escalated ∧ ∀ older ∈ queue.heap, older.signal.coalesce_key ≠ some key := by
  have none_alike : queue.coalesces_with signal = none → ∀ key, signal.coalesce_key = some key → ∀ older ∈ queue.heap,
      older.signal.coalesce_key ≠ some key := by
    intro alone key named older held alike
    unfold coalesces_with at alone
    rw [named] at alone
    exact find?_eq_none.mp alone older held (decide_eq_true alike)
  intro queued member key named
  cases takes with
  | coalesced existing found =>
    obtain ⟨older,held,rfl⟩ := mem_map.mp ((heap.collect_perm _).mem_iff.mp member)
    refine .inl ⟨older,held,?_⟩
    split at named
    next same =>
      rw [if_pos same]
      exact ⟨named,rfl⟩
    next other =>
    rw [if_neg other]
    exact ⟨named,rfl⟩
  | entered alone room =>
    obtain rfl | held := mem_cons.mp ((heap.push_perm _ _).mem_iff.mp member)
    · exact .inr ⟨rfl,none_alike alone key named⟩
    · exact .inl ⟨queued,held,named,rfl⟩
  | displaced lowest removed alone full least outranks held chosen =>
  obtain rfl | kept := mem_cons.mp ((heap.push_perm _ _).mem_iff.mp member)
  · exact .inr ⟨rfl,none_alike alone key named⟩
  · exact .inl ⟨queued,(mem_filter.mp ((heap.collect_perm _).mem_iff.mp kept)).1,named,rfl⟩

theorem Lone.takes {after : SignalQueue P} (lone : Lone queue)
    (takes : queue.Takes heap signal deadline_escalated displaced keys after) :
    Lone after := by
  intro first member second member' key named named'
  obtain ⟨older,held,alike,id⟩ | ⟨new,alone⟩ := takes_lone takes first member key named
  · obtain ⟨older',held',alike',id'⟩ | ⟨_,alone'⟩ := takes_lone takes second member' key named'
    · rw [id,id']
      exact lone older held older' held' key alike alike'
    · exact (alone' older held alike).elim
  · obtain ⟨older',held',alike',_⟩ | ⟨new',_⟩ := takes_lone takes second member' key named'
    · exact (alone older' held' alike').elim
    · rw [new,new']

theorem Restorable.takes (restorable : Restorable none router)
    (fresh : ∀ key, signal.dedupe_key = some key → key ∉ router.seen)
    (takes : router.queue.Takes heap signal deadline_escalated displaced keys queue) (distinct : queue.ids.Nodup) :
    Restorable signal.dedupe_key (keys.foldl release_dedupe_key { router with queue }) := by
  have same := release_queue { router with queue } keys
  obtain ⟨target,carries⟩ := takes_carries takes
  have apart : ∀ key, signal.dedupe_key = some key → ∀ older ∈ router.queue.heap, key ∉ older.dedupe_keys := by
    intro key brings older held carried
    exact fresh key brings ((restorable.committed older held key carried).resolve_right nofun)
  refine ⟨?_,?_,?_,?_,?_,?_⟩
  · rw [same]
    exact distinct
  · rw [same]
    intro queued member key named
    obtain held | ⟨older,held,rfl⟩ | rfl := takes_origin takes queued member
    · exact restorable.primary queued held key named
    · exact mem_append_left _ (restorable.primary older held key named)
    · exact Option.mem_toList.mpr named
  · rw [same]
    intro queued member key carried
    obtain ⟨older,held,before,_,gone⟩ | ⟨brings,_⟩ := carries queued member key carried
    · refine .inl ?_
      rw [release_all]
      refine Finset.mem_sdiff.mpr ⟨(restorable.committed older held key before).resolve_right nofun,fun released => ?_⟩
      have released := mem_toFinset.mp released
      obtain ⟨removed,held',rfl,other⟩ := gone (ne_nil_of_mem released)
      exact other (restorable.own removed held' older held key released before)
    · exact .inr brings
  · rw [same]
    intro first member second member' key carried carried'
    obtain ⟨older,held,before,id,_⟩ | ⟨brings,id⟩ := carries first member key carried
    · obtain ⟨older',held',before',id',_⟩ | ⟨brings',_⟩ := carries second member' key carried'
      · rw [id,id']
        exact restorable.own older held older' held' key before before'
      · exact (apart key brings' older held before).elim
    · obtain ⟨older',held',before',_⟩ | ⟨_,id'⟩ := carries second member' key carried'
      · exact (apart key brings older' held' before').elim
      · exact id.trans id'.symm
  · rw [same]
    intro queued member
    obtain held | ⟨older,held,rfl⟩ | rfl := takes_origin takes queued member
    · exact restorable.once queued held
    · exact coalesce_keys_nodup (restorable.once older held) signal deadline_escalated
    unfold PrioritizedSignal.new
    dsimp only
    cases signal.dedupe_key with
    | none => exact nodup_nil
    | some key => exact nodup_singleton key
  · rw [same]
    exact restorable.lone.takes takes

private theorem Restorable.ingest (restorable : Restorable none router) (sound : Sound heap router)
    {lifecycle : TaskLifecycle} {now_ms : Nat} (meets : Meets heap router (.ingest_at signal lifecycle now_ms)) :
    Restorable none (router.ingest_at heap signal lifecycle now_ms).2 := by
  have swept := restorable.expire sound now_ms
  have sound_swept := sound.expire now_ms
  unfold Meets at meets
  dsimp only at meets
  have routes := ingest_routes heap router signal lifecycle now_ms
  generalize router.ingest_at heap signal lifecycle now_ms = outcome at routes meets ⊢
  cases routes with
  | ignored => exact swept
  | passed fresh other =>
    have unseen : ¬ ∃ key, signal.dedupe_key = some key ∧ key ∈ (router.expire heap now_ms).2.seen := fun ⟨key,named,seen⟩ => fresh key named seen
    obtain ⟨_,room⟩ := meets.resolve_left unseen
    have stays : (router.expire heap now_ms).2.found heap signal lifecycle now_ms = (router.expire heap now_ms).2 := if_neg other
    rw [stays] at room
    have kept := evaluate_kept ((router.expire heap now_ms).2.arriving signal now_ms) lifecycle
    refine Restorable.commit ?_ sound_swept.window fresh (room.resolve_left kept.2)
    exact ⟨swept.distinct,swept.primary,fun queued member key carries => .inl ((swept.committed queued member key carries).resolve_right nofun),
      swept.own,swept.once,swept.lone⟩
  | dropped => exact swept
  | queued displaced keys queue fresh queues takes same =>
  have unseen : ¬ ∃ key, signal.dedupe_key = some key ∧ key ∈ (router.expire heap now_ms).2.seen := fun ⟨key,named,seen⟩ => fresh key named seen
  obtain ⟨distinct,room⟩ := meets.resolve_left unseen
  have brought := (arriving_keeps (router.expire heap now_ms).2 signal now_ms).2.1
  -- The router a commit finds is the one the route goes on with.
  have stays : (router.expire heap now_ms).2.found heap signal lifecycle now_ms =
      keys.foldl release_dedupe_key { (router.expire heap now_ms).2 with queue } := by
    unfold found admission
    rw [if_pos queues,same]
  rw [stays,release_queue] at distinct
  rw [stays] at room
  rw [← brought] at fresh room ⊢
  exact (swept.takes fresh takes distinct).commit (sound_swept.takes takes).window (release_fresh fresh keys queue) (room.resolve_left (by simp))

theorem Restorable.step {router : SignalRouter P} (restorable : Restorable none router) (sound : Sound heap router)
    {op : Op P}
    (meets : Meets heap router op) : Restorable none (router.step heap op).2 := by
  cases op with
  | ingest_at signal lifecycle now_ms => exact restorable.ingest sound meets
  | expire now_ms => exact restorable.expire sound now_ms
  | next =>
    show Restorable none (router.next heap).2
    obtain ⟨same,_⟩ | ⟨queued,rest,taken,same⟩ := next_cases heap router
    · rw [same]
      exact restorable
    rw [same]
    have parts := heap.pop_perm _ queued rest taken
    have before : ∀ other ∈ rest, other ∈ router.queue.heap := fun other member => parts.mem_iff.mpr (mem_cons_of_mem queued member)
    have ids : ((queued :: rest).map fun queued => queued.signal.id).Nodup := (parts.map _).nodup_iff.mp restorable.distinct
    exact ⟨(nodup_cons.mp ids).2,fun other member => restorable.primary other (before other member),
      fun other member => restorable.committed other (before other member),
      fun first member second member' => restorable.own first (before first member) second (before second member'),
      fun other member => restorable.once other (before other member),
      fun first member second member' => restorable.lone first (before first member) second (before second member')⟩
  | clear_dedup =>
  refine ⟨restorable.distinct,restorable.primary,fun queued member key carries => ?_,restorable.own,restorable.once,restorable.lone⟩
  rw [meets queued member] at carries
  cases carries

/-! The checks of a restore. -/

private theorem check_seen_ok : ∀ (order : List String) (seen : Finset String), order.Nodup → (∀ key ∈ order, key ∉ seen) →
    check_seen order seen = .ok (seen ∪ order.toFinset) := by
  intro order
  induction order with
  | nil =>
    intro seen _ _
    unfold check_seen
    simp
  | cons key rest ih =>
  intro seen distinct fresh
  obtain ⟨first,distinct⟩ := nodup_cons.mp distinct
  unfold check_seen
  rw [if_neg (fresh key mem_cons_self),ih (insert key seen) distinct fun other member held => ?_]
  · congr 1
    ext other
    simp only [Finset.mem_union,Finset.mem_insert,mem_toFinset,mem_cons]
    tauto
  · obtain rfl | held := Finset.mem_insert.mp held
    · exact first member
    · exact fresh other (mem_cons_of_mem key member) held

private theorem check_keys_ok (seen : Finset String) (id : String) :
    ∀ (keys : List String) (queued_keys : Finset String), (∀ key ∈ keys, key ∈ seen) →
    keys.Nodup → (∀ key ∈ keys, key ∉ queued_keys) → check_keys seen id keys queued_keys = .ok (queued_keys ∪ keys.toFinset) := by
  intro keys
  induction keys with
  | nil =>
    intro queued_keys _ _ _
    unfold check_keys
    simp
  | cons key rest ih =>
  intro queued_keys known distinct fresh
  obtain ⟨first,distinct⟩ := nodup_cons.mp distinct
  unfold check_keys
  rw [if_neg (not_not.mpr (known key mem_cons_self)),if_neg (fresh key mem_cons_self),
    ih (insert key queued_keys) (fun other member => known other (mem_cons_of_mem key member)) distinct fun other member held => ?_]
  · congr 1
    ext other
    simp only [Finset.mem_union,Finset.mem_insert,mem_toFinset,mem_cons]
    tauto
  · obtain rfl | held := Finset.mem_insert.mp held
    · exact first member
    · exact fresh other (mem_cons_of_mem key member) held

private theorem check_queued_ok (seen : Finset String) : ∀ (entries : List (QueuedSignalRuntimeState P)) (queued_keys : Finset String),
    (∀ entry ∈ entries, ∀ key, entry.signal.dedupe_key = some key → key ∈ entry.dedupe_keys) →
    (∀ entry ∈ entries, ∀ key ∈ entry.dedupe_keys, key ∈ seen) → (entries.flatMap QueuedSignalRuntimeState.dedupe_keys).Nodup →
    (∀ entry ∈ entries, ∀ key ∈ entry.dedupe_keys, key ∉ queued_keys) → check_queued seen entries queued_keys = .ok () := by
  intro entries
  induction entries with
  | nil => exact fun _ _ _ _ _ => rfl
  | cons entry rest ih =>
  intro queued_keys primary known distinct fresh
  rw [flatMap_cons,nodup_append] at distinct
  obtain ⟨own,distinct,apart⟩ := distinct
  have present : (entry.signal.dedupe_key.filter fun primary => decide (primary ∉ entry.dedupe_keys)) = none := by
    refine Option.filter_eq_none_iff.mpr fun key named => ?_
    simpa using primary entry mem_cons_self key named
  unfold check_queued
  rw [present,check_keys_ok seen entry.signal.id entry.dedupe_keys queued_keys (known entry mem_cons_self) own (fresh entry mem_cons_self)]
  refine ih _ (fun other member => primary other (mem_cons_of_mem entry member))
    (fun other member => known other (mem_cons_of_mem entry member)) distinct fun other member key carried held => ?_
  obtain before | listed := Finset.mem_union.mp held
  · exact fresh other (mem_cons_of_mem entry member) key carried before
  · exact apart key (mem_toFinset.mp listed) key (mem_flatMap.mpr ⟨other,member,carried⟩) rfl

private theorem check_ids_ok : ∀ (entries : List (QueuedSignalRuntimeState P)) (ids : List String), (entries.map fun entry => entry.signal.id).Nodup →
    (∀ entry ∈ entries, entry.signal.id ∉ ids) → SignalQueue.check_ids entries ids = .ok () := by
  intro entries
  induction entries with
  | nil => exact fun _ _ _ => rfl
  | cons entry rest ih =>
  intro ids distinct fresh
  obtain ⟨first,distinct⟩ := nodup_cons.mp distinct
  unfold check_ids
  rw [if_neg (fresh entry mem_cons_self)]
  refine ih _ distinct fun other member held => ?_
  obtain same | held := mem_cons.mp held
  · exact first (mem_map.mpr ⟨other,member,same⟩)
  · exact fresh other (mem_cons_of_mem entry member) held

/-- The two hold the same signals, each in its own arrangement, and the same window. -/
structure Twin (heap : BinaryHeap (priority (P := P))) (live restored : SignalRouter P) : Prop where
  arranged : heap.Arranged live.queue.heap
  arranged' : heap.Arranged restored.queue.heap
  queued : live.queue.heap.Perm restored.queue.heap
  max_size : restored.queue.max_size = live.queue.max_size
  seen : restored.seen = live.seen
  seen_order : restored.seen_order = live.seen_order
  dedupe_capacity : restored.dedupe_capacity = live.dedupe_capacity
  ttl_ms : restored.ttl_ms = live.ttl_ms
  deadline_escalation : restored.deadline_escalation = live.deadline_escalation

/-- A router that shows what a checkpoint has to show is restored. -/
theorem Restorable.restore_state (restorable : Restorable none router) (sound : Sound heap router) :
    ∃ restored, (with_policy router.queue.max_size router.ttl_ms router.deadline_escalation).restore_state heap
    (router.checkpoint_state heap) =
      .ok restored ∧ Twin heap router restored := by
  have sorted := heap.into_sorted_perm router.queue.heap
  have entries : ∀ entry ∈ router.queue.checkpoint_entries heap, ∃ queued ∈ router.queue.heap, entry.signal = queued.signal ∧
      entry.dedupe_keys = queued.dedupe_keys := by
    intro entry member
    obtain ⟨queued,listed,rfl⟩ := mem_map.mp member
    exact ⟨queued,sorted.mem_iff.mp listed,rfl,rfl⟩
  have whole : router.queue.heap.Nodup := List.Nodup.of_map _ restorable.distinct
  have keys : ((router.queue.checkpoint_entries heap).flatMap QueuedSignalRuntimeState.dedupe_keys).Nodup := by
    unfold checkpoint_entries
    rw [flatMap_map]
    refine nodup_flatMap.mpr ⟨fun queued listed => restorable.once queued (sorted.mem_iff.mp listed),?_⟩
    refine (sorted.nodup_iff.mpr whole).imp_of_mem fun {first second} listed listed' different key carried carried' => ?_
    have held := sorted.mem_iff.mp listed
    have held' := sorted.mem_iff.mp listed'
    exact different (same_of_id restorable.distinct held held' (restorable.own first held second held' key carried carried'))
  have ids : ((router.queue.checkpoint_entries heap).map fun entry => entry.signal.id).Nodup := by
    unfold checkpoint_entries
    rw [map_map]
    exact (sorted.map fun queued : PrioritizedSignal P => queued.signal.id).nodup_iff.mpr restorable.distinct
  have count : (router.queue.checkpoint_entries heap).length ≤ router.queue.max_size := by
    unfold checkpoint_entries
    rw [length_map,sorted.length_eq]
    exact sound.bounded
  have seen : check_seen router.seen_order ∅ = .ok router.seen := by
    rw [check_seen_ok router.seen_order ∅ sound.window.distinct fun _ _ => Finset.notMem_empty _,sound.window.listed]
    simp
  have queued : check_queued router.seen (router.queue.checkpoint_entries heap) ∅ = .ok () := by
    refine check_queued_ok router.seen _ ∅ (fun entry member key named => ?_)
      (fun entry member key carried => ?_) keys fun _ _ _ _ => Finset.notMem_empty _
    · obtain ⟨queued,held,same,same_keys⟩ := entries entry member
      rw [same] at named
      rw [same_keys]
      exact restorable.primary queued held key named
    · obtain ⟨queued,held,_,same_keys⟩ := entries entry member
      rw [same_keys] at carried
      exact (restorable.committed queued held key carried).resolve_right nofun
  have back : ((router.queue.checkpoint_entries heap).map restored).Perm router.queue.heap := by
    unfold checkpoint_entries
    rw [map_map]
    refine List.Perm.trans (List.Perm.of_eq ?_) sorted
    refine (map_congr_left fun queued listed => ?_).trans (map_id _)
    have held := sorted.mem_iff.mp listed
    unfold restored Function.comp
    dsimp only
    rw [← sound.urgencies queued held,← sound.timestamps queued held]
    rfl
  have requeued : (new router.queue.max_size).restore_entries heap (router.queue.checkpoint_entries heap) =
      .ok ⟨heap.collect ((router.queue.checkpoint_entries heap).map restored),router.queue.max_size⟩ := by
    unfold restore_entries new
    dsimp only
    rw [if_neg (Nat.not_lt.mpr count),check_ids_ok _ [] ids fun _ _ => not_mem_nil]
    rfl
  refine ⟨⟨router.seen,router.seen_order,DEFAULT_DEDUPE_CAPACITY,⟨heap.collect ((router.queue.checkpoint_entries heap).map restored),
    router.queue.max_size⟩,router.ttl_ms,router.deadline_escalation⟩,?_,?_⟩
  · unfold SignalRouter.restore_state checkpoint_state
    have room : ¬ (with_policy router.queue.max_size router.ttl_ms router.deadline_escalation : SignalRouter P).dedupe_capacity <
        router.seen_order.length := Nat.not_lt.mpr sound.window.bounded
    dsimp only
    rw [if_neg room,seen]
    show (check_queued router.seen _ ∅ >>= _) = _
    rw [queued]
    show (restore_entries heap _ _ >>= _) = _
    rw [show (with_policy router.queue.max_size router.ttl_ms router.deadline_escalation : SignalRouter P).queue =
      .new router.queue.max_size from rfl,
      requeued]
    rfl
  · exact ⟨sound.arranged,heap.collect_arranged _,(back.symm.trans (heap.collect_perm _).symm),rfl,rfl,rfl,sound.window.capacity.symm,rfl,rfl⟩

/-! Two arrangements of the same signals. -/

private theorem find_congr {α : Type} {items items' : List α} (same : items.Perm items') (wanted : α → Bool)
    (one : ∀ first ∈ items, ∀ second ∈ items, wanted first = true → wanted second = true → first = second) :
    items.find? wanted = items'.find? wanted := by
  cases found : items.find? wanted with
  | none =>
    refine (find?_eq_none.mpr fun item member => ?_).symm
    exact find?_eq_none.mp found item (same.mem_iff.mpr member)
  | some item =>
  have member := mem_of_find?_eq_some found
  have meets := find?_some found
  cases found' : items'.find? wanted with
  | none => exact (find?_eq_none.mp found' item (same.mem_iff.mp member) meets).elim
  | some item' =>
    exact congrArg some (one item member item' (same.mem_iff.mpr (mem_of_find?_eq_some found')) meets (find?_some found'))

section
variable {left right : SignalQueue P} (same : left.heap.Perm right.heap)
include same

private theorem coalesces_congr (distinct : left.ids.Nodup) (lone : Lone left) (signal : RuntimeSignal P) :
    left.coalesces_with signal = right.coalesces_with signal := by
  unfold coalesces_with
  cases signal.coalesce_key with
  | none => rfl
  | some key =>
  refine find_congr same _ fun first held second held' alike alike' => ?_
  exact same_of_id distinct held held' (lone first held second held' key (of_decide_eq_true alike) (of_decide_eq_true alike'))

private theorem lowest_congr : left.lowest = right.lowest := by
  have urgencies := same.map PrioritizedSignal.urgency
  unfold lowest
  cases least : (left.heap.map PrioritizedSignal.urgency).min? with
  | none =>
    rw [min?_eq_none_iff.mp least] at urgencies
    rw [← urgencies.nil_eq]
    rfl
  | some urgency =>
  obtain ⟨member,below⟩ := min?_eq_some_iff.mp least
  exact (min?_eq_some_iff.mpr ⟨urgencies.mem_iff.mp member,fun other listed => below other (urgencies.mem_iff.mpr listed)⟩).symm

private theorem displacement_congr (lowest : Urgency) : left.displacement lowest = right.displacement lowest := by
  have candidates := same.filter fun queued => decide (queued.urgency = lowest)
  unfold displacement
  cases chosen : (left.heap.filter fun queued => queued.urgency = lowest).argmax fun queued => toLex (queued.timestamp_ms,queued.signal.id) with
  | none =>
    rw [argmax_eq_none] at chosen
    rw [chosen] at candidates
    rw [← candidates.nil_eq]
    rfl
  | some queued =>
  have member := argmax_mem chosen
  cases chosen' : (right.heap.filter fun queued => queued.urgency = lowest).argmax fun queued => toLex (queued.timestamp_ms,queued.signal.id) with
  | none =>
    rw [argmax_eq_none] at chosen'
    rw [chosen'] at candidates
    rw [candidates.eq_nil] at member
    cases member
  | some queued' =>
  have member' := argmax_mem chosen'
  have keys : toLex (queued.timestamp_ms,queued.signal.id) = toLex (queued'.timestamp_ms,queued'.signal.id) :=
    le_antisymm
      (le_of_mem_argmax (f := fun queued : PrioritizedSignal P => toLex (queued.timestamp_ms,queued.signal.id))
        (candidates.mem_iff.mp member) chosen')
      (le_of_mem_argmax (f := fun queued : PrioritizedSignal P => toLex (queued.timestamp_ms,queued.signal.id))
        (candidates.mem_iff.mpr member') chosen)
  exact congrArg (fun key => some (ofLex key).2) keys

/-- Either queue takes the signal as the other does. -/
theorem admit_congr (heap : BinaryHeap (priority (P := P))) (max_size : right.max_size = left.max_size)
    (arranged : heap.Arranged left.heap) (arranged' : heap.Arranged right.heap)
    (distinct : left.ids.Nodup) (lone : Lone left) (signal : RuntimeSignal P) (deadline_escalated : Bool) :
    (left.admit_with_deadline_state heap signal deadline_escalated).1 =
    (right.admit_with_deadline_state heap signal deadline_escalated).1 ∧
    (left.admit_with_deadline_state heap signal deadline_escalated).2.heap.Perm
      (right.admit_with_deadline_state heap signal deadline_escalated).2.heap ∧
    heap.Arranged (left.admit_with_deadline_state heap signal deadline_escalated).2.heap ∧
    heap.Arranged (right.admit_with_deadline_state heap signal deadline_escalated).2.heap ∧
    (right.admit_with_deadline_state heap signal deadline_escalated).2.max_size =
      (left.admit_with_deadline_state heap signal deadline_escalated).2.max_size := by
  unfold admit_with_deadline_state
  rw [← coalesces_congr same distinct lone signal,max_size,← same.length_eq,← lowest_congr same]
  cases left.coalesces_with signal with
  | some existing =>
    refine ⟨rfl,?_,heap.collect_arranged _,heap.collect_arranged _,rfl⟩
    exact (heap.collect_perm _).trans ((same.map _).trans (heap.collect_perm _).symm)
  | none =>
  dsimp only
  split
  next =>
    refine ⟨rfl,?_,heap.arranged_push _ _ arranged,heap.arranged_push _ _ arranged',rfl⟩
    exact (heap.push_perm _ _).trans ((same.cons _).trans (heap.push_perm _ _).symm)
  next =>
  cases left.lowest with
  | none => exact ⟨rfl,same,arranged,arranged',max_size⟩
  | some lowest =>
  dsimp only
  split
  next => exact ⟨rfl,same,arranged,arranged',max_size⟩
  next =>
  rw [← displacement_congr same lowest]
  -- At most one entry has the displaced id, so both queues report the same one.
  have removed : (left.heap.filter fun queued => decide (some queued.signal.id = left.displacement lowest)).getLast? =
      (right.heap.filter fun queued => decide (some queued.signal.id = left.displacement lowest)).getLast? := by
    have parts := same.filter fun queued => decide (some queued.signal.id = left.displacement lowest)
    cases listed : left.heap.filter fun queued => decide (some queued.signal.id = left.displacement lowest) with
    | nil =>
      rw [listed] at parts
      rw [← parts.nil_eq]
    | cons first rest =>
    have alone : rest = [] := by
      refine eq_nil_iff_forall_not_mem.mpr fun other member => ?_
      have whole : (first :: rest).Nodup := listed ▸ (List.Nodup.of_map _ distinct).filter _
      obtain ⟨held,id⟩ := mem_filter.mp (listed ▸ mem_cons_self : first ∈ left.heap.filter _)
      obtain ⟨held',id'⟩ := mem_filter.mp (listed ▸ mem_cons_of_mem first member : other ∈ left.heap.filter _)
      have same_id := Option.some.inj ((of_decide_eq_true id).trans (of_decide_eq_true id').symm)
      rw [same_of_id distinct held held' same_id] at whole
      exact (nodup_cons.mp whole).1 member
    subst alone
    rw [listed] at parts
    rw [perm_singleton.mp parts.symm]
  refine ⟨by rw [removed],?_,heap.arranged_push _ _ (heap.collect_arranged _),heap.arranged_push _ _ (heap.collect_arranged _),rfl⟩
  refine (heap.push_perm _ _).trans (List.Perm.trans (List.Perm.cons _ ?_) (heap.push_perm _ _).symm)
  exact (heap.collect_perm _).trans ((same.filter _).trans (heap.collect_perm _).symm)

end

theorem Lone.step {router : SignalRouter P} (lone : Lone router.queue) (sound : Sound heap router) (op : Op P) :
    Lone (router.step heap op).2.queue := by
  cases op with
  | ingest_at signal lifecycle now_ms =>
    have swept := lone.expire sound now_ms
    have routes := ingest_routes heap router signal lifecycle now_ms
    show Lone (router.ingest_at heap signal lifecycle now_ms).2.queue
    generalize router.ingest_at heap signal lifecycle now_ms = outcome at routes ⊢
    cases routes with
    | ignored | dropped => exact swept
    | passed =>
      rw [commit_queue]
      exact swept
    | queued displaced keys queue fresh queues takes =>
    rw [release_ids]
    exact swept.takes takes
  | expire now_ms => exact lone.expire sound now_ms
  | next =>
    show Lone (router.next heap).2.queue
    obtain ⟨same,_⟩ | ⟨queued,rest,taken,same⟩ := next_cases heap router
    · rw [same]
      exact lone
    · rw [same]
      have before : ∀ other ∈ rest, other ∈ router.queue.heap := fun other member =>
        (heap.pop_perm _ queued rest taken).mem_iff.mpr (mem_cons_of_mem queued member)
      exact fun first member second member' => lone first (before first member) second (before second member')
  | clear_dedup => exact lone

/-! What a restored router answers. -/

/-- The same answer; of what expired at once the order is left open, as that of the heap is. -/
inductive Alike : Answer P → Answer P → Prop where
  | routed (disposition : SignalDisposition) (displaced : Option String) (ids ids' : List String) (same : ids.Perm ids') :
    Alike (.Routed ⟨disposition,displaced,ids⟩) (.Routed ⟨disposition,displaced,ids'⟩)
  | expired (ids ids' : List String) (same : ids.Perm ids') : Alike (.Expired ids) (.Expired ids')
  | next (signal : Option (RuntimeSignal P)) : Alike (.Next signal) (.Next signal)
  | cleared : Alike .Cleared .Cleared

variable {live restored : SignalRouter P}

theorem Twin.expire (twin : Twin heap live restored) (now_ms : Nat) :
    (live.expire heap now_ms).1.Perm (restored.expire heap now_ms).1 ∧
    Twin heap (live.expire heap now_ms).2 (restored.expire heap now_ms).2 := by
  obtain ⟨ids,entries,arranged,same,after⟩ := expire_spec heap live twin.arranged now_ms
  obtain ⟨ids',entries',arranged',same',after'⟩ := expire_spec heap restored twin.arranged' now_ms
  have stale : restored.stale now_ms = live.stale now_ms := by
    unfold stale
    rw [twin.ttl_ms]
  have aged : restored.aged now_ms = live.aged now_ms := by
    unfold aged
    rw [twin.deadline_escalation]
  have keys : (live.overKeys now_ms).Perm (restored.overKeys now_ms) := by
    unfold overKeys
    rw [stale]
    exact List.Perm.flatMap_right _ (twin.queued.filter _)
  refine ⟨?_,?_⟩
  · rw [ids,ids',stale]
    exact (twin.queued.filter _).map _
  rw [after,after']
  refine ⟨arranged,arranged',?_,twin.max_size,?_,?_,twin.dedupe_capacity,twin.ttl_ms,twin.deadline_escalation⟩
  · rw [stale,aged] at same'
    exact same.trans (((twin.queued.filter _).map _).trans same'.symm)
  · show restored.seen \ _ = live.seen \ _
    rw [twin.seen,toFinset_eq_of_perm _ _ keys]
  · show restored.seen_order.filter _ = live.seen_order.filter _
    rw [twin.seen_order]
    exact filter_congr fun key _ => by simp only [keys.mem_iff]

theorem Twin.commit (twin : Twin heap live restored) (dedupe_key : Option String) :
    Twin heap (live.commit dedupe_key) (restored.commit dedupe_key) := by
  cases dedupe_key with
  | none => exact twin
  | some key =>
  unfold SignalRouter.commit commit_dedupe
  dsimp only
  rw [twin.seen_order,twin.dedupe_capacity,twin.seen]
  split
  next => exact ⟨twin.arranged,twin.arranged',twin.queued,twin.max_size,rfl,rfl,rfl,twin.ttl_ms,twin.deadline_escalation⟩
  next => exact ⟨twin.arranged,twin.arranged',twin.queued,twin.max_size,rfl,rfl,rfl,twin.ttl_ms,twin.deadline_escalation⟩

/-- One signal, offered to both: the same comes of it. -/
theorem Twin.route (twin : Twin heap live restored) (distinct : live.queue.ids.Nodup) (lone : Lone live.queue)
    (signal : RuntimeSignal P) (lifecycle : TaskLifecycle) (now_ms : Nat) {ids ids' : List String}
    (same : ids.Perm ids') :
    Alike (P := P) (.Routed (live.route heap signal lifecycle now_ms ids).1)
    (.Routed (restored.route heap signal lifecycle now_ms ids').1) ∧
      Twin heap (live.route heap signal lifecycle now_ms ids).2
      (restored.route heap signal lifecycle now_ms ids').2 := by
  have due : restored.due signal now_ms = live.due signal now_ms := by
    unfold due
    rw [twin.deadline_escalation]
  have arriving : restored.arriving signal now_ms = live.arriving signal now_ms := by
    unfold arriving
    rw [due]
  unfold SignalRouter.route
  rw [twin.seen]
  split
  next => exact ⟨.routed _ _ ids ids' same,twin⟩
  next =>
  dsimp only
  rw [arriving,due]
  split
  next =>
    obtain ⟨admission,queued,arranged,arranged',max_size⟩ := admit_congr twin.queued heap twin.max_size twin.arranged twin.arranged'
      distinct lone (live.arriving signal now_ms) (live.due signal now_ms)
    have admitted : Twin heap (live.admission heap (live.arriving signal now_ms) (live.due signal now_ms)).2
        (restored.admission heap (live.arriving signal now_ms) (live.due signal now_ms)).2 := by
      unfold SignalRouter.admission
      dsimp only
      rw [release_all,release_all,admission]
      refine ⟨arranged,arranged',queued,max_size,?_,?_,twin.dedupe_capacity,twin.ttl_ms,twin.deadline_escalation⟩
      · exact congrArg (fun seen => seen \ _) twin.seen
      · exact congrArg (filter _) twin.seen_order
    have answer : (restored.admission heap (live.arriving signal now_ms) (live.due signal now_ms)).1 =
        (live.admission heap (live.arriving signal now_ms) (live.due signal now_ms)).1 := admission.symm
    rw [answer]
    split
    next => exact ⟨.routed _ _ ids ids' same,admitted.commit signal.dedupe_key⟩
    next => exact ⟨.routed _ _ ids ids' same,admitted⟩
  next => exact ⟨.routed _ _ ids ids' same,twin.commit signal.dedupe_key⟩

private theorem priority_distinct (distinct : queue.ids.Nodup) : ∀ first ∈ queue.heap, ∀ second ∈ queue.heap,
    priority first = priority second → first = second := by
  intro first held second held' same
  exact same_of_id distinct held held' (congrArg (fun key => (ofLex (ofLex key).2).2) same)

theorem Twin.next (twin : Twin heap live restored) (distinct : live.queue.ids.Nodup) :
    (live.next heap).1 = (restored.next heap).1 ∧ Twin heap (live.next heap).2 (restored.next heap).2 := by
  have popped := heap.pop_congr twin.arranged twin.arranged' twin.queued (priority_distinct distinct)
  unfold SignalRouter.next pop
  cases taken : heap.pop live.queue.heap with
  | none =>
    cases taken' : heap.pop restored.queue.heap with
    | none => exact ⟨rfl,twin⟩
    | some pair' =>
    rw [taken,taken'] at popped
    exact popped.elim
  | some pair =>
  cases taken' : heap.pop restored.queue.heap with
  | none =>
    rw [taken,taken'] at popped
    exact popped.elim
  | some pair' =>
  rw [taken,taken'] at popped
  obtain ⟨signal,rest⟩ := popped
  exact ⟨congrArg (fun queued => some queued.signal) signal,heap.arranged_pop _ _ _ twin.arranged taken,heap.arranged_pop _ _ _ twin.arranged' taken',
    rest,twin.max_size,twin.seen,twin.seen_order,twin.dedupe_capacity,twin.ttl_ms,twin.deadline_escalation⟩

theorem Twin.step (twin : Twin heap live restored) (sound : Sound heap live) (distinct : live.queue.ids.Nodup)
    (lone : Lone live.queue) (op : Op P) :
    Alike (live.step heap op).1 (restored.step heap op).1 ∧
    Twin heap (live.step heap op).2 (restored.step heap op).2 := by
  cases op with
  | ingest_at signal lifecycle now_ms =>
    obtain ⟨ids,swept⟩ := twin.expire now_ms
    exact swept.route (expire_nodup sound.arranged distinct now_ms) (lone.expire sound now_ms) signal lifecycle now_ms ids
  | expire now_ms =>
    obtain ⟨ids,swept⟩ := twin.expire now_ms
    exact ⟨.expired _ _ ids,swept⟩
  | next =>
    obtain ⟨same,after⟩ := twin.next distinct
    refine ⟨?_,after⟩
    show Alike (.Next (live.next heap).1) (.Next (restored.next heap).1)
    rw [same]
    exact .next _
  | clear_dedup =>
    exact ⟨.cleared,twin.arranged,twin.arranged',twin.queued,twin.max_size,rfl,rfl,twin.dedupe_capacity,twin.ttl_ms,twin.deadline_escalation⟩

/-! With changes of the policy. -/

inductive Call (P : Type) where
  | op (op : Op P)
  /-- The router is replaced by a new one. -/
  | set_signal_policy (max_queue_size : Nat) (ttl_ms : Option Nat) (deadline_escalation : Bool)

section
variable (heap)

def perform (router : SignalRouter P) : Call P → Option (Answer P) × SignalRouter P
  | .op op =>
    let (answer,router) := router.step heap op
    (some answer,router)
  | .set_signal_policy max_queue_size ttl_ms deadline_escalation => (none,with_policy max_queue_size ttl_ms deadline_escalation)

def performed (calls : List (Call P)) (router : SignalRouter P) : SignalRouter P :=
  calls.foldl (fun router call => (router.perform heap call).2) router

/-- The answers to the calls, in order. -/
def answers : List (Call P) → SignalRouter P → List (Option (Answer P))
  | [],_ => []
  | call :: rest,router => (router.perform heap call).1 :: answers rest (router.perform heap call).2

/-- Every call leaves a checkpoint restorable. -/
def MeetsAll : List (Call P) → SignalRouter P → Prop
  | [],_ => True
  | .op op :: rest,router => Meets heap router op ∧ MeetsAll rest (router.perform heap (.op op)).2
  | .set_signal_policy max_queue_size ttl_ms deadline_escalation :: rest,_ =>
    MeetsAll rest (with_policy max_queue_size ttl_ms deadline_escalation)

/-- Before every call no two queued signals have one id. -/
def ApartAll : List (Call P) → SignalRouter P → Prop
  | [],_ => True
  | call :: rest,router => router.queue.ids.Nodup ∧ ApartAll rest (router.perform heap call).2

end

theorem MeetsAll.restorable (calls : List (Call P)) : ∀ {router : SignalRouter P}, Sound heap router →
    Restorable none router →
    MeetsAll heap calls router → Sound heap (performed heap calls router) ∧
    Restorable none (performed heap calls router) := by
  induction calls with
  | nil => exact fun sound restorable _ => ⟨sound,restorable⟩
  | cons call rest ih =>
  intro router sound restorable meets
  cases call with
  | op op => exact ih (sound.step op) (restorable.step sound meets.1) meets.2
  | set_signal_policy max_queue_size ttl_ms deadline_escalation =>
  exact ih (with_policy_sound heap max_queue_size ttl_ms deadline_escalation)
    (with_policy_restorable max_queue_size ttl_ms deadline_escalation) meets

theorem Twin.answers (calls : List (Call P)) : ∀ {live restored : SignalRouter P}, Twin heap live restored →
    Sound heap live → Lone live.queue →
    ApartAll heap calls live → List.Forall₂ (Option.Rel Alike) (answers heap calls live)
    (answers heap calls restored) := by
  induction calls with
  | nil => exact fun _ _ _ _ => List.Forall₂.nil
  | cons call rest ih =>
  intro live restored twin sound lone apart
  cases call with
  | op op =>
    obtain ⟨alike,after⟩ := twin.step sound apart.1 lone op
    exact List.Forall₂.cons (.some alike) (ih after (sound.step op) (lone.step sound op) apart.2)
  | set_signal_policy max_queue_size ttl_ms deadline_escalation =>
  refine List.Forall₂.cons .none (ih ?_ (with_policy_sound heap max_queue_size ttl_ms deadline_escalation) ?_ apart.2)
  · exact ⟨heap.arranged_nil,heap.arranged_nil,List.Perm.refl _,rfl,rfl,rfl,rfl,rfl,rfl⟩
  · exact fun _ member => (not_mem_nil member).elim

/-- Where every call leaves a checkpoint restorable, the checkpoint is accepted, and what it restores answers every
later sequence of calls alike, for as long as no two queued signals have one id. -/
theorem restored_alike (max_queue_size : Nat) (ttl_ms : Option Nat) (deadline_escalation : Bool)
    (calls later : List (Call P))
    (meets : MeetsAll heap calls (with_policy max_queue_size ttl_ms deadline_escalation)) :
    let router := performed heap calls (with_policy max_queue_size ttl_ms deadline_escalation)
    ApartAll heap later router → ∃ restored,
      (with_policy router.queue.max_size router.ttl_ms router.deadline_escalation).restore_state heap
        (router.checkpoint_state heap) = .ok restored ∧
      List.Forall₂ (Option.Rel Alike) (answers heap later router) (answers heap later restored) := by
  intro router apart
  obtain ⟨sound,restorable⟩ := meets.restorable calls (with_policy_sound heap max_queue_size ttl_ms deadline_escalation)
    (with_policy_restorable max_queue_size ttl_ms deadline_escalation)
  obtain ⟨restored,accepted,twin⟩ := restorable.restore_state sound
  exact ⟨restored,accepted,twin.answers later sound restorable.lone apart⟩

/-- A queued signal with a key, given back after the restore. -/
theorem restored_alike_once : ∃ restored,
    (with_policy 2 none false).restore_state (sorted priority)
      ((performed (sorted priority) [.op (.ingest_at (normal "a" (some "k") 1) .Running 0)]
      (with_policy 2 none false)).checkpoint_state
        (sorted priority)) = .ok restored ∧
    List.Forall₂ (Option.Rel Alike)
      (answers (sorted priority) [.op .next]
        (performed (sorted priority) [.op (.ingest_at (normal "a" (some "k") 1) .Running 0)]
        (with_policy 2 none false)))
      (answers (sorted priority) [.op .next] restored) :=
  restored_alike 2 none false [.op (.ingest_at (normal "a" (some "k") 1) .Running 0)] [.op .next]
    ⟨.inr ⟨by decide +kernel,.inr (.inr fun crowded => absurd crowded.1 (by decide +kernel))⟩,trivial⟩ ⟨by decide +kernel,trivial⟩

/-- The window is cleared while a signal with a key is queued, or two signals of one id are queued: the checkpoint is refused. -/
theorem checkpoint_refused :
    ((with_policy 2 none false).restore_state (sorted priority) ((performed (sorted priority)
      [.op (.ingest_at (normal "a" (some "k") 1) .Running 0),.op .clear_dedup]
      (with_policy 2 none false)).checkpoint_state
        (sorted priority))).map (fun _ => ()) = .error (.Uncommitted "a" "k") ∧
    ((with_policy 2 none false).restore_state (sorted priority) ((performed (sorted priority)
      [.op (.ingest_at (normal "a" none 1) .Running 0),.op (.ingest_at (normal "a" none 2) .Running 0)]
      (with_policy 2 none false)).checkpoint_state
        (sorted priority))).map (fun _ => ()) = .error (.DuplicateQueued "a") := by decide +kernel

end SignalRouter

end Deepstrike.Signals

import Deepstrike.Attention

/-!
The signal router over any sequence of calls: where each admitted signal ends up, in which order the
queue gives its signals back, and for how long the key of a queued signal is remembered.
-/
namespace Deepstrike.Signals
open Heaps Tasks List UrgencyBasedPolicy

variable {P : Type} (heap : BinaryHeap (priority (P := P)))

namespace SignalRouter

/-- What holds of every router. -/
structure Sound (router : SignalRouter P) : Prop where
  arranged : heap.Arranged router.queue.heap
  urgencies : ∀ queued ∈ router.queue.heap, queued.urgency = queued.signal.urgency
  timestamps : ∀ queued ∈ router.queue.heap, queued.timestamp_ms = queued.signal.timestamp_ms
  bounded : router.queue.heap.length ≤ router.queue.max_size
  window : Window router

variable {heap}

theorem with_policy_sound (heap : BinaryHeap (priority (P := P))) (max_queue_size : Nat) (ttl_ms : Option Nat)
    (deadline_escalation : Bool) :
    Sound heap (with_policy max_queue_size ttl_ms deadline_escalation) := by
  refine ⟨heap.arranged_nil,fun _ member => (not_mem_nil member).elim,fun _ member => (not_mem_nil member).elim,Nat.zero_le _,?_⟩
  exact ⟨rfl,nodup_nil,rfl,Nat.zero_le _⟩

theorem arriving_keeps (router : SignalRouter P) (signal : RuntimeSignal P) (now_ms : Nat) :
    (router.arriving signal now_ms).id = signal.id ∧ (router.arriving signal now_ms).dedupe_key = signal.dedupe_key ∧
      (router.arriving signal now_ms).coalesce_key = signal.coalesce_key := by
  unfold arriving
  split <;> exact ⟨rfl,rfl,rfl⟩

theorem arriving_alike (router : SignalRouter P) (signal : RuntimeSignal P) (now_ms : Nat) :
    router.queue.coalesces_with (router.arriving signal now_ms) = router.queue.coalesces_with signal := by
  unfold SignalQueue.coalesces_with
  rw [(arriving_keeps router signal now_ms).2.2]

theorem commit_queue (router : SignalRouter P) (dedupe_key : Option String) :
    (router.commit dedupe_key).queue = router.queue := by
  unfold commit commit_dedupe
  split
  next => split <;> rfl
  next => rfl

theorem release_queue (router : SignalRouter P) (keys : List String) :
    (keys.foldl release_dedupe_key router).queue = router.queue := by
  rw [release_all]

variable {router : SignalRouter P} {queue : SignalQueue P} {signal : RuntimeSignal P} {deadline_escalated : Bool} {keys : List String}

/-- An expiry keeps the router sound. -/
theorem Sound.expire (sound : Sound heap router) (now_ms : Nat) : Sound heap (router.expire heap now_ms).2 := by
  obtain ⟨_,entries,arranged,same,after⟩ := expire_spec heap router sound.arranged now_ms
  have origin : ∀ queued ∈ entries, ∃ older ∈ router.queue.heap, router.aged now_ms older = queued := by
    intro queued member
    obtain ⟨older,kept,rfl⟩ := mem_map.mp (same.mem_iff.mp member)
    exact ⟨older,(mem_filter.mp kept).1,rfl⟩
  have window := sound.window.release (router.overKeys now_ms) { router.queue with heap := entries }
  rw [release_all] at window
  rw [after]
  refine ⟨arranged,fun queued member => ?_,fun queued member => ?_,?_,window⟩
  · obtain ⟨older,held,rfl⟩ := origin queued member
    exact aged_urgency router now_ms (sound.urgencies older held)
  · obtain ⟨older,held,rfl⟩ := origin queued member
    obtain ⟨_,_,_,_,timestamp,signal_timestamp⟩ := aged_keeps router now_ms older
    rw [timestamp,signal_timestamp]
    exact sound.timestamps older held
  · refine Nat.le_trans ?_ sound.bounded
    rw [same.length_eq,length_map]
    exact length_filter_le _ _

variable {after : SignalQueue P}

/-- What the queue holds was there, was coalesced or came in. -/
theorem takes_origin {displaced : Option (RuntimeSignal P)}
    (takes : queue.Takes heap signal deadline_escalated displaced keys after) : ∀ queued ∈ after.heap,
    queued ∈ queue.heap ∨ (∃ older ∈ queue.heap, queued = older.coalesce signal deadline_escalated) ∨
    queued = .new signal deadline_escalated := by
  intro queued member
  cases takes with
  | coalesced existing found =>
    obtain ⟨older,held,rfl⟩ := mem_map.mp ((heap.collect_perm _).mem_iff.mp member)
    split
    next => exact .inr (.inl ⟨older,held,rfl⟩)
    next => exact .inl held
  | entered alone room =>
    obtain own | held := mem_cons.mp ((heap.push_perm _ _).mem_iff.mp member)
    · exact .inr (.inr own)
    · exact .inl held
  | displaced lowest removed alone full least outranks held chosen =>
  obtain own | kept := mem_cons.mp ((heap.push_perm _ _).mem_iff.mp member)
  · exact .inr (.inr own)
  · exact .inl (mem_filter.mp ((heap.collect_perm _).mem_iff.mp kept)).1

theorem takes_max {displaced : Option (RuntimeSignal P)}
    (takes : queue.Takes heap signal deadline_escalated displaced keys after) : after.max_size = queue.max_size := by
  cases takes <;> rfl

private theorem takes_arranged {displaced : Option (RuntimeSignal P)} (arranged : heap.Arranged queue.heap)
    (takes : queue.Takes heap signal deadline_escalated displaced keys after) :
    heap.Arranged after.heap := by
  cases takes with
  | coalesced existing found => exact heap.collect_arranged _
  | entered alone room => exact heap.arranged_push _ _ arranged
  | displaced lowest removed alone full least outranks held chosen => exact heap.arranged_push _ _ (heap.collect_arranged _)

private theorem takes_bounded {displaced : Option (RuntimeSignal P)} (bounded : queue.heap.length ≤ queue.max_size)
    (takes : queue.Takes heap signal deadline_escalated displaced keys after) :
    after.heap.length ≤ queue.max_size := by
  cases takes with
  | coalesced existing found =>
    refine Nat.le_trans (Nat.le_of_eq ?_) bounded
    exact (heap.collect_perm _).length_eq.trans (length_map _)
  | entered alone room =>
    exact (heap.push_perm _ _).length_eq.trans_le room
  | displaced lowest removed alone full least outranks held chosen =>
  have fewer : (queue.heap.filter fun queued => queued.signal.id ≠ removed.signal.id).length < queue.heap.length :=
    length_filter_lt_length_iff_exists.mpr ⟨removed,held,by simp⟩
  have count := (heap.push_perm (.new signal deadline_escalated) (heap.collect (queue.heap.filter fun queued =>
    queued.signal.id ≠ removed.signal.id))).length_eq
  rw [length_cons,(heap.collect_perm _).length_eq] at count
  exact count.trans_le (fewer.trans_le bounded)

/-- A signal that is taken keeps the router sound. -/
theorem Sound.takes (sound : Sound heap router)
    {displaced : Option (RuntimeSignal P)}
    (takes : router.queue.Takes heap signal deadline_escalated displaced keys queue) :
    Sound heap (keys.foldl release_dedupe_key { router with queue }) := by
  have same := release_queue { router with queue } keys
  refine ⟨?_,?_,?_,?_,sound.window.release keys queue⟩
  · rw [same]
    exact takes_arranged sound.arranged takes
  · rw [same]
    intro queued member
    obtain held | ⟨older,_,rfl⟩ | rfl := takes_origin takes queued member
    · exact sound.urgencies queued held
    · rfl
    · rfl
  · rw [same]
    intro queued member
    obtain held | ⟨older,held,rfl⟩ | rfl := takes_origin takes queued member
    · exact sound.timestamps queued held
    · exact sound.timestamps older held
    · rfl
  · rw [same]
    exact (takes_bounded sound.bounded takes).trans_eq (takes_max takes).symm

theorem Sound.commit {router : SignalRouter P} (sound : Sound heap router) {dedupe_key : Option String}
    (fresh : ∀ key, dedupe_key = some key → key ∉ router.seen) : Sound heap (router.commit dedupe_key) := by
  have same := commit_queue router dedupe_key
  refine ⟨?_,?_,?_,?_,sound.window.commit fresh⟩
  · exact same ▸ sound.arranged
  · exact same ▸ sound.urgencies
  · exact same ▸ sound.timestamps
  · exact same ▸ sound.bounded

theorem release_fresh {dedupe_key : Option String} (fresh : ∀ key, dedupe_key = some key → key ∉ router.seen)
    (keys : List String) (queue : SignalQueue P) :
    ∀ key, dedupe_key = some key → key ∉ (keys.foldl release_dedupe_key { router with queue }).seen := by
  intro key named
  rw [release_all]
  exact fun member => fresh key named (Finset.mem_sdiff.mp member).1

theorem Sound.routes (sound : Sound heap router) {lifecycle : TaskLifecycle} {now_ms : Nat}
    {ids : List String} {result : SignalRouteOutcome × SignalRouter P}
    (routes : Routes heap router signal lifecycle now_ms ids result) :
    Sound heap result.2 := by
  cases routes with
  | ignored key named seen => exact sound
  | passed fresh other => exact sound.commit fresh
  | dropped fresh queues refused => exact sound
  | queued displaced keys queue fresh queues takes => exact (sound.takes takes).commit (release_fresh fresh keys queue)

theorem next_cases (heap : BinaryHeap (priority (P := P))) (router : SignalRouter P) :
    router.next heap = (none,router) ∧ router.queue.heap = [] ∨
    ∃ queued rest, heap.pop router.queue.heap = some (queued,rest) ∧
      router.next heap = (some queued.signal,{ router with queue := { router.queue with heap := rest } }) := by
  unfold next SignalQueue.pop
  cases taken : heap.pop router.queue.heap with
  | none => exact .inl ⟨rfl,heap.pop_nil _ taken⟩
  | some pair => exact .inr ⟨pair.1,pair.2,rfl,rfl⟩

/-- Giving out a signal keeps the router sound. -/
theorem Sound.next (sound : Sound heap router) : Sound heap (router.next heap).2 := by
  obtain ⟨same,_⟩ | ⟨queued,rest,taken,same⟩ := next_cases heap router
  · rw [same]
    exact sound
  have parts := heap.pop_perm _ queued rest taken
  rw [same]
  refine ⟨heap.arranged_pop _ queued rest sound.arranged taken,fun other member => ?_,fun other member => ?_,?_,
    ⟨sound.window.listed,sound.window.distinct,sound.window.capacity,sound.window.bounded⟩⟩
  · exact sound.urgencies other (parts.mem_iff.mpr (mem_cons_of_mem queued member))
  · exact sound.timestamps other (parts.mem_iff.mpr (mem_cons_of_mem queued member))
  have count := parts.length_eq
  rw [length_cons] at count
  have bounded := sound.bounded
  show rest.length ≤ router.queue.max_size
  omega

theorem Sound.step {router : SignalRouter P} (sound : Sound heap router) (op : Op P) :
    Sound heap (router.step heap op).2 := by
  cases op with
  | ingest_at signal lifecycle now_ms => exact (sound.expire now_ms).routes (route_routes heap _ signal lifecycle now_ms _)
  | expire now_ms => exact sound.expire now_ms
  | next => exact sound.next
  | clear_dedup => exact ⟨sound.arranged,sound.urgencies,sound.timestamps,sound.bounded,rfl,nodup_nil,sound.window.capacity,Nat.zero_le _⟩

variable (ops : List (Op P))

theorem Sound.run : ∀ {router : SignalRouter P}, Sound heap router → Sound heap (run heap ops router) := by
  induction ops with
  | nil => exact fun sound => sound
  | cons op rest ih => exact fun sound => ih (sound.step op)

/-- The signal given out is first in urgency and then in order. -/
theorem Sound.next_first (sound : Sound heap router) (given : (router.next heap).1 = some signal) :
    ∀ other ∈ (router.next heap).2.queue.heap,
      other.signal.urgency ≤ signal.urgency ∧
      (other.signal.urgency = signal.urgency → signal.timestamp_ms ≤ other.signal.timestamp_ms) := by
  obtain ⟨same,_⟩ | ⟨queued,rest,taken,same⟩ := next_cases heap router
  · rw [same] at given
    cases given
  rw [same] at given ⊢
  cases given
  intro other member
  have parts := heap.pop_perm _ queued rest taken
  have before : other ∈ router.queue.heap := parts.mem_iff.mpr (mem_cons_of_mem queued member)
  have own : queued ∈ router.queue.heap := parts.mem_iff.mpr mem_cons_self
  have greatest := heap.pop_greatest _ queued rest sound.arranged taken other member
  rw [← sound.urgencies other before,← sound.urgencies queued own,← sound.timestamps other before,← sound.timestamps queued own]
  unfold priority at greatest
  rw [Prod.Lex.toLex_le_toLex] at greatest
  obtain lower | ⟨equal,later⟩ := greatest
  · exact ⟨lower.le,fun equal => absurd equal lower.ne⟩
  refine ⟨equal.le,fun _ => ?_⟩
  rw [Prod.Lex.toLex_le_toLex] at later
  obtain newer | ⟨same_time,_⟩ := later
  · exact (OrderDual.toDual_lt_toDual.mp newer).le
  · exact (OrderDual.toDual_inj.mp same_time).ge

/-! Where the admitted signals are. -/

section
variable (heap)

/-- What the calls of a run write down, in order. -/
def along (log : SignalRouter P → Op P → List String) : List (Op P) → SignalRouter P → List String
  | [],_ => []
  | op :: rest,router => log router op ++ along log rest (router.step heap op).2

/-- The signal a call admits to the queue, by its id. -/
def admitted (router : SignalRouter P) : Op P → List String
  | .ingest_at signal lifecycle now_ms => if (router.ingest_at heap signal lifecycle now_ms).1.disposition = .Queue then [signal.id] else []
  | _ => []

/-- The signal a call admits to the place of a queued one. -/
def coalesced (router : SignalRouter P) : Op P → List String
  | .ingest_at signal lifecycle now_ms =>
    if (router.ingest_at heap signal lifecycle now_ms).1.disposition = .Queue ∧
      ((router.expire heap now_ms).2.queue.coalesces_with signal).isSome then [signal.id] else []
  | _ => []

/-- The signal a call reports displaced. -/
def displaced (router : SignalRouter P) : Op P → List String
  | .ingest_at signal lifecycle now_ms => (router.ingest_at heap signal lifecycle now_ms).1.displaced_signal_id.toList
  | _ => []

/-- The signals a call reports expired. -/
def expired (router : SignalRouter P) : Op P → List String
  | .ingest_at signal lifecycle now_ms => (router.ingest_at heap signal lifecycle now_ms).1.expired_signal_ids
  | .expire now_ms => (router.expire heap now_ms).1
  | _ => []

/-- The signal a call gives back. -/
def returned (router : SignalRouter P) : Op P → List String
  | .next => ((router.next heap).1.map RuntimeSignal.id).toList
  | _ => []

/-- The key a call puts into the window. -/
def committed (router : SignalRouter P) : Op P → List String
  | .ingest_at signal lifecycle now_ms =>
    if (router.ingest_at heap signal lifecycle now_ms).1.disposition = .Ignore ∨
      (router.ingest_at heap signal lifecycle now_ms).1.disposition = .Dropped then [] else signal.dedupe_key.toList
  | _ => []

/-- In every state of a run no two queued signals have one id. -/
def Apart : List (Op P) → SignalRouter P → Prop
  | [],router => router.queue.ids.Nodup
  | op :: rest,router => router.queue.ids.Nodup ∧ Apart rest (router.step heap op).2

end

theorem Apart.last : ∀ {router : SignalRouter P}, Apart heap ops router → (run heap ops router).queue.ids.Nodup := by
  induction ops with
  | nil => exact fun apart => apart
  | cons op rest ih => exact fun apart => ih apart.2

private theorem expire_ids (arranged : heap.Arranged router.queue.heap) (now_ms : Nat) :
    router.queue.ids.Perm ((router.expire heap now_ms).1 ++ (router.expire heap now_ms).2.queue.ids) := by
  obtain ⟨ids,entries,_,same,after⟩ := expire_spec heap router arranged now_ms
  rw [ids,after]
  have kept : (entries.map fun queued => queued.signal.id).Perm
      ((router.queue.heap.filter fun queued => !router.stale now_ms queued).map fun queued => queued.signal.id) := by
    refine (same.map _).trans (List.Perm.of_eq ?_)
    rw [map_map]
    exact map_congr_left fun queued _ => (aged_keeps router now_ms queued).1
  refine List.Perm.trans ?_ (kept.symm.append_left _)
  unfold SignalQueue.ids
  rw [← map_append]
  exact (filter_append_perm (router.stale now_ms) router.queue.heap).symm.map _

theorem expire_nodup (arranged : heap.Arranged router.queue.heap) (distinct : router.queue.ids.Nodup) (now_ms : Nat) :
    (router.expire heap now_ms).2.queue.ids.Nodup :=
  (nodup_append.mp ((expire_ids arranged now_ms).nodup_iff.mp distinct)).2.1

theorem same_of_id (distinct : queue.ids.Nodup) {first second : PrioritizedSignal P} (held : first ∈ queue.heap)
    (held' : second ∈ queue.heap) (same : first.signal.id = second.signal.id) : first = second :=
  inj_on_of_nodup_map distinct held held' same

theorem remove_perm (distinct : queue.ids.Nodup) {removed : PrioritizedSignal P} (held : removed ∈ queue.heap) :
    queue.heap.Perm (removed :: queue.heap.filter fun queued => queued.signal.id ≠ removed.signal.id) := by
  have whole : queue.heap.Nodup := List.Nodup.of_map _ distinct
  refine (perm_ext_iff_of_nodup whole ?_).mpr fun queued => ?_
  · exact nodup_cons.mpr ⟨fun member => of_decide_eq_true (mem_filter.mp member).2 rfl,whole.filter _⟩
  rw [mem_cons,mem_filter,decide_eq_true_eq]
  constructor
  · intro member
    by_cases same : queued.signal.id = removed.signal.id
    · exact .inl (same_of_id distinct member held same)
    · exact .inr ⟨member,same⟩
  · rintro (rfl | ⟨member,_⟩)
    · exact held
    · exact member

private theorem takes_ids (distinct : queue.ids.Nodup)
    {displaced : Option (RuntimeSignal P)} (takes : queue.Takes heap signal deadline_escalated displaced keys after) :
    (signal.id :: queue.ids).Perm
      ((if (queue.coalesces_with signal).isSome then [signal.id] else []) ++ (displaced.map RuntimeSignal.id).toList ++ after.ids) := by
  cases takes with
  | coalesced existing found =>
    rw [found,Option.isSome_some,if_pos rfl]
    refine List.Perm.cons _ (((heap.collect_perm _).map _).trans (List.Perm.of_eq ?_)).symm
    rw [map_map]
    refine map_congr_left fun queued _ => ?_
    rw [Function.comp_apply]
    split <;> rfl
  | entered alone room =>
    rw [alone,Option.isSome_none,if_neg Bool.false_ne_true]
    exact ((heap.push_perm (.new signal deadline_escalated) queue.heap).map fun queued => queued.signal.id).symm
  | displaced lowest removed alone full least outranks held chosen =>
  rw [alone,Option.isSome_none,if_neg Bool.false_ne_true]
  have parts := (remove_perm distinct held).map fun queued => queued.signal.id
  have after := ((heap.push_perm (.new signal deadline_escalated) (heap.collect (queue.heap.filter fun queued =>
    queued.signal.id ≠ removed.signal.id))).trans ((heap.collect_perm _).cons _)).map fun queued => queued.signal.id
  refine List.Perm.trans (parts.cons signal.id) (List.Perm.trans (List.Perm.swap _ _ _) (List.Perm.cons removed.signal.id ?_))
  exact after.symm

theorem release_ids (router : SignalRouter P) (keys : List String) (dedupe_key : Option String)
    (queue : SignalQueue P) :
    ((keys.foldl release_dedupe_key { router with queue }).commit dedupe_key).queue = queue := by
  rw [commit_queue,release_queue]

theorem evaluate_kept (signal : RuntimeSignal P) (lifecycle : TaskLifecycle) :
    evaluate signal lifecycle ≠ .Ignore ∧ evaluate signal lifecycle ≠ .Dropped := by
  unfold evaluate
  split
  · simp
  · cases signal.urgency <;> dsimp only <;> first | (split <;> simp) | simp

/-- One call moves ids about and loses none. -/
theorem step_ids (sound : Sound heap router) (distinct : router.queue.ids.Nodup) (op : Op P) :
    (router.queue.ids ++ admitted heap router op).Perm
    ((router.step heap op).2.queue.ids ++ (coalesced heap router op ++
      (displaced heap router op ++ (expired heap router op ++ returned heap router op)))) := by
  cases op with
  | ingest_at signal lifecycle now_ms =>
    have swept := expire_ids sound.arranged now_ms
    have swept_distinct := expire_nodup sound.arranged distinct now_ms
    unfold admitted coalesced displaced expired returned step
    dsimp only
    have routes := ingest_routes heap router signal lifecycle now_ms
    generalize router.ingest_at heap signal lifecycle now_ms = outcome at routes ⊢
    -- A call that queues nothing only drops what is over.
    have idle : (router.queue.ids ++ []).Perm ((router.expire heap now_ms).2.queue.ids ++ ([] ++ ([] ++ ((router.expire heap now_ms).1 ++ [])))) := by
      simp only [append_nil,nil_append]
      exact swept.trans perm_append_comm
    cases routes with
    | ignored key named seen => exact idle
    | passed fresh other =>
      simp only [other,false_and,if_false,commit_queue]
      exact idle
    | dropped fresh queues refused => exact idle
    | queued displaced keys queue fresh queues takes =>
    have taken := takes_ids swept_distinct takes
    rw [arriving_alike,(arriving_keeps _ signal now_ms).1] at taken
    simp only [release_ids,true_and,if_true,append_nil]
    refine ((perm_append_comm.trans (swept.cons signal.id)).trans ?_)
    refine (perm_middle.symm.trans (taken.append_left _)).trans ?_
    rw [perm_iff_count]
    intro id
    simp only [count_append]
    omega
  | expire now_ms =>
    unfold admitted coalesced displaced expired returned step
    simp only [append_nil,nil_append]
    exact (expire_ids sound.arranged now_ms).trans perm_append_comm
  | next =>
    unfold admitted coalesced displaced expired returned step
    simp only [append_nil,nil_append]
    obtain ⟨same,_⟩ | ⟨queued,rest,taken,same⟩ := next_cases heap router
    · rw [same]
      exact List.Perm.of_eq (append_nil _).symm
    · rw [same]
      exact ((heap.pop_perm _ queued rest taken).map fun queued => queued.signal.id).trans (perm_append_singleton _ _).symm
  | clear_dedup =>
  unfold admitted coalesced displaced expired returned step
  exact List.Perm.refl _

/-- Every admitted signal is queued, coalesced, dropped or given out once. -/
theorem run_ids : ∀ {router : SignalRouter P}, Sound heap router → Apart heap ops router →
    (router.queue.ids ++ along heap (admitted heap) ops router).Perm ((run heap ops router).queue.ids ++
      (along heap (coalesced heap) ops router ++ (along heap (displaced heap) ops router ++
        (along heap (expired heap) ops router ++ along heap (returned heap) ops router)))) := by
  induction ops with
  | nil =>
    intro router _ _
    exact List.Perm.refl _
  | cons op rest ih =>
  intro router sound apart
  have first := step_ids sound apart.1 op
  have later := ih (sound.step op) apart.2
  show (router.queue.ids ++ along heap (admitted heap) (op :: rest) router).Perm ((run heap rest (router.step heap op).2).queue.ids ++ _)
  rw [perm_iff_count] at first later ⊢
  intro id
  have first := first id
  have later := later id
  simp only [along,count_append] at first later ⊢
  omega

end SignalRouter

end Deepstrike.Signals

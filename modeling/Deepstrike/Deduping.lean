import Deepstrike.Queueing

/-!
How long the router remembers the key of a queued signal, and all that holds of it over any sequence
of calls.
-/
namespace Deepstrike.Signals
open Heaps Tasks List

variable {P : Type} {heap : BinaryHeap (priority (P := P))}

namespace SignalRouter

/-- A queued signal has a key, its own or that of a signal that joined it. -/
def Carried (router : SignalRouter P) (key : String) : Prop := ∃ queued ∈ router.queue.heap, key ∈ queued.dedupe_keys

/-- One entry at most carries the key, and if one does, no more than `behind` keys came into the window after it. -/
structure Guarded (key : String) (behind : Nat) (router : SignalRouter P) : Prop where
  one : ∀ first ∈ router.queue.heap, ∀ second ∈ router.queue.heap, key ∈ first.dedupe_keys → key ∈ second.dedupe_keys →
    first.signal.id = second.signal.id
  held : router.Carried key → ∃ front back, router.seen_order = front ++ key :: back ∧ back.length ≤ behind

variable {key : String} {behind now_ms : Nat} {router : SignalRouter P} {keys : List String} {queue : SignalQueue P} {signal : RuntimeSignal P}
variable {deadline_escalated : Bool} {lifecycle : TaskLifecycle}

theorem Guarded.seen (guarded : Guarded key behind router) (window : Window router)
    (carried : router.Carried key) : key ∈ router.seen := by
  obtain ⟨front,back,order,_⟩ := guarded.held carried
  rw [window.mem,order]
  exact mem_append_right _ mem_cons_self

private theorem held_filter {order front back : List String} (same : order = front ++ key :: back)
    (bounded : back.length ≤ behind) (kept : key ∉ keys) :
    ∃ front back, (order.filter fun other => other ∉ keys) = front ++ key :: back ∧ back.length ≤ behind := by
  refine ⟨front.filter fun other => other ∉ keys,back.filter fun other => other ∉ keys,?_,(length_filter_le _ _).trans bounded⟩
  rw [same,filter_append,filter_cons_of_pos]
  exact decide_eq_true kept

/-- An expiry keeps a key that is carried in the window. -/
theorem Guarded.expire (guarded : Guarded key behind router)
    (arranged : heap.Arranged router.queue.heap) (distinct : router.queue.ids.Nodup) (now_ms : Nat) :
    Guarded key behind (router.expire heap now_ms).2 := by
  obtain ⟨_,entries,_,same,after⟩ := expire_spec heap router arranged now_ms
  have origin : ∀ queued ∈ entries, ∃ older ∈ router.queue.heap, router.stale now_ms older = false ∧ queued.signal.id = older.signal.id ∧
      queued.dedupe_keys = older.dedupe_keys := by
    intro queued member
    obtain ⟨older,kept,rfl⟩ := mem_map.mp (same.mem_iff.mp member)
    obtain ⟨id,keys,_⟩ := aged_keeps router now_ms older
    obtain ⟨held,stays⟩ := mem_filter.mp kept
    exact ⟨older,held,by simpa using stays,id,keys⟩
  rw [after]
  refine ⟨fun first member second member' carries carries' => ?_,?_⟩
  · obtain ⟨older,held,_,id,keys⟩ := origin first member
    obtain ⟨older',held',_,id',keys'⟩ := origin second member'
    rw [id,id']
    exact guarded.one older held older' held' (keys ▸ carries) (keys' ▸ carries')
  rintro ⟨queued,member,carries⟩
  obtain ⟨older,held,stays,_,keys⟩ := origin queued member
  rw [keys] at carries
  obtain ⟨front,back,order,bounded⟩ := guarded.held ⟨older,held,carries⟩
  refine held_filter order bounded fun released => ?_
  obtain ⟨gone,listed,carries'⟩ := mem_flatMap.mp released
  obtain ⟨held',drops⟩ := mem_filter.mp listed
  cases same_of_id distinct held held' (guarded.one older held gone held' carries carries')
  rw [stays] at drops
  cases drops

/-- What carries a key after a signal was taken carried it before and stays, or the signal brought it. -/
theorem takes_carries {after : SignalQueue P} {displaced : Option (RuntimeSignal P)}
    (takes : queue.Takes heap signal deadline_escalated displaced keys after) : ∃ target, ∀ queued ∈ after.heap,
    ∀ key ∈ queued.dedupe_keys,
      (∃ older ∈ queue.heap, key ∈ older.dedupe_keys ∧ queued.signal.id = older.signal.id ∧
        (keys ≠ [] → ∃ removed ∈ queue.heap, keys = removed.dedupe_keys ∧ removed.signal.id ≠ older.signal.id)) ∨
      signal.dedupe_key = some key ∧ queued.signal.id = target := by
  have joined : ∀ {older : PrioritizedSignal P} {key : String}, key ∈ (older.coalesce signal deadline_escalated).dedupe_keys →
      key ∈ older.dedupe_keys ∨ signal.dedupe_key = some key := by
    intro older key member
    obtain before | brought := mem_append.mp member
    · exact .inl before
    · exact .inr (Option.mem_toList.mp (mem_filter.mp brought).1)
  cases takes with
  | coalesced existing found =>
    refine ⟨existing.signal.id,fun queued member key carries => ?_⟩
    obtain ⟨older,held,rfl⟩ := mem_map.mp ((heap.collect_perm _).mem_iff.mp member)
    by_cases target : older.signal.id = existing.signal.id
    · rw [if_pos target] at carries ⊢
      obtain before | brought := joined carries
      · exact .inl ⟨older,held,before,rfl,fun some_gone => (some_gone rfl).elim⟩
      · exact .inr ⟨brought,target⟩
    · rw [if_neg target] at carries ⊢
      exact .inl ⟨older,held,carries,rfl,fun some_gone => (some_gone rfl).elim⟩
  | entered alone room =>
    refine ⟨signal.id,fun queued member key carries => ?_⟩
    obtain rfl | held := mem_cons.mp ((heap.push_perm _ _).mem_iff.mp member)
    · exact .inr ⟨Option.mem_toList.mp carries,rfl⟩
    · exact .inl ⟨queued,held,carries,rfl,fun some_gone => (some_gone rfl).elim⟩
  | displaced lowest removed alone full least outranks held chosen =>
  refine ⟨signal.id,fun queued member key carries => ?_⟩
  obtain rfl | kept := mem_cons.mp ((heap.push_perm _ _).mem_iff.mp member)
  · exact .inr ⟨Option.mem_toList.mp carries,rfl⟩
  · obtain ⟨member,different⟩ := mem_filter.mp ((heap.collect_perm _).mem_iff.mp kept)
    exact .inl ⟨queued,member,carries,rfl,fun _ => ⟨removed,held,rfl,Ne.symm (of_decide_eq_true different)⟩⟩

private theorem commit_dedupe_behind (window : Window router) {other : String} {front back : List String}
    (order : router.seen_order = front ++ key :: back) (bounded : back.length ≤ behind) (room : behind+1 < DEFAULT_DEDUPE_CAPACITY) :
    ∃ front back, (router.commit_dedupe other).seen_order = front ++ key :: back ∧ back.length ≤ behind+1 := by
  have longer : (back ++ [other]).length ≤ behind+1 := by
    rw [length_append,length_singleton]
    exact Nat.succ_le_succ bounded
  obtain ⟨_,same⟩ | ⟨gone,rest,full,count,same⟩ := commit_cases window other
  · rw [same]
    refine ⟨front,back ++ [other],?_,longer⟩
    show router.seen_order ++ [other] = _
    rw [order,append_assoc,cons_append]
  rw [same]
  rw [order] at full
  cases front with
  | nil =>
    cases full
    omega
  | cons first front =>
  obtain ⟨_,later⟩ := cons.inj full
  refine ⟨front,back ++ [other],?_,longer⟩
  show rest ++ [other] = _
  rw [← later]
  exact append_assoc front (key :: back) [other]

private theorem commit_dedupe_last (window : Window router) (key : String) :
    ∃ front, (router.commit_dedupe key).seen_order = front ++ [key] := by
  obtain ⟨_,same⟩ | ⟨_,rest,_,_,same⟩ := commit_cases window key
  · exact ⟨router.seen_order,by rw [same]⟩
  · exact ⟨rest,by rw [same]⟩

/-- A commit puts one key behind those of the window. -/
theorem Guarded.commit {key : String} {behind : Nat} {router : SignalRouter P} (window : Window router)
    {dedupe_key : Option String}
    (one : ∀ first ∈ router.queue.heap, ∀ second ∈ router.queue.heap, key ∈ first.dedupe_keys →
    key ∈ second.dedupe_keys →
      first.signal.id = second.signal.id)
    (held : router.Carried key → dedupe_key ≠ some key → ∃ front back, router.seen_order = front ++ key :: back ∧
      back.length ≤ behind)
    (room : behind+dedupe_key.toList.length < DEFAULT_DEDUPE_CAPACITY) :
    Guarded key (behind+dedupe_key.toList.length) (router.commit dedupe_key) := by
  have queue := commit_queue router dedupe_key
  refine ⟨by rw [queue]; exact one,fun carried_after => ?_⟩
  have carried : router.Carried key := by
    unfold Carried at carried_after ⊢
    rwa [queue] at carried_after
  clear carried_after
  cases dedupe_key with
  | none => exact held carried nofun
  | some other =>
  by_cases same : other = key
  · subst same
    obtain ⟨front,last⟩ := commit_dedupe_last window other
    exact ⟨front,[],last,Nat.zero_le _⟩
  · obtain ⟨front,back,order,bounded⟩ := held carried fun equal => same (Option.some.inj equal)
    exact commit_dedupe_behind window order bounded room

/-- A signal that is taken leaves the key guarded: it brings the key only where no entry carries it. -/
theorem Guarded.takes (guarded : Guarded key behind router) (window : Window router)
    {displaced : Option (RuntimeSignal P)}
    (fresh : ∀ key, signal.dedupe_key = some key → key ∉ router.seen)
    (takes : router.queue.Takes heap signal deadline_escalated displaced keys queue)
    (room : behind+signal.dedupe_key.toList.length < DEFAULT_DEDUPE_CAPACITY) :
    Guarded key (behind+signal.dedupe_key.toList.length)
    ((keys.foldl release_dedupe_key { router with queue }).commit signal.dedupe_key) := by
  have same := release_queue { router with queue } keys
  obtain ⟨target,carries⟩ := takes_carries takes
  -- A key the signal brings is not seen, so no entry carried it.
  have apart : signal.dedupe_key = some key → ∀ older ∈ router.queue.heap, key ∉ older.dedupe_keys := by
    intro brings older held carried
    exact fresh key brings (guarded.seen window ⟨older,held,carried⟩)
  refine Guarded.commit (window.release keys queue) ?_ ?_ room
  · rw [same]
    intro first member second member' carried carried'
    obtain ⟨older,held,before,id,_⟩ | ⟨brings,id⟩ := carries first member key carried
    · obtain ⟨older',held',before',id',_⟩ | ⟨brings',_⟩ := carries second member' key carried'
      · rw [id,id']
        exact guarded.one older held older' held' before before'
      · exact (apart brings' older held before).elim
    · obtain ⟨older',held',before',_⟩ | ⟨_,id'⟩ := carries second member' key carried'
      · exact (apart brings older' held' before').elim
      · exact id.trans id'.symm
  rintro ⟨queued,member,carried⟩ different
  rw [same] at member
  obtain ⟨older,held,before,_,gone⟩ | ⟨brings,_⟩ := carries queued member key carried
  · obtain ⟨front,back,order,bounded⟩ := guarded.held ⟨older,held,before⟩
    rw [release_all]
    refine held_filter order bounded fun released => ?_
    obtain ⟨removed,held',rfl,other⟩ := gone (ne_nil_of_mem released)
    exact other (guarded.one removed held' older held released before)
  · exact (different brings).elim

/-- Short of a cleared window, a call leaves a key guarded, behind one more key if it commits one. -/
theorem Guarded.step {key : String} {behind : Nat} {router : SignalRouter P} (guarded : Guarded key behind router)
    (sound : Sound heap router)
    (distinct : router.queue.ids.Nodup) {op : Op P} (clears : op ≠ .clear_dedup)
    (room : behind+(committed heap router op).length < DEFAULT_DEDUPE_CAPACITY) :
    Guarded key (behind+(committed heap router op).length) (router.step heap op).2 := by
  cases op with
  | ingest_at signal lifecycle now_ms =>
    have swept := guarded.expire sound.arranged distinct now_ms
    have window := (sound.expire now_ms).window
    have routes := ingest_routes heap router signal lifecycle now_ms
    unfold committed at room ⊢
    unfold SignalRouter.step
    dsimp only at room ⊢
    generalize router.ingest_at heap signal lifecycle now_ms = outcome at routes room ⊢
    cases routes with
    | ignored known named seen => exact swept
    | passed fresh other =>
      have kept := evaluate_kept ((router.expire heap now_ms).2.arriving signal now_ms) lifecycle
      rw [if_neg (not_or.mpr kept)] at room ⊢
      exact Guarded.commit window swept.one (fun carried _ => swept.held carried) room
    | dropped fresh queues refused => exact swept
    | queued displaced keys queue fresh queues takes =>
    have brought := (arriving_keeps (router.expire heap now_ms).2 signal now_ms).2.1
    rw [if_neg (by simp)] at room ⊢
    rw [← brought] at room fresh ⊢
    exact swept.takes window fresh takes room
  | expire now_ms => exact guarded.expire sound.arranged distinct now_ms
  | next =>
    unfold SignalRouter.step
    obtain ⟨same,_⟩ | ⟨queued,rest,taken,same⟩ := next_cases heap router
    · rw [same]
      exact guarded
    rw [same]
    have before : ∀ other ∈ rest, other ∈ router.queue.heap := fun other member =>
      (heap.pop_perm _ queued rest taken).mem_iff.mpr (mem_cons_of_mem queued member)
    refine ⟨fun first member second member' => guarded.one first (before first member) second (before second member'),?_⟩
    rintro ⟨other,member,carries⟩
    exact guarded.held ⟨other,before other member,carries⟩
  | clear_dedup => exact (clears rfl).elim

theorem Guarded.run (ops : List (Op P)) : ∀ {behind : Nat} {router : SignalRouter P}, Guarded key behind router →
    Sound heap router → Apart heap ops router → (∀ op ∈ ops, op ≠ .clear_dedup) →
    behind+(along heap (committed heap) ops router).length < DEFAULT_DEDUPE_CAPACITY →
    Guarded key (behind+(along heap (committed heap) ops router).length) (SignalRouter.run heap ops router) := by
  induction ops with
  | nil => exact fun guarded _ _ _ _ => guarded
  | cons op rest ih =>
  intro behind router guarded sound apart clears room
  unfold along at room ⊢
  rw [length_append,← Nat.add_assoc] at room ⊢
  exact ih (guarded.step sound apart.1 (clears op mem_cons_self) (by omega)) (sound.step op) apart.2
    (fun other member => clears other (mem_cons_of_mem op member)) room

private theorem Guarded.ignores (guarded : Guarded key behind router) (sound : Sound heap router)
    (distinct : router.queue.ids.Nodup) (signal : RuntimeSignal P) (lifecycle : TaskLifecycle) (now_ms : Nat)
    (named : signal.dedupe_key = some key) (carried : (router.expire heap now_ms).2.Carried key) :
    (router.ingest_at heap signal lifecycle now_ms).1.disposition = .Ignore := by
  have seen := (guarded.expire sound.arranged distinct now_ms).seen (sound.expire now_ms).window carried
  unfold ingest_at route
  dsimp only
  rw [if_pos]
  rw [named]
  exact decide_eq_true seen

private theorem Guarded.enters (window : Window router) (apart : ¬ router.Carried key) {displaced : Option (RuntimeSignal P)}
    (named : signal.dedupe_key = some key) (takes : router.queue.Takes heap signal deadline_escalated displaced keys queue) :
    Guarded key 0 ((keys.foldl release_dedupe_key { router with queue }).commit signal.dedupe_key) := by
  have same := release_ids router keys signal.dedupe_key queue
  obtain ⟨target,carries⟩ := takes_carries takes
  have own : ∀ queued ∈ queue.heap, key ∈ queued.dedupe_keys → queued.signal.id = target := by
    intro queued member carried
    obtain ⟨older,held,before,_⟩ | ⟨_,id⟩ := carries queued member key carried
    · exact (apart ⟨older,held,before⟩).elim
    · exact id
  refine ⟨?_,fun _ => ?_⟩
  · rw [same]
    exact fun first member second member' carried carried' => (own first member carried).trans (own second member' carried').symm
  · rw [named]
    obtain ⟨front,last⟩ := commit_dedupe_last (window.release keys queue) key
    exact ⟨front,[],last,Nat.le_refl _⟩

private theorem ingest_enters (sound : Sound heap router) (named : signal.dedupe_key = some key) (apart : ¬ (router.expire heap now_ms).2.Carried key)
    (queues : (router.ingest_at heap signal lifecycle now_ms).1.disposition = .Queue) :
    Guarded key 0 (router.ingest_at heap signal lifecycle now_ms).2 := by
  have window := (sound.expire now_ms).window
  have brought := (arriving_keeps (router.expire heap now_ms).2 signal now_ms).2.1
  have routes := ingest_routes heap router signal lifecycle now_ms
  generalize router.ingest_at heap signal lifecycle now_ms = outcome at routes queues ⊢
  cases routes with
  | ignored => cases queues
  | passed fresh other => exact (other queues).elim
  | dropped => cases queues
  | queued displaced keys queue fresh queues takes =>
  rw [← brought] at named ⊢
  exact Guarded.enters window apart named takes

/-- A signal that joins another changes that entry and no other. -/
theorem coalesces_once (sound : Sound heap router) (distinct : router.queue.ids.Nodup) {entry : PrioritizedSignal P}
    (joins : (router.expire heap now_ms).2.queue.coalesces_with signal = some entry)
    (queues : (router.ingest_at heap signal lifecycle now_ms).1.disposition = .Queue) :
    ∃ others, (router.expire heap now_ms).2.queue.heap.Perm (entry :: others) ∧
      (router.ingest_at heap signal lifecycle now_ms).2.queue.heap.Perm
        (entry.coalesce ((router.expire heap now_ms).2.arriving signal now_ms)
        ((router.expire heap now_ms).2.due signal now_ms) :: others) := by
  have swept_distinct := expire_nodup sound.arranged distinct now_ms
  have routes := ingest_routes heap router signal lifecycle now_ms
  generalize router.ingest_at heap signal lifecycle now_ms = outcome at routes queues ⊢
  cases routes with
  | ignored => cases queues
  | passed fresh other => exact (other queues).elim
  | dropped => cases queues
  | queued displaced keys queue fresh queues takes =>
  rw [← arriving_alike _ _ now_ms] at joins
  rw [release_ids]
  cases takes with
  | coalesced existing found =>
    rw [joins] at found
    cases found
    obtain ⟨_,_,searched⟩ := Option.bind_eq_some_iff.mp joins
    have parts := remove_perm swept_distinct (mem_of_find?_eq_some searched)
    refine ⟨_,parts,(heap.collect_perm _).trans ((parts.map _).trans (List.Perm.of_eq ?_))⟩
    rw [map_cons,if_pos rfl]
    refine congrArg _ ((map_congr_left fun other member => ?_).trans (map_id _))
    exact if_neg (of_decide_eq_true (mem_filter.mp member).2)
  | entered alone room =>
    rw [joins] at alone
    cases alone
  | displaced lowest removed alone full least outranks held chosen =>
  rw [joins] at alone
  cases alone

private theorem step_max (sound : Sound heap router) (op : Op P) :
    (router.step heap op).2.queue.max_size = router.queue.max_size := by
  have swept : ∀ now_ms, (router.expire heap now_ms).2.queue.max_size = router.queue.max_size := by
    intro now_ms
    obtain ⟨_,entries,_,_,after⟩ := expire_spec heap router sound.arranged now_ms
    rw [after]
  cases op with
  | ingest_at signal lifecycle now_ms =>
    refine Eq.trans ?_ (swept now_ms)
    have routes := ingest_routes heap router signal lifecycle now_ms
    show (router.ingest_at heap signal lifecycle now_ms).2.queue.max_size = _
    generalize router.ingest_at heap signal lifecycle now_ms = outcome at routes ⊢
    cases routes with
    | ignored | dropped => rfl
    | passed => rw [commit_queue]
    | queued displaced keys queue fresh queues takes =>
    rw [release_ids]
    exact takes_max takes
  | expire now_ms => exact swept now_ms
  | next =>
    obtain ⟨same,_⟩ | ⟨queued,rest,_,same⟩ := next_cases heap router
    · show (router.next heap).2.queue.max_size = _
      rw [same]
    · show (router.next heap).2.queue.max_size = _
      rw [same]
  | clear_dedup => rfl

private theorem run_max (ops : List (Op P)) : ∀ {router : SignalRouter P}, Sound heap router →
    (SignalRouter.run heap ops router).queue.max_size = router.queue.max_size := by
  induction ops with
  | nil => exact fun _ => rfl
  | cons op rest ih => exact fun sound => (ih (sound.step op)).trans (step_max sound op)

/-- What holds of the router after any calls. The queue stays within its bound and gives back the most urgent
and oldest first; the window is its list, without repeats and of at most 256 keys. As long as no two queued
signals have one id, each admitted signal is in one place; one that joins another changes that entry alone;
and the key of a queued signal, not carried when the signal came, is answered for until 256 more are
committed or the window is cleared. -/
theorem signals_kept (max_queue_size : Nat) (ttl_ms : Option Nat) (deadline_escalation : Bool) (ops : List (Op P)) :
    let start : SignalRouter P := with_policy max_queue_size ttl_ms deadline_escalation
    let router := run heap ops start
    router.depth ≤ max_queue_size ∧
    (∀ signal, (router.next heap).1 = some signal → ∀ other ∈ (router.next heap).2.queue.heap,
      other.signal.urgency ≤ signal.urgency ∧
        (other.signal.urgency = signal.urgency → signal.timestamp_ms ≤ other.signal.timestamp_ms)) ∧
    (router.seen = router.seen_order.toFinset ∧ router.seen_order.Nodup ∧ router.seen_order.length ≤ 256) ∧
    (Apart heap ops start →
      (along heap (admitted heap) ops start).Perm
        (router.queue.ids ++ (along heap (coalesced heap) ops start ++ (along heap (displaced heap) ops start ++
          (along heap (expired heap) ops start ++ along heap (returned heap) ops start))))) ∧
    (router.queue.ids.Nodup → ∀ signal lifecycle now_ms entry,
      (router.expire heap now_ms).2.queue.coalesces_with signal = some entry →
      (router.ingest_at heap signal lifecycle now_ms).1.disposition = .Queue →
      ∃ others, (router.expire heap now_ms).2.queue.heap.Perm (entry :: others) ∧
        (router.ingest_at heap signal lifecycle now_ms).2.queue.heap.Perm
          (entry.coalesce ((router.expire heap now_ms).2.arriving signal now_ms)
            ((router.expire heap now_ms).2.due signal now_ms) :: others)) ∧
    ∀ signal lifecycle now_ms key more, signal.dedupe_key = some key →
      (router.ingest_at heap signal lifecycle now_ms).1.disposition = .Queue →
      ¬ (router.expire heap now_ms).2.Carried key →
      Apart heap more (router.ingest_at heap signal lifecycle now_ms).2 →
      (∀ op ∈ more, op ≠ .clear_dedup) →
      (along heap (committed heap) more (router.ingest_at heap signal lifecycle now_ms).2).length < 256 →
      ∀ other later now, other.dedupe_key = some key →
        let reached := run heap (ops ++ .ingest_at signal lifecycle now_ms :: more) start
        (reached.expire heap now).2.Carried key →
          (reached.ingest_at heap other later now).1.disposition = .Ignore := by
  intro start router
  have initial := with_policy_sound heap max_queue_size ttl_ms deadline_escalation
  have sound := initial.run ops
  refine ⟨sound.bounded.trans_eq (run_max ops initial),fun signal => sound.next_first,
    ⟨sound.window.listed,sound.window.distinct,sound.window.bounded⟩,run_ids ops initial,
    fun distinct signal lifecycle now_ms entry => coalesces_once sound distinct,?_⟩
  intro signal lifecycle now_ms key more named queues apart distinct clears room other later now also reached carried
  have split : reached = run heap more (router.ingest_at heap signal lifecycle now_ms).2 := foldl_append
  rw [split] at carried ⊢
  have entered := ingest_enters sound named apart queues
  have sound_after := sound.step (.ingest_at signal lifecycle now_ms)
  have guarded := entered.run more sound_after distinct clears ((Nat.zero_add _).trans_lt room)
  exact guarded.ignores (sound_after.run more) (Apart.last more distinct) other later now also carried

/-! A reused id, and a key that is pushed out. -/

/-- New keys push out the oldest: the window holds the last of all. -/
theorem commits_order (keys : List String) :
    ∀ {router : SignalRouter P}, Window router → (router.seen_order ++ keys).Nodup →
    Window (keys.foldl commit_dedupe router) ∧ (keys.foldl commit_dedupe router).seen_order =
      (router.seen_order ++ keys).drop ((router.seen_order ++ keys).length-DEFAULT_DEDUPE_CAPACITY) := by
  induction keys with
  | nil =>
    intro router window _
    rw [append_nil,Nat.sub_eq_zero_of_le window.bounded]
    exact ⟨window,rfl⟩
  | cons key rest ih =>
  intro router window distinct
  have fresh : key ∉ router.seen := by
    rw [window.mem]
    exact fun member => (nodup_append.mp distinct).2.2 key member key mem_cons_self rfl
  have after := ih (window.commit_dedupe fresh)
  rw [foldl_cons]
  obtain ⟨_,same⟩ | ⟨gone,kept,order,full,same⟩ := commit_cases window key
  · rw [same] at after ⊢
    have whole : (router.seen_order ++ [key]) ++ rest = router.seen_order ++ key :: rest := append_assoc _ _ _
    dsimp only at after
    rw [whole] at after
    exact after distinct
  rw [same] at after ⊢
  rw [order] at distinct ⊢
  have whole : (kept ++ [key]) ++ rest = kept ++ key :: rest := append_assoc _ _ _
  dsimp only at after
  rw [whole] at after
  have count : (gone :: kept ++ key :: rest).length-DEFAULT_DEDUPE_CAPACITY = (kept ++ key :: rest).length-DEFAULT_DEDUPE_CAPACITY+1 := by
    rw [cons_append,length_cons,length_append,length_cons]
    omega
  obtain ⟨window_after,last⟩ := after (nodup_cons.mp distinct).2
  refine ⟨window_after,?_⟩
  rw [last,count,cons_append,drop_succ_cons]

private theorem expire_idle (heap : BinaryHeap (priority (P := P))) (forever : router.ttl_ms = none)
    (unescalated : router.deadline_escalation = false) (now_ms : Nat) :
    router.expire heap now_ms = ([],router) := by
  cases router
  cases forever
  cases unescalated
  rfl

/-- A signal that is only observed, with a key. -/
def observation (key : String) : RuntimeSignal Unit := ⟨"tick",.Low,some key,none,none,1,1,()⟩

variable {observer : BinaryHeap (priority (P := Unit))}

/-- Observed signals fill the window and nothing else. -/
theorem observations_run (keys : List String) : ∀ {router : SignalRouter Unit}, Window router → router.ttl_ms = none →
    router.deadline_escalation = false → (router.seen_order ++ keys).Nodup →
    run observer (keys.map fun key => .ingest_at (observation key) .Running 0) router =
    keys.foldl commit_dedupe router := by
  induction keys with
  | nil => exact fun _ _ _ _ => rfl
  | cons key rest ih =>
  intro router window forever unescalated distinct
  have fresh : key ∉ router.seen := by
    rw [window.mem]
    exact fun member => (nodup_append.mp distinct).2.2 key member key mem_cons_self rfl
  have stepped : (router.step observer (.ingest_at (observation key) .Running 0)).2 = router.commit_dedupe key := by
    have result : (router.step observer (.ingest_at (observation key) .Running 0)).2 =
        ((router.expire observer 0).2.route observer (observation key) .Running 0 (router.expire observer 0).1).2 := rfl
    rw [result,expire_idle observer forever unescalated]
    unfold route arriving due
    rw [unescalated,if_neg]
    · rfl
    · exact fun member => fresh (of_decide_eq_true member)
  rw [map_cons,foldl_cons]
  show run observer _ (router.step observer (.ingest_at (observation key) .Running 0)).2 = _
  rw [stepped]
  have policy : (router.commit_dedupe key).ttl_ms = router.ttl_ms ∧ (router.commit_dedupe key).deadline_escalation = router.deadline_escalation := by
    unfold commit_dedupe
    split <;> exact ⟨rfl,rfl⟩
  refine ih (window.commit_dedupe fresh) (policy.1.trans forever) (policy.2.trans unescalated) ?_
  obtain ⟨_,same⟩ | ⟨gone,kept,order,_,same⟩ := commit_cases window key
  · rw [same]
    exact (append_assoc router.seen_order [key] rest).symm ▸ distinct
  · rw [same]
    rw [order] at distinct
    exact (append_assoc kept [key] rest).symm ▸ (nodup_cons.mp distinct).2

private theorem commits_policy (keys : List String) : ∀ router : SignalRouter P, (keys.foldl commit_dedupe router).queue = router.queue ∧
    (keys.foldl commit_dedupe router).ttl_ms = router.ttl_ms ∧
    (keys.foldl commit_dedupe router).deadline_escalation = router.deadline_escalation := by
  induction keys with
  | nil => exact fun router => ⟨rfl,rfl,rfl⟩
  | cons key rest ih =>
  intro router
  have same : (router.commit_dedupe key).queue = router.queue ∧ (router.commit_dedupe key).ttl_ms = router.ttl_ms ∧
      (router.commit_dedupe key).deadline_escalation = router.deadline_escalation := by
    unfold commit_dedupe
    split <;> exact ⟨rfl,rfl,rfl⟩
  obtain ⟨queue,ttl,escalation⟩ := ih (router.commit_dedupe key)
  exact ⟨queue.trans same.1,ttl.trans same.2.1,escalation.trans same.2.2⟩

/-- As many observed keys as the window holds push out the one key it held. -/
theorem observations_push_out (observer : BinaryHeap (priority (P := Unit))) {router : SignalRouter Unit}
    (window : Window router) (order : router.seen_order = [key])
    (forever : router.ttl_ms = none) (unescalated : router.deadline_escalation = false) (distinct : (key :: keys).Nodup)
    (full : keys.length = DEFAULT_DEDUPE_CAPACITY) (other : RuntimeSignal Unit) (named : other.dedupe_key = some key)
    (normal : other.urgency = .Normal) (room : router.queue.heap.length < router.queue.max_size) :
    ((run observer (keys.map fun key => .ingest_at (observation key) .Running 0) router).ingest_at observer other
    .Running 0).1.disposition = .Queue ∧
      (run observer (keys.map fun key => .ingest_at (observation key) .Running 0) router).queue = router.queue := by
  have whole : (router.seen_order ++ keys).Nodup := order ▸ distinct
  rw [observations_run keys window forever unescalated whole]
  obtain ⟨window_after,last⟩ := commits_order keys window whole
  have count : (router.seen_order ++ keys).length-DEFAULT_DEDUPE_CAPACITY = 1 := by
    rw [order,length_append,length_singleton,full]
    omega
  rw [count,order] at last
  have last : (keys.foldl commit_dedupe router).seen_order = keys := last
  obtain ⟨queue,ttl,escalation⟩ := commits_policy keys router
  refine ⟨?_,queue⟩
  generalize keys.foldl commit_dedupe router = after at window_after last queue ttl escalation ⊢
  have idle := expire_idle observer (ttl.trans forever) (escalation.trans unescalated) 0
  have unseen : key ∉ after.seen := by
    rw [window_after.mem,last]
    exact (nodup_cons.mp distinct).1
  have arrives : after.arriving other 0 = other := by
    unfold arriving due
    rw [escalation.trans unescalated]
    rfl
  have queues : UrgencyBasedPolicy.evaluate (after.arriving other 0) .Running = .Queue := by
    rw [arrives]
    unfold UrgencyBasedPolicy.evaluate
    rw [normal]
    rfl
  have routes := route_routes observer after other .Running 0 []
  have result : after.ingest_at observer other .Running 0 = after.route observer other .Running 0 [] := by
    unfold ingest_at
    rw [idle]
  rw [result]
  generalize after.route observer other .Running 0 [] = outcome at routes ⊢
  cases routes with
  | ignored known same seen =>
    rw [named] at same
    cases same
    exact (unseen seen).elim
  | passed fresh differs => exact (differs queues).elim
  | dropped fresh _ refused =>
    have full := refused.full
    rw [queue] at full
    omega
  | queued => rfl

def normal (id : String) (dedupe_key : Option String) (timestamp_ms : Nat) : RuntimeSignal Unit :=
  ⟨id,.Normal,dedupe_key,none,none,1,timestamp_ms,()⟩

/-- Two signals of one id, and a third that finds the queue full. -/
def reused : List (Op Unit) := [.ingest_at (normal "a" none 1) .Running 0,.ingest_at (normal "a" none 2) .Running 0,
  .ingest_at ⟨"b",.High,none,none,none,1,3,()⟩ (.Done .Completed) 0]

def tick (n : Nat) : String := String.ofList (List.replicate n 't')

/-- A queued signal with a key, and 256 observed ones with keys of their own. -/
def crowded : List (Op Unit) :=
  .ingest_at (normal "a" (some "k") 1) .Running 0 :: ((List.range 256).map tick).map fun key => .ingest_at (observation key) .Running 0

private theorem ticks_distinct : ("k" :: (List.range 256).map tick).Nodup := by
  refine nodup_cons.mpr ⟨fun member => ?_,nodup_range.map fun n m same => ?_⟩
  · obtain ⟨n,_,same⟩ := mem_map.mp member
    have letters : replicate n 't' = ['k'] := (String.toList_ofList).symm.trans (congrArg String.toList same)
    have letter : 'k' ∈ replicate n 't' := letters ▸ mem_cons_self
    cases (mem_replicate.mp letter).2
  · have letters : replicate n 't' = replicate m 't' :=
      (String.toList_ofList).symm.trans ((congrArg String.toList same).trans String.toList_ofList)
    have count := congrArg length letters
    rwa [length_replicate,length_replicate] at count

/-- Of two signals of one id both are dropped and one is reported; and the key of a queued signal is pushed out
of the window, so that another signal with it is queued too. -/
theorem lost_and_forgotten :
    (along (sorted priority) (admitted (sorted priority)) reused (with_policy 2 none false) = ["a","a","b"] ∧
      (run (sorted priority) reused (with_policy 2 none false)).queue.ids = ["b"] ∧
      along (sorted priority) (coalesced (sorted priority)) reused (with_policy 2 none false) = [] ∧
      along (sorted priority) (displaced (sorted priority)) reused (with_policy 2 none false) = ["a"] ∧
      along (sorted priority) (expired (sorted priority)) reused (with_policy 2 none false) = [] ∧
      along (sorted priority) (returned (sorted priority)) reused (with_policy 2 none false) = []) ∧
    (run (sorted priority) crowded (with_policy 2 none false)).Carried "k" ∧
    ((run (sorted priority) crowded (with_policy 2 none false)).ingest_at (sorted priority) (normal "b" (some "k") 2)
      .Running 0).1.disposition =
      .Queue := by
  refine ⟨by decide +kernel,?_⟩
  have sound := (with_policy_sound (sorted (priority (P := Unit))) 2 none false).step (.ingest_at (normal "a" (some "k") 1) .Running 0)
  have count : ((range 256).map tick).length = DEFAULT_DEDUPE_CAPACITY := by
    rw [length_map,length_range]
    rfl
  obtain ⟨queues,queue⟩ := observations_push_out (sorted priority) sound.window (by decide +kernel) (by decide +kernel)
    (by decide +kernel) ticks_distinct count (normal "b" (some "k") 2) rfl rfl (by decide +kernel)
  have split : run (sorted priority) crowded (with_policy 2 none false) =
      run (sorted priority) (((range 256).map tick).map fun key => .ingest_at (observation key) .Running 0)
        ((with_policy 2 none false : SignalRouter Unit).step (sorted priority) (.ingest_at (normal "a" (some "k") 1) .Running 0)).2 := by
    unfold run crowded
    exact foldl_cons ..
  rw [split]
  refine ⟨?_,queues⟩
  unfold Carried
  rw [queue]
  exact ⟨.new (normal "a" (some "k") 1) false,by decide +kernel,by decide +kernel⟩

end SignalRouter

end Deepstrike.Signals

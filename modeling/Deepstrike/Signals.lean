import Mathlib.Data.Finset.Basic
import Mathlib.Data.List.MinMax
import Mathlib.Data.Prod.Lex
import Mathlib.Data.String.Basic
import Deepstrike.Heaps
import Deepstrike.Vocabulary

/-!
The signals of an operation: a bounded queue ordered by urgency and age, a window of the keys seen
last, and the router that decides what becomes of a signal.
-/
namespace Deepstrike.Signals
open Heaps Tasks Vocabulary

inductive Urgency where
  | Low | Normal | High | Critical
  deriving DecidableEq,Repr

def Urgency.rank : Urgency → Nat
  | .Low => 0
  | .Normal => 1
  | .High => 2
  | .Critical => 3

instance : LinearOrder Urgency := LinearOrder.lift' Urgency.rank (by
  intro first second same
  cases first <;> cases second <;> first | rfl | cases same)

def u32Max : Nat := 2 ^ 32 - 1
def u64Max : Nat := 2 ^ 64 - 1

/-- A signal; its source, type, summary, payload and recipient are content the router only carries. -/
structure RuntimeSignal (P : Type) where
  /-- The identity its author wrote. -/
  id : String
  urgency : Urgency
  dedupe_key : Option String
  deadline_ms : Option Nat
  coalesce_key : Option String
  coalesced_count : Nat
  timestamp_ms : Nat
  content : P
  deriving DecidableEq

structure PrioritizedSignal (P : Type) where
  urgency : Urgency
  timestamp_ms : Nat
  deadline_escalated : Bool
  dedupe_keys : List String
  signal : RuntimeSignal P
  deriving DecidableEq

variable {P : Type}

/-- Higher urgency first, then the older, then the greater id. -/
def priority (queued : PrioritizedSignal P) : Urgency ×ₗ ℕᵒᵈ ×ₗ String :=
  toLex (queued.urgency,toLex (OrderDual.toDual queued.timestamp_ms,queued.signal.id))

structure SignalQueue (P : Type) where
  heap : List (PrioritizedSignal P)
  max_size : Nat

structure QueueAdmission (P : Type) where
  admitted : Bool
  displaced : Option (RuntimeSignal P)
  displaced_dedupe_keys : List String

/-- What a checkpoint keeps of a queued signal. -/
structure QueuedSignalRuntimeState (P : Type) where
  signal : RuntimeSignal P
  deadline_escalated : Bool
  dedupe_keys : List String
  deriving DecidableEq

def earliest_deadline : Option Nat → Option Nat → Option Nat
  | some left,some right => some (min left right)
  | some deadline,none | none,some deadline => some deadline
  | none,none => none

def escalate_one_tier : Urgency → Urgency
  | .Low => .Normal
  | .Normal => .High
  | .High | .Critical => .Critical

/-- One more signal joins a queued one, which keeps its identity. -/
def PrioritizedSignal.coalesce (queued : PrioritizedSignal P) (signal : RuntimeSignal P)
    (deadline_escalated : Bool) : PrioritizedSignal P where
  urgency := max queued.signal.urgency signal.urgency
  timestamp_ms := queued.timestamp_ms
  deadline_escalated := queued.deadline_escalated || deadline_escalated
  dedupe_keys := queued.dedupe_keys ++ signal.dedupe_key.toList.filter fun key => key ∉ queued.dedupe_keys
  signal := { queued.signal with
    coalesced_count := min (max queued.signal.coalesced_count 1 + max signal.coalesced_count 1) u32Max
    urgency := max queued.signal.urgency signal.urgency
    deadline_ms := earliest_deadline queued.signal.deadline_ms signal.deadline_ms }

def PrioritizedSignal.new (signal : RuntimeSignal P) (deadline_escalated : Bool) : PrioritizedSignal P :=
  ⟨signal.urgency,signal.timestamp_ms,deadline_escalated,signal.dedupe_key.toList,signal⟩

/-- A due signal gains one tier, once. -/
def PrioritizedSignal.escalated (now_ms : Nat) (queued : PrioritizedSignal P) : PrioritizedSignal P :=
  if queued.signal.deadline_ms.any (fun deadline => decide (deadline ≤ now_ms)) && !queued.deadline_escalated then
    { queued with
      urgency := escalate_one_tier queued.signal.urgency
      deadline_escalated := true
      signal := { queued.signal with urgency := escalate_one_tier queued.signal.urgency } }
  else queued

namespace SignalQueue

def new (max_size : Nat) : SignalQueue P := ⟨[],max_size⟩

/-- The queued signal an arriving one is merged with. -/
def coalesces_with (queue : SignalQueue P) (signal : RuntimeSignal P) : Option (PrioritizedSignal P) :=
  signal.coalesce_key.bind fun key => queue.heap.find? fun queued => queued.signal.coalesce_key = some key

def lowest (queue : SignalQueue P) : Option Urgency := (queue.heap.map PrioritizedSignal.urgency).min?

/-- The newest of the least urgent, by its id. -/
def displacement (queue : SignalQueue P) (lowest : Urgency) : Option String :=
  ((queue.heap.filter fun queued => queued.urgency = lowest).argmax fun queued => toLex (queued.timestamp_ms,queued.signal.id)).map
    fun queued => queued.signal.id

variable (heap : BinaryHeap (priority (P := P)))

def admit_with_deadline_state (queue : SignalQueue P) (signal : RuntimeSignal P) (deadline_escalated : Bool) :
    QueueAdmission P × SignalQueue P :=
  match queue.coalesces_with signal with
  | some existing =>
    (⟨true,none,[]⟩,{ queue with heap := heap.collect (queue.heap.map fun queued =>
      if queued.signal.id = existing.signal.id then queued.coalesce signal deadline_escalated else queued) })
  | none =>
    if queue.heap.length < queue.max_size then
      (⟨true,none,[]⟩,{ queue with heap := heap.push (.new signal deadline_escalated) queue.heap })
    else match queue.lowest with
      | none => (⟨false,none,[]⟩,queue)
      | some lowest =>
        if signal.urgency ≤ lowest then (⟨false,none,[]⟩,queue)
        else
          let displaced_id := queue.displacement lowest
          -- Every entry of the displaced id goes, and the last of them is reported.
          let removed := (queue.heap.filter fun queued => some queued.signal.id = displaced_id).getLast?
          let retained := heap.collect (queue.heap.filter fun queued => some queued.signal.id ≠ displaced_id)
          (⟨true,removed.map PrioritizedSignal.signal,(removed.map PrioritizedSignal.dedupe_keys).getD []⟩,
            { queue with heap := heap.push (.new signal deadline_escalated) retained })

/-- Whether the time of a queued signal is over; one without a timestamp stays. -/
def reached_expiry (now_ms ttl_ms : Nat) (queued : PrioritizedSignal P) : Bool :=
  decide (0 < queued.timestamp_ms) && decide (min (queued.timestamp_ms+ttl_ms) u64Max ≤ now_ms)

def expire (queue : SignalQueue P) (now_ms : Nat) (ttl_ms : Option Nat) : List (RuntimeSignal P × List String) × SignalQueue P :=
  match ttl_ms with
  | none => ([],queue)
  | some ttl_ms =>
    ((queue.heap.filter (reached_expiry now_ms ttl_ms)).map fun queued => (queued.signal,queued.dedupe_keys),
      { queue with heap := heap.collect (queue.heap.filter fun queued => !reached_expiry now_ms ttl_ms queued) })

def escalate_deadlines (queue : SignalQueue P) (now_ms : Nat) : SignalQueue P :=
  { queue with heap := heap.collect (queue.heap.map (PrioritizedSignal.escalated now_ms)) }

def pop (queue : SignalQueue P) : Option (RuntimeSignal P) × SignalQueue P :=
  match heap.pop queue.heap with
  | none => (none,queue)
  | some (queued,rest) => (some queued.signal,{ queue with heap := rest })

def checkpoint_entries (queue : SignalQueue P) : List (QueuedSignalRuntimeState P) :=
  (heap.into_sorted queue.heap).map fun queued => ⟨queued.signal,queued.deadline_escalated,queued.dedupe_keys⟩

inductive RestoreError where
  | TooManyQueued (queued capacity : Nat)
  | DuplicateQueued (id : String)
  | TooManyKeys (keys capacity : Nat)
  | DuplicateKey (key : String)
  | OmitsPrimary (id primary : String)
  | Uncommitted (id key : String)
  | SharedKey (key : String)
  deriving DecidableEq,Repr

def restored (entry : QueuedSignalRuntimeState P) : PrioritizedSignal P :=
  ⟨entry.signal.urgency,entry.signal.timestamp_ms,entry.deadline_escalated,entry.dedupe_keys,entry.signal⟩

def check_ids : List (QueuedSignalRuntimeState P) → List String → Except RestoreError Unit
  | [],_ => .ok ()
  | entry :: rest,ids => if entry.signal.id ∈ ids then .error (.DuplicateQueued entry.signal.id)
    else check_ids rest (entry.signal.id :: ids)

def restore_entries (queue : SignalQueue P) (entries : List (QueuedSignalRuntimeState P)) : Except RestoreError (SignalQueue P) :=
  if queue.max_size < entries.length then .error (.TooManyQueued entries.length queue.max_size)
  else do
    check_ids entries []
    .ok { queue with heap := heap.collect (entries.map restored) }

end SignalQueue

/-- The default policy: what a signal of an urgency does in a lifecycle. -/
def UrgencyBasedPolicy.evaluate (signal : RuntimeSignal P) (lifecycle : TaskLifecycle) : SignalDisposition :=
  if lifecycle.is_terminal then .Queue
  else match signal.urgency with
    | .Critical => if lifecycle = .Running ∨ lifecycle = .Suspended then .InterruptNow else .Run
    | .High => if lifecycle = .Running ∨ lifecycle = .Suspended then .Interrupt else .Run
    | .Normal => if lifecycle = .Ready then .Run else .Queue
    | .Low => .Observe

structure SignalRouter (P : Type) where
  seen : Finset String
  /-- The keys seen, the oldest first. -/
  seen_order : List String
  dedupe_capacity : Nat
  queue : SignalQueue P
  ttl_ms : Option Nat
  deadline_escalation : Bool

structure SignalRouterRuntimeState (P : Type) where
  queued : List (QueuedSignalRuntimeState P)
  seen_order : List String

structure SignalRouteOutcome where
  disposition : SignalDisposition
  displaced_signal_id : Option String
  expired_signal_ids : List String
  deriving DecidableEq,Repr

namespace SignalRouter

def DEFAULT_DEDUPE_CAPACITY : Nat := 256

def with_policy (max_queue_size : Nat) (ttl_ms : Option Nat) (deadline_escalation : Bool) : SignalRouter P :=
  ⟨∅,[],DEFAULT_DEDUPE_CAPACITY,.new max_queue_size,ttl_ms,deadline_escalation⟩

/-- A key enters the window; the oldest makes room for it. -/
def commit_dedupe (router : SignalRouter P) (key : String) : SignalRouter P :=
  match if router.seen_order.length = router.dedupe_capacity then router.seen_order else [] with
  | [] => { router with seen := insert key router.seen, seen_order := router.seen_order ++ [key] }
  | expired :: rest => { router with seen := insert key (router.seen.erase expired), seen_order := rest ++ [key] }

def release_dedupe_key (router : SignalRouter P) (key : String) : SignalRouter P :=
  { router with seen := router.seen.erase key, seen_order := router.seen_order.filter fun seen_key => seen_key ≠ key }

variable (heap : BinaryHeap (priority (P := P)))

/-- Drop what is over by the journal's clock, and release its keys. -/
def expire (router : SignalRouter P) (now_ms : Nat) : List String × SignalRouter P :=
  let (expired,queue) := router.queue.expire heap now_ms router.ttl_ms
  let queue := if router.deadline_escalation then queue.escalate_deadlines heap now_ms else queue
  (expired.map fun entry => entry.1.id,(expired.flatMap Prod.snd).foldl release_dedupe_key { router with queue })

/-- Whether the deadline of an arriving signal is reached already. -/
def due (router : SignalRouter P) (signal : RuntimeSignal P) (now_ms : Nat) : Bool :=
  router.deadline_escalation && signal.deadline_ms.any fun deadline => decide (deadline ≤ now_ms)

/-- The signal as the policy sees it: a due one is one tier more urgent. -/
def arriving (router : SignalRouter P) (signal : RuntimeSignal P) (now_ms : Nat) : RuntimeSignal P :=
  if router.due signal now_ms then { signal with urgency := escalate_one_tier signal.urgency } else signal

/-- Offer a signal to the queue; the keys of what it displaces are released. -/
def admission (router : SignalRouter P) (signal : RuntimeSignal P) (deadline_escalated : Bool) : QueueAdmission P × SignalRouter P :=
  let (admission,queue) := router.queue.admit_with_deadline_state heap signal deadline_escalated
  (admission,admission.displaced_dedupe_keys.foldl release_dedupe_key { router with queue })

def commit (router : SignalRouter P) (dedupe_key : Option String) : SignalRouter P :=
  match dedupe_key with
  | some key => router.commit_dedupe key
  | none => router

/-- What becomes of a signal once what is over has been dropped. -/
def route (router : SignalRouter P) (signal : RuntimeSignal P) (lifecycle : TaskLifecycle) (now_ms : Nat)
    (expired_signal_ids : List String) :
    SignalRouteOutcome × SignalRouter P :=
  if signal.dedupe_key.any fun key => decide (key ∈ router.seen) then (⟨.Ignore,none,expired_signal_ids⟩,router)
  else
    let arriving := router.arriving signal now_ms
    let disposition := UrgencyBasedPolicy.evaluate arriving lifecycle
    if disposition = .Queue then
      let (admission,admitted) := router.admission heap arriving (router.due signal now_ms)
      if admission.admitted then
        (⟨.Queue,admission.displaced.map RuntimeSignal.id,expired_signal_ids⟩,admitted.commit signal.dedupe_key)
      else (⟨.Dropped,none,expired_signal_ids⟩,admitted)
    else (⟨disposition,none,expired_signal_ids⟩,router.commit signal.dedupe_key)

def ingest_at (router : SignalRouter P) (signal : RuntimeSignal P) (lifecycle : TaskLifecycle) (now_ms : Nat) :
    SignalRouteOutcome × SignalRouter P :=
  let (expired_signal_ids,router) := router.expire heap now_ms
  router.route heap signal lifecycle now_ms expired_signal_ids

def next (router : SignalRouter P) : Option (RuntimeSignal P) × SignalRouter P :=
  let (signal,queue) := router.queue.pop heap
  (signal,{ router with queue })

def depth (router : SignalRouter P) : Nat := router.queue.heap.length

def clear_dedup (router : SignalRouter P) : SignalRouter P := { router with seen := ∅, seen_order := [] }

def checkpoint_state (router : SignalRouter P) : SignalRouterRuntimeState P := ⟨router.queue.checkpoint_entries heap,router.seen_order⟩

def check_seen : List String → Finset String → Except SignalQueue.RestoreError (Finset String)
  | [],seen => .ok seen
  | key :: rest,seen => if key ∈ seen then .error (.DuplicateKey key) else check_seen rest (insert key seen)

/-- Each key of a queued signal is committed, and its alone. -/
def check_keys (seen : Finset String) (id : String) : List String → Finset String → Except SignalQueue.RestoreError (Finset String)
  | [],queued_keys => .ok queued_keys
  | key :: rest,queued_keys =>
    if key ∉ seen then .error (.Uncommitted id key)
    else if key ∈ queued_keys then .error (.SharedKey key)
    else check_keys seen id rest (insert key queued_keys)

def check_queued (seen : Finset String) : List (QueuedSignalRuntimeState P) → Finset String → Except SignalQueue.RestoreError Unit
  | [],_ => .ok ()
  | queued :: rest,queued_keys =>
    match queued.signal.dedupe_key.filter fun primary => primary ∉ queued.dedupe_keys with
    | some primary => .error (.OmitsPrimary queued.signal.id primary)
    | none => do
      let queued_keys ← check_keys seen queued.signal.id queued.dedupe_keys queued_keys
      check_queued seen rest queued_keys

def restore_state (router : SignalRouter P) (state : SignalRouterRuntimeState P) : Except SignalQueue.RestoreError (SignalRouter P) :=
  if router.dedupe_capacity < state.seen_order.length then .error (.TooManyKeys state.seen_order.length router.dedupe_capacity)
  else do
    let seen ← check_seen state.seen_order ∅
    check_queued seen state.queued ∅
    let queue ← router.queue.restore_entries heap state.queued
    .ok { router with queue, seen, seen_order := state.seen_order }

/-! Any sequence of calls. -/

inductive Op (P : Type) where
  | ingest_at (signal : RuntimeSignal P) (lifecycle : TaskLifecycle) (now_ms : Nat)
  | expire (now_ms : Nat)
  | next
  | clear_dedup

/-- What a call answers. -/
inductive Answer (P : Type) where
  | Routed (outcome : SignalRouteOutcome)
  | Expired (ids : List String)
  | Next (signal : Option (RuntimeSignal P))
  | Cleared

def step (router : SignalRouter P) : Op P → Answer P × SignalRouter P
  | .ingest_at signal lifecycle now_ms =>
    let (outcome,router) := router.ingest_at heap signal lifecycle now_ms
    (.Routed outcome,router)
  | .expire now_ms =>
    let (ids,router) := router.expire heap now_ms
    (.Expired ids,router)
  | .next =>
    let (signal,router) := router.next heap
    (.Next signal,router)
  | .clear_dedup => (.Cleared,router.clear_dedup)

def run (ops : List (Op P)) (router : SignalRouter P) : SignalRouter P := ops.foldl (fun router op => (router.step heap op).2) router

end SignalRouter

end Deepstrike.Signals

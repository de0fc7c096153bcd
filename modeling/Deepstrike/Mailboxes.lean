import Deepstrike.Channels
import Mathlib.Data.List.DropRight
import Mathlib.Data.List.Nodup

/-!
The inbox of a task: a bounded queue, first in first out, and the window of the ids accepted last, kept
both as a set and in order.
-/
namespace Deepstrike.Channels
open Std Feeds List ExtTreeSet

structure Mailbox where
  queue : List MailboxMessage
  seen : ExtTreeSet MessageId compare
  seen_order : List MessageId
  capacity : Nat

/-- The set and the list of a window over what was accepted: the ids of the last acceptances, each once. -/
structure Remembers (ids : List MessageId) (seen : ExtTreeSet MessageId compare) (order : List MessageId) : Prop where
  latest : order = ids.rtake IPC_DEDUPE_WINDOW
  unique : order.Nodup
  known : ∀ id, id ∈ seen ↔ id ∈ order

namespace Remembers
variable {ids order : List MessageId} {seen : ExtTreeSet MessageId compare}

private theorem empty : Remembers [] ∅ [] := ⟨rfl,nodup_nil,by simp⟩

theorem size (remembers : Remembers ids seen order) : seen.size = order.length := by
  have distinct : seen.toList.Nodup := distinct_toList.imp fun apart same => apart (LawfulEqCmp.compare_eq_iff_eq.mpr same)
  have same : seen.toList.Perm order := by
    refine (perm_ext_iff_of_nodup distinct remembers.unique).mpr fun id => ?_
    rw [mem_toList,remembers.known]
  rw [← length_toList,same.length_eq]

theorem length_le (remembers : Remembers ids seen order) : order.length ≤ IPC_DEDUPE_WINDOW := by
  rw [remembers.latest,rtake,length_drop]
  omega

end Remembers

private theorem trim_seen_fits {seen : ExtTreeSet MessageId compare} {order : List MessageId} (fits : order.length ≤ IPC_DEDUPE_WINDOW) :
    trim_seen seen order = (seen,order) := by
  cases order with
  | nil => rfl
  | cons first rest => exact if_neg (Nat.not_lt.mpr fits)

namespace Remembers
variable {ids order : List MessageId} {seen : ExtTreeSet MessageId compare}

private theorem normalize (remembers : Remembers ids seen order) : normalize_seen_order seen order = (seen,order) := by
  unfold normalize_seen_order
  rw [remembers.size,if_neg (Nat.lt_irrefl _),trim_seen_fits remembers.length_le]

/-- One more id: the oldest is forgotten when the window is full. -/
theorem remember (remembers : Remembers ids seen order) {id : MessageId} (fresh : id ∉ order) :
    Remembers (ids ++ [id]) (remember_seen (seen.insert id) order id).1
    (remember_seen (seen.insert id) order id).2 := by
  have unique : (order ++ [id]).Nodup := nodup_append.mpr ⟨remembers.unique,nodup_singleton id,fun other member last named =>
    fun same => fresh (mem_singleton.mp named ▸ same ▸ member)⟩
  have known : ∀ other, other ∈ seen.insert id ↔ other ∈ order ++ [id] := by
    intro other
    rw [mem_insert,LawfulEqCmp.compare_eq_iff_eq,remembers.known,mem_append,mem_singleton,or_comm,eq_comm]
  have length : order.length = ids.length - (ids.length - IPC_DEDUPE_WINDOW) := by rw [remembers.latest,rtake,length_drop]
  have latest := remembers.latest
  unfold rtake at latest
  have window : IPC_DEDUPE_WINDOW = 256 := rfl
  by_cases room : order.length < IPC_DEDUPE_WINDOW
  · have whole : ids = order := by rw [latest,Nat.sub_eq_zero_of_le (by omega),drop_zero]
    unfold remember_seen
    rw [trim_seen_fits (by rw [length_append]; exact room)]
    refine ⟨?_,unique,known⟩
    rw [whole,rtake,length_append,length_singleton,Nat.sub_eq_zero_of_le room,drop_zero]
  cases order with
  | nil => exact (room (by decide)).elim
  | cons first rest =>
  have trimmed : remember_seen (seen.insert id) (first :: rest) id = ((seen.insert id).erase first,rest ++ [id]) := by
    unfold remember_seen
    rw [cons_append,trim_seen,if_pos (by rw [length_cons] at room; rw [length_append,length_singleton]; omega),trim_seen_fits]
    rw [length_cons] at length
    rw [length_append,length_singleton]
    omega
  rw [trimmed]
  obtain ⟨gone,unique'⟩ := nodup_cons.mp unique
  refine ⟨?_,unique',fun other => ?_⟩
  · have later : rest = ids.drop (ids.length - IPC_DEDUPE_WINDOW + 1) := by rw [← tail_drop,← latest,tail_cons]
    have start : ids.length + 1 - IPC_DEDUPE_WINDOW = ids.length - IPC_DEDUPE_WINDOW + 1 := by omega
    rw [later,rtake,length_append,length_singleton,start,drop_append_of_le_length (by omega)]
  rw [mem_erase,ne_eq,LawfulEqCmp.compare_eq_iff_eq,known,cons_append,mem_cons]
  constructor
  · rintro ⟨apart,rfl | held⟩
    · exact (apart rfl).elim
    · exact held
  · exact fun held => ⟨fun same => gone (same ▸ held),.inr held⟩

end Remembers

namespace Mailbox

def new : Mailbox := ⟨[],∅,[],64⟩

def drop_expired (mailbox : Mailbox) (now : LogicalTime) : Mailbox :=
  { mailbox with queue := mailbox.queue.filter (MailboxMessage.alive now) }

def try_send (mailbox : Mailbox) (msg : MailboxMessage) (now : LogicalTime) : IpcEnqueueOutcome × Mailbox :=
  let (seen,seen_order) := normalize_seen_order mailbox.seen mailbox.seen_order
  let mailbox := { mailbox with seen, seen_order }.drop_expired now
  if msg.expires_at.any fun deadline => decide (now ≥ deadline) then (.Expired,mailbox)
  else if mailbox.seen.contains msg.id then (.Duplicate,mailbox)
  else if mailbox.queue.length ≥ mailbox.capacity then (.Full,mailbox)
  else
    let (seen,seen_order) := remember_seen (mailbox.seen.insert msg.id) mailbox.seen_order msg.id
    (.Accepted,{ mailbox with seen, seen_order, queue := mailbox.queue ++ [msg] })

def send (mailbox : Mailbox) (msg : MailboxMessage) : Mailbox := (mailbox.try_send msg 0).2

/-- The oldest message first. -/
def receive (mailbox : Mailbox) : Option MailboxMessage × Mailbox := (mailbox.queue.head?,{ mailbox with queue := mailbox.queue.tail })

def receive_at (mailbox : Mailbox) (now : LogicalTime) : Option MailboxMessage × Mailbox := (mailbox.drop_expired now).receive

/-- The calls on a mailbox. -/
inductive Op where
  | send (msg : MailboxMessage)
  | try_send (msg : MailboxMessage) (now : LogicalTime)
  | receive
  | receive_at (now : LogicalTime)
  deriving DecidableEq,Repr

/-- A call, with what it did: a message accepted, or what was taken out. -/
def step (mailbox : Mailbox) : Op → List (Event Unit MailboxMessage Unit) × Mailbox
  | .send msg => (if (mailbox.try_send msg 0).1 = .Accepted then [.accepted msg] else [],mailbox.send msg)
  | .try_send msg now =>
    let (outcome,mailbox) := mailbox.try_send msg now
    (if outcome = .Accepted then [.accepted msg] else [],mailbox)
  | .receive =>
    let (message,mailbox) := mailbox.receive
    ([.drained () () message.toList],mailbox)
  | .receive_at now =>
    let (message,mailbox) := mailbox.receive_at now
    ([.drained () () message.toList],mailbox)

def run : List Op → Mailbox → List (Event Unit MailboxMessage Unit) × Mailbox
  | [],mailbox => ([],mailbox)
  | op :: ops,mailbox =>
    let (events,mailbox) := mailbox.step op
    let (later,mailbox) := run ops mailbox
    (events ++ later,mailbox)

/-- Over what happened to a mailbox: what was taken out and what waits stand in the order of acceptance, and the window is that
    of the last acceptances. -/
structure Keeps (trace : List (Event Unit MailboxMessage Unit)) (mailbox : Mailbox) : Prop where
  ordered : (received () trace ++ mailbox.queue).Sublist (accepted trace)
  capacity : mailbox.capacity = 64
  bounded : mailbox.queue.length ≤ mailbox.capacity
  remembers : Remembers ((accepted trace).map MailboxMessage.id) mailbox.seen mailbox.seen_order

section
variable {trace : List (Event Unit MailboxMessage Unit)} {mailbox : Mailbox}

section
variable (keeps : Keeps trace mailbox)
include keeps

private theorem Keeps.try_send_eq (msg : MailboxMessage) (now : LogicalTime) : mailbox.try_send msg now =
    if msg.alive now = false then (.Expired,mailbox.drop_expired now)
    else if msg.id ∈ mailbox.seen_order then (.Duplicate,mailbox.drop_expired now)
    else if (mailbox.drop_expired now).queue.length ≥ mailbox.capacity then (.Full,mailbox.drop_expired now)
    else (.Accepted,{ mailbox with
      seen := (remember_seen (mailbox.seen.insert msg.id) mailbox.seen_order msg.id).1
      seen_order := (remember_seen (mailbox.seen.insert msg.id) mailbox.seen_order msg.id).2
      queue := (mailbox.drop_expired now).queue ++ [msg] }) := by
  have late : (msg.expires_at.any fun deadline => decide (now ≥ deadline)) = !msg.alive now := by
    unfold MailboxMessage.alive
    cases msg.expires_at with
    | none => rfl
    | some deadline => simp [← decide_not]
  have known : mailbox.seen.contains msg.id = decide (msg.id ∈ mailbox.seen_order) := by
    rw [Bool.eq_iff_iff,ExtTreeSet.contains_iff_mem,keeps.remembers.known,decide_eq_true_eq]
  unfold Mailbox.try_send
  rw [keeps.remembers.normalize,late]
  simp only [drop_expired,known,Bool.not_eq_true',decide_eq_true_eq]
  rfl

theorem Keeps.drop_expired (now : LogicalTime) : Keeps trace (mailbox.drop_expired now) where
  ordered := ((filter_sublist).append_left _).trans keeps.ordered
  capacity := keeps.capacity
  bounded := (filter_sublist).length_le.trans keeps.bounded
  remembers := keeps.remembers

/-- A send keeps what was taken and what waits in the order of acceptance. -/
theorem Keeps.try_send (msg : MailboxMessage) (now : LogicalTime) :
    Keeps (trace ++ if (mailbox.try_send msg now).1 = .Accepted then [.accepted msg] else [])
    (mailbox.try_send msg now).2 := by
  have purged := keeps.drop_expired now
  rw [keeps.try_send_eq]
  split
  · simpa using purged
  split
  · simpa using purged
  split
  · simpa using purged
  next fresh room =>
  rw [if_pos rfl]
  refine ⟨?_,keeps.capacity,?_,?_⟩
  · rw [received_append,accepted_append]
    show ((received () trace ++ []) ++ ((mailbox.drop_expired now).queue ++ [msg])).Sublist (accepted trace ++ [msg])
    rw [append_nil,← append_assoc]
    exact purged.ordered.append_right [msg]
  · show ((mailbox.drop_expired now).queue ++ [msg]).length ≤ mailbox.capacity
    rw [length_append,length_singleton]
    omega
  · rw [accepted_append,map_append]
    exact keeps.remembers.remember fresh

theorem Keeps.receive :
    Keeps (trace ++ [.drained () () mailbox.receive.1.toList]) mailbox.receive.2 := by
  have parts : mailbox.receive.1.toList ++ mailbox.receive.2.queue = mailbox.queue := by
    unfold Mailbox.receive
    cases mailbox.queue with
    | nil => rfl
    | cons first rest => rfl
  have silent : accepted (trace ++ [.drained () () mailbox.receive.1.toList]) = accepted trace := by
    rw [accepted_append]
    exact append_nil _
  refine ⟨?_,keeps.capacity,?_,?_⟩
  · rw [silent,received_append]
    show ((received () trace ++ (mailbox.receive.1.toList ++ [])) ++ mailbox.receive.2.queue).Sublist (accepted trace)
    rw [append_nil,append_assoc,parts]
    exact keeps.ordered
  · exact ((tail_sublist mailbox.queue).length_le).trans keeps.bounded
  · rw [silent]
    exact keeps.remembers

theorem Keeps.step (op : Op) : Keeps (trace ++ (mailbox.step op).1) (mailbox.step op).2 := by
  cases op with
  | send msg => exact keeps.try_send msg 0
  | try_send msg now => exact keeps.try_send msg now
  | receive => exact keeps.receive
  | receive_at now => exact (keeps.drop_expired now).receive

end

theorem Keeps.run (ops : List Op) (keeps : Keeps trace mailbox) : Keeps (trace ++ (Mailbox.run ops mailbox).1)
    (Mailbox.run ops mailbox).2 := by
  induction ops generalizing trace mailbox with
  | nil => exact (append_nil trace).symm ▸ keeps
  | cons op ops ih =>
  have rest := ih (keeps.step op)
  rw [append_assoc] at rest
  exact rest

theorem Keeps.new : Keeps [] Mailbox.new := ⟨List.Sublist.refl _,rfl,Nat.zero_le _,Remembers.empty⟩

end

/-- Over any sends and drains at any times: what was taken out and what waits stand in the order of acceptance; the queue fits;
    the set is that of the list, of 256 ids at most; a send under an id of the last 256 acceptances is a duplicate, or expired
    if its own deadline has passed, and purges the queue of what has expired but changes nothing else; an id never accepted is no
    duplicate. -/
theorem mailbox_window (ops : List Op) {trace : List (Event Unit MailboxMessage Unit)} {mailbox : Mailbox}
    (ran : run ops new = (trace,mailbox)) :
    (received () trace ++ mailbox.queue).Sublist (accepted trace) ∧ mailbox.queue.length ≤ mailbox.capacity ∧
      (∀ id, id ∈ mailbox.seen ↔ id ∈ mailbox.seen_order) ∧ mailbox.seen.size ≤ 256 ∧
      (∀ (msg : MailboxMessage) (now : LogicalTime), msg.id ∈ ((accepted trace).map MailboxMessage.id).rtake 256 →
        mailbox.try_send msg now = (if msg.alive now then .Duplicate else .Expired,mailbox.drop_expired now)) ∧
      ∀ (msg : MailboxMessage) (now : LogicalTime), msg.id ∉ (accepted trace).map MailboxMessage.id →
        (mailbox.try_send msg now).1 ≠ .Duplicate := by
  have keeps := Keeps.new.run ops
  rw [ran,nil_append] at keeps
  refine ⟨keeps.ordered,keeps.bounded,keeps.remembers.known,?_,fun msg now recent => ?_,fun msg now stranger => ?_⟩
  · rw [keeps.remembers.size]
    exact keeps.remembers.length_le
  · have known : msg.id ∈ mailbox.seen_order := by
      rw [keeps.remembers.latest]
      exact recent
    rw [keeps.try_send_eq,if_pos known]
    cases msg.alive now with
    | false => rfl
    | true => rfl
  have unknown : msg.id ∉ mailbox.seen_order := by
    rw [keeps.remembers.latest]
    exact fun recent => stranger (mem_of_mem_drop recent)
  rw [keeps.try_send_eq,if_neg unknown]
  split
  · nofun
  split <;> nofun

private def letter (id : MessageId) (expires_at : Option LogicalTime) : MailboxMessage := ⟨id,"worker","root","note",0,.Normal,0,expires_at⟩

/-- One letter is taken out, one expires, and the first sent again is a duplicate. -/
theorem mailbox_window_resent : ∃ trace mailbox,
    run [.send (letter "first" none),.try_send (letter "second" (some 2)) 0,.receive,
    .try_send (letter "third" none) 2] new = (trace,mailbox) ∧
      received () trace = [letter "first" none] ∧ mailbox.queue = [letter "third" none] ∧
      mailbox.try_send (letter "first" none) 3 = (.Duplicate,mailbox.drop_expired 3) :=
  ⟨_,_,rfl,by decide +kernel,by decide +kernel,
    (mailbox_window [.send (letter "first" none),.try_send (letter "second" (some 2)) 0,.receive,.try_send (letter "third" none) 2] rfl).2.2.2.2.1
      (letter "first" none) 3 (by decide +kernel)⟩

/-- Sent again when its deadline has passed, a letter is answered as expired. -/
theorem late_duplicate_expired :
    ¬ ∀ (ops : List Op) (trace : List (Event Unit MailboxMessage Unit)) (mailbox : Mailbox),
    run ops new = (trace,mailbox) →
    ∀ (msg : MailboxMessage) (now : LogicalTime), msg.id ∈ ((accepted trace).map MailboxMessage.id).rtake 256 →
      mailbox.try_send msg now = (.Duplicate,mailbox) := by
  intro claimed
  have duplicate : ((run [.try_send (letter "first" (some 1)) 0] new).2.try_send (letter "first" (some 1)) 1).1 = .Duplicate :=
    congrArg Prod.fst (claimed [.try_send (letter "first" (some 1)) 0] _ _ rfl (letter "first" (some 1)) 1 (by decide +kernel))
  have expired : ((run [.try_send (letter "first" (some 1)) 0] new).2.try_send (letter "first" (some 1)) 1).1 = .Expired := by decide +kernel
  exact absurd (duplicate.symm.trans expired) (by decide)

end Mailbox
end Deepstrike.Channels

import Deepstrike.Feeds
import Deepstrike.Signals

/-!
The channels of local messages: one shared buffer with a read cursor for each subscriber, purged of
what expired and cut at the front when every subscriber has read it.
-/
namespace Deepstrike.Channels
open Std Feeds List
open Signals (Urgency)

abbrev TaskId := String
abbrev MessageId := String
abbrev HandleId := Nat
abbrev LogicalTime := Nat

def IPC_DEDUPE_WINDOW : Nat := 256

structure MailboxMessage where
  id : MessageId
  «from» : TaskId
  «to» : TaskId
  kind : String
  payload_handle : HandleId
  priority : Urgency
  timestamp : LogicalTime
  expires_at : Option LogicalTime
  deriving DecidableEq,Repr

/-- The test of every expiry: a message without a deadline lives on. -/
def MailboxMessage.alive (now : LogicalTime) (message : MailboxMessage) : Bool :=
  message.expires_at.all fun deadline => decide (now < deadline)

inductive IpcEnqueueOutcome where
  | Accepted | Duplicate | Full | Expired
  deriving DecidableEq,Repr

structure Channel where
  subscribers : List TaskId
  buffer : List MailboxMessage
  cursors : ExtTreeMap TaskId Nat compare
  seen : ExtTreeSet MessageId compare
  seen_order : List MessageId
  capacity : Nat

/-- The oldest ids are forgotten until the window fits. -/
def trim_seen (seen : ExtTreeSet MessageId compare) : List MessageId → ExtTreeSet MessageId compare × List MessageId
  | [] => (seen,[])
  | expired :: order => if order.length+1 > IPC_DEDUPE_WINDOW then trim_seen (seen.erase expired) order else (seen,expired :: order)

def normalize_seen_order (seen : ExtTreeSet MessageId compare) (order : List MessageId) : ExtTreeSet MessageId compare × List MessageId :=
  trim_seen seen <|
    if order.length < seen.size then seen.toList.foldl (fun order id => if id ∈ order then order else order ++ [id]) order else order

def remember_seen (seen : ExtTreeSet MessageId compare) (order : List MessageId)
    (id : MessageId) : ExtTreeSet MessageId compare × List MessageId :=
  trim_seen seen (order ++ [id])

namespace Channel

def new (subscribers : List TaskId) : Channel := ⟨subscribers,[],∅,∅,[],64⟩

def cursor (channel : Channel) (subscriber : TaskId) : Nat := channel.cursors[subscriber]?.getD 0

/-- A cursor is moved back by the expired messages in front of it. -/
def drop_expired (channel : Channel) (now : LogicalTime) : Channel :=
  if channel.buffer.isEmpty then channel else { channel with
    cursors := channel.cursors.map fun _ cursor => ((channel.buffer.take cursor).filter (MailboxMessage.alive now)).length
    buffer := channel.buffer.filter (MailboxMessage.alive now) }

def publish_at (channel : Channel) (msg : MailboxMessage) (now : LogicalTime) : IpcEnqueueOutcome × Channel :=
  let (seen,seen_order) := normalize_seen_order channel.seen channel.seen_order
  let channel := { channel with seen, seen_order }.drop_expired now
  if msg.expires_at.any fun deadline => decide (now ≥ deadline) then (.Expired,channel)
  else if channel.seen.contains msg.id then (.Duplicate,channel)
  else if channel.buffer.length ≥ channel.capacity then (.Full,channel)
  else
    let (seen,seen_order) := remember_seen (channel.seen.insert msg.id) channel.seen_order msg.id
    (.Accepted,{ channel with seen, seen_order, buffer := channel.buffer ++ [msg] })

/-- The front of the buffer that every subscriber has read is dropped. -/
def compact_consumed (channel : Channel) : Channel :=
  let consumed := (channel.subscribers.map channel.cursor).min?.getD 0
  { channel with
    buffer := channel.buffer.drop consumed
    cursors := if consumed > 0 then channel.cursors.map fun _ cursor => cursor - consumed else channel.cursors }

def drain_for (channel : Channel) (consumer : TaskId) : List MailboxMessage × Channel :=
  (channel.buffer.drop (channel.cursor consumer),
    { channel with cursors := channel.cursors.insert consumer channel.buffer.length }.compact_consumed)

def drain_for_at (channel : Channel) (consumer : TaskId) (now : LogicalTime) : List MailboxMessage × Channel :=
  if consumer ∉ channel.subscribers then ([],channel)
  else
    let (unread,channel) := channel.drain_for consumer
    (unread.filter (MailboxMessage.alive now),channel)

/-- The calls on a channel, each at its time. -/
inductive Op where
  | publish_at (msg : MailboxMessage) (now : LogicalTime)
  | drain_for_at (consumer : TaskId) (now : LogicalTime)
  deriving DecidableEq,Repr

def Op.now : Op → LogicalTime
  | .publish_at _ now | .drain_for_at _ now => now

/-- A call, with what it did: a refused message leaves no event. -/
def step (channel : Channel) : Op → List (Event TaskId MailboxMessage LogicalTime) × Channel
  | .publish_at msg now =>
    let (outcome,channel) := channel.publish_at msg now
    (if outcome = .Accepted then [.accepted msg] else [],channel)
  | .drain_for_at consumer now =>
    let (messages,channel) := channel.drain_for_at consumer now
    ([.drained consumer now messages],channel)

def run : List Op → Channel → List (Event TaskId MailboxMessage LogicalTime) × Channel
  | [], channel => ([],channel)
  | op :: ops, channel =>
    let (events,channel) := channel.step op
    let (later,channel) := run ops channel
    (events ++ later,channel)

/-- Over a faithful trace: behind its cursor every subscriber has, of what is alive from now on, what it has not read. -/
structure Delivers (subscribers : List TaskId) (clock : LogicalTime) (trace : List (Event TaskId MailboxMessage LogicalTime))
    (channel : Channel) : Prop where
  subscribed : channel.subscribers = subscribers
  bounded : ∀ consumer, channel.cursor consumer ≤ channel.buffer.length
  waiting : ∀ consumer ∈ subscribers, ∀ now ≥ clock, (channel.buffer.drop (channel.cursor consumer)).filter (MailboxMessage.alive now) =
    (unread consumer [] trace).filter (MailboxMessage.alive now)
  faithful : ∀ consumer ∈ subscribers, Faithful MailboxMessage.alive consumer trace

section
variable {subscribers : List TaskId} {clock : LogicalTime} {trace : List (Event TaskId MailboxMessage LogicalTime)} {channel : Channel}

private theorem alive_mono {earlier later : LogicalTime} (forward : earlier ≤ later) {message : MailboxMessage} (alive : message.alive later = true) :
    message.alive earlier = true := by
  unfold MailboxMessage.alive at alive ⊢
  cases deadline : message.expires_at with
  | none => rfl
  | some deadline' =>
  rw [deadline] at alive
  simp only [Option.all_some,decide_eq_true_eq] at alive ⊢
  exact forward.trans_lt alive

private theorem filter_alive {earlier later : LogicalTime} (forward : earlier ≤ later) (messages : List MailboxMessage) :
    (messages.filter (MailboxMessage.alive earlier)).filter (MailboxMessage.alive later) = messages.filter (MailboxMessage.alive later) := by
  rw [filter_filter]
  refine filter_congr fun message _ => ?_
  cases alive : message.alive later with
  | false => rfl
  | true => rw [alive_mono forward alive]; rfl

private theorem drop_filter (alive : MailboxMessage → Bool) (messages : List MailboxMessage) (cursor : Nat) :
    (messages.filter alive).drop ((messages.take cursor).filter alive).length = (messages.drop cursor).filter alive := by
  have parts : messages.filter alive = (messages.take cursor).filter alive ++ (messages.drop cursor).filter alive := by
    rw [← filter_append,take_append_drop]
  rw [parts,drop_left]

private theorem drop_expired_cursor (channel : Channel) (now : LogicalTime) (filled : channel.buffer.isEmpty = false) (consumer : TaskId) :
    (channel.drop_expired now).cursor consumer =
      ((channel.buffer.take (channel.cursor consumer)).filter (MailboxMessage.alive now)).length := by
  unfold drop_expired cursor
  simp only [filled,Bool.false_eq_true,if_false,ExtTreeMap.getElem?_map]
  cases channel.cursors[consumer]? with
  | none => rfl
  | some cursor => rfl

variable {now : LogicalTime}

/-- A purge keeps what the readers have not read and is alive. -/
theorem Delivers.drop_expired (delivers : Delivers subscribers clock trace channel) (forward : clock ≤ now) :
    Delivers subscribers now trace (channel.drop_expired now) := by
  cases filled : channel.buffer.isEmpty with
  | true =>
    have same : channel.drop_expired now = channel := if_pos filled
    rw [same]
    exact ⟨delivers.subscribed,delivers.bounded,fun consumer member later after => delivers.waiting consumer member later (forward.trans after),
      delivers.faithful⟩
  | false =>
  have buffer : (channel.drop_expired now).buffer = channel.buffer.filter (MailboxMessage.alive now) := by
    unfold Channel.drop_expired
    rw [if_neg (by rw [filled]; exact Bool.false_ne_true)]
  refine ⟨?_,fun consumer => ?_,fun consumer member later after => ?_,delivers.faithful⟩
  · unfold Channel.drop_expired
    rw [if_neg (by rw [filled]; exact Bool.false_ne_true)]
    exact delivers.subscribed
  · rw [drop_expired_cursor channel now filled,buffer]
    exact ((take_sublist _ _).filter _).length_le
  · rw [drop_expired_cursor channel now filled,buffer,drop_filter,filter_alive after]
    exact delivers.waiting consumer member later (forward.trans after)

private theorem compact_consumed_buffer (channel : Channel) :
    channel.compact_consumed.buffer = channel.buffer.drop ((channel.subscribers.map channel.cursor).min?.getD 0) := rfl

private theorem compact_consumed_cursor (channel : Channel) (consumer : TaskId) :
    channel.compact_consumed.cursor consumer = channel.cursor consumer - (channel.subscribers.map channel.cursor).min?.getD 0 := by
  show ((if (channel.subscribers.map channel.cursor).min?.getD 0 > 0 then channel.cursors.map fun _ cursor =>
    cursor - (channel.subscribers.map channel.cursor).min?.getD 0 else channel.cursors)[consumer]?).getD 0 = _
  unfold cursor
  split
  next some_read =>
    rw [ExtTreeMap.getElem?_map]
    cases channel.cursors[consumer]? with
    | none => exact (Nat.zero_sub _).symm
    | some cursor => rfl
  next none_read => rw [Nat.eq_zero_of_not_pos none_read,Nat.sub_zero]

private theorem compact_consumed_keeps {consumer : TaskId} (member : consumer ∈ channel.subscribers) :
    channel.compact_consumed.buffer.drop (channel.compact_consumed.cursor consumer) = channel.buffer.drop (channel.cursor consumer) := by
  have held : channel.cursor consumer ∈ channel.subscribers.map channel.cursor := mem_map_of_mem member
  obtain ⟨consumed,least⟩ := Option.isSome_iff_exists.mp (isSome_min?_of_mem held)
  have below : consumed ≤ channel.cursor consumer := (min?_eq_some_iff.mp least).2 _ held
  rw [compact_consumed_cursor,compact_consumed_buffer,least,Option.getD_some,drop_drop]
  congr 1
  omega

theorem Delivers.compact_consumed (delivers : Delivers subscribers clock trace channel) :
    Delivers subscribers clock trace channel.compact_consumed := by
  refine ⟨delivers.subscribed,fun consumer => ?_,fun consumer member now after => ?_,delivers.faithful⟩
  · have before := delivers.bounded consumer
    rw [compact_consumed_cursor,compact_consumed_buffer,length_drop]
    omega
  · have held : consumer ∈ channel.subscribers := by rwa [delivers.subscribed]
    rw [compact_consumed_keeps held]
    exact delivers.waiting consumer member now after

private theorem publish_at_cases (channel : Channel) (msg : MailboxMessage) (now : LogicalTime) : ∃ seen seen_order,
    (channel.publish_at msg now).2 = { channel.drop_expired now with
      seen, seen_order
      buffer := (channel.drop_expired now).buffer ++ if (channel.publish_at msg now).1 = .Accepted then [msg] else [] } := by
  rcases normal : normalize_seen_order channel.seen channel.seen_order with ⟨seen,seen_order⟩
  have purged : { channel with seen, seen_order }.drop_expired now = { channel.drop_expired now with seen, seen_order } := by
    unfold drop_expired
    split <;> rfl
  unfold publish_at
  rw [normal]
  simp only [purged]
  split
  · exact ⟨seen,seen_order,by simp⟩
  split
  · exact ⟨seen,seen_order,by simp⟩
  split
  · exact ⟨seen,seen_order,by simp⟩
  · exact ⟨_,_,rfl⟩

/-- A publication keeps what the readers have not read and is alive. -/
theorem Delivers.publish_at (delivers : Delivers subscribers clock trace channel) (msg : MailboxMessage)
    (forward : clock ≤ now) :
    Delivers subscribers now (trace ++ if (channel.publish_at msg now).1 = .Accepted then [.accepted msg] else [])
    (channel.publish_at msg now).2 := by
  obtain ⟨seen,seen_order,after⟩ := publish_at_cases channel msg now
  have purged := delivers.drop_expired forward
  rw [after]
  split
  · refine ⟨purged.subscribed,fun consumer => ?_,fun consumer member later beyond => ?_,fun consumer member => ?_⟩
    · exact (purged.bounded consumer).trans (by simp)
    · show (((channel.drop_expired now).buffer ++ [msg]).drop ((channel.drop_expired now).cursor consumer)).filter _ = _
      rw [drop_append_of_le_length (purged.bounded consumer),filter_append,purged.waiting consumer member later beyond,unread_append,
        ← filter_append]
      rfl
    · exact (purged.faithful consumer member).snoc (fun _ _ drained => nomatch drained)
  · simp only [append_nil]
    exact ⟨purged.subscribed,purged.bounded,purged.waiting,purged.faithful⟩

private theorem cursor_insert (channel : Channel) (consumer other : TaskId) (read : Nat) :
    { channel with cursors := channel.cursors.insert consumer read }.cursor other = if consumer = other then read else channel.cursor other := by
  unfold cursor
  rw [ExtTreeMap.getElem?_insert]
  simp only [LawfulEqCmp.compare_eq_iff_eq]
  split <;> rfl

section
variable (delivers : Delivers subscribers clock trace channel)
include delivers

private theorem Delivers.read_on {consumer : TaskId} (subscriber : consumer ∈ subscribers)
    (forward : clock ≤ now) :
    Delivers subscribers now
      (trace ++ [.drained consumer now ((channel.buffer.drop (channel.cursor consumer)).filter (MailboxMessage.alive now))])
      { channel with cursors := channel.cursors.insert consumer channel.buffer.length } := by
  refine ⟨delivers.subscribed,fun other => ?_,fun other member later beyond => ?_,fun other member => ?_⟩
  · rw [cursor_insert]
    split
    · exact Nat.le_refl _
    · exact delivers.bounded other
  · rw [cursor_insert,unread_append]
    simp only [unread]
    split
    · rw [drop_length]
    · exact delivers.waiting other member later (forward.trans beyond)
  · refine (delivers.faithful other member).snoc fun later messages drained => ?_
    cases drained
    exact delivers.waiting consumer subscriber now forward

theorem Delivers.drain_for_at (consumer : TaskId) (forward : clock ≤ now) :
    Delivers subscribers now (trace ++ [.drained consumer now (channel.drain_for_at consumer now).1])
    (channel.drain_for_at consumer now).2 := by
  unfold Channel.drain_for_at
  split
  next stranger =>
    have other : ∀ subscriber ∈ subscribers, consumer ≠ subscriber := by
      rintro subscriber member rfl
      exact stranger (delivers.subscribed.symm ▸ member)
    refine ⟨delivers.subscribed,delivers.bounded,fun subscriber member later beyond => ?_,fun subscriber member => ?_⟩
    · rw [unread_append]
      simp only [unread,if_neg (other subscriber member)]
      exact delivers.waiting subscriber member later (forward.trans beyond)
    · refine (delivers.faithful subscriber member).snoc fun _ _ drained => ?_
      cases drained
      exact (other consumer member rfl).elim
  next subscriber =>
  rw [delivers.subscribed,not_not] at subscriber
  exact (delivers.read_on subscriber forward).compact_consumed

theorem Delivers.step (op : Op) (forward : clock ≤ op.now) :
    Delivers subscribers op.now (trace ++ (channel.step op).1) (channel.step op).2 := by
  cases op with
  | publish_at msg now => exact delivers.publish_at msg forward
  | drain_for_at consumer now => exact delivers.drain_for_at consumer forward

end

/-- Whatever is published and drained, the trace stays faithful. -/
theorem Delivers.run (ops : List Op) (delivers : Delivers subscribers clock trace channel)
    (forward : (clock :: ops.map Op.now).Pairwise (· ≤ ·)) :
    Delivers subscribers ((ops.map Op.now).getLastD clock) (trace ++ (Channel.run ops channel).1)
    (Channel.run ops channel).2 := by
  induction ops generalizing clock trace channel with
  | nil => exact (append_nil trace).symm ▸ delivers
  | cons op ops ih =>
  obtain ⟨first,later⟩ := pairwise_cons.mp forward
  have stepped := delivers.step op (first op.now mem_cons_self)
  have rest := ih stepped later
  rw [append_assoc] at rest
  rw [map_cons,getLastD_cons]
  exact rest

theorem Delivers.new (subscribers : List TaskId) : Delivers subscribers 0 [] (Channel.new subscribers) where
  subscribed := rfl
  bounded _ := Nat.le_refl 0
  waiting _ _ _ _ := rfl
  faithful _ _ := Faithful.nil

end

/-- Over any calls with a clock that never goes back, a subscriber is given messages accepted, each once and in the order of
    publication; each drain gives it all that was accepted since its last one and has not expired; and what it has not read
    and has not expired stands in the buffer behind its cursor. -/
theorem channel_delivers (subscribers : List TaskId) (ops : List Op) (forward : (ops.map Op.now).Pairwise (· ≤ ·))
    {consumer : TaskId}
    (member : consumer ∈ subscribers) {trace : List (Event TaskId MailboxMessage LogicalTime)} {channel : Channel}
    (ran : run ops (new subscribers) = (trace,channel)) :
    (received consumer trace).Sublist (accepted trace) ∧
      (∀ before message between now messages after,
      trace = before ++ .accepted message :: between ++ .drained consumer now messages :: after →
        (∀ now messages, .drained consumer now messages ∉ between) →
        messages = (unread consumer [] before ++ message :: accepted between).filter (MailboxMessage.alive now)) ∧
      ∀ now, (∀ op ∈ ops, op.now ≤ now) →
        (channel.buffer.drop (channel.cursor consumer)).filter (MailboxMessage.alive now) =
        (unread consumer [] trace).filter (MailboxMessage.alive now) := by
  have delivers := (Delivers.new subscribers).run ops (pairwise_cons.mpr ⟨fun _ _ => Nat.zero_le _,forward⟩)
  rw [ran,nil_append] at delivers
  have faithful := delivers.faithful consumer member
  refine ⟨(sublist_append_left _ _).trans faithful.sublist,fun before message between now messages after => faithful.next_drain,
    fun now latest => delivers.waiting consumer member now ?_⟩
  obtain none | ⟨front,last,some⟩ := eq_nil_or_concat ops
  · rw [none]
    exact Nat.zero_le now
  · rw [some,concat_eq_append,map_append,map_singleton,getLastD_concat]
    exact latest last (by rw [some]; simp)

private def note (id : MessageId) (expires_at : Option LogicalTime) : MailboxMessage := ⟨id,"worker","results","note",0,.Normal,0,expires_at⟩

/-- One reader keeps up, the other comes late: it misses the note that expired and is given the two that have not, and the buffer is cut. -/
theorem channel_delivers_late : ∃ trace channel,
    run [.publish_at (note "first" none) 0,.publish_at (note "second" (some 2)) 0,.drain_for_at "prompt" 1,
    .publish_at (note "third" none) 2,
      .drain_for_at "late" 3] (new ["prompt","late"]) = (trace,channel) ∧
    received "prompt" trace = [note "first" none,note "second" (some 2)] ∧
      received "late" trace = [note "first" none,note "third" none] ∧
    channel.buffer = [note "third" none] ∧ (received "late" trace).Sublist (accepted trace) :=
  ⟨_,_,rfl,by decide +kernel,by decide +kernel,by decide +kernel,
    (channel_delivers ["prompt","late"] [.publish_at (note "first" none) 0,.publish_at (note "second" (some 2)) 0,.drain_for_at "prompt" 1,
      .publish_at (note "third" none) 2,.drain_for_at "late" 3] (by decide) (by decide) rfl).1⟩

end Channel
end Deepstrike.Channels

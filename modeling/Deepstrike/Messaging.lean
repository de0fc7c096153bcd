import Deepstrike.Mailboxes
import Deepstrike.Waking

/-!
The messages between tasks, as calls on the task table: to the inbox of one task, or through a channel that
the first publication under its name creates. What a refused call leaves behind.
-/
namespace Deepstrike.Channels
open Std

/-- What every send does before it looks at its message: the window is put in step, and what has expired is dropped. -/
def Mailbox.purge (mailbox : Mailbox) (now : LogicalTime) : Mailbox :=
  let (seen,seen_order) := normalize_seen_order mailbox.seen mailbox.seen_order
  { mailbox with seen, seen_order }.drop_expired now

def Channel.purge (channel : Channel) (now : LogicalTime) : Channel :=
  let (seen,seen_order) := normalize_seen_order channel.seen channel.seen_order
  { channel with seen, seen_order }.drop_expired now

private theorem Mailbox.try_send_refused {mailbox : Mailbox} {msg : MailboxMessage} {now : LogicalTime}
    (refused : (mailbox.try_send msg now).1 ≠ .Accepted) : (mailbox.try_send msg now).2 = mailbox.purge now := by
  unfold Mailbox.try_send at refused ⊢
  dsimp only at refused ⊢
  split at refused
  next late => rw [if_pos late]; rfl
  next timely =>
  rw [if_neg timely]
  split at refused
  next known => rw [if_pos known]; rfl
  next fresh =>
  rw [if_neg fresh]
  split at refused
  next full => rw [if_pos full]; rfl
  next room => exact (refused rfl).elim

private theorem Channel.publish_at_refused {channel : Channel} {msg : MailboxMessage} {now : LogicalTime}
    (refused : (channel.publish_at msg now).1 ≠ .Accepted) : (channel.publish_at msg now).2 = channel.purge now := by
  unfold Channel.publish_at at refused ⊢
  dsimp only at refused ⊢
  split at refused
  next late => rw [if_pos late]; rfl
  next timely =>
  rw [if_neg timely]
  split at refused
  next known => rw [if_pos known]; rfl
  next fresh =>
  rw [if_neg fresh]
  split at refused
  next full => rw [if_pos full]; rfl
  next room => exact (refused rfl).elim

end Deepstrike.Channels

namespace Deepstrike.Messaging
open Std Channels
open Waiting (WaitIndex WaitKey)

abbrev ChannelId := String

structure Tcb extends Tasks.Tcb where
  mailbox : Mailbox

/-- The table, as far as the messages read and write it. -/
structure TaskTable where
  tasks : List Tcb
  wait_index : WaitIndex
  channels : ExtTreeMap ChannelId Channel compare

inductive LocalIpcError where
  | UnknownCaller | CallerTerminal | UnknownRecipient | ChannelSubscribersMismatch | NotSubscriber | Full | Expired | ObjectConflict
  deriving DecidableEq,Repr

namespace TaskTable

def get (table : TaskTable) (id : TaskId) : Option Tcb := table.tasks.find? fun task => task.id == id

def set_mailbox (table : TaskTable) (id : TaskId) (mailbox : Mailbox) : TaskTable :=
  { table with tasks := table.tasks.map fun task => if task.id = id then { task with mailbox } else task }

/-- The tasks that wait on an event hear of it; no mailbox is touched. -/
def notify (table : TaskTable) (key : WaitKey) : TaskTable :=
  let (_,woken) := Waiting.Table.notify ⟨table.tasks.map Tcb.toTcb,table.wait_index⟩ key
  { table with tasks := table.tasks.zipWith (fun task row => { task with toTcb := row }) woken.tasks, wait_index := woken.wait_index }

/-- The sender is who calls, whatever the message says. A duplicate is no error. -/
def send_message_from (table : TaskTable) (caller : TaskId) (msg : MailboxMessage)
    (now : LogicalTime) : Except LocalIpcError Bool × TaskTable :=
  match table.get caller with
  | none => (.error .UnknownCaller,table)
  | some caller_task =>
    if caller_task.state.is_terminal then (.error .CallerTerminal,table)
    else
      match table.get msg.to with
      | none => (.error .UnknownRecipient,table)
      | some recipient =>
        let (outcome,mailbox) := recipient.mailbox.try_send { msg with «from» := caller } now
        let table := table.set_mailbox msg.to mailbox
        match outcome with
        | .Accepted => (.ok true,table.notify (.External ("mailbox:" ++ msg.to)))
        | .Duplicate => (.ok false,table)
        | .Full => (.error .Full,table)
        | .Expired => (.error .Expired,table)

/-- A channel that is not known is created before the message is looked at. -/
def publish_channel (table : TaskTable) (caller : TaskId) (channel_id : ChannelId) (subscribers : List TaskId) (msg : MailboxMessage)
    (now : LogicalTime) : Except LocalIpcError Bool × TaskTable :=
  match table.get caller with
  | none => (.error .UnknownCaller,table)
  | some caller_task =>
    if caller_task.state.is_terminal then (.error .CallerTerminal,table)
    else if subscribers.any fun id => (table.get id).isNone then (.error .UnknownRecipient,table)
    else
      let channel := table.channels[channel_id]?.getD (.new subscribers)
      let table := { table with channels := table.channels.insert channel_id channel }
      if channel.subscribers ≠ subscribers then (.error .ChannelSubscribersMismatch,table)
      else
        let (outcome,channel) := channel.publish_at { msg with «from» := caller } now
        let table := { table with channels := table.channels.insert channel_id channel }
        match outcome with
        | .Accepted => (.ok true,table.notify (.Channel channel_id))
        | .Duplicate => (.ok false,table)
        | .Full => (.error .Full,table)
        | .Expired => (.error .Expired,table)

variable {table after : TaskTable} {caller : TaskId} {msg : MailboxMessage} {now : LogicalTime} {error : LocalIpcError}

private theorem send_message_refused (refused : table.send_message_from caller msg now = (.error error,after)) :
    after = table ∨ (error = .Full ∨ error = .Expired) ∧
      ∃ recipient, table.get msg.to = some recipient ∧ after = table.set_mailbox msg.to (recipient.mailbox.purge now) := by
  unfold send_message_from at refused
  split at refused
  · exact .inl (Prod.mk.inj refused).2.symm
  split at refused
  · exact .inl (Prod.mk.inj refused).2.symm
  split at refused
  · exact .inl (Prod.mk.inj refused).2.symm
  next recipient found =>
  have purged := @Mailbox.try_send_refused recipient.mailbox { msg with «from» := caller } now
  rcases sent : recipient.mailbox.try_send { msg with «from» := caller } now with ⟨outcome,mailbox⟩
  rw [sent] at purged refused
  cases outcome with
  | Accepted | Duplicate => cases refused
  | Full =>
    cases refused
    exact .inr ⟨.inl rfl,recipient,found,by rw [← purged nofun]⟩
  | Expired =>
  cases refused
  exact .inr ⟨.inr rfl,recipient,found,by rw [← purged nofun]⟩

private theorem publish_channel_refused {channel_id : ChannelId} {subscribers : List TaskId}
    (refused : table.publish_channel caller channel_id subscribers msg now = (.error error,after)) :
    after = table ∨ (error = .Full ∨ error = .Expired) ∧
      after = { table with channels := table.channels.insert channel_id ((table.channels[channel_id]?.getD (.new subscribers)).purge now) } := by
  unfold publish_channel at refused
  split at refused
  · exact .inl (Prod.mk.inj refused).2.symm
  split at refused
  · exact .inl (Prod.mk.inj refused).2.symm
  split at refused
  · exact .inl (Prod.mk.inj refused).2.symm
  dsimp only at refused
  split at refused
  next apart =>
    -- A channel created just now has the subscribers it was asked for.
    cases found : table.channels[channel_id]? with
    | none =>
      rw [found] at apart
      exact (apart rfl).elim
    | some channel =>
    rw [found,Option.getD_some] at refused
    refine .inl ((Prod.mk.inj refused).2.symm.trans ?_)
    rw [OrderedMaps.insert_held found]
  · have purged := @Channel.publish_at_refused (table.channels[channel_id]?.getD (.new subscribers)) { msg with «from» := caller } now
    rcases sent : (table.channels[channel_id]?.getD (.new subscribers)).publish_at { msg with «from» := caller } now with ⟨outcome,channel⟩
    rw [sent] at purged refused
    have twice : (table.channels.insert channel_id (table.channels[channel_id]?.getD (.new subscribers))).insert channel_id channel =
        table.channels.insert channel_id channel := by
      refine ExtTreeMap.ext_getElem? fun other => ?_
      simp only [ExtTreeMap.getElem?_insert]
      split <;> rfl
    dsimp only at refused
    rw [twice] at refused
    cases outcome with
    | Accepted | Duplicate => cases refused
    | Full =>
      cases refused
      exact .inr ⟨.inl rfl,by rw [← purged nofun]⟩
    | Expired =>
    cases refused
    exact .inr ⟨.inr rfl,by rw [← purged nofun]⟩

/-- For every table and call: an error leaves the whole table as it was, unless the inbox or channel was full or the message had
    expired. Then the inbox addressed has been purged, or the channel if it was known, and of all else at most an entry under the name
    of a channel that was not known has changed. -/
theorem refusal_keeps (table : TaskTable) (caller : TaskId) (msg : MailboxMessage) (now : LogicalTime)
    (error : LocalIpcError) (after : TaskTable) :
    (table.send_message_from caller msg now = (.error error,after) → after = table ∨
    (error = .Full ∨ error = .Expired) ∧
      ∃ recipient, table.get msg.to = some recipient ∧ after = table.set_mailbox msg.to (recipient.mailbox.purge now)) ∧
    ∀ (channel_id : ChannelId) (subscribers : List TaskId),
      table.publish_channel caller channel_id subscribers msg now = (.error error,after) →
      after = table ∨ (error = .Full ∨ error = .Expired) ∧ after.tasks = table.tasks ∧
      after.wait_index = table.wait_index ∧
        (∀ other, other ≠ channel_id → after.channels[other]? = table.channels[other]?) ∧
        ∀ channel, table.channels[channel_id]? = some channel →
        after.channels[channel_id]? = some (channel.purge now) := by
  refine ⟨send_message_refused,fun channel_id subscribers refused => ?_⟩
  obtain same | ⟨errors,changed⟩ := publish_channel_refused refused
  · exact .inl same
  subst changed
  refine .inr ⟨errors,rfl,rfl,fun other apart => ?_,fun channel found => ?_⟩
  · show (table.channels.insert channel_id _)[other]? = table.channels[other]?
    rw [ExtTreeMap.getElem?_insert,if_neg fun same => apart (LawfulEqCmp.compare_eq_iff_eq.mp same).symm]
  · show (table.channels.insert channel_id _)[channel_id]? = some (channel.purge now)
    rw [ExtTreeMap.getElem?_insert_self,found,Option.getD_some]

private def memo (id : MessageId) : MailboxMessage := ⟨id,"a","b","note",0,.Normal,0,some 1⟩

/-- One task writes to another, whose inbox holds a memo with deadline 1. -/
def correspondents : TaskTable :=
  ⟨[⟨.root "a",.new⟩,⟨.root "b",(Mailbox.new.try_send (memo "first") 0).2⟩],.new,∅⟩

/-- A memo sent too late is refused, and the one that has expired meanwhile is gone from the inbox. -/
theorem refusal_keeps_late : ∃ after, correspondents.send_message_from "a" (memo "second") 1 = (.error .Expired,after) ∧
    (after.tasks.map fun task => task.mailbox.queue.length) = [0,0] ∧
    (after = correspondents ∨ (LocalIpcError.Expired = .Full ∨ LocalIpcError.Expired = .Expired) ∧
      ∃ recipient, correspondents.get "b" = some recipient ∧
      after = correspondents.set_mailbox "b" (recipient.mailbox.purge 1)) :=
  ⟨_,rfl,by decide +kernel,(refusal_keeps correspondents "a" (memo "second") 1 .Expired _).1 rfl⟩

/-- A refused message has purged what had expired. -/
theorem refusal_purges : ¬ ∀ (table : TaskTable) (caller : TaskId) (msg : MailboxMessage) (now : LogicalTime) (error : LocalIpcError) (after : TaskTable),
    (table.send_message_from caller msg now = (.error error,after) → after = table) ∧
      ∀ (channel_id : ChannelId) (subscribers : List TaskId),
      table.publish_channel caller channel_id subscribers msg now = (.error error,after) →
        after = table := by
  intro claimed
  have same := (claimed correspondents "a" (memo "second") 1 .Expired _).1 rfl
  have lengths := congrArg (fun table : TaskTable => table.tasks.map fun task => task.mailbox.queue.length) same
  revert lengths
  decide +kernel

end TaskTable
end Deepstrike.Messaging

import Deepstrike.JournalState
import Deepstrike.Segments

/-!
The journal of one process, in memory and on files. In memory it is a map from operations to their states. On
files every operation has a directory under the root, named by its segment, and an instance keeps the heads it saw last
by operation. What the file journal finds in a folder are the names of twelve digits.
-/
namespace Deepstrike.Journal
open Interleaving Segments

/-- The methods of a journal. -/
inductive KernelJournalCall where
  | StageOutboundEnvelope (envelope_json : String)
  | ReadOutboundEnvelope
  | ClearOutboundEnvelope
  | CompareAndAppend (expected_head : Option String) (record : JournalRecordInput)
  | Head
  | ReadFrom (from_step_seq : Nat)
  | RecordsAfter (after_head : Option String)
  | CompareAndInstallCheckpoint (previous_checkpoint_id : Option String) (covered_head : String) (checkpoint : CheckpointCandidate)
  | LatestCheckpoint
  | AckCheckpoint (checkpoint_id : String)
  | PruneAckedPrefix
  deriving DecidableEq,Repr

/-- What they answer. -/
inductive KernelJournalAnswer where
  | Done
  | OutboundEnvelope (envelope_json : Option String)
  | Appended (receipt : JournalAppendReceipt)
  | Head (head : Option JournalHead)
  | Entries (entries : List JournalEntry)
  | Installed (checkpoint : InstalledCheckpoint)
  | LatestCheckpoint (checkpoint : Option InstalledCheckpoint)
  | Pruned (receipt : JournalPruneReceipt)
  deriving DecidableEq,Repr

/-- What the journal in memory keeps of an operation. -/
abbrev OperationState := StoredOperation JournalEntry InstalledCheckpoint String

namespace OperationState

def push (state : OperationState) (expected_head : Option String) (record : JournalRecordInput) : OperationState :=
  { state with records := state.records ++ [⟨record.step_seq,record.record_digest,expected_head,record.record_bytes⟩] }

/-- The checkpoint that is installed behind the latest. -/
def next_checkpoint (state : OperationState) (previous_checkpoint_id : Option String) (covered_head : String)
    (checkpoint : CheckpointCandidate) :
    InstalledCheckpoint :=
  ⟨state.checkpoints.getLast?.elim 0 fun latest => latest.ordinal+1,checkpoint.checkpoint_id,previous_checkpoint_id,covered_head,
    checkpoint.through_step_seq,checkpoint.state_digest,checkpoint.checkpoint_bytes,false⟩

/-- Acknowledge the first checkpoint with the id. -/
def acknowledge (checkpoint_id : String) : List InstalledCheckpoint → Option (InstalledCheckpoint × List InstalledCheckpoint)
  | [] => none
  | installed :: rest =>
    if installed.checkpoint_id = checkpoint_id then
      let installed := { installed with acknowledged := true }
      some (installed,installed :: rest)
    else (acknowledge checkpoint_id rest).map fun (found,rest) => (found,installed :: rest)

end OperationState

/-- The operations of a process, by their ids. -/
abbrev InMemoryKernelJournal := String → Option OperationState

namespace InMemoryKernelJournal

def new : InMemoryKernelJournal := fun _ => none

/-- The state of an operation, which is empty where there is none. -/
def state (journal : InMemoryKernelJournal) (operation_id : String) : OperationState := (journal operation_id).getD .empty

def insert (journal : InMemoryKernelJournal) (operation_id : String) (state : OperationState) : InMemoryKernelJournal :=
  fun other => if other = operation_id then some state else journal other

variable (journal : InMemoryKernelJournal) (operation_id : String)

def stage_outbound_envelope (envelope_json : String) : InMemoryKernelJournal :=
  journal.insert operation_id { journal.state operation_id with outbound_envelope := some envelope_json }

def read_outbound_envelope : Option String := (journal operation_id).bind StoredOperation.outbound_envelope

def clear_outbound_envelope : InMemoryKernelJournal :=
  match journal operation_id with
  | some state => journal.insert operation_id { state with outbound_envelope := none }
  | none => journal

/-- An append that fails its precondition leaves an entry for the operation all the same. -/
def compare_and_append (expected_head : Option String) (record : JournalRecordInput) :
    Except JournalError JournalAppendReceipt × InMemoryKernelJournal :=
  match validate_record record with
  | .error error => (.error error,journal)
  | .ok () =>
    let state := journal.state operation_id
    match check_append_precondition state.head expected_head record with
    | .error error => (.error error,journal.insert operation_id state)
    | .ok () =>
      (.ok ⟨record.step_seq,record.record_digest⟩,journal.insert operation_id (state.push expected_head record))

def head : Option JournalHead := (journal operation_id).bind StoredOperation.head

def read_from (from_step_seq : Nat) : Except JournalError (List JournalEntry) :=
  match journal operation_id with
  | some state => state.read_from from_step_seq
  | none => .ok []

def records_after (after_head : Option String) : Except JournalError (List JournalEntry) :=
  match after_head with
  | none => read_from journal operation_id 0
  | some after_head =>
    match journal operation_id with
    | none => .error (.Integrity "journal cursor digest names no retained record")
    | some state => state.records_after after_head

def compare_and_install_checkpoint (previous_checkpoint_id : Option String) (covered_head : String) (checkpoint : CheckpointCandidate) :
    Except JournalError InstalledCheckpoint × InMemoryKernelJournal :=
  match validate_candidate checkpoint with
  | .error error => (.error error,journal)
  | .ok () =>
    let state := journal.state operation_id
    match check_checkpoint_precondition state.checkpoints.getLast? previous_checkpoint_id checkpoint with
    | .error error => (.error error,journal.insert operation_id state)
    | .ok () =>
      match verify_covered_head (state.records.find? fun entry => entry.step_seq = checkpoint.through_step_seq) state.pruned covered_head
          checkpoint.through_step_seq with
      | .error error => (.error error,journal.insert operation_id state)
      | .ok () =>
        let installed := state.next_checkpoint previous_checkpoint_id covered_head checkpoint
        (.ok installed,journal.insert operation_id { state with checkpoints := state.checkpoints ++ [installed] })

def latest_checkpoint : Option InstalledCheckpoint := (journal operation_id).bind fun state => state.checkpoints.getLast?

def ack_checkpoint (checkpoint_id : String) : Except JournalError InstalledCheckpoint × InMemoryKernelJournal :=
  match journal operation_id with
  | none => (.error (.Integrity "cannot acknowledge an uninstalled checkpoint"),journal)
  | some state =>
    match OperationState.acknowledge checkpoint_id state.checkpoints with
    | none => (.error (.Integrity "cannot acknowledge an uninstalled checkpoint"),journal)
    | some (installed,checkpoints) => (.ok installed,journal.insert operation_id { state with checkpoints })

def prune_acked_prefix : JournalPruneReceipt × InMemoryKernelJournal :=
  match journal operation_id with
  | none => (⟨none,0⟩,journal)
  | some state =>
    match state.checkpoints.reverse.find? fun installed => installed.acknowledged with
    | none => (⟨state.pruned.map PrunedAnchor.through_step_seq,0⟩,journal)
    | some boundary =>
      let pruned := state.prune boundary
      (⟨pruned.pruned.map PrunedAnchor.through_step_seq,state.records.length-pruned.records.length⟩,journal.insert operation_id pruned)

def call : KernelJournalCall → Except JournalError KernelJournalAnswer × InMemoryKernelJournal
  | .StageOutboundEnvelope envelope_json => (.ok .Done,stage_outbound_envelope journal operation_id envelope_json)
  | .ReadOutboundEnvelope => (.ok (.OutboundEnvelope (read_outbound_envelope journal operation_id)),journal)
  | .ClearOutboundEnvelope => (.ok .Done,clear_outbound_envelope journal operation_id)
  | .CompareAndAppend expected_head record =>
    let (receipt,journal) := compare_and_append journal operation_id expected_head record
    (receipt.map .Appended,journal)
  | .Head => (.ok (.Head (head journal operation_id)),journal)
  | .ReadFrom from_step_seq => ((read_from journal operation_id from_step_seq).map .Entries,journal)
  | .RecordsAfter after_head => ((records_after journal operation_id after_head).map .Entries,journal)
  | .CompareAndInstallCheckpoint previous_checkpoint_id covered_head checkpoint =>
    let (installed,journal) := compare_and_install_checkpoint journal operation_id previous_checkpoint_id covered_head checkpoint
    (installed.map .Installed,journal)
  | .LatestCheckpoint => (.ok (.LatestCheckpoint (latest_checkpoint journal operation_id)),journal)
  | .AckCheckpoint checkpoint_id =>
    let (installed,journal) := ack_checkpoint journal operation_id checkpoint_id
    (installed.map .Installed,journal)
  | .PruneAckedPrefix =>
    let (receipt,journal) := prune_acked_prefix journal operation_id
    (.ok (.Pruned receipt),journal)

end InMemoryKernelJournal

/-- The answers to calls one after another. -/
def InMemoryKernelJournal.answers : List (String × KernelJournalCall) → InMemoryKernelJournal →
    List (Except JournalError KernelJournalAnswer)
  | [],_ => []
  | (operation_id,call) :: rest,journal =>
    let (answer,journal) := journal.call operation_id call
    answer :: answers rest journal

namespace FileKernelJournal

/-- The records at the listed positions from one on. -/
def read_listed (from_step_seq : Nat) : List Nat → Journaled (List JournalEntry)
  | [] => .pure []
  | position :: rest =>
    if position < from_step_seq then read_listed from_step_seq rest
    else do
      match ← read_record position with
      | some entry => return entry :: (← read_listed from_step_seq rest)
      | none => read_listed from_step_seq rest

def read_from (from_step_seq : Nat) : Journaled (List JournalEntry) := do
  let positions ← record_positions
  let entries ← read_listed from_step_seq positions
  Program.ofExcept (verify_chain entries)
  return entries

/-- Where the cursor is no retained record, it may be the anchor. -/
def after_anchor (after_head : String) : Option PrunedAnchor → Journaled (List JournalEntry)
  | some pruned =>
    if pruned.covered_head = after_head then read_from (pruned.through_step_seq+1)
    else .throw (.Integrity "journal cursor digest names no retained record")
  | none => .throw (.Integrity "journal cursor digest names no retained record")

/-- The records behind the first of the listed positions whose record has the digest. -/
def after_listed (after_head : String) : List Nat → Journaled (List JournalEntry)
  | [] => do after_anchor after_head (← pruned_anchor)
  | position :: rest => do
    match ← read_record position with
    | some entry => if entry.record_digest = after_head then read_from (position+1) else after_listed after_head rest
    | none => after_listed after_head rest

/-- The cursor is almost always recent, so it is searched newest first. -/
def records_after : Option String → Journaled (List JournalEntry)
  | none => read_from 0
  | some after_head => do after_listed after_head (← record_positions).reverse

end FileKernelJournal

/-- One step of the only process: a listing gives the names of twelve digits that are there. -/
def Root.execHere : (op : FileOp) → Root → Option (FileAnswer op × Root)
  | .Entries place _,root =>
    some (((root.folder place).files.keys.filter fun name => decide (name < MAX_CHAIN_POSITION)).insertionSort (· ≤ ·),root)
  | op,root => root.exec 0 0 op []

/-- What lies in the directory of an operation. -/
structure OperationDir where
  root : Root
  outbound_envelope : Option String

def OperationDir.empty : OperationDir := ⟨.empty,none⟩

/-- An instance on a root directory: the directories by their segments, and the head it saw last of each operation. -/
structure FileKernelJournal where
  directories : String → OperationDir
  known_heads : String → Option JournalHead

namespace FileKernelJournal

def new : FileKernelJournal := ⟨fun _ => .empty,fun _ => none⟩

variable (journal : FileKernelJournal) (operation_id : String)

/-- The directory of an operation, with what the instance knows of it. -/
def opened : OperationDir :=
  let directory := journal.directories (safe_segment operation_id)
  { directory with root := directory.root.remember 0 (journal.known_heads operation_id) }

def closed (directory : OperationDir) : FileKernelJournal where
  directories segment := if segment = safe_segment operation_id then directory else journal.directories segment
  known_heads other := if other = operation_id then directory.root.known_heads 0 else journal.known_heads other

/-- Run the program of a call to its end. -/
def run (program : Journaled KernelJournalAnswer) :
    Option (Except JournalError KernelJournalAnswer × FileKernelJournal) :=
  let directory := journal.opened operation_id
  (program.alone Root.execHere directory.root).map fun (answer,root) => (answer,journal.closed operation_id { directory with root })

/-- The outbox is renamed into place, read, and removed. -/
def call : KernelJournalCall →
    Option (Except JournalError KernelJournalAnswer × FileKernelJournal)
  | .StageOutboundEnvelope envelope_json =>
    some (.ok .Done,journal.closed operation_id { journal.opened operation_id with outbound_envelope := some envelope_json })
  | .ReadOutboundEnvelope => some (.ok (.OutboundEnvelope (journal.opened operation_id).outbound_envelope),journal)
  | .ClearOutboundEnvelope => some (.ok .Done,journal.closed operation_id { journal.opened operation_id with outbound_envelope := none })
  | .CompareAndAppend expected_head record => journal.run operation_id (do return .Appended (← compare_and_append expected_head record))
  | .Head => journal.run operation_id (do return .Head (← head))
  | .ReadFrom from_step_seq => journal.run operation_id (do return .Entries (← read_from from_step_seq))
  | .RecordsAfter after_head => journal.run operation_id (do return .Entries (← records_after after_head))
  | .CompareAndInstallCheckpoint previous_checkpoint_id covered_head checkpoint =>
    journal.run operation_id (do return .Installed (← compare_and_install_checkpoint previous_checkpoint_id covered_head checkpoint))
  | .LatestCheckpoint => journal.run operation_id (do return .LatestCheckpoint (← latest_checkpoint))
  | .AckCheckpoint checkpoint_id => journal.run operation_id (do return .Installed (← ack_checkpoint checkpoint_id))
  | .PruneAckedPrefix => journal.run operation_id (do return .Pruned (← prune_acked_prefix))

/-- The answers to calls one after another, if every call ends. -/
def answers : List (String × KernelJournalCall) → FileKernelJournal → Option (List (Except JournalError KernelJournalAnswer))
  | [],_ => some []
  | (operation_id,call) :: rest,journal => do
    let (answer,journal) ← journal.call operation_id call
    let answers ← answers rest journal
    return answer :: answers

end FileKernelJournal

end Deepstrike.Journal

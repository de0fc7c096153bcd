import Deepstrike.Folders
import Deepstrike.Interleaving
import Mathlib.Data.List.Sort

/-!
The file journal of one operation. Every method is a program over the file operations it performs, in
the order the code performs them: records and checkpoints are claimed by a hard link under their number,
the anchor of a prune is renamed into place, and the head an instance saw last is only a hint. What is
staged in a private temporary file before a link is the content of that link. A storage failure ends a
call without a result.
-/
namespace Deepstrike.Journal
open Interleaving Folders

/-- Why a journal operation failed, storage failures apart. -/
inductive JournalError where
  | CasConflict (message : String)
  | Integrity (message : String)
  deriving DecidableEq,Repr

/-- A conflict is the only class that may be retried. -/
def JournalError.is_retryable : JournalError → Bool
  | .CasConflict _ => true
  | .Integrity _ => false

abbrev Bytes := List UInt8

structure JournalRecordInput where
  step_seq : Nat
  record_digest : String
  record_bytes : Bytes
  deriving DecidableEq,Repr

/-- A stored record, with the head it was appended under. -/
structure JournalEntry where
  step_seq : Nat
  record_digest : String
  previous_record_digest : Option String
  record_bytes : Bytes
  deriving DecidableEq,Repr

structure JournalHead where
  step_seq : Nat
  record_digest : String
  deriving DecidableEq,Repr

structure JournalAppendReceipt where
  step_seq : Nat
  record_digest : String
  deriving DecidableEq,Repr

structure CheckpointCandidate where
  checkpoint_id : String
  through_step_seq : Nat
  state_digest : String
  checkpoint_bytes : Bytes
  deriving DecidableEq,Repr

structure InstalledCheckpoint where
  ordinal : Nat
  checkpoint_id : String
  previous_checkpoint_id : Option String
  covered_head : String
  through_step_seq : Nat
  state_digest : String
  checkpoint_bytes : Bytes
  acknowledged : Bool
  deriving DecidableEq,Repr

structure JournalPruneReceipt where
  pruned_through_step_seq : Option Nat
  pruned_count : Nat
  deriving DecidableEq,Repr

/-- The boundary a prune leaves behind. -/
structure PrunedAnchor where
  through_step_seq : Nat
  covered_head : String
  deriving DecidableEq,Repr

def SEQ_DIGITS : Nat := 12
/-- One past the largest position a file name can hold. -/
def MAX_CHAIN_POSITION : Nat := 1000000000000

def validate_record (record : JournalRecordInput) : Except JournalError Unit :=
  if MAX_CHAIN_POSITION ≤ record.step_seq then
    .error (.Integrity s!"journal record step_seq {record.step_seq} exceeds the {SEQ_DIGITS}-digit chain-position space")
  else if record.record_digest.isEmpty then .error (.Integrity "journal record requires a record_digest")
  else .ok ()

def validate_candidate (checkpoint : CheckpointCandidate) : Except JournalError Unit :=
  if checkpoint.checkpoint_id.isEmpty then .error (.Integrity "checkpoint requires a checkpoint_id")
  else if MAX_CHAIN_POSITION ≤ checkpoint.through_step_seq then
    .error (.Integrity s!"checkpoint through_step_seq {checkpoint.through_step_seq} exceeds the {SEQ_DIGITS}-digit chain-position space")
  else if checkpoint.state_digest.isEmpty then .error (.Integrity "checkpoint requires a state_digest")
  else .ok ()

/-- The expected head against the observed one, and the position that follows from it. -/
def check_append_precondition (head : Option JournalHead) (expected_head : Option String) (record : JournalRecordInput) :
    Except JournalError Unit :=
  match expected_head,head with
  | none,some _ =>
    .error (.CasConflict "journal genesis append requires an empty chain, but the operation already has a head")
  | none,none =>
    if record.step_seq ≠ 0 then .error (.Integrity "journal genesis record must have step_seq 0") else .ok ()
  | some _,none => .error (.CasConflict "journal compare-and-append expected a head, but the chain is empty")
  | some expected_head,some head =>
    if head.record_digest ≠ expected_head then .error (.CasConflict "journal head changed before compare-and-append")
    else if record.step_seq ≠ head.step_seq+1 then
      .error (.Integrity s!"journal record step_seq {record.step_seq} does not follow head step_seq {head.step_seq}")
    else .ok ()

def check_checkpoint_precondition (latest : Option InstalledCheckpoint) (previous_checkpoint_id : Option String)
    (checkpoint : CheckpointCandidate) : Except JournalError Unit :=
  match previous_checkpoint_id,latest with
  | none,some _ => .error (.CasConflict "checkpoint install without a predecessor requires an empty checkpoint pointer")
  | none,none => .ok ()
  | some _,none => .error (.CasConflict "checkpoint install named a predecessor, but none is installed")
  | some previous_checkpoint_id,some latest =>
    if latest.checkpoint_id ≠ previous_checkpoint_id then .error (.CasConflict "checkpoint pointer changed before compare-and-install")
    else if checkpoint.through_step_seq < latest.through_step_seq then
      .error (.Integrity "checkpoint pointer must advance monotonically")
    else .ok ()

/-- The covered head is the digest of the record at its position, or of the anchor. It need not be the
    current head. -/
def verify_covered_head (covered : Option JournalEntry) (pruned : Option PrunedAnchor) (covered_head : String) (through_step_seq : Nat) :
    Except JournalError Unit :=
  match covered with
  | some covered =>
    if covered.record_digest ≠ covered_head then
      .error (.Integrity "checkpoint covered_head does not match the record at its through_step_seq")
    else .ok ()
  | none =>
    if pruned = some ⟨through_step_seq,covered_head⟩ then .ok ()
    else .error (.Integrity "checkpoint through_step_seq names no retained record")

def RECORD_SUFFIX : String := ".rec"

def pad (value : Nat) : String :=
  let digits := toString value
  String.ofList (List.replicate (SEQ_DIGITS - digits.length) '0') ++ digits

/-- The folders of an operation: records, checkpoints, and the acknowledgements of checkpoints. -/
inductive Place where
  | Records | Checkpoints | Acks
  deriving DecidableEq,Repr

/-- What an acknowledgement file says. -/
structure AckMark where
  ordinal : Nat
  checkpoint_id : String
  deriving DecidableEq,Repr

/-- A checkpoint as its file holds it. -/
structure PersistedCheckpoint where
  ordinal : Nat
  checkpoint_id : String
  previous_checkpoint_id : Option String
  covered_head : String
  through_step_seq : Nat
  state_digest : String
  checkpoint_bytes : Bytes
  deriving DecidableEq,Repr

abbrev Content : Place → Type
  | .Records => JournalEntry
  | .Checkpoints => PersistedCheckpoint
  | .Acks => AckMark

/-- One step of a call on what the processes share, or on the hint of its own instance. -/
inductive FileOp where
  | Known
  | Remember (head : JournalHead)
  | Forget
  | TryExists (place : Place) (name : Nat)
  | ReadDir (place : Place)
  | Entries (place : Place) (listing : Listing)
  | Read (place : Place) (name : Nat)
  | HardLink (place : Place) (name : Nat) (content : Content place)
  | RemoveRecord (name : Nat)
  | ReadAnchor
  | RenameAnchor (anchor : PrunedAnchor)

abbrev FileAnswer : FileOp → Type
  | .Known => Option JournalHead
  | .Remember _ | .Forget | .RemoveRecord _ | .RenameAnchor _ => Unit
  | .TryExists _ _ | .HardLink _ _ _ => Bool
  | .ReadDir _ => Listing
  | .Entries _ _ => List Nat
  | .Read place _ => Option (Content place)
  | .ReadAnchor => Option PrunedAnchor

/-- The directory of an operation, and the head each instance saw last. -/
structure Root where
  records : Folder JournalEntry
  checkpoints : Folder PersistedCheckpoint
  acks : Folder AckMark
  pruned : Option PrunedAnchor
  known_heads : Nat → Option JournalHead

namespace Root

def empty : Root := ⟨.empty,.empty,.empty,none,fun _ => none⟩

def folder (root : Root) : (place : Place) → Folder (Content place)
  | .Records => root.records
  | .Checkpoints => root.checkpoints
  | .Acks => root.acks

def setFolder (root : Root) : (place : Place) → Folder (Content place) → Root
  | .Records,folder => { root with records := folder }
  | .Checkpoints,folder => { root with checkpoints := folder }
  | .Acks,folder => { root with acks := folder }

def remember (root : Root) (owner : Nat) (head : Option JournalHead) : Root :=
  { root with known_heads := fun other => if other = owner then head else root.known_heads other }

/-- One step of a call; the choice says what a listing came to, in the order of the names. -/
def exec (id owner : Nat) : (op : FileOp) → List Nat → Root → Option (FileAnswer op × Root)
  | .Known,_,root => some (root.known_heads owner,root)
  | .Remember head,_,root => some ((),root.remember owner (some head))
  | .Forget,_,root => some ((),root.remember owner none)
  | .TryExists place name,_,root => some (((root.folder place).read name).isSome,root)
  | .ReadDir place,_,root => some ((root.folder place).opening,root)
  | .Entries place listing,names,root =>
    if (root.folder place).ends listing names then some (names.insertionSort (· ≤ ·),root) else none
  | .Read place name,_,root => some ((root.folder place).read name,root)
  | .HardLink place name content,_,root =>
    let (free,folder) := (root.folder place).link id name content
    some (free,root.setFolder place folder)
  | .RemoveRecord name,_,root => some ((),{ root with records := root.records.unlink name })
  | .ReadAnchor,_,root => some (root.pruned,root)
  | .RenameAnchor anchor,_,root => some ((),{ root with pruned := some anchor })

end Root

/-- The instances of the journal on one root. A crash takes the hint of an instance with it. -/
def files : System Root FileOp FileAnswer (List Nat) where
  exec := Root.exec
  wipe owner root := root.remember owner none

abbrev Journaled := Program FileOp FileAnswer JournalError

def fs (op : FileOp) : Journaled (FileAnswer op) := Program.ask op

namespace FileKernelJournal

def list_positions (place : Place) : Journaled (List Nat) := do
  let read_dir ← fs (.ReadDir place)
  fs (.Entries place read_dir)

def record_positions : Journaled (List Nat) := list_positions .Records

def read_record (step_seq : Nat) : Journaled (Option JournalEntry) := do
  match ← fs (.Read .Records step_seq) with
  | none => return none
  | some persisted =>
    if persisted.step_seq ≠ step_seq then
      .throw (.Integrity s!"journal record {pad step_seq}{RECORD_SUFFIX} disagrees with its own step_seq")
    else return some persisted

def pruned_anchor : Journaled (Option PrunedAnchor) := fs .ReadAnchor

def anchored : Journaled (Option JournalHead) := do
  return (← pruned_anchor).map fun pruned => ⟨pruned.through_step_seq,pruned.covered_head⟩

def scan_head : Journaled (Option JournalHead) := do
  match (← record_positions).getLast? with
  | some last =>
    match ← read_record last with
    | some entry => return some ⟨entry.step_seq,entry.record_digest⟩
    | none => anchored
  | none => anchored

/-- A head found in the folders is the hint from now on. -/
def rescan : Journaled (Option JournalHead) := do
  let found ← scan_head
  match found with
  | some head => fs (.Remember head)
  | none => .pure ()
  return found

/-- The hint is trusted while the slot behind it is free. -/
def head : Journaled (Option JournalHead) := do
  match ← fs .Known with
  | some known =>
    let taken ← fs (.TryExists .Records (known.step_seq+1))
    if taken then rescan else return some known
  | none => rescan

variable (expected_head : Option String) (record : JournalRecordInput)

/-- A record as its file holds it. -/
def persisted : JournalEntry :=
  ⟨record.step_seq,record.record_digest,expected_head,record.record_bytes⟩

def publish_record : Journaled JournalAppendReceipt := do
  let claimed ← fs (.HardLink .Records record.step_seq (persisted expected_head record))
  if claimed then
    fs (.Remember ⟨record.step_seq,record.record_digest⟩)
    return ⟨record.step_seq,record.record_digest⟩
  else
    fs .Forget
    .throw (.CasConflict s!"journal step_seq {record.step_seq} was claimed by a concurrent writer")

def compare_and_append : Journaled JournalAppendReceipt := do
  Program.ofExcept (validate_record record)
  let observed ← head
  Program.ofExcept (check_append_precondition observed expected_head record)
  publish_record expected_head record

def checkpoint_ordinals : Journaled (List Nat) := list_positions .Checkpoints
def acked_ordinals : Journaled (List Nat) := list_positions .Acks

/-- The acknowledgements the caller has, else those in the folder. -/
def acked_or_listed : Option (List Nat) → Journaled (List Nat)
  | some acked => .pure acked
  | none => acked_ordinals

/-- A checkpoint file with its acknowledgement. -/
def read_checkpoint (ordinal : Nat) (acked : Option (List Nat)) : Journaled (Option InstalledCheckpoint) := do
  match ← fs (.Read .Checkpoints ordinal) with
  | none => return none
  | some persisted =>
    let acked ← acked_or_listed acked
    return some ⟨persisted.ordinal,persisted.checkpoint_id,persisted.previous_checkpoint_id,persisted.covered_head,
      persisted.through_step_seq,persisted.state_digest,persisted.checkpoint_bytes,acked.contains ordinal⟩

def latest_checkpoint : Journaled (Option InstalledCheckpoint) := do
  match (← checkpoint_ordinals).getLast? with
  | some ordinal => read_checkpoint ordinal none
  | none => return none

def publish_checkpoint (ordinal : Nat) (previous_checkpoint_id : Option String) (covered_head : String) (checkpoint : CheckpointCandidate) :
    Journaled InstalledCheckpoint := do
  let claimed ← fs (.HardLink .Checkpoints ordinal
    (PersistedCheckpoint.mk ordinal checkpoint.checkpoint_id previous_checkpoint_id covered_head checkpoint.through_step_seq
      checkpoint.state_digest checkpoint.checkpoint_bytes))
  if claimed then
    return ⟨ordinal,checkpoint.checkpoint_id,previous_checkpoint_id,covered_head,checkpoint.through_step_seq,checkpoint.state_digest,
      checkpoint.checkpoint_bytes,false⟩
  else .throw (.CasConflict s!"checkpoint ordinal {ordinal} was claimed by a concurrent installer")

def compare_and_install_checkpoint (previous_checkpoint_id : Option String) (covered_head : String) (checkpoint : CheckpointCandidate) :
    Journaled InstalledCheckpoint := do
  Program.ofExcept (validate_candidate checkpoint)
  let latest ← latest_checkpoint
  Program.ofExcept (check_checkpoint_precondition latest previous_checkpoint_id checkpoint)
  let covered ← read_record checkpoint.through_step_seq
  let pruned ← pruned_anchor
  Program.ofExcept (verify_covered_head covered pruned covered_head checkpoint.through_step_seq)
  publish_checkpoint (latest.elim 0 fun latest => latest.ordinal+1) previous_checkpoint_id covered_head checkpoint

/-- The newest of the listed checkpoints with the id is acknowledged. A lost race is a success. -/
def ack_listed (checkpoint_id : String) : List Nat → Journaled InstalledCheckpoint
  | [] => .throw (.Integrity "cannot acknowledge an uninstalled checkpoint")
  | ordinal :: rest => do
    match ← read_checkpoint ordinal none with
    | none => ack_listed checkpoint_id rest
    | some installed =>
      if installed.checkpoint_id ≠ checkpoint_id then ack_listed checkpoint_id rest
      else if installed.acknowledged then return { installed with acknowledged := true }
      else do
        let _ ← fs (.HardLink .Acks ordinal (AckMark.mk ordinal checkpoint_id))
        return { installed with acknowledged := true }

def ack_checkpoint (checkpoint_id : String) : Journaled InstalledCheckpoint := do
  ack_listed checkpoint_id (← checkpoint_ordinals).reverse

/-- The files of the listed positions are removed up to the boundary. -/
def remove_records (through_step_seq : Nat) : List Nat → Nat → Journaled Nat
  | [],pruned_count => .pure pruned_count
  | position :: rest,pruned_count =>
    if through_step_seq < position then .pure pruned_count
    else do
      fs (.RemoveRecord position)
      remove_records through_step_seq rest (pruned_count+1)

/-- The boundary of a prune: the newest listed checkpoint among the acknowledged ones. -/
def prune_boundary (acked : List Nat) (ordinals : List Nat) : Journaled (Option InstalledCheckpoint) :=
  match ordinals.reverse.find? acked.contains with
  | some ordinal => read_checkpoint ordinal (some acked)
  | none => .pure none

/-- The anchor moves forward only. -/
def advance_anchor (existing : Option PrunedAnchor) (boundary : InstalledCheckpoint) : Journaled Unit :=
  if existing.all fun anchor => decide (anchor.through_step_seq < boundary.through_step_seq) then
    fs (.RenameAnchor ⟨boundary.through_step_seq,boundary.covered_head⟩)
  else .pure ()

/-- The anchor is written before the first file is removed. -/
def prune_acked_prefix : Journaled JournalPruneReceipt := do
  let acked ← acked_ordinals
  let existing ← pruned_anchor
  let ordinals ← checkpoint_ordinals
  match ← prune_boundary acked ordinals with
  | none => return ⟨existing.map PrunedAnchor.through_step_seq,0⟩
  | some boundary =>
    advance_anchor existing boundary
    let positions ← record_positions
    let pruned_count ← remove_records boundary.through_step_seq positions 0
    return ⟨some (max boundary.through_step_seq (existing.elim boundary.through_step_seq PrunedAnchor.through_step_seq)),pruned_count⟩

end FileKernelJournal

/-- The calls of the journal. -/
inductive JournalRequest where
  | CompareAndAppend (expected_head : Option String) (record : JournalRecordInput)
  | Head
  | CompareAndInstallCheckpoint (previous_checkpoint_id : Option String) (covered_head : String) (checkpoint : CheckpointCandidate)
  | AckCheckpoint (checkpoint_id : String)
  | PruneAckedPrefix
  deriving DecidableEq,Repr

inductive JournalResponse where
  | Appended (receipt : JournalAppendReceipt)
  | Head (head : Option JournalHead)
  | Installed (checkpoint : InstalledCheckpoint)
  | Acknowledged (checkpoint : InstalledCheckpoint)
  | Pruned (receipt : JournalPruneReceipt)
  deriving DecidableEq,Repr

open FileKernelJournal in
/-- The program of a call. -/
def answerTo : JournalRequest → Journaled JournalResponse
  | .CompareAndAppend expected_head record => do return .Appended (← compare_and_append expected_head record)
  | .Head => do return .Head (← head)
  | .CompareAndInstallCheckpoint previous_checkpoint_id covered_head checkpoint => do
    return .Installed (← compare_and_install_checkpoint previous_checkpoint_id covered_head checkpoint)
  | .AckCheckpoint checkpoint_id => do return .Acknowledged (← ack_checkpoint checkpoint_id)
  | .PruneAckedPrefix => do return .Pruned (← prune_acked_prefix)

/-- The processes on one root and their calls. -/
abbrev Journals := Machine Root JournalRequest FileOp FileAnswer JournalError JournalResponse

abbrev JournalAction := Action JournalRequest (List Nat)

def Journals.step (journals : Journals) (action : JournalAction) : Journals := Machine.step files answerTo journals action

end Deepstrike.Journal

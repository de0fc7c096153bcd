import Deepstrike.JournalState
import Deepstrike.Kernel

/-!
The durable host of one operation: an outbox of one slot, and behind it prepare, compare-and-append,
commit. A call is a program whose steps are calls of the kernel under its lock and calls of the journal,
each of which takes effect at once. Hosts share the journal; a crash takes the kernel of a host, and
nothing that is stored. What a record or a checkpoint is stored as decodes to it.
-/
namespace Deepstrike.CanonicalHost
open Wire Record Vocabulary Transaction Driver Kernel Interleaving
open Journal (JournalError JournalRecordInput JournalEntry JournalHead JournalAppendReceipt InstalledCheckpoint CheckpointCandidate
  JournalPruneReceipt PrunedAnchor validate_record validate_candidate check_append_precondition check_checkpoint_precondition verify_covered_head)

def MAX_TRANSITION_RECONCILIATIONS : Nat := 8

/-- What is stored: the text of an envelope, the bytes of a record and of a checkpoint, and the digest of a
    whole checkpoint. -/
structure HostCodec (K : Parts) where
  Text : Type
  write_envelope : WireEnvelope → Except String Text
  read_envelope : Text → Except String WireEnvelope
  record_bytes : KernelRecord K.codec → Journal.Bytes
  checkpoint_bytes : KernelCheckpoint K → Journal.Bytes
  checkpoint_digest : KernelCheckpoint K → Digest

/-- The JSON library reads the envelope it wrote. -/
def HostCodec.RoundTrips {K : Parts} (codec : HostCodec K) : Prop :=
  ∀ envelope text, codec.write_envelope envelope = .ok text → codec.read_envelope text = .ok envelope

/-- A failure of the journal: one of its own, or one of the storage. -/
inductive StoreError where
  | Journal (error : JournalError)
  | Io
  deriving DecidableEq,Repr

def StoreError.is_retryable : StoreError → Bool
  | .Journal error => error.is_retryable
  | .Io => false

inductive HostTransitionError where
  | Rejected (fault : KernelFault)
  | RebuildRequired
  | Journal (error : StoreError)
  | Other (message : String)
  deriving DecidableEq,Repr

structure CanonicalTransition where
  envelope : WireEnvelope
  step_seq : Nat
  record_digest : Digest
  planned_step : PlannedStep
  checkpoint_advised : Bool
  replayed : Bool

variable {K : Parts}

/-- An installed checkpoint, with what its bytes decode to. -/
structure Installed (K : Parts) extends InstalledCheckpoint where
  checkpoint : KernelCheckpoint K

instance : Journal.ChainEntry (KernelRecord K.codec) :=
  ⟨KernelRecord.step_seq,KernelRecord.record_digest,KernelRecord.previous_record_digest⟩

/-- What the journal keeps of the operation. -/
abbrev OperationState (codec : HostCodec K) := Journal.StoredOperation (KernelRecord K.codec) (Installed K) codec.Text

variable {codec : HostCodec K}

def HostCodec.input (codec : HostCodec K) (record : KernelRecord K.codec) : JournalRecordInput :=
  ⟨record.step_seq,record.record_digest,codec.record_bytes record⟩
def HostCodec.entry (codec : HostCodec K) (record : KernelRecord K.codec) : JournalEntry :=
  ⟨record.step_seq,record.record_digest,record.previous_record_digest,codec.record_bytes record⟩
def HostCodec.ack_token (codec : HostCodec K) (checkpoint : KernelCheckpoint K) : String :=
  ack_token_for checkpoint.operation_id checkpoint.boundary.through_step_seq (codec.checkpoint_digest checkpoint)
def HostCodec.candidate (codec : HostCodec K) (checkpoint : KernelCheckpoint K) : CheckpointCandidate :=
  ⟨codec.ack_token checkpoint,checkpoint.boundary.through_step_seq,checkpoint.state_digest,codec.checkpoint_bytes checkpoint⟩

namespace OperationState

variable (state : OperationState codec)

def compare_and_append (expected_head : Option Digest) (record : KernelRecord K.codec) :
    Except JournalError (JournalAppendReceipt × OperationState codec) := do
  validate_record (codec.input record)
  check_append_precondition state.head expected_head (codec.input record)
  return (⟨record.step_seq,record.record_digest⟩,{ state with records := state.records ++ [record] })

def records_after (state : OperationState codec) (after_head : Option Digest) : Except JournalError (List (KernelRecord K.codec)) :=
  match after_head with
  | none => state.read_from 0
  | some after_head => Journal.StoredOperation.records_after state after_head

def latest_checkpoint : Option (Installed K) := state.checkpoints.getLast?

def compare_and_install_checkpoint (previous_checkpoint_id : Option String) (covered_head : Digest)
    (checkpoint : KernelCheckpoint K) : Except JournalError (Installed K × OperationState codec) := do
  let candidate := codec.candidate checkpoint
  validate_candidate candidate
  let latest := state.latest_checkpoint
  check_checkpoint_precondition (latest.map Installed.toInstalledCheckpoint) previous_checkpoint_id candidate
  let ordinal := latest.elim 0 fun latest => latest.ordinal+1
  let covered := state.records.find? fun entry => entry.step_seq = candidate.through_step_seq
  verify_covered_head (covered.map codec.entry) state.pruned covered_head candidate.through_step_seq
  let installed := ⟨⟨ordinal,candidate.checkpoint_id,previous_checkpoint_id,covered_head,candidate.through_step_seq,candidate.state_digest,
    candidate.checkpoint_bytes,false⟩,checkpoint⟩
  return (installed,{ state with checkpoints := state.checkpoints ++ [installed] })

/-- Acknowledge the first checkpoint with the id. -/
def acknowledge (checkpoint_id : String) : List (Installed K) → Option (Installed K × List (Installed K))
  | [] => none
  | installed :: rest =>
    if installed.checkpoint_id = checkpoint_id then
      let installed := { installed with acknowledged := true }
      some (installed,installed :: rest)
    else (acknowledge checkpoint_id rest).map fun (found,rest) => (found,installed :: rest)

def ack_checkpoint (checkpoint_id : String) : Except JournalError (Installed K × OperationState codec) :=
  match acknowledge checkpoint_id state.checkpoints with
  | none => .error (.Integrity "cannot acknowledge an uninstalled checkpoint")
  | some (installed,checkpoints) => .ok (installed,{ state with checkpoints })

/-- Drop the records the latest acknowledged checkpoint covers, behind an anchor that only advances. -/
def prune_acked_prefix : JournalPruneReceipt × OperationState codec :=
  match state.checkpoints.reverse.find? fun installed => installed.acknowledged with
  | none => (⟨state.pruned.map PrunedAnchor.through_step_seq,0⟩,state)
  | some boundary =>
    let pruned := state.prune boundary.toInstalledCheckpoint
    (⟨pruned.pruned.map PrunedAnchor.through_step_seq,state.records.length-pruned.records.length⟩,pruned)

end OperationState

/-- One step of a host: a call of its kernel, or one of the journal. -/
inductive HostOp (codec : HostCodec K) where
  | Prepare (envelope : WireEnvelope)
  | Commit (token : PrepareToken) (appended_head : Digest)
  | Abort (token : PrepareToken)
  | CheckpointCandidate
  | NoteCheckpointAcked (boundary : CheckpointBoundary)
  | RestoreBytes (checkpoint : Option (KernelCheckpoint K)) (records : List (KernelRecord K.codec))
  | StageOutboundEnvelope (envelope_json : codec.Text)
  | ReadOutboundEnvelope
  | ClearOutboundEnvelope
  | CompareAndAppend (expected_head : Option Digest) (record : KernelRecord K.codec)
  | RecordsAfter (after_head : Option Digest)
  | LatestCheckpoint
  | CompareAndInstallCheckpoint (previous_checkpoint_id : Option String) (covered_head : Digest) (checkpoint : KernelCheckpoint K)
  | AckCheckpoint (checkpoint_id : String)
  | PruneAckedPrefix

abbrev HostAnswer : HostOp codec → Type
  | .Prepare _ => Preparation K
  | .Commit _ _ => Except KernelFault (CommittedTransition K.codec)
  | .Abort _ => Except KernelFault (KernelRecord K.codec)
  | .CheckpointCandidate => Except KernelFault (KernelCheckpoint K)
  | .NoteCheckpointAcked _ => Except KernelFault TailUsage
  | .RestoreBytes _ _ => Except KernelFault Unit
  | .StageOutboundEnvelope _ | .ClearOutboundEnvelope => Except StoreError Unit
  | .ReadOutboundEnvelope => Except StoreError (Option codec.Text)
  | .CompareAndAppend _ _ => Except StoreError JournalAppendReceipt
  | .RecordsAfter _ => Except StoreError (List (KernelRecord K.codec))
  | .LatestCheckpoint => Except StoreError (Option (Installed K))
  | .CompareAndInstallCheckpoint _ _ _ | .AckCheckpoint _ => Except StoreError (Installed K)
  | .PruneAckedPrefix => Except StoreError JournalPruneReceipt

/-- The journal and the kernels over it; and beside them every record that was ever appended, and what
    each call has staged and not cleared. -/
structure Site (codec : HostCodec K) where
  journal : OperationState codec
  kernels : Nat → CanonicalKernel K
  appended : List (KernelRecord K.codec)
  staged : Nat → Option codec.Text

namespace Site

def empty (codec : HostCodec K) (defaults : ConfigDefaults) : Site codec := ⟨.empty,fun _ => .new K defaults,[],fun _ => none⟩

variable (site : Site codec)

def setKernel (owner : Nat) (kernel : CanonicalKernel K) : Site codec :=
  { site with kernels := fun other => if other = owner then kernel else site.kernels other }

def setStaged (id : Nat) (text : Option codec.Text) : Site codec :=
  { site with
    journal := { site.journal with outbound_envelope := text }
    staged := fun other => if other = id then text else site.staged other }

/-- A call of a kernel; a panic under the lock answers nothing. -/
def answered {α : Type} (owner : Nat) : Kernel.Call (α × CanonicalKernel K) → Option (α × Site codec)
  | .ok (answer,kernel) => some (answer,site.setKernel owner kernel)
  | .error _ => none

/-- A call of the journal that the storage serves or does not. -/
def stored {α : Type} (works : Bool) (result : Except JournalError (α × Site codec)) : Except StoreError α × Site codec :=
  match works,result with
  | false,_ => (.error .Io,site)
  | true,.error error => (.error (.Journal error),site)
  | true,.ok (answer,after) => (.ok answer,after)

def exec (S : StateCodec K) (id owner : Nat) : (op : HostOp codec) → Bool → Site codec → Option (HostAnswer op × Site codec)
  | .Prepare envelope,_,site => site.answered owner ((site.kernels owner).prepare envelope)
  | .Commit token appended_head,_,site => site.answered owner ((site.kernels owner).commit token appended_head)
  | .Abort token,_,site => site.answered owner (.ok ((site.kernels owner).abort token))
  | .CheckpointCandidate,_,site =>
    site.answered owner (((site.kernels owner).checkpoint_candidate S).map fun candidate => (candidate,site.kernels owner))
  | .NoteCheckpointAcked boundary,_,site => site.answered owner (.ok ((site.kernels owner).note_checkpoint_acked boundary))
  | .RestoreBytes checkpoint records,_,site => site.answered owner ((site.kernels owner).restore S checkpoint records)
  | .StageOutboundEnvelope envelope_json,works,site => some (site.stored works (.ok ((),site.setStaged id (some envelope_json))))
  | .ReadOutboundEnvelope,works,site => some (site.stored works (.ok (site.journal.outbound_envelope,site)))
  | .ClearOutboundEnvelope,works,site => some (site.stored works (.ok ((),site.setStaged id none)))
  | .CompareAndAppend expected_head record,works,site =>
    some (site.stored works ((site.journal.compare_and_append expected_head record).map fun (receipt,journal) =>
      (receipt,{ site with journal, appended := site.appended ++ [record] })))
  | .RecordsAfter after_head,works,site =>
    some (site.stored works ((site.journal.records_after after_head).map fun records => (records,site)))
  | .LatestCheckpoint,works,site => some (site.stored works (.ok (site.journal.latest_checkpoint,site)))
  | .CompareAndInstallCheckpoint previous_checkpoint_id covered_head checkpoint,works,site =>
    some (site.stored works ((site.journal.compare_and_install_checkpoint previous_checkpoint_id covered_head checkpoint).map
      fun (installed,journal) => (installed,{ site with journal })))
  | .AckCheckpoint checkpoint_id,works,site =>
    some (site.stored works ((site.journal.ack_checkpoint checkpoint_id).map fun (installed,journal) => (installed,{ site with journal })))
  | .PruneAckedPrefix,works,site =>
    let (receipt,journal) := site.journal.prune_acked_prefix
    some (site.stored works (.ok (receipt,{ site with journal })))

end Site

/-- The hosts on one journal. A crash leaves a host with a new kernel. -/
def hosts (codec : HostCodec K) (S : StateCodec K) (defaults : ConfigDefaults) : System (Site codec) (HostOp codec) HostAnswer Bool where
  exec := Site.exec S
  wipe owner site := site.setKernel owner (.new K defaults)

abbrev Hosted (codec : HostCodec K) := Program (HostOp codec) HostAnswer HostTransitionError

def call (op : HostOp codec) : Hosted codec (HostAnswer op) := Program.ask op

/-- A refusal of the kernel ends the call. -/
def accepted {α : Type} : Except KernelFault α → Hosted codec α
  | .ok value => .pure value
  | .error fault => .throw (.Rejected fault)

/-- A failure of the journal ends the call. -/
def durable {α : Type} : Except StoreError α → Hosted codec α
  | .ok value => .pure value
  | .error error => .throw (.Journal error)

def restore_typed : Hosted codec Unit := do
  let checkpoint ← durable (← call .LatestCheckpoint)
  let records ← durable (← call (.RecordsAfter (checkpoint.map fun installed => installed.covered_head)))
  accepted (← call (.RestoreBytes (checkpoint.map Installed.checkpoint) records))

/-- The installed checkpoint, or the one of a racing installer where it is the same. -/
def installed_or_won (candidate : KernelCheckpoint K) : Except StoreError (Installed K) → Hosted codec (Installed K)
  | .ok installed => .pure installed
  | .error error =>
    if error.is_retryable then do
      match ← durable (← call .LatestCheckpoint) with
      | some winner => if winner.checkpoint_id = codec.ack_token candidate then .pure winner else .throw (.Journal error)
      | none => .throw (.Journal error)
    else .throw (.Journal error)

/-- Install, acknowledge, reclaim. -/
def checkpoint_typed : Hosted codec (Installed K) := do
  let candidate ← accepted (← call .CheckpointCandidate)
  let previous ← durable (← call .LatestCheckpoint)
  let install ← call (.CompareAndInstallCheckpoint (previous.map fun installed => installed.checkpoint_id) candidate.boundary.covered_head
    candidate)
  let installed ← installed_or_won candidate install
  let _ ← durable (← call (.AckCheckpoint installed.checkpoint_id))
  let _ ← accepted (← call (.NoteCheckpointAcked candidate.boundary))
  let _ ← durable (← call .PruneAckedPrefix)
  return { installed with acknowledged := true }

/-- Another pass of the loop, while there are passes left. -/
def reconciled {α : Type} (again : Option (Hosted codec α)) (exhausted : HostTransitionError)
    (reconcile : Hosted codec Unit) : Hosted codec α :=
  match again with
  | none => .throw exhausted
  | some again => do
    reconcile
    again

variable (envelope : WireEnvelope)

/-- The record is durable: commit it, or rebuild from the journal where the kernel does not. -/
def commit_appended (token : PrepareToken) (record : KernelRecord K.codec) (receipt : JournalAppendReceipt) :
    Hosted codec CanonicalTransition := do
  match ← call (.Commit token record.record_digest) with
  | .error _ =>
    restore_typed
    .throw .RebuildRequired
  | .ok committed =>
    if committed.step_seq ≠ receipt.step_seq ∨ committed.record.record_digest ≠ receipt.record_digest then
      restore_typed
      .throw .RebuildRequired
    else if committed.checkpoint_advice.isSome then
      let _ ← checkpoint_typed
      return ⟨envelope,committed.step_seq,committed.record.record_digest,committed.step,true,false⟩
    else return ⟨envelope,committed.step_seq,committed.record.record_digest,committed.step,false,false⟩

def still_required (fault : KernelFault) : HostTransitionError :=
  .Other s!"canonical transition still requires a checkpoint after {MAX_TRANSITION_RECONCILIATIONS} reconciliations: {fault.message}"

/-- One pass of the loop. -/
def transition_pass (again : Option (Hosted codec CanonicalTransition)) : Hosted codec CanonicalTransition := do
  match ← call (.Prepare envelope) with
  | .Rejected fault =>
    if fault.code = .CheckpointRequired then
      reconciled again (still_required fault) (do let _ ← checkpoint_typed)
    else .throw (.Rejected fault)
  | .Replayed _ record_digest committed_step step_seq =>
    match committed_step with
    | none => .throw (.Other "canonical replay has no reproducible planned step")
    | some planned_step => return ⟨envelope,step_seq,record_digest,planned_step,false,true⟩
  | .Prepared token record _ =>
    match ← call (.CompareAndAppend record.previous_record_digest record) with
    | .ok receipt => commit_appended envelope token record receipt
    | .error error =>
      let _ ← accepted (← call (.Abort token))
      if error.is_retryable then reconciled again (.Journal error) restore_typed else .throw (.Journal error)

/-- The loop with this many reconciliations left. -/
def transition_within (envelope : WireEnvelope) : Nat → Hosted codec CanonicalTransition
  | 0 => transition_pass envelope none
  | left+1 => transition_pass envelope (some (transition_within envelope left))

def transition_typed : Hosted codec CanonicalTransition :=
  transition_within envelope MAX_TRANSITION_RECONCILIATIONS

/-- The transition of a staged envelope. The slot is cleared when the input is owned or refused, and kept
    behind any other failure. -/
def settle_staged : Hosted codec CanonicalTransition := do
  match ← (transition_typed envelope).attempt with
  | .ok transition =>
    durable (← call .ClearOutboundEnvelope)
    return transition
  | .error (.Rejected fault) =>
    durable (← call .ClearOutboundEnvelope)
    .throw (.Rejected fault)
  | .error .RebuildRequired =>
    durable (← call .ClearOutboundEnvelope)
    .throw .RebuildRequired
  | .error error => .throw error

def transition (operation_id : OperationId) (envelope : WireEnvelope) : Hosted codec CanonicalTransition :=
  if envelope.operation_id ≠ operation_id then .throw (.Other "canonical envelope operation_id does not match host operation_id")
  else
    match codec.write_envelope envelope with
    | .error error => .throw (.Other s!"canonical envelope is not serializable: {error}")
    | .ok staged => do
      durable (← call (.StageOutboundEnvelope staged))
      settle_staged envelope

/-- What a drain does with what it found in the slot. -/
def drain_found : Option codec.Text → Hosted codec (Option CanonicalTransition)
  | none => .pure none
  | some staged =>
    match codec.read_envelope staged with
    | .error error => .throw (.Other s!"staged canonical outbound envelope is malformed: {error}")
    | .ok envelope => do return some (← settle_staged envelope)

def drain_outbound_envelope : Hosted codec (Option CanonicalTransition) := do
  drain_found (← durable (← call .ReadOutboundEnvelope))

/-- The calls of a host. -/
inductive HostRequest where
  | Transition (envelope : WireEnvelope)
  | DrainOutboundEnvelope
  | Restore
  | Checkpoint
  deriving DecidableEq,Repr

inductive HostResponse (K : Parts) where
  | Transitioned (transition : CanonicalTransition)
  | Drained (transition : Option CanonicalTransition)
  | Restored
  | Checkpointed (installed : Installed K)

/-- The program of a call. -/
def answerTo (operation_id : OperationId) : HostRequest → Hosted codec (HostResponse K)
  | .Transition envelope => do return .Transitioned (← transition operation_id envelope)
  | .DrainOutboundEnvelope => do return .Drained (← drain_outbound_envelope)
  | .Restore => do
    restore_typed
    return .Restored
  | .Checkpoint => do return .Checkpointed (← checkpoint_typed)

abbrev HostCall (codec : HostCodec K) := Interleaving.Call HostRequest (HostOp codec) HostAnswer HostTransitionError (HostResponse K)

/-- The hosts of one operation and their calls. -/
abbrev Hosts (codec : HostCodec K) := Machine (Site codec) HostRequest (HostOp codec) HostAnswer HostTransitionError (HostResponse K)

end Deepstrike.CanonicalHost

import Deepstrike.Transaction

/-!
Checkpoints of one transaction, with the bounded tail they may carry: a logical state at a base, and
the inputs that lead from the base to the covered head. The partitions of the driver are a parameter,
and so are the canonical bytes.
-/
namespace Deepstrike.Checkpoints
open Wire Record Transaction

inductive CheckpointError where
  | Incompatible (message : String)
  | Corrupted (message : String)
  | NotCanonical (message : String)
  deriving DecidableEq,Repr

def CheckpointError.message : CheckpointError → String
  | .Incompatible message | .Corrupted message | .NotCanonical message => message

def CheckpointError.code : CheckpointError → KernelFaultCode
  | .Incompatible _ => .CheckpointIncompatible
  | .Corrupted _ => .CheckpointCorrupted
  | .NotCanonical _ => .MalformedEnvelope

def CheckpointError.code_label : CheckpointError → String
  | .Incompatible _ => "checkpoint_incompatible"
  | .Corrupted _ => "checkpoint_corrupted"
  | .NotCanonical _ => "malformed_envelope"

/-- The fault names the code of the rejection once more in its text. -/
def CheckpointError.fault (error : CheckpointError) : KernelFault :=
  ⟨error.code,s!"kernel checkpoint rejected ({error.code_label}): {error.message}"⟩

/-- One accepted input inside a bounded tail. -/
structure CanonicalInput where
  step_seq : Nat
  record_digest : Digest
  input : NormalizedInput
  deriving DecidableEq,Repr

/-- The logical state of an operation: the transaction's partition, and those of the driver. -/
structure LogicalState (P : Type) where
  transition : TransitionState
  driver : P

structure CheckpointDraft (P : Type) where
  operation_id : OperationId
  genesis_digest : Digest
  base_step_seq : Nat
  base_record_digest : Digest
  through_step_seq : Nat
  covered_transaction_head_digest : Digest
  logical_state : LogicalState P
  tail_inputs : List CanonicalInput

structure KernelCheckpoint (P : Type) extends CheckpointDraft P where
  state_digest : Digest
  tail_digest : Digest
  checkpoint_digest : Digest

/-- Canonical bytes of a checkpoint: the check of its message bodies, and its three digests. -/
structure CheckpointCodec (P : Type) where
  validate_durable_message_bodies : P → Except CheckpointError Unit
  state_digest : LogicalState P → Except CheckpointError Digest
  tail_digest : List CanonicalInput → Except CheckpointError Digest
  body_digest : CheckpointDraft P → Digest → Digest → Except CheckpointError Digest

/-- The walk over a bounded tail. -/
def check_entries (operation_id : OperationId) (base_step_seq through_step_seq : Nat) : Nat → List CanonicalInput →
    Except CheckpointError Unit
  | _,[] => .ok ()
  | offset,entry :: rest =>
    let want := base_step_seq+offset+1
    if entry.step_seq ≠ want then
      .error (.Corrupted s!"checkpoint {operation_id} bounded tail is not the contiguous range ({base_step_seq}, {through_step_seq}]: position {offset} is step {entry.step_seq} where step {want} was due")
    else if entry.input.operation_id ≠ operation_id then
      .error (.Incompatible s!"checkpoint {operation_id} bounded tail carries an input of operation {entry.input.operation_id} at step {entry.step_seq}")
    else check_entries operation_id base_step_seq through_step_seq (offset+1) rest

/-- The bounded tail covers `(base_step_seq, through_step_seq]` exactly. -/
def check_tail (operation_id : OperationId) (base_step_seq : Nat) (base_record_digest : Digest) (through_step_seq : Nat)
    (covered_transaction_head_digest : Digest) (tail_inputs : List CanonicalInput) : Except CheckpointError Unit := do
  if through_step_seq < base_step_seq then
    .error (.Corrupted s!"checkpoint {operation_id} bases at step {base_step_seq} but covers only through {through_step_seq}")
  else if base_step_seq = through_step_seq ∧ base_record_digest ≠ covered_transaction_head_digest then
    .error (.Corrupted s!"checkpoint {operation_id} covers no tail, so its base {base_record_digest} and its covered head {covered_transaction_head_digest} name the same record — but they differ")
  else if tail_inputs.length ≠ through_step_seq - base_step_seq then
    .error (.Corrupted s!"checkpoint {operation_id} covers ({base_step_seq}, {through_step_seq}] — {through_step_seq - base_step_seq} inputs — but its bounded tail holds {tail_inputs.length}")
  else
    check_entries operation_id base_step_seq through_step_seq 0 tail_inputs
    match tail_inputs.getLast? with
    | some last =>
      if last.record_digest ≠ covered_transaction_head_digest then
        .error (.Corrupted s!"checkpoint {operation_id} claims covered head {covered_transaction_head_digest}, but its bounded tail ends at {last.record_digest} on step {last.step_seq}")
      else .ok ()
    | none => .ok ()

namespace KernelCheckpoint
variable {P : Type} (S : CheckpointCodec P)

def checked (draft : CheckpointDraft P) : Except CheckpointError Unit := do
  S.validate_durable_message_bodies draft.logical_state.driver
  check_tail draft.operation_id draft.base_step_seq draft.base_record_digest draft.through_step_seq
    draft.covered_transaction_head_digest draft.tail_inputs

def assemble (draft : CheckpointDraft P) : Except CheckpointError (KernelCheckpoint P) := do
  checked S draft
  let state_digest ← S.state_digest draft.logical_state
  let tail_digest ← S.tail_digest draft.tail_inputs
  let checkpoint_digest ← S.body_digest draft state_digest tail_digest
  .ok ⟨draft,state_digest,tail_digest,checkpoint_digest⟩

/-- The prefix an ack of this checkpoint may reclaim. -/
def boundary (checkpoint : KernelCheckpoint P) : CheckpointBoundary :=
  ⟨checkpoint.through_step_seq,checkpoint.covered_transaction_head_digest⟩

/-- Recompute every digest, and check the tail again. -/
def verify (checkpoint : KernelCheckpoint P) : Except CheckpointError Unit := do
  let place := s!"checkpoint {checkpoint.operation_id} through step {checkpoint.through_step_seq}"
  checked S checkpoint.toCheckpointDraft
  let state_digest ← S.state_digest checkpoint.logical_state
  if state_digest ≠ checkpoint.state_digest then
    .error (.Corrupted s!"{place}: the logical state hashes to {state_digest}, but the checkpoint claims {checkpoint.state_digest}")
  else
    let tail_digest ← S.tail_digest checkpoint.tail_inputs
    if tail_digest ≠ checkpoint.tail_digest then
      .error (.Corrupted s!"{place}: the bounded tail hashes to {tail_digest}, but the checkpoint claims {checkpoint.tail_digest}")
    else
      let checkpoint_digest ← S.body_digest checkpoint.toCheckpointDraft checkpoint.state_digest checkpoint.tail_digest
      if checkpoint_digest ≠ checkpoint.checkpoint_digest then
        .error (.Corrupted s!"{place}: the body hashes to {checkpoint_digest}, but the checkpoint claims {checkpoint.checkpoint_digest}")
      else .ok ()

end KernelCheckpoint

section
variable {P D Step : Type} {C : Codec Step} (S : CheckpointCodec P)

/-- The tail entry of a durable record. -/
def CanonicalInput.from_record (record : KernelRecord C) : Except CheckpointError CanonicalInput := do
  let input ← record.normalized_input.mapError fun error => .NotCanonical error.message
  .ok ⟨record.step_seq,record.record_digest,input⟩

variable (tx : KernelTransaction C)

/-- The inputs the tail still carries: what lies above the last acknowledged checkpoint. -/
def tail_inputs : List CanonicalInput :=
  tx.tail.map fun entry => ⟨entry.step_seq,entry.record_digest,entry.input⟩

def require_head : Except KernelFault ChainAnchor :=
  match tx.poison,tx.head with
  | some fault,_ => .error fault
  | none,some head => .ok head
  | none,none => .error ⟨.InvalidLifecycle,"an operation with no genesis record has no logical state to checkpoint"⟩

def require_operation : Except KernelFault OperationId :=
  match tx.operation_id with
  | some operation_id => .ok operation_id
  | none => .error ⟨.InvalidLifecycle,"an unbound operation has no logical state to checkpoint"⟩

def require_genesis : Except KernelFault Digest :=
  match tx.genesis_digest with
  | some genesis_digest => .ok genesis_digest
  | none => .error ⟨.InvalidLifecycle,"an operation with no genesis record has no identity to bind a checkpoint to"⟩

/-- A full-state checkpoint over the durable head: its base is its covered head, and its tail is
    empty. -/
def checkpoint_candidate (root_kind : Option RootKind) (focus : Option ExecutionFocus) (driver : P) :
    Except KernelFault (KernelCheckpoint P) := do
  let head ← require_head tx
  let operation_id ← require_operation tx
  let genesis_digest ← require_genesis tx
  let transition ← tx.transition_state root_kind focus
  (KernelCheckpoint.assemble S ⟨operation_id,genesis_digest,head.step_seq,head.record_digest,head.step_seq,head.record_digest,
    ⟨transition,driver⟩,[]⟩).mapError CheckpointError.fault

/-- An older logical state, with the inputs that carry it forward to the durable head. -/
def checkpoint_rebase (base : CheckpointBoundary) (base_state : LogicalState P) :
    Except KernelFault (KernelCheckpoint P) := do
  let head ← require_head tx
  if head.step_seq < base.through_step_seq then
    .error ⟨.CheckpointIncompatible,s!"a rebase bases at step {base.through_step_seq} but this journal's head is step {head.step_seq}"⟩
  else
    let tail := (tail_inputs tx).filter fun entry => base.through_step_seq < entry.step_seq
    if tail.length ≠ head.step_seq - base.through_step_seq then
      .error ⟨.CheckpointIncompatible,
      s!"a rebase over ({base.through_step_seq}, {head.step_seq}] needs {head.step_seq - base.through_step_seq} tail inputs, but this runtime's tail holds {tail.length} of them — the prefix it would rebase onto was already reclaimed"⟩
    else
      let operation_id ← require_operation tx
      let genesis_digest ← require_genesis tx
      (KernelCheckpoint.assemble S ⟨operation_id,genesis_digest,base.through_step_seq,base.covered_head,head.step_seq,head.record_digest,
        base_state,tail⟩).mapError CheckpointError.fault

/-- The self-check of a restore: the restored transaction projects to the state that was captured.
    The partitions of the driver are its planner's own. -/
def verify_restored_state (checkpoint : KernelCheckpoint P) : Except KernelFault Unit := do
  let state := checkpoint.logical_state
  let transition ← tx.transition_state state.transition.root_kind state.transition.focus
  let digest ← (S.state_digest ⟨transition,state.driver⟩).mapError CheckpointError.fault
  if digest ≠ checkpoint.state_digest then
    .error ⟨.CheckpointCorrupted,
    s!"the restored logical state hashes to {digest}, but the checkpoint at step {checkpoint.base_step_seq} captured {checkpoint.state_digest}; the restore would replay its tail onto a different history"⟩
  else .ok ()

variable [TransitionStep Step]

/-- Replay the bounded tail, each input against the digest of the record it produced. -/
def replay_tail (plan : Planner D Step) (tx : KernelTransaction C) : List CanonicalInput → EStateM Halt D (KernelTransaction C)
  | [] => pure tx
  | entry :: rest => do
    let tx ← tx.replay_committed entry.input entry.record_digest plan
    replay_tail plan tx rest

/-- The restore ladder: verify, restore the base, check the restored state, replay the tail, replay
    the records behind the checkpoint. -/
def restore_operation (checkpoint : KernelCheckpoint P) (records : List (KernelRecord C)) (defaults : ConfigDefaults)
    (index : RecordIndex C)
    (plan : Planner D Step) : EStateM Halt D (KernelTransaction C) := do
  MonadExcept.ofExcept (refuse ((checkpoint.verify S).mapError CheckpointError.fault))
  let tx := KernelTransaction.restore_from_checkpoint checkpoint.operation_id checkpoint.genesis_digest
    ⟨checkpoint.base_step_seq,checkpoint.base_record_digest⟩ checkpoint.logical_state.transition defaults index
  MonadExcept.ofExcept (refuse (verify_restored_state S tx checkpoint))
  let tx ← replay_tail plan tx checkpoint.tail_inputs
  KernelTransaction.replay_records plan (fun error => ⟨.RecordCorrupted,error.message⟩) tx records

end

end Deepstrike.Checkpoints

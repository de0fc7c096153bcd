import Deepstrike.Projection

/-!
The canonical kernel: one transaction and one driver. The driver is planned against in place, and
whenever a preparation does not end in a commit it is rebuilt from the projection that was taken
before. Checkpoints and the restore ladder stand on the same two halves.
-/
namespace Deepstrike.Kernel
open Wire Record Transaction Driver

/-- The full logical state of an operation. -/
structure LogicalKernelState (K : Parts) where
  transition : TransitionState
  driver : LogicalStateProjection K

inductive DriverRestorePoint (K : Parts) where
  | Fresh
  | Logical (state : LogicalKernelState K)

abbrev Preparation (K : Parts) := KernelPreparation K.codec

structure CanonicalKernel (K : Parts) where
  defaults : ConfigDefaults
  transaction : KernelTransaction K.codec
  driver : OperationDriver K
  before_candidate : Option (DriverRestorePoint K)

/-- The one action the host is shown. -/
inductive KernelProjection where
  | Idle
  | Action (effect : KernelEffect)
  | Terminal (terminal : KernelTerminal)
  deriving DecidableEq,Repr

/-- A call of the kernel: an error is an assertion of the core that does not hold. -/
abbrev Call (α : Type) := Except String α

variable {K : Parts}

namespace CanonicalKernel

def new (K : Parts) (defaults : ConfigDefaults) : CanonicalKernel K :=
  ⟨defaults,.new defaults ∅,.new K,none⟩

def head (kernel : CanonicalKernel K) : Option ChainAnchor := kernel.transaction.head
def lifecycle (kernel : CanonicalKernel K) : OperationLifecycle := kernel.transaction.lifecycle
def terminal (kernel : CanonicalKernel K) : Option KernelTerminal := kernel.transaction.terminal
def pending_effects_in_order (kernel : CanonicalKernel K) : List KernelEffect := kernel.transaction.pending_effects_in_order

def projection (kernel : CanonicalKernel K) : KernelProjection :=
  match kernel.terminal,kernel.pending_effects_in_order with
  | some terminal,_ => .Terminal terminal
  | none,effect :: _ => .Action effect
  | none,[] => .Idle

/-- The full logical state, as a restore point and a checkpoint take it. -/
def logical_state (transaction : KernelTransaction K.codec) (driver : OperationDriver K) :
    Call (Except KernelFault (LogicalKernelState K)) := do
  let projection ← project_logical_state driver
  pure do pure ⟨← transaction.transition_state projection.root_kind projection.focus,projection⟩

def capture_driver_restore_point (kernel : CanonicalKernel K) : Call (Except KernelFault (DriverRestorePoint K)) :=
  if kernel.transaction.config.isNone then .ok (.ok .Fresh)
  else do
    let state ← logical_state kernel.transaction kernel.driver
    pure (state.map .Logical)

def rebuild_driver : DriverRestorePoint K → Except KernelFault (OperationDriver K)
  | .Fresh => .ok (.new K)
  | .Logical state => restore_logical_state state.transition.resolved_config state.transition.pending_effects state.driver

/-- Plan one envelope and stage its record. A preparation that stages nothing restores the driver
    it may have advanced. -/
def prepare (kernel : CanonicalKernel K) (envelope : WireEnvelope) : Call (Preparation K × CanonicalKernel K) := do
  if kernel.before_candidate.isSome then
    let (preparation,transaction,driver) ← kernel.transaction.prepare K.resolve envelope plan kernel.driver
    return (preparation,{ kernel with transaction, driver })
  match ← kernel.capture_driver_restore_point with
  | .error fault => return (.Rejected fault,kernel)
  | .ok restore_point =>
    let (preparation,transaction,driver) ← kernel.transaction.prepare K.resolve envelope plan kernel.driver
    match preparation with
    | .Prepared .. => return (preparation,{ kernel with transaction, driver, before_candidate := some restore_point })
    | preparation =>
      match rebuild_driver restore_point with
      | .error fault => return (.Rejected fault,{ kernel with transaction, driver })
      | .ok driver => return (preparation,{ kernel with transaction, driver })

/-- A program of the driver, as an answer and the driver after it. -/
def settle {α : Type} (program : DriverProgram K α) (driver : OperationDriver K) : Call (Except KernelFault α × OperationDriver K) :=
  match program driver with
  | .ok value driver => .ok (.ok value,driver)
  | .error (.fault fault) driver => .ok (.error fault,driver)
  | .error (.panic site) _ => .error site

/-- Complete a transition whose record the host has appended. -/
def commit (kernel : CanonicalKernel K) (token : PrepareToken) (appended_head : Digest) :
    Call (Except KernelFault (CommittedTransition K.codec) × CanonicalKernel K) := do
  match kernel.transaction.commit token appended_head with
  | (.error fault,transaction) => return (.error fault,{ kernel with transaction })
  | (.ok committed,transaction) =>
    let (noted,driver) ← settle (note_committed committed.step_seq) kernel.driver
    return (noted.map fun _ => committed,{ kernel with transaction, driver, before_candidate := none })

/-- Discard a candidate that did not reach the journal, and restore the driver. -/
def abort (kernel : CanonicalKernel K) (token : PrepareToken) :
    Except KernelFault (KernelRecord K.codec) × CanonicalKernel K :=
  match kernel.transaction.abort token with
  | (.error fault,transaction) => (.error fault,{ kernel with transaction })
  | (.ok record,transaction) =>
    match kernel.before_candidate with
    | none =>
      (.error ⟨.TransactionConflict,"the transaction aborted a candidate but the canonical driver has no restore point"⟩,
        { kernel with transaction })
    | some restore_point =>
      match rebuild_driver restore_point with
      | .error fault => (.error fault,{ kernel with transaction, before_candidate := none })
      | .ok driver => (.ok record,{ kernel with transaction, driver, before_candidate := none })

end CanonicalKernel

/-- Canonical bytes of the logical state: the check of its message bodies, and its digest. -/
structure StateCodec (K : Parts) where
  validate : LogicalKernelState K → Except KernelFault Unit
  state_digest : LogicalKernelState K → Except KernelFault Digest

/-- A full-state checkpoint: it stands at the durable head, so its own tail is empty. -/
structure KernelCheckpoint (K : Parts) where
  operation_id : OperationId
  genesis_digest : Digest
  boundary : CheckpointBoundary
  logical_state : LogicalKernelState K
  state_digest : Digest

namespace KernelCheckpoint
variable (S : StateCodec K)

def assemble (operation_id : OperationId) (genesis_digest : Digest) (boundary : CheckpointBoundary) (state : LogicalKernelState K) :
    Except KernelFault (KernelCheckpoint K) := do
  S.validate state
  pure ⟨operation_id,genesis_digest,boundary,state,← S.state_digest state⟩

def verify (checkpoint : KernelCheckpoint K) : Except KernelFault Unit := do
  S.validate checkpoint.logical_state
  let digest ← S.state_digest checkpoint.logical_state
  if digest ≠ checkpoint.state_digest then
    .error ⟨.CheckpointCorrupted,
    s!"checkpoint {checkpoint.operation_id} through step {checkpoint.boundary.through_step_seq}: the logical state hashes to {digest}, but the checkpoint claims {checkpoint.state_digest}"⟩
  else .ok ()

end KernelCheckpoint

/-- The self-check of a restore: the state that came back hashes to the state that was captured. -/
def verify_restored_state (S : StateCodec K) (transaction : KernelTransaction K.codec) (driver : OperationDriver K)
    (checkpoint : KernelCheckpoint K) : Call (Except KernelFault Unit) := do
  let reprojected ← CanonicalKernel.logical_state transaction driver
  pure do
    let digest ← S.state_digest (← reprojected)
    if digest ≠ checkpoint.state_digest then
      .error ⟨.CheckpointCorrupted,
      s!"the restored logical state hashes to {digest}, but the checkpoint at step {checkpoint.boundary.through_step_seq} captured {checkpoint.state_digest}; the restore would replay its tail onto a different history"⟩
    else .ok ()

/-- The two halves of a checkpoint, before its own check. -/
def restore_halves (checkpoint : KernelCheckpoint K) (defaults : ConfigDefaults) (index : RecordIndex K.codec) :
    Except KernelFault (KernelTransaction K.codec × OperationDriver K) := do
  let transition := checkpoint.logical_state.transition
  let driver ← restore_logical_state transition.resolved_config transition.pending_effects checkpoint.logical_state.driver
  pure (.restore_from_checkpoint checkpoint.operation_id checkpoint.genesis_digest checkpoint.boundary transition defaults index,driver)

/-- The records behind a checkpoint are folded like any others; one that does not decode is
    corruption. -/
def fold_records (transaction : KernelTransaction K.codec) (records : List (KernelRecord K.codec)) :
    DriverProgram K (KernelTransaction K.codec) :=
  KernelTransaction.replay_records fold (fun error => ⟨.RecordCorrupted,error.message⟩) transaction records

def restore_operation (S : StateCodec K) (checkpoint : Option (KernelCheckpoint K)) (records : List (KernelRecord K.codec))
    (defaults : ConfigDefaults) (index : RecordIndex K.codec) :
    Call (Except KernelFault (KernelTransaction K.codec) × OperationDriver K) :=
  match checkpoint with
  | none => CanonicalKernel.settle (KernelTransaction.rebuild_from_records records defaults index fold) (.new K)
  | some checkpoint =>
    match KernelCheckpoint.verify S checkpoint,restore_halves checkpoint defaults index with
    | .error fault,_ | .ok _,.error fault => .ok (.error fault,.new K)
    | .ok _,.ok (transaction,driver) => do
      match ← verify_restored_state S transaction driver checkpoint with
      | .error fault => pure (.error fault,driver)
      | .ok _ => CanonicalKernel.settle (fold_records transaction records) driver

namespace CanonicalKernel
variable (S : StateCodec K)

/-- A checkpoint of the current durable head. -/
def checkpoint_candidate (kernel : CanonicalKernel K) : Call (Except KernelFault (KernelCheckpoint K)) := do
  let state ← logical_state kernel.transaction kernel.driver
  let tx := kernel.transaction
  match tx.poison,tx.checkpoint_boundary,tx.operation_id,tx.genesis_digest with
  | some fault,_,_,_ => pure (.error fault)
  | none,none,_,_ => pure (.error ⟨.InvalidLifecycle,"an operation with no genesis record has no logical state to checkpoint"⟩)
  | none,some _,none,_ => pure (.error ⟨.InvalidLifecycle,"an unbound operation has no logical state to checkpoint"⟩)
  | none,some _,some _,none =>
    pure (.error ⟨.InvalidLifecycle,"an operation with no genesis record has no identity to bind a checkpoint to"⟩)
  | none,some boundary,some operation_id,some genesis_digest =>
    pure do KernelCheckpoint.assemble S operation_id genesis_digest boundary (← state)

def note_checkpoint_acked (kernel : CanonicalKernel K) (boundary : CheckpointBoundary) : Except KernelFault TailUsage × CanonicalKernel K :=
  let (usage,transaction) := kernel.transaction.note_checkpoint_acked boundary
  (usage,{ kernel with transaction })

/-- Rebuild this handle from a checkpoint and the records above it, or from the whole journal. A
    restore that fails leaves the handle alone. -/
def restore (kernel : CanonicalKernel K) (checkpoint : Option (KernelCheckpoint K)) (records : List (KernelRecord K.codec)) :
    Call (Except KernelFault Unit × CanonicalKernel K) := do
  match ← restore_operation S checkpoint records kernel.defaults (RecordIndex.from_records records) with
  | (.error fault,_) => return (.error fault,kernel)
  | (.ok transaction,driver) => return (.ok (),{ kernel with transaction, driver, before_candidate := none })

end CanonicalKernel

end Deepstrike.Kernel

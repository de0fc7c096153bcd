import Deepstrike.Wire

/-!
The durable record: one accepted input, its position in the chain and the digest of the step it
planned. Canonical bytes and the hash are parameters of the layer.
-/
namespace Deepstrike.Record
open Wire

inductive RecordError where
  | NotCanonical (message : String)
  | ChainBroken (message : String)
  | DigestMismatch (message : String)
  deriving DecidableEq,Repr

def RecordError.message : RecordError → String
  | .NotCanonical message | .ChainBroken message | .DigestMismatch message => message

def RecordError.code : RecordError → KernelFaultCode
  | .NotCanonical _ => .MalformedEnvelope
  | .ChainBroken _ => .TransactionConflict
  | .DigestMismatch _ => .RecordCorrupted

def record_fault (error : RecordError) : KernelFault := ⟨error.code,error.message⟩

/-- A stored chain that does not verify is corruption, not a misplaced input. -/
def corrupt_chain_fault : RecordError → KernelFault
  | .ChainBroken message => ⟨.RecordCorrupted,message⟩
  | other => record_fault other

/-- Canonical bytes and hashing. Encoding can refuse a value (a number outside the canonical
    range); decoding is the JSON library's. -/
structure Codec (Step : Type) where
  Bytes : Type
  [bytesEq : DecidableEq Bytes]
  encode_input : NormalizedInput → Except RecordError Bytes
  decode_input : Bytes → Except RecordError NormalizedInput
  bytes_len : Bytes → Nat
  input_digest : Bytes → Digest
  step_digest : Step → Except RecordError Digest
  body_digest : OperationId → InputId → Nat → Option Digest → Bytes → Digest → Digest → Except RecordError Digest
  /-- The size of the journal form of a record with this body. -/
  record_len : OperationId → InputId → Nat → Option Digest → Bytes → Digest → Digest → Digest → Nat
  outcome_digest : EffectOutcome → Except RecordError Digest
  cancel_digest : CancellationReason → List CallId → Except RecordError Digest

instance {Step : Type} (C : Codec Step) : DecidableEq C.Bytes := C.bytesEq

/-- The one fact about the JSON library that replay rests on: it decodes what it encoded. -/
def Codec.RoundTrips {Step : Type} (C : Codec Step) : Prop :=
  ∀ input bytes, C.encode_input input = .ok bytes → C.decode_input bytes = .ok input

structure ChainAnchor where
  operation_id : OperationId
  step_seq : Nat
  record_digest : Digest
  deriving DecidableEq,Repr

structure KernelRecord {Step : Type} (C : Codec Step) where
  operation_id : OperationId
  input_id : InputId
  step_seq : Nat
  previous_record_digest : Option Digest
  canonical_input : C.Bytes
  input_digest : Digest
  step_digest : Digest
  record_digest : Digest
  deriving DecidableEq

variable {Step : Type} {C : Codec Step} (record : KernelRecord C)

def KernelRecord.anchor : ChainAnchor :=
  ⟨record.operation_id,record.step_seq,record.record_digest⟩
def KernelRecord.is_genesis : Bool := record.previous_record_digest.isNone
def KernelRecord.normalized_input : Except RecordError NormalizedInput :=
  C.decode_input record.canonical_input
def KernelRecord.record_len (record : KernelRecord C) : Nat :=
  C.record_len record.operation_id record.input_id record.step_seq record.previous_record_digest record.canonical_input
    record.input_digest record.step_digest record.record_digest

/-- The largest value of a `u64`. -/
def u64Max : Nat := 2 ^ 64 - 1

/-- Where the next record of a chain stands: its sequence and the digest it links to. -/
def chain_position (previous : Option ChainAnchor) (input : NormalizedInput) : Except RecordError (Nat × Option Digest) :=
  match previous with
  | none =>
    if input.is_genesis then .ok (0,none)
    else .error (.ChainBroken s!"an operation's first record must be its resolved configuration, got {input.input.kind}")
  | some head =>
    if input.is_genesis then
      .error (.ChainBroken "an operation is configured exactly once; a second configure_operation has no position in the chain")
    else if head.operation_id ≠ input.operation_id then
      .error (.ChainBroken s!"input belongs to operation {input.operation_id}, but the chain head belongs to {head.operation_id}")
    else if u64Max ≤ head.step_seq then .error (.ChainBroken "step sequence overflowed u64")
    else .ok (head.step_seq+1,some head.record_digest)

def chain_after (previous : Option ChainAnchor) (input : NormalizedInput) (planned_step : Step) :
    Except RecordError (KernelRecord C) := do
  let (step_seq,previous_record_digest) ← chain_position previous input
  let canonical_input ← C.encode_input input
  let input_digest := C.input_digest canonical_input
  let step_digest ← C.step_digest planned_step
  let record_digest ← C.body_digest input.operation_id input.input_id step_seq previous_record_digest
    canonical_input input_digest step_digest
  .ok ⟨input.operation_id,input.input_id,step_seq,previous_record_digest,canonical_input,input_digest,
    step_digest,record_digest⟩

/-- Recompute a record's own digests from the bytes it carries. -/
def KernelRecord.verify : Except RecordError Unit := do
  let input_digest := C.input_digest record.canonical_input
  if input_digest ≠ record.input_digest then
    .error (.DigestMismatch s!"record {record.operation_id} step {record.step_seq}: canonical input hashes to {input_digest}, but the record claims {record.input_digest}")
  else
    let record_digest ← C.body_digest record.operation_id record.input_id record.step_seq
      record.previous_record_digest record.canonical_input record.input_digest record.step_digest
    if record_digest ≠ record.record_digest then
      .error (.DigestMismatch s!"record {record.operation_id} step {record.step_seq}: body hashes to {record_digest}, but the record claims {record.record_digest}")
    else .ok ()

/-- Verify a rebuilt step against the digest the record froze. -/
def KernelRecord.verify_step (planned_step : Step) : Except RecordError Unit := do
  let digest ← C.step_digest planned_step
  if digest ≠ record.step_digest then
    .error (.DigestMismatch s!"record {record.operation_id} step {record.step_seq}: the rebuilt step hashes to {digest}, but the record froze {record.step_digest}")
  else .ok ()

def KernelRecord.verify_follows (previous : Option (KernelRecord C)) :
    Except RecordError Unit := do
  record.verify
  match previous,record.previous_record_digest with
  | none,none =>
    if record.step_seq ≠ 0 then .error (.ChainBroken s!"a genesis record is step 0, got step {record.step_seq}")
    else
      let input ← record.normalized_input
      if input.is_genesis then .ok ()
      else .error (.ChainBroken "a genesis record must carry the resolved configuration")
  | none,some digest =>
    .error (.ChainBroken s!"record {record.operation_id} step {record.step_seq} expects head {digest}, but the operation has no head")
  | some before,none =>
    .error (.ChainBroken s!"record {record.operation_id} step {record.step_seq} claims to be a genesis, but the operation head is {before.record_digest}")
  | some before,some digest =>
    if before.operation_id ≠ record.operation_id then
      .error (.ChainBroken s!"record belongs to operation {record.operation_id}, its predecessor to {before.operation_id}")
    else if digest ≠ before.record_digest then
      .error (.ChainBroken s!"record {record.operation_id} step {record.step_seq} expects head {digest}, but the head is {before.record_digest}")
    else if before.step_seq+1 ≠ record.step_seq then
      .error (.ChainBroken s!"record {record.operation_id} is step {record.step_seq}, but its predecessor is step {before.step_seq}")
    else .ok ()

/-- The walk of `verify_record_chain` behind a verified predecessor. -/
def verify_chain_from (previous : Option (KernelRecord C)) : List (KernelRecord C) → Except RecordError Unit
  | [] => .ok ()
  | record :: rest => do
    record.verify_follows previous
    verify_chain_from (some record) rest

def verify_record_chain : List (KernelRecord C) → Except RecordError Digest
  | [] => .error (.ChainBroken "an operation chain starts at its genesis record; this one is empty")
  | genesis :: rest => do
    verify_chain_from none (genesis :: rest)
    .ok genesis.record_digest

end Deepstrike.Record

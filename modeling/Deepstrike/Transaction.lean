import Deepstrike.OrderedMaps
import Deepstrike.Record

/-!
The durable transition protocol: prepare, compare-and-append, commit. The transaction is generic
in the planned step, and the planner is a program over a state of its own, which it may have
advanced also where it refuses.
-/
namespace Deepstrike.Transaction
open Wire Record OrderedMaps MonadExcept

/-- The two ways a planner stops without a step: a structured refusal, or an assertion of the
    core that does not hold. -/
inductive Halt where
  | fault (fault : KernelFault)
  | panic (site : String)
  deriving DecidableEq,Repr

/-- What the transaction reads of a planned step. -/
class TransitionStep (Step : Type) where
  effects : Step → List KernelEffect
  terminal : Step → Option KernelTerminal

structure PlanContext where
  input : NormalizedInput
  step_seq : Nat
  previous_head : Option Digest
  config : ResolvedOperationConfig
  resolving : Option KernelEffect
  pending : List KernelEffect
  deriving DecidableEq,Repr

/-- A planner over the state `D`. -/
abbrev Planner (D Step : Type) := PlanContext → EStateM Halt D Step

section
variable {Step : Type} (C : Codec Step)

/-- `InMemoryRecordIndex`: the record each accepted input of an operation produced. -/
abbrev RecordIndex := Std.ExtTreeMap (OperationId × InputId) (KernelRecord C) pairCmp

variable {C}

def RecordIndex.record_for_input (index : RecordIndex C) (operation_id : OperationId) (input_id : InputId) :
    Option (KernelRecord C) := index[(operation_id,input_id)]?
def RecordIndex.note_committed (index : RecordIndex C) (record : KernelRecord C) : RecordIndex C :=
  index.insert (record.operation_id,record.input_id) record
def RecordIndex.from_records (records : List (KernelRecord C)) : RecordIndex C :=
  records.foldl RecordIndex.note_committed ∅

variable (C)

inductive KernelPreparation where
  | Prepared (token : PrepareToken) (record : KernelRecord C) (planned_step : Step)
  | Replayed (record : Option (KernelRecord C)) (record_digest : Digest) (committed_step : Option Step) (step_seq : Nat)
  | Rejected (fault : KernelFault)

structure Candidate where
  token : PrepareToken
  record : KernelRecord C
  step : Step
  input : NormalizedInput
  record_bytes : Nat

structure TailEntry where
  step_seq : Nat
  record_digest : Digest
  bytes : Nat
  input : NormalizedInput
  deriving DecidableEq,Repr

structure AcceptedInputState where
  input_id : InputId
  step_seq : Nat
  record_digest : Digest
  deriving DecidableEq,Repr

structure ResolvedEffectRecord where
  outcome_digest : Digest
  input_id : InputId
  step_seq : Nat
  deriving DecidableEq,Repr

structure AcceptedCancellation where
  command_digest : Digest
  input_id : InputId
  step_seq : Nat
  deriving DecidableEq,Repr

structure TailUsage where
  records : Nat
  bytes : Nat
  deriving DecidableEq,Repr

inductive TailPressure where
  | Nominal | Watermark | Full
  deriving DecidableEq,Repr

structure CheckpointAdvice where
  through_step_seq : Nat
  usage : TailUsage
  bounds : TailBounds
  deriving DecidableEq,Repr

structure CommittedTransition where
  record : KernelRecord C
  step : Step
  step_seq : Nat
  checkpoint_advice : Option CheckpointAdvice

structure CheckpointBoundary where
  through_step_seq : Nat
  covered_head : Digest
  deriving DecidableEq,Repr

/-- What a checkpoint keeps of the transaction. -/
structure TransitionState where
  lifecycle : OperationLifecycle
  resolved_config : ResolvedOperationConfig
  root_kind : Option RootKind
  focus : Option ExecutionFocus
  last_observed_at_ms : Nat
  pending_effects : List KernelEffect
  resolved_effects : List (EffectId × ResolvedEffectRecord)
  launch_tokens : List (LaunchToken × Nat)
  accepted_inputs : List AcceptedInputState
  accepted_cancellation : Option AcceptedCancellation
  terminal : Option KernelTerminal
  deriving DecidableEq,Repr

/-- What stands behind the last occurrence of a pattern. -/
def afterLast (pattern : List Char) : List Char → Option (List Char)
  | [] => none
  | char :: rest =>
    (afterLast pattern rest).or
      (if pattern.isPrefixOf (char :: rest) then some ((char :: rest).drop pattern.length) else none)

/-- A decimal `u64`, with the sign its parser admits. -/
def parse_u64 (text : List Char) : Option Nat :=
  let digits := match text with
    | '+' :: rest => rest
    | digits => digits
  let value := digits.foldl (fun value digit => 10*value+(digit.toNat - '0'.toNat)) 0
  if digits.isEmpty || !digits.all Char.isDigit || decide (u64Max < value) then none else some value

/-- The position of an effect in the publication order: its step, its index in the step, its id.
    An id the kernel did not mint comes last. -/
def effect_position (id : EffectId) : Nat × Nat × EffectId :=
  let step := do
    let rest ← afterLast ":step:".toList id.toList
    if ':' ∈ rest then parse_u64 (rest.takeWhile (· ≠ ':')) else none
  let index := (afterLast ":effect:".toList id.toList).bind parse_u64
  (step.getD u64Max,index.getD u64Max,id)

def publishedBefore (left right : EffectId) : Bool :=
  let (left_step,left_index,left) := effect_position left
  let (right_step,right_index,right) := effect_position right
  decide (left_step < right_step) || (left_step == right_step &&
    (decide (left_index < right_index) || (left_index == right_index && decide (left ≤ right))))

/-- One operation, one candidate slot, and the fold of the journal that the next transition
    needs. The terminal slot is written once. -/
structure KernelTransaction where
  defaults : ConfigDefaults
  bounds : TailBounds
  index : RecordIndex C
  operation_id : Option OperationId
  genesis_digest : Option Digest
  config : Option ResolvedOperationConfig
  head : Option ChainAnchor
  lifecycle : OperationLifecycle
  terminal : Option KernelTerminal
  candidate : Option (Candidate C)
  prepare_epoch : Nat
  last_observed_at_ms : Nat
  steps : OrdMap Step
  accepted : OrdMap AcceptedInputState
  replay_floor : Option Nat
  pending_effects : OrdMap KernelEffect
  resolved_effects : OrdMap ResolvedEffectRecord
  launch_tokens : OrdMap Nat
  accepted_cancellation : Option AcceptedCancellation
  tail : List TailEntry
  poison : Option KernelFault

variable {C}

/-- A structured refusal, as a halt. -/
def refuse {α : Type} : Except KernelFault α → Except Halt α
  | .ok value => .ok value
  | .error fault => .error (.fault fault)

namespace KernelTransaction

/-- A transaction with no journal yet, on the bootstrap tail bound of the binary. -/
def new (defaults : ConfigDefaults) (index : RecordIndex C) : KernelTransaction C where
  defaults := defaults
  bounds := defaults.tail_bounds
  index := index
  operation_id := none
  genesis_digest := none
  config := none
  head := none
  lifecycle := .Created
  terminal := none
  candidate := none
  prepare_epoch := 0
  last_observed_at_ms := 0
  steps := ∅
  accepted := ∅
  replay_floor := none
  pending_effects := ∅
  resolved_effects := ∅
  launch_tokens := ∅
  accepted_cancellation := none
  tail := []
  poison := none

variable (tx : KernelTransaction C)

def tail_records : Nat := tx.tail.length
def tail_bytes : Nat := (tx.tail.map TailEntry.bytes).sum
def tail_usage : TailUsage := ⟨tx.tail_records,tx.tail_bytes⟩
def tail_pressure : TailPressure :=
  let usage := tx.tail_usage
  if tx.bounds.hard_records ≤ usage.records ∨ tx.bounds.hard_bytes ≤ usage.bytes then .Full
  else if tx.bounds.soft_records ≤ usage.records ∨ tx.bounds.soft_bytes ≤ usage.bytes then .Watermark
  else .Nominal

/-- The guards every prepare runs before it looks at the input. -/
def check_preparable (operation_id : OperationId) : Except KernelFault Unit :=
  match tx.poison,tx.candidate,tx.operation_id with
  | some fault,_,_ => .error fault
  | none,some candidate,_ =>
    .error ⟨.TransactionConflict,
    s!"transaction candidate {candidate.token} is still outstanding at step {candidate.record.step_seq}; commit or abort it before preparing another input"⟩
  | none,none,some bound =>
    if bound ≠ operation_id then
      .error ⟨.OperationMismatch,s!"input belongs to operation {operation_id}, but this runtime is bound to {bound}"⟩
    else .ok ()
  | none,none,none => .ok ()

def next_step_seq : Except KernelFault Nat :=
  match tx.head with
  | none => .ok 0
  | some head =>
    if u64Max ≤ head.step_seq then .error ⟨.ResourceLimitExceeded,"step sequence overflowed u64"⟩
    else .ok (head.step_seq+1)

def checkpoint_required (detail : String) : KernelFault :=
  ⟨.CheckpointRequired,s!"{detail}; take a checkpoint candidate, install and ack it, then retry this input unchanged — it was never accepted"⟩

def below_replay_floor (step_seq : Nat) : Bool :=
  match tx.replay_floor with
  | some floor => decide (step_seq ≤ floor)
  | none => false

/-- The answer for a record the journal already holds. -/
def replay_of (existing : KernelRecord C) : Except KernelFault (KernelPreparation C) :=
  match tx.steps[existing.input_id]? with
  | some step => do
    (existing.verify_step step).mapError record_fault
    .ok (.Replayed (some existing) existing.record_digest (some step) existing.step_seq)
  | none =>
    if tx.below_replay_floor existing.step_seq then
      .ok (.Replayed (some existing) existing.record_digest none existing.step_seq)
    else
      .error ⟨.RecordCorrupted,
      s!"the journal holds record {existing.record_digest} at step {existing.step_seq} for input {existing.input_id}, but this runtime has not replayed it and cannot reproduce its step; rebuild from the journal first"⟩

/-- The ledger's own answer, for an input whose record is gone. -/
def replay_by_reference (entry : AcceptedInputState) : KernelPreparation C :=
  .Replayed none entry.record_digest none entry.step_seq

def kernel_outcome_digest (outcome : EffectOutcome) : Except KernelFault Digest :=
  (C.outcome_digest outcome).mapError record_fault
def kernel_cancel_digest (reason : CancellationReason) (calls : List CallId) : Except KernelFault Digest :=
  (C.cancel_digest reason calls).mapError record_fault

/-- The record that answers a duplicate. The operation is bound by its genesis; the source
    asserts it here. -/
def existing_record (input_id : InputId) : Except Halt (Option (KernelRecord C)) :=
  match tx.operation_id with
  | none => .error (.panic "bound by the genesis")
  | some operation_id => .ok (RecordIndex.record_for_input tx.index operation_id input_id)

/-- Effect-level dedup. `none` means the resolution is new and legal. -/
def resolve_effect_guard (effect_id : EffectId) (outcome : EffectOutcome) :
    Except Halt (Option (KernelPreparation C)) := do
  let digest ← refuse (kernel_outcome_digest (C := C) outcome)
  match tx.resolved_effects[effect_id]? with
  | some resolved =>
    if resolved.outcome_digest ≠ digest then
      .error (.fault ⟨.UnexpectedEffectOutcome,
      s!"effect {effect_id} was already resolved at step {resolved.step_seq} with a different outcome"⟩)
    else match ← tx.existing_record resolved.input_id with
      | none =>
        .error (.fault ⟨.RecordCorrupted,
        s!"effect {effect_id} is resolved by input {resolved.input_id} at step {resolved.step_seq}, but the journal has no such record"⟩)
      | some existing => some <$> refuse (tx.replay_of existing)
  | none =>
    match tx.pending_effects[effect_id]? with
    | none => .error (.fault ⟨.UnexpectedEffectOutcome,s!"effect {effect_id} is not pending; the kernel is not waiting on it"⟩)
    | some pending =>
      match pending.accept_outcome outcome with
      | .error message => .error (.fault ⟨.UnexpectedEffectOutcome,message⟩)
      | .ok () => .ok none

/-- Dedup of a cancellation this operation already accepted. -/
def cancel_guard (reason : CancellationReason) (calls : List CallId) :
    Except Halt (Option (KernelPreparation C)) :=
  match tx.accepted_cancellation with
  | none => .ok none
  | some accepted => do
    let digest ← refuse (kernel_cancel_digest (C := C) reason calls)
    if accepted.command_digest ≠ digest then
      .error (.fault ⟨.DuplicateInputConflict,
      s!"this operation committed a different cancellation at step {accepted.step_seq}; a cancel is not re-decided once the terminal it produced exists"⟩)
    else match ← tx.existing_record accepted.input_id with
      | none =>
        .error (.fault ⟨.RecordCorrupted,
        s!"this operation was cancelled by input {accepted.input_id} at step {accepted.step_seq}, but the journal has no such record"⟩)
      | some existing => some <$> refuse (tx.replay_of existing)

variable (input : NormalizedInput)

/-- The dedup branches an input class has of its own: a cancellation before the lifecycle check,
    a resolution after it. -/
def duplicate_guard : Except Halt (Option (KernelPreparation C)) :=
  match input.input with
  | .HostControl (.Cancel reason calls) => tx.cancel_guard reason calls
  | _ => .ok none
def resolution_guard : Except Halt (Option (KernelPreparation C)) :=
  match input.input with
  | .ResolveEffect effect_id outcome => tx.resolve_effect_guard effect_id outcome
  | _ => .ok none

/-- The effects that stay outstanding once an input settles its own. -/
def outstanding (settled : Option EffectId) : List KernelEffect :=
  (values tx.pending_effects).filter fun effect => some effect.effect_id ≠ settled

/-- What the planner is given. -/
def plan_context (step_seq : Nat) (config : ResolvedOperationConfig) :
    PlanContext where
  input := input
  step_seq := step_seq
  previous_head := tx.head.map ChainAnchor.record_digest
  config := config
  resolving := input.settles.bind fun effect_id => tx.pending_effects[effect_id]?
  pending := tx.outstanding input.settles

/-- An input passes the guards in front of the planner, or it is answered without planning. -/
inductive Admission (C : Codec Step) where
  | answered (preparation : KernelPreparation C)
  | planned (context : PlanContext)

/-- `prepare_normalized_inner` up to the call of the planner. -/
def admissionOf : Except Halt (Admission C) := do
  refuse (tx.check_preparable input.operation_id)
  let canonical_input ← refuse ((C.encode_input input).mapError record_fault)
  match RecordIndex.record_for_input tx.index input.operation_id input.input_id with
  | some existing =>
    if existing.canonical_input ≠ canonical_input then
      .error (.fault ⟨.DuplicateInputConflict,
      s!"input {input.input_id} was already accepted at step {existing.step_seq} with a different payload"⟩)
    else .answered <$> refuse (tx.replay_of existing)
  | none =>
  match tx.accepted[input.input_id]?.filter fun entry => tx.below_replay_floor entry.step_seq with
  | some entry => .ok (.answered (replay_by_reference entry))
  | none =>
  match tx.config.filter fun config => config.max_input_bytes < C.bytes_len canonical_input with
  | some config =>
    .error (.fault ⟨.ResourceLimitExceeded,
    s!"canonical input carries {C.bytes_len canonical_input} bytes; the operation limit is {config.max_input_bytes}"⟩)
  | none =>
  if input.observed_at_ms < tx.last_observed_at_ms then
    .error (.fault ⟨.ClockRegression,
    s!"input observed at {input.observed_at_ms} precedes the last accepted input at {tx.last_observed_at_ms}"⟩)
  else
  match ← tx.duplicate_guard input with
  | some preparation => .ok (.answered preparation)
  | none =>
  if tx.lifecycle ∉ input.input.admissible_lifecycles then
    .error (.fault ⟨.InvalidLifecycle,s!"a {input.input.kind} input is not admissible while the operation is {tx.lifecycle.debug}"⟩)
  else
  match ← tx.resolution_guard input with
  | some preparation => .ok (.answered preparation)
  | none =>
  if tx.bounds.hard_records < tx.tail_records+1 then
    .error (.fault (checkpoint_required
    s!"the journal tail already holds {tx.tail_records} records; its hard limit is {tx.bounds.hard_records}"))
  else
  let step_seq ← refuse tx.next_step_seq
  match input.resolved_config.or tx.config with
  | none =>
    .error (.fault ⟨.InvalidLifecycle,"the operation has no genesis record, so it has no configuration to plan against"⟩)
  | some config => .ok (.planned (tx.plan_context input step_seq config))

variable [TransitionStep Step]

/-- The screen of one effect, behind the kinds and the launch tokens of the effects before it. -/
def screen_effect (config : ResolvedOperationConfig) (settled : Option EffectId)
    (kinds_in_step : List EffectKindTag) (tokens_in_step : List LaunchToken) (effect : KernelEffect) :
    Except KernelFault Unit :=
  if ¬config.supports effect.tag then
    .error ⟨.UnsupportedEffect,
    s!"this operation's host does not declare support for {effect.tag.as_str} effects, so effect {effect.effect_id} is refused before emission"⟩
  else if effect.effect_id ∈ tx.pending_effects ∨ effect.effect_id ∈ tx.resolved_effects ∨ some effect.effect_id = settled then
    .error ⟨.TransactionConflict,s!"effect id {effect.effect_id} was already published; effect identity is minted once"⟩
  else if effect.tag ∈ kinds_in_step ∨
      tx.pending_effects.toList.any fun pending => pending.2.tag == effect.tag && some pending.1 != settled then
    .error ⟨.ResourceLimitExceeded,
      s!"a {effect.tag.as_str} effect is already pending; resolve it before emitting another (§15.3 admits at most one pending effect per kind)"⟩
  else
    screen_tokens tokens_in_step (launches effect)
where
  launches (effect : KernelEffect) : List LaunchToken :=
    match effect.effect with
    | .SpawnTasks tasks _ => tasks.map TaskLaunch.launch_token
    | _ => []
  screen_tokens (seen : List LaunchToken) : List LaunchToken → Except KernelFault Unit
    | [] => .ok ()
    | token :: rest =>
      if token ∈ tx.launch_tokens ∨ token ∈ seen then
        .error ⟨.TransactionConflict,
        s!"launch token {token} was already published; a re-launch reuses the committed token so the host's launch dedup stays exact"⟩
      else screen_tokens (seen ++ [token]) rest

def screen_from (tx : KernelTransaction C) (config : ResolvedOperationConfig) (settled : Option EffectId)
    (kinds_in_step : List EffectKindTag) (tokens_in_step : List LaunchToken) : List KernelEffect → Except KernelFault Unit
  | [] => .ok ()
  | effect :: rest => do
    tx.screen_effect config settled kinds_in_step tokens_in_step effect
    tx.screen_from config settled (kinds_in_step ++ [effect.tag]) (tokens_in_step ++ screen_effect.launches effect) rest

def screen_planned_effects (step : Step) (config : ResolvedOperationConfig)
    (settled : Option EffectId) : Except KernelFault Unit :=
  tx.screen_from config settled [] [] (TransitionStep.effects step)

/-- `prepare_normalized_inner` behind the planner: screen, chain, stage the candidate. -/
def stage (context : PlanContext) (step : Step) :
    Except KernelFault (KernelPreparation C × KernelTransaction C) := do
  tx.screen_planned_effects step context.config context.input.settles
  let record ← (chain_after (C := C) tx.head context.input step).mapError record_fault
  let record_bytes := record.record_len
  if tx.bounds.hard_bytes < tx.tail_bytes+record_bytes then
    .error (checkpoint_required
    s!"the journal tail holds {tx.tail_bytes} bytes and this record adds {record_bytes}; the hard limit is {tx.bounds.hard_bytes}")
  else
    let prepare_epoch := tx.prepare_epoch+1
    let token := s!"{context.input.operation_id}:prepare:{context.step_seq}:{prepare_epoch}"
    .ok (.Prepared token record step,
      { tx with prepare_epoch, candidate := some ⟨token,record,step,context.input,record_bytes⟩ })

/-- The configuration resolver of the wire. -/
abbrev Resolver := ConfigDefaults → Json → Except WireRejection ResolvedOperationConfig

section
variable {D : Type}

def prepare_normalized_inner (tx : KernelTransaction C) (input : NormalizedInput) (plan : Planner D Step) :
    EStateM Halt D (KernelPreparation C × KernelTransaction C) := do
  match ← ofExcept (tx.admissionOf input) with
  | .answered preparation => pure (preparation,tx)
  | .planned context =>
    let step ← plan context
    ofExcept (refuse (tx.stage context step))

def prepare_inner (resolve : Resolver) (tx : KernelTransaction C) (envelope : WireEnvelope) (plan : Planner D Step) :
    EStateM Halt D (KernelPreparation C × KernelTransaction C) := do
  ofExcept (refuse (tx.check_preparable envelope.operation_id))
  let input ← ofExcept (refuse ((NormalizedInput.normalize resolve envelope tx.defaults).mapError rejection_fault))
  tx.prepare_normalized_inner input plan

/-- Normalise, validate and plan one input. A refusal leaves the transaction as it was, while the
    planner's state is whatever the planner made of it; a panic ends the process. -/
def prepare (resolve : Resolver) (tx : KernelTransaction C) (envelope : WireEnvelope) (plan : Planner D Step) (state : D) :
    Except String (KernelPreparation C × KernelTransaction C × D) :=
  match tx.prepare_inner resolve envelope plan state with
  | .ok (preparation,tx) state => .ok (preparation,tx,state)
  | .error (.fault fault) state => .ok (.Rejected fault,tx,state)
  | .error (.panic site) _ => .error site

end

def poison_with (fault : KernelFault) : KernelFault × KernelTransaction C :=
  let fault := tx.poison.getD fault
  (fault,{ tx with candidate := none, poison := some fault })

variable (record : KernelRecord C)

/-- The identity an operation takes from its first record. -/
def bind_operation : KernelTransaction C :=
  { tx with
    operation_id := tx.operation_id.or (some record.operation_id)
    genesis_digest := if record.is_genesis then some record.record_digest else tx.genesis_digest }

def advance_lifecycle : KernelTransaction C :=
  match input.input with
  | .ConfigureOperation config => { tx with bounds := config.tail_bounds, config := some config, lifecycle := .Configured }
  | .StartOperation .. => { tx with lifecycle := .Running }
  | _ => tx

def note_cancellation (input : NormalizedInput) : EStateM KernelFault (KernelTransaction C) Unit :=
  match input.input with
  | .HostControl (.Cancel reason calls) => do
    let command_digest ← ofExcept (kernel_cancel_digest (C := C) reason calls)
    modify fun tx => { tx with accepted_cancellation := some ⟨command_digest,record.input_id,record.step_seq⟩ }
  | _ => pure ()

def settle_effect (input : NormalizedInput) : EStateM KernelFault (KernelTransaction C) Unit :=
  match input.input with
  | .ResolveEffect effect_id outcome => do
    modify fun tx => { tx with pending_effects := tx.pending_effects.erase effect_id }
    let outcome_digest ← ofExcept (kernel_outcome_digest (C := C) outcome)
    modify fun tx => { tx with resolved_effects := tx.resolved_effects.insert effect_id ⟨outcome_digest,record.input_id,record.step_seq⟩ }
  | _ => pure ()

def publish_effect (step_seq : Nat) (tx : KernelTransaction C) (effect : KernelEffect) : KernelTransaction C :=
  { tx with
    pending_effects := tx.pending_effects.insert effect.effect_id effect
    launch_tokens := (screen_effect.launches effect).foldl (fun tokens token => tokens.insert token step_seq) tx.launch_tokens }

def publish_effects (step_seq : Nat) (step : Step) (tx : KernelTransaction C) : KernelTransaction C :=
  (TransitionStep.effects step).foldl (publish_effect step_seq) tx

def terminal_lifecycle : KernelTerminal → OperationLifecycle
  | .Agent .. | .Workflow .. => .Completed
  | .Cancelled .. => .Cancelled
  | .Failed .. => .Failed

def commit_terminal (step : Step) : EStateM KernelFault (KernelTransaction C) Unit :=
  match TransitionStep.terminal step with
  | none => pure ()
  | some terminal => do
    if (← get).terminal.isSome then throw ⟨.InvalidLifecycle,"this operation has already committed a terminal"⟩
    modify fun tx => { tx with terminal := some terminal, lifecycle := terminal_lifecycle terminal, pending_effects := ∅ }

/-- The ledgers, the tail, the index and the head after one durable record. -/
def append_record (step : Step) (input : NormalizedInput) (record_bytes : Nat)
    (tx : KernelTransaction C) : KernelTransaction C :=
  { tx with
    last_observed_at_ms := input.observed_at_ms
    steps := tx.steps.insert record.input_id step
    accepted := tx.accepted.insert record.input_id ⟨record.input_id,record.step_seq,record.record_digest⟩
    tail := tx.tail ++ [⟨record.step_seq,record.record_digest,record_bytes,input⟩]
    index := RecordIndex.note_committed tx.index record
    head := some record.anchor }

/-- Fold one durable record into the runtime state; shared by a commit and by a replay. -/
def integrate (step : Step) (input : NormalizedInput) (record_bytes : Nat) :
    EStateM KernelFault (KernelTransaction C) (CommittedTransition C) := do
  let was_nominal := (← get).tail_pressure = .Nominal
  modify fun tx => (tx.bind_operation record).advance_lifecycle input
  note_cancellation record input
  settle_effect record input
  modify (publish_effects record.step_seq step)
  commit_terminal step
  modify (append_record record step input record_bytes)
  let tx ← get
  let checkpoint_advice := if was_nominal ∧ tx.tail_pressure ≠ .Nominal then
    some ⟨record.step_seq,tx.tail_usage,tx.bounds⟩ else none
  pure ⟨record,step,record.step_seq,checkpoint_advice⟩

/-- Commit the candidate the host has appended. Every failure poisons the transaction. -/
def commit (tx : KernelTransaction C) (token : PrepareToken) (appended_head : Digest) :
    Except KernelFault (CommittedTransition C) × KernelTransaction C :=
  match tx.poison,tx.candidate with
  | some fault,_ => (.error fault,tx)
  | none,none =>
    poisoned tx ⟨.TransactionConflict,
    s!"commit reports a durable append for token {token}, but no candidate is outstanding; a committed record is never re-committed and never aborted"⟩
  | none,some candidate =>
    if candidate.token ≠ token then
      poisoned tx ⟨.TransactionConflict,
      s!"commit names token {token}, but the outstanding candidate is {candidate.token}; the runtime no longer describes what the journal holds"⟩
    else if appended_head ≠ candidate.record.record_digest then
      poisoned tx ⟨.TransactionConflict,
      s!"the journal head after the append is {appended_head}, but this candidate is {candidate.record.record_digest}; the append did not place this record, so the runtime must be rebuilt from the journal"⟩
    else match integrate candidate.record candidate.step candidate.input candidate.record_bytes { tx with candidate := none } with
      | .ok committed tx => (.ok committed,tx)
      | .error fault tx => poisoned tx fault
where
  poisoned (tx : KernelTransaction C) (fault : KernelFault) : Except KernelFault (CommittedTransition C) × KernelTransaction C :=
    let (fault,tx) := tx.poison_with fault
    (.error fault,tx)

/-- Discard a candidate the host has not appended. -/
def abort (token : PrepareToken) : Except KernelFault (KernelRecord C) × KernelTransaction C :=
  match tx.poison,tx.candidate with
  | some fault,_ => (.error fault,tx)
  | none,none =>
    (.error ⟨.TransactionConflict,
    s!"no candidate is outstanding for token {token}; a record that reached the journal is never abortable"⟩,tx)
  | none,some candidate =>
    if candidate.token ≠ token then
      (.error ⟨.TransactionConflict,s!"token {token} does not name the outstanding candidate {candidate.token}"⟩,tx)
    else (.ok candidate.record,{ tx with candidate := none })

section
variable {D : Type}

/-- Replay one committed transition: plan it again, compare the record digest, integrate. -/
def replay_committed (tx : KernelTransaction C) (input : NormalizedInput) (expected : Digest) (plan : Planner D Step) :
    EStateM Halt D (KernelTransaction C) := do
  if let some fault := tx.poison then throw (.fault fault)
  let step_seq ← ofExcept (refuse tx.next_step_seq)
  match input.resolved_config.or tx.config with
  | none => throw (.fault ⟨.RecordCorrupted,s!"the transition at step {step_seq} has no genesis configuration before it"⟩)
  | some config =>
    let step ← plan (tx.plan_context input step_seq config)
    let rebuilt ← ofExcept (refuse ((chain_after (C := C) tx.head input step).mapError corrupt_chain_fault))
    if rebuilt.record_digest ≠ expected then
      throw (.fault ⟨.RecordCorrupted,
      s!"replaying the transition at step {step_seq} produced record digest {rebuilt.record_digest} against the durable {expected}; this binary does not reproduce the history it is resuming"⟩)
    match integrate rebuilt step input rebuilt.record_len tx with
    | .ok _ tx => pure tx
    | .error fault _ => throw (.fault fault)

/-- The loop of a rebuild over the records behind a verified chain. -/
def replay_records (plan : Planner D Step) (relabel : RecordError → KernelFault) (tx : KernelTransaction C) :
    List (KernelRecord C) → EStateM Halt D (KernelTransaction C)
  | [] => pure tx
  | record :: rest => do
    let input ← ofExcept (refuse (record.normalized_input.mapError relabel))
    let tx ← tx.replay_committed input record.record_digest plan
    replay_records plan relabel tx rest

def rebuild_from_records (records : List (KernelRecord C)) (defaults : ConfigDefaults) (index : RecordIndex C)
    (plan : Planner D Step) : EStateM Halt D (KernelTransaction C) :=
  match records with
  | [] => pure (new defaults index)
  | records => do
    let _ ← ofExcept (refuse ((verify_record_chain records).mapError corrupt_chain_fault))
    replay_records plan record_fault (new defaults index) records

end

/-- The host's append lost its race: the candidate is dropped and the runtime is closed. -/
def note_append_conflict (token : PrepareToken) (observed_head : Option Digest) :
    KernelFault × KernelTransaction C :=
  let expected := tx.candidate.bind fun candidate => candidate.record.previous_record_digest
  let named := fun head : Option Digest => head.getD "an empty journal"
  { tx with candidate := none }.poison_with
    ⟨.TransactionConflict,s!"the CAS append for token {token} expected head {named expected} but the journal holds {named observed_head}; the candidate is discarded and this runtime must be rebuilt from the journal before the input is replayed"⟩

/-- The prefix a checkpoint taken now covers. -/
def checkpoint_boundary : Option CheckpointBoundary :=
  tx.head.map fun head => ⟨head.step_seq,head.record_digest⟩

/-- Drop the tail accounting an installed checkpoint covers. The ledgers stay. -/
def note_checkpoint_acked (boundary : CheckpointBoundary) :
    Except KernelFault TailUsage × KernelTransaction C :=
  match tx.poison with
  | some fault => (.error fault,tx)
  | none =>
    if tx.tail.any fun entry => entry.step_seq == boundary.through_step_seq && entry.record_digest == boundary.covered_head then
      let tx := { tx with tail := tx.tail.dropWhile fun entry => decide (entry.step_seq ≤ boundary.through_step_seq) }
      (.ok tx.tail_usage,tx)
    else
      (.error ⟨.CheckpointIncompatible,
      s!"no tail record at step {boundary.through_step_seq} has digest {boundary.covered_head}; this checkpoint does not cover a prefix of this journal"⟩,tx)

/-- The transition partition of the logical state; the two focus fields are the driver's. -/
def transition_state (root_kind : Option RootKind) (focus : Option ExecutionFocus) :
    Except KernelFault TransitionState :=
  match tx.config with
  | none => .error ⟨.InvalidLifecycle,"an operation with no genesis record has no resolved configuration to checkpoint"⟩
  | some config => .ok
    { lifecycle := tx.lifecycle
      resolved_config := config
      root_kind := root_kind
      focus := focus
      last_observed_at_ms := tx.last_observed_at_ms
      pending_effects := values tx.pending_effects
      resolved_effects := tx.resolved_effects.toList
      launch_tokens := tx.launch_tokens.toList
      accepted_inputs := values tx.accepted
      accepted_cancellation := tx.accepted_cancellation
      terminal := tx.terminal }

/-- A transaction at the base of a checkpoint. The index and the steps behind the base are not in
    it: below the floor a redelivery is answered from the ledger. -/
def restore_from_checkpoint (operation_id : OperationId) (genesis_digest : Digest) (base : CheckpointBoundary)
    (state : TransitionState) (defaults : ConfigDefaults) (index : RecordIndex C) : KernelTransaction C :=
  { new defaults index with
    operation_id := some operation_id
    genesis_digest := some genesis_digest
    bounds := state.resolved_config.tail_bounds
    config := some state.resolved_config
    head := some ⟨operation_id,base.through_step_seq,base.covered_head⟩
    lifecycle := state.lifecycle
    last_observed_at_ms := state.last_observed_at_ms
    replay_floor := some base.through_step_seq
    terminal := state.terminal
    pending_effects := .ofList (state.pending_effects.map fun effect => (effect.effect_id,effect))
    resolved_effects := .ofList state.resolved_effects
    launch_tokens := .ofList state.launch_tokens
    accepted := .ofList (state.accepted_inputs.map fun entry => (entry.input_id,entry))
    accepted_cancellation := state.accepted_cancellation }

/-- The effects the host still owes, in publication order. -/
def pending_effects_in_order : List KernelEffect :=
  (values tx.pending_effects).mergeSort fun left right => publishedBefore left.effect_id right.effect_id

end KernelTransaction
end

end Deepstrike.Transaction

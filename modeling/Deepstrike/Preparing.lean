import Deepstrike.Lockstep
import Deepstrike.Transaction

/-!
What a preparation and a commit do to the transaction, said once: the guards in front of the
planner, the planner, the stage behind it; and the fold of a durable record, which shows nothing
of the candidate slot.
-/
namespace Deepstrike.Transaction
open Wire Record Lockstep Respects NormalizedInput RecordIndex MonadExcept

variable {Step D : Type} {C : Codec Step}

/-- A structured answer as it leaves the kernel; a panic leaves no kernel behind. -/
def settledHalt {α : Type} (rejected : KernelFault → α) : Halt → Except String α
  | .fault fault => .ok (rejected fault)
  | .panic site => .error site

private theorem refuse_eq_ok {α : Type} {answer : Except KernelFault α} {value : α} : refuse answer = .ok value ↔ answer = .ok value := by
  cases answer <;> simp [refuse]

private theorem map_refuse_eq_ok {α β : Type} {f : α → β} {answer : Except KernelFault α} {value : β}
    (answered : f <$> refuse answer = .ok value) : ∃ inner, answer = .ok inner ∧ f inner = value := by
  cases answer with
  | error fault => cases answered
  | ok inner => exact ⟨inner,rfl,by simpa [refuse,Functor.map,Except.map] using answered⟩

/-- What normalization keeps of an envelope: its identity, its clock and the kind of its input. -/
structure Normalizes (envelope : WireEnvelope) (input : NormalizedInput) : Prop where
  operation_id : input.operation_id = envelope.operation_id
  input_id : input.input_id = envelope.input_id
  observed_at_ms : input.observed_at_ms = envelope.observed_at_ms
  resolution : ∀ effect_id outcome, input.input = .ResolveEffect effect_id outcome → envelope.input = .ResolveEffect effect_id outcome
  cancellation : ∀ reason calls, input.input = .HostControl (.Cancel reason calls) → envelope.input = .HostControl (.Cancel reason calls)

/-- What normalisation leaves in the input it answers with. -/
theorem normalize_facts {resolve : KernelTransaction.Resolver} {envelope : WireEnvelope} {defaults : ConfigDefaults}
    {input : NormalizedInput}
    (normalized : normalize resolve envelope defaults = .ok input) : Normalizes envelope input := by
  unfold NormalizedInput.normalize at normalized
  cases kind : envelope.input with
  | ConfigureOperation config =>
    simp only [kind,bind,Except.bind] at normalized
    cases resolved : resolve defaults config with
    | error rejection => simp [resolved] at normalized
    | ok config =>
    simp only [resolved] at normalized
    cases normalized
    exact ⟨rfl,rfl,rfl,fun _ _ same => (by cases same),fun _ _ same => (by cases same)⟩
  | _ =>
  simp only [kind,bind,Except.bind] at normalized
  cases normalized
  refine ⟨rfl,rfl,rfl,fun _ _ same => ?_,fun _ _ same => ?_⟩ <;> cases same <;> exact kind

def KernelPreparation.isPrepared : KernelPreparation C → Bool
  | .Prepared .. => true
  | .Replayed .. | .Rejected _ => false

namespace KernelTransaction

theorem record_for_note_committed (index : RecordIndex C) (record : KernelRecord C) (operation_id : OperationId)
    (input_id : InputId) :
    record_for_input (note_committed index record) operation_id input_id =
      if record.operation_id = operation_id ∧ record.input_id = input_id then some record
      else record_for_input index operation_id input_id := by
  unfold record_for_input note_committed
  rw [Std.ExtTreeMap.getElem?_insert]
  simp only [Std.LawfulEqCmp.compare_eq_iff_eq,Prod.mk.injEq]

/-- The guards an envelope passes before it is planned, or the answer it gets instead. -/
def screened (resolve : Resolver) (tx : KernelTransaction C) (envelope : WireEnvelope) : Except Halt (Admission C) := do
  refuse (tx.check_preparable envelope.operation_id)
  let input ← refuse ((normalize resolve envelope tx.defaults).mapError rejection_fault)
  tx.admissionOf input

/-- What a transaction is besides its candidate slot: the slot, its counter and the poison are
    forgotten. -/
def books (tx : KernelTransaction C) : KernelTransaction C := { tx with candidate := none, prepare_epoch := 0, poison := none }

theorem eq_of_books {left right : KernelTransaction C} (same : left.books = right.books)
    (candidates : left.candidate = right.candidate)
    (poisons : left.poison = right.poison) : left = { right with prepare_epoch := left.prepare_epoch } := by
  cases left
  cases right
  simp only [books,KernelTransaction.mk.injEq] at same candidates poisons ⊢
  simp [same,candidates,poisons]

variable [TransitionStep Step]

/-- What becomes of a planned step. -/
def staged (tx : KernelTransaction C) (context : PlanContext) (step : Step) : KernelPreparation C × KernelTransaction C :=
  match tx.stage context step with
  | .ok staged => staged
  | .error fault => (.Rejected fault,tx)

/-- A preparation is its guards, the planner, and the stage. -/
theorem prepare_eq (resolve : Resolver) (tx : KernelTransaction C) (envelope : WireEnvelope) (plan : Planner D Step)
    (state : D) :
    tx.prepare resolve envelope plan state =
      match tx.screened resolve envelope with
      | .error halt => settledHalt (fun fault => (.Rejected fault,tx,state)) halt
      | .ok (.answered preparation) => .ok (preparation,tx,state)
      | .ok (.planned context) =>
        match plan context state with
        | .error halt state => settledHalt (fun fault => (.Rejected fault,tx,state)) halt
        | .ok step state => .ok ((tx.staged context step).1,(tx.staged context step).2,state) := by
  unfold prepare prepare_inner screened
  cases tx.check_preparable envelope.operation_id with
  | error fault => rfl
  | ok _ =>
  cases (normalize resolve envelope tx.defaults).mapError rejection_fault with
  | error fault => rfl
  | ok input =>
  simp only [refuse,ofExcept,bind,Except.bind,EStateM.bind,pure,EStateM.pure,prepare_normalized_inner]
  cases tx.admissionOf input with
  | error halt => cases halt <;> rfl
  | ok admission =>
  cases admission with
  | answered preparation => rfl
  | planned context =>
  simp only [EStateM.pure,EStateM.bind]
  cases plan context state with
  | error halt state => cases halt <;> rfl
  | ok step state =>
  simp only [staged]
  cases tx.stage context step with
  | error fault => rfl
  | ok staged => rfl

variable {tx : KernelTransaction C} {preparation : KernelPreparation C} {input : NormalizedInput} {resolve : Resolver} {envelope : WireEnvelope}
variable {step : Step} {record : KernelRecord C} {plan : Planner D Step} {record_bytes : Nat}

omit [TransitionStep Step] in
private theorem replay_of_not_prepared {existing : KernelRecord C}
    (answered : tx.replay_of existing = .ok preparation) : preparation.isPrepared = false := by
  unfold replay_of at answered
  split at answered
  · next step _ =>
    cases verified : (existing.verify_step step).mapError record_fault with
    | error fault => simp [verified,bind,Except.bind] at answered
    | ok _ =>
    simp only [verified,bind,Except.bind,Except.ok.injEq] at answered
    rw [← answered]
    rfl
  · split at answered
    · cases answered
      rfl
    · cases answered

/-- What the guards say about an input they let through to the planner. -/
structure Admitted (tx : KernelTransaction C) (input : NormalizedInput) (step_seq : Nat) (config : ResolvedOperationConfig) : Prop where
  preparable : tx.check_preparable input.operation_id = .ok ()
  fresh : record_for_input tx.index input.operation_id input.input_id = none
  clock : tx.last_observed_at_ms ≤ input.observed_at_ms
  admissible : tx.lifecycle ∈ input.input.admissible_lifecycles
  unresolved : tx.resolution_guard input = .ok none
  sequenced : tx.next_step_seq = .ok step_seq
  configured : input.resolved_config.or tx.config = some config
  unreferenced : (tx.accepted[input.input_id]?.filter fun entry => tx.below_replay_floor entry.step_seq) = none
  uncancelled : tx.duplicate_guard input = .ok none

omit [TransitionStep Step] in
private theorem cancel_guard_answer {reason : CancellationReason} {calls : List CallId}
    (answered : tx.cancel_guard reason calls = .ok (some preparation)) :
    preparation.isPrepared = false := by
  unfold cancel_guard at answered
  simp only [bind,Except.bind] at answered
  repeat' split at answered
  all_goals try cases answered
  obtain ⟨_,replayed,same⟩ := map_refuse_eq_ok answered
  cases same
  exact replay_of_not_prepared replayed

omit [TransitionStep Step] in
private theorem resolve_effect_guard_answer {effect_id : EffectId} {outcome : EffectOutcome}
    (answered : tx.resolve_effect_guard effect_id outcome = .ok (some preparation)) :
    preparation.isPrepared = false := by
  unfold resolve_effect_guard at answered
  simp only [bind,Except.bind] at answered
  repeat' split at answered
  all_goals try cases answered
  obtain ⟨_,replayed,same⟩ := map_refuse_eq_ok answered
  cases same
  exact replay_of_not_prepared replayed

omit [TransitionStep Step] in
private theorem duplicate_guard_answer
    (answered : tx.duplicate_guard input = .ok (some preparation)) : preparation.isPrepared = false := by
  unfold duplicate_guard at answered
  split at answered
  · exact cancel_guard_answer answered
  · cases answered

omit [TransitionStep Step] in
private theorem resolution_guard_answer
    (answered : tx.resolution_guard input = .ok (some preparation)) : preparation.isPrepared = false := by
  unfold resolution_guard at answered
  split at answered
  · exact resolve_effect_guard_answer answered
  · cases answered

variable {admission : Admission C} {fault : KernelFault} {context : PlanContext} {state state' : D} {after : KernelTransaction C}
variable {relabel : RecordError → KernelFault} {records : List (KernelRecord C)}

omit [TransitionStep Step] in
/-- An input is answered from what the journal holds, or its plan is asked for. -/
theorem admit_cases
    (admitted : tx.admissionOf input = .ok admission) :
    (∃ preparation, admission = .answered preparation ∧ preparation.isPrepared = false) ∨
      ∃ step_seq config, admission = .planned (tx.plan_context input step_seq config) ∧
      Admitted tx input step_seq config := by
  unfold admissionOf at admitted
  simp only [bind,Except.bind] at admitted
  split at admitted
  · cases admitted
  next preparable =>
  split at admitted
  · cases admitted
  next canonical _ =>
  split at admitted
  · split at admitted
    · cases admitted
    · obtain ⟨preparation,replayed,rfl⟩ := map_refuse_eq_ok admitted
      exact .inl ⟨preparation,rfl,replay_of_not_prepared replayed⟩
  next fresh =>
  split at admitted
  · cases admitted
    exact .inl ⟨_,rfl,rfl⟩
  next unreferenced =>
  split at admitted
  · cases admitted
  split at admitted
  · cases admitted
  next clock =>
  split at admitted
  · cases admitted
  next guarded =>
  split at admitted
  · cases admitted
    exact .inl ⟨_,rfl,duplicate_guard_answer guarded⟩
  split at admitted
  · cases admitted
  next admissible =>
  split at admitted
  · cases admitted
  next unresolved =>
  split at admitted
  · cases admitted
    exact .inl ⟨_,rfl,resolution_guard_answer unresolved⟩
  split at admitted
  · cases admitted
  split at admitted
  · cases admitted
  next sequenced =>
  split at admitted
  · cases admitted
  next config configured =>
  cases admitted
  exact .inr ⟨_,config,rfl,refuse_eq_ok.mp preparable,fresh,Nat.not_lt.mp clock,not_not.mp admissible,unresolved,
    refuse_eq_ok.mp sequenced,configured,unreferenced,guarded⟩

omit [TransitionStep Step] in
/-- A busy or poisoned transaction prepares nothing. -/
theorem check_preparable_busy (busy : tx.candidate.isSome ∨ tx.poison.isSome) (operation_id : OperationId) :
    ∃ fault, tx.check_preparable operation_id = .error fault ∧
    (tx.poison = some fault ∨ (tx.poison = none ∧ fault.code = .TransactionConflict)) := by
  unfold check_preparable
  cases poisoned : tx.poison with
  | some fault => exact ⟨fault,rfl,.inl rfl⟩
  | none =>
  cases held : tx.candidate with
  | some candidate => exact ⟨_,rfl,.inr ⟨rfl,rfl⟩⟩
  | none => simp [poisoned,held] at busy

theorem prepare_refused
    (refused : tx.check_preparable envelope.operation_id = .error fault) (plan : Planner D Step) (state : D) :
    tx.prepare resolve envelope plan state = .ok (.Rejected fault,tx,state) := by
  rw [prepare_eq,screened,refused]
  rfl

/-- The text of a prepare token. -/
def prepare_token (operation_id : OperationId) (step_seq epoch : Nat) : PrepareToken :=
  s!"{operation_id}:prepare:{step_seq}:{epoch}"

/-- The record a stage would append: the step passes the screen, follows the head and fits the
    tail. -/
def stageable (tx : KernelTransaction C) (context : PlanContext) (step : Step) : Except KernelFault (KernelRecord C) := do
  tx.screen_planned_effects step context.config context.input.settles
  let record ← (chain_after (C := C) tx.head context.input step).mapError record_fault
  if tx.bounds.hard_bytes < tx.tail_bytes+record.record_len then
    .error (checkpoint_required
    s!"the journal tail holds {tx.tail_bytes} bytes and this record adds {record.record_len}; the hard limit is {tx.bounds.hard_bytes}")
  else .ok record

section
variable {left right : KernelTransaction C} (pending : left.pending_effects = right.pending_effects)
  (resolved : left.resolved_effects = right.resolved_effects) (tokens : left.launch_tokens = right.launch_tokens)

include tokens in
omit [TransitionStep Step] in
private theorem screen_tokens_congr (seen launches : List LaunchToken) :
    screen_effect.screen_tokens left seen launches = screen_effect.screen_tokens right seen launches := by
  induction launches generalizing seen with
  | nil => rfl
  | cons token rest ih => simp only [screen_effect.screen_tokens,tokens,ih]

include pending resolved tokens

omit [TransitionStep Step] in
private theorem screen_from_congr (config : ResolvedOperationConfig) (settled : Option EffectId) (kinds : List EffectKindTag)
    (seen : List LaunchToken) (effects : List KernelEffect) :
    left.screen_from config settled kinds seen effects = right.screen_from config settled kinds seen effects := by
  induction effects generalizing kinds seen with
  | nil => rfl
  | cons effect rest ih =>
  have first : left.screen_effect config settled kinds seen effect = right.screen_effect config settled kinds seen effect := by
    simp only [screen_effect,pending,resolved,screen_tokens_congr tokens]
  simp only [screen_from,first,ih]

theorem screen_planned_effects_congr (step : Step) (config : ResolvedOperationConfig) (settled : Option EffectId) :
    left.screen_planned_effects step config settled = right.screen_planned_effects step config settled :=
  screen_from_congr pending resolved tokens config settled [] [] (TransitionStep.effects step)

theorem stageable_congr (heads : left.head = right.head) (bounds : left.bounds = right.bounds)
    (tails : left.tail_bytes = right.tail_bytes)
    (context : PlanContext) (step : Step) : left.stageable context step = right.stageable context step := by
  simp only [stageable,screen_planned_effects_congr pending resolved tokens,heads,bounds,tails]

end

/-- The candidate slot once it is filled. -/
def filled (tx : KernelTransaction C) (context : PlanContext) (step : Step) (record : KernelRecord C) :
    KernelPreparation C × KernelTransaction C :=
  let token := prepare_token context.input.operation_id context.step_seq (tx.prepare_epoch+1)
  (.Prepared token record step,
    { tx with prepare_epoch := tx.prepare_epoch+1, candidate := some ⟨token,record,step,context.input,record.record_len⟩ })

private theorem stage_eq (tx : KernelTransaction C) (context : PlanContext) (step : Step) :
    tx.stage context step = (tx.stageable context step).map (tx.filled context step) := by
  unfold stage stageable
  cases tx.screen_planned_effects step context.config context.input.settles with
  | error fault => rfl
  | ok _ =>
  cases chain_after (C := C) tx.head context.input step with
  | error error => rfl
  | ok record =>
  simp only [bind,Except.bind,Except.mapError]
  split <;> rfl

/-- Staging fills the one candidate slot and nothing else. -/
theorem stage_cases {staged : KernelPreparation C × KernelTransaction C}
    (accepted : tx.stage context step = .ok staged) :
    ∃ record, tx.stageable context step = .ok record ∧ staged = tx.filled context step record := by
  rw [stage_eq] at accepted
  cases able : tx.stageable context step with
  | error fault =>
    rw [able] at accepted
    cases accepted
  | ok record =>
  rw [able] at accepted
  cases accepted
  exact ⟨record,rfl,rfl⟩

theorem staged_eq (tx : KernelTransaction C) (context : PlanContext) (step : Step) :
    tx.staged context step = match tx.stageable context step with
      | .ok record => tx.filled context step record
      | .error fault => (.Rejected fault,tx) := by
  rw [staged,stage_eq]
  cases tx.stageable context step <;> rfl

omit [TransitionStep Step] in
theorem screened_answered
    (answered : tx.screened resolve envelope = .ok (.answered preparation)) : preparation.isPrepared = false := by
  unfold screened at answered
  simp only [bind,Except.bind] at answered
  split at answered
  · cases answered
  split at answered
  · cases answered
  obtain ⟨_,same,unstaged⟩ | ⟨_,_,same,_⟩ := admit_cases answered
  · cases same
    exact unstaged
  · cases same

theorem stageable_chained
    (able : tx.stageable context step = .ok record) : chain_after (C := C) tx.head context.input step = .ok record := by
  unfold stageable at able
  cases screened : tx.screen_planned_effects step context.config context.input.settles with
  | error fault => simp [screened,bind,Except.bind] at able
  | ok _ =>
  cases chained : chain_after (C := C) tx.head context.input step with
  | error error => simp [screened,chained,bind,Except.bind,Except.mapError] at able
  | ok following =>
  simp only [screened,chained,bind,Except.bind,Except.mapError] at able
  split at able
  · cases able
  · cases able
    rfl

omit [TransitionStep Step] in
/-- What a screened envelope that is admitted has passed. -/
theorem screened_admits
    (screened : tx.screened resolve envelope = .ok admission) :
    ∃ input, tx.admissionOf input = .ok admission ∧ Normalizes envelope input := by
  unfold KernelTransaction.screened at screened
  simp only [bind,Except.bind] at screened
  split at screened
  · cases screened
  split at screened
  · cases screened
  next input normalized =>
  refine ⟨input,screened,?_⟩
  cases outcome : normalize resolve envelope tx.defaults with
  | error rejection => simp [outcome,Except.mapError,refuse] at normalized
  | ok normal =>
  simp only [outcome,Except.mapError,refuse,Except.ok.injEq] at normalized
  subst normalized
  exact normalize_facts outcome

omit [TransitionStep Step] in
theorem idle_of_preparable {operation_id : OperationId}
    (preparable : tx.check_preparable operation_id = .ok ()) : tx.poison = none ∧ tx.candidate = none := by
  unfold check_preparable at preparable
  cases poisoned : tx.poison <;> cases held : tx.candidate <;> simp [poisoned,held] at preparable ⊢

/-- A preparation stages the step that was planned for an admitted input, or it leaves the
    transaction alone. -/
theorem prepare_cases {tx' : KernelTransaction C}
    (prepared : tx.prepare resolve envelope plan state = .ok (preparation,tx',state')) :
    (preparation.isPrepared = false ∧ tx' = tx) ∨
      ∃ input step_seq config step, Admitted tx input step_seq config ∧
        plan (tx.plan_context input step_seq config) state = .ok step state' ∧
        tx.stage (tx.plan_context input step_seq config) step = .ok (preparation,tx') ∧ Normalizes envelope input := by
  rw [prepare_eq] at prepared
  cases guarded : tx.screened resolve envelope with
  | error halt =>
    rw [guarded] at prepared
    cases halt <;> cases prepared
    exact .inl ⟨rfl,rfl⟩
  | ok admission =>
  obtain ⟨input,admitted,normalized⟩ := screened_admits guarded
  obtain ⟨answer,rfl,unstaged⟩ | ⟨step_seq,config,rfl,facts⟩ := admit_cases admitted
  · rw [guarded] at prepared
    cases prepared
    exact .inl ⟨unstaged,rfl⟩
  rw [guarded] at prepared
  simp only at prepared
  split at prepared
  next halt state planned =>
    cases halt <;> cases prepared
    exact .inl ⟨rfl,rfl⟩
  next step state planned =>
  unfold staged at prepared
  cases outcome : tx.stage (tx.plan_context input step_seq config) step with
  | error fault =>
    simp only [outcome] at prepared
    cases prepared
    exact .inl ⟨rfl,rfl⟩
  | ok staged =>
  simp only [outcome] at prepared
  cases prepared
  exact .inr ⟨input,step_seq,config,step,facts,planned,outcome,normalized⟩

/-- The fold of a durable record, without the advice it gives the host. -/
def foldRecord (record : KernelRecord C) (step : Step) (input : NormalizedInput) (record_bytes : Nat) :
    EStateM KernelFault (KernelTransaction C) Unit := do
  modify fun tx => (tx.bind_operation record).advance_lifecycle input
  note_cancellation record input
  settle_effect record input
  modify (publish_effects record.step_seq step)
  commit_terminal step
  modify (append_record record step input record_bytes)

/-- The advice a fold ends with: the tail left its nominal range. -/
def advice (record : KernelRecord C) (before after : KernelTransaction C) : Option CheckpointAdvice :=
  if before.tail_pressure = .Nominal ∧ after.tail_pressure ≠ .Nominal then
    some ⟨record.step_seq,after.tail_usage,after.bounds⟩ else none

private theorem integrate_eq (record : KernelRecord C) (step : Step) (input : NormalizedInput) (record_bytes : Nat) (tx : KernelTransaction C) :
    integrate record step input record_bytes tx =
      match foldRecord record step input record_bytes tx with
      | .ok _ after => .ok ⟨record,step,record.step_seq,advice record tx after⟩ after
      | .error fault after => .error fault after := by
  simp only [integrate,foldRecord,advice,bind,EStateM.bind,run_get,pure,EStateM.pure,run_modify]
  cases note_cancellation record input ((tx.bind_operation record).advance_lifecycle input) with
  | error fault tx => rfl
  | ok _ cancelled =>
  simp only
  cases settle_effect record input cancelled with
  | error fault tx => rfl
  | ok _ settled =>
  simp only
  cases commit_terminal step (publish_effects record.step_seq step settled) with
  | error fault tx => rfl
  | ok _ terminal => rfl

private theorem commit_terminal_eq (step : Step) (tx : KernelTransaction C) :
    commit_terminal step tx =
      match TransitionStep.terminal step,tx.terminal with
      | none,_ => .ok () tx
      | some _,some _ => .error ⟨.InvalidLifecycle,"this operation has already committed a terminal"⟩ tx
      | some terminal,none =>
        .ok () { tx with terminal := some terminal, lifecycle := terminal_lifecycle terminal, pending_effects := ∅ } := by
  unfold commit_terminal
  cases TransitionStep.terminal step with
  | none => rfl
  | some terminal =>
  cases held : tx.terminal <;>
    simp [held,bind,EStateM.bind,run_get,run_throw,run_modify]

/-- The pending effects behind a step that published some. -/
def publishedOver (pending : OrdMap KernelEffect) (effects : List KernelEffect) : OrdMap KernelEffect :=
  effects.foldl (fun pending effect => pending.insert effect.effect_id effect) pending

/-- The launch tokens behind a step that published some effects. -/
def mintedOver (step_seq : Nat) (tokens : OrdMap Nat) (effects : List KernelEffect) : OrdMap Nat :=
  effects.foldl (fun tokens effect =>
  (screen_effect.launches effect).foldl (fun tokens token => tokens.insert token step_seq) tokens) tokens

omit [TransitionStep Step] in
private theorem publish_fold (step_seq : Nat) (effects : List KernelEffect) (tx : KernelTransaction C) :
    effects.foldl (publish_effect step_seq) tx =
      { tx with
        pending_effects := publishedOver tx.pending_effects effects
        launch_tokens := mintedOver step_seq tx.launch_tokens effects } := by
  induction effects generalizing tx with
  | nil => rfl
  | cons effect rest ih => exact ih (tx.publish_effect step_seq effect)

/-- The pending effects an input leaves once it has settled its own. -/
def unsettled (pending : OrdMap KernelEffect) (input : NormalizedInput) : OrdMap KernelEffect :=
  match input.settles with
  | some effect_id => pending.erase effect_id
  | none => pending

/-- The ledger of resolutions once an input has entered its own. -/
def resolvedBy (record : KernelRecord C) (input : NormalizedInput) (resolved : OrdMap ResolvedEffectRecord) :
    Except KernelFault (OrdMap ResolvedEffectRecord) :=
  match input.input with
  | .ResolveEffect effect_id outcome =>
    (kernel_outcome_digest (C := C) outcome).map fun digest => resolved.insert effect_id ⟨digest,record.input_id,record.step_seq⟩
  | _ => .ok resolved

/-- The accepted cancellation once an input has entered its own. -/
def cancelledBy (record : KernelRecord C) (input : NormalizedInput) (accepted : Option AcceptedCancellation) :
    Except KernelFault (Option AcceptedCancellation) :=
  match input.input with
  | .HostControl (.Cancel reason calls) =>
    (kernel_cancel_digest (C := C) reason calls).map fun digest => some ⟨digest,record.input_id,record.step_seq⟩
  | _ => .ok accepted

/-- What the fold of a record makes of a transaction. -/
structure FoldedTo (record : KernelRecord C) (step : Step) (input : NormalizedInput) (record_bytes : Nat) (tx after : KernelTransaction C) :
    Prop where
  candidate : after.candidate = tx.candidate
  poison : after.poison = tx.poison
  prepare_epoch : after.prepare_epoch = tx.prepare_epoch
  config : after.config = input.resolved_config.or tx.config
  operation_id : after.operation_id = tx.operation_id.or (some record.operation_id)
  head : after.head = some record.anchor
  observed : after.last_observed_at_ms = input.observed_at_ms
  pending : after.pending_effects = match TransitionStep.terminal step with
    | some _ => ∅
    | none => publishedOver (unsettled tx.pending_effects input) (TransitionStep.effects step)
  terminal : after.terminal = (TransitionStep.terminal step).or tx.terminal
  once : (TransitionStep.terminal step).isSome → tx.terminal = none
  defaults : after.defaults = tx.defaults
  bounds : after.bounds = (input.resolved_config.map ResolvedOperationConfig.tail_bounds).getD tx.bounds
  replay_floor : after.replay_floor = tx.replay_floor
  index : after.index = note_committed tx.index record
  steps : after.steps = tx.steps.insert record.input_id step
  accepted : after.accepted = tx.accepted.insert record.input_id ⟨record.input_id,record.step_seq,record.record_digest⟩
  lifecycle : after.lifecycle = match TransitionStep.terminal step with
    | some terminal => terminal_lifecycle terminal
    | none => (tx.advance_lifecycle input).lifecycle
  genesis : after.genesis_digest = if record.is_genesis then some record.record_digest else tx.genesis_digest
  tokens : after.launch_tokens = mintedOver record.step_seq tx.launch_tokens (TransitionStep.effects step)
  tail : after.tail = tx.tail ++ [⟨record.step_seq,record.record_digest,record_bytes,input⟩]
  resolution : resolvedBy record input tx.resolved_effects = .ok after.resolved_effects
  cancelled : cancelledBy record input tx.accepted_cancellation = .ok after.accepted_cancellation

omit [TransitionStep Step] in
private theorem note_cancellation_eq (record : KernelRecord C) (input : NormalizedInput) (tx : KernelTransaction C) :
    note_cancellation record input tx = match cancelledBy record input tx.accepted_cancellation with
      | .ok accepted_cancellation => .ok () { tx with accepted_cancellation }
      | .error fault => .error fault tx := by
  unfold note_cancellation cancelledBy
  cases input.input with
  | HostControl command =>
    cases command with
    | Cancel reason calls =>
      simp only
      cases kernel_cancel_digest (C := C) reason calls <;> rfl
    | _ => rfl
  | _ => rfl

omit [TransitionStep Step] in
private theorem settle_effect_eq (record : KernelRecord C) (input : NormalizedInput) (tx : KernelTransaction C) :
    settle_effect record input tx = match resolvedBy record input tx.resolved_effects with
      | .ok resolved_effects => .ok () { tx with pending_effects := unsettled tx.pending_effects input, resolved_effects }
      | .error fault => .error fault { tx with pending_effects := unsettled tx.pending_effects input } := by
  unfold settle_effect resolvedBy unsettled settles
  cases input.input with
  | ResolveEffect effect_id outcome =>
    simp only
    cases kernel_outcome_digest (C := C) outcome <;> rfl
  | _ => rfl

omit [TransitionStep Step] in
private theorem bind_operation_eq (record : KernelRecord C) (input : NormalizedInput) (tx : KernelTransaction C) :
    (tx.bind_operation record).advance_lifecycle input =
      { tx with
        operation_id := tx.operation_id.or (some record.operation_id)
        genesis_digest := if record.is_genesis then some record.record_digest else tx.genesis_digest
        config := input.resolved_config.or tx.config
        bounds := (input.resolved_config.map ResolvedOperationConfig.tail_bounds).getD tx.bounds
        lifecycle := (tx.advance_lifecycle input).lifecycle } := by
  unfold advance_lifecycle resolved_config
  cases input.input <;> rfl

/-- The fold of a record, in one expression: it breaks off at a digest it cannot take, or at a
    terminal slot that is taken. -/
theorem foldRecord_eq (record : KernelRecord C) (step : Step) (input : NormalizedInput) (record_bytes : Nat)
    (tx : KernelTransaction C) :
    foldRecord record step input record_bytes tx =
      let bound := (tx.bind_operation record).advance_lifecycle input
      let pending_effects := unsettled tx.pending_effects input
      match cancelledBy record input tx.accepted_cancellation,resolvedBy record input tx.resolved_effects with
      | .error fault,_ => .error fault bound
      | .ok accepted_cancellation,.error fault => .error fault { bound with accepted_cancellation, pending_effects }
      | .ok accepted_cancellation,.ok resolved_effects =>
        let published := { bound with
          accepted_cancellation
          resolved_effects
          pending_effects := publishedOver pending_effects (TransitionStep.effects step)
          launch_tokens := mintedOver record.step_seq tx.launch_tokens (TransitionStep.effects step) }
        match TransitionStep.terminal step,tx.terminal with
        | none,_ => .ok () (append_record record step input record_bytes published)
        | some _,some _ => .error ⟨.InvalidLifecycle,"this operation has already committed a terminal"⟩ published
        | some terminal,none =>
          .ok () (append_record record step input record_bytes
            { published with terminal := some terminal, lifecycle := terminal_lifecycle terminal, pending_effects := ∅ }) := by
  simp only [foldRecord,bind,EStateM.bind,run_modify,note_cancellation_eq,bind_operation_eq]
  cases cancelledBy record input tx.accepted_cancellation with
  | error fault => rfl
  | ok accepted =>
  simp only [settle_effect_eq]
  cases resolvedBy record input tx.resolved_effects with
  | error fault => rfl
  | ok resolved =>
  simp only [publish_effects,publish_fold,commit_terminal_eq]
  cases TransitionStep.terminal step with
  | none => rfl
  | some terminal => cases tx.terminal <;> rfl

/-- What folding a committed record writes into the books. -/
theorem foldRecord_ok (folded : foldRecord record step input record_bytes tx = .ok () after) :
    FoldedTo record step input record_bytes tx after := by
  simp only [foldRecord_eq,bind_operation_eq] at folded
  split at folded
  · cases folded
  · cases folded
  next accepted resolved cancelled resolution =>
  cases closes : TransitionStep.terminal step with
  | none =>
    simp only [closes] at folded
    cases folded
    exact ⟨rfl,rfl,rfl,rfl,rfl,rfl,rfl,by simp only [closes]; rfl,by simp [closes,append_record],by simp [closes],rfl,rfl,rfl,rfl,rfl,rfl,
      by simp only [closes]; rfl,rfl,rfl,rfl,resolution,cancelled⟩
  | some terminal =>
  cases held : tx.terminal with
  | some _ =>
    simp only [closes,held] at folded
    cases folded
  | none =>
  simp only [closes,held] at folded
  cases folded
  exact ⟨rfl,rfl,rfl,rfl,rfl,rfl,rfl,by simp only [closes]; rfl,by simp [closes,append_record],fun _ => held,rfl,rfl,rfl,rfl,rfl,rfl,
    by simp only [closes]; rfl,rfl,rfl,rfl,resolution,cancelled⟩

/-- Where a fold breaks off; by then the operation is bound. -/
theorem foldRecord_error (failed : foldRecord record step input record_bytes tx = .error fault after) :
    after.operation_id = tx.operation_id.or (some record.operation_id) ∧
      ((cancelledBy record input tx.accepted_cancellation = .error fault ∧
      after = (tx.bind_operation record).advance_lifecycle input) ∨
        resolvedBy record input tx.resolved_effects = .error fault ∨
        ((TransitionStep.terminal step).isSome ∧ tx.terminal.isSome)) := by
  simp only [foldRecord_eq,bind_operation_eq] at failed ⊢
  split at failed
  next refused =>
    cases failed
    exact ⟨rfl,.inl ⟨refused,rfl⟩⟩
  next refused =>
    cases failed
    exact ⟨rfl,.inr (.inl refused)⟩
  next =>
  cases closes : TransitionStep.terminal step <;> cases held : tx.terminal <;> simp only [closes,held] at failed <;> cases failed
  exact ⟨rfl,.inr (.inr ⟨rfl,rfl⟩)⟩

theorem FoldedTo.resolved (facts : FoldedTo record step input record_bytes tx after) (effect_id : EffectId)
    (resolution : ResolvedEffectRecord) (held : after.resolved_effects[effect_id]? = some resolution) :
    tx.resolved_effects[effect_id]? = some resolution ∨ resolution.input_id = record.input_id := by
  have noted := facts.resolution
  unfold resolvedBy at noted
  split at noted
  next settled outcome kind =>
    cases digest : kernel_outcome_digest (C := C) outcome with
    | error fault => simp [digest,Except.map] at noted
    | ok digest' =>
    simp only [digest,Except.map,Except.ok.injEq] at noted
    rw [← noted,Std.ExtTreeMap.getElem?_insert] at held
    split at held
    · cases held
      exact .inr rfl
    · exact .inl held
  next => exact .inl (Except.ok.inj noted ▸ held)

theorem FoldedTo.cancellation (facts : FoldedTo record step input record_bytes tx after)
    (cancellation : AcceptedCancellation)
    (held : after.accepted_cancellation = some cancellation) :
    tx.accepted_cancellation = some cancellation ∨ cancellation.input_id = record.input_id := by
  have noted := facts.cancelled
  unfold cancelledBy at noted
  split at noted
  next reason calls kind =>
    cases digest : kernel_cancel_digest (C := C) reason calls with
    | error fault => simp [digest,Except.map] at noted
    | ok digest' =>
    simp only [digest,Except.map,Except.ok.injEq] at noted
    cases noted.trans held
    exact .inr rfl
  next => exact .inl (Except.ok.inj noted ▸ held)

/-- What no fold of a record touches, whichever way it ends: the configuration, once the record has
    bound it, the candidate counter and the poison. -/
theorem foldRecord_standing (record : KernelRecord C) (step : Step) (input : NormalizedInput) (record_bytes : Nat)
    (tx : KernelTransaction C) :
    (stateOf (foldRecord record step input record_bytes tx)).config = input.resolved_config.or tx.config ∧
      (stateOf (foldRecord record step input record_bytes tx)).prepare_epoch = tx.prepare_epoch ∧
      (stateOf (foldRecord record step input record_bytes tx)).poison = tx.poison := by
  simp only [foldRecord_eq,bind_operation_eq]
  split
  · exact ⟨rfl,rfl,rfl⟩
  · exact ⟨rfl,rfl,rfl⟩
  · split <;> exact ⟨rfl,rfl,rfl⟩

/-- A commit poisons, or it folds the candidate it names over the head the host reports. -/
theorem commit_eq (tx : KernelTransaction C) (token : PrepareToken) (appended_head : Digest) :
    tx.commit token appended_head =
      match tx.poison,tx.candidate with
      | some fault,_ => (.error fault,tx)
      | none,none =>
        let fault : KernelFault :=
        ⟨.TransactionConflict,s!"commit reports a durable append for token {token}, but no candidate is outstanding; a committed record is never re-committed and never aborted"⟩
        (.error fault,{ tx with candidate := none, poison := some fault })
      | none,some candidate =>
        if candidate.token ≠ token then
          let fault : KernelFault :=
          ⟨.TransactionConflict,s!"commit names token {token}, but the outstanding candidate is {candidate.token}; the runtime no longer describes what the journal holds"⟩
          (.error fault,{ tx with candidate := none, poison := some fault })
        else if appended_head ≠ candidate.record.record_digest then
          let fault : KernelFault :=
          ⟨.TransactionConflict,s!"the journal head after the append is {appended_head}, but this candidate is {candidate.record.record_digest}; the append did not place this record, so the runtime must be rebuilt from the journal"⟩
          (.error fault,{ tx with candidate := none, poison := some fault })
        else match foldRecord candidate.record candidate.step candidate.input candidate.record_bytes { tx with candidate := none } with
          | .ok _ after =>
            (.ok ⟨candidate.record,candidate.step,candidate.record.step_seq,advice candidate.record { tx with candidate := none } after⟩,after)
          | .error fault after => (.error fault,{ after with candidate := none, poison := some fault }) := by
  unfold commit
  cases poisoned : tx.poison with
  | some fault => rfl
  | none =>
  cases held : tx.candidate with
  | none => simp only [commit.poisoned,poison_with,poisoned,Option.getD_none]
  | some candidate =>
  simp only [commit.poisoned,poison_with,poisoned,Option.getD_none]
  split
  · rfl
  split
  · rfl
  have clean := (foldRecord_standing candidate.record candidate.step candidate.input candidate.record_bytes
    { tx with candidate := none, poison := none }).2.2
  rw [integrate_eq]
  generalize foldRecord candidate.record candidate.step candidate.input candidate.record_bytes
    { tx with candidate := none, poison := none } = folded at clean ⊢
  cases folded with
  | ok _ after => rfl
  | error fault after =>
  have clean : after.poison = none := clean
  simp only [clean,Option.getD_none]

/-- A replayed transition is planned against the same context, chained to the same digest, and
    folded like a commit. -/
theorem replay_committed_eq (tx : KernelTransaction C) (input : NormalizedInput) (expected : Digest)
    (plan : Planner D Step) (state : D)
    {step_seq : Nat} {config : ResolvedOperationConfig} (clean : tx.poison = none)
    (sequenced : tx.next_step_seq = .ok step_seq)
    (configured : input.resolved_config.or tx.config = some config) :
    tx.replay_committed input expected plan state =
      match plan (tx.plan_context input step_seq config) state with
      | .error halt state => .error halt state
      | .ok step state =>
        match chain_after (C := C) tx.head input step with
        | .error error => .error (.fault (corrupt_chain_fault error)) state
        | .ok record =>
          if record.record_digest ≠ expected then
            .error (.fault ⟨.RecordCorrupted,
            s!"replaying the transition at step {step_seq} produced record digest {record.record_digest} against the durable {expected}; this binary does not reproduce the history it is resuming"⟩) state
          else match foldRecord record step input record.record_len tx with
            | .ok _ after => .ok after state
            | .error fault _ => .error (.fault fault) state := by
  simp only [replay_committed,clean,sequenced,configured,refuse,ofExcept,bind,EStateM.bind,pure,EStateM.pure]
  cases plan (tx.plan_context input step_seq config) state with
  | error halt state => rfl
  | ok step state =>
  simp only
  cases chain_after (C := C) tx.head input step with
  | error error => rfl
  | ok record =>
  simp only [Except.mapError,EStateM.pure]
  split
  · rfl
  rw [integrate_eq]
  cases foldRecord record step input record.record_len tx with
  | ok _ after => rfl
  | error fault after => rfl

/-- What a replayed record has passed, and what it folds. -/
theorem replay_committed_ok {expected : Digest}
    (replayed : tx.replay_committed input expected plan state = .ok after state') :
    ∃ step_seq config step record, tx.poison = none ∧ tx.next_step_seq = .ok step_seq ∧
      input.resolved_config.or tx.config = some config ∧
      plan (tx.plan_context input step_seq config) state = .ok step state' ∧
      chain_after (C := C) tx.head input step = .ok record ∧ record.record_digest = expected ∧
      foldRecord record step input record.record_len tx = .ok () after := by
  cases clean : tx.poison with
  | some fault =>
    simp only [replay_committed,clean,bind,EStateM.bind] at replayed
    cases replayed
  | none =>
  cases sequenced : tx.next_step_seq with
  | error fault =>
    simp only [replay_committed,clean,sequenced,bind,EStateM.bind,refuse,ofExcept,pure] at replayed
    cases replayed
  | ok step_seq =>
  cases configured : input.resolved_config.or tx.config with
  | none =>
    simp only [replay_committed,clean,sequenced,configured,bind,EStateM.bind,refuse,ofExcept,pure,EStateM.pure] at replayed
    cases replayed
  | some config =>
  rw [replay_committed_eq tx input expected plan state clean sequenced configured] at replayed
  split at replayed
  · cases replayed
  next step state planned =>
  split at replayed
  · cases replayed
  next record chained =>
  split at replayed
  · cases replayed
  next digest =>
  split at replayed
  next after folded =>
    cases replayed
    exact ⟨step_seq,config,step,record,rfl,rfl,rfl,planned,chained,not_not.mp digest,folded⟩
  next => cases replayed

/-- A replay of records is the replay of the first and then of the rest. -/
theorem replay_records_cons : replay_records plan relabel tx (record :: records) state = .ok after state' ↔
      ∃ input middle held, record.normalized_input = .ok input ∧
        replay_committed tx input record.record_digest plan state = .ok middle held ∧
        replay_records plan relabel middle records held = .ok after state' := by
  simp only [replay_records,bind,EStateM.bind]
  cases decoded : record.normalized_input with
  | error error => simp [Except.mapError,refuse,ofExcept,run_throw]
  | ok input =>
  simp only [Except.mapError,refuse,ofExcept,pure,EStateM.pure,Except.ok.injEq]
  cases stepped : replay_committed tx input record.record_digest plan state with
  | ok middle held => simp [stepped]
  | error error held => simp [stepped]

/-- What every replayed record keeps, the replay of them all keeps. -/
theorem replay_records_invariant (Holds : KernelTransaction C → D → Prop)
    (kept : ∀ tx after input expected state state', Holds tx state →
      replay_committed tx input expected plan state = .ok after state' → Holds after state') (holds : Holds tx state)
    (replayed : replay_records plan relabel tx records state = .ok after state') : Holds after state' := by
  induction records generalizing tx state with
  | nil =>
    cases replayed
    exact holds
  | cons record rest ih =>
  obtain ⟨_,_,_,_,stepped,replayed⟩ := replay_records_cons.mp replayed
  exact ih (kept _ _ _ _ _ _ holds stepped) replayed

/-- A rebuild is a replay of a chain that verifies. -/
theorem rebuild_from_records_eq (records : List (KernelRecord C)) (defaults : ConfigDefaults) (index : RecordIndex C)
    (plan : Planner D Step) (state : D) :
    rebuild_from_records records defaults index plan state =
      match records,verify_record_chain records with
      | [],_ => .ok (new defaults index) state
      | _ :: _,.error error => .error (.fault (corrupt_chain_fault error)) state
      | record :: rest,.ok _ => replay_records plan record_fault (new defaults index) (record :: rest) state := by
  cases records with
  | nil => rfl
  | cons record rest =>
  simp only [rebuild_from_records,bind,EStateM.bind]
  cases verify_record_chain (record :: rest) <;> rfl

/-- A projection of the transaction through which the fold of a record shows no more than it
    already did. -/
structure Folds {α : Type} (erase : KernelTransaction C → α) : Prop where
  bind_operation : ∀ (record : KernelRecord C) input, Respects erase fun tx => (tx.bind_operation record).advance_lifecycle input
  cancel : ∀ accepted, Respects erase fun tx => { tx with accepted_cancellation := some accepted }
  settle : ∀ effect_id, Respects erase fun tx => { tx with pending_effects := tx.pending_effects.erase effect_id }
  resolve : ∀ effect_id resolved, Respects erase fun tx => { tx with resolved_effects := tx.resolved_effects.insert effect_id resolved }
  publish : ∀ step_seq effect, Respects erase fun tx => tx.publish_effect step_seq effect
  terminal : ∀ left right, erase left = erase right → left.terminal = right.terminal
  close : ∀ terminal, Respects erase fun tx =>
    { tx with terminal := some terminal, lifecycle := terminal_lifecycle terminal, pending_effects := ∅ }
  append : ∀ (record : KernelRecord C) (step : Step) input record_bytes, Respects erase (append_record record step input record_bytes)

/-- Equal under such a projection, two transactions fold a record in lockstep. -/
theorem foldRecord_lockstep {α : Type} {erase : KernelTransaction C → α} (folds : Folds erase) (record : KernelRecord C)
    (step : Step) (input : NormalizedInput) (record_bytes : Nat) :
    InStep (fun left right => erase left = erase right) (foldRecord record step input record_bytes)
      (foldRecord record step input record_bytes) := by
  have cancellation : InStep (fun left right => erase left = erase right) (note_cancellation record input)
      (note_cancellation record input) := by
    unfold note_cancellation
    split
    · exact (InStep.ofExcept _).bind fun _ => (folds.cancel _).lockstep
    · exact InStep.pure ()
  have settlement : InStep (fun left right => erase left = erase right) (settle_effect record input)
      (settle_effect record input) := by
    unfold settle_effect
    split
    · exact (folds.settle _).lockstep.bind fun _ => (InStep.ofExcept _).bind fun _ => (folds.resolve _ _).lockstep
    · exact InStep.pure ()
  have closing : InStep (fun left right => erase left = erase right) (commit_terminal step) (commit_terminal (C := C) step) := by
    intro left right same
    rw [commit_terminal_eq,commit_terminal_eq,← folds.terminal left right same]
    cases TransitionStep.terminal step with
    | none => exact ⟨rfl,same⟩
    | some terminal =>
    cases left.terminal with
    | none => exact ⟨rfl,folds.close terminal left right same⟩
    | some _ => exact ⟨rfl,same⟩
  exact (folds.bind_operation record input).lockstep.bind fun _ => cancellation.bind fun _ => settlement.bind fun _ =>
    (foldl (folds.publish record.step_seq) (TransitionStep.effects step)).lockstep.bind fun _ =>
      closing.bind fun _ => (folds.append record step input record_bytes).lockstep

omit [TransitionStep Step] in
theorem Folds.of_books {floor : Option Nat → Option Nat} {index : RecordIndex C → RecordIndex C}
    {steps : OrdMap Step → OrdMap Step} {tail : List TailEntry → List TailEntry}
    (append : ∀ (record : KernelRecord C) (step : Step) input record_bytes, Respects (fun tx : KernelTransaction C =>
      { tx.books with index := index tx.index, steps := steps tx.steps, replay_floor := floor tx.replay_floor, tail := tail tx.tail })
      (append_record record step input record_bytes)) :
    Folds fun tx : KernelTransaction C =>
      { tx.books with index := index tx.index, steps := steps tx.steps, replay_floor := floor tx.replay_floor, tail := tail tx.tail } where
  bind_operation record input := of_commutes fun tx => by
    unfold advance_lifecycle
    cases input.input <;> rfl
  cancel accepted := of_commutes fun _ => rfl
  settle effect_id := of_commutes fun _ => rfl
  resolve effect_id resolved := of_commutes fun _ => rfl
  publish step_seq effect := of_commutes fun _ => rfl
  terminal left right same := (congrArg KernelTransaction.terminal same :)
  close terminal := of_commutes fun _ => rfl
  append := append

omit [TransitionStep Step] in
theorem books_folds : Folds (books (C := C)) :=
  @Folds.of_books Step C id id id id fun _ _ _ _ => of_erased fun _ => rfl

end KernelTransaction
end Deepstrike.Transaction

import Deepstrike.PlainParts
import Deepstrike.Refolding
import Deepstrike.TransactionRuns

/-!
A rebuild against the run it rebuilds. The run goes through guards, planner, screen, candidate slot
and commit; the rebuild plans the committed inputs again and folds the records, in the same order.
-/
namespace Deepstrike.Transaction.KernelTransaction
open Wire Record

variable {Step : Type} {C : Codec Step} [TransitionStep Step] {plan : PlanFn Step}

/-- A candidate that the planner still plans, and the chain still makes, behind this transaction. -/
structure Planned (plan : PlanFn Step) (tx : KernelTransaction C) (candidate : Candidate C) : Prop where
  planned : ∃ step_seq config, tx.next_step_seq = .ok step_seq ∧ candidate.input.resolved_config.or tx.config = some config ∧
    plan (tx.plan_context candidate.input step_seq config) = .ok candidate.step
  chained : chain_after (C := C) tx.head candidate.input candidate.step = .ok candidate.record
  measured : candidate.record_bytes = candidate.record.record_len

/-- A transaction whose committed records rebuild to its history. -/
structure Rebuilds (plan : PlanFn Step) (defaults : ConfigDefaults) (tx : KernelTransaction C)
    (trace : List (CommittedTransition C)) : Prop where
  candidate : ∀ candidate, tx.candidate = some candidate → Planned plan tx candidate
  chained : verify_chain_from none (recordsOf trace) = .ok ()
  head : tx.head = (recordsOf trace).getLast?.map KernelRecord.anchor
  replayed : ∀ index, ∃ rebuilt, replay_records (stateless plan) record_fault (new defaults index) (recordsOf trace) () = .ok rebuilt () ∧
    rebuilt.poison = none ∧ rebuilt.history = tx.history

variable {defaults : ConfigDefaults} {trace : List (CommittedTransition C)}

theorem Rebuilds.of_history {tx after : KernelTransaction C}
    (rebuilds : Rebuilds plan defaults tx trace) (same : after.history = tx.history)
    (candidates : ∀ candidate, after.candidate = some candidate → Planned plan after candidate) :
    Rebuilds plan defaults after trace := by
  refine ⟨candidates,rebuilds.chained,?_,?_⟩
  · rw [(PlansAlike.of_history same).head]
    exact rebuilds.head
  · intro index
    obtain ⟨rebuilt,replayed,clean,histories⟩ := rebuilds.replayed index
    exact ⟨rebuilt,replayed,clean,histories.trans same.symm⟩

/-- A commit is what the rebuild does with the record it appends. -/
theorem Rebuilds.commit {defaults : ConfigDefaults} {tx after : KernelTransaction C}
    {trace : List (CommittedTransition C)} {token : PrepareToken}
    {appended_head : Digest} {transition : CommittedTransition C} (trips : C.RoundTrips)
    (rebuilds : Rebuilds plan defaults tx trace)
    (committed : tx.commit token appended_head = (.ok transition,after)) :
    Rebuilds plan defaults after (trace ++ [transition]) := by
  obtain ⟨_,same,_⟩ | ⟨candidate,_,held,_,_,folded,same⟩ := commit_cases committed
  · cases same
  cases same
  obtain ⟨⟨step_seq,config,sequenced,configured,planned⟩,chained,measured⟩ := rebuilds.candidate candidate held
  rw [measured] at folded
  have facts := foldRecord_ok folded
  have follows := chain_after_follows chained
  have records : ∀ advice, recordsOf (trace ++ [(⟨candidate.record,candidate.step,candidate.record.step_seq,advice⟩ : CommittedTransition C)]) =
      recordsOf trace ++ [candidate.record] := fun _ => by simp [recordsOf]
  refine ⟨?_,?_,?_,?_⟩
  · intro other staged
    rw [facts.candidate] at staged
    cases staged
  · rw [records]
    refine verify_chain_snoc rebuilds.chained ?_
    rw [Option.or_none]
    exact (rebuilds.head ▸ follows : Follows _ _ _).verify_follows trips
  · rw [records,facts.head,List.getLast?_append]
    rfl
  intro index
  obtain ⟨rebuilt,replayed,clean,histories⟩ := rebuilds.replayed index
  have replanned : stateless plan (tx.plan_context candidate.input step_seq config) () = .ok candidate.step () := by
    simp only [stateless_eq,planned]
  obtain ⟨next,stepped,settled,same⟩ := replay_committed_of_folds history_folds clean (PlansAlike.of_history histories) histories
    sequenced configured replanned chained folded rfl
  have decoded : candidate.record.normalized_input = .ok candidate.input := trips _ _ follows.encoded
  refine ⟨next,?_,settled,same⟩
  rw [records,replay_records_append (stateless plan) record_fault (recordsOf trace) _ replayed]
  simp only [replay_records,decoded,Except.mapError,refuse,MonadExcept.ofExcept,bind,EStateM.bind,pure,EStateM.pure,stepped]

/-- In every run that was never poisoned, the committed records rebuild to the transaction. -/
theorem Run.rebuilds {resolve : Resolver} {index : RecordIndex C} {tx : KernelTransaction C} (trips : C.RoundTrips)
    (run : Run resolve (· = plan) defaults index tx trace)
    (clean : tx.poison = none) : Rebuilds plan defaults tx trace := by
  induction run with
  | new => exact ⟨by rintro _ ⟨⟩,rfl,rfl,fun index => ⟨_,rfl,rfl,rfl⟩⟩
  | prepare run allowed prepared ih =>
    obtain ⟨_,rfl⟩ | ⟨input,step_seq,config,step,record,admitted,planned,able,same⟩ := prepareWith_cases prepared
    · exact ih clean
    cases same
    cases allowed
    have chained := stageable_chained able
    refine (ih clean).of_history rfl ?_
    rintro candidate ⟨⟩
    exact ⟨⟨step_seq,config,admitted.sequenced,admitted.configured,planned⟩,chained,rfl⟩
  | commit run committed ih =>
    refine (ih ?_).commit trips committed
    obtain ⟨_,same,_⟩ | ⟨_,untouched,_⟩ := commit_cases committed
    · cases same
    · exact untouched
  | refused run refused ih =>
    obtain ⟨_,_,⟨poisoned,rfl⟩ | ⟨_,poisoned,_⟩⟩ | ⟨_,_,_,_,_,_,same⟩ := commit_cases refused
    · rw [poisoned] at clean
      cases clean
    · rw [clean] at poisoned
      cases poisoned
    · cases same
  | @abort tx trace token run ih =>
    obtain ⟨fault,same⟩ | ⟨candidate,untouched,_,_,same⟩ := abort_cases tx token
    · rw [same] at clean ⊢
      exact ih clean
    · rw [same]
      exact (ih untouched).of_history rfl (by rintro _ ⟨⟩)
  | conflict token observed_head run ih => simp [note_append_conflict,poison_with] at clean
  | @ack tx trace boundary run ih =>
  obtain ⟨tail,same⟩ := note_checkpoint_acked_tail tx boundary
  rw [same] at clean ⊢
  have rebuilds := ih clean
  refine rebuilds.of_history rfl fun candidate held => ?_
  obtain ⟨planned,chained,measured⟩ := rebuilds.candidate candidate held
  exact ⟨planned,chained,measured⟩

/-- What a rebuild owes the run: every ledger of the transaction. -/
structure SameLedgers (left right : KernelTransaction C) : Prop where
  operation_id : left.operation_id = right.operation_id
  genesis_digest : left.genesis_digest = right.genesis_digest
  config : left.config = right.config
  bounds : left.bounds = right.bounds
  head : left.head = right.head
  lifecycle : left.lifecycle = right.lifecycle
  terminal : left.terminal = right.terminal
  last_observed_at_ms : left.last_observed_at_ms = right.last_observed_at_ms
  steps : left.steps = right.steps
  accepted : left.accepted = right.accepted
  pending_effects : left.pending_effects = right.pending_effects
  resolved_effects : left.resolved_effects = right.resolved_effects
  launch_tokens : left.launch_tokens = right.launch_tokens
  accepted_cancellation : left.accepted_cancellation = right.accepted_cancellation

omit [TransitionStep Step] in
theorem SameLedgers.of_history {left right : KernelTransaction C} (same : left.history = right.history) :
    SameLedgers left right := by
  have shown : ∀ {α : Type} (view : KernelTransaction C → α), view left.history = view right.history := fun view => congrArg view same
  exact ⟨shown KernelTransaction.operation_id,shown KernelTransaction.genesis_digest,shown KernelTransaction.config,
    shown KernelTransaction.bounds,shown KernelTransaction.head,shown KernelTransaction.lifecycle,shown KernelTransaction.terminal,
    shown KernelTransaction.last_observed_at_ms,shown KernelTransaction.steps,shown KernelTransaction.accepted,
    shown KernelTransaction.pending_effects,shown KernelTransaction.resolved_effects,shown KernelTransaction.launch_tokens,
    shown KernelTransaction.accepted_cancellation⟩

/-- The records of a run that was never poisoned rebuild, on every index, to a transaction with the
    ledgers of the live one. -/
theorem rebuild_from_run {resolve : Resolver} {defaults : ConfigDefaults} {index : RecordIndex C}
    {tx : KernelTransaction C}
    {trace : List (CommittedTransition C)} (trips : C.RoundTrips) (run : Run resolve (· = plan) defaults index tx trace)
    (clean : tx.poison = none) (records : RecordIndex C) :
    ∃ rebuilt, rebuild_from_records (recordsOf trace) defaults records (stateless plan)
    () = .ok rebuilt () ∧ SameLedgers rebuilt tx := by
  have rebuilds := run.rebuilds trips clean
  obtain ⟨rebuilt,replayed,_,same⟩ := rebuilds.replayed records
  refine ⟨rebuilt,?_,SameLedgers.of_history same⟩
  rw [rebuild_of_chained rebuilds.chained]
  exact replayed

open PlainParts

/-- A planner that asks for a payload when the operation starts. -/
def askingOnce : PlanFn Vocabulary.PlannedStep := fun context =>
  match context.input.input with
  | .StartOperation .. => .ok ⟨none,none,[],.Effects [⟨"effect",context.input.input_id,.LoadPayload "handle" "ref"⟩]⟩
  | _ => .ok (.quiet none none)

/-- The plain operation, configured and started. -/
def startedPlainly : Option (List (CommittedTransition plainCodec) × KernelTransaction plainCodec) :=
  transactAll plain.resolve askingOnce plainFresh
    [plainEnvelope "configure" 1 (.ConfigureOperation ""),plainEnvelope "start" 2 (.StartOperation (.Agent "goal" [] none) "")]

/-- A started operation with an effect out is rebuilt from its two records. -/
theorem rebuild_from_started_run : ∃ trace tx, startedPlainly = some (trace,tx) ∧ trace.length = 2 ∧
    (tx.pending_effects["effect"]?).isSome ∧
    ∃ rebuilt, rebuild_from_records (recordsOf trace) plainDefaults ∅ (stateless askingOnce)
    () = .ok rebuilt () ∧ SameLedgers rebuilt tx := by
  obtain ⟨⟨trace,tx⟩,through,shape⟩ := (Option.any_eq_true _ _).mp (show startedPlainly.any fun (trace,tx) =>
    decide (trace.length = 2 ∧ (tx.pending_effects["effect"]?).isSome ∧ tx.poison = none) from by decide +kernel)
  obtain ⟨length,asked,clean⟩ := of_decide_eq_true shape
  have fresh : Run plain.resolve (· = askingOnce) plainDefaults ∅ plainFresh [] := .new
  have run : Run plain.resolve (· = askingOnce) plainDefaults ∅ tx trace := by
    refine Run.transactAll ?_ _ fresh through
    rfl
  exact ⟨trace,tx,through,length,asked,rebuild_from_run plain_round_trips run clean ∅⟩

end Deepstrike.Transaction.KernelTransaction

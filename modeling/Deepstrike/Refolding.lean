import Deepstrike.Committing

/-!
A second fold of the same records. Two transactions of one history, whatever their candidate slot,
their index and their tail, replay a committed transition to one history again.
-/
namespace Deepstrike.Transaction.KernelTransaction
open Wire Record Lockstep KernelTransaction

variable {Step D : Type} {C : Codec Step} [TransitionStep Step] {state state' : D}

/-- Two replays in a row are the replay of both lists. -/
theorem replay_records_append (plan : Planner D Step) (relabel : RecordError → KernelFault)
    (records rest : List (KernelRecord C))
    {tx middle : KernelTransaction C} (replayed : replay_records plan relabel tx records state = .ok middle state') :
    replay_records plan relabel tx (records ++ rest) state = replay_records plan relabel middle rest state' := by
  induction records generalizing tx state with
  | nil =>
    cases replayed
    rfl
  | cons record records ih =>
  obtain ⟨_,_,_,decoded,stepped,replayed⟩ := replay_records_cons.mp replayed
  rw [← ih replayed,List.cons_append]
  simp only [replay_records,bind,EStateM.bind,decoded,Except.mapError,refuse,MonadExcept.ofExcept,pure,EStateM.pure,stepped]

variable {records : List (KernelRecord C)} {plan : Planner D Step}

theorem rebuild_replays {defaults : ConfigDefaults} {index : RecordIndex C}
    {after : KernelTransaction C}
    (rebuilt : rebuild_from_records records defaults index plan state = .ok after state') :
    replay_records plan record_fault (new defaults index) records state = .ok after state' := by
  rw [rebuild_from_records_eq] at rebuilt
  split at rebuilt
  · exact rebuilt
  · cases rebuilt
  · exact rebuilt

/-- Over a verified chain a rebuild is its replay. -/
theorem rebuild_of_chained (chained : verify_chain_from none records = .ok ()) (defaults : ConfigDefaults)
    (index : RecordIndex C) (plan : Planner D Step) (state : D) :
    rebuild_from_records records defaults index plan state =
    replay_records plan record_fault (new defaults index) records state := by
  rw [rebuild_from_records_eq]
  cases records with
  | nil => rfl
  | cons first rest =>
  have verified : verify_record_chain (first :: rest) = .ok first.record_digest := by
    simp only [verify_record_chain,chained,bind,Except.bind]
  simp only [verified]

/-- What a replay has to reproduce of a transaction: all of it but the candidate slot, the index it
    is handed and the tail that checkpoints cut. -/
def history (tx : KernelTransaction C) : KernelTransaction C := { tx.books with index := ∅, tail := [] }

omit [TransitionStep Step] in
theorem history_folds : Folds (history (C := C)) := by
  refine @Folds.of_books Step C id (fun _ => ∅) id (fun _ => []) fun record step input record_bytes left right same => ?_
  have steps := congrArg steps same
  have accepted := congrArg accepted same
  cases left
  cases right
  simp only [id,books,append_record,mk.injEq] at same steps accepted ⊢
  simp [same]

/-- Two transactions that count and configure alike, and show a plan the same context. -/
structure PlansAlike (left right : KernelTransaction C) : Prop where
  next_step_seq : left.next_step_seq = right.next_step_seq
  config : left.config = right.config
  head : left.head = right.head
  plan_context : ∀ input step_seq config, left.plan_context input step_seq config = right.plan_context input step_seq config

/-- A transition that was planned, chained and folded on one transaction replays on every other that
    plans alike, and folds to the same view. -/
theorem replay_committed_of_folds {α : Type} {erase : KernelTransaction C → α} (folds : Folds erase)
    {tx live live' after : KernelTransaction C}
    {input : NormalizedInput} {step_seq : Nat} {config : ResolvedOperationConfig} {step : Step}
    {record : KernelRecord C} (clean : tx.poison = none) (alike : PlansAlike tx live) (same : erase tx = erase live)
    (sequenced : live.next_step_seq = .ok step_seq) (configured : input.resolved_config.or live.config = some config)
    (planned : plan (live.plan_context input step_seq config) state = .ok step state')
    (chained : chain_after (C := C) live.head input step = .ok record)
    (folded : foldRecord record step input record.record_len live' = .ok () after)
    (standing : erase live' = erase live) :
    ∃ transaction, tx.replay_committed input record.record_digest plan state = .ok transaction state' ∧
    transaction.poison = none ∧
      erase transaction = erase after := by
  have folding := foldRecord_lockstep folds record step input record.record_len tx live' (same.trans standing.symm)
  rw [folded] at folding
  cases again : foldRecord record step input record.record_len tx with
  | error fault transaction =>
    rw [again] at folding
    exact folding.elim
  | ok _ transaction =>
  rw [again] at folding
  refine ⟨transaction,?_,(foldRecord_ok again).poison.trans clean,folding.2⟩
  rw [replay_committed_eq tx input record.record_digest plan state clean (alike.next_step_seq.trans sequenced) (alike.config ▸ configured),
    alike.plan_context,planned]
  simp only [alike.head,chained,ne_eq,not_true_eq_false,if_false,again]

omit [TransitionStep Step] in
theorem PlansAlike.of_history {left right : KernelTransaction C} (same : left.history = right.history) :
    PlansAlike left right :=
  ⟨(congrArg KernelTransaction.next_step_seq same :),(congrArg KernelTransaction.config same :),(congrArg KernelTransaction.head same :),
    fun input step_seq config => (congrArg (fun tx : KernelTransaction C => tx.plan_context input step_seq config) same :)⟩

/-- What a checkpoint and a replay of what lies behind it must bring back of a transaction, whatever
    the index and the steps they start from. -/
def bareBooks (tx : KernelTransaction C) : KernelTransaction C :=
  { tx.books with index := ∅, steps := ∅, replay_floor := none, tail := [] }

omit [TransitionStep Step] in
theorem bareBooks_folds : Folds (bareBooks (C := C)) :=
  @Folds.of_books Step C (fun _ => none) (fun _ => ∅) (fun _ => ∅) (fun _ => []) fun _ _ _ _ => Respects.of_erased fun _ => rfl

omit [TransitionStep Step] in
theorem PlansAlike.of_bareBooks {left right : KernelTransaction C} (same : left.bareBooks = right.bareBooks) :
    PlansAlike left right :=
  ⟨(congrArg KernelTransaction.next_step_seq same :),(congrArg KernelTransaction.config same :),(congrArg KernelTransaction.head same :),
    fun input step_seq config => (congrArg (fun tx : KernelTransaction C => tx.plan_context input step_seq config) same :)⟩

end Deepstrike.Transaction.KernelTransaction

import Deepstrike.Lives
import Deepstrike.Rebuilding

/-!
An input is accepted once, whichever runtime of its operation it is delivered to again. The record
answers for its payload as long as the index has it; behind a checkpoint the ledger answers for the
id alone.
-/
namespace Deepstrike.Transaction.KernelTransaction
open Wire Record Option RecordIndex NormalizedInput

variable {Step : Type} {C : Codec Step}

private theorem replay_of_answerable {tx : KernelTransaction C} {twin : KernelRecord C} (answerable : Answerable tx twin.input_id twin) :
    tx.replay_of twin = .ok (.Replayed (some twin) twin.record_digest tx.steps[twin.input_id]? twin.step_seq) := by
  unfold replay_of
  obtain ⟨step,held,verified⟩ | ⟨absent,below⟩ := answerable
  · simp only [held,verified,Except.mapError,bind,Except.bind]
  · simp only [absent,below,if_true]

section
variable {defaults : ConfigDefaults} {tx : KernelTransaction C} {journal : List (KernelRecord C)} {record : KernelRecord C}

variable {twin : KernelRecord C}

theorem Lives.twins (lives : Lives defaults tx journal) (clean : tx.poison = none) (member : record ∈ journal)
    (found : record_for_input tx.index record.operation_id record.input_id = some twin) : Twins record twin := by
  obtain ⟨other,listed,_,named,twins⟩ := (lives.standing clean).index.found _ _ twin found
  have same : other = record := List.inj_on_of_nodup_map lives.journaled.ids_once listed member named
  exact same ▸ twins

theorem Lives.replay_of (lives : Lives defaults tx journal) (clean : tx.poison = none) (member : record ∈ journal)
    (found : record_for_input tx.index record.operation_id record.input_id = some twin) :
    tx.replay_of twin = .ok (.Replayed (some twin) record.record_digest tx.steps[record.input_id]?
    record.step_seq) := by
  have twins := lives.twins clean member found
  have answerable := (lives.standing clean).ledgers.answered record member twin found
  rw [← twins.input_id] at answerable
  rw [replay_of_answerable answerable,twins.input_id,twins.record_digest,twins.step_seq]

/-- The guards answer a repeated input from its record, or by reference where the record is gone. -/
theorem Lives.admissionOf (lives : Lives defaults tx journal) (member : record ∈ journal) {input : NormalizedInput}
    (preparable : tx.check_preparable input.operation_id = .ok ()) (named : input.input_id = record.input_id)
    {bytes : C.Bytes}
    (encoded : C.encode_input input = .ok bytes) :
    tx.admissionOf input =
      match record_for_input tx.index record.operation_id record.input_id with
      | some twin =>
        if record.canonical_input ≠ bytes then
          .error (.fault ⟨.DuplicateInputConflict,s!"input {input.input_id} was already accepted at step {record.step_seq} with a different payload"⟩)
        else .ok (.answered (.Replayed (some twin) record.record_digest tx.steps[record.input_id]? record.step_seq))
      | none => .ok (.answered (.Replayed none record.record_digest none record.step_seq)) := by
  obtain ⟨clean,_⟩ := idle_of_preparable preparable
  have standing := lives.standing clean
  have owner := owner_of_preparable preparable (standing.ledgers.owned record member)
  rw [owner] at preparable
  unfold KernelTransaction.admissionOf
  simp only [preparable,encoded,refuse,Except.mapError,bind,Except.bind,owner,named]
  cases found : record_for_input tx.index record.operation_id record.input_id with
  | some twin =>
    have twins := lives.twins clean member found
    simp only [twins.canonical_input,twins.step_seq,lives.replay_of clean member found]
    rfl
  | none =>
  obtain held | ⟨floor,floored,covered⟩ := standing.index.held record member
  · rw [found] at held
    cases held
  · have referenced : (tx.accepted[record.input_id]?.filter fun entry => tx.below_replay_floor entry.step_seq) =
        some ⟨record.input_id,record.step_seq,record.record_digest⟩ := by
      simp [standing.ledgers.accepted record member,Option.filter,below_replay_floor,floored,covered]
    simp only [referenced,replay_by_reference]

end

variable [TransitionStep Step]

/-- What a runtime owes a redelivery of an accepted input: it moves nothing and prepares nothing; an
    idle runtime tells another payload apart while it has the record, and refers to the accepted one
    where a checkpoint covers it and the record is gone. -/
structure Redelivered (resolve : Resolver) (tx : KernelTransaction C) (record : KernelRecord C) (envelope : WireEnvelope)
    (preparation : KernelPreparation C) : Prop where
  unprepared : preparation.isPrepared = false
  busy : tx.poison.isSome ∨ tx.candidate.isSome → ∃ fault, preparation = .Rejected fault
  conflict : tx.poison = none → tx.candidate = none → envelope.operation_id = record.operation_id → ∀ input bytes,
    normalize resolve envelope tx.defaults = .ok input → C.encode_input input = .ok bytes → bytes ≠ record.canonical_input →
    (record_for_input tx.index record.operation_id record.input_id).isSome →
      ∃ fault, preparation = .Rejected fault ∧ fault.code = .DuplicateInputConflict
  reference : tx.poison = none → tx.candidate = none → envelope.operation_id = record.operation_id → ∀ input bytes,
    normalize resolve envelope tx.defaults = .ok input → C.encode_input input = .ok bytes →
    record_for_input tx.index record.operation_id record.input_id = none →
      preparation = .Replayed none record.record_digest none record.step_seq ∧ ∃ floor, tx.replay_floor = some floor ∧
      record.step_seq ≤ floor
  acknowledged : tx.poison = none → tx.candidate = none → envelope.operation_id = record.operation_id → ∀ input,
    normalize resolve envelope tx.defaults = .ok input → C.encode_input input = .ok record.canonical_input →
      ∃ held step, preparation = .Replayed held record.record_digest step record.step_seq

/-- Over all the runtimes of an operation no input is committed twice, and a redelivery is answered
    from what was accepted. -/
theorem accepted_once (trips : C.RoundTrips) {resolve : Resolver} {defaults : ConfigDefaults} {tx : KernelTransaction C}
    {journal durable : List (KernelRecord C)} (life : Life resolve defaults tx journal)
    (left : Leaves tx journal durable) :
    (durable.map KernelRecord.input_id).Nodup ∧ ∀ record ∈ journal, ∀ envelope plan,
    envelope.input_id = record.input_id →
      ∃ preparation, tx.prepareWith resolve envelope plan = .ok (preparation,tx) ∧
      Redelivered resolve tx record envelope preparation := by
  have lives := life.lives trips
  refine ⟨(lives.leaves left).ids_once,?_⟩
  intro record member envelope plan named
  rw [prepareWith_eq]
  unfold screened
  cases preparable : tx.check_preparable envelope.operation_id with
  | error fault =>
    refine ⟨.Rejected fault,rfl,rfl,fun _ => ⟨fault,rfl⟩,?_,?_,?_⟩
    all_goals
      intro clean free same
      simp [check_preparable,clean,free,(lives.standing clean).ledgers.owned record member,same] at preparable
  | ok _ =>
  obtain ⟨clean,free⟩ := idle_of_preparable preparable
  have idle : ∀ preparation : KernelPreparation C, tx.poison.isSome ∨ tx.candidate.isSome → ∃ fault, preparation = .Rejected fault := by
    intro _ busy
    simp [clean,free] at busy
  cases normalized : normalize resolve envelope tx.defaults with
  | error rejection =>
    refine ⟨.Rejected (rejection_fault rejection),rfl,rfl,idle _,?_,?_,?_⟩
    all_goals
      intro _ _ _ input
      simp [normalized]
  | ok input =>
  have facts := normalize_facts normalized
  cases encoded : C.encode_input input with
  | error error =>
    have refused : tx.admissionOf input = .error (.fault (record_fault error)) := by
      simp only [KernelTransaction.admissionOf,facts.operation_id,preparable,encoded,refuse,Except.mapError,bind,Except.bind]
    simp only [refuse,Except.mapError,bind,Except.bind,refused,settledHalt]
    have unencodable : ∀ input' bytes, normalize resolve envelope tx.defaults = .ok input' → C.encode_input input' ≠ .ok bytes := by
      intro input' bytes normal' encoded'
      cases normalized.symm.trans normal'
      cases encoded.symm.trans encoded'
    refine ⟨.Rejected (record_fault error),rfl,rfl,idle _,?_,?_,?_⟩
    · intro _ _ _ input' bytes normal' encoded'
      exact absurd encoded' (unencodable input' bytes normal')
    · intro _ _ _ input' bytes normal' encoded'
      exact absurd encoded' (unencodable input' bytes normal')
    · intro _ _ _ input' normal' encoded'
      exact absurd encoded' (unencodable input' _ normal')
  | ok bytes =>
  have admission := lives.admissionOf member (facts.operation_id ▸ preparable) (facts.input_id.trans named) encoded
  simp only [refuse,Except.mapError,bind,Except.bind,admission]
  cases found : record_for_input tx.index record.operation_id record.input_id with
  | none =>
    refine ⟨.Replayed none record.record_digest none record.step_seq,rfl,rfl,idle _,?_,?_,?_⟩
    · intro _ _ _ _ _ _ _ _ held
      rw [found] at held
      cases held
    · intro _ _ _ _ _ _ _ _
      obtain held | floor := (lives.standing clean).index.held record member
      · rw [found] at held
        cases held
      · exact ⟨rfl,floor⟩
    · intro _ _ _ _ _ _
      exact ⟨none,none,rfl⟩
  | some twin =>
  by_cases same : record.canonical_input = bytes
  · simp only [same,ne_eq,not_true_eq_false,if_false]
    refine ⟨.Replayed (some twin) record.record_digest tx.steps[record.input_id]? record.step_seq,rfl,rfl,idle _,?_,?_,?_⟩
    · intro _ _ _ input' bytes' normal' encoded' other
      cases normalized.symm.trans normal'
      cases encoded.symm.trans encoded'
      exact absurd same.symm other
    · intro _ _ _ _ _ _ _ lost
      rw [found] at lost
      cases lost
    · intro _ _ _ _ _ _
      exact ⟨_,_,rfl⟩
  simp only [ne_eq,same,not_false_eq_true,if_true,settledHalt]
  refine ⟨_,rfl,rfl,idle _,?_,?_,?_⟩
  · intro _ _ _ _ _ _ _ _ _
    exact ⟨_,rfl,rfl⟩
  · intro _ _ _ _ _ _ _ lost
    rw [found] at lost
    cases lost
  · intro _ _ _ input' normal' encoded'
    cases normalized.symm.trans normal'
    exact absurd (Except.ok.inj (encoded.symm.trans encoded')).symm same

open PlainParts

/-- The start of the plain operation, delivered again with another goal. -/
def startedOtherwise : WireEnvelope := plainEnvelope "start" 2 (.StartOperation (.Agent "another goal" [] none) "")

theorem startedPlainly_life {trace : List (CommittedTransition plainCodec)} {tx : KernelTransaction plainCodec}
    (through : startedPlainly = some (trace,tx)) : Life plain.resolve plainDefaults tx (recordsOf trace) :=
  Life.transactAll _ .new through

/-- How a preparation was answered. -/
inductive Verdict where
  | prepared | replayed (step_seq : Nat) | rejected (code : KernelFaultCode)
  deriving DecidableEq,Repr

def verdictOf : KernelPreparation C → Verdict
  | .Prepared .. => .prepared
  | .Replayed _ _ _ step_seq => .replayed step_seq
  | .Rejected fault => .rejected fault.code

/-- The verdict on an envelope; `none` is a panic. -/
def verdict (resolve : Resolver) (tx : KernelTransaction C) (envelope : WireEnvelope) (plan : PlanFn Step) : Option Verdict :=
  (tx.prepareWith resolve envelope plan).toOption.map fun answer => verdictOf answer.1

/-- The live runtime tells the other goal apart. -/
theorem accepted_once_started : ∃ trace tx record preparation, startedPlainly = some (trace,tx) ∧
    record ∈ recordsOf trace ∧
    tx.prepareWith plain.resolve startedOtherwise askingOnce = .ok (preparation,tx) ∧
    Redelivered plain.resolve tx record startedOtherwise preparation ∧
    verdictOf preparation = .rejected .DuplicateInputConflict := by
  obtain ⟨⟨trace,tx⟩,through,told⟩ := (any_eq_true _ _).mp (show startedPlainly.any fun (trace,tx) =>
    (recordsOf trace).any (fun record => decide (record.input_id = "start")) &&
      decide (verdict plain.resolve tx startedOtherwise askingOnce = some (.rejected .DuplicateInputConflict)) from by decide +kernel)
  obtain ⟨found,told⟩ := Bool.and_eq_true_iff.mp told
  obtain ⟨record,member,named⟩ := List.any_eq_true.mp found
  obtain ⟨_,redelivered⟩ := accepted_once plain_round_trips (startedPlainly_life through) (.inl rfl)
  obtain ⟨preparation,answered,owed⟩ := redelivered record member startedOtherwise askingOnce (of_decide_eq_true named).symm
  have told := of_decide_eq_true told
  simp only [verdict,answered,Except.toOption,map_some,some.injEq] at told
  exact ⟨trace,tx,record,preparation,through,member,answered,owed,told⟩

/-- A runtime restored from the checkpoint of the started operation, behind which nothing is left in
    the index. -/
def prunedPlainly : Option (List (KernelRecord plainCodec) × KernelTransaction plainCodec) := do
  let (trace,tx) ← startedPlainly
  let restored ← tx.restoredAt none none plainDefaults ∅
  if tx.poison = none then pure (recordsOf trace,restored) else none

private theorem prunedPlainly_life {journal : List (KernelRecord plainCodec)} {tx : KernelTransaction plainCodec}
    (through : prunedPlainly = some (journal,tx)) : Life plain.resolve plainDefaults tx journal := by
  unfold prunedPlainly at through
  obtain ⟨⟨trace,live⟩,started,through⟩ := bind_eq_some_iff.mp through
  obtain ⟨restored,own,through⟩ := bind_eq_some_iff.mp through
  split at through
  next clean =>
    cases through
    exact (startedPlainly_life started).pruned plain_round_trips clean own
  next => cases through

/-- Not every redelivery with another payload is a conflict: behind a checkpoint the ledger
    acknowledges the id. -/
theorem other_payload_acknowledged : ¬∀ (tx : KernelTransaction plainCodec) (journal : List (KernelRecord plainCodec))
    (record : KernelRecord plainCodec) (envelope : WireEnvelope) (plan : PlanFn Vocabulary.PlannedStep)
    (input : NormalizedInput),
    Life plain.resolve plainDefaults tx journal → tx.poison = none → tx.candidate = none → record ∈ journal →
    normalize plain.resolve envelope tx.defaults = .ok input → input.operation_id = record.operation_id →
    input.input_id = record.input_id → plainCodec.encode_input input ≠ .ok record.canonical_input →
    verdict plain.resolve tx envelope plan = some (.rejected .DuplicateInputConflict) := by
  intro conflicts
  obtain ⟨⟨journal,tx⟩,through,told⟩ := (any_eq_true _ _).mp (show prunedPlainly.any fun (journal,tx) =>
    decide (tx.poison = none) && tx.candidate.isNone && journal.any (fun record =>
      match normalize plain.resolve startedOtherwise tx.defaults with
      | .ok input => decide (input.operation_id = record.operation_id ∧ input.input_id = record.input_id ∧
          plainCodec.encode_input input ≠ .ok record.canonical_input ∧
          verdict plain.resolve tx startedOtherwise askingOnce ≠ some (.rejected .DuplicateInputConflict))
      | .error _ => false) from by decide +kernel)
  obtain ⟨idle,told⟩ := Bool.and_eq_true_iff.mp told
  obtain ⟨clean,free⟩ := Bool.and_eq_true_iff.mp idle
  obtain ⟨record,member,facts⟩ := List.any_eq_true.mp told
  split at facts
  next input normalized =>
    obtain ⟨owner,named,differs,acknowledged⟩ := of_decide_eq_true facts
    exact acknowledged (conflicts tx journal record startedOtherwise askingOnce input (prunedPlainly_life through) (of_decide_eq_true clean)
      (isNone_iff_eq_none.mp free) member normalized owner named differs)
  next => cases facts

end Deepstrike.Transaction.KernelTransaction

import Deepstrike.Accepting

/-!
An effect is resolved once and an operation cancelled once. A repetition under a fresh input id gets
past the input ledger; the ledgers of resolutions and of the cancellation answer it, from the record
they point to.
-/
namespace Deepstrike.Transaction.KernelTransaction
open Wire Record RecordIndex Option

variable {Step : Type} {C : Codec Step}

/-- A record that resolves this effect with this outcome, or cancels with this command. -/
def Resolves (record : KernelRecord C) (effect_id : EffectId) (outcome : EffectOutcome) : Prop :=
  ∃ input, record.normalized_input = .ok input ∧ input.input = .ResolveEffect effect_id outcome
def CancelsWith (record : KernelRecord C) (reason : CancellationReason) (calls : List CallId) : Prop :=
  ∃ input, record.normalized_input = .ok input ∧ input.input = .HostControl (.Cancel reason calls)

/-- A later delivery under a fresh input id, to an idle runtime of the operation: its clock does not
    run back and its input is within the operation's byte limit. -/
structure Delivers (resolve : Resolver) (tx : KernelTransaction C) (journal : List (KernelRecord C)) (envelope : WireEnvelope)
    (input : NormalizedInput) : Prop where
  clean : tx.poison = none
  free : tx.candidate = none
  owner : tx.operation_id = some envelope.operation_id
  normalized : NormalizedInput.normalize resolve envelope tx.defaults = .ok input
  fresh : ∀ record ∈ journal, record.input_id ≠ envelope.input_id
  clock : tx.last_observed_at_ms ≤ envelope.observed_at_ms
  sized : ∃ bytes, C.encode_input input = .ok bytes ∧ ∀ config, tx.config = some config → C.bytes_len bytes ≤ config.max_input_bytes

/-- The guards an input class has of its own, and the lifecycle check between them. -/
def classGuard (tx : KernelTransaction C) (input : NormalizedInput) : Except Halt (Option (KernelPreparation C)) := do
  match ← tx.duplicate_guard input with
  | some preparation => .ok (some preparation)
  | none =>
    if tx.lifecycle ∉ input.input.admissible_lifecycles then
      .error (.fault ⟨.InvalidLifecycle,s!"a {input.input.kind} input is not admissible while the operation is {tx.lifecycle.debug}"⟩)
    else tx.resolution_guard input

variable {resolve : Resolver} {envelope : WireEnvelope}

/-- A fresh delivery gets as far as the guards of its own class. -/
theorem Delivers.admissionOf {defaults : ConfigDefaults} {tx : KernelTransaction C} {journal : List (KernelRecord C)}
    {input : NormalizedInput} (lives : Lives defaults tx journal)
    (delivers : Delivers resolve tx journal envelope input) :
    (∀ halt, tx.classGuard input = .error halt → tx.admissionOf input = .error halt) ∧
      ∀ preparation, tx.classGuard input = .ok (some preparation) →
      tx.admissionOf input = .ok (.answered preparation) := by
  have facts := normalize_facts delivers.normalized
  have standing := lives.standing delivers.clean
  obtain ⟨bytes,encoded,sized⟩ := delivers.sized
  have preparable : tx.check_preparable input.operation_id = .ok () := by
    simp only [check_preparable,delivers.clean,delivers.free,delivers.owner,facts.operation_id,ne_eq,not_true_eq_false,if_false]
  have unindexed : record_for_input tx.index input.operation_id input.input_id = none := by
    cases found : record_for_input tx.index input.operation_id input.input_id with
    | none => rfl
    | some twin =>
    obtain ⟨record,member,_,named,_⟩ := standing.index.found _ _ twin found
    exact absurd (named.trans facts.input_id) (delivers.fresh record member)
  have unaccepted : tx.accepted[input.input_id]? = none := by
    cases held : tx.accepted[input.input_id]? with
    | none => rfl
    | some entry =>
    obtain ⟨record,member,named⟩ := standing.ledgers.listed _ entry held
    exact absurd (named.trans facts.input_id) (delivers.fresh record member)
  have within : (tx.config.filter fun config => config.max_input_bytes < C.bytes_len bytes) = none := by
    cases configured : tx.config with
    | none => rfl
    | some config =>
    have bound := sized config configured
    simp only [filter_some,decide_eq_true_eq,Nat.not_lt.mpr bound,if_false]
  have clock : ¬input.observed_at_ms < tx.last_observed_at_ms := by
    rw [facts.observed_at_ms]
    exact Nat.not_lt.mpr delivers.clock
  unfold KernelTransaction.admissionOf classGuard
  simp only [preparable,encoded,unindexed,unaccepted,within,clock,refuse,Except.mapError,bind,Except.bind,filter_none,if_false]
  cases tx.duplicate_guard input with
  | error halt => exact ⟨fun _ same => (by cases same; rfl),fun _ same => by cases same⟩
  | ok answer =>
  cases answer with
  | some preparation => exact ⟨fun _ same => (by cases same),fun _ same => by cases same; rfl⟩
  | none =>
  by_cases admissible : tx.lifecycle ∈ input.input.admissible_lifecycles
  · simp only [admissible,not_true_eq_false,if_false]
    cases tx.resolution_guard input with
    | error halt => exact ⟨fun _ same => (by cases same; rfl),fun _ same => by cases same⟩
    | ok answer => exact ⟨fun _ same => (by cases same),fun _ same => by cases same; rfl⟩
  · simp only [admissible,not_false_eq_true,if_true]
    exact ⟨fun _ same => (by cases same; rfl),fun _ same => by cases same⟩

/-- The answer a fresh delivery gets from its own guards. -/
theorem Delivers.prepareWith [TransitionStep Step] {defaults : ConfigDefaults} {tx : KernelTransaction C}
    {journal : List (KernelRecord C)} {input : NormalizedInput} (lives : Lives defaults tx journal)
    (delivers : Delivers resolve tx journal envelope input) (plan : PlanFn Step) :
    (∀ fault, tx.classGuard input = .error (.fault fault) →
    tx.prepareWith resolve envelope plan = .ok (.Rejected fault,tx)) ∧
      ∀ preparation, tx.classGuard input = .ok (some preparation) →
      tx.prepareWith resolve envelope plan = .ok (preparation,tx) := by
  obtain ⟨refused,answered⟩ := delivers.admissionOf lives
  have preparable : tx.check_preparable envelope.operation_id = .ok () := by
    simp only [check_preparable,delivers.clean,delivers.free,delivers.owner,ne_eq,not_true_eq_false,if_false]
  refine ⟨fun fault guarded => ?_,fun preparation guarded => ?_⟩
  · rw [prepareWith_eq]
    simp only [screened,preparable,delivers.normalized,refuse,Except.mapError,bind,Except.bind,refused _ guarded,settledHalt]
  · rw [prepareWith_eq]
    simp only [screened,preparable,delivers.normalized,refuse,Except.mapError,bind,Except.bind,answered _ guarded]

section
variable {defaults : ConfigDefaults} {tx : KernelTransaction C} {journal : List (KernelRecord C)} {record : KernelRecord C}
  {input : NormalizedInput}

private theorem mapError_ok {ε δ α : Type} {answer : Except ε α} {relabel : ε → δ} {value : α}
    (mapped : answer.mapError relabel = .ok value) : answer = .ok value := by
  cases answer with
  | error error => cases mapped
  | ok _ => rw [Except.ok.inj mapped]

private theorem Lives.existing_record (lives : Lives defaults tx journal) (clean : tx.poison = none) (member : record ∈ journal) :
    tx.existing_record record.input_id = .ok (record_for_input tx.index record.operation_id record.input_id) := by
  simp only [KernelTransaction.existing_record,(lives.standing clean).ledgers.owned record member]

/-- What the guards of an open operation say to a resolution of a resolved effect. -/
theorem Lives.resolved_again (lives : Lives defaults tx journal) (clean : tx.poison = none) (member : record ∈ journal)
    {effect_id : EffectId} {outcome again : EffectOutcome} (resolves : Resolves record effect_id outcome)
    (kind : input.input = .ResolveEffect effect_id again) :
    (C.outcome_digest again ≠ C.outcome_digest outcome → ∃ fault, tx.classGuard input = .error (.fault fault)) ∧
    (C.outcome_digest again = C.outcome_digest outcome → tx.lifecycle ∈ [.Running,.Suspended] → ∀ twin,
      record_for_input tx.index record.operation_id record.input_id = some twin →
        tx.classGuard input = .ok
        (some (.Replayed (some twin) record.record_digest tx.steps[record.input_id]? record.step_seq))) := by
  obtain ⟨original,decoded,resolution⟩ := resolves
  obtain ⟨digest,hashed,held⟩ := (lives.standing clean).ledgers.resolved record member original effect_id outcome decoded resolution
  have known : C.outcome_digest outcome = .ok digest := mapError_ok hashed
  have undeduplicated : tx.duplicate_guard input = .ok none := by simp only [duplicate_guard,kind]
  have guard : tx.resolution_guard input = tx.resolve_effect_guard effect_id again := by simp only [resolution_guard,kind]
  have admissible : input.input.admissible_lifecycles = [.Running,.Suspended] := by simp only [kind,NormalizedPayload.admissible_lifecycles]
  simp only [classGuard,undeduplicated,guard,admissible,resolve_effect_guard,kernel_outcome_digest,held,bind,Except.bind,known]
  constructor
  · intro differs
    split
    · exact ⟨_,rfl⟩
    cases rehashed : C.outcome_digest again with
    | error error => exact ⟨record_fault error,rfl⟩
    | ok other =>
    have apart : digest ≠ other := fun same => differs (by rw [rehashed,same])
    simp only [Except.mapError,refuse,ne_eq,apart,not_false_eq_true,if_true]
    exact ⟨_,rfl⟩
  intro same opened twin found
  rw [same]
  simp only [opened,not_true_eq_false,if_false,Except.mapError,refuse,ne_eq,lives.existing_record clean member,found,
    lives.replay_of clean member found]
  rfl

/-- What the guards say to a cancellation of a cancelled operation. -/
theorem Lives.cancelled_again (lives : Lives defaults tx journal) (clean : tx.poison = none) (member : record ∈ journal)
    {reason again_reason : CancellationReason} {calls again_calls : List CallId}
    (cancelled : CancelsWith record reason calls)
    (kind : input.input = .HostControl (.Cancel again_reason again_calls)) :
    (C.cancel_digest again_reason again_calls ≠ C.cancel_digest reason calls →
    ∃ fault, tx.classGuard input = .error (.fault fault)) ∧
    (C.cancel_digest again_reason again_calls = C.cancel_digest reason calls → ∀ twin,
      record_for_input tx.index record.operation_id record.input_id = some twin →
        tx.classGuard input = .ok
        (some (.Replayed (some twin) record.record_digest tx.steps[record.input_id]? record.step_seq))) := by
  obtain ⟨original,decoded,cancellation⟩ := cancelled
  obtain ⟨digest,hashed,held⟩ := (lives.standing clean).ledgers.cancelled record member original reason calls decoded cancellation
  have known : C.cancel_digest reason calls = .ok digest := mapError_ok hashed
  have guard : tx.duplicate_guard input = tx.cancel_guard again_reason again_calls := by simp only [duplicate_guard,kind]
  simp only [classGuard,guard,cancel_guard,kernel_cancel_digest,held,bind,Except.bind,known]
  constructor
  · intro differs
    cases rehashed : C.cancel_digest again_reason again_calls with
    | error error => exact ⟨record_fault error,rfl⟩
    | ok other =>
    have apart : digest ≠ other := fun same => differs (by rw [rehashed,same])
    simp only [Except.mapError,refuse,ne_eq,apart,not_false_eq_true,if_true]
    exact ⟨_,rfl⟩
  intro same twin found
  rw [same]
  simp only [not_true_eq_false,if_false,Except.mapError,refuse,ne_eq,lives.existing_record clean member,found,
    lives.replay_of clean member found]
  rfl

end

/-- A repeated resolution of an open operation, or a repeated cancellation, is answered with the step
    of the original as long as its record is in the index; another outcome or command is refused. -/
theorem settled_once [TransitionStep Step] (trips : C.RoundTrips) {resolve : Resolver} {defaults : ConfigDefaults}
    {tx : KernelTransaction C}
    {journal : List (KernelRecord C)} (life : Life resolve defaults tx journal) {record : KernelRecord C}
    (member : record ∈ journal)
    {envelope : WireEnvelope} {input : NormalizedInput} (delivers : Delivers resolve tx journal envelope input)
    (plan : PlanFn Step) :
    (∀ effect_id outcome again, Resolves record effect_id outcome → input.input = .ResolveEffect effect_id again →
      (C.outcome_digest again ≠ C.outcome_digest outcome →
      ∃ fault, tx.prepareWith resolve envelope plan = .ok (.Rejected fault,tx)) ∧
      (C.outcome_digest again = C.outcome_digest outcome → tx.lifecycle ∈ [.Running,.Suspended] →
        (record_for_input tx.index record.operation_id record.input_id).isSome →
          ∃ held step, tx.prepareWith resolve envelope plan =
          .ok (.Replayed held record.record_digest step record.step_seq,tx))) ∧
    (∀ reason calls again_reason again_calls, CancelsWith record reason calls →
      input.input = .HostControl (.Cancel again_reason again_calls) →
      (C.cancel_digest again_reason again_calls ≠ C.cancel_digest reason calls →
        ∃ fault, tx.prepareWith resolve envelope plan = .ok (.Rejected fault,tx)) ∧
      (C.cancel_digest again_reason again_calls = C.cancel_digest reason calls →
        (record_for_input tx.index record.operation_id record.input_id).isSome →
          ∃ held step, tx.prepareWith resolve envelope plan =
          .ok (.Replayed held record.record_digest step record.step_seq,tx))) := by
  have lives := life.lives trips
  obtain ⟨refused,answered⟩ := delivers.prepareWith lives plan
  constructor
  · intro effect_id outcome again resolves kind
    obtain ⟨other,same⟩ := lives.resolved_again delivers.clean member resolves kind
    refine ⟨fun differs => ?_,fun equal opened held => ?_⟩
    · obtain ⟨fault,guarded⟩ := other differs
      exact ⟨fault,refused fault guarded⟩
    · obtain ⟨twin,found⟩ := isSome_iff_exists.mp held
      exact ⟨some twin,_,answered _ (same equal opened twin found)⟩
  intro reason calls again_reason again_calls cancelled kind
  obtain ⟨other,same⟩ := lives.cancelled_again delivers.clean member cancelled kind
  refine ⟨fun differs => ?_,fun equal held => ?_⟩
  · obtain ⟨fault,guarded⟩ := other differs
    exact ⟨fault,refused fault guarded⟩
  · obtain ⟨twin,found⟩ := isSome_iff_exists.mp held
    exact ⟨some twin,_,answered _ (same equal twin found)⟩

open PlainParts

/-- A planner that asks for a payload at the start and ends where `ends` says so once it is answered. -/
def askingThen (ends : Bool) : PlanFn Vocabulary.PlannedStep := fun context =>
  match context.input.input with
  | .ResolveEffect .. =>
    .ok (if ends then ⟨none,none,[],.Terminal (.Agent .Completed none none ⟨0,0⟩)⟩ else .quiet none none)
  | _ => askingOnce context

/-- The host could not load the payload. -/
def unloaded : EffectOutcome := .Failed ⟨.StorageUnavailable,""⟩

/-- The plain operation with its one effect resolved. -/
def answeredPlainly (ends : Bool) : Option (List (CommittedTransition plainCodec) × KernelTransaction plainCodec) :=
  transactAll plain.resolve (askingThen ends) plainFresh
    [plainEnvelope "configure" 1 (.ConfigureOperation ""),plainEnvelope "start" 2 (.StartOperation (.Agent "goal" [] none) ""),
      plainEnvelope "answer" 3 (.ResolveEffect "effect" unloaded)]

/-- The same answer under another input id. -/
def answeredAgain : NormalizedInput := ⟨"op","again",4,.ResolveEffect "effect" unloaded⟩

/-- The third record resolves the effect, and the answer can be delivered again. -/
def redeliverable (ends : Bool) : Bool :=
  (answeredPlainly ends).any fun (trace,tx) =>
    decide (tx.poison = none ∧ tx.operation_id = some "op" ∧ tx.last_observed_at_ms ≤ 4) && tx.candidate.isNone &&
      (tx.config.all fun config => decide (1 ≤ config.max_input_bytes)) &&
      (recordsOf trace).all (fun record => decide (record.input_id ≠ "again")) &&
      (recordsOf trace).any fun record =>
        decide (record.normalized_input.toOption = some ⟨"op","answer",3,.ResolveEffect "effect" unloaded⟩) &&
        (record_for_input tx.index record.operation_id record.input_id).isSome

private theorem redeliverable_facts {ends : Bool} (checked : redeliverable ends = true) :
    ∃ trace tx record, answeredPlainly ends = some (trace,tx) ∧ Life plain.resolve plainDefaults tx (recordsOf trace) ∧ record ∈ recordsOf trace ∧
      Resolves record "effect" unloaded ∧ (record_for_input tx.index record.operation_id record.input_id).isSome ∧
      Delivers plain.resolve tx (recordsOf trace) (plainEnvelope "again" 4 (.ResolveEffect "effect" unloaded)) answeredAgain := by
  obtain ⟨⟨trace,tx⟩,through,facts⟩ := (any_eq_true _ _).mp checked
  simp only [Bool.and_eq_true,decide_eq_true_eq,List.all_eq_true,isNone_iff_eq_none] at facts
  obtain ⟨⟨⟨⟨⟨clean,owner,clock⟩,free⟩,sized⟩,fresh⟩,listed⟩ := facts
  obtain ⟨record,member,original⟩ := List.any_eq_true.mp listed
  simp only [Bool.and_eq_true,decide_eq_true_eq] at original
  refine ⟨trace,tx,record,through,Life.transactAll _ .new through,member,⟨_,congrArg Except.ok (some.inj original.1),rfl⟩,original.2,
    clean,free,owner,rfl,fresh,clock,answeredAgain,rfl,?_⟩
  intro config configured
  rw [configured] at sized
  exact of_decide_eq_true sized

/-- An open operation answers the repeated resolution with the step of the first. -/
theorem settled_once_open : ∃ trace tx record held step, answeredPlainly false = some (trace,tx) ∧
    record ∈ recordsOf trace ∧
    tx.prepareWith plain.resolve (plainEnvelope "again" 4 (.ResolveEffect "effect" unloaded)) (askingThen false) =
      .ok (.Replayed held record.record_digest step record.step_seq,tx) := by
  obtain ⟨trace,tx,record,through,life,member,resolves,held,delivers⟩ := redeliverable_facts (show redeliverable false = true from by decide +kernel)
  have opened : (answeredPlainly false).any (fun result => decide (result.2.lifecycle ∈ [.Running,.Suspended])) = true := by decide +kernel
  rw [through] at opened
  obtain ⟨held,step,replayed⟩ := ((settled_once plain_round_trips life member delivers (askingThen false)).1 "effect" unloaded unloaded resolves
    rfl).2 rfl (of_decide_eq_true opened) held
  exact ⟨trace,tx,record,held,step,through,member,replayed⟩

/-- Not every repeated resolution is answered with the step of the first: an operation that has ended
    refuses it like any other input. -/
theorem resolved_again_refused :
    ¬∀ (tx : KernelTransaction plainCodec) (journal : List (KernelRecord plainCodec)) (record : KernelRecord plainCodec)
    (effect_id : EffectId) (outcome : EffectOutcome) (envelope : WireEnvelope) (input : NormalizedInput)
    (plan : PlanFn Vocabulary.PlannedStep),
    Life plain.resolve plainDefaults tx journal → record ∈ journal → Resolves record effect_id outcome →
    Delivers plain.resolve tx journal envelope input → input.input = .ResolveEffect effect_id outcome →
    verdict plain.resolve tx envelope plan = some (.replayed record.step_seq) := by
  intro replays
  obtain ⟨trace,tx,record,through,life,member,resolves,_,delivers⟩ := redeliverable_facts (show redeliverable true = true from by decide +kernel)
  have replayed := replays tx _ record "effect" unloaded _ _ (askingThen true) life member resolves delivers rfl
  have refused : (answeredPlainly true).any (fun result => decide (verdict plain.resolve result.2
      (plainEnvelope "again" 4 (.ResolveEffect "effect" unloaded)) (askingThen true) = some (.rejected .InvalidLifecycle))) = true := by
    decide +kernel
  rw [through] at refused
  have refused := of_decide_eq_true refused
  rw [replayed] at refused
  cases refused

end Deepstrike.Transaction.KernelTransaction

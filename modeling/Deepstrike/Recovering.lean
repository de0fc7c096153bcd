import Deepstrike.Accepting

/-!
A transaction beside the one restored from its checkpoint, on the same index. The restored one holds
no step behind its floor and starts with an empty tail; in all that comes later the two go in
lockstep, until the tail of the live one is full.
-/
namespace Deepstrike.Transaction.KernelTransaction
open Wire Record Lockstep KernelTransaction Option RecordIndex

variable {Step : Type} {C : Codec Step}

/-- What a checkpoint carries of a transaction, with the index beside it. -/
def carried (tx : KernelTransaction C) : KernelTransaction C := { tx.books with steps := ∅, replay_floor := none, tail := [] }

/-- Two answers that differ at most in the step behind a floor, which a restored runtime cannot give. -/
def AnswersAlike (base : Nat) : KernelPreparation C → KernelPreparation C → Prop
  | .Prepared _ record step,.Prepared _ record' step' => record = record' ∧ step = step'
  | .Replayed record digest step step_seq,.Replayed record' digest' step' step_seq' =>
    record = record' ∧ digest = digest' ∧ step_seq = step_seq' ∧ (step' = step ∨ (step' = none ∧ step_seq ≤ base))
  | .Rejected fault,.Rejected fault' => fault = fault'
  | _,_ => False

/-- Two guards that stop an input alike, or both let it pass. -/
inductive GuardsAlike (base : Nat) : Except Halt (Option (KernelPreparation C)) → Except Halt (Option (KernelPreparation C)) → Prop where
  | halted (halt : Halt) : GuardsAlike base (.error halt) (.error halt)
  | passed : GuardsAlike base (.ok none) (.ok none)
  | answered {left right : KernelPreparation C} : AnswersAlike base left right → GuardsAlike base (.ok (some left)) (.ok (some right))

/-- Two admissions alike, or a tail that is full on the left. -/
inductive AdmissionsAlike (base : Nat) : Except Halt (Admission C) → Except Halt (Admission C) → Prop where
  | halted (halt : Halt) : AdmissionsAlike base (.error halt) (.error halt)
  | answered {left right : KernelPreparation C} : AnswersAlike base left right →
    AdmissionsAlike base (.ok (.answered left)) (.ok (.answered right))
  | planned (context : PlanContext) : AdmissionsAlike base (.ok (.planned context)) (.ok (.planned context))
  | full {fault : KernelFault} (right : Except Halt (Admission C)) : fault.code = .CheckpointRequired →
      AdmissionsAlike base (.error (.fault fault)) right

section
variable [TransitionStep Step]

/-- The live and the restored runtime over one journal. -/
structure Beside (resolve : Resolver) (defaults : ConfigDefaults) (base : Nat) (live restored : KernelTransaction C)
    (journal : List (KernelRecord C)) : Prop where
  life : Life resolve defaults live journal
  afterlife : Life resolve defaults restored journal
  same : live.carried = restored.carried
  poison : live.poison = restored.poison
  free : live.candidate = none
  freed : restored.candidate = none
  tail : live.poison = none → ∃ covered, live.tail = covered ++ restored.tail
  steps : live.poison = none → ∀ record ∈ journal, restored.steps[record.input_id]? = live.steps[record.input_id]? ∨
    (restored.steps[record.input_id]? = none ∧ record.step_seq ≤ base)

variable {resolve : Resolver} {defaults : ConfigDefaults} {base : Nat} {live restored : KernelTransaction C} {journal : List (KernelRecord C)}

theorem Beside.shown (beside : Beside resolve defaults base live restored journal) {α : Type}
    (view : KernelTransaction C → α)
    (carries : ∀ tx : KernelTransaction C, view tx = view tx.carried) : view live = view restored := by
  rw [carries live,carries restored,beside.same]

section
variable (trips : C.RoundTrips)
include trips

section
variable (beside : Beside resolve defaults base live restored journal)
include beside

section
variable (clean : live.poison = none)
include clean

theorem Beside.replay_of
    {operation_id : OperationId} {input_id : InputId} {twin : KernelRecord C}
    (found : record_for_input live.index operation_id input_id = some twin) :
    ∃ left right, live.replay_of twin = .ok left ∧ restored.replay_of twin = .ok right ∧
    AnswersAlike base left right := by
  have lives := beside.life.lives trips
  have again := beside.afterlife.lives trips
  have unpoisoned : restored.poison = none := beside.poison ▸ clean
  have indices : live.index = restored.index := beside.shown index fun _ => rfl
  obtain ⟨record,member,rfl,rfl,_⟩ := (lives.standing clean).index.found _ _ twin found
  exact ⟨_,_,lives.replay_of clean member found,again.replay_of unpoisoned member (indices ▸ found),rfl,rfl,rfl,beside.steps clean record member⟩

/-- The answer from the record a ledger points to is alike. -/
private theorem Beside.answer
    (input_id : InputId) (missing : KernelFault) :
    GuardsAlike base
      (live.existing_record input_id >>= fun
        | none => .error (.fault missing)
        | some existing => some <$> refuse (live.replay_of existing))
      (restored.existing_record input_id >>= fun
        | none => .error (.fault missing)
        | some existing => some <$> refuse (restored.replay_of existing)) := by
  have indices : live.index = restored.index := beside.shown index fun _ => rfl
  have owners : live.operation_id = restored.operation_id := beside.shown operation_id fun _ => rfl
  unfold existing_record
  rw [← owners,← indices]
  cases live.operation_id with
  | none => exact .halted _
  | some operation_id =>
  simp only [bind,Except.bind]
  cases found : record_for_input live.index operation_id input_id with
  | none => exact .halted _
  | some twin =>
  obtain ⟨left,right,leftAnswer,rightAnswer,alike⟩ := beside.replay_of trips clean found
  simp only [leftAnswer,rightAnswer,refuse]
  exact .answered alike

variable (input : NormalizedInput)

theorem Beside.duplicate_guard
    : GuardsAlike base (live.duplicate_guard input) (restored.duplicate_guard input) := by
  have cancellations : live.accepted_cancellation = restored.accepted_cancellation :=
    beside.shown accepted_cancellation fun _ => rfl
  unfold KernelTransaction.duplicate_guard
  split
  next reason calls _ =>
    unfold cancel_guard
    rw [← cancellations]
    cases live.accepted_cancellation with
    | none => exact .passed
    | some accepted =>
    simp only
    cases refuse (kernel_cancel_digest (C := C) reason calls) with
    | error halt => exact .halted halt
    | ok digest =>
    simp only [bind,Except.bind]
    split
    · exact .halted _
    · exact beside.answer trips clean _ _
  next => exact .passed

theorem Beside.resolution_guard
    : GuardsAlike base (live.resolution_guard input) (restored.resolution_guard input) := by
  have resolutions : live.resolved_effects = restored.resolved_effects := beside.shown resolved_effects fun _ => rfl
  have pending : live.pending_effects = restored.pending_effects := beside.shown pending_effects fun _ => rfl
  unfold KernelTransaction.resolution_guard
  split
  next effect_id outcome _ =>
    unfold resolve_effect_guard
    rw [← resolutions,← pending]
    cases refuse (kernel_outcome_digest (C := C) outcome) with
    | error halt => exact .halted halt
    | ok digest =>
    simp only [bind,Except.bind]
    split
    · split
      · exact .halted _
      · exact beside.answer trips clean _ _
    split
    · exact .halted _
    · split
      · exact .halted _
      · exact .passed
  next => exact .passed

/-- What the input ledger says to an input whose record is gone is the same on both. -/
private theorem Beside.referenced
    {input : NormalizedInput} (preparable : live.check_preparable input.operation_id = .ok ())
    (lost : record_for_input live.index input.operation_id input.input_id = none) :
    (live.accepted[input.input_id]?.filter fun entry => live.below_replay_floor entry.step_seq) =
      (restored.accepted[input.input_id]?.filter fun entry => restored.below_replay_floor entry.step_seq) := by
  have standing := (beside.life.lives trips).standing clean
  have again := (beside.afterlife.lives trips).standing (beside.poison ▸ clean)
  have ledgers : live.accepted = restored.accepted := beside.shown accepted fun _ => rfl
  have indices : live.index = restored.index := beside.shown index fun _ => rfl
  rw [← ledgers]
  cases held : live.accepted[input.input_id]? with
  | none => rfl
  | some entry =>
  obtain ⟨record,member,named⟩ := standing.ledgers.listed _ entry held
  rw [← named,standing.ledgers.accepted record member] at held
  cases held
  rw [owner_of_preparable preparable (standing.ledgers.owned record member),← named] at lost
  have below : ∀ tx : KernelTransaction C, Indexed tx.index tx.replay_floor journal → tx.index = live.index →
      tx.below_replay_floor record.step_seq = true := by
    intro tx indexed same
    obtain present | ⟨floor,floored,covered⟩ := indexed.held record member
    · rw [same,lost] at present
      cases present
    · simp [below_replay_floor,floored,covered]
  simp only [filter_some,below live standing.index rfl,below restored again.index indices.symm]

/-- Both admit an input alike, or the live tail is full. -/
theorem Beside.admissionOf
    : AdmissionsAlike base (live.admissionOf input) (restored.admissionOf input) := by
  have owners : live.operation_id = restored.operation_id := beside.shown operation_id fun _ => rfl
  have indices : live.index = restored.index := beside.shown index fun _ => rfl
  have configs : live.config = restored.config := beside.shown config fun _ => rfl
  have clocks : live.last_observed_at_ms = restored.last_observed_at_ms := beside.shown last_observed_at_ms fun _ => rfl
  have lifecycles : live.lifecycle = restored.lifecycle := beside.shown lifecycle fun _ => rfl
  have bounds : live.bounds = restored.bounds := beside.shown bounds fun _ => rfl
  have sequences : live.next_step_seq = restored.next_step_seq := beside.shown next_step_seq fun _ => rfl
  have contexts : ∀ step_seq config, live.plan_context input step_seq config = restored.plan_context input step_seq config :=
    fun step_seq config => beside.shown (fun tx => tx.plan_context input step_seq config) fun _ => rfl
  have same : live.check_preparable input.operation_id = restored.check_preparable input.operation_id := by
    simp only [check_preparable,beside.poison,beside.free,beside.freed,owners]
  obtain ⟨covered,tails⟩ := beside.tail clean
  have shorter : restored.tail_records ≤ live.tail_records := by simp [tail_records,tails]
  unfold KernelTransaction.admissionOf
  rw [← same]
  cases preparable : live.check_preparable input.operation_id with
  | error fault => exact .halted _
  | ok _ =>
  cases refuse ((C.encode_input input).mapError record_fault) with
  | error halt => exact .halted halt
  | ok canonical =>
  simp only [refuse,bind,Except.bind,← indices]
  cases found : record_for_input live.index input.operation_id input.input_id with
  | some twin =>
    simp only
    split
    · exact .halted _
    · obtain ⟨left,right,leftAnswer,rightAnswer,alike⟩ := beside.replay_of trips clean found
      rw [leftAnswer,rightAnswer]
      exact .answered alike
  | none =>
  simp only [← beside.referenced trips clean preparable found,← configs,← clocks,← lifecycles,← bounds,← sequences,← contexts]
  split
  · exact .answered ⟨rfl,rfl,rfl,.inl rfl⟩
  split
  · exact .halted _
  split
  · exact .halted _
  have duplicates := beside.duplicate_guard trips clean input
  generalize live.duplicate_guard input = left at duplicates
  generalize restored.duplicate_guard input = right at duplicates
  cases duplicates with
  | halted halt => exact .halted halt
  | answered alike => exact .answered alike
  | passed =>
  simp only
  split
  · exact .halted _
  have resolutions := beside.resolution_guard trips clean input
  generalize live.resolution_guard input = left at resolutions
  generalize restored.resolution_guard input = right at resolutions
  cases resolutions with
  | halted halt => exact .halted halt
  | answered alike => exact .answered alike
  | passed =>
  simp only
  split
  · exact .full _ rfl
  next room =>
  rw [if_neg (by omega : ¬live.bounds.hard_records < restored.tail_records+1)]
  cases live.next_step_seq with
  | error fault => exact .halted _
  | ok step_seq =>
  simp only
  split
  · exact .halted _
  · exact .planned _

end

end

end

/-- One envelope as a host tells it: prepared, and committed where there is something to commit. -/
def tell (resolve : Resolver) (plan : PlanFn Step) (tx : KernelTransaction C) (envelope : WireEnvelope) :
    Except String (KernelPreparation C × KernelTransaction C) :=
  match tx.prepareWith resolve envelope plan with
  | .ok (.Prepared token record step,staged) => .ok (.Prepared token record step,(staged.commit token record.record_digest).2)
  | told => told

omit [TransitionStep Step] in
private theorem carried_folds : Folds (carried (C := C)) :=
  @Folds.of_books Step C (fun _ => none) id (fun _ => ∅) (fun _ => []) fun _ _ _ _ => Respects.of_erased fun _ => rfl

/-- The record of a planned step is staged by both, or the live tail has no room for it. -/
private theorem Beside.stageable (beside : Beside resolve defaults base live restored journal)
    (clean : live.poison = none) (context : PlanContext) (step : Step) :
    live.stageable context step = restored.stageable context step ∨
      ∃ fault, live.stageable context step = .error fault ∧ fault.code = .CheckpointRequired := by
  obtain ⟨covered,tails⟩ := beside.tail clean
  have shorter : restored.tail_bytes ≤ live.tail_bytes := by simp [tail_bytes,tails]
  have bounds : live.bounds = restored.bounds := beside.shown bounds fun _ => rfl
  have heads : live.head = restored.head := beside.shown head fun _ => rfl
  have screens : live.screen_planned_effects step context.config context.input.settles =
      restored.screen_planned_effects step context.config context.input.settles :=
    screen_planned_effects_congr (beside.shown pending_effects fun _ => rfl)
      (beside.shown resolved_effects fun _ => rfl) (beside.shown launch_tokens fun _ => rfl) _ _ _
  unfold KernelTransaction.stageable
  rw [screens,heads,bounds]
  cases restored.screen_planned_effects step context.config context.input.settles with
  | error fault => exact .inl rfl
  | ok _ =>
  cases chain_after (C := C) restored.head context.input step with
  | error error => exact .inl rfl
  | ok record =>
  simp only [bind,Except.bind,Except.mapError]
  split
  · exact .inr ⟨_,rfl,rfl⟩
  next room =>
  rw [if_neg (by omega)]
  exact .inl rfl

private theorem commit_filled {tx : KernelTransaction C} (clean : tx.poison = none) (context : PlanContext) (step : Step) (record : KernelRecord C) :
    (tx.filled context step record).2.commit (prepare_token context.input.operation_id context.step_seq (tx.prepare_epoch+1)) record.record_digest =
      match foldRecord record step context.input record.record_len { tx with prepare_epoch := tx.prepare_epoch+1, candidate := none } with
      | .ok _ after => (.ok ⟨record,step,record.step_seq,
          advice record { tx with prepare_epoch := tx.prepare_epoch+1, candidate := none } after⟩,after)
      | .error fault after => (.error fault,{ after with candidate := none, poison := some fault }) := by
  have tokened : ¬prepare_token context.input.operation_id context.step_seq (tx.prepare_epoch+1) ≠
      prepare_token context.input.operation_id context.step_seq (tx.prepare_epoch+1) := not_not.mpr rfl
  have appended : ¬record.record_digest ≠ record.record_digest := not_not.mpr rfl
  rw [commit_eq]
  unfold filled
  rw [clean]
  dsimp only
  rw [if_neg tokened]
  exact if_neg appended

private theorem tell_unprepared {tx after : KernelTransaction C} {envelope : WireEnvelope} {plan : PlanFn Step} {answer : KernelPreparation C}
    (prepared : tx.prepareWith resolve envelope plan = .ok (answer,after)) (kind : answer.isPrepared = false) :
    tx.tell resolve plan envelope = .ok (answer,after) := by
  unfold tell
  rw [prepared]
  cases answer with
  | Prepared token record step => cases kind
  | Replayed record digest step step_seq => rfl
  | Rejected fault => rfl

private theorem Beside.screened (trips : C.RoundTrips) (beside : Beside resolve defaults base live restored journal) (clean : live.poison = none)
    (envelope : WireEnvelope) : AdmissionsAlike base (live.screened resolve envelope) (restored.screened resolve envelope) := by
  have owners : live.operation_id = restored.operation_id := beside.shown operation_id fun _ => rfl
  have binaries : live.defaults = restored.defaults := beside.shown KernelTransaction.defaults fun _ => rfl
  have same : live.check_preparable envelope.operation_id = restored.check_preparable envelope.operation_id := by
    simp only [check_preparable,beside.poison,beside.free,beside.freed,owners]
  unfold KernelTransaction.screened
  rw [← same,← binaries]
  cases refuse (live.check_preparable envelope.operation_id) with
  | error halt => exact .halted halt
  | ok _ =>
  cases refuse ((NormalizedInput.normalize resolve envelope live.defaults).mapError rejection_fault) with
  | error halt => exact .halted halt
  | ok input => exact beside.admissionOf trips clean input

/-- A record that both stage is folded by both, and they stay beside each other. -/
private theorem Beside.commit (beside : Beside resolve defaults base live restored journal) (clean : live.poison = none) {envelope : WireEnvelope}
    {plan : PlanFn Step} {context : PlanContext} {step : Step} {record : KernelRecord C}
    (left : live.prepareWith resolve envelope plan = .ok (live.filled context step record))
    (right : restored.prepareWith resolve envelope plan = .ok (restored.filled context step record)) :
    ∃ grown, Beside resolve defaults base
      ((live.filled context step record).2.commit (prepare_token context.input.operation_id context.step_seq (live.prepare_epoch+1))
        record.record_digest).2
      ((restored.filled context step record).2.commit (prepare_token context.input.operation_id context.step_seq (restored.prepare_epoch+1))
        record.record_digest).2 grown := by
  have unpoisoned : restored.poison = none := beside.poison ▸ clean
  have life := beside.life.prepare left
  have afterlife := beside.afterlife.prepare right
  have leftCommit := commit_filled clean context step record
  have rightCommit := commit_filled unpoisoned context step record
  have folding := foldRecord_lockstep carried_folds record step context.input record.record_len
    { live with prepare_epoch := live.prepare_epoch+1, candidate := none }
    { restored with prepare_epoch := restored.prepare_epoch+1, candidate := none } beside.same
  cases leftFold : foldRecord record step context.input record.record_len
      { live with prepare_epoch := live.prepare_epoch+1, candidate := none } with
  | error fault after =>
    cases rightFold : foldRecord record step context.input record.record_len
        { restored with prepare_epoch := restored.prepare_epoch+1, candidate := none } with
    | ok _ after' =>
      rw [leftFold,rightFold] at folding
      exact folding.elim
    | error fault' after' =>
    rw [leftFold,rightFold] at folding
    obtain ⟨rfl,same⟩ := folding
    rw [leftFold] at leftCommit
    rw [rightFold] at rightCommit
    refine ⟨journal,?_⟩
    rw [leftCommit,rightCommit]
    exact ⟨life.refused leftCommit,afterlife.refused rightCommit,same,rfl,rfl,rfl,by rintro ⟨⟩,by rintro ⟨⟩⟩
  | ok _ after =>
  cases rightFold : foldRecord record step context.input record.record_len
      { restored with prepare_epoch := restored.prepare_epoch+1, candidate := none } with
  | error fault' after' =>
    rw [leftFold,rightFold] at folding
    exact folding.elim
  | ok _ after' =>
  rw [leftFold,rightFold] at folding
  rw [leftFold] at leftCommit
  rw [rightFold] at rightCommit
  have facts := foldRecord_ok leftFold
  have facts' := foldRecord_ok rightFold
  refine ⟨journal ++ [record],?_⟩
  rw [leftCommit,rightCommit]
  refine ⟨life.commit leftCommit,afterlife.commit rightCommit,folding.2,?_,facts.candidate,facts'.candidate,fun _ => ?_,fun _ => ?_⟩
  · rw [facts.poison,facts'.poison]
    exact beside.poison
  · obtain ⟨covered,tails⟩ := beside.tail clean
    refine ⟨covered,?_⟩
    rw [facts.tail,facts'.tail]
    show live.tail ++ _ = _
    rw [tails,List.append_assoc]
  intro other member
  rw [facts.steps,facts'.steps,Std.ExtTreeMap.getElem?_insert,Std.ExtTreeMap.getElem?_insert]
  split
  · exact .inl rfl
  next unnamed =>
  obtain older | last := List.mem_append.mp member
  · exact beside.steps clean other older
  · rw [List.mem_singleton.mp last,Std.LawfulEqCmp.compare_eq_iff_eq] at unnamed
    exact absurd rfl unnamed

/-- Both tell one envelope alike and stay beside each other, or the live tail is full. -/
theorem Beside.tell (trips : C.RoundTrips) (beside : Beside resolve defaults base live restored journal)
    (plan : PlanFn Step)
    (envelope : WireEnvelope) :
    (∃ fault, live.tell resolve plan envelope = .ok (.Rejected fault,live) ∧ fault.code = .CheckpointRequired) ∨
    (∃ site, live.tell resolve plan envelope = .error site ∧ restored.tell resolve plan envelope = .error site) ∨
    ∃ left right live' restored' grown, live.tell resolve plan envelope = .ok (left,live') ∧
      restored.tell resolve plan envelope = .ok (right,restored') ∧ AnswersAlike base left right ∧
      Beside resolve defaults base live' restored' grown := by
  cases poisoned : live.poison with
  | some fault =>
    have left : live.check_preparable envelope.operation_id = .error fault := by simp only [check_preparable,poisoned]
    have right : restored.check_preparable envelope.operation_id = .error fault := by simp only [check_preparable,← beside.poison,poisoned]
    refine .inr (.inr ⟨.Rejected fault,.Rejected fault,live,restored,journal,?_,?_,rfl,beside⟩)
    · refine tell_unprepared ?_ rfl
      rw [prepareWith_eq,KernelTransaction.screened,left]
      rfl
    · refine tell_unprepared ?_ rfl
      rw [prepareWith_eq,KernelTransaction.screened,right]
      rfl
  | none =>
  have leftPrepared := prepareWith_eq resolve live envelope plan
  have rightPrepared := prepareWith_eq resolve restored envelope plan
  have alike := beside.screened trips poisoned envelope
  generalize leftGuard : live.screened resolve envelope = left at alike leftPrepared
  generalize rightGuard : restored.screened resolve envelope = right at alike rightPrepared
  cases alike with
  | halted halt =>
    cases halt with
    | fault fault =>
      exact .inr (.inr ⟨.Rejected fault,.Rejected fault,live,restored,journal,tell_unprepared leftPrepared rfl,tell_unprepared rightPrepared rfl,
        rfl,beside⟩)
    | panic site =>
    refine .inr (.inl ⟨site,?_,?_⟩)
    · unfold KernelTransaction.tell
      rw [leftPrepared]
      rfl
    · unfold KernelTransaction.tell
      rw [rightPrepared]
      rfl
  | full right required => exact .inl ⟨_,tell_unprepared leftPrepared rfl,required⟩
  | answered alike =>
    exact .inr (.inr ⟨_,_,live,restored,journal,tell_unprepared leftPrepared (screened_answered leftGuard),
      tell_unprepared rightPrepared (screened_answered rightGuard),alike,beside⟩)
  | planned context =>
  simp only at leftPrepared rightPrepared
  cases planned : plan context with
  | error fault =>
    rw [planned] at leftPrepared rightPrepared
    exact .inr (.inr ⟨.Rejected fault,.Rejected fault,live,restored,journal,tell_unprepared leftPrepared rfl,tell_unprepared rightPrepared rfl,
      rfl,beside⟩)
  | ok step =>
  simp only [planned,staged_eq] at leftPrepared rightPrepared
  obtain same | ⟨fault,full,required⟩ := beside.stageable poisoned context step
  · rw [same] at leftPrepared
    cases able : restored.stageable context step with
    | error fault =>
      rw [able] at leftPrepared rightPrepared
      exact .inr (.inr ⟨.Rejected fault,.Rejected fault,live,restored,journal,tell_unprepared leftPrepared rfl,
        tell_unprepared rightPrepared rfl,rfl,beside⟩)
    | ok record =>
    rw [able] at leftPrepared rightPrepared
    obtain ⟨grown,beside⟩ := beside.commit poisoned leftPrepared rightPrepared
    refine .inr (.inr ⟨(live.filled context step record).1,(restored.filled context step record).1,_,_,grown,?_,?_,?_,beside⟩)
    · unfold KernelTransaction.tell
      rw [leftPrepared]
      rfl
    · unfold KernelTransaction.tell
      rw [rightPrepared]
      rfl
    · exact ⟨rfl,rfl⟩
  · rw [full] at leftPrepared
    exact .inl ⟨fault,tell_unprepared leftPrepared rfl,required⟩

/-- A sequence of envelopes as a host tells it, each with the state behind it. -/
def story (resolve : Resolver) (plan : PlanFn Step) (tx : KernelTransaction C) :
    List WireEnvelope → List (Except String (KernelPreparation C × KernelTransaction C))
  | [] => []
  | envelope :: rest =>
    match tx.tell resolve plan envelope with
    | .ok (answer,after) => .ok (answer,after) :: story resolve plan after rest
    | .error site => [.error site]

/-- What both show after an envelope: the answer, and the ledgers behind it. -/
def ShownAlike (base : Nat) : Except String (KernelPreparation C × KernelTransaction C) →
    Except String (KernelPreparation C × KernelTransaction C) → Prop
  | .ok (answer,tx),.ok (answer',tx') => AnswersAlike base answer answer' ∧ tx.head = tx'.head ∧ tx.lifecycle = tx'.lifecycle ∧
      tx.terminal = tx'.terminal ∧ tx.pending_effects = tx'.pending_effects ∧ tx.resolved_effects = tx'.resolved_effects ∧
      tx.launch_tokens = tx'.launch_tokens ∧ tx.accepted = tx'.accepted
  | .error site,.error site' => site = site'
  | _,_ => False

/-- Two stories alike, as far as the tail of the first reaches. -/
inductive StoriesAlike (base : Nat) : List (Except String (KernelPreparation C × KernelTransaction C)) →
    List (Except String (KernelPreparation C × KernelTransaction C)) → Prop where
  | done : StoriesAlike base [] []
  | told {first first' : Except String (KernelPreparation C × KernelTransaction C)}
      {rest rest' : List (Except String (KernelPreparation C × KernelTransaction C))} : ShownAlike base first first' →
      StoriesAlike base rest rest' → StoriesAlike base (first :: rest) (first' :: rest')
  | full {fault : KernelFault} {tx : KernelTransaction C} (rest story : List (Except String (KernelPreparation C × KernelTransaction C))) :
      fault.code = .CheckpointRequired → StoriesAlike base (.ok (.Rejected fault,tx) :: rest) story

theorem Beside.story (trips : C.RoundTrips) (plan : PlanFn Step) (envelopes : List WireEnvelope) :
    ∀ {live restored : KernelTransaction C} {journal : List (KernelRecord C)},
    Beside resolve defaults base live restored journal →
      StoriesAlike base (live.story resolve plan envelopes) (restored.story resolve plan envelopes) := by
  induction envelopes with
  | nil => exact fun _ => .done
  | cons envelope rest ih =>
  intro live restored journal beside
  unfold KernelTransaction.story
  obtain ⟨fault,refused,required⟩ | ⟨site,left,right⟩ | ⟨answer,answer',live',restored',grown,left,right,answers,beside'⟩ :=
    beside.tell trips plan envelope
  · rw [refused]
    exact .full _ _ required
  · rw [left,right]
    exact .told rfl .done
  rw [left,right]
  refine .told ⟨answers,?_,?_,?_,?_,?_,?_,?_⟩ (ih beside')
  · exact beside'.shown head fun _ => rfl
  · exact beside'.shown lifecycle fun _ => rfl
  · exact beside'.shown terminal fun _ => rfl
  · exact beside'.shown pending_effects fun _ => rfl
  · exact beside'.shown resolved_effects fun _ => rfl
  · exact beside'.shown launch_tokens fun _ => rfl
  · exact beside'.shown accepted fun _ => rfl

/-- A transaction restored from the checkpoint at the durable head of an idle one, on its index, tells
    every later sequence of envelopes as that one does, until the tail of the live one is full. -/
theorem restored_story (trips : C.RoundTrips) {root_kind : Option RootKind} {focus : Option ExecutionFocus}
    {head : ChainAnchor}
    (life : Life resolve defaults live journal) (clean : live.poison = none) (free : live.candidate = none)
    (held : live.head = some head)
    (taken : live.restoredAt root_kind focus defaults live.index = some restored) (plan : PlanFn Step)
    (envelopes : List WireEnvelope) :
    StoriesAlike head.step_seq (live.story resolve plan envelopes) (restored.story resolve plan envelopes) := by
  have standing := (life.lives trips).standing clean
  have indexed : ∀ anchor, live.head = some anchor → Indexed live.index (some anchor.step_seq) journal := by
    intro anchor same
    refine ⟨standing.index.found,fun record member => .inr ⟨anchor.step_seq,rfl,standing.ledgers.placed record member anchor same⟩⟩
  have afterlife := life.restoredAt clean indexed taken
  obtain ⟨anchor,operation_id,genesis_digest,state,same,owner,genesis,transited,rfl⟩ := restoredAt_some taken
  cases held.symm.trans same
  have own := restore_from_checkpoint_eq standing.sound held owner genesis transited live.index
  refine Beside.story trips plan envelopes ⟨life,afterlife,?_,?_,free,rfl,fun _ => ⟨live.tail,?_⟩,fun _ record member => ?_⟩
  · rw [own]
    rfl
  · rw [own]
    exact clean
  · rw [own]
    simp
  · rw [own]
    exact .inr ⟨by simp,standing.ledgers.placed record member head held⟩

end

open PlainParts

/-- The step an answer shows. -/
def stepShown : Except String (KernelPreparation C × KernelTransaction C) → Option Step
  | .ok (.Prepared _ _ step,_) => some step
  | .ok (.Replayed _ _ step _,_) => step
  | _ => none

/-- The answer to the one effect of the plain operation. -/
def answered : WireEnvelope := plainEnvelope "answer" 3 (.ResolveEffect "effect" (.Failed ⟨.StorageUnavailable,""⟩))

/-- The plain operation, started, and what its own checkpoint restores to. -/
def startedTwice : Option (List (CommittedTransition plainCodec) × KernelTransaction plainCodec × KernelTransaction plainCodec) := do
  let (trace,live) ← startedPlainly
  let restored ← live.restoredAt none none plainDefaults live.index
  if live.poison = none ∧ live.candidate.isNone then pure (trace,live,restored) else none

private theorem startedTwice_facts {trace : List (CommittedTransition plainCodec)} {live restored : KernelTransaction plainCodec}
    (through : startedTwice = some (trace,live,restored)) : Life plain.resolve plainDefaults live (recordsOf trace) ∧ live.poison = none ∧
      live.candidate = none ∧ live.restoredAt none none plainDefaults live.index = some restored := by
  unfold startedTwice at through
  obtain ⟨⟨trace',live'⟩,started,through⟩ := bind_eq_some_iff.mp through
  obtain ⟨restored',own,through⟩ := bind_eq_some_iff.mp through
  split at through
  next idle =>
    cases through
    exact ⟨startedPlainly_life started,idle.1,isNone_iff_eq_none.mp idle.2,own⟩
  next => cases through

/-- The answer to the effect is told alike by the started operation and by its restored twin. -/
theorem restored_story_started : ∃ trace live restored head, startedTwice = some (trace,live,restored) ∧
    live.head = some head ∧
    (live.story plain.resolve askingOnce [answered]).length = 1 ∧
    StoriesAlike head.step_seq (live.story plain.resolve askingOnce [answered])
    (restored.story plain.resolve askingOnce [answered]) := by
  obtain ⟨⟨trace,live,restored⟩,through,shape⟩ := (any_eq_true _ _).mp (show startedTwice.any fun (_,live,_) =>
    live.head.isSome && decide ((live.story plain.resolve askingOnce [answered]).length = 1) from by decide +kernel)
  obtain ⟨anchored,length⟩ := Bool.and_eq_true_iff.mp shape
  obtain ⟨head,held⟩ := isSome_iff_exists.mp anchored
  obtain ⟨life,clean,free,taken⟩ := startedTwice_facts through
  exact ⟨trace,live,restored,head,through,held,of_decide_eq_true length,
    restored_story plain_round_trips life clean free held taken askingOnce [answered]⟩

/-- Not every envelope shows the same step: a redelivery behind the checkpoint is acknowledged
    without one by the restored runtime. -/
theorem restored_step_missing :
    ¬∀ (live restored : KernelTransaction plainCodec) (journal : List (KernelRecord plainCodec))
    (plan : PlanFn Vocabulary.PlannedStep)
    (envelopes : List WireEnvelope), Life plain.resolve plainDefaults live journal →
    live.poison = none → live.candidate = none → live.restoredAt none none plainDefaults live.index = some restored →
    (live.story plain.resolve plan envelopes).map stepShown =
    (restored.story plain.resolve plan envelopes).map stepShown := by
  intro same
  obtain ⟨⟨trace,live,restored⟩,through,apart⟩ := (any_eq_true _ _).mp (show startedTwice.any fun (_,live,restored) =>
    decide ((live.story plain.resolve askingOnce [plainEnvelope "start" 2 (.StartOperation (.Agent "goal" [] none) "")]).map stepShown ≠
      (restored.story plain.resolve askingOnce [plainEnvelope "start" 2 (.StartOperation (.Agent "goal" [] none) "")]).map stepShown)
    from by decide +kernel)
  obtain ⟨life,clean,free,taken⟩ := startedTwice_facts through
  exact of_decide_eq_true apart (same live restored _ askingOnce _ life clean free taken)

end Deepstrike.Transaction.KernelTransaction

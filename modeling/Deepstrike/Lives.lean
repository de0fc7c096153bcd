import Mathlib.Data.List.Induction
import Mathlib.Data.List.Nodup
import Deepstrike.Refolding
import Deepstrike.TransactionRuns

/-!
One operation over all the runtimes that ever carried it: the live one, those rebuilt from the
journal after a crash, those restored from a checkpoint whose covered records retention may have
dropped. The journal is what they share, and each of them answers for all of it.
-/
namespace Deepstrike.Transaction.KernelTransaction
open Wire Record List Option RecordIndex KernelRecord

variable {Step : Type} {C : Codec Step}

/-- A record and what a replay makes of it: the digest of the step apart, they are the same. -/
structure Twins (record twin : KernelRecord C) : Prop where
  operation_id : twin.operation_id = record.operation_id
  input_id : twin.input_id = record.input_id
  step_seq : twin.step_seq = record.step_seq
  canonical_input : twin.canonical_input = record.canonical_input
  record_digest : twin.record_digest = record.record_digest

theorem Twins.refl (record : KernelRecord C) : Twins record record := ⟨rfl,rfl,rfl,rfl,rfl⟩

/-- An index of the journal, up to twins. A record may be missing where a checkpoint at the floor
    covers it. -/
structure Indexed (index : RecordIndex C) (floor : Option Nat) (journal : List (KernelRecord C)) : Prop where
  found : ∀ operation_id input_id twin, record_for_input index operation_id input_id = some twin →
    ∃ record ∈ journal, record.operation_id = operation_id ∧ record.input_id = input_id ∧ Twins record twin
  held : ∀ record ∈ journal, (record_for_input index record.operation_id record.input_id).isSome ∨
    ∃ step_seq, floor = some step_seq ∧ record.step_seq ≤ step_seq

/-- The journal a runtime leaves behind: what it committed, and perhaps the candidate its host had
    appended when it crashed. -/
def Leaves (tx : KernelTransaction C) (committed journal : List (KernelRecord C)) : Prop :=
  journal = committed ∨ ∃ candidate, tx.poison = none ∧ tx.candidate = some candidate ∧ journal = committed ++ [candidate.record]

section
variable [TransitionStep Step]

/-- The runtimes of one operation, each with the journal it answers for. -/
inductive Life (resolve : Resolver) (defaults : ConfigDefaults) : KernelTransaction C → List (KernelRecord C) → Prop where
  | new : Life resolve defaults (.new defaults ∅) []
  | prepare {tx after : KernelTransaction C} {journal : List (KernelRecord C)} {envelope : WireEnvelope} {plan : PlanFn Step}
      {preparation : KernelPreparation C} : Life resolve defaults tx journal →
      tx.prepareWith resolve envelope plan = .ok (preparation,after) → Life resolve defaults after journal
  | commit {tx after : KernelTransaction C} {journal : List (KernelRecord C)} {token : PrepareToken} {appended_head : Digest}
      {transition : CommittedTransition C} : Life resolve defaults tx journal →
      tx.commit token appended_head = (.ok transition,after) → Life resolve defaults after (journal ++ [transition.record])
  | refused {tx after : KernelTransaction C} {journal : List (KernelRecord C)} {token : PrepareToken} {appended_head : Digest}
      {fault : KernelFault} : Life resolve defaults tx journal →
      tx.commit token appended_head = (.error fault,after) → Life resolve defaults after journal
  | abort {tx : KernelTransaction C} {journal : List (KernelRecord C)} (token : PrepareToken) :
      Life resolve defaults tx journal → Life resolve defaults (tx.abort token).2 journal
  | conflict {tx : KernelTransaction C} {journal : List (KernelRecord C)} (token : PrepareToken) (observed_head : Option Digest) :
      Life resolve defaults tx journal → Life resolve defaults (tx.note_append_conflict token observed_head).2 journal
  | ack {tx : KernelTransaction C} {journal : List (KernelRecord C)} (boundary : CheckpointBoundary) :
      Life resolve defaults tx journal → Life resolve defaults (tx.note_checkpoint_acked boundary).2 journal
  | rebuilt {tx after : KernelTransaction C} {committed journal : List (KernelRecord C)} {index : RecordIndex C} {plan : PlanFn Step} :
      Life resolve defaults tx committed → Leaves tx committed journal → Indexed index none journal →
      rebuild_from_records journal defaults index (stateless plan) () = .ok after () → Life resolve defaults after journal
  | restored {origin tx after : KernelTransaction C} {covered committed behind : List (KernelRecord C)} {head : ChainAnchor}
      {operation_id : OperationId} {genesis_digest : Digest} {root_kind : Option RootKind} {focus : Option ExecutionFocus}
      {state : TransitionState} {index : RecordIndex C} {plan : PlanFn Step} {relabel : RecordError → KernelFault} :
      Life resolve defaults origin covered → origin.poison = none → origin.head = some head → origin.operation_id = some operation_id →
      origin.genesis_digest = some genesis_digest → origin.transition_state root_kind focus = .ok state →
      Life resolve defaults tx committed → Leaves tx committed (covered ++ behind) →
      Indexed index (some head.step_seq) (covered ++ behind) →
      replay_records (stateless plan) relabel
        (restore_from_checkpoint operation_id genesis_digest ⟨head.step_seq,head.record_digest⟩ state defaults index)
        behind () = .ok after () →
      Life resolve defaults after (covered ++ behind)

end

/-- Every record of a journal follows the one before it. -/
def Chained (journal : List (KernelRecord C)) : Prop :=
  ∀ before record behind, journal = before ++ record :: behind → ∃ input, Follows (before.getLast?.map anchor) input record

/-- The effect a record settles, and whether it cancels its operation. -/
def settledBy (record : KernelRecord C) : Option EffectId := record.normalized_input.toOption.bind NormalizedInput.settles
def cancels (record : KernelRecord C) : Bool :=
  match record.normalized_input with
  | .ok ⟨_,_,_,.HostControl (.Cancel _ _)⟩ => true
  | _ => false

/-- Two records of one operation neither share an input nor settle or cancel the same thing twice. -/
structure Apart (left right : KernelRecord C) : Prop where
  input_id : left.input_id ≠ right.input_id
  settled : ∀ effect_id, settledBy left = some effect_id → settledBy right ≠ some effect_id
  cancelled : cancels left = true → cancels right = false

variable {index : RecordIndex C} {journal : List (KernelRecord C)} {defaults : ConfigDefaults} {resolve : Resolver} {root_kind : Option RootKind}
variable {focus : Option ExecutionFocus}

theorem Indexed.note_committed {floor : Option Nat} {grown : List (KernelRecord C)} {record twin : KernelRecord C}
    (indexed : Indexed index floor journal) (twins : Twins record twin) (member : record ∈ grown)
    (kept : ∀ other ∈ journal, other ∈ grown)
    (only : ∀ other ∈ grown, other ∈ journal ∨ other = record) : Indexed (note_committed index twin) floor grown := by
  refine ⟨?_,?_⟩
  · intro operation_id input_id other found
    rw [record_for_note_committed] at found
    split at found
    next named =>
      cases found
      exact ⟨record,member,twins.operation_id ▸ named.1,twins.input_id ▸ named.2,twins⟩
    next =>
    obtain ⟨older,listed,facts⟩ := indexed.found operation_id input_id other found
    exact ⟨older,kept older listed,facts⟩
  intro other listed
  rw [record_for_note_committed]
  split
  · exact .inl rfl
  next unnamed =>
  obtain older | rfl := only other listed
  · exact indexed.held other older
  · exact absurd ⟨twins.operation_id,twins.input_id⟩ unnamed

/-- What a transaction can answer a repeated input with: the step it holds, or a floor above it. -/
def Answerable (tx : KernelTransaction C) (input_id : InputId) (twin : KernelRecord C) : Prop :=
  (∃ step, tx.steps[input_id]? = some step ∧ twin.verify_step step = .ok ()) ∨
    (tx.steps[input_id]? = none ∧ tx.below_replay_floor twin.step_seq = true)

/-- The ledgers of a transaction account for every record it has folded. -/
structure Ledgered (tx : KernelTransaction C) (folded : List (KernelRecord C)) : Prop where
  owned : ∀ record ∈ folded, tx.operation_id = some record.operation_id
  accepted : ∀ record ∈ folded, tx.accepted[record.input_id]? = some ⟨record.input_id,record.step_seq,record.record_digest⟩
  listed : ∀ (input_id : InputId) (entry : AcceptedInputState), tx.accepted[input_id]? = some entry →
    ∃ record ∈ folded, record.input_id = input_id
  answered : ∀ record ∈ folded, ∀ twin, record_for_input tx.index record.operation_id record.input_id = some twin →
    Answerable tx record.input_id twin
  resolved : ∀ record ∈ folded, ∀ input effect_id outcome, record.normalized_input = .ok input →
    input.input = .ResolveEffect effect_id outcome →
    ∃ digest, kernel_outcome_digest (C := C) outcome = .ok digest ∧
      tx.resolved_effects[effect_id]? = some ⟨digest,record.input_id,record.step_seq⟩
  cancelled : ∀ record ∈ folded, ∀ input reason calls, record.normalized_input = .ok input →
    input.input = .HostControl (.Cancel reason calls) → ∃ digest, kernel_cancel_digest (C := C) reason calls = .ok digest ∧
      tx.accepted_cancellation = some ⟨digest,record.input_id,record.step_seq⟩
  head : tx.head = folded.getLast?.map anchor
  placed : ∀ record ∈ folded, ∀ head, tx.head = some head → record.step_seq ≤ head.step_seq

theorem settledBy_eq {record : KernelRecord C} {input : NormalizedInput}
    (decoded : record.normalized_input = .ok input) :
    settledBy record = input.settles := by
  simp [settledBy,decoded,Except.toOption]

theorem cancels_eq {record : KernelRecord C} {input : NormalizedInput} (decoded : record.normalized_input = .ok input) :
    cancels record = true ↔ ∃ reason calls, input.input = .HostControl (.Cancel reason calls) := by
  unfold cancels
  rw [decoded]
  obtain ⟨operation_id,input_id,observed_at_ms,payload⟩ := input
  constructor
  · intro cancelling
    split at cancelling
    next same =>
      cases same
      exact ⟨_,_,rfl⟩
    next => cases cancelling
  · rintro ⟨reason,calls,kind⟩
    cases kind
    rfl

private theorem mem_snoc {α : Type} {entries : List α} {last entry : α} : entry ∈ entries ++ [last] ↔ entry ∈ entries ∨ entry = last := by
  simp

section
variable [TransitionStep Step] {tx after : KernelTransaction C} {records : List (KernelRecord C)} {record twin : KernelRecord C}
  {input : NormalizedInput} {step : Step} {record_bytes : Nat}

section
variable (facts : FoldedTo twin step input record_bytes tx after)
include facts

private theorem FoldedTo.resolved_own {effect_id : EffectId} {outcome : EffectOutcome}
    (kind : input.input = .ResolveEffect effect_id outcome) : ∃ digest, kernel_outcome_digest (C := C) outcome = .ok digest ∧
      after.resolved_effects[effect_id]? = some ⟨digest,twin.input_id,twin.step_seq⟩ := by
  have noted := facts.resolution
  simp only [resolvedBy,kind] at noted
  cases hashed : kernel_outcome_digest (C := C) outcome with
  | error fault => simp [hashed,Except.map] at noted
  | ok digest =>
  simp only [hashed,Except.map,Except.ok.injEq] at noted
  exact ⟨digest,rfl,by rw [← noted,Std.ExtTreeMap.getElem?_insert_self]⟩

private theorem FoldedTo.resolved_other {effect_id : EffectId}
    (other : input.settles ≠ some effect_id) : after.resolved_effects[effect_id]? = tx.resolved_effects[effect_id]? := by
  have noted := facts.resolution
  unfold resolvedBy at noted
  unfold NormalizedInput.settles at other
  split at noted
  next settled outcome kind =>
    cases hashed : kernel_outcome_digest (C := C) outcome with
    | error fault => simp [hashed,Except.map] at noted
    | ok digest =>
    simp only [hashed,Except.map,Except.ok.injEq] at noted
    simp only [kind,ne_eq,some.injEq] at other
    rw [← noted,Std.ExtTreeMap.getElem?_insert,if_neg]
    rwa [Std.LawfulEqCmp.compare_eq_iff_eq]
  next => rw [Except.ok.inj noted]

private theorem FoldedTo.cancelled_own {reason : CancellationReason} {calls : List CallId}
    (kind : input.input = .HostControl (.Cancel reason calls)) : ∃ digest, kernel_cancel_digest (C := C) reason calls = .ok digest ∧
      after.accepted_cancellation = some ⟨digest,twin.input_id,twin.step_seq⟩ := by
  have noted := facts.cancelled
  simp only [cancelledBy,kind] at noted
  cases hashed : kernel_cancel_digest (C := C) reason calls with
  | error fault => simp [hashed,Except.map] at noted
  | ok digest =>
  simp only [hashed,Except.map,Except.ok.injEq] at noted
  exact ⟨digest,rfl,noted.symm⟩

private theorem FoldedTo.cancelled_other
    (other : ∀ reason calls, input.input ≠ .HostControl (.Cancel reason calls)) : after.accepted_cancellation = tx.accepted_cancellation := by
  have noted := facts.cancelled
  unfold cancelledBy at noted
  split at noted
  next reason calls kind => exact absurd kind (other reason calls)
  next => exact (Except.ok.inj noted).symm

end

/-- The fold of a twin accounts for its record as well. -/
theorem Ledgered.folded (ledgered : Ledgered tx records)
    (owner : tx.operation_id = tx.head.map ChainAnchor.operation_id)
    (twins : Twins record twin) (apart : ∀ other ∈ records, Apart other record)
    (decoded : record.normalized_input = .ok input) (follows : Follows tx.head input twin)
    (verified : twin.verify_step step = .ok ())
    (facts : FoldedTo twin step input record_bytes tx after) : Ledgered after (records ++ [record]) := by
  have anchored : after.head = some record.anchor := by
    rw [facts.head]
    simp only [anchor,twins.operation_id,twins.step_seq,twins.record_digest]
  refine ⟨?_,?_,?_,?_,?_,?_,?_,?_⟩
  · intro other member
    rw [facts.operation_id]
    obtain older | rfl := mem_snoc.mp member
    · rw [ledgered.owned other older,some_or]
    · rw [owner,← twins.operation_id]
      cases held : tx.head with
      | none => rfl
      | some head => rw [follows.operation_id,← follows.owner head held]; rfl
  · intro other member
    rw [facts.accepted,Std.ExtTreeMap.getElem?_insert]
    obtain older | rfl := mem_snoc.mp member
    · rw [if_neg,ledgered.accepted other older]
      rw [Std.LawfulEqCmp.compare_eq_iff_eq,twins.input_id]
      exact fun same => (apart other older).input_id same.symm
    · rw [if_pos (by rw [Std.LawfulEqCmp.compare_eq_iff_eq,twins.input_id]),twins.input_id,twins.step_seq,twins.record_digest]
  · intro input_id entry held
    rw [facts.accepted,Std.ExtTreeMap.getElem?_insert] at held
    split at held
    next same => exact ⟨record,by simp,twins.input_id ▸ Std.LawfulEqCmp.eq_of_compare same⟩
    next =>
    obtain ⟨other,member,named⟩ := ledgered.listed input_id entry held
    exact ⟨other,mem_append_left _ member,named⟩
  · intro other member held found
    rw [facts.index,record_for_note_committed] at found
    unfold Answerable below_replay_floor
    rw [facts.steps,facts.replay_floor,Std.ExtTreeMap.getElem?_insert]
    obtain older | rfl := mem_snoc.mp member
    · have other_input : ¬(twin.operation_id = other.operation_id ∧ twin.input_id = other.input_id) := by
        rintro ⟨_,same⟩
        exact (apart other older).input_id (same.symm.trans twins.input_id)
      rw [if_neg other_input] at found
      rw [if_neg]
      · exact ledgered.answered other older held found
      · rw [Std.LawfulEqCmp.compare_eq_iff_eq,twins.input_id]
        exact fun same => (apart other older).input_id same.symm
    · rw [if_pos ⟨twins.operation_id,twins.input_id⟩] at found
      cases found
      exact .inl ⟨step,if_pos (by rw [Std.LawfulEqCmp.compare_eq_iff_eq,twins.input_id]),verified⟩
  · intro other member input' effect_id outcome decoded' kind
    obtain older | rfl := mem_snoc.mp member
    · rw [facts.resolved_other]
      · exact ledgered.resolved other older input' effect_id outcome decoded' kind
      · rw [← settledBy_eq decoded]
        refine (apart other older).settled effect_id ?_
        rw [settledBy_eq decoded']
        simp only [NormalizedInput.settles,kind]
    · cases decoded.symm.trans decoded'
      rw [← twins.input_id,← twins.step_seq]
      exact facts.resolved_own kind
  · intro other member input' reason calls decoded' kind
    obtain older | rfl := mem_snoc.mp member
    · rw [facts.cancelled_other]
      · exact ledgered.cancelled other older input' reason calls decoded' kind
      · intro reason' calls' kind'
        have silent := (apart other older).cancelled ((cancels_eq decoded').mpr ⟨reason,calls,kind⟩)
        rw [(cancels_eq decoded).mpr ⟨reason',calls',kind'⟩] at silent
        cases silent
    · cases decoded.symm.trans decoded'
      rw [← twins.input_id,← twins.step_seq]
      exact facts.cancelled_own kind
  · rw [anchored,getLast?_append]
    rfl
  intro other member head held
  cases anchored.symm.trans held
  obtain older | rfl := mem_snoc.mp member
  · cases last : tx.head with
    | none =>
      rw [ledgered.head,map_eq_none_iff,getLast?_eq_none_iff] at last
      rw [last] at older
      cases older
    | some head =>
    have before := ledgered.placed other older head last
    have behind := follows.later head last
    rw [twins.step_seq] at behind
    exact Nat.le_of_lt (Nat.lt_of_le_of_lt before behind)
  · exact Nat.le_refl _

end

private theorem resolution_guard_none {tx : KernelTransaction C} {input : NormalizedInput} {effect_id : EffectId}
    (guarded : tx.resolution_guard input = .ok none) (settles : input.settles = some effect_id) : tx.resolved_effects[effect_id]? = none := by
  unfold resolution_guard at guarded
  unfold NormalizedInput.settles at settles
  split at settles
  next settled outcome kind =>
    cases settles
    simp only [kind] at guarded
    cases held : tx.resolved_effects[effect_id]? with
    | none => rfl
    | some resolved =>
    simp only [resolve_effect_guard,held,bind,Except.bind] at guarded
    split at guarded
    · cases guarded
    split at guarded
    · cases guarded
    split at guarded
    · cases guarded
    split at guarded
    · cases guarded
    next existing _ => cases answer : refuse (tx.replay_of existing) <;> simp [answer,Functor.map,Except.map] at guarded
  next => cases settles

private theorem duplicate_guard_none {tx : KernelTransaction C} {input : NormalizedInput} {reason : CancellationReason} {calls : List CallId}
    (guarded : tx.duplicate_guard input = .ok none) (kind : input.input = .HostControl (.Cancel reason calls)) :
    tx.accepted_cancellation = none := by
  simp only [duplicate_guard,kind] at guarded
  cases held : tx.accepted_cancellation with
  | none => rfl
  | some accepted =>
  simp only [cancel_guard,held,bind,Except.bind] at guarded
  split at guarded
  · cases guarded
  split at guarded
  · cases guarded
  split at guarded
  · cases guarded
  split at guarded
  · cases guarded
  next existing _ => cases answer : refuse (tx.replay_of existing) <;> simp [answer,Functor.map,Except.map] at guarded

theorem owner_of_preparable {tx : KernelTransaction C} {operation_id bound : OperationId}
    (preparable : tx.check_preparable operation_id = .ok ()) (owner : tx.operation_id = some bound) :
    operation_id = bound := by
  obtain ⟨clean,free⟩ := idle_of_preparable preparable
  simp only [check_preparable,clean,free,owner] at preparable
  split at preparable
  · cases preparable
  next same => exact (not_not.mp same).symm

/-- A candidate that follows the head and repeats nothing of the journal. -/
structure Fresh (tx : KernelTransaction C) (journal : List (KernelRecord C)) (candidate : Candidate C) : Prop where
  follows : Follows tx.head candidate.input candidate.record
  verified : candidate.record.verify_step candidate.step = .ok ()
  apart : ∀ record ∈ journal, Apart record candidate.record

/-- A transaction that answers for the whole journal. -/
structure Standing (defaults : ConfigDefaults) (tx : KernelTransaction C) (journal : List (KernelRecord C)) : Prop where
  sound : Sound defaults tx
  ledgers : Ledgered tx journal
  index : Indexed tx.index tx.replay_floor journal
  candidate : ∀ candidate, tx.candidate = some candidate → Fresh tx journal candidate

theorem Standing.moved {tx : KernelTransaction C}
    (standing : Standing defaults tx journal) (candidate : Option (Candidate C)) (prepare_epoch : Nat)
    (tail : List TailEntry)
    (poison : Option KernelFault) (fresh : ∀ staged, candidate = some staged → Fresh tx journal staged) :
    Standing defaults { tx with candidate, prepare_epoch, tail, poison } journal := by
  obtain ⟨sound,ledgers,index,_⟩ := standing
  refine ⟨⟨sound.defaults,sound.bounds,sound.owner,sound.floor,sound.pending,sound.accepted⟩,
    ⟨ledgers.owned,ledgers.accepted,ledgers.listed,ledgers.answered,ledgers.resolved,ledgers.cancelled,ledgers.head,ledgers.placed⟩,index,?_⟩
  intro staged held
  obtain ⟨follows,verified,apart⟩ := fresh staged held
  exact ⟨follows,verified,apart⟩

private theorem Standing.unrepeated {tx : KernelTransaction C}
    (standing : Standing defaults tx journal) {input : NormalizedInput} {step_seq : Nat} {config : ResolvedOperationConfig}
    (admitted : Admitted tx input step_seq config) {record : KernelRecord C} (member : record ∈ journal) : record.input_id ≠ input.input_id := by
  intro same
  have fresh := admitted.fresh
  have unreferenced := admitted.unreferenced
  rw [owner_of_preparable admitted.preparable (standing.ledgers.owned record member),← same] at fresh
  rw [← same,standing.ledgers.accepted record member] at unreferenced
  obtain held | ⟨floor,floored,covered⟩ := standing.index.held record member
  · rw [fresh] at held
    cases held
  · simp [Option.filter,below_replay_floor,floored,covered] at unreferenced

/-- What the guards let through and the chain takes is fresh. -/
theorem Fresh.of_admitted (trips : C.RoundTrips) {tx : KernelTransaction C}
    (standing : Standing defaults tx journal) {input : NormalizedInput} {step_seq : Nat}
    {config : ResolvedOperationConfig} {step : Step}
    {record : KernelRecord C} (admitted : Admitted tx input step_seq config)
    (chained : chain_after (C := C) tx.head input step = .ok record)
    (token : PrepareToken) (record_bytes : Nat) : Fresh tx journal ⟨token,record,step,input,record_bytes⟩ := by
  have follows := chain_after_follows chained
  have decoded : record.normalized_input = .ok input := trips _ _ follows.encoded
  refine ⟨follows,chain_after_verify_step chained,fun other member => ⟨?_,?_,?_⟩⟩
  · show other.input_id ≠ record.input_id
    rw [follows.input_id]
    exact standing.unrepeated admitted member
  · intro effect_id settled again
    rw [settledBy_eq decoded] at again
    cases earlier : other.normalized_input with
    | error error => simp [settledBy,earlier,Except.toOption] at settled
    | ok input' =>
    rw [settledBy_eq earlier] at settled
    unfold NormalizedInput.settles at settled
    split at settled
    next named outcome kind =>
      cases settled
      obtain ⟨_,_,held⟩ := standing.ledgers.resolved other member input' effect_id outcome earlier kind
      rw [resolution_guard_none admitted.unresolved again] at held
      cases held
    next => cases settled
  intro cancelling
  rw [Bool.eq_false_iff]
  intro again
  obtain ⟨reason,calls,kind⟩ := (cancels_eq decoded).mp again
  cases earlier : other.normalized_input with
  | error error => simp [cancels,earlier] at cancelling
  | ok input' =>
  obtain ⟨reason',calls',kind'⟩ := (cancels_eq earlier).mp cancelling
  obtain ⟨_,_,held⟩ := standing.ledgers.cancelled other member input' reason' calls' earlier kind'
  rw [duplicate_guard_none admitted.uncancelled kind] at held
  cases held

/-- A journal no runtime of its operation finds fault with. -/
structure Journaled (journal : List (KernelRecord C)) : Prop where
  chained : Chained journal
  apart : journal.Pairwise Apart

theorem Journaled.ids_once (journaled : Journaled journal) : (journal.map input_id).Nodup :=
  pairwise_map.mpr (journaled.apart.imp fun apart => apart.input_id)

theorem Journaled.snoc (journaled : Journaled journal) {input : NormalizedInput} {record : KernelRecord C}
    (follows : Follows (journal.getLast?.map anchor) input record) (apart : ∀ other ∈ journal, Apart other record) :
    Journaled (journal ++ [record]) := by
  refine ⟨?_,pairwise_append.mpr ⟨journaled.apart,pairwise_singleton _ _,?_⟩⟩
  · intro before other behind same
    obtain rfl | ⟨rest,last,rfl⟩ := eq_nil_or_concat behind
    · obtain ⟨rfl,single⟩ := append_inj' same rfl
      cases single
      exact ⟨input,follows⟩
    · have same : journal ++ [record] = (before ++ other :: rest) ++ [last] := by simpa using same
      exact journaled.chained before other rest (append_inj' same rfl).1
  · intro other member last single
    rw [mem_singleton.mp single]
    exact apart other member

theorem Chained.numbered (chained : Chained journal) (before : List (KernelRecord C)) :
    ∀ {record : KernelRecord C} {behind : List (KernelRecord C)}, journal = before ++ record :: behind →
    record.step_seq = before.length := by
  induction before using reverseRecOn with
  | nil =>
    intro record behind split
    obtain ⟨input,follows⟩ := chained [] record behind split
    exact follows.first
  | append_singleton earlier last ih =>
  intro record behind split
  obtain ⟨input,follows⟩ := chained (earlier ++ [last]) record behind split
  have placed : last.step_seq = earlier.length := ih (by simpa using split)
  have next := follows.next last.anchor (by simp)
  have anchored : last.anchor.step_seq = last.step_seq := rfl
  rw [next,anchored,placed,length_append,length_singleton]

variable [TransitionStep Step]

/-- A commit keeps the books standing on the journal. -/
theorem Standing.commit (trips : C.RoundTrips) {defaults : ConfigDefaults} {tx after : KernelTransaction C}
    {journal : List (KernelRecord C)}
    (standing : Standing defaults tx journal) {candidate : Candidate C} (held : tx.candidate = some candidate)
    (folded : foldRecord candidate.record candidate.step candidate.input candidate.record_bytes { tx with candidate :=
    none } = .ok () after) :
    Standing defaults after (journal ++ [candidate.record]) := by
  have fresh := standing.candidate candidate held
  have facts := foldRecord_ok folded
  have decoded : candidate.record.normalized_input = .ok candidate.input := trips _ _ fresh.follows.encoded
  have idle := standing.moved none tx.prepare_epoch tx.tail tx.poison (by rintro _ ⟨⟩)
  refine ⟨idle.sound.folded fresh.follows facts,
    idle.ledgers.folded idle.sound.owner (Twins.refl _) fresh.apart decoded fresh.follows fresh.verified facts,?_,?_⟩
  · rw [facts.index,facts.replay_floor]
    exact idle.index.note_committed (Twins.refl _) (by simp) (fun other member => by simp [member]) fun other member => mem_snoc.mp member
  · intro other staged
    rw [facts.candidate] at staged
    cases staged

/-- Part of a journal folded, all of it indexed. -/
structure Folding (defaults : ConfigDefaults) (tx : KernelTransaction C) (done journal : List (KernelRecord C)) : Prop where
  sound : Sound defaults tx
  ledgers : Ledgered tx done
  index : Indexed tx.index tx.replay_floor journal
  free : tx.candidate = none

omit [TransitionStep Step] in
private theorem twins_of_follows {head : Option ChainAnchor} {input : NormalizedInput} {record twin : KernelRecord C}
    (follows : Follows head input record) (again : Follows head input twin) (digest : twin.record_digest = record.record_digest) :
    Twins record twin := by
  obtain ⟨place,_⟩ := Prod.mk.inj (Except.ok.inj (again.position.symm.trans follows.position))
  exact ⟨again.operation_id.trans follows.operation_id.symm,again.input_id.trans follows.input_id.symm,place,
    Except.ok.inj (again.encoded.symm.trans follows.encoded),digest⟩

/-- The replay of a journaled record folds it once more. -/
theorem Folding.replay_committed (trips : C.RoundTrips) {tx after : KernelTransaction C}
    {done behind : List (KernelRecord C)} {record : KernelRecord C} {input : NormalizedInput} {D : Type}
    {plan : Planner D Step}
    {state state' : D} (journaled : Journaled journal) (split : journal = done ++ record :: behind)
    (folding : Folding defaults tx done journal) (decoded : record.normalized_input = .ok input)
    (replayed : tx.replay_committed input record.record_digest plan state = .ok after state') :
    Folding defaults after (done ++ [record]) journal := by
  obtain ⟨step_seq,config,step,twin,_,_,_,_,chained,digest,folded⟩ := replay_committed_ok replayed
  have facts := foldRecord_ok folded
  have again := chain_after_follows chained
  obtain ⟨original,follows⟩ := journaled.chained done record behind split
  obtain rfl : input = original := Except.ok.inj (decoded.symm.trans (trips _ _ follows.encoded))
  have twins : Twins record twin := twins_of_follows (folding.ledgers.head ▸ follows) again digest
  have apart : ∀ other ∈ done, Apart other record := by
    intro other member
    have pairs := journaled.apart
    rw [split,pairwise_append] at pairs
    exact pairs.2.2 other member record mem_cons_self
  have listed : record ∈ journal := by simp [split]
  refine ⟨folding.sound.folded again facts,
    folding.ledgers.folded folding.sound.owner twins apart decoded again (chain_after_verify_step chained) facts,?_,
    facts.candidate.trans folding.free⟩
  rw [facts.index,facts.replay_floor]
  exact folding.index.note_committed twins listed (fun _ member => member) fun _ member => .inl member

/-- A replay of the journal behind a point folds all of it. -/
theorem Folding.replay_records (trips : C.RoundTrips) (journaled : Journaled journal)
    {D : Type} {plan : Planner D Step} {relabel : RecordError → KernelFault} (behind : List (KernelRecord C)) :
    ∀ {tx after : KernelTransaction C} {done : List (KernelRecord C)} {state state' : D}, journal = done ++ behind →
      Folding defaults tx done journal →
      KernelTransaction.replay_records plan relabel tx behind state = .ok after state' →
      Folding defaults after journal journal := by
  induction behind with
  | nil =>
    intro tx after done state state' split folding replayed
    cases replayed
    rw [append_nil] at split
    exact split ▸ folding
  | cons record rest ih =>
  intro tx after done state state' split folding replayed
  obtain ⟨_,_,_,decoded,stepped,replayed⟩ := replay_records_cons.mp replayed
  exact ih (by simp [split]) (folding.replay_committed trips journaled split decoded stepped) replayed

/-- The journal of an operation, and the runtime that still stands over it. -/
structure Lives (defaults : ConfigDefaults) (tx : KernelTransaction C) (journal : List (KernelRecord C)) : Prop where
  journaled : Journaled journal
  standing : tx.poison = none → Standing defaults tx journal

omit [TransitionStep Step] in
theorem Lives.leaves {tx : KernelTransaction C} {committed : List (KernelRecord C)}
    (lives : Lives defaults tx committed) (left : Leaves tx committed journal) : Journaled journal := by
  obtain rfl | ⟨candidate,clean,held,rfl⟩ := left
  · exact lives.journaled
  · have standing := lives.standing clean
    have fresh := standing.candidate candidate held
    exact lives.journaled.snoc (standing.ledgers.head ▸ fresh.follows) fresh.apart

omit [TransitionStep Step] in
theorem Folding.lives {tx : KernelTransaction C}
    (folding : Folding defaults tx journal journal) (journaled : Journaled journal) : Lives defaults tx journal :=
  ⟨journaled,fun _ => ⟨folding.sound,folding.ledgers,folding.index,fun candidate held => by simp [folding.free] at held⟩⟩

omit [TransitionStep Step] in
theorem Folding.new (defaults : ConfigDefaults)
    (indexed : Indexed index none journal) : Folding defaults (new defaults index) [] journal :=
  ⟨Sound.new defaults index,
    ⟨by rintro _ ⟨⟩,by rintro _ ⟨⟩,fun _ _ held => by simp [KernelTransaction.new] at held,by rintro _ ⟨⟩,by rintro _ ⟨⟩,by rintro _ ⟨⟩,rfl,
      by rintro _ ⟨⟩⟩,indexed,rfl⟩

omit [TransitionStep Step] in
/-- A restored transaction accounts for the records its checkpoint covers: all of them lie below
    its floor. -/
theorem Folding.restored {defaults : ConfigDefaults} {origin : KernelTransaction C}
    {covered journal : List (KernelRecord C)}
    (standing : Standing defaults origin covered) {head : ChainAnchor} (held : origin.head = some head)
    {operation_id : OperationId}
    (owner : origin.operation_id = some operation_id) {genesis_digest : Digest}
    (genesis : origin.genesis_digest = some genesis_digest)
    {root_kind : Option RootKind} {focus : Option ExecutionFocus} {state : TransitionState}
    (transited : origin.transition_state root_kind focus = .ok state) {index : RecordIndex C}
    (indexed : Indexed index (some head.step_seq) journal) (journaled : Journaled journal)
    (kept : ∀ record ∈ covered, record ∈ journal) :
    Folding defaults (restore_from_checkpoint operation_id genesis_digest ⟨head.step_seq,head.record_digest⟩ state
    defaults index) covered
      journal := by
  refine ⟨Sound.restored _ _ _ _ _ _,?_,indexed,rfl⟩
  rw [restore_from_checkpoint_eq standing.sound held owner genesis transited index]
  obtain ⟨owned,accepted,listed,_,resolved,cancelled,last,placed⟩ := standing.ledgers
  refine ⟨owned,accepted,listed,?_,resolved,cancelled,last,placed⟩
  intro record member twin found
  refine .inr ⟨by simp,?_⟩
  obtain ⟨other,found,_,named,twins⟩ := indexed.found _ _ twin found
  have same : other = record := inj_on_of_nodup_map journaled.ids_once found (kept record member) named
  have below := placed record member head held
  simp only [below_replay_floor,twins.step_seq,same,below,decide_true]

/-- A record that a runtime over this journal may stage: it follows the journal and repeats none of it. -/
def Extends (journal : List (KernelRecord C)) (record : KernelRecord C) : Prop :=
  ∃ input, Follows (journal.getLast?.map anchor) input record ∧ ∀ other ∈ journal, Apart other record

omit [TransitionStep Step] in
theorem Lives.new (defaults : ConfigDefaults) : Lives defaults (.new defaults ∅ : KernelTransaction C) [] := by
  refine (Folding.new defaults ⟨?_,by rintro _ ⟨⟩⟩).lives ⟨?_,List.Pairwise.nil⟩
  · intro operation_id input_id twin found
    simp [record_for_input] at found
  · intro before record behind same
    simp at same

/-- A preparation answers for the same journal; what it stages extends that, and is the envelope, normalised. -/
theorem Lives.prepare (trips : C.RoundTrips) {defaults : ConfigDefaults} {tx after : KernelTransaction C}
    {journal : List (KernelRecord C)}
    {D : Type} {resolve : Resolver} {envelope : WireEnvelope} {plan : Planner D Step} {state state' : D}
    {preparation : KernelPreparation C}
    (lives : Lives defaults tx journal)
    (prepared : tx.prepare resolve envelope plan state = .ok (preparation,after,state')) :
    Lives defaults after journal ∧ ∀ token record step, preparation = .Prepared token record step →
      Extends journal record ∧ ∃ input, record.normalized_input = .ok input ∧ Normalizes envelope input ∧
      record.input_id = envelope.input_id := by
  obtain ⟨unstaged,rfl⟩ | ⟨input,step_seq,config,step,admitted,_,staging,normalized⟩ := prepare_cases prepared
  · refine ⟨lives,?_⟩
    rintro token record step rfl
    cases unstaged
  obtain ⟨record,able,same⟩ := stage_cases staging
  cases same
  have chained := stageable_chained able
  have standing := lives.standing (idle_of_preparable admitted.preparable).1
  refine ⟨⟨lives.journaled,fun clean => standing.moved _ _ _ _ ?_⟩,?_⟩
  · rintro staged ⟨⟩
    exact Fresh.of_admitted trips standing admitted chained _ _
  rintro _ _ _ ⟨⟩
  have fresh := Fresh.of_admitted trips standing admitted chained "" record.record_len
  have follows := chain_after_follows chained
  exact ⟨⟨input,standing.ledgers.head ▸ fresh.follows,fresh.apart⟩,input,trips _ _ follows.encoded,normalized,
    follows.input_id.trans normalized.input_id⟩

/-- A commit answers for the record of the candidate as well. -/
theorem Lives.commit (trips : C.RoundTrips) {defaults : ConfigDefaults} {tx after : KernelTransaction C}
    {journal : List (KernelRecord C)}
    {token : PrepareToken} {appended_head : Digest} {transition : CommittedTransition C}
    (lives : Lives defaults tx journal)
    (committed : tx.commit token appended_head = (.ok transition,after)) :
    Lives defaults after (journal ++ [transition.record]) ∧ ∃ candidate, tx.poison = none ∧
    tx.candidate = some candidate ∧
      candidate.record = transition.record ∧ transition.record.record_digest = appended_head := by
  obtain ⟨_,same,_⟩ | ⟨candidate,clean,held,_,placed,folded,same⟩ := commit_cases committed
  · cases same
  cases same
  exact ⟨⟨lives.leaves (.inr ⟨candidate,clean,held,rfl⟩),fun _ => (lives.standing clean).commit trips held folded⟩,
    candidate,clean,held,rfl,placed.symm⟩

/-- A refused commit leaves the transaction living on its journal. -/
theorem Lives.refused {tx after : KernelTransaction C} {token : PrepareToken}
    {appended_head : Digest} {fault : KernelFault} (lives : Lives defaults tx journal)
    (refused : tx.commit token appended_head = (.error fault,after)) : Lives defaults after journal := by
  refine ⟨lives.journaled,fun clean => ?_⟩
  obtain ⟨_,_,⟨poisoned,rfl⟩ | ⟨_,poisoned,_⟩⟩ | ⟨_,_,_,_,_,_,same⟩ := commit_cases refused
  · rw [poisoned] at clean
    cases clean
  · rw [clean] at poisoned
    cases poisoned
  · cases same

omit [TransitionStep Step] in
theorem Lives.abort {defaults : ConfigDefaults} {tx : KernelTransaction C} {journal : List (KernelRecord C)}
    (lives : Lives defaults tx journal)
    (token : PrepareToken) : Lives defaults (tx.abort token).2 journal := by
  obtain ⟨fault,same⟩ | ⟨candidate,clean,_,_,same⟩ := abort_cases tx token
  · rw [same]
    exact lives
  · rw [same]
    exact ⟨lives.journaled,fun _ => (lives.standing clean).moved _ _ _ _ (by rintro _ ⟨⟩)⟩

omit [TransitionStep Step] in
theorem Lives.ack {defaults : ConfigDefaults} {tx : KernelTransaction C} {journal : List (KernelRecord C)}
    (lives : Lives defaults tx journal)
    (boundary : CheckpointBoundary) : Lives defaults (tx.note_checkpoint_acked boundary).2 journal := by
  obtain ⟨tail,same⟩ := note_checkpoint_acked_tail tx boundary
  rw [same]
  refine ⟨lives.journaled,fun clean => ?_⟩
  have standing := lives.standing clean
  exact standing.moved _ _ _ _ standing.candidate

/-- Every runtime of an operation answers for its whole journal. -/
theorem Life.lives (trips : C.RoundTrips) {tx : KernelTransaction C} (life : Life resolve defaults tx journal) :
    Lives defaults tx journal := by
  induction life with
  | new => exact Lives.new defaults
  | @prepare tx after journal envelope plan preparation _ prepared lives =>
    unfold prepareWith at prepared
    cases outcome : tx.prepare resolve envelope (stateless plan) () with
    | error site =>
      rw [outcome] at prepared
      cases prepared
    | ok result =>
    rw [outcome] at prepared
    cases prepared
    exact (lives.prepare trips outcome).1
  | commit _ committed lives => exact (lives.commit trips committed).1
  | refused _ refused lives => exact lives.refused refused
  | abort token _ lives => exact lives.abort token
  | conflict token observed_head _ lives =>
    refine ⟨lives.journaled,fun clean => ?_⟩
    simp [note_append_conflict,poison_with] at clean
  | ack boundary _ lives => exact lives.ack boundary
  | @rebuilt tx after committed journal index plan _ left indexed rebuilt lives =>
    have journaled := lives.leaves left
    refine Folding.lives ?_ journaled
    have fresh := Folding.new defaults indexed
    exact Folding.replay_records trips journaled _ rfl fresh (rebuild_replays rebuilt)
  | restored _ clean held owner genesis transited _ left indexed replayed origin lives =>
  have journaled := lives.leaves left
  have folding := Folding.restored (origin.standing clean) held owner genesis transited indexed journaled
    fun record member => mem_append_left _ member
  exact (Folding.replay_records trips journaled _ rfl folding replayed).lives journaled

private theorem Life.transact {tx after : KernelTransaction C}
    {transition : CommittedTransition C} {envelope : WireEnvelope} {plan : PlanFn Step} (life : Life resolve defaults tx journal)
    (through : tx.transact resolve envelope plan = some (transition,after)) : Life resolve defaults after (journal ++ [transition.record]) := by
  obtain ⟨token,record,step,staged,prepared,committed⟩ := transact_cases through
  exact (life.prepare prepared).commit committed

/-- Any number of whole transitions prolongs a life. -/
theorem Life.transactAll {plan : PlanFn Step} (envelopes : List WireEnvelope) :
    ∀ {tx after : KernelTransaction C} {journal : List (KernelRecord C)} {transitions : List (CommittedTransition C)},
      Life resolve defaults tx journal →
      KernelTransaction.transactAll resolve plan tx envelopes = some (transitions,after) →
      Life resolve defaults after (journal ++ recordsOf transitions) := by
  induction envelopes with
  | nil =>
    intro tx after journal transitions life through
    cases through
    simpa [recordsOf] using life
  | cons envelope rest ih =>
  intro tx after journal transitions life through
  obtain ⟨transition,middle,later,first,second,rfl⟩ := transactAll_cons through
  have stepped := ih (life.transact first) second
  rwa [append_assoc,singleton_append] at stepped

/-- A transaction restored from the full-state checkpoint of another, taken at its durable head. -/
def restoredAt (tx : KernelTransaction C) (root_kind : Option RootKind) (focus : Option ExecutionFocus) (defaults : ConfigDefaults)
    (index : RecordIndex C) : Option (KernelTransaction C) := do
  let head ← tx.head
  let operation_id ← tx.operation_id
  let genesis_digest ← tx.genesis_digest
  let state ← (tx.transition_state root_kind focus).toOption
  pure (restore_from_checkpoint operation_id genesis_digest ⟨head.step_seq,head.record_digest⟩ state defaults index)

omit [TransitionStep Step] in
theorem restoredAt_some {tx after : KernelTransaction C}
    (restored : tx.restoredAt root_kind focus defaults index = some after) :
    ∃ head operation_id genesis_digest state, tx.head = some head ∧ tx.operation_id = some operation_id ∧
      tx.genesis_digest = some genesis_digest ∧ tx.transition_state root_kind focus = .ok state ∧
      after = restore_from_checkpoint operation_id genesis_digest ⟨head.step_seq,head.record_digest⟩ state defaults
      index := by
  obtain ⟨head,held,restored⟩ := bind_eq_some_iff.mp restored
  obtain ⟨operation_id,owner,restored⟩ := bind_eq_some_iff.mp restored
  obtain ⟨genesis_digest,genesis,restored⟩ := bind_eq_some_iff.mp restored
  obtain ⟨state,transited,restored⟩ := bind_eq_some_iff.mp restored
  cases outcome : tx.transition_state root_kind focus with
  | error fault => simp [outcome,Except.toOption] at transited
  | ok state' =>
  simp only [outcome,Except.toOption,some.injEq] at transited
  subst transited
  cases restored
  exact ⟨head,operation_id,genesis_digest,state',held,owner,genesis,rfl,rfl⟩

/-- A restored transaction lives on the same journal. -/
theorem Life.restoredAt {tx after : KernelTransaction C} (life : Life resolve defaults tx journal)
    (clean : tx.poison = none) (indexed : ∀ head, tx.head = some head → Indexed index (some head.step_seq) journal)
    (restored : tx.restoredAt root_kind focus defaults index = some after) : Life resolve defaults after journal := by
  obtain ⟨head,operation_id,genesis_digest,state,held,owner,genesis,transited,rfl⟩ := restoredAt_some restored
  have nothing : replay_records (stateless (fun _ => .error ⟨.RecordCorrupted,""⟩)) record_fault
    (restore_from_checkpoint operation_id genesis_digest ⟨head.step_seq,head.record_digest⟩ state defaults index) [] () = .ok _ () := rfl
  have kept : Indexed index (some head.step_seq) (journal ++ []) := by
    rw [append_nil]
    exact indexed head held
  have whole := life.restored clean held owner genesis transited life (.inl (append_nil journal)) kept nothing
  rwa [append_nil] at whole

theorem Life.pruned (trips : C.RoundTrips) {tx after : KernelTransaction C} (life : Life resolve defaults tx journal)
    (clean : tx.poison = none) (restored : tx.restoredAt root_kind focus defaults ∅ = some after) :
    Life resolve defaults after journal := by
  have placed := ((life.lives trips).standing clean).ledgers.placed
  refine life.restoredAt clean (fun head held => ⟨?_,?_⟩) restored
  · intro operation_id input_id record found
    simp [record_for_input] at found
  · intro record member
    exact .inr ⟨head.step_seq,rfl,placed record member head held⟩

end Deepstrike.Transaction.KernelTransaction

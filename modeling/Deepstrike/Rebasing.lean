import Deepstrike.Covering
import Deepstrike.Lives
import Deepstrike.Rebuilding

/-!
Two forms of one checkpoint. A full one holds the state at the durable head; a rebased one holds an
older state and the inputs behind it. All runtimes of an operation that plan with one planner bring
back the same books for the same journal, so both forms restore alike.
-/
namespace Deepstrike.Transaction.KernelTransaction
open Wire Record Checkpoints List Except Option KernelRecord KernelTransaction KernelCheckpoint

variable {Step : Type} {C : Codec Step}

section
variable [TransitionStep Step]

/-- The runtimes of one operation that all plan with one planner, each with its journal. -/
inductive Steady (resolve : Resolver) (defaults : ConfigDefaults) (plan : PlanFn Step) :
    KernelTransaction C → List (KernelRecord C) → Prop where
  | new : Steady resolve defaults plan (.new defaults ∅) []
  | prepare {tx after : KernelTransaction C} {journal : List (KernelRecord C)} {envelope : WireEnvelope}
    {preparation : KernelPreparation C} :
      Steady resolve defaults plan tx journal → tx.prepareWith resolve envelope plan = .ok (preparation,after) →
      Steady resolve defaults plan after journal
  | commit {tx after : KernelTransaction C} {journal : List (KernelRecord C)} {token : PrepareToken} {appended_head : Digest}
      {transition : CommittedTransition C} : Steady resolve defaults plan tx journal →
      tx.commit token appended_head = (.ok transition,after) → Steady resolve defaults plan after (journal ++ [transition.record])
  | refused {tx after : KernelTransaction C} {journal : List (KernelRecord C)} {token : PrepareToken} {appended_head : Digest}
      {fault : KernelFault} : Steady resolve defaults plan tx journal →
      tx.commit token appended_head = (.error fault,after) → Steady resolve defaults plan after journal
  | abort {tx : KernelTransaction C} {journal : List (KernelRecord C)} (token : PrepareToken) :
      Steady resolve defaults plan tx journal → Steady resolve defaults plan (tx.abort token).2 journal
  | conflict {tx : KernelTransaction C} {journal : List (KernelRecord C)} (token : PrepareToken) (observed_head : Option Digest) :
      Steady resolve defaults plan tx journal → Steady resolve defaults plan (tx.note_append_conflict token observed_head).2 journal
  | ack {tx : KernelTransaction C} {journal : List (KernelRecord C)} (boundary : CheckpointBoundary) :
      Steady resolve defaults plan tx journal → Steady resolve defaults plan (tx.note_checkpoint_acked boundary).2 journal
  | rebuilt {tx after : KernelTransaction C} {committed journal : List (KernelRecord C)} {index : RecordIndex C} :
      Steady resolve defaults plan tx committed → Leaves tx committed journal → Indexed index none journal →
      rebuild_from_records journal defaults index (stateless plan) () = .ok after () → Steady resolve defaults plan after journal
  | restored {origin tx after : KernelTransaction C} {covered committed behind : List (KernelRecord C)} {head : ChainAnchor}
      {operation_id : OperationId} {genesis_digest : Digest} {root_kind : Option RootKind} {focus : Option ExecutionFocus}
      {state : TransitionState} {index : RecordIndex C} {relabel : RecordError → KernelFault} :
      Steady resolve defaults plan origin covered → origin.poison = none → origin.head = some head →
      origin.operation_id = some operation_id →
      origin.genesis_digest = some genesis_digest → origin.transition_state root_kind focus = .ok state →
      Steady resolve defaults plan tx committed → Leaves tx committed (covered ++ behind) →
      Indexed index (some head.step_seq) (covered ++ behind) →
      replay_records (stateless plan) relabel
        (restore_from_checkpoint operation_id genesis_digest ⟨head.step_seq,head.record_digest⟩ state defaults index)
        behind () = .ok after () →
      Steady resolve defaults plan after (covered ++ behind)

variable {resolve : Resolver} {defaults : ConfigDefaults} {plan : PlanFn Step}

variable {journal : List (KernelRecord C)} {relabel : RecordError → KernelFault} {record : KernelRecord C} {entry : CanonicalInput}

theorem Steady.life {tx : KernelTransaction C} (steady : Steady resolve defaults plan tx journal) :
    Life resolve defaults tx journal := by
  induction steady with
  | new => exact .new
  | prepare _ prepared life => exact life.prepare prepared
  | commit _ committed life => exact life.commit committed
  | refused _ refused life => exact life.refused refused
  | abort token _ life => exact life.abort token
  | conflict token observed_head _ life => exact life.conflict token observed_head
  | ack boundary _ life => exact life.ack boundary
  | rebuilt _ left indexed rebuilt life => exact life.rebuilt left indexed rebuilt
  | restored _ clean held owner genesis transited _ left indexed replayed origin life =>
    exact origin.restored clean held owner genesis transited life left indexed replayed

/-- A replay that succeeds on one transaction succeeds on every other with the same books, and both
    come out with the same books again. -/
theorem replay_records_of_bareBooks {relabel' : RecordError → KernelFault} (records : List (KernelRecord C)) :
    ∀ {tx other after : KernelTransaction C}, replay_records (stateless plan) relabel tx records () = .ok after () →
    other.poison = none →
      other.bareBooks = tx.bareBooks →
      ∃ again, replay_records (stateless plan) relabel' other records () = .ok again () ∧
        again.poison = none ∧ again.bareBooks = after.bareBooks := by
  induction records with
  | nil =>
    intro tx other after replayed clean same
    cases replayed
    exact ⟨other,rfl,clean,same⟩
  | cons record rest ih =>
  intro tx other after replayed clean same
  obtain ⟨_,_,_,decoded,stepped,replayed⟩ := replay_records_cons.mp replayed
  obtain ⟨step_seq,config,step,twin,_,sequenced,configured,planned,chained,digest,folded⟩ := replay_committed_ok stepped
  obtain ⟨next,again,settled,books⟩ := replay_committed_of_folds bareBooks_folds clean (PlansAlike.of_bareBooks same) same sequenced
    configured planned chained folded rfl
  rw [digest] at again
  obtain ⟨last,ends,unpoisoned,alike⟩ := ih replayed settled books
  exact ⟨last,replay_records_cons.mpr ⟨_,_,_,decoded,again,ends⟩,unpoisoned,alike⟩

/-- The books of every runtime are what its journal replays to. -/
structure Steadied (defaults : ConfigDefaults) (plan : PlanFn Step) (tx : KernelTransaction C)
    (journal : List (KernelRecord C)) : Prop where
  replayed : ∃ rebuilt, replay_records (stateless plan) record_fault (new defaults ∅) journal () = .ok rebuilt () ∧ rebuilt.poison = none ∧
    (tx.poison = none → rebuilt.bareBooks = tx.bareBooks)
  candidate : tx.poison = none → ∀ candidate, tx.candidate = some candidate → Planned plan tx candidate

theorem Steadied.of_bareBooks {tx after : KernelTransaction C} (steadied : Steadied defaults plan tx journal)
    (same : after.bareBooks = tx.bareBooks) (poison : after.poison = none → tx.poison = none)
    (candidates : after.poison = none → ∀ candidate, after.candidate = some candidate → Planned plan after candidate) :
    Steadied defaults plan after journal := by
  obtain ⟨rebuilt,replayed,clean,books⟩ := steadied.replayed
  exact ⟨⟨rebuilt,replayed,clean,fun unpoisoned => (books (poison unpoisoned)).trans same.symm⟩,candidates⟩

theorem Steadied.commit (trips : C.RoundTrips) {tx after : KernelTransaction C} {journal : List (KernelRecord C)}
    {candidate : Candidate C}
    (steadied : Steadied defaults plan tx journal) (clean : tx.poison = none) (held : tx.candidate = some candidate)
    (folded : foldRecord candidate.record candidate.step candidate.input candidate.record_bytes { tx with candidate :=
    none } = .ok () after) :
    Steadied defaults plan after (journal ++ [candidate.record]) := by
  obtain ⟨rebuilt,replayed,unpoisoned,books⟩ := steadied.replayed
  obtain ⟨⟨step_seq,config,sequenced,configured,planned⟩,chained,measured⟩ := steadied.candidate clean candidate held
  rw [measured] at folded
  have replanned : stateless plan (tx.plan_context candidate.input step_seq config) () = .ok candidate.step () := by
    simp only [stateless_eq,planned]
  obtain ⟨next,stepped,settled,same⟩ := replay_committed_of_folds bareBooks_folds unpoisoned (PlansAlike.of_bareBooks (books clean))
    (books clean) sequenced configured replanned chained folded rfl
  have decoded : candidate.record.normalized_input = .ok candidate.input := trips _ _ (chain_after_follows chained).encoded
  refine ⟨⟨next,?_,settled,fun _ => same⟩,?_⟩
  · rw [replay_records_append (stateless plan) record_fault journal _ replayed]
    simp only [replay_records,decoded,Except.mapError,refuse,MonadExcept.ofExcept,bind,EStateM.bind,pure,EStateM.pure,stepped]
  · intro _ other staged
    rw [(foldRecord_ok folded).candidate] at staged
    cases staged

omit [TransitionStep Step] in
/-- A restored transaction has the books of the one its checkpoint was taken of. -/
theorem restored_bareBooks {origin : KernelTransaction C} (sound : Sound defaults origin) {head : ChainAnchor}
    (held : origin.head = some head)
    {operation_id : OperationId} (owner : origin.operation_id = some operation_id) {genesis_digest : Digest}
    (genesis : origin.genesis_digest = some genesis_digest) {root_kind : Option RootKind}
    {focus : Option ExecutionFocus} {state : TransitionState}
    (transited : origin.transition_state root_kind focus = .ok state) (index : RecordIndex C) :
    (restore_from_checkpoint operation_id genesis_digest ⟨head.step_seq,head.record_digest⟩ state defaults
    index).bareBooks =
      origin.bareBooks := by
  rw [restore_from_checkpoint_eq sound held owner genesis transited index]
  rfl

private theorem replay_records_free (records : List (KernelRecord C)) :
    ∀ {tx after : KernelTransaction C}, replay_records (stateless plan) relabel tx records () = .ok after () →
      after.candidate = tx.candidate ∧ after.prepare_epoch = tx.prepare_epoch ∧ after.replay_floor = tx.replay_floor := by
  intro tx after
  refine replay_records_invariant (fun later _ => later.candidate = tx.candidate ∧ later.prepare_epoch = tx.prepare_epoch ∧
    later.replay_floor = tx.replay_floor) ?_ ⟨rfl,rfl,rfl⟩
  rintro before next input expected _ _ ⟨candidate,prepare_epoch,replay_floor⟩ stepped
  obtain ⟨_,_,_,_,_,_,_,_,_,_,folded⟩ := replay_committed_ok stepped
  have facts := foldRecord_ok folded
  exact ⟨facts.candidate.trans candidate,facts.prepare_epoch.trans prepare_epoch,facts.replay_floor.trans replay_floor⟩

/-- Whatever runtimes an operation went through, its journal replays to the books of the last. -/
theorem Steady.steadied (trips : C.RoundTrips) {tx : KernelTransaction C}
    (steady : Steady resolve defaults plan tx journal) : Steadied defaults plan tx journal := by
  induction steady with
  | new => exact ⟨⟨_,rfl,rfl,fun _ => rfl⟩,by rintro _ _ ⟨⟩⟩
  | prepare _ prepared steadied =>
    obtain ⟨_,rfl⟩ | ⟨input,step_seq,config,step,record,admitted,planned,able,same⟩ := prepareWith_cases prepared
    · exact steadied
    cases same
    have chained := stageable_chained able
    refine steadied.of_bareBooks rfl id ?_
    rintro _ candidate ⟨⟩
    exact ⟨⟨step_seq,config,admitted.sequenced,admitted.configured,planned⟩,chained,rfl⟩
  | commit _ committed steadied =>
    obtain ⟨_,same,_⟩ | ⟨candidate,clean,held,_,_,folded,same⟩ := commit_cases committed
    · cases same
    · cases same
      exact steadied.commit trips clean held folded
  | refused _ refused steadied =>
    obtain ⟨_,_,⟨_,rfl⟩ | ⟨_,poisoned,_⟩⟩ | ⟨_,_,_,_,_,_,same⟩ := commit_cases refused
    · exact steadied
    · obtain ⟨rebuilt,replayed,clean,_⟩ := steadied.replayed
      exact ⟨⟨rebuilt,replayed,clean,fun unpoisoned => by simp [unpoisoned] at poisoned⟩,fun unpoisoned => by simp [unpoisoned] at poisoned⟩
    · cases same
  | @abort tx journal token _ steadied =>
    obtain ⟨fault,same⟩ | ⟨candidate,clean,_,_,same⟩ := abort_cases tx token
    · rw [same]
      exact steadied
    · rw [same]
      exact steadied.of_bareBooks rfl id (by rintro _ _ ⟨⟩)
  | conflict token observed_head _ steadied =>
    obtain ⟨rebuilt,replayed,clean,_⟩ := steadied.replayed
    exact ⟨⟨rebuilt,replayed,clean,fun unpoisoned => by simp [note_append_conflict,poison_with] at unpoisoned⟩,
      fun unpoisoned => by simp [note_append_conflict,poison_with] at unpoisoned⟩
  | @ack tx journal boundary _ steadied =>
    obtain ⟨tail,same⟩ := note_checkpoint_acked_tail tx boundary
    rw [same]
    refine steadied.of_bareBooks rfl id fun clean candidate held => ?_
    obtain ⟨planned,chained,measured⟩ := steadied.candidate clean candidate held
    exact ⟨planned,chained,measured⟩
  | @rebuilt tx after committed journal index _ left indexed rebuilt _ =>
    have replayed := rebuild_replays rebuilt
    obtain ⟨again,replays,clean,same⟩ : ∃ again, replay_records (stateless plan) record_fault (KernelTransaction.new defaults ∅) journal () =
      .ok again () ∧ again.poison = none ∧ again.bareBooks = after.bareBooks := replay_records_of_bareBooks journal replayed rfl rfl
    refine ⟨⟨again,replays,clean,fun _ => same⟩,fun _ candidate held => ?_⟩
    rw [(replay_records_free journal replayed).1] at held
    cases held
  | @restored origin tx after covered committed behind head _ _ _ _ _ index _ life clean held owner genesis transited
    _ left indexed replayed steadied _ =>
  obtain ⟨rebuilt,replays,unpoisoned,books⟩ := steadied.replayed
  have sound := ((life.life.lives trips).standing clean).sound
  have same := restored_bareBooks sound held owner genesis transited index
  obtain ⟨again,further,settled,same⟩ : ∃ again, replay_records (stateless plan) record_fault rebuilt behind () = .ok again () ∧
    again.poison = none ∧ again.bareBooks = after.bareBooks :=
    replay_records_of_bareBooks behind replayed unpoisoned ((books clean).trans same.symm)
  refine ⟨⟨again,?_,settled,fun _ => same⟩,fun _ candidate held => ?_⟩
  · rw [replay_records_append (stateless plan) record_fault covered behind replays]
    exact further
  · rw [(replay_records_free behind replayed).1] at held
    cases held

/-- A record and the tail entry it left. -/
def Tells (record : KernelRecord C) (entry : CanonicalInput) : Prop := CanonicalInput.from_record record = .ok entry

omit [TransitionStep Step] in
theorem tells_iff :
    Tells record entry ↔ record.step_seq = entry.step_seq ∧ record.record_digest = entry.record_digest ∧
      record.normalized_input = .ok entry.input := by
  unfold Tells CanonicalInput.from_record
  constructor
  · intro told
    cases decoded : record.normalized_input with
    | error error =>
      simp only [decoded,Except.mapError,bind,Except.bind] at told
      cases told
    | ok input =>
    simp only [decoded,Except.mapError,bind,Except.bind] at told
    cases told
    exact ⟨rfl,rfl,rfl⟩
  · rintro ⟨step_seq,record_digest,decoded⟩
    simp only [decoded,Except.mapError,bind,Except.bind,step_seq,record_digest]

/-- The tail is the end of the journal that no acknowledged checkpoint reclaimed. -/
def Tailed (tx : KernelTransaction C) (journal : List (KernelRecord C)) : Prop :=
  ∃ reclaimed kept, journal = reclaimed ++ kept ∧ List.Forall₂ Tells kept (tail_inputs tx)

/-- A replay adds the entries of what it replays to the tail. -/
theorem replay_records_tailed (trips : C.RoundTrips) (chained : Chained journal) (behind : List (KernelRecord C)) :
    ∀ {tx after : KernelTransaction C} {done : List (KernelRecord C)}, journal = done ++ behind →
      tx.head = done.getLast?.map anchor → replay_records (stateless plan) relabel tx behind () = .ok after () →
      ∃ entries, tail_inputs after = tail_inputs tx ++ entries ∧ List.Forall₂ Tells behind entries := by
  induction behind with
  | nil =>
    intro tx after done _ _ replayed
    cases replayed
    exact ⟨[],by simp,.nil⟩
  | cons record rest ih =>
  intro tx after done split headed replayed
  obtain ⟨input,middle,_,decoded,stepped,replayed⟩ := replay_records_cons.mp replayed
  obtain ⟨_,_,step,twin,_,_,_,_,made,digest,folded⟩ := replay_committed_ok stepped
  have facts := foldRecord_ok folded
  obtain ⟨original,follows⟩ := chained done record rest split
  obtain rfl : input = original := ok.inj (decoded.symm.trans (trips _ _ follows.encoded))
  have again := chain_after_follows made
  have placed : twin.step_seq = record.step_seq :=
    (Prod.mk.inj (ok.inj (again.position.symm.trans (headed ▸ follows.position)))).1
  have anchored : middle.head = (done ++ [record]).getLast?.map anchor := by
    rw [facts.head,getLast?_append]
    simp only [anchor,again.operation_id,← follows.operation_id,placed,digest,getLast?_singleton,some_or,
      map_some]
  obtain ⟨entries,tail,told⟩ := ih (by simp [split]) anchored replayed
  refine ⟨⟨record.step_seq,record.record_digest,input⟩ :: entries,?_,.cons (tells_iff.mpr ⟨rfl,rfl,decoded⟩) told⟩
  rw [tail]
  simp [tail_inputs,facts.tail,placed,digest]

omit [TransitionStep Step] in
private theorem acked_drops (tx : KernelTransaction C) (boundary : CheckpointBoundary) :
    ∃ reclaimed, tail_inputs tx = reclaimed ++ tail_inputs (tx.note_checkpoint_acked boundary).2 := by
  unfold note_checkpoint_acked
  split
  · exact ⟨[],rfl⟩
  split
  · refine ⟨(tx.tail.takeWhile fun entry => decide (entry.step_seq ≤ boundary.through_step_seq)).map
      fun entry => ⟨entry.step_seq,entry.record_digest,entry.input⟩,?_⟩
    simp only [tail_inputs]
    rw [← map_append,takeWhile_append_dropWhile]
  · exact ⟨[],rfl⟩

/-- The tail of every runtime is the end of its journal. -/
theorem Steady.tailed (trips : C.RoundTrips) {tx : KernelTransaction C}
    (steady : Steady resolve defaults plan tx journal) (clean : tx.poison = none) : Tailed tx journal := by
  induction steady with
  | new => exact ⟨[],[],rfl,.nil⟩
  | prepare _ prepared tailed =>
    obtain ⟨_,rfl⟩ | ⟨_,_,_,_,_,_,_,_,same⟩ := prepareWith_cases prepared
    · exact tailed clean
    · cases same
      exact tailed clean
  | commit steady committed tailed =>
    obtain ⟨_,same,_⟩ | ⟨candidate,unpoisoned,held,_,_,folded,same⟩ := commit_cases committed
    · cases same
    cases same
    obtain ⟨reclaimed,kept,rfl,told⟩ := tailed unpoisoned
    have follows := chain_after_follows (((steady.steadied trips).candidate unpoisoned candidate held).chained)
    refine ⟨reclaimed,kept ++ [candidate.record],append_assoc .. ,?_⟩
    simp only [tail_inputs,(foldRecord_ok folded).tail,map_append,map_cons,map_nil]
    exact rel_append told (.cons (tells_iff.mpr ⟨rfl,rfl,trips _ _ follows.encoded⟩) .nil)
  | refused _ refused tailed =>
    obtain ⟨_,_,⟨poisoned,rfl⟩ | ⟨_,poisoned,_⟩⟩ | ⟨_,_,_,_,_,_,same⟩ := commit_cases refused
    · exact tailed clean
    · simp [clean] at poisoned
    · cases same
  | @abort tx journal token _ tailed =>
    obtain ⟨fault,same⟩ | ⟨candidate,unpoisoned,_,_,same⟩ := abort_cases tx token
    · rw [same] at clean ⊢
      exact tailed clean
    · rw [same]
      exact tailed unpoisoned
  | conflict token observed_head _ _ => simp [note_append_conflict,poison_with] at clean
  | @ack tx journal boundary _ tailed =>
    obtain ⟨dropped,tail⟩ := acked_drops tx boundary
    obtain ⟨rest,same⟩ := note_checkpoint_acked_tail tx boundary
    rw [same] at clean
    obtain ⟨reclaimed,kept,rfl,told⟩ := tailed clean
    rw [tail] at told
    refine ⟨reclaimed ++ kept.take dropped.length,kept.drop dropped.length,by simp,?_⟩
    exact forall₂_drop_append _ _ _ told
  | @rebuilt tx after committed journal index steady left indexed rebuilt _ =>
    have journaled := (steady.life.lives trips).leaves left
    have replayed := rebuild_replays rebuilt
    obtain ⟨entries,tail,told⟩ := replay_records_tailed trips journaled.chained journal (nil_append journal).symm rfl replayed
    refine ⟨[],journal,rfl,?_⟩
    rw [tail]
    exact told
  | @restored origin tx after covered committed behind head _ _ _ _ _ index _ life unpoisoned held owner genesis
    transited steady left indexed replayed _ _ =>
  have journaled := (steady.life.lives trips).leaves left
  have standing := (life.life.lives trips).standing unpoisoned
  have headed := restore_from_checkpoint_eq standing.sound held owner genesis transited index
  obtain ⟨entries,tail,told⟩ := replay_records_tailed trips journaled.chained behind rfl (headed ▸ standing.ledgers.head) replayed
  refine ⟨covered,behind,rfl,?_⟩
  rw [tail]
  exact told

private theorem replay_records_genesis (records : List (KernelRecord C)) :
    ∀ {tx after : KernelTransaction C}, replay_records (stateless plan) relabel tx records () = .ok after () → tx.head.isSome →
      after.genesis_digest = tx.genesis_digest := by
  intro tx after replayed headed
  refine (replay_records_invariant (fun later _ => later.head.isSome ∧ later.genesis_digest = tx.genesis_digest) ?_ ⟨headed,rfl⟩ replayed).2
  rintro before next input expected _ _ ⟨headed,kept⟩ stepped
  obtain ⟨_,_,_,twin,_,_,_,_,chained,_,folded⟩ := replay_committed_ok stepped
  have facts := foldRecord_ok folded
  obtain ⟨anchor,held⟩ := isSome_iff_exists.mp headed
  have linked := (chain_after_follows chained).not_genesis anchor held
  refine ⟨by rw [facts.head]; rfl,?_⟩
  rw [facts.genesis,linked]
  exact kept

omit [TransitionStep Step] in
private theorem Chained.steps (chained : Chained journal) (behind : List (KernelRecord C)) :
    ∀ {done : List (KernelRecord C)}, journal = done ++ behind → behind.map step_seq = List.range' done.length behind.length := by
  induction behind with
  | nil => intro _ _; rfl
  | cons record rest ih =>
  intro done split
  have further := ih (show journal = (done ++ [record]) ++ rest by simpa using split)
  rw [length_append,length_singleton] at further
  rw [map_cons,length_cons,range'_succ,chained.numbered done split,further]

omit [TransitionStep Step] in
private theorem Chained.below {covered behind : List (KernelRecord C)} (chained : Chained (covered ++ behind))
    (member : record ∈ covered) : record.step_seq < covered.length := by
  obtain ⟨before,later,rfl⟩ := append_of_mem member
  have placed := chained.numbered before (show _ = before ++ record :: (later ++ behind) by simp)
  rw [placed,length_append,length_cons]
  omega

omit [TransitionStep Step] in
private theorem Chained.above {covered behind : List (KernelRecord C)} (chained : Chained (covered ++ behind))
    (member : record ∈ behind) : covered.length ≤ record.step_seq := by
  obtain ⟨before,later,rfl⟩ := append_of_mem member
  have placed := chained.numbered (covered ++ before) (show _ = (covered ++ before) ++ record :: later by simp)
  rw [placed,length_append]
  omega

omit [TransitionStep Step] in
private theorem told_by {records : List (KernelRecord C)} {entries : List CanonicalInput}
    (told : List.Forall₂ Tells records entries) (member : entry ∈ entries) :
    ∃ record ∈ records, Tells record entry := by
  induction told with
  | nil => cases member
  | @cons record first records entries tells _ ih =>
  obtain rfl | later := mem_cons.mp member
  · exact ⟨record,by simp,tells⟩
  · obtain ⟨other,listed,tells⟩ := ih later
    exact ⟨other,by simp [listed],tells⟩

omit [TransitionStep Step] in
/-- The tail against a base: entries at or below it, and all that lies behind it; or less than that. -/
private theorem Tailed.split {tx : KernelTransaction C} {covered behind : List (KernelRecord C)} (chained : Chained (covered ++ behind))
    (tailed : Tailed tx (covered ++ behind)) :
    (∃ earlier later, tail_inputs tx = earlier ++ later ∧ (∀ entry ∈ earlier, entry.step_seq < covered.length) ∧
      (∀ entry ∈ later, covered.length ≤ entry.step_seq) ∧ List.Forall₂ Tells behind later) ∨
    ((tail_inputs tx).length < behind.length ∧ ∀ entry ∈ tail_inputs tx, covered.length ≤ entry.step_seq) := by
  obtain ⟨reclaimed,kept,whole,told⟩ := tailed
  have late : ∀ {records : List (KernelRecord C)} {entries : List CanonicalInput}, (∀ record ∈ records, record ∈ behind) →
      List.Forall₂ Tells records entries → ∀ entry ∈ entries, covered.length ≤ entry.step_seq := by
    intro records entries listed told entry member
    obtain ⟨record,stands,tells⟩ := told_by told member
    rw [← (tells_iff.mp tells).1]
    exact chained.above (listed record stands)
  obtain ⟨middle,rfl,rfl⟩ | ⟨middle,rfl,rfl⟩ := append_eq_append_iff.mp whole
  · cases middle with
    | nil => exact .inl ⟨[],tail_inputs tx,rfl,by rintro _ ⟨⟩,late (fun _ member => member) told,told⟩
    | cons first rest =>
    refine .inr ⟨?_,late (fun _ member => by simp [member]) told⟩
    rw [← told.length_eq,length_append,length_cons]
    omega
  have front := forall₂_take middle.length told
  have back := forall₂_drop middle.length told
  rw [take_left] at front
  rw [drop_left] at back
  refine .inl ⟨_,_,(take_append_drop middle.length (tail_inputs tx)).symm,?_,late (fun _ member => member) back,back⟩
  intro entry member
  obtain ⟨record,stands,tells⟩ := told_by front member
  rw [← (tells_iff.mp tells).1]
  exact chained.below (by simp [stands])

section
variable {P : Type} {S : CheckpointCodec P}

/-- Canonical bytes refuse a value only for a part they refuse: a tail of inputs that encode has a
    digest, and so has a checkpoint whose parts have theirs. -/
structure Digests (S : CheckpointCodec P) (C : Codec Step) : Prop where
  tail : ∀ tail_inputs : List CanonicalInput, (∀ entry ∈ tail_inputs, ∃ bytes, C.encode_input entry.input = .ok bytes) →
    ∃ digest, S.tail_digest tail_inputs = .ok digest
  body : ∀ draft state_digest tail_digest, S.state_digest draft.logical_state = .ok state_digest →
    S.tail_digest draft.tail_inputs = .ok tail_digest → ∃ digest, S.body_digest draft state_digest tail_digest = .ok digest

variable {root_kind : Option RootKind} {focus : Option ExecutionFocus} {driver : P} {checkpoint : KernelCheckpoint P} {head : ChainAnchor}
variable {operation_id : OperationId} {records : List (KernelRecord C)} {entries : List CanonicalInput}

omit [TransitionStep Step] in
theorem candidate_taken {tx : KernelTransaction C}
    (taken : checkpoint_candidate S tx root_kind focus driver = .ok checkpoint) :
    tx.poison = none ∧ ∃ head operation_id genesis_digest transition, tx.head = some head ∧
    tx.operation_id = some operation_id ∧
      tx.genesis_digest = some genesis_digest ∧ tx.transition_state root_kind focus = .ok transition ∧
      assemble S ⟨operation_id,genesis_digest,head.step_seq,head.record_digest,head.step_seq,head.record_digest,
        ⟨transition,driver⟩,[]⟩ = .ok checkpoint := by
  unfold checkpoint_candidate require_head require_operation require_genesis at taken
  cases clean : tx.poison with
  | some fault => simp [clean,bind,Except.bind] at taken
  | none =>
  cases held : tx.head with
  | none => simp [clean,held,bind,Except.bind] at taken
  | some head =>
  cases owner : tx.operation_id with
  | none => simp [clean,held,owner,bind,Except.bind] at taken
  | some operation_id =>
  cases genesis : tx.genesis_digest with
  | none => simp [clean,held,owner,genesis,bind,Except.bind] at taken
  | some genesis_digest =>
  cases transited : tx.transition_state root_kind focus with
  | error fault => simp [clean,held,owner,genesis,transited,bind,Except.bind] at taken
  | ok transition =>
  simp only [clean,held,owner,genesis,transited,bind,Except.bind] at taken
  refine ⟨rfl,head,operation_id,genesis_digest,transition,rfl,rfl,rfl,rfl,?_⟩
  cases assembled : assemble S ⟨operation_id,genesis_digest,head.step_seq,head.record_digest,head.step_seq,
      head.record_digest,⟨transition,driver⟩,[]⟩ with
  | error error =>
    rw [assembled] at taken
    cases taken
  | ok made =>
  rw [assembled] at taken
  cases taken
  rfl

/-- A checkpoint over a base of this operation passes its checks, and its tail is replayed on the
    transaction its base restores. -/
private theorem restore_operation_eq {origin : KernelTransaction C} (sound : Sound defaults origin)
    (held : origin.head = some head) (owner : origin.operation_id = some operation_id) {genesis_digest : Digest}
    (genesis : origin.genesis_digest = some genesis_digest)
    {transition : TransitionState} (transited : origin.transition_state root_kind focus = .ok transition)
    {through_step_seq : Nat} {covered_head : Digest} {tail : List CanonicalInput}
    (assembled : assemble S ⟨operation_id,genesis_digest,head.step_seq,head.record_digest,through_step_seq,covered_head,
      ⟨transition,driver⟩,tail⟩ = .ok checkpoint) (index : RecordIndex C) :
    restore_operation S checkpoint [] defaults index (stateless plan) () =
      replay_tail (stateless plan)
        (restore_from_checkpoint operation_id genesis_digest ⟨head.step_seq,head.record_digest⟩ transition defaults index) tail () := by
  obtain ⟨draft,verified,_,hashed⟩ := assemble_ok assembled
  have projected : (restore_from_checkpoint operation_id genesis_digest ⟨head.step_seq,head.record_digest⟩ transition defaults
      index : KernelTransaction C).transition_state transition.root_kind transition.focus = .ok transition := by
    rw [restore_from_checkpoint_eq sound held owner genesis transited index]
    unfold transition_state at transited ⊢
    cases configured : origin.config with
    | none => simp [configured] at transited
    | some config =>
    simp only [configured,Except.ok.injEq] at transited
    subst transited
    rfl
  obtain ⟨drafted,state_digest,tail_digest,checkpoint_digest⟩ := checkpoint
  cases draft
  have restored : verify_restored_state S (restore_from_checkpoint operation_id genesis_digest ⟨head.step_seq,head.record_digest⟩ transition
      defaults index : KernelTransaction C) ⟨⟨operation_id,genesis_digest,head.step_seq,head.record_digest,through_step_seq,covered_head,
        ⟨transition,driver⟩,tail⟩,state_digest,tail_digest,checkpoint_digest⟩ = .ok () := by
    simp only [verify_restored_state,projected,hashed,bind,Except.bind,Except.mapError,ne_eq,not_true_eq_false,if_false]
  unfold restore_operation
  simp only [verified,restored,Except.mapError,refuse,MonadExcept.ofExcept,bind,EStateM.bind,pure,EStateM.pure,replay_records]
  split
  next replayed => exact replayed.symm
  next replayed => exact replayed.symm

private theorem replay_tail_eq {relabel : RecordError → KernelFault}
    (told : List.Forall₂ Tells records entries) : ∀ tx : KernelTransaction C,
      replay_tail (stateless plan) tx entries () = replay_records (stateless plan) relabel tx records () := by
  induction told with
  | nil => exact fun _ => rfl
  | @cons record entry records entries tells _ ih =>
  intro tx
  obtain ⟨_,digest,decoded⟩ := tells_iff.mp tells
  simp only [replay_tail,replay_records,decoded,digest,Except.mapError,refuse,MonadExcept.ofExcept,bind,EStateM.bind,pure,EStateM.pure]
  cases tx.replay_committed entry.input entry.record_digest (stateless plan) () with
  | ok next _ => exact ih next
  | error halt _ => rfl

/-- A transaction but for its view of what lies behind it: the index, the steps, the floor below which
    it has none, and the tail. -/
def essence (tx : KernelTransaction C) : KernelTransaction C := { tx with index := ∅, steps := ∅, replay_floor := none, tail := [] }

omit [TransitionStep Step] in
private theorem essence_of_bareBooks {left right : KernelTransaction C} (same : left.bareBooks = right.bareBooks)
    (candidates : left.candidate = right.candidate) (epochs : left.prepare_epoch = right.prepare_epoch) (poisons : left.poison = right.poison) :
    left.essence = right.essence := by
  cases left
  cases right
  simp only at candidates epochs poisons
  simp only [bareBooks,books,essence,mk.injEq] at same ⊢
  simp [same,candidates,epochs,poisons]

omit [TransitionStep Step] in
private theorem Chained.head_numbered {journal : List (KernelRecord C)} (chained : Chained journal)
    (headed : journal.getLast?.map anchor = some head) : head.step_seq+1 = journal.length := by
  obtain rfl | ⟨before,last,rfl⟩ := eq_nil_or_concat journal
  · cases headed
  rw [concat_eq_append] at *
  have placed := chained.numbered before (show before ++ [last] = before ++ last :: [] from rfl)
  simp only [getLast?_append,getLast?_singleton,some_or,map_some,some.injEq] at headed
  subst headed
  rw [length_append,length_singleton,← placed]
  rfl

/-- A base and a later runtime of one operation, both with a full-state checkpoint of their own. -/
structure Rebase (resolve : Resolver) (defaults : ConfigDefaults) (plan : PlanFn Step) (S : CheckpointCodec P)
    (origin tx : KernelTransaction C)
    (covered behind : List (KernelRecord C)) (base full : KernelCheckpoint P) : Prop where
  before : Steady resolve defaults plan origin covered
  based : ∃ root_kind focus driver, checkpoint_candidate S origin root_kind focus driver = .ok base
  steady : Steady resolve defaults plan tx (covered ++ behind)
  taken : ∃ root_kind focus driver, checkpoint_candidate S tx root_kind focus driver = .ok full

variable {origin tx : KernelTransaction C} {covered behind : List (KernelRecord C)} {base full : KernelCheckpoint P}

/-- Where a base and a later runtime stand: they share an identity, and the journal counts from one to
    the other. -/
private theorem Rebase.identity (trips : C.RoundTrips) (rebase : Rebase resolve defaults plan S origin tx covered behind base full) :
    ∃ first last, origin.head = some first ∧ tx.head = some last ∧ first.step_seq+1 = covered.length ∧
      last.step_seq+1 = covered.length+behind.length ∧ origin.operation_id = tx.operation_id ∧ origin.genesis_digest = tx.genesis_digest ∧
      origin.poison = none ∧ tx.poison = none := by
  obtain ⟨_,_,_,based⟩ := rebase.based
  obtain ⟨_,_,_,taken⟩ := rebase.taken
  obtain ⟨unpoisoned,first,_,_,_,headed,_⟩ := candidate_taken based
  obtain ⟨clean,last,_,_,_,held,_⟩ := candidate_taken taken
  have earlier := rebase.before.life.lives trips
  have later := rebase.steady.life.lives trips
  have books := (earlier.standing unpoisoned).ledgers
  have ledgers := (later.standing clean).ledgers
  have counted := earlier.journaled.chained.head_numbered (books.head ▸ headed)
  have numbered := later.journaled.chained.head_numbered (ledgers.head ▸ held)
  rw [length_append] at numbered
  refine ⟨first,last,headed,held,counted,numbered,?_,?_,unpoisoned,clean⟩
  · obtain ⟨record,stands⟩ := exists_mem_of_length_pos (by omega : 0 < covered.length)
    rw [books.owned record stands,ledgers.owned record (by simp [stands])]
  obtain ⟨rebuilt,replayed,_,same⟩ := (rebase.before.steadied trips).replayed
  obtain ⟨again,replays,_,same'⟩ := (rebase.steady.steadied trips).replayed
  rw [replay_records_append (stateless plan) record_fault covered behind replayed] at replays
  have front : rebuilt.head = origin.head := (congrArg head (same unpoisoned) :)
  have kept := replay_records_genesis behind replays (by rw [front,headed]; rfl)
  have left : rebuilt.genesis_digest = origin.genesis_digest := (congrArg genesis_digest (same unpoisoned) :)
  have right : again.genesis_digest = tx.genesis_digest := (congrArg genesis_digest (same' clean) :)
  rw [← left,← right,kept]

private theorem Rebase.reclaimed (trips : C.RoundTrips) (rebase : Rebase resolve defaults plan S origin tx covered behind base full)
    (short : tx.tail.length < behind.length) :
    ∃ message, checkpoint_rebase S tx base.boundary base.logical_state = .error ⟨.CheckpointIncompatible,message⟩ := by
  obtain ⟨first,last,headed,held,counted,numbered,_,_,_,clean⟩ := rebase.identity trips
  obtain ⟨_,_,_,based⟩ := rebase.based
  obtain ⟨_,_,_,_,_,same,_,_,_,assembled⟩ := candidate_taken based
  cases headed.symm.trans same
  have draft := (assemble_ok assembled).1
  have through : base.boundary.through_step_seq = first.step_seq := congrArg CheckpointDraft.through_step_seq draft
  have few := length_filter_le (fun entry : CanonicalInput => decide (base.boundary.through_step_seq < entry.step_seq)) (tail_inputs tx)
  have size : (tail_inputs tx).length = tx.tail.length := by simp [tail_inputs]
  simp only [checkpoint_rebase,require_head,clean,held,bind,Except.bind]
  rw [if_neg (by omega),if_pos (by omega)]
  exact ⟨_,rfl⟩

omit [TransitionStep Step] in
private theorem told_maps (told : List.Forall₂ Tells records entries) :
    entries.map CanonicalInput.step_seq = records.map step_seq ∧
      entries.map CanonicalInput.record_digest = records.map record_digest := by
  induction told with
  | nil => exact ⟨rfl,rfl⟩
  | cons tells _ ih =>
  obtain ⟨step,digest,_⟩ := tells_iff.mp tells
  simp [step,digest,ih]

section
variable (trips : C.RoundTrips)
include trips

omit [TransitionStep Step] in
private theorem Chained.told_input (chained : Chained (covered ++ behind))
    (told : List.Forall₂ Tells behind entries) {entry : CanonicalInput} (member : entry ∈ entries) :
    ∃ record ∈ behind, record.operation_id = entry.input.operation_id ∧ ∃ bytes, C.encode_input entry.input = .ok bytes := by
  obtain ⟨record,stands,tells⟩ := told_by told member
  obtain ⟨before,later,split⟩ := append_of_mem stands
  obtain ⟨input,follows⟩ := chained (covered ++ before) record later (by simp [split])
  obtain rfl : input = entry.input := ok.inj ((trips _ _ follows.encoded).symm.trans (tells_iff.mp tells).2.2)
  exact ⟨record,stands,follows.operation_id,_,follows.encoded⟩

/-- What the tail holds behind the base covers the range up to the head. -/
private theorem Rebase.covers (rebase : Rebase resolve defaults plan S origin tx covered behind base full)
    {first last : ChainAnchor} (headed : origin.head = some first) (held : tx.head = some last)
    (owner : tx.operation_id = some operation_id) (told : List.Forall₂ Tells behind entries) :
    Covers operation_id first.step_seq first.record_digest last.step_seq last.record_digest entries := by
  obtain ⟨first',last',headed',held',counted,numbered,_,_,unpoisoned,clean⟩ := rebase.identity trips
  cases headed.symm.trans headed'
  cases held.symm.trans held'
  have earlier := (rebase.before.life.lives trips).standing unpoisoned
  have later := rebase.steady.life.lives trips
  have ledgers := (later.standing clean).ledgers
  obtain ⟨steps,digests⟩ := told_maps told
  refine ⟨by omega,?_,?_,?_⟩
  · rw [steps,later.journaled.chained.steps behind rfl]
    congr 1 <;> omega
  · intro entry member
    obtain ⟨record,stands,own,_⟩ := later.journaled.chained.told_input trips told member
    have owned := ledgers.owned record (by simp [stands])
    rw [← own]
    exact (some.inj (owner.symm.trans owned)).symm
  have lasts := ledgers.head
  rw [held] at lasts
  have firsts := earlier.ledgers.head
  rw [headed] at firsts
  rw [← getLast?_map,digests,getLast?_map]
  cases final : behind.getLast? with
  | none =>
    rw [getLast?_append,final,none_or,← firsts] at lasts
    cases lasts
    rfl
  | some record =>
  rw [getLast?_append,final] at lasts
  cases lasts
  rfl

/-- Where the tail still holds all that lies behind the base, a rebase is assembled from just that. -/
private theorem Rebase.retained (digests : Digests S C)
    (rebase : Rebase resolve defaults plan S origin tx covered behind base full) (enough : behind.length ≤ tx.tail.length) :
    ∃ first last operation_id genesis_digest later rebased, origin.head = some first ∧ tx.head = some last ∧
      origin.operation_id = some operation_id ∧ origin.genesis_digest = some genesis_digest ∧ List.Forall₂ Tells behind later ∧
      checkpoint_rebase S tx base.boundary base.logical_state = .ok rebased ∧
      assemble S ⟨operation_id,genesis_digest,first.step_seq,first.record_digest,last.step_seq,last.record_digest,
        base.logical_state,later⟩ = .ok rebased := by
  obtain ⟨first,last,headed,held,counted,numbered,owners,geneses,_,clean⟩ := rebase.identity trips
  obtain ⟨_,_,_,based⟩ := rebase.based
  obtain ⟨_,_,operation_id,genesis_digest,_,same,owner,genesis,_,assembled⟩ := candidate_taken based
  cases headed.symm.trans same
  obtain ⟨draft,_,valid,hashed⟩ := assemble_ok assembled
  have through : base.boundary = ⟨first.step_seq,first.record_digest⟩ := by
    rw [boundary,draft]
  have journaled := (rebase.steady.life.lives trips).journaled
  have standing := (rebase.steady.life.lives trips).standing clean
  have size : (tail_inputs tx).length = tx.tail.length := by simp [tail_inputs]
  obtain ⟨earlier,later,tail,below,above,told⟩ | ⟨short,_⟩ := (rebase.steady.tailed trips clean).split journaled.chained
  · have kept : (tail_inputs tx).filter (fun entry => decide (first.step_seq < entry.step_seq)) = later := by
      rw [tail,filter_append,filter_eq_nil_iff.mpr,filter_eq_self.mpr,nil_append]
      · intro entry member
        have high := above entry member
        exact decide_eq_true (by omega)
      · intro entry member
        have low := below entry member
        simp only [decide_eq_true_eq]
        omega
    have counts := told.length_eq
    have covers := rebase.covers trips headed held (owners ▸ owner) told
    obtain ⟨tail_digest,tailHashed⟩ := digests.tail later fun entry member =>
      (journaled.chained.told_input trips told member).elim fun _ facts => facts.2.2
    obtain ⟨checkpoint_digest,bodyHashed⟩ := digests.body ⟨operation_id,genesis_digest,first.step_seq,first.record_digest,last.step_seq,
      last.record_digest,base.logical_state,later⟩ base.state_digest tail_digest (by rw [draft]; exact hashed) tailHashed
    have assembles := assemble_of (S := S) (by rw [draft]; exact valid) covers (by rw [draft]; exact hashed) tailHashed bodyHashed
    refine ⟨first,last,operation_id,genesis_digest,later,_,headed,held,owner,genesis,told,?_,assembles⟩
    simp only [checkpoint_rebase,require_head,require_operation,require_genesis,clean,held,← owners,owner,← geneses,genesis,through,kept,bind,
      Except.bind]
    rw [if_neg (by omega),if_neg (by omega),assembles]
    rfl
  · omega

/-- An acknowledgement of the base leaves the tail behind it. -/
private theorem Rebase.acked (rebase : Rebase resolve defaults plan S origin tx covered behind base full)
    {usage : TailUsage} {after : KernelTransaction C} (acked : tx.note_checkpoint_acked base.boundary = (.ok usage,after)) :
    after.tail.length = behind.length := by
  obtain ⟨first,_,headed,_,counted,_,_,_,_,clean⟩ := rebase.identity trips
  obtain ⟨_,_,_,based⟩ := rebase.based
  obtain ⟨_,_,_,_,_,same,_,_,_,assembled⟩ := candidate_taken based
  cases headed.symm.trans same
  have through : base.boundary.through_step_seq = first.step_seq :=
    congrArg CheckpointDraft.through_step_seq (assemble_ok assembled).1
  unfold note_checkpoint_acked at acked
  simp only [clean,through] at acked
  split at acked
  next found =>
    cases acked
    obtain ⟨entry,member,named⟩ := any_eq_true.mp found
    have placed : entry.step_seq = first.step_seq := by
      rw [Bool.and_eq_true,beq_iff_eq] at named
      exact named.1
    have journaled := (rebase.steady.life.lives trips).journaled
    obtain ⟨earlier,later,tail,below,above,told⟩ | ⟨_,above⟩ := (rebase.steady.tailed trips clean).split journaled.chained
    · have rest : later.dropWhile (fun entry => decide (entry.step_seq ≤ first.step_seq)) = later := by
        cases later with
        | nil => rfl
        | cons next others =>
        have high := above next (by simp)
        exact dropWhile_cons_of_neg (by simp only [decide_eq_true_eq]; omega)
      have dropped : (tail_inputs tx).dropWhile (fun entry => decide (entry.step_seq ≤ first.step_seq)) = later := by
        rw [tail,dropWhile_append_of_pos,rest]
        intro other stands
        have low := below other stands
        exact decide_eq_true (by omega)
      rw [told.length_eq,← dropped,tail_inputs,dropWhile_map,length_map]
      rfl
    · have high := above ⟨entry.step_seq,entry.record_digest,entry.input⟩ (mem_map.mpr ⟨entry,member,rfl⟩)
      simp only at high
      omega
  next => cases acked

/-- A rebased checkpoint restores to what the full one restores to: all of the transaction but the view
    of what lies behind. -/
private theorem Rebase.restores (digests : Digests S C)
    (rebase : Rebase resolve defaults plan S origin tx covered behind base full) (enough : behind.length ≤ tx.tail.length) :
    ∃ rebased, checkpoint_rebase S tx base.boundary base.logical_state = .ok rebased ∧ ∀ index : RecordIndex C, ∃ left right,
      restore_operation S rebased [] defaults index (stateless plan) () = .ok left () ∧
      restore_operation S full [] defaults index (stateless plan) () = .ok right () ∧ left.essence = right.essence ∧
      left.replay_floor = some base.through_step_seq ∧ tail_inputs left = rebased.tail_inputs ∧
      right.replay_floor = some full.through_step_seq ∧ right.tail = [] := by
  obtain ⟨first,last,operation_id,genesis_digest,later,rebased,headed,held,owner,genesis,told,made,assembled⟩ :=
    rebase.retained trips digests enough
  obtain ⟨_,_,_,_,_,_,_,_,unpoisoned,clean⟩ := rebase.identity trips
  obtain ⟨_,_,driver,based⟩ := rebase.based
  obtain ⟨_,_,_,_,transition,same,_,_,transited,drafted⟩ := candidate_taken based
  cases headed.symm.trans same
  obtain ⟨_,_,_,taken⟩ := rebase.taken
  obtain ⟨_,_,_,_,_,same,owner',genesis',transited',assembled'⟩ := candidate_taken taken
  cases held.symm.trans same
  have draft := (assemble_ok drafted).1
  have soundBase := ((rebase.before.life.lives trips).standing unpoisoned).sound
  have sound := ((rebase.steady.life.lives trips).standing clean).sound
  rw [draft] at assembled
  refine ⟨rebased,made,fun index => ?_⟩
  rw [restore_operation_eq soundBase headed owner genesis transited assembled index,
    restore_operation_eq sound held owner' genesis' transited' assembled' index,show ∀ base : KernelTransaction C,
      replay_tail (stateless plan) base later () = replay_records (stateless plan) record_fault base behind () from replay_tail_eq told]
  obtain ⟨rebuilt,replayed,cleared,books⟩ := (rebase.before.steadied trips).replayed
  obtain ⟨whole,replays,settled,whole_books⟩ := (rebase.steady.steadied trips).replayed
  rw [replay_records_append (stateless plan) record_fault covered behind replayed] at replays
  have restoredBooks := restored_bareBooks soundBase headed owner genesis transited index
  obtain ⟨left,restored,leftClean,leftBooks⟩ : ∃ left, replay_records (stateless plan) record_fault (restore_from_checkpoint operation_id
      genesis_digest ⟨first.step_seq,first.record_digest⟩ transition defaults index) behind () = .ok left () ∧ left.poison = none ∧
      left.bareBooks = whole.bareBooks :=
    replay_records_of_bareBooks behind replays rfl (restoredBooks.trans (books unpoisoned).symm)
  obtain ⟨free,epoch,floor⟩ := replay_records_free behind restored
  have front : (restore_from_checkpoint operation_id genesis_digest ⟨first.step_seq,first.record_digest⟩ transition defaults index :
      KernelTransaction C).head = covered.getLast?.map anchor := by
    rw [restore_from_checkpoint_eq soundBase headed owner genesis transited index]
    exact ((rebase.before.life.lives trips).standing unpoisoned).ledgers.head
  obtain ⟨entries,tail,again⟩ := replay_records_tailed trips (rebase.steady.life.lives trips).journaled.chained behind rfl front restored
  refine ⟨left,_,restored,rfl,essence_of_bareBooks ?_ free epoch leftClean,?_,?_,?_,rfl⟩
  · rw [leftBooks,whole_books clean,restored_bareBooks sound held owner' genesis' transited' index]
  · rw [floor]
    exact congrArg some (congrArg CheckpointDraft.through_step_seq draft).symm
  · rw [tail,congrArg CheckpointDraft.tail_inputs (assemble_ok assembled).1]
    exact right_unique_forall₂' (fun _ _ _ left right => ok.inj (left.symm.trans right)) again told
  · exact congrArg some (congrArg CheckpointDraft.through_step_seq (assemble_ok assembled').1).symm

end

/-- Both forms of a checkpoint restore alike, as long as no later checkpoint reclaimed what lies behind
    the base, and an acknowledgement of the base itself does not. The check of a tail accepts just the
    tails that cover their range; a restore finds them to be chains besides. -/
theorem rebased_as_full (trips : C.RoundTrips) (digests : Digests S C) :
    (∀ (resolve : Resolver) (defaults : ConfigDefaults) (plan : PlanFn Step) (origin tx : KernelTransaction C)
      (covered behind : List (KernelRecord C)) (base full : KernelCheckpoint P),
      Rebase resolve defaults plan S origin tx covered behind base full →
        (behind.length ≤ tx.tail.length →
        ∃ rebased, checkpoint_rebase S tx base.boundary base.logical_state = .ok rebased ∧
          ∀ index : RecordIndex C, ∃ left right,
          restore_operation S rebased [] defaults index (stateless plan) () = .ok left () ∧
            restore_operation S full [] defaults index (stateless plan) () = .ok right () ∧
            left.essence = right.essence ∧
            left.replay_floor = some base.through_step_seq ∧ tail_inputs left = rebased.tail_inputs ∧
            right.replay_floor = some full.through_step_seq ∧ right.tail = []) ∧
        (tx.tail.length < behind.length →
          ∃ message, checkpoint_rebase S tx base.boundary base.logical_state =
          .error ⟨.CheckpointIncompatible,message⟩) ∧
        (∀ usage after, tx.note_checkpoint_acked base.boundary = (.ok usage,after) →
          after.tail.length = behind.length)) ∧
    (∀ (operation_id : OperationId) (base through : CheckpointBoundary) (entries : List CanonicalInput),
      check_tail operation_id base.through_step_seq base.covered_head through.through_step_seq through.covered_head
      entries = .ok () ↔
        Covers operation_id base.through_step_seq base.covered_head through.through_step_seq through.covered_head
        entries) ∧
    (∀ (checkpoint : KernelCheckpoint P) (records : List (KernelRecord C)) (defaults : ConfigDefaults) (index : RecordIndex C)
      (plan : PlanFn Step) (after : KernelTransaction C),
      restore_operation S checkpoint records defaults index (stateless plan) () = .ok after () →
        Chains C checkpoint.operation_id ⟨checkpoint.base_step_seq,checkpoint.base_record_digest⟩ checkpoint.boundary
          checkpoint.tail_inputs) := by
  refine ⟨?_,?_,?_⟩
  · intro resolve defaults plan origin tx covered behind base full rebase
    exact ⟨rebase.restores trips digests,rebase.reclaimed trips,fun _ _ => rebase.acked trips⟩
  · intro operation_id base through entries
    exact check_tail_iff ..
  · intro checkpoint records defaults index plan after restored
    exact (restore_chains restored).2

end

end

theorem Steady.transactAll [TransitionStep Step] {resolve : Resolver} {defaults : ConfigDefaults} {plan : PlanFn Step}
    (envelopes : List WireEnvelope) : ∀ {tx after : KernelTransaction C} {journal : List (KernelRecord C)}
      {transitions : List (CommittedTransition C)}, Steady resolve defaults plan tx journal →
      transactAll resolve plan tx envelopes = some (transitions,after) →
      Steady resolve defaults plan after (journal ++ recordsOf transitions) := by
  induction envelopes with
  | nil =>
    intro tx after journal transitions steady through
    cases through
    simpa [recordsOf] using steady
  | cons envelope rest ih =>
  intro tx after journal transitions steady through
  obtain ⟨transition,middle,later,first,second,rfl⟩ := transactAll_cons through
  obtain ⟨token,record,step,staged,prepared,committed⟩ := transact_cases first
  have stepped := ih ((steady.prepare prepared).commit committed) second
  rwa [append_assoc,singleton_append] at stepped

open PlainParts

/-- Checkpoints of a plain operation, whose driver keeps nothing: they are known by their clock, their
    tail by its length. -/
def plainCheckpoints : CheckpointCodec Unit where
  validate_durable_message_bodies _ := .ok ()
  state_digest state := .ok s!"{state.transition.last_observed_at_ms}"
  tail_digest tail := .ok s!"{tail.length}"
  body_digest draft _ _ := .ok s!"{draft.through_step_seq}"

private theorem plain_digests : Digests plainCheckpoints plainCodec := ⟨fun _ _ => ⟨_,rfl⟩,fun _ _ _ _ _ => ⟨_,rfl⟩⟩

/-- A started plain operation with the checkpoint of its configuration and its own. -/
def rebasedPlainly : Option (KernelTransaction plainCodec × KernelTransaction plainCodec × List (KernelRecord plainCodec) ×
    List (KernelRecord plainCodec) × KernelCheckpoint Unit × KernelCheckpoint Unit) := do
  let (configured,origin) ← transactAll plain.resolve askingOnce plainFresh [plainEnvelope "configure" 1 (.ConfigureOperation "")]
  let (started,tx) ← transactAll plain.resolve askingOnce origin
    [plainEnvelope "start" 2 (.StartOperation (.Agent "goal" [] none) "")]
  let base ← (checkpoint_candidate plainCheckpoints origin none none ()).toOption
  let full ← (checkpoint_candidate plainCheckpoints tx none none ()).toOption
  pure (origin,tx,recordsOf configured,recordsOf started,base,full)

private theorem ok_of_toOption {ε α : Type} {result : Except ε α} {value : α} (some_of : result.toOption = some value) : result = .ok value := by
  cases result with
  | error error => cases some_of
  | ok given => exact congrArg ok (some.inj some_of)

private theorem rebasedPlainly_rebase {origin tx : KernelTransaction plainCodec} {covered behind : List (KernelRecord plainCodec)}
    {base full : KernelCheckpoint Unit} (through : rebasedPlainly = some (origin,tx,covered,behind,base,full)) :
    Rebase plain.resolve plainDefaults askingOnce plainCheckpoints origin tx covered behind base full := by
  unfold rebasedPlainly at through
  obtain ⟨⟨configured,first⟩,stepped,through⟩ := bind_eq_some_iff.mp through
  obtain ⟨⟨started,second⟩,further,through⟩ := bind_eq_some_iff.mp through
  obtain ⟨based,basing,through⟩ := bind_eq_some_iff.mp through
  obtain ⟨taken,taking,through⟩ := bind_eq_some_iff.mp through
  cases through
  have before : Steady plain.resolve plainDefaults askingOnce origin (recordsOf configured) := by
    simpa using Steady.new.transactAll _ stepped
  exact ⟨before,⟨none,none,(),ok_of_toOption basing⟩,before.transactAll _ further,⟨none,none,(),ok_of_toOption taking⟩⟩

set_option maxRecDepth 100000 in
private theorem rebasedPlainly_some : ∃ origin tx covered behind base full, rebasedPlainly = some (origin,tx,covered,behind,base,full) ∧
    behind.length = 1 ∧ behind.length ≤ tx.tail.length ∧ base.through_step_seq = 0 ∧ full.through_step_seq = 1 := by
  obtain ⟨⟨origin,tx,covered,behind,base,full⟩,through,shape⟩ := (any_eq_true _ _).mp (show rebasedPlainly.any
    fun (_,tx,_,behind,base,full) => decide (behind.length = 1 ∧ behind.length ≤ tx.tail.length ∧ base.through_step_seq = 0 ∧
      full.through_step_seq = 1) from by decide +kernel)
  exact ⟨origin,tx,covered,behind,base,full,through,of_decide_eq_true shape⟩

/-- The start behind a checkpointed configuration is rebased, and both checkpoints restore alike. -/
theorem rebased_as_full_started :
    ∃ origin tx covered behind base full, rebasedPlainly = some (origin,tx,covered,behind,base,full) ∧
    behind.length = 1 ∧ ∃ (rebased : KernelCheckpoint Unit) (left right : KernelTransaction plainCodec),
      checkpoint_rebase plainCheckpoints tx base.boundary base.logical_state = .ok rebased ∧
      restore_operation plainCheckpoints rebased [] plainDefaults ∅ (stateless askingOnce) () = .ok left () ∧
      restore_operation plainCheckpoints full [] plainDefaults ∅ (stateless askingOnce) () = .ok right () ∧
      left.essence = right.essence := by
  obtain ⟨origin,tx,covered,behind,base,full,through,single,enough,_⟩ := rebasedPlainly_some
  obtain ⟨rebased,made,restores⟩ := ((rebased_as_full plain_round_trips plain_digests).1 _ _ _ _ _ _ _ _ _ (rebasedPlainly_rebase through)).1 enough
  obtain ⟨left,right,restored,restored',same,_⟩ := restores ∅
  exact ⟨origin,tx,covered,behind,base,full,through,single,rebased,left,right,made,restored,restored',same⟩

/-- A tail whose one digest no record of the plain codec has. -/
def forgedTail : List CanonicalInput := [⟨1,"forged",⟨"op","start",2,.StartOperation (.Agent "goal" [] none) ""⟩⟩]

/-- The two forms do not restore the very same transaction: the rebased one knows the steps behind its
    base. And the check of a tail does not look for a chain. -/
theorem rebased_not_identical :
    (¬∀ (origin tx : KernelTransaction plainCodec) (covered behind : List (KernelRecord plainCodec)) (base full rebased : KernelCheckpoint Unit)
      (left right : KernelTransaction plainCodec),
      Rebase plain.resolve plainDefaults askingOnce plainCheckpoints origin tx covered behind base full →
      checkpoint_rebase plainCheckpoints tx base.boundary base.logical_state = .ok rebased →
      restore_operation plainCheckpoints rebased [] plainDefaults ∅ (stateless askingOnce) () = .ok left () →
      restore_operation plainCheckpoints full [] plainDefaults ∅ (stateless askingOnce) () = .ok right () →
      left = right) ∧
    (¬∀ (operation_id : OperationId) (base through : CheckpointBoundary) (entries : List CanonicalInput),
      check_tail operation_id base.through_step_seq base.covered_head through.through_step_seq through.covered_head
      entries = .ok () ↔
        Chains plainCodec operation_id base through entries) := by
  constructor
  · intro identical
    obtain ⟨origin,tx,covered,behind,base,full,through,_,enough,first,last⟩ := rebasedPlainly_some
    have rebase := rebasedPlainly_rebase through
    obtain ⟨rebased,made,restores⟩ := rebase.restores plain_round_trips plain_digests enough
    obtain ⟨left,right,restored,restored',_,floor,_,floor',_⟩ := restores ∅
    rw [identical _ _ _ _ _ _ _ _ _ rebase made restored restored',floor',first,last] at floor
    cases floor
  intro exact
  obtain ⟨records,chains,_⟩ := (exact "op" ⟨0,"base"⟩ ⟨1,"forged"⟩ forgedTail).mp (by decide)
  cases chains with
  | cons follows _ digest _ =>
  have hashed := follows.record_digest
  rw [digest] at hashed
  have slashed := congrArg (fun digest => '/' ∈ digest.toList) (ok.inj hashed)
  have named : '/' ∈ (toString "/").toList := by decide
  simp [String.toList_append,named] at slashed

end Deepstrike.Transaction.KernelTransaction

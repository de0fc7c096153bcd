import Deepstrike.Rebuilding
import Mathlib.Algebra.Order.BigOperators.Group.List
import Mathlib.Algebra.Order.Ring.Nat
import Mathlib.Data.List.Forall2

/-!
The accounting of the tail: what a transaction still counts of the records that were placed on it,
what an acknowledged checkpoint takes off the count, and the bounds a commit keeps to.
-/
namespace Deepstrike.Transaction.KernelTransaction
open Wire Record List TailEntry RecordIndex KernelTransaction

variable {Step : Type} {C : Codec Step}

/-- The step behind the head, and the first step a boundary leaves in the tail. -/
def upcoming (tx : KernelTransaction C) : Nat := tx.head.elim 0 fun head => head.step_seq+1
def firstBehind (acked : Option CheckpointBoundary) : Nat := acked.elim 0 fun boundary => boundary.through_step_seq+1

/-- A transaction, and beside it what its host could have noted down: the records placed on it, the
    boundary it acknowledged last or was restored at, the bounds its last candidate was prepared under. -/
structure Noted (C : Codec Step) where
  tx : KernelTransaction C
  placed : List (KernelRecord C)
  acked : Option CheckpointBoundary
  limits : TailBounds

/-- The placed records behind the boundary. -/
def Noted.behind (noted : Noted C) : List (KernelRecord C) :=
  noted.placed.filter fun record => decide (firstBehind noted.acked ≤ record.step_seq)

/-- What the tail keeps of a record. -/
structure Entered (record : KernelRecord C) (entry : TailEntry) : Prop where
  step_seq : entry.step_seq = record.step_seq
  record_digest : entry.record_digest = record.record_digest
  bytes : entry.bytes = record.record_len
  input : C.encode_input entry.input = .ok record.canonical_input

section
variable [TransitionStep Step]

/-- What calls bring about from a first transaction or from any checkpoint. A replay happens, as in a
    rebuild and in a restore, while no candidate is outstanding; it enters its record in the index. -/
inductive Reached (resolve : Resolver) : Noted C → Prop where
  | new (defaults : ConfigDefaults) (index : RecordIndex C) : Reached resolve ⟨.new defaults index,[],none,defaults.tail_bounds⟩
  | restored (operation_id : OperationId) (genesis_digest : Digest) (base : CheckpointBoundary) (state : TransitionState)
      (defaults : ConfigDefaults) (index : RecordIndex C) :
      Reached resolve ⟨.restore_from_checkpoint operation_id genesis_digest base state defaults index,[],some base,
        state.resolved_config.tail_bounds⟩
  | replayed {noted : Noted C} {after : KernelTransaction C} {input : NormalizedInput} {expected : Digest} {plan : PlanFn Step}
      {record : KernelRecord C} : Reached resolve noted → noted.tx.candidate = none →
      noted.tx.replay_committed input expected (stateless plan) () = .ok after () →
      record_for_input after.index input.operation_id input.input_id = some record →
      Reached resolve { noted with tx := after, placed := noted.placed ++ [record] }
  | prepared {noted : Noted C} {after : KernelTransaction C} {envelope : WireEnvelope} {plan : PlanFn Step}
      {preparation : KernelPreparation C} : Reached resolve noted → noted.tx.prepareWith resolve envelope plan = .ok (preparation,after) →
      Reached resolve { noted with tx := after, limits := if preparation.isPrepared then noted.tx.bounds else noted.limits }
  | committed {noted : Noted C} {after : KernelTransaction C} {token : PrepareToken} {appended_head : Digest}
      {transition : CommittedTransition C} : Reached resolve noted → noted.tx.commit token appended_head = (.ok transition,after) →
      Reached resolve { noted with tx := after, placed := noted.placed ++ [transition.record] }
  | refused {noted : Noted C} {after : KernelTransaction C} {token : PrepareToken} {appended_head : Digest} {fault : KernelFault} :
      Reached resolve noted → noted.tx.commit token appended_head = (.error fault,after) → Reached resolve { noted with tx := after }
  | aborted {noted : Noted C} (token : PrepareToken) : Reached resolve noted → Reached resolve { noted with tx := (noted.tx.abort token).2 }
  | conflict {noted : Noted C} (token : PrepareToken) (observed_head : Option Digest) :
      Reached resolve noted → Reached resolve { noted with tx := (noted.tx.note_append_conflict token observed_head).2 }
  | acked {noted : Noted C} {after : KernelTransaction C} {boundary : CheckpointBoundary} {usage : TailUsage} :
      Reached resolve noted → noted.tx.note_checkpoint_acked boundary = (.ok usage,after) →
      Reached resolve { noted with tx := after, acked := some boundary }
  | unacked {noted : Noted C} {after : KernelTransaction C} {boundary : CheckpointBoundary} {fault : KernelFault} :
      Reached resolve noted → noted.tx.note_checkpoint_acked boundary = (.error fault,after) → Reached resolve { noted with tx := after }

end

/-- What a transaction holds of its candidate: it follows the head and fits the bounds. -/
structure Fitting (noted : Noted C) (candidate : Candidate C) : Prop where
  follows : Follows noted.tx.head candidate.input candidate.record
  measured : candidate.record_bytes = candidate.record.record_len
  records : noted.tx.tail_records+1 ≤ noted.limits.hard_records
  bytes : noted.tx.tail_bytes+candidate.record.record_len ≤ noted.limits.hard_bytes

/-- The tail is the records behind the boundary, and these are consecutive up to the head. -/
structure Tallied (noted : Noted C) : Prop where
  placed : ∃ origin, noted.placed.map KernelRecord.step_seq = List.range' origin noted.placed.length ∧
    origin+noted.placed.length = noted.tx.upcoming ∧ origin ≤ firstBehind noted.acked
  within : firstBehind noted.acked ≤ noted.tx.upcoming
  last : ∀ record ∈ noted.placed.getLast?, noted.tx.head = some record.anchor
  tail : List.Forall₂ Entered noted.behind noted.tx.tail
  candidate : ∀ candidate, noted.tx.candidate = some candidate → Fitting noted candidate

variable {tx after : KernelTransaction C} {input : NormalizedInput} {record : KernelRecord C} {noted : Noted C} {records : List (KernelRecord C)}
variable {tail : List TailEntry} {step : Step} {resolve : Resolver} {plan : PlanFn Step}

private theorem upcoming_of_follows
    (follows : Follows tx.head input record) : record.step_seq = tx.upcoming := by
  unfold upcoming
  cases held : tx.head with
  | none =>
    rw [held] at follows
    exact follows.first
  | some head => exact follows.next head held

private theorem range'_filter_from {origin length threshold : Nat} (low : origin ≤ threshold) (high : threshold ≤ origin+length) :
    (List.range' origin length).filter (fun value => decide (threshold ≤ value)) = List.range' threshold (origin+length-threshold) := by
  have split : range' origin length = range' origin (threshold-origin) ++ range' threshold (origin+length-threshold) := by
    have joined := @List.range'_append origin (threshold-origin) (origin+length-threshold) 1
    rw [show origin+1*(threshold-origin) = threshold by omega,show threshold-origin+(origin+length-threshold) = length by omega] at joined
    exact joined.symm
  rw [split,filter_append,filter_eq_nil_iff.mpr,filter_eq_self.mpr,nil_append]
  · intro value member
    exact decide_eq_true (mem_range'_1.mp member).1
  · intro value member
    have bound := (mem_range'_1.mp member).2
    simp only [decide_eq_true_eq]
    omega

private theorem dropWhile_rising {α : Type} (key : α → Nat) (threshold : Nat) (list : List α) (rising : (list.map key).Pairwise (· < ·)) :
    list.dropWhile (fun entry => decide (key entry ≤ threshold)) = list.filter fun entry => decide (threshold < key entry) := by
  induction list with
  | nil => rfl
  | cons entry rest ih =>
  obtain ⟨above,rising⟩ := pairwise_cons.mp rising
  by_cases covered : key entry ≤ threshold
  · have kept : ¬threshold < key entry := by omega
    simp only [dropWhile_cons,filter_cons,covered,kept,decide_true,decide_false,if_true,Bool.false_eq_true,if_false,
      ih rising]
  have beyond : ∀ other ∈ rest, threshold < key other := fun other member => by
    have later := above (key other) (mem_map_of_mem member)
    omega
  have kept : threshold < key entry := by omega
  have whole : rest.filter (fun entry => decide (threshold < key entry)) = rest :=
    filter_eq_self.mpr fun other member => decide_eq_true (beyond other member)
  simp only [dropWhile_cons,filter_cons,covered,kept,decide_true,decide_false,if_true,Bool.false_eq_true,if_false,whole]

private theorem Tallied.consecutive (tallied : Tallied noted) :
    noted.behind.map KernelRecord.step_seq = List.range' (firstBehind noted.acked) (noted.tx.upcoming-firstBehind noted.acked) := by
  obtain ⟨origin,numbered,ends,low⟩ := tallied.placed
  have shifted : noted.behind.map KernelRecord.step_seq =
      (noted.placed.map KernelRecord.step_seq).filter fun value => decide (firstBehind noted.acked ≤ value) := by
    rw [filter_map]
    rfl
  rw [shifted,numbered,range'_filter_from low (ends ▸ tallied.within),ends]

section
variable (entered : List.Forall₂ Entered records tail)
include entered

private theorem forall₂_step_seq :
    tail.map step_seq = records.map KernelRecord.step_seq := by
  induction entered with
  | nil => rfl
  | cons entered _ ih => rw [map_cons,map_cons,entered.step_seq,ih]

private theorem forall₂_bytes :
    tail.map bytes = records.map KernelRecord.record_len := by
  induction entered with
  | nil => rfl
  | cons entered _ ih => rw [map_cons,map_cons,entered.bytes,ih]

private theorem forall₂_named
    (boundary : CheckpointBoundary) :
    (tail.any fun entry => entry.step_seq == boundary.through_step_seq && entry.record_digest == boundary.covered_head) = true ↔
      ∃ record ∈ records, record.step_seq = boundary.through_step_seq ∧ record.record_digest = boundary.covered_head := by
  induction entered with
  | nil => simp
  | cons entered _ ih =>
  simp only [any_cons,Bool.or_eq_true,ih,entered.step_seq,entered.record_digest,Bool.and_eq_true,beq_iff_eq,
    exists_mem_cons_iff]

end

theorem Tallied.rising (tallied : Tallied noted) : (noted.tx.tail.map step_seq).Pairwise (· < ·) := by
  rw [forall₂_step_seq tallied.tail,tallied.consecutive]
  exact pairwise_lt_range'

theorem Tallied.idle (tallied : Tallied noted) (head : after.head = noted.tx.head)
    (tail : after.tail = noted.tx.tail) (free : after.candidate = none) : Tallied { noted with tx := after } := by
  have upcoming : after.upcoming = noted.tx.upcoming := by rw [upcoming,upcoming,head]
  refine ⟨?_,?_,?_,?_,?_⟩
  · obtain ⟨origin,numbered,ends,low⟩ := tallied.placed
    exact ⟨origin,numbered,ends.trans upcoming.symm,low⟩
  · exact upcoming ▸ tallied.within
  · exact fun record member => head.trans (tallied.last record member)
  · exact tail ▸ tallied.tail
  · intro candidate held
    cases free.symm.trans held

theorem Tallied.new (defaults : ConfigDefaults) (index : RecordIndex C) :
    Tallied (⟨.new defaults index,[],none,defaults.tail_bounds⟩ : Noted C) :=
  ⟨⟨0,rfl,rfl,Nat.le_refl _⟩,Nat.le_refl _,by rintro _ ⟨⟩,.nil,by rintro _ ⟨⟩⟩

theorem Tallied.restored (operation_id : OperationId) (genesis_digest : Digest) (base : CheckpointBoundary)
    (state : TransitionState)
    (defaults : ConfigDefaults) (index : RecordIndex C) :
    Tallied ⟨.restore_from_checkpoint operation_id genesis_digest base state defaults index,[],some base,
      state.resolved_config.tail_bounds⟩ :=
  ⟨⟨base.through_step_seq+1,rfl,rfl,Nat.le_refl _⟩,Nat.le_refl _,by rintro _ ⟨⟩,.nil,by rintro _ ⟨⟩⟩

/-- An acknowledgement takes off the tail what it covers. -/
theorem Tallied.ack {noted : Noted C} (tallied : Tallied noted) {after : KernelTransaction C} {boundary : CheckpointBoundary}
    {usage : TailUsage} (acked : noted.tx.note_checkpoint_acked boundary = (.ok usage,after)) :
    (∃ record ∈ noted.behind, record.step_seq = boundary.through_step_seq ∧ record.record_digest = boundary.covered_head) ∧
      after = { noted.tx with tail := noted.tx.tail.filter fun entry => decide (boundary.through_step_seq < entry.step_seq) } ∧
      usage = after.tail_usage := by
  unfold note_checkpoint_acked at acked
  split at acked
  · cases acked
  split at acked
  next named =>
    cases acked
    refine ⟨(forall₂_named tallied.tail boundary).mp named,?_,rfl⟩
    rw [dropWhile_rising step_seq _ _ tallied.rising]
  next => cases acked

/-- What an acknowledgement does: an open transaction takes exactly the boundaries that name a record of its
    tail, it keeps the later records, and nothing but the tail moves. -/
def AcksByTail (noted : Noted C) (boundary : CheckpointBoundary) : Prop :=
  let (answer,after) := noted.tx.note_checkpoint_acked boundary
  if noted.tx.poison = none ∧ ∃ record ∈ noted.behind, record.step_seq = boundary.through_step_seq ∧
      record.record_digest = boundary.covered_head then
    after = { noted.tx with tail := noted.tx.tail.filter fun entry => decide (boundary.through_step_seq < entry.step_seq) } ∧
      answer = .ok after.tail_usage
  else after = noted.tx ∧ answer.isOk = false

/-- An acknowledgement goes by the records behind the last boundary. -/
theorem Tallied.acks (tallied : Tallied noted) (boundary : CheckpointBoundary) : AcksByTail noted boundary := by
  unfold AcksByTail
  rcases outcome : noted.tx.note_checkpoint_acked boundary with ⟨fault | usage,after⟩
  · simp only
    rw [if_neg]
    · unfold note_checkpoint_acked at outcome
      split at outcome
      · cases outcome
        exact ⟨rfl,rfl⟩
      split at outcome
      · cases outcome
      · cases outcome
        exact ⟨rfl,rfl⟩
    · rintro ⟨clean,named⟩
      have taken := (forall₂_named tallied.tail boundary).mpr named
      simp only [note_checkpoint_acked,clean,taken,if_true] at outcome
      cases outcome
  obtain ⟨named,moved,counted⟩ := tallied.ack outcome
  have clean : noted.tx.poison = none := by
    cases poisoned : noted.tx.poison with
    | none => rfl
    | some fault =>
    simp only [note_checkpoint_acked,poisoned] at outcome
    cases outcome
  simp only
  rw [if_pos ⟨clean,named⟩]
  exact ⟨moved,congrArg Except.ok counted⟩

variable {boundary : CheckpointBoundary} {context : PlanContext} {envelope : WireEnvelope} {fault : KernelFault} {token : PrepareToken}
variable {appended_head : Digest} {transition : CommittedTransition C}

/-- What is left behind the new boundary is counted still. -/
theorem Tallied.acked (tallied : Tallied noted)
    {usage : TailUsage} (acked : noted.tx.note_checkpoint_acked boundary = (.ok usage,after)) :
    Tallied { noted with tx := after, acked := some boundary } := by
  obtain ⟨⟨record,member,named,_⟩,rfl,_⟩ := tallied.ack acked
  obtain ⟨listed,beyond⟩ := mem_filter.mp member
  have beyond := of_decide_eq_true beyond
  have below : record.step_seq < noted.tx.upcoming := by
    have numbered := mem_map_of_mem (f := KernelRecord.step_seq) member
    rw [tallied.consecutive] at numbered
    have bound := (mem_range'_1.mp numbered).2
    have within := tallied.within
    omega
  have narrowed : ({ noted with acked := some boundary } : Noted C).behind =
      noted.behind.filter fun record => decide (boundary.through_step_seq < record.step_seq) := by
    rw [Noted.behind,Noted.behind,filter_filter]
    refine filter_congr fun other _ => ?_
    show decide (boundary.through_step_seq+1 ≤ other.step_seq) = _
    rw [← Bool.decide_and,decide_eq_decide]
    omega
  refine ⟨?_,?_,tallied.last,?_,?_⟩
  · obtain ⟨origin,numbered,ends,low⟩ := tallied.placed
    refine ⟨origin,numbered,ends,?_⟩
    show origin ≤ boundary.through_step_seq+1
    omega
  · show boundary.through_step_seq+1 ≤ noted.tx.upcoming
    omega
  · show List.Forall₂ Entered ({ noted with acked := some boundary } : Noted C).behind _
    rw [narrowed]
    refine rel_filter ?_ tallied.tail
    intro record entry entered
    simp only [entered.step_seq]
  intro candidate held
  have fitting := tallied.candidate candidate held
  have fewer : (noted.tx.tail.filter fun entry => decide (boundary.through_step_seq < entry.step_seq)).length ≤ noted.tx.tail.length :=
    length_filter_le _ _
  have smaller : ((noted.tx.tail.filter fun entry => decide (boundary.through_step_seq < entry.step_seq)).map bytes).sum ≤
      (noted.tx.tail.map bytes).sum := (filter_sublist.map _).sum_le_sum fun _ _ => Nat.zero_le _
  have records := fitting.records
  have bytes := fitting.bytes
  refine ⟨fitting.follows,fitting.measured,?_,?_⟩
  · exact Nat.le_trans (Nat.succ_le_succ fewer) records
  · exact Nat.le_trans (Nat.add_le_add_right smaller _) bytes

variable [TransitionStep Step]

/-- A record that follows the head and is folded is the last of the tail. -/
theorem Tallied.folded (tallied : Tallied noted) (follows : Follows noted.tx.head input record)
    (free : after.candidate = none)
    (facts : FoldedTo record step input record.record_len noted.tx after) :
    Tallied { noted with tx := after, placed := noted.placed ++ [record] } := by
  have taken := upcoming_of_follows follows
  have upcoming : after.upcoming = noted.tx.upcoming+1 := by
    rw [upcoming,facts.head,← taken]
    rfl
  have within := tallied.within
  have grown : ({ noted with placed := noted.placed ++ [record] } : Noted C).behind = noted.behind ++ [record] := by
    have beyond : firstBehind noted.acked ≤ record.step_seq := taken ▸ within
    simp only [Noted.behind,filter_append,filter_cons,filter_nil,beyond,decide_true,if_true]
  refine ⟨?_,?_,?_,?_,?_⟩
  · obtain ⟨origin,numbered,ends,low⟩ := tallied.placed
    refine ⟨origin,?_,?_,low⟩
    · rw [map_append,numbered,length_append,length_singleton,range'_1_concat,ends,← taken]
      rfl
    · rw [length_append,length_singleton,upcoming,← ends,Nat.add_assoc]
  · show firstBehind noted.acked ≤ after.upcoming
    omega
  · intro last listed
    simp only [getLast?_append,getLast?_singleton,Option.some_or,Option.mem_def,Option.some.injEq] at listed
    exact listed ▸ facts.head
  · show List.Forall₂ Entered ({ noted with placed := noted.placed ++ [record] } : Noted C).behind after.tail
    rw [grown,facts.tail]
    exact rel_append tallied.tail (.cons ⟨rfl,rfl,rfl,follows.encoded⟩ .nil)
  · intro candidate held
    cases free.symm.trans held

omit [TransitionStep Step] in
/-- An input is planned only while the tail has room for one more record. -/
theorem admissionOf_room
    (admitted : tx.admissionOf input = .ok (.planned context)) : tx.tail_records+1 ≤ tx.bounds.hard_records := by
  unfold admissionOf at admitted
  simp only [bind,Except.bind] at admitted
  split at admitted
  · cases admitted
  split at admitted
  · cases admitted
  split at admitted
  · split at admitted
    · cases admitted
    · next existing _ _ =>
      cases replayed : tx.replay_of existing <;> simp [replayed,refuse,Functor.map,Except.map] at admitted
  split at admitted
  · cases admitted
  split at admitted
  · cases admitted
  split at admitted
  · cases admitted
  split at admitted
  · cases admitted
  split at admitted
  · cases admitted
  split at admitted
  · cases admitted
  split at admitted
  · cases admitted
  split at admitted
  · cases admitted
  split at admitted
  · cases admitted
  next room => exact Nat.not_lt.mp room

private theorem stageable_room
    (able : tx.stageable context step = .ok record) : tx.tail_bytes+record.record_len ≤ tx.bounds.hard_bytes := by
  unfold stageable at able
  simp only [bind,Except.bind] at able
  split at able
  · cases able
  split at able
  · cases able
  split at able
  · cases able
  next room =>
  cases able
  exact Nat.not_lt.mp room

/-- A preparation leaves the transaction alone, or the candidate it stages fits the bounds in force. -/
theorem prepareWith_fits
    {preparation : KernelPreparation C} (prepared : tx.prepareWith resolve envelope plan = .ok (preparation,after)) :
    (preparation.isPrepared = false ∧ after = tx) ∨
      (preparation.isPrepared = true ∧ ∃ candidate epoch,
      after = { tx with candidate := some candidate, prepare_epoch := epoch } ∧
        ∀ placed acked, Fitting ⟨tx,placed,acked,tx.bounds⟩ candidate) := by
  rw [prepareWith_eq] at prepared
  cases guarded : tx.screened resolve envelope with
  | error halt =>
    rw [guarded] at prepared
    cases halt <;> cases prepared
    exact .inl ⟨rfl,rfl⟩
  | ok admission =>
  rw [guarded] at prepared
  cases admission with
  | answered preparation =>
    cases prepared
    exact .inl ⟨screened_answered guarded,rfl⟩
  | planned context =>
  simp only at prepared
  cases given : plan context with
  | error fault =>
    simp only [given] at prepared
    cases prepared
    exact .inl ⟨rfl,rfl⟩
  | ok step =>
  simp only [given,staged_eq] at prepared
  cases able : tx.stageable context step with
  | error fault =>
    simp only [able] at prepared
    cases prepared
    exact .inl ⟨rfl,rfl⟩
  | ok record =>
  simp only [able] at prepared
  cases prepared
  obtain ⟨input,admitted,_⟩ := screened_admits guarded
  refine .inr ⟨rfl,_,_,rfl,fun placed acked => ⟨chain_after_follows (stageable_chained able),rfl,admissionOf_room admitted,stageable_room able⟩⟩

omit [TransitionStep Step] in
private theorem advance_lifecycle_head_tail (tx : KernelTransaction C) (input : NormalizedInput) :
    (tx.advance_lifecycle input).head = tx.head ∧ (tx.advance_lifecycle input).tail = tx.tail := by
  unfold advance_lifecycle
  split <;> exact ⟨rfl,rfl⟩

private theorem foldRecord_broken
    {record_bytes : Nat} (failed : foldRecord record step input record_bytes tx = .error fault after) :
    after.head = tx.head ∧ after.tail = tx.tail := by
  have bound := advance_lifecycle_head_tail (tx.bind_operation record) input
  simp only [foldRecord_eq] at failed
  split at failed
  · cases failed
    exact bound
  · cases failed
    exact bound
  · split at failed <;> cases failed
    exact bound

theorem commit_refused_head_tail
    (refused : tx.commit token appended_head = (.error fault,after)) :
    after = tx ∨ (after.head = tx.head ∧ after.tail = tx.tail ∧ after.candidate = none) := by
  rw [commit_eq] at refused
  split at refused
  · cases refused
    exact .inl rfl
  · cases refused
    exact .inr ⟨rfl,rfl,rfl⟩
  split at refused
  · cases refused
    exact .inr ⟨rfl,rfl,rfl⟩
  split at refused
  · cases refused
    exact .inr ⟨rfl,rfl,rfl⟩
  split at refused
  · cases refused
  next failed =>
  cases refused
  obtain ⟨head,tail⟩ := foldRecord_broken failed
  exact .inr ⟨head,tail,rfl⟩

/-- A commit adds its record to the tail's account. -/
theorem Tallied.committed (tallied : Tallied noted)
    (committed : noted.tx.commit token appended_head = (.ok transition,after)) :
    Tallied { noted with tx := after, placed := noted.placed ++ [transition.record] } ∧
      transition.checkpoint_advice = (if noted.tx.tail_pressure = .Nominal ∧ after.tail_pressure ≠ .Nominal then
        some ⟨transition.step_seq,after.tail_usage,after.bounds⟩ else none) ∧
      after.tail_records ≤ noted.limits.hard_records ∧ after.tail_bytes ≤ noted.limits.hard_bytes := by
  obtain ⟨_,same,_⟩ | ⟨candidate,_,held,_,_,folded,same⟩ := commit_cases committed
  · cases same
  cases same
  have fitting := tallied.candidate candidate held
  have emptied : Tallied { noted with tx := { noted.tx with candidate := none } } := tallied.idle rfl rfl rfl
  have facts := foldRecord_ok folded
  have tail := facts.tail
  rw [fitting.measured] at facts tail
  refine ⟨emptied.folded fitting.follows facts.candidate facts,rfl,?_,?_⟩
  · rw [tail_records,tail,length_append,length_singleton]
    exact fitting.records
  · rw [tail_bytes,tail,map_append,sum_append]
    simpa [tail_bytes] using fitting.bytes

/-- A replayed record is added to the tail's account. -/
theorem Tallied.replayed (tallied : Tallied noted) (free : noted.tx.candidate = none) {expected : Digest}
    (replayed : noted.tx.replay_committed input expected (stateless plan) () = .ok after ())
    (entered : record_for_input after.index input.operation_id input.input_id = some record) :
    Tallied { noted with tx := after, placed := noted.placed ++ [record] } := by
  obtain ⟨_,_,step,rebuilt,_,_,_,_,chained,_,folded⟩ := replay_committed_ok replayed
  have follows := chain_after_follows chained
  have facts := foldRecord_ok folded
  have same : record = rebuilt := by
    rw [facts.index,← follows.operation_id,← follows.input_id,record_for_input,note_committed,
      Std.ExtTreeMap.getElem?_insert_self] at entered
    exact (Option.some.inj entered).symm
  subst same
  exact tallied.folded follows (facts.candidate.trans free) facts

theorem Reached.tallied (reached : Reached resolve noted) : Tallied noted := by
  induction reached with
  | new defaults index => exact Tallied.new defaults index
  | restored operation_id genesis_digest base state defaults index => exact Tallied.restored operation_id genesis_digest base state defaults index
  | replayed _ free replayed entered tallied => exact tallied.replayed free replayed entered
  | prepared _ prepared tallied =>
    obtain ⟨unstaged,rfl⟩ | ⟨staged,candidate,epoch,rfl,fits⟩ := prepareWith_fits prepared
    · simpa only [unstaged,Bool.false_eq_true,if_false] using tallied
    refine ⟨tallied.placed,tallied.within,tallied.last,tallied.tail,?_⟩
    rintro _ ⟨⟩
    simp only [staged,if_true]
    have fitting := fits [] none
    exact ⟨fitting.follows,fitting.measured,fitting.records,fitting.bytes⟩
  | committed _ committed tallied => exact (tallied.committed committed).1
  | refused _ refused tallied =>
    obtain rfl | ⟨head,tail,free⟩ := commit_refused_head_tail refused
    · exact tallied
    · exact tallied.idle head tail free
  | @aborted noted token _ tallied =>
    obtain ⟨fault,same⟩ | ⟨candidate,_,_,_,same⟩ := abort_cases noted.tx token
    · rw [same]
      exact tallied
    · rw [same]
      exact tallied.idle rfl rfl rfl
  | conflict token observed_head _ tallied => exact tallied.idle rfl rfl rfl
  | acked _ acked tallied => exact tallied.acked acked
  | unacked _ unacked tallied =>
  unfold note_checkpoint_acked at unacked
  split at unacked
  · cases unacked
    exact tallied
  split at unacked
  · cases unacked
  · cases unacked
    exact tallied

/-- In every reachable transaction the tail is the placed records behind the last boundary, consecutive up to the
    head; an acknowledgement goes by them; a commit advises where the pressure left its nominal range, and keeps
    to the bounds its candidate was prepared under. -/
theorem tail_accounted {resolve : Resolver} {noted : Noted C} (reached : Reached resolve noted) :
    (List.Forall₂ Entered noted.behind noted.tx.tail ∧
      noted.tx.tail.map step_seq = List.range' (firstBehind noted.acked) (noted.tx.upcoming-firstBehind noted.acked) ∧
      (∀ record ∈ noted.placed.getLast?, noted.tx.head = some record.anchor) ∧
      noted.tx.tail_usage = ⟨noted.behind.length,(noted.behind.map KernelRecord.record_len).sum⟩) ∧
    (∀ boundary, AcksByTail noted boundary) ∧
    ∀ token appended_head transition after, noted.tx.commit token appended_head = (.ok transition,after) →
      transition.checkpoint_advice = (if noted.tx.tail_pressure = .Nominal ∧ after.tail_pressure ≠ .Nominal then
        some ⟨transition.step_seq,after.tail_usage,after.bounds⟩ else none) ∧
      after.tail_records ≤ noted.limits.hard_records ∧ after.tail_bytes ≤ noted.limits.hard_bytes := by
  have tallied := reached.tallied
  refine ⟨⟨tallied.tail,?_,tallied.last,?_⟩,tallied.acks,?_⟩
  · rw [forall₂_step_seq tallied.tail,tallied.consecutive]
  · rw [tail_usage,tail_records,tail_bytes,← tallied.tail.length_eq,forall₂_bytes tallied.tail]
  · intro token appended_head transition after committed
    exact (tallied.committed committed).2

private theorem Reached.transact (reached : Reached resolve noted)
    (through : noted.tx.transact resolve envelope plan = some (transition,after)) :
    Reached resolve ⟨after,noted.placed ++ [transition.record],noted.acked,noted.tx.bounds⟩ := by
  obtain ⟨token,record,step,staged,prepared,committed⟩ := transact_cases through
  exact (reached.prepared prepared).committed committed

private theorem Reached.transactAll (envelopes : List WireEnvelope) :
    ∀ {noted : Noted C} {after : KernelTransaction C} {transitions : List (CommittedTransition C)}, Reached resolve noted →
      transactAll resolve plan noted.tx envelopes = some (transitions,after) →
      ∃ limits, Reached resolve ⟨after,noted.placed ++ recordsOf transitions,noted.acked,limits⟩ := by
  induction envelopes with
  | nil =>
    intro noted after transitions reached through
    cases through
    refine ⟨noted.limits,?_⟩
    simpa [recordsOf] using reached
  | cons envelope rest ih =>
  intro noted after transitions reached through
  obtain ⟨transition,middle,later,first,second,rfl⟩ := transactAll_cons through
  obtain ⟨limits,stepped⟩ := ih (reached.transact first) second
  exact ⟨limits,by rwa [append_assoc,singleton_append] at stepped⟩

open PlainParts

/-- The started operation, and the boundary its genesis record is. -/
def startedAtGenesis : Option (List (KernelRecord plainCodec) × KernelTransaction plainCodec × CheckpointBoundary) := do
  let (trace,tx) ← startedPlainly
  let genesis ← (recordsOf trace).head?
  pure (recordsOf trace,tx,⟨genesis.step_seq,genesis.record_digest⟩)

private theorem startedAtGenesis_reached {records : List (KernelRecord plainCodec)}
    {tx : KernelTransaction plainCodec} (through : startedAtGenesis = some (records,tx,boundary)) :
    ∃ limits, Reached plain.resolve ⟨tx,records,none,limits⟩ := by
  unfold startedAtGenesis at through
  obtain ⟨⟨trace,live⟩,started,rest⟩ := Option.bind_eq_some_iff.mp through
  obtain ⟨genesis,_,rest⟩ := Option.bind_eq_some_iff.mp rest
  cases rest
  exact Reached.transactAll _ (Reached.new plainDefaults ∅) started

private theorem startedAtGenesis_tail : startedAtGenesis.any (fun (records,tx,boundary) =>
    decide ((tx.note_checkpoint_acked boundary).1.isOk = true) &&
      (match records.filter fun record => decide (firstBehind (some boundary) ≤ record.step_seq) with
        | [record] => decide (record.step_seq = 1)
        | _ => false)) = true := by decide +kernel

/-- Behind an acknowledged genesis the tail of the started operation is its second record. -/
theorem tail_accounted_started : ∃ (noted : Noted plainCodec) (record : KernelRecord plainCodec),
    Reached plain.resolve noted ∧ noted.behind = [record] ∧ record.step_seq = 1 ∧
    noted.tx.tail_usage = ⟨1,record.record_len⟩ := by
  obtain ⟨⟨records,tx,boundary⟩,through,shape⟩ := (Option.any_eq_true _ _).mp startedAtGenesis_tail
  obtain ⟨taken,shape⟩ := Bool.and_eq_true_iff.mp shape
  obtain ⟨limits,reached⟩ := startedAtGenesis_reached through
  rcases outcome : tx.note_checkpoint_acked boundary with ⟨fault | usage,after⟩
  · simp [outcome,Except.isOk,Except.toBool] at taken
  have acked := reached.acked outcome
  split at shape
  next record behind =>
    have behind : (⟨after,records,some boundary,limits⟩ : Noted plainCodec).behind = [record] := behind
    have counted := (tail_accounted acked).1.2.2.2
    rw [behind] at counted
    exact ⟨_,record,acked,behind,of_decide_eq_true shape,by simpa using counted⟩
  next => cases shape

/-- The genesis record, staged, replayed on the side, and then committed. -/
def replayedBeside : Option (KernelTransaction plainCodec) :=
  match plainFresh.prepareWith plain.resolve (plainEnvelope "configure" 1 (.ConfigureOperation "")) askingOnce with
  | .ok (.Prepared token record _,staged) =>
    match record.normalized_input with
    | .ok input =>
      match staged.replay_committed input record.record_digest (stateless askingOnce) () with
      | .ok after () => some (after.commit token record.record_digest).2
      | .error _ () => none
    | .error _ => none
  | _ => none

private theorem replayedBeside_reachable {tx : KernelTransaction plainCodec} (through : replayedBeside = some tx) :
    Reachable plain.resolve tx := by
  unfold replayedBeside at through
  split at through
  next token record step staged prepared =>
    split at through
    · split at through
      next replayed =>
        cases through
        exact (Reachable.replayed ((Reachable.new plainDefaults ∅).prepare prepared) replayed).commit token record.record_digest
      next => cases through
    · cases through
  next => cases through

/-- A poisoned transaction refuses the boundary of a record in its tail; and a replay beside an outstanding
    candidate leaves one step twice in the tail. -/
theorem poisoned_refuses_its_tail :
    (∃ (noted : Noted plainCodec) (boundary : CheckpointBoundary) (record : KernelRecord plainCodec),
    Reached plain.resolve noted ∧ record ∈ noted.behind ∧ record.step_seq = boundary.through_step_seq ∧
      record.record_digest = boundary.covered_head ∧ (noted.tx.note_checkpoint_acked boundary).1.isOk = false) ∧
    ∃ tx, Reachable (C := plainCodec) plain.resolve tx ∧ tx.tail.map step_seq = [0,0] := by
  constructor
  · obtain ⟨⟨records,tx,boundary⟩,through,refused⟩ := (Option.any_eq_true _ _).mp (show startedAtGenesis.any fun (records,tx,boundary) =>
      decide ((tx.commit "unknown" "unknown").1.isOk = false) &&
      decide (((tx.commit "unknown" "unknown").2.note_checkpoint_acked boundary).1.isOk = false) &&
        records.any fun record => decide (record.step_seq = boundary.through_step_seq ∧ record.record_digest = boundary.covered_head)
      from by decide +kernel)
    obtain ⟨facts,member⟩ := Bool.and_eq_true_iff.mp refused
    obtain ⟨uncommitted,refused⟩ := Bool.and_eq_true_iff.mp facts
    obtain ⟨record,member,named⟩ := any_eq_true.mp member
    obtain ⟨limits,reached⟩ := startedAtGenesis_reached through
    rcases outcome : tx.commit "unknown" "unknown" with ⟨fault | transition,after⟩
    · rw [outcome] at refused
      exact ⟨_,boundary,record,reached.refused outcome,mem_filter.mpr ⟨member,decide_eq_true (Nat.zero_le _)⟩,(of_decide_eq_true named).1,
        (of_decide_eq_true named).2,of_decide_eq_true refused⟩
    · simp [outcome,Except.isOk,Except.toBool] at uncommitted
  · obtain ⟨tx,through,doubled⟩ := (Option.any_eq_true _ _).mp (show replayedBeside.any fun tx =>
      decide (tx.tail.map step_seq = [0,0]) from by decide +kernel)
    exact ⟨tx,replayedBeside_reachable through,of_decide_eq_true doubled⟩

end Deepstrike.Transaction.KernelTransaction

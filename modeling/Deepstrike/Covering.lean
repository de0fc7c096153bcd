import Deepstrike.Chaining
import Deepstrike.Checkpoints
import Deepstrike.Preparing

/-!
What the two checks of a bounded tail accept. The check of a checkpoint looks at the steps, the
operation and the last digest of its tail; that the digests form a chain behind the base is found out
by the replay, which makes each record anew.
-/
namespace Deepstrike.Checkpoints
open Wire Record Transaction List KernelCheckpoint CanonicalInput

/-- A tail that covers what lies behind a base through a head: the steps of the range one by one, all
    of one operation, the last of them the covered head. -/
structure Covers (operation_id : OperationId) (base_step_seq : Nat) (base_record_digest : Digest) (through_step_seq : Nat)
    (covered_transaction_head_digest : Digest) (tail_inputs : List CanonicalInput) : Prop where
  ordered : base_step_seq ≤ through_step_seq
  steps : tail_inputs.map step_seq = List.range' (base_step_seq+1) (through_step_seq - base_step_seq)
  owned : ∀ entry ∈ tail_inputs, entry.input.operation_id = operation_id
  ends : (tail_inputs.getLast?.map record_digest).getD base_record_digest = covered_transaction_head_digest

private theorem check_entries_iff (operation_id : OperationId) (base_step_seq through_step_seq : Nat) (entries : List CanonicalInput) :
    ∀ offset, check_entries operation_id base_step_seq through_step_seq offset entries = .ok () ↔
      entries.map step_seq = List.range' (base_step_seq+offset+1) entries.length ∧
        ∀ entry ∈ entries, entry.input.operation_id = operation_id := by
  induction entries with
  | nil => simp [check_entries]
  | cons entry rest ih =>
  intro offset
  simp only [check_entries,map_cons,length_cons,range'_succ,cons.injEq,forall_mem_cons]
  by_cases placed : entry.step_seq = base_step_seq+offset+1
  · by_cases owned : entry.input.operation_id = operation_id
    · simp only [placed,owned,ne_eq,not_true_eq_false,if_false,true_and]
      exact ih (offset+1)
    · simp [placed,owned]
  · simp [placed]

/-- What the check of a bounded tail accepts, exactly. -/
theorem check_tail_iff (operation_id : OperationId) (base_step_seq : Nat) (base_record_digest : Digest)
    (through_step_seq : Nat)
    (covered_transaction_head_digest : Digest) (tail_inputs : List CanonicalInput) :
    check_tail operation_id base_step_seq base_record_digest through_step_seq covered_transaction_head_digest
    tail_inputs = .ok () ↔
      Covers operation_id base_step_seq base_record_digest through_step_seq covered_transaction_head_digest
      tail_inputs := by
  unfold check_tail
  constructor
  · intro accepted
    split at accepted
    · cases accepted
    next ordered =>
    split at accepted
    · cases accepted
    next met =>
    split at accepted
    · cases accepted
    next counted =>
    have counted := not_not.mp counted
    simp only [bind,Except.bind] at accepted
    split at accepted
    · cases accepted
    next walked =>
    obtain ⟨steps,owned⟩ := (check_entries_iff ..).mp walked
    refine ⟨Nat.not_lt.mp ordered,counted ▸ steps,owned,?_⟩
    split at accepted
    next last ended =>
      split at accepted
      · cases accepted
      next same =>
      rw [ended]
      exact not_not.mp same
    next empty =>
    rw [getLast?_eq_none_iff.mp empty]
    rw [getLast?_eq_none_iff.mp empty,length_nil] at counted
    have same : base_step_seq = through_step_seq := by omega
    exact not_not.mp fun differ => met ⟨same,differ⟩
  rintro ⟨ordered,steps,owned,ends⟩
  have counted : tail_inputs.length = through_step_seq - base_step_seq := by simpa using congrArg length steps
  have walked := (check_entries_iff operation_id base_step_seq through_step_seq tail_inputs 0).mpr ⟨counted ▸ steps,owned⟩
  have met : ¬(base_step_seq = through_step_seq ∧ base_record_digest ≠ covered_transaction_head_digest) := by
    rintro ⟨rfl,differ⟩
    rw [Nat.sub_self,length_eq_zero_iff] at counted
    rw [counted] at ends
    exact differ ends
  rw [if_neg (Nat.not_lt.mpr ordered),if_neg met,if_neg (not_not.mpr counted)]
  simp only [walked,bind,Except.bind]
  split
  next last ended =>
    rw [ended] at ends
    exact if_neg (not_not.mpr ends)
  next => rfl

section
variable {P D Step : Type} {C : Codec Step} {S : CheckpointCodec P}

/-- Records, one behind the other from an anchor on, and the tail entries they left. -/
inductive ChainsFrom : ChainAnchor → List (KernelRecord C) → List CanonicalInput → Prop where
  | nil (anchor : ChainAnchor) : ChainsFrom anchor [] []
  | cons {anchor : ChainAnchor} {record : KernelRecord C} {entry : CanonicalInput} {records : List (KernelRecord C)}
      {entries : List CanonicalInput} : Follows (some anchor) entry.input record → record.step_seq = entry.step_seq →
      record.record_digest = entry.record_digest → ChainsFrom record.anchor records entries →
      ChainsFrom anchor (record :: records) (entry :: entries)

/-- A tail that is the chain of records from a base to a covered head. -/
def Chains (C : Codec Step) (operation_id : OperationId) (base through : CheckpointBoundary) (tail_inputs : List CanonicalInput) : Prop :=
  ∃ records : List (KernelRecord C), ChainsFrom ⟨operation_id,base.through_step_seq,base.covered_head⟩ records tail_inputs ∧
    (records.getLast?.map KernelRecord.anchor).getD ⟨operation_id,base.through_step_seq,base.covered_head⟩ =
      ⟨operation_id,through.through_step_seq,through.covered_head⟩

variable {draft : CheckpointDraft P} {checkpoint : KernelCheckpoint P} {plan : Planner D Step} {records : List (KernelRecord C)}

/-- An assembled checkpoint keeps its draft and verifies. -/
theorem assemble_ok
    (assembled : assemble S draft = .ok checkpoint) : checkpoint.toCheckpointDraft = draft ∧
      checkpoint.verify S = .ok () ∧ S.validate_durable_message_bodies draft.logical_state.driver = .ok () ∧
      S.state_digest draft.logical_state = .ok checkpoint.state_digest := by
  unfold assemble at assembled
  simp only [bind,Except.bind] at assembled
  split at assembled
  · cases assembled
  next checked =>
  split at assembled
  · cases assembled
  next hashed =>
  split at assembled
  · cases assembled
  next tailHashed =>
  split at assembled
  · cases assembled
  next bodyHashed =>
  cases assembled
  refine ⟨rfl,?_,?_,hashed⟩
  · simp only [verify,checked,hashed,tailHashed,bodyHashed,bind,Except.bind,ne_eq,not_true_eq_false,if_false]
  unfold KernelCheckpoint.checked at checked
  simp only [bind,Except.bind] at checked
  split at checked
  · cases checked
  · assumption

/-- A draft with sound bodies, a covering tail and its digests assembles. -/
theorem assemble_of {state_digest tail_digest checkpoint_digest : Digest}
    (valid : S.validate_durable_message_bodies draft.logical_state.driver = .ok ())
    (covers : Covers draft.operation_id draft.base_step_seq draft.base_record_digest draft.through_step_seq
      draft.covered_transaction_head_digest draft.tail_inputs)
    (hashed : S.state_digest draft.logical_state = .ok state_digest)
      (tailHashed : S.tail_digest draft.tail_inputs = .ok tail_digest)
    (bodyHashed : S.body_digest draft state_digest tail_digest = .ok checkpoint_digest) :
    KernelCheckpoint.assemble S draft = .ok ⟨draft,state_digest,tail_digest,checkpoint_digest⟩ := by
  have checked := (check_tail_iff ..).mpr covers
  simp only [KernelCheckpoint.assemble,KernelCheckpoint.checked,valid,checked,hashed,tailHashed,bodyHashed,bind,Except.bind]

private theorem verify_ok (verified : checkpoint.verify S = .ok ()) :
    Covers checkpoint.operation_id checkpoint.base_step_seq checkpoint.base_record_digest checkpoint.through_step_seq
      checkpoint.covered_transaction_head_digest checkpoint.tail_inputs := by
  unfold verify at verified
  simp only [bind,Except.bind] at verified
  split at verified
  · cases verified
  next checked =>
  unfold KernelCheckpoint.checked at checked
  simp only [bind,Except.bind] at checked
  split at checked
  · cases checked
  exact (check_tail_iff ..).mp checked

variable [TransitionStep Step]

private theorem replay_tail_chains (entries : List CanonicalInput) :
    ∀ {tx after : KernelTransaction C} {anchor : ChainAnchor} {state state' : D}, tx.head = some anchor →
      entries.map step_seq = List.range' (anchor.step_seq+1) entries.length →
      replay_tail plan tx entries state = .ok after state' →
      ∃ records : List (KernelRecord C), ChainsFrom anchor records entries := by
  induction entries with
  | nil =>
    intro tx after anchor state state' held _ replayed
    exact ⟨[],.nil anchor⟩
  | cons entry rest ih =>
  intro tx after anchor state state' held steps replayed
  simp only [map_cons,length_cons,range'_succ,cons.injEq] at steps
  simp only [replay_tail,bind,EStateM.bind] at replayed
  split at replayed
  next middle _ stepped =>
    obtain ⟨_,_,_,record,_,_,_,_,chained,digest,folded⟩ := KernelTransaction.replay_committed_ok stepped
    have follows : Follows (some anchor) entry.input record := held ▸ chain_after_follows chained
    have next := follows.next anchor rfl
    have anchored : record.anchor.step_seq = anchor.step_seq+1 := next
    obtain ⟨records,chains⟩ := ih (KernelTransaction.foldRecord_ok folded).head (anchored ▸ steps.2) replayed
    exact ⟨record :: records,.cons follows (next.trans steps.1.symm) digest chains⟩
  next => cases replayed

omit [TransitionStep Step] in
private theorem ChainsFrom.ends {anchor : ChainAnchor} {entries : List CanonicalInput}
    (chains : ChainsFrom anchor records entries) : (records.getLast?.map KernelRecord.anchor).getD anchor =
      ⟨anchor.operation_id,anchor.step_seq+entries.length,(entries.getLast?.map record_digest).getD anchor.record_digest⟩ := by
  induction chains with
  | nil => rfl
  | @cons anchor record entry records entries follows _ digest _ ih =>
  have own : record.operation_id = anchor.operation_id := follows.operation_id.trans (follows.owner anchor rfl).symm
  have next : record.step_seq = anchor.step_seq+1 := follows.next anchor rfl
  have last : (((record :: records).getLast?).map KernelRecord.anchor).getD anchor =
      (records.getLast?.map KernelRecord.anchor).getD record.anchor := by
    rw [getLast?_cons]
    cases records.getLast? <;> rfl
  have final : ((entry :: entries).getLast?.map record_digest).getD anchor.record_digest =
      (entries.getLast?.map record_digest).getD record.record_digest := by
    rw [getLast?_cons,digest]
    cases entries.getLast? <;> rfl
  rw [last,ih,final]
  simp only [KernelRecord.anchor,own,next,length_cons,Nat.add_assoc,Nat.add_comm 1]

/-- A restore that succeeds has found the tail to cover its range, and to be a chain from the base to
    the covered head. -/
theorem restore_chains {defaults : ConfigDefaults} {index : RecordIndex C} {state state' : D}
    {after : KernelTransaction C}
    (restored : restore_operation S checkpoint records defaults index plan state = .ok after state') :
    Covers checkpoint.operation_id checkpoint.base_step_seq checkpoint.base_record_digest checkpoint.through_step_seq
      checkpoint.covered_transaction_head_digest checkpoint.tail_inputs ∧
    Chains C checkpoint.operation_id ⟨checkpoint.base_step_seq,checkpoint.base_record_digest⟩ checkpoint.boundary
      checkpoint.tail_inputs := by
  unfold restore_operation at restored
  cases verified : checkpoint.verify S with
  | error error =>
    simp only [verified,Except.mapError,refuse,MonadExcept.ofExcept,bind,EStateM.bind] at restored
    cases restored
  | ok _ =>
  have covers := verify_ok verified
  simp only [verified,Except.mapError,refuse,MonadExcept.ofExcept,bind,EStateM.bind,pure,EStateM.pure] at restored
  split at restored
  · split at restored
    next middle _ replayed =>
      have counted : checkpoint.tail_inputs.length = checkpoint.through_step_seq - checkpoint.base_step_seq := by
        simpa using congrArg length covers.steps
      obtain ⟨chain,chains⟩ := replay_tail_chains checkpoint.tail_inputs rfl (counted ▸ covers.steps) replayed
      refine ⟨covers,chain,chains,?_⟩
      have ordered := covers.ordered
      rw [chains.ends,covers.ends,counted]
      simp only [boundary,Nat.add_sub_cancel' ordered]
    next => cases restored
  · cases restored

end

end Deepstrike.Checkpoints

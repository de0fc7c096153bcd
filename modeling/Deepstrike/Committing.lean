import Deepstrike.Chaining
import Deepstrike.Preparing

/-!
How the calls behind a preparation move a transaction: a commit, an abort, an acknowledged
checkpoint; and the books they keep sound, keyed ledgers over one chain of records.
-/
namespace Deepstrike.Transaction.KernelTransaction
open Wire Record OrderedMaps Lockstep

variable {Step : Type} {C : Codec Step}

/-- An abort refuses, or frees the candidate it names. -/
theorem abort_cases (tx : KernelTransaction C) (token : PrepareToken) :
    (∃ fault, tx.abort token = (.error fault,tx)) ∨
    ∃ candidate, tx.poison = none ∧ tx.candidate = some candidate ∧ candidate.token = token ∧
      tx.abort token = (.ok candidate.record,{ tx with candidate := none }) := by
  unfold abort
  split
  · exact .inl ⟨_,rfl⟩
  · exact .inl ⟨_,rfl⟩
  next candidate clean held =>
  by_cases named : candidate.token = token
  · exact .inr ⟨candidate,clean,held,named,if_neg (not_not.mpr named)⟩
  · exact .inl ⟨_,if_pos named⟩

theorem note_checkpoint_acked_tail (tx : KernelTransaction C) (boundary : CheckpointBoundary) :
    ∃ tail, (tx.note_checkpoint_acked boundary).2 = { tx with tail } := by
  unfold note_checkpoint_acked
  split
  · exact ⟨tx.tail,rfl⟩
  · split
    · exact ⟨_,rfl⟩
    · exact ⟨tx.tail,rfl⟩

variable {tx : KernelTransaction C} {input : NormalizedInput} {record : KernelRecord C} {defaults : ConfigDefaults}

theorem next_step_seq_of_follows {step_seq : Nat}
    (follows : Follows tx.head input record) (sequenced : tx.next_step_seq = .ok step_seq) :
    record.step_seq = step_seq := by
  have position := follows.position
  unfold next_step_seq at sequenced
  unfold chain_position at position
  cases held : tx.head with
  | none =>
    simp only [held] at sequenced position
    cases sequenced
    split at position
    · exact (Prod.mk.inj (Except.ok.inj position)).1.symm
    · cases position
  | some head =>
  simp only [held] at sequenced position
  split at sequenced
  · cases sequenced
  cases sequenced
  split at position
  · cases position
  split at position
  · cases position
  · exact (Prod.mk.inj (Except.ok.inj position)).1.symm

/-- Sound books over the given defaults. -/
structure Sound (defaults : ConfigDefaults) (tx : KernelTransaction C) : Prop where
  defaults : tx.defaults = defaults
  bounds : ∀ config, tx.config = some config → tx.bounds = config.tail_bounds
  owner : tx.operation_id = tx.head.map ChainAnchor.operation_id
  floor : ∀ floor, tx.replay_floor = some floor → ∃ head, tx.head = some head ∧ floor ≤ head.step_seq
  pending : KeyedBy KernelEffect.effect_id tx.pending_effects
  accepted : KeyedBy AcceptedInputState.input_id tx.accepted

theorem Sound.new (defaults : ConfigDefaults) (index : RecordIndex C) : Sound defaults (new defaults index) :=
  ⟨rfl,(by rintro _ ⟨⟩),rfl,(by rintro _ ⟨⟩),KeyedBy.empty _,KeyedBy.empty _⟩

theorem Sound.restored (operation_id : OperationId) (genesis_digest : Digest) (base : CheckpointBoundary)
    (state : TransitionState)
    (defaults : ConfigDefaults) (index : RecordIndex C) :
    Sound defaults (restore_from_checkpoint operation_id genesis_digest base state defaults index) :=
  ⟨rfl,by rintro _ ⟨⟩; rfl,rfl,by rintro _ ⟨⟩; exact ⟨_,rfl,Nat.le_refl _⟩,KeyedBy.ofList _ _,KeyedBy.ofList _ _⟩

/-- The transaction of a checkpoint is the one it was taken of, at rest and without its journal. -/
theorem restore_from_checkpoint_eq (sound : Sound defaults tx) {head : ChainAnchor}
    (held : tx.head = some head) {operation_id : OperationId} (owner : tx.operation_id = some operation_id)
    {genesis_digest : Digest}
    (genesis : tx.genesis_digest = some genesis_digest) {root_kind : Option RootKind} {focus : Option ExecutionFocus}
    {transition : TransitionState} (transited : tx.transition_state root_kind focus = .ok transition)
    (index : RecordIndex C) :
    restore_from_checkpoint operation_id genesis_digest ⟨head.step_seq,head.record_digest⟩ transition defaults index =
      { tx with
        index, steps := ∅, replay_floor := some head.step_seq, prepare_epoch := 0, candidate := none, tail :=
          [], poison := none } := by
  unfold transition_state at transited
  cases configured : tx.config with
  | none => simp [configured] at transited
  | some config =>
  simp only [configured,Except.ok.injEq] at transited
  subst transited
  have owned : head.operation_id = operation_id := by
    have same := sound.owner
    rw [owner,held] at same
    simpa using same.symm
  have anchored : (⟨operation_id,head.step_seq,head.record_digest⟩ : ChainAnchor) = head := by rw [← owned]
  have bounds := sound.bounds config configured
  have pending := ofList_values sound.pending
  have accepted := ofList_values sound.accepted
  have defaults := sound.defaults
  cases tx
  simp only at *
  simp only [restore_from_checkpoint,new,anchored,pending,accepted,ofList_toList,bounds,held,owner,genesis,defaults]

private theorem publishedOver_keyed {pending : OrdMap KernelEffect} (keyed : KeyedBy KernelEffect.effect_id pending)
    (effects : List KernelEffect) : KeyedBy KernelEffect.effect_id (publishedOver pending effects) := by
  induction effects generalizing pending with
  | nil => exact keyed
  | cons effect rest ih => exact ih (keyed.insert effect)

variable [TransitionStep Step]

/-- A commit is refused and poisons, or it folds the candidate and empties the slot. -/
theorem commit_cases {after : KernelTransaction C} {token : PrepareToken} {appended_head : Digest}
    {answer : Except KernelFault (CommittedTransition C)} (committed : tx.commit token appended_head = (answer,after)) :
    (∃ fault, answer = .error fault ∧ ((tx.poison = some fault ∧ after = tx) ∨
      (tx.poison = none ∧ after.poison.isSome ∧ after.candidate = none ∧ (after.config = none → tx.config = none)))) ∨
    ∃ candidate, tx.poison = none ∧ tx.candidate = some candidate ∧ candidate.token = token ∧
      appended_head = candidate.record.record_digest ∧
      foldRecord candidate.record candidate.step candidate.input candidate.record_bytes { tx with candidate := none } =
        .ok () after ∧
      answer = .ok ⟨candidate.record,candidate.step,candidate.record.step_seq,
        advice candidate.record { tx with candidate := none } after⟩ := by
  rw [commit_eq] at committed
  cases poisoned : tx.poison with
  | some fault =>
    simp only [poisoned] at committed
    cases committed
    exact .inl ⟨fault,rfl,.inl ⟨rfl,rfl⟩⟩
  | none =>
  cases held : tx.candidate with
  | none =>
    simp only [poisoned,held] at committed
    cases committed
    exact .inl ⟨_,rfl,.inr ⟨rfl,rfl,rfl,id⟩⟩
  | some candidate =>
  have config := (foldRecord_standing candidate.record candidate.step candidate.input candidate.record_bytes
    { tx with candidate := none, poison := none }).1
  simp only [poisoned,held] at committed
  split at committed
  · cases committed
    exact .inl ⟨_,rfl,.inr ⟨rfl,rfl,rfl,id⟩⟩
  next named =>
  split at committed
  · cases committed
    exact .inl ⟨_,rfl,.inr ⟨rfl,rfl,rfl,id⟩⟩
  next placed =>
  split at committed
  next folded =>
    cases committed
    exact .inr ⟨candidate,rfl,rfl,not_not.mp named,not_not.mp placed,folded,rfl⟩
  next fault after folded =>
  cases committed
  refine .inl ⟨_,rfl,.inr ⟨rfl,rfl,rfl,?_⟩⟩
  intro unconfigured
  rw [folded] at config
  exact (Option.or_eq_none_iff.mp (config.symm.trans unconfigured)).2

/-- The fold of a record that follows the head keeps the books sound. -/
theorem Sound.folded {after : KernelTransaction C} {step : Step} {record_bytes : Nat} (sound : Sound defaults tx)
    (follows : Follows tx.head input record)
    (facts : FoldedTo record step input record_bytes tx after) : Sound defaults after := by
  refine ⟨facts.defaults.trans sound.defaults,?_,?_,?_,?_,?_⟩
  · intro config configured
    rw [facts.config] at configured
    rw [facts.bounds]
    cases resolved : input.resolved_config with
    | none =>
      rw [resolved,Option.none_or] at configured
      exact sound.bounds config configured
    | some genesis =>
    rw [resolved,Option.some_or] at configured
    cases configured
    rfl
  · rw [facts.operation_id,facts.head,sound.owner]
    have position := follows.position
    unfold chain_position at position
    cases held : tx.head with
    | none => rfl
    | some head =>
    simp only [held] at position
    split at position
    · cases position
    split at position
    · cases position
    next owner =>
    show some head.operation_id = some record.operation_id
    rw [not_not.mp owner,follows.operation_id]
  · intro floor floored
    obtain ⟨head,held,bound⟩ := sound.floor floor (facts.replay_floor ▸ floored)
    have later := follows.later head held
    exact ⟨record.anchor,facts.head,Nat.le_of_lt (Nat.lt_of_le_of_lt bound later)⟩
  · rw [facts.pending]
    split
    · exact KeyedBy.empty _
    refine publishedOver_keyed ?_ _
    unfold unsettled
    split
    · exact sound.pending.erase _
    · exact sound.pending
  · rw [facts.accepted]
    exact sound.accepted.insert ⟨record.input_id,record.step_seq,record.record_digest⟩

end Deepstrike.Transaction.KernelTransaction

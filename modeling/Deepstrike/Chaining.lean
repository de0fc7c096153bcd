import Deepstrike.Record

/-!
What the chain of records promises: a record that was made behind a head verifies behind the record
that head anchors, and so does the whole journal.
-/
namespace Deepstrike.Record
open Wire

variable {Step : Type} {C : Codec Step}

/-- How a record that follows a head is made up. -/
structure Follows (head : Option ChainAnchor) (input : NormalizedInput) (record : KernelRecord C) : Prop where
  operation_id : record.operation_id = input.operation_id
  input_id : record.input_id = input.input_id
  position : chain_position head input = .ok (record.step_seq,record.previous_record_digest)
  encoded : C.encode_input input = .ok record.canonical_input
  input_digest : record.input_digest = C.input_digest record.canonical_input
  record_digest : C.body_digest record.operation_id record.input_id record.step_seq record.previous_record_digest record.canonical_input
    record.input_digest record.step_digest = .ok record.record_digest

variable {head : Option ChainAnchor} {input : NormalizedInput} {record : KernelRecord C}

/-- A record that is chained follows the head it is chained to. -/
theorem chain_after_follows {step : Step}
    (chained : chain_after head input step = .ok record) : Follows head input record := by
  unfold chain_after at chained
  simp only [bind,Except.bind] at chained
  split at chained
  · cases chained
  next placed position =>
  split at chained
  · cases chained
  next bytes encoded =>
  split at chained
  · cases chained
  split at chained
  · cases chained
  next digested =>
  cases chained
  exact ⟨rfl,rfl,position,encoded,rfl,digested⟩

theorem chain_after_verify_step {step : Step}
    (chained : chain_after head input step = .ok record) : record.verify_step step = .ok () := by
  unfold chain_after at chained
  simp only [bind,Except.bind] at chained
  split at chained
  · cases chained
  split at chained
  · cases chained
  split at chained
  · cases chained
  next digest hashed =>
  split at chained
  · cases chained
  cases chained
  simp [KernelRecord.verify_step,hashed,bind,Except.bind]

theorem Follows.next (follows : Follows head input record)
    (anchor : ChainAnchor) (held : head = some anchor) : record.step_seq = anchor.step_seq+1 := by
  have position := follows.position
  unfold chain_position at position
  simp only [held] at position
  split at position
  · cases position
  split at position
  · cases position
  split at position
  · cases position
  · exact (Prod.mk.inj (Except.ok.inj position)).1.symm

theorem Follows.later (follows : Follows head input record)
    (anchor : ChainAnchor) (held : head = some anchor) : anchor.step_seq < record.step_seq := by
  have next := follows.next anchor held
  omega

theorem Follows.first (follows : Follows none input record) : record.step_seq = 0 := by
  have position := follows.position
  unfold chain_position at position
  simp only at position
  split at position
  · exact (Prod.mk.inj (Except.ok.inj position)).1.symm
  · cases position

theorem Follows.not_genesis (follows : Follows head input record)
    (anchor : ChainAnchor) (held : head = some anchor) : record.is_genesis = false := by
  have position := follows.position
  unfold chain_position at position
  simp only [held] at position
  split at position
  · cases position
  split at position
  · cases position
  split at position
  · cases position
  · have linked := (Prod.mk.inj (Except.ok.inj position)).2
    simp [KernelRecord.is_genesis,← linked]

theorem Follows.owner (follows : Follows head input record)
    (anchor : ChainAnchor) (held : head = some anchor) : anchor.operation_id = input.operation_id := by
  have position := follows.position
  unfold chain_position at position
  simp only [held] at position
  split at position
  · cases position
  split at position
  · cases position
  next same => exact not_not.mp same

theorem Follows.verify (follows : Follows head input record) :
    record.verify = .ok () := by
  simp only [KernelRecord.verify,← follows.input_digest,follows.record_digest,bind,Except.bind,ne_eq,not_true_eq_false,if_false]

/-- A record that follows a head verifies against the record the head anchors. -/
theorem Follows.verify_follows (trips : C.RoundTrips) {previous : Option (KernelRecord C)}
    (follows : Follows (previous.map KernelRecord.anchor) input record) : record.verify_follows previous = .ok () := by
  have decoded : record.normalized_input = .ok input := trips _ _ follows.encoded
  have verified := follows.verify
  have position := follows.position
  unfold chain_position at position
  cases previous with
  | none =>
    simp only [Option.map_none] at position
    split at position
    next genesis =>
      obtain ⟨first,unlinked⟩ := Prod.mk.inj (Except.ok.inj position)
      simp [KernelRecord.verify_follows,verified,← first,← unlinked,decoded,genesis,bind,Except.bind]
    next => cases position
  | some before =>
  simp only [Option.map_some] at position
  split at position
  · cases position
  split at position
  · cases position
  next owner =>
  split at position
  · cases position
  obtain ⟨next,linked⟩ := Prod.mk.inj (Except.ok.inj position)
  have owners : before.operation_id = record.operation_id := (not_not.mp owner).trans follows.operation_id.symm
  have digest : record.previous_record_digest = some before.record_digest := linked.symm
  have sequence : before.step_seq+1 = record.step_seq := next
  simp [KernelRecord.verify_follows,verified,digest,owners,sequence,bind,Except.bind]

/-- A verified chain takes one more record that follows its last. -/
theorem verify_chain_snoc {records : List (KernelRecord C)} : ∀ {previous : Option (KernelRecord C)},
    verify_chain_from previous records = .ok () → record.verify_follows (records.getLast?.or previous) = .ok () →
      verify_chain_from previous (records ++ [record]) = .ok () := by
  induction records with
  | nil =>
    intro previous _ follows
    have follows : record.verify_follows previous = .ok () := by simpa using follows
    simp [verify_chain_from,bind,Except.bind,follows]
  | cons first rest ih =>
  intro previous verified follows
  simp only [verify_chain_from,bind,Except.bind,List.cons_append] at verified ⊢
  split at verified
  · cases verified
  next =>
  refine ih verified ?_
  cases last : rest.getLast? with
  | none => simpa [List.getLast?_cons,last] using follows
  | some final => simpa [List.getLast?_cons,last] using follows

end Deepstrike.Record

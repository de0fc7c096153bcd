import Deepstrike.Lives
import Deepstrike.Outbound
import Deepstrike.Reachability

/-!
What the hosts on one journal keep, whatever their calls do: the journal is a chain that repeats nothing,
each kernel answers for a prefix of it, each checkpoint was taken over a prefix, and retention dropped
what the anchor names.
-/
namespace Deepstrike.Transaction.KernelTransaction
open Wire Record List RecordIndex

variable {Step : Type} {C : Codec Step}

variable {journal : List (KernelRecord C)} {record : KernelRecord C}

variable {before : List (KernelRecord C)}

section
variable (journaled : Journaled journal)
include journaled

theorem Journaled.of_prefix (shorter : before <+: journal) :
    Journaled before := by
  obtain ⟨rest,rfl⟩ := shorter
  refine ⟨fun front record behind same => journaled.chained front record (behind ++ rest) (by simp [same]),?_⟩
  exact (pairwise_append.mp journaled.apart).1

theorem Journaled.numbered {place : Nat}
    (held : journal[place]? = some record) : record.step_seq = place := by
  obtain ⟨bound,same⟩ := List.getElem?_eq_some_iff.mp held
  have split : journal = journal.take place ++ record :: journal.drop (place+1) := by
    rw [← same,← drop_eq_getElem_cons bound,take_append_drop]
  rw [journaled.chained.numbered _ split,length_take,min_eq_left (Nat.le_of_lt bound)]

theorem Extends.numbered
    (extends_ : Extends journal record) : record.step_seq = journal.length := by
  obtain ⟨input,follows,apart⟩ := extends_
  have grown := journaled.snoc follows apart
  exact grown.numbered (by simp)

theorem Extends.next
    (extends_ : Extends before record) (shorter : before <+: journal) (member : record ∈ journal) :
    before ++ [record] <+: journal := by
  obtain ⟨place,bound,same⟩ := getElem_of_mem member
  have placed : journal[place]? = some record := List.getElem?_eq_some_iff.mpr ⟨bound,same⟩
  have here : place = before.length :=
    (journaled.numbered placed).symm.trans (extends_.numbered (journaled.of_prefix shorter))
  obtain ⟨rest,rfl⟩ := shorter
  subst here
  rw [getElem?_append_right (Nat.le_refl _),Nat.sub_self] at placed
  cases rest with
  | nil => cases placed
  | cons first rest =>
  cases placed
  exact ⟨rest,by simp⟩

end

private theorem record_for_noted (records : List (KernelRecord C)) : ∀ {index : RecordIndex C} {operation_id : OperationId} {input_id : InputId}
    {record : KernelRecord C}, record_for_input (records.foldl note_committed index) operation_id input_id = some record →
      (record ∈ records ∧ record.operation_id = operation_id ∧ record.input_id = input_id) ∨
        record_for_input index operation_id input_id = some record := by
  induction records with
  | nil => exact .inr
  | cons first rest ih =>
  intro index operation_id input_id record found
  obtain ⟨member,named⟩ | earlier := ih found
  · exact .inl ⟨mem_cons_of_mem _ member,named⟩
  rw [record_for_note_committed] at earlier
  split at earlier
  next named =>
    cases earlier
    exact .inl ⟨mem_cons_self,named⟩
  next => exact .inr earlier

private theorem noted_answers (records : List (KernelRecord C)) : ∀ {index : RecordIndex C} {operation_id : OperationId} {input_id : InputId},
    (record_for_input index operation_id input_id).isSome ∨
      (∃ record ∈ records, record.operation_id = operation_id ∧ record.input_id = input_id) →
    (record_for_input (records.foldl note_committed index) operation_id input_id).isSome := by
  induction records with
  | nil =>
    intro index operation_id input_id known
    simpa using known
  | cons first rest ih =>
  intro index operation_id input_id known
  refine ih ?_
  rw [record_for_note_committed]
  split
  · exact .inl rfl
  next unnamed =>
  obtain earlier | ⟨record,member,named⟩ := known
  · exact .inl earlier
  · obtain rfl | later := mem_cons.mp member
    · exact absurd named unnamed
    · exact .inr ⟨record,later,named⟩

theorem Indexed.from_records {records : List (KernelRecord C)} {floor : Option Nat}
    (listed : ∀ record ∈ records, record ∈ journal)
    (covered : ∀ record ∈ journal, record ∈ records ∨ ∃ step_seq, floor = some step_seq ∧ record.step_seq ≤ step_seq) :
    Indexed (from_records records) floor journal := by
  refine ⟨fun operation_id input_id twin found => ?_,fun record member => ?_⟩
  · obtain ⟨member,owner,named⟩ | none_before := record_for_noted records found
    · exact ⟨twin,listed twin member,owner,named,Twins.refl twin⟩
    · simp [record_for_input] at none_before
  · obtain kept | below := covered record member
    · exact .inl (noted_answers records (.inr ⟨record,kept,rfl,rfl⟩))
    · exact .inr below

end Deepstrike.Transaction.KernelTransaction

namespace Deepstrike.CanonicalHost
open Wire Record Transaction Driver Kernel List Journal.ChainEntry RecordIndex Option
open Transaction.KernelTransaction (Journaled Extends Standing Lives Folding Indexed)
open Journal (JournalAppendReceipt PrunedAnchor check_append_precondition)

variable {K : Parts} {codec : HostCodec K}

/-- The record of an envelope: its input is the envelope, normalised, under the same identity and clock. -/
def MadeFor (envelope : WireEnvelope) (record : KernelRecord K.codec) : Prop :=
  record.input_id = envelope.input_id ∧ ∃ input, record.normalized_input = .ok input ∧ Normalizes envelope input

/-- A checkpoint over these records: some transaction that answered for all of them was projected to it. -/
def Covers (defaults : ConfigDefaults) (checkpoint : KernelCheckpoint K) (covered : List (KernelRecord K.codec)) : Prop :=
  ∃ origin head root_kind focus, Standing defaults origin covered ∧ origin.head = some head ∧
    origin.operation_id = some checkpoint.operation_id ∧ origin.genesis_digest = some checkpoint.genesis_digest ∧
    checkpoint.boundary = ⟨head.step_seq,head.record_digest⟩ ∧
    origin.transition_state root_kind focus = .ok checkpoint.logical_state.transition

theorem Covers.last {defaults : ConfigDefaults} {checkpoint : KernelCheckpoint K}
    {covered : List (KernelRecord K.codec)}
    (covers : Covers defaults checkpoint covered) (journaled : Journaled covered) :
    ∃ before last, covered = before ++ [last] ∧
      checkpoint.boundary.through_step_seq = before.length ∧ checkpoint.boundary.covered_head = last.record_digest := by
  obtain ⟨origin,head,_,_,standing,held,_,_,boundary,_⟩ := covers
  obtain rfl | ⟨before,last,rfl⟩ := eq_nil_or_concat covered
  · have empty := standing.ledgers.head
    rw [held] at empty
    cases empty
  have anchored : head = last.anchor := by
    have same := standing.ledgers.head
    rw [held] at same
    simpa using same
  refine ⟨before,last,by simp,?_,?_⟩
  · rw [boundary,anchored]
    exact journaled.numbered (by simp)
  · rw [boundary,anchored]
    rfl

/-- A kernel that answers for a prefix of what was appended. -/
def AnswersFor (defaults : ConfigDefaults) (appended : List (KernelRecord K.codec)) (kernel : CanonicalKernel K) : Prop :=
  kernel.defaults = defaults ∧ ∃ journal, journal <+: appended ∧ Lives defaults kernel.transaction journal

/-- A record that some kernel made behind a prefix of what was appended. -/
def Behind (appended : List (KernelRecord K.codec)) (record : KernelRecord K.codec) : Prop :=
  ∃ journal, journal <+: appended ∧ Extends journal record

section
variable {defaults : ConfigDefaults} {appended grown : List (KernelRecord K.codec)} {kernel after : CanonicalKernel K}

theorem AnswersFor.later (answers : AnswersFor defaults appended kernel) (grows : appended <+: grown) :
    AnswersFor defaults grown kernel := by
  obtain ⟨same,journal,shorter,lives⟩ := answers
  exact ⟨same,journal,shorter.trans grows,lives⟩

theorem AnswersFor.new (defaults : ConfigDefaults) (appended : List (KernelRecord K.codec)) :
    AnswersFor defaults appended (.new K defaults) :=
  ⟨rfl,[],List.nil_prefix,Lives.new defaults⟩

variable {record : KernelRecord K.codec} {S : StateCodec K}

theorem Behind.later (behind : Behind appended record) (grows : appended <+: grown) : Behind grown record := by
  obtain ⟨journal,shorter,extends_⟩ := behind
  exact ⟨journal,shorter.trans grows,extends_⟩

/-- What a preparation leaves of the kernel's books. -/
theorem prepare_planned {envelope : WireEnvelope} {preparation : Preparation K}
    (prepared : kernel.prepare envelope = .ok (preparation,after)) :
    after.defaults = kernel.defaults ∧
    ((after.transaction = kernel.transaction ∧ ∃ fault, preparation = .Rejected fault) ∨
      ∃ answer driver, kernel.transaction.prepare K.resolve envelope plan kernel.driver =
      .ok (answer,after.transaction,driver) ∧
        (preparation = answer ∨ ∃ fault, preparation = .Rejected fault)) := by
  cases held : kernel.before_candidate with
  | some point =>
    simp only [CanonicalKernel.prepare,held,isSome_some,if_true,bind,Except.bind] at prepared
    split at prepared
    · cases prepared
    next planned =>
    cases prepared
    exact ⟨rfl,.inr ⟨_,_,planned,.inl rfl⟩⟩
  | none =>
  obtain ⟨fault,_,rfl,rfl⟩ | ⟨point,answer,transaction,driver,_,planned,settled⟩ := prepare_idle_cases held prepared
  · exact ⟨rfl,.inl ⟨rfl,fault,rfl⟩⟩
  unfold settledPlan at settled
  split at settled
  · cases settled
    exact ⟨rfl,.inr ⟨_,_,planned,.inl rfl⟩⟩
  split at settled
  · cases settled
    exact ⟨rfl,.inr ⟨_,_,planned,.inr ⟨_,rfl⟩⟩⟩
  · cases settled
    exact ⟨rfl,.inr ⟨_,_,planned,.inl rfl⟩⟩

/-- A preparation leaves the kernel answering for what was appended. -/
theorem AnswersFor.prepare (trips : K.codec.RoundTrips) (answers : AnswersFor defaults appended kernel)
    {envelope : WireEnvelope}
    {preparation : Preparation K} (prepared : kernel.prepare envelope = .ok (preparation,after)) :
    AnswersFor defaults appended after ∧ ∀ token record step, preparation = .Prepared token record step →
      Behind appended record ∧ MadeFor envelope record := by
  obtain ⟨same,journal,shorter,lives⟩ := answers
  obtain ⟨kept,⟨unmoved,fault,rfl⟩ | ⟨answer,driver,planned,given⟩⟩ := prepare_planned prepared
  · exact ⟨⟨kept.trans same,journal,shorter,unmoved ▸ lives⟩,by rintro _ _ _ ⟨⟩⟩
  obtain ⟨still,staged⟩ := lives.prepare trips planned
  refine ⟨⟨kept.trans same,journal,shorter,still⟩,?_⟩
  rintro token record step rfl
  obtain rfl | ⟨fault,refused⟩ := given
  · obtain ⟨extends_,input,decoded,normalized,named⟩ := staged token record step rfl
    exact ⟨⟨journal,shorter,extends_⟩,named,input,decoded,normalized⟩
  · cases refused

/-- A commit folds the candidate, whose record has been appended. -/
theorem AnswersFor.commit (trips : K.codec.RoundTrips) (journaled : Journaled appended)
    (answers : AnswersFor defaults appended kernel)
    {token : PrepareToken} {appended_head : Digest} {answer : Except KernelFault (CommittedTransition K.codec)}
    (placed : ∀ candidate, kernel.transaction.candidate = some candidate →
    candidate.record.record_digest = appended_head →
      candidate.record ∈ appended)
    (committed : kernel.commit token appended_head = .ok (answer,after)) : AnswersFor defaults appended after := by
  obtain ⟨same,journal,shorter,lives⟩ := answers
  obtain ⟨_,_,refused,rfl⟩ | ⟨_,_,_,folded,rfl⟩ := commit_outcome committed
  · exact ⟨same,journal,shorter,lives.refused refused⟩
  obtain ⟨still,candidate,clean,held,record,digest⟩ := lives.commit trips folded
  rw [← record] at still digest
  have fresh := (lives.standing clean).candidate candidate held
  have extends_ : Extends journal candidate.record := ⟨_,(lives.standing clean).ledgers.head ▸ fresh.follows,fresh.apart⟩
  exact ⟨same,journal ++ [candidate.record],extends_.next journaled shorter (placed candidate held digest),still⟩

section
variable (answers : AnswersFor defaults appended kernel)
include answers

theorem AnswersFor.abort (token : PrepareToken) :
    AnswersFor defaults appended (kernel.abort token).2 := by
  obtain ⟨same,journal,shorter,lives⟩ := answers
  obtain ⟨moved,kept⟩ := abort_transaction kernel token
  exact ⟨kept.trans same,journal,shorter,moved ▸ lives.abort token⟩

theorem AnswersFor.ack (boundary : CheckpointBoundary) :
    AnswersFor defaults appended (kernel.note_checkpoint_acked boundary).2 := by
  obtain ⟨same,journal,shorter,lives⟩ := answers
  exact ⟨same,journal,shorter,lives.ack boundary⟩

theorem AnswersFor.candidate {checkpoint : KernelCheckpoint K}
    (taken : kernel.checkpoint_candidate S = .ok (.ok checkpoint)) :
    ∃ covered, covered <+: appended ∧ Covers defaults checkpoint covered := by
  obtain ⟨_,journal,shorter,lives⟩ := answers
  obtain ⟨clean,head,projection,transition,held,owner,genesis,boundary,_,transited,state⟩ := checkpoint_taken taken
  refine ⟨journal,shorter,kernel.transaction,head,projection.root_kind,projection.focus,lives.standing clean,held,owner,genesis,boundary,?_⟩
  rw [state]
  exact transited

end

/-- What a restore is given: a checkpoint and the records right behind what it covers, or the last records
    of some journal. -/
def Restorable (defaults : ConfigDefaults) (appended : List (KernelRecord K.codec)) :
    Option (KernelCheckpoint K) → List (KernelRecord K.codec) → Prop
  | some checkpoint,records => ∃ covered, covered ++ records <+: appended ∧ Covers defaults checkpoint covered
  | none,records => ∃ journal dropped, journal <+: appended ∧ records = journal.drop dropped

private theorem genesis_of_verify (verified : record.verify_follows none = .ok ()) : record.is_genesis = true := by
  unfold KernelRecord.verify_follows at verified
  simp only [bind,Except.bind] at verified
  split at verified
  · cases verified
  unfold KernelRecord.is_genesis
  cases linked : record.previous_record_digest with
  | none => rfl
  | some digest => simp [linked] at verified

private theorem verify_behind_genesis {journal : List (KernelRecord K.codec)} (journaled : Journaled journal) {dropped : Nat}
    {first : KernelRecord K.codec} {rest : List (KernelRecord K.codec)} (split : first :: rest = journal.drop dropped)
    {digest : Digest} (verified : verify_record_chain (first :: rest) = .ok digest) : dropped = 0 := by
  by_contra some_dropped
  have whole : journal = journal.take dropped ++ first :: rest := by rw [split,take_append_drop]
  obtain ⟨input,follows⟩ := journaled.chained _ _ _ whole
  have bound : dropped < journal.length := by
    by_contra beyond
    rw [drop_eq_nil_of_le (Nat.le_of_not_lt beyond)] at split
    cases split
  cases last : (journal.take dropped).getLast? with
  | none =>
    have none_taken := congrArg length (getLast?_eq_none_iff.mp last)
    rw [length_take,length_nil] at none_taken
    omega
  | some before =>
  have linked := follows.not_genesis before.anchor (by rw [last]; rfl)
  simp only [verify_record_chain,verify_chain_from,bind,Except.bind] at verified
  cases followed : first.verify_follows none with
  | error error => simp [followed] at verified
  | ok _ => rw [genesis_of_verify followed] at linked; cases linked

/-- A restored kernel answers for what was appended. -/
theorem AnswersFor.restore (trips : K.codec.RoundTrips) (journaled : Journaled appended)
    (answers : AnswersFor defaults appended kernel) {checkpoint : Option (KernelCheckpoint K)}
    {records : List (KernelRecord K.codec)}
    (restorable : Restorable defaults appended checkpoint records) {answer : Except KernelFault Unit}
    (restored : kernel.restore S checkpoint records = .ok (answer,after)) : AnswersFor defaults appended after := by
  obtain ⟨_,_,rfl⟩ | ⟨transaction,driver,outcome,rfl⟩ := restore_outcome restored
  · exact answers
  rw [answers.1] at outcome
  refine ⟨answers.1,?_⟩
  cases checkpoint with
  | none =>
    obtain ⟨journal,dropped,shorter,rfl⟩ := restorable
    have replayed := settle_ok outcome
    rw [KernelTransaction.rebuild_from_records_eq] at replayed
    split at replayed
    next nothing =>
      cases replayed
      rw [nothing]
      exact ⟨[],List.nil_prefix,Lives.new defaults⟩
    · cases replayed
    next first rest digest split verified =>
    obtain rfl := verify_behind_genesis (journaled.of_prefix shorter) split.symm (split ▸ verified)
    rw [drop_zero] at split
    have indexed : Indexed (from_records journal) none journal := Indexed.from_records (fun _ member => member) fun _ => .inl
    have folding := Folding.new defaults indexed
    rw [drop_zero] at replayed
    rw [split] at replayed folding shorter
    have chain := journaled.of_prefix shorter
    exact ⟨first :: rest,shorter,(folding.replay_records trips chain _ rfl replayed).lives chain⟩
  | some checkpoint =>
  obtain ⟨covered,shorter,origin,head,root_kind,focus,standing,held,owner,genesis,boundary,transited⟩ := restorable
  obtain ⟨tx,base,_,halves,_,replayed⟩ := restore_from_checkpoint_ok outcome
  have chain := journaled.of_prefix shorter
  have floored : ∀ record ∈ covered ++ records, record ∈ records ∨
      ∃ step_seq, some head.step_seq = some step_seq ∧ record.step_seq ≤ step_seq := by
    intro record member
    obtain below | above := mem_append.mp member
    · exact .inr ⟨_,rfl,standing.ledgers.placed record below head held⟩
    · exact .inl above
  have indexed : Indexed (from_records records) (some head.step_seq) (covered ++ records) :=
    Indexed.from_records (fun record member => mem_append_right covered member) floored
  have folding := Folding.restored standing held owner genesis transited indexed chain fun record member => mem_append_left records member
  simp only [restore_halves,bind,Except.bind,boundary] at halves
  split at halves
  · cases halves
  cases halves
  exact ⟨covered ++ records,shorter,(folding.replay_records trips chain _ rfl replayed).lives chain⟩

end

/-- How many records retention has dropped. -/
def dropped (pruned : Option PrunedAnchor) : Nat := pruned.elim 0 fun anchor => anchor.through_step_seq+1

/-- What the journal retains of all that was appended: the records behind the anchor, which names its own. -/
structure Retained (appended : List (KernelRecord K.codec)) (state : OperationState codec) : Prop where
  records : state.records = appended.drop (dropped state.pruned)
  anchor : ∀ anchor, state.pruned = some anchor → ∃ record, appended[anchor.through_step_seq]? = some record ∧
    record.record_digest = anchor.covered_head

section
variable {appended : List (KernelRecord K.codec)} {state : OperationState codec}

theorem Retained.dropped_le (retained : Retained appended state) : dropped state.pruned ≤ appended.length := by
  cases pruned : state.pruned with
  | none => exact Nat.zero_le _
  | some anchor =>
  obtain ⟨record,held,_⟩ := retained.anchor anchor pruned
  exact (List.getElem?_eq_some_iff.mp held).1

/-- The head is the last record, retained or not. -/
theorem Retained.head (retained : Retained appended state) (journaled : Journaled appended) :
    match state.head with
    | none => appended = []
    | some head => appended.length = head.step_seq+1 := by
  unfold Journal.StoredOperation.head
  rw [retained.records]
  cases last : (appended.drop (dropped state.pruned)).getLast? with
  | some final =>
    have held : appended.getLast? = some final := by
      rw [getLast?_drop] at last
      split at last
      · cases last
      · exact last
    rw [getLast?_eq_getElem?] at held
    have numbered := journaled.numbered held
    have bound := (List.getElem?_eq_some_iff.mp held).1
    simp only [step_seq]
    omega
  | none =>
  have short := drop_eq_nil_iff.mp (getLast?_eq_none_iff.mp last)
  have long := retained.dropped_le
  cases pruned : state.pruned with
  | none =>
    rw [pruned] at short
    exact eq_nil_of_length_eq_zero (Nat.le_zero.mp short)
  | some anchor =>
  rw [pruned] at short long
  exact Nat.le_antisymm short long

theorem Retained.append (retained : Retained appended state) (record : KernelRecord K.codec) :
    Retained (appended ++ [record]) { state with records := state.records ++ [record] } := by
  refine ⟨?_,fun anchor pruned => ?_⟩
  · rw [drop_append_of_le_length retained.dropped_le,← retained.records]
  · obtain ⟨first,held,named⟩ := retained.anchor anchor pruned
    exact ⟨first,by rw [List.getElem?_append_left (List.getElem?_eq_some_iff.mp held).1,held],named⟩

private theorem filter_above {base : Nat} (position : Nat) {records : List (KernelRecord K.codec)}
    (numbered : ∀ (place : Nat) (record : KernelRecord K.codec), records[place]? = some record → record.step_seq = base+place) :
    records.filter (fun record => decide (position < record.step_seq)) = records.drop (position+1-base) := by
  induction records generalizing base with
  | nil => simp
  | cons first rest ih =>
  have here := numbered 0 first rfl
  have later := @ih (base+1) fun place record held => by
    have placed := numbered (place+1) record held
    omega
  by_cases above : position < first.step_seq
  · rw [filter_cons_of_pos (by simpa using above),later]
    have none_below : position+1-(base+1) = 0 := by omega
    have none_here : position+1-base = 0 := by omega
    rw [none_below,none_here,drop_zero,drop_zero]
  · rw [filter_cons_of_neg (by simpa using above),later]
    have one_more : position+1-base = (position+1-(base+1))+1 := by omega
    rw [one_more,drop_succ_cons]

variable {entries : List (KernelRecord K.codec)}

theorem Retained.read_from (retained : Retained appended state) (journaled : Journaled appended) {position : Nat}
    (read : state.read_from position = .ok entries) :
    entries = appended.drop (max (dropped state.pruned) position) := by
  unfold Journal.StoredOperation.read_from at read
  simp only [bind,Except.bind] at read
  split at read
  · cases read
  cases read
  rw [← drop_eq_drop_min]
  rw [retained.records]
  cases first : (appended.drop (dropped state.pruned)).head? with
  | none =>
    have nothing := head?_eq_none_iff.mp first
    have short := drop_eq_nil_iff.mp nothing
    rw [nothing,drop_nil,drop_eq_nil_of_le (by omega)]
  | some record =>
  rw [head?_drop] at first
  have numbered := journaled.numbered first
  simp only [elim_some,step_seq,numbered,drop_drop]
  congr 1
  omega

/-- What a cursor gives: all that is retained, or the records right behind one with the digest. -/
theorem Retained.records_after (retained : Retained appended state) (journaled : Journaled appended)
    {after_head : Option Digest} (read : state.records_after after_head = .ok entries) :
    match after_head with
    | none => entries = appended.drop (dropped state.pruned)
    | some digest => ∃ (place : Nat) (record : KernelRecord K.codec), appended[place]? = some record ∧ record.record_digest = digest ∧
      entries = appended.drop (place+1) := by
  cases after_head with
  | none =>
    have entire : entries = appended.drop (max (dropped state.pruned) 0) := retained.read_from journaled read
    rwa [Nat.max_eq_left (Nat.zero_le _)] at entire
  | some digest =>
  simp only [OperationState.records_after,Journal.StoredOperation.records_after,record_digest,step_seq] at read
  split at read
  next anchor found =>
    have named := find?_some found
    obtain ⟨place,held⟩ := mem_iff_getElem?.mp (mem_of_find?_eq_some found)
    rw [retained.records,getElem?_drop] at held
    have numbered := journaled.numbered held
    refine ⟨_,anchor,held,by simpa using named,?_⟩
    rw [retained.read_from journaled read]
    congr 1
    omega
  next =>
  split at read
  next pruned found =>
    obtain ⟨same,named⟩ := filter_eq_some_iff.mp found
    obtain ⟨record,held,digested⟩ := retained.anchor pruned same
    refine ⟨_,record,held,digested.trans (by simpa using named),?_⟩
    rw [retained.read_from journaled read,same]
    exact congrArg (drop · appended) (Nat.max_self _)
  · cases read

/-- A prune up to a record of the journal drops what lies before it. -/
theorem Retained.prune (retained : Retained appended state) (journaled : Journaled appended)
    (named : ∀ installed ∈ state.checkpoints, ∃ record, appended[installed.through_step_seq]? = some record ∧
      record.record_digest = installed.covered_head) : Retained appended state.prune_acked_prefix.2 := by
  unfold OperationState.prune_acked_prefix
  split
  · exact retained
  next boundary found =>
  have member : boundary ∈ state.checkpoints := mem_reverse.mp (mem_of_find?_eq_some found)
  have numbered : ∀ (place : Nat) (record : KernelRecord K.codec), state.records[place]? = some record →
      record.step_seq = dropped state.pruned+place := by
    intro place record held
    rw [retained.records,getElem?_drop] at held
    exact journaled.numbered held
  have above := filter_above boundary.through_step_seq numbered
  refine ⟨?_,fun anchor same => ?_⟩
  · simp only [Journal.StoredOperation.prune,step_seq]
    rw [above,retained.records,drop_drop]
    congr 1
    split
    next advances =>
      cases pruned : state.pruned with
      | none => simp [dropped]
      | some anchor =>
      simp only [pruned,all_some,decide_eq_true_eq] at advances
      simp only [dropped,elim_some]
      omega
    next stays =>
    cases pruned : state.pruned with
    | none => simp [pruned] at stays
    | some anchor =>
    simp only [pruned,all_some,decide_eq_true_eq] at stays
    simp only [dropped,elim_some]
    omega
  simp only [Journal.StoredOperation.prune] at same
  split at same
  · cases same
    exact named boundary member
  · exact retained.anchor anchor same

end

/-- An installed checkpoint is what its bytes decode to, taken over a prefix of what was appended. -/
structure Stands (defaults : ConfigDefaults) (appended : List (KernelRecord K.codec)) (installed : Installed K) : Prop where
  covers : ∃ covered, covered <+: appended ∧ Covers defaults installed.checkpoint covered
  covered_head : installed.covered_head = installed.checkpoint.boundary.covered_head
  through_step_seq : installed.through_step_seq = installed.checkpoint.boundary.through_step_seq

variable {installed : Installed K} {site : Site codec} {journal : OperationState codec}

theorem Stands.later {defaults : ConfigDefaults} {appended grown : List (KernelRecord K.codec)}
    (stands : Stands defaults appended installed) (grows : appended <+: grown) : Stands defaults grown installed := by
  obtain ⟨⟨covered,shorter,covers⟩,covered_head,through_step_seq⟩ := stands
  exact ⟨⟨covered,shorter.trans grows,covers⟩,covered_head,through_step_seq⟩

theorem Stands.named {defaults : ConfigDefaults} {appended : List (KernelRecord K.codec)}
    (journaled : Journaled appended) (stands : Stands defaults appended installed) :
    ∃ record, appended[installed.through_step_seq]? = some record ∧ record.record_digest = installed.covered_head := by
  obtain ⟨⟨covered,shorter,covers⟩,covered_head,through_step_seq⟩ := stands
  obtain ⟨before,last,rfl,place,digest⟩ := covers.last (journaled.of_prefix shorter)
  obtain ⟨rest,rfl⟩ := shorter
  refine ⟨last,?_,by rw [covered_head,digest]⟩
  rw [through_step_seq,place]
  simp

/-- What every step keeps. -/
structure Upkept (defaults : ConfigDefaults) (site : Site codec) : Prop where
  journaled : Journaled site.appended
  kernels : ∀ owner, AnswersFor defaults site.appended (site.kernels owner)
  retained : Retained site.appended site.journal
  checkpoints : ∀ installed ∈ site.journal.checkpoints, Stands defaults site.appended installed

/-- The records a site knows of: those that were appended, and those its kernels have staged. -/
def AtHand (site : Site codec) (record : KernelRecord K.codec) : Prop :=
  record ∈ site.appended ∨ ∃ owner candidate, (site.kernels owner).transaction.candidate = some candidate ∧ candidate.record = record

/-- No two of them have one digest. -/
def NoCollision (site : Site codec) : Prop :=
  ∀ left right, AtHand site left → AtHand site right → left.record_digest = right.record_digest → left = right

theorem Upkept.empty (codec : HostCodec K) (defaults : ConfigDefaults) :
    Upkept defaults (Site.empty codec defaults) := by
  refine ⟨(Lives.new defaults).journaled,fun _ => AnswersFor.new defaults [],⟨rfl,by rintro _ ⟨⟩⟩,?_⟩
  rintro installed ⟨⟩

theorem Upkept.setKernel {defaults : ConfigDefaults} (upkept : Upkept defaults site) {owner : Nat}
    {kernel : CanonicalKernel K} (answers : AnswersFor defaults site.appended kernel) :
    Upkept defaults (site.setKernel owner kernel) := by
  refine ⟨upkept.journaled,fun other => ?_,upkept.retained,upkept.checkpoints⟩
  unfold Site.setKernel
  dsimp only
  split
  · exact answers
  · exact upkept.kernels other

theorem Upkept.setJournal {defaults : ConfigDefaults} (upkept : Upkept defaults site)
    (retained : Retained site.appended journal)
    (checkpoints : ∀ installed ∈ journal.checkpoints, Stands defaults site.appended installed) :
    Upkept defaults { site with journal } := ⟨upkept.journaled,upkept.kernels,retained,checkpoints⟩

/-- An append that the journal takes extends all that was appended: the head it checks is the last of it. -/
theorem Upkept.append {defaults : ConfigDefaults} (upkept : Upkept defaults site) {record : KernelRecord K.codec}
    (behind : Behind site.appended record) {receipt : JournalAppendReceipt}
    (appended : site.journal.compare_and_append record.previous_record_digest record = .ok (receipt,journal)) :
    Upkept defaults { site with journal, appended := site.appended ++ [record] } := by
  obtain ⟨before,shorter,extends_⟩ := behind
  have placed := extends_.numbered (upkept.journaled.of_prefix shorter)
  have last := upkept.retained.head upkept.journaled
  simp only [OperationState.compare_and_append,bind,Except.bind] at appended
  split at appended
  · cases appended
  split at appended
  · cases appended
  next checked =>
  cases appended
  have whole : before = site.appended := by
    refine shorter.eq_of_length ?_
    unfold check_append_precondition at checked
    split at checked
    · cases checked
    next none_held =>
      rw [none_held] at last
      rw [last] at shorter ⊢
      simp [prefix_nil.mp shorter]
    · cases checked
    next expected head _ held =>
    rw [held] at last
    split at checked
    · cases checked
    split at checked
    · cases checked
    next follows =>
    have follows : record.step_seq = head.step_seq+1 := not_not.mp follows
    rw [← placed,follows]
    exact last.symm
  subst whole
  obtain ⟨input,follows,apart⟩ := extends_
  have grows : site.appended <+: site.appended ++ [record] := prefix_append _ _
  exact ⟨upkept.journaled.snoc follows apart,fun owner => (upkept.kernels owner).later grows,upkept.retained.append record,
    fun installed member => (upkept.checkpoints installed member).later grows⟩

end Deepstrike.CanonicalHost

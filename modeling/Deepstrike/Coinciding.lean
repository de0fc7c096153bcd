import Deepstrike.Agreeing

/-!
Whole histories of both journals. Every directory that no other operation shares represents the state of its
operation, a call on it answers alike, and no other operation notices.
-/
namespace Deepstrike.Journal
open Segments InMemoryKernelJournal

/-- No other operation with the same segment has a state. -/
def Apart (memory : InMemoryKernelJournal) (operation_id : String) : Prop :=
  ∀ other, other ≠ operation_id → safe_segment other = safe_segment operation_id → memory.state other = .empty

/-- What is looked up by a digest or an id is there once at most, and there is an ordinal left. -/
def Unambiguous (state : OperationState) : KernelJournalCall → Prop
  | .RecordsAfter (some after_head) => (state.records.countP fun entry => entry.record_digest = after_head) ≤ 1
  | .CompareAndInstallCheckpoint _ _ _ => state.checkpoints.length < MAX_CHAIN_POSITION
  | .AckCheckpoint checkpoint_id => (state.checkpoints.countP fun installed => installed.checkpoint_id = checkpoint_id) ≤ 1
  | _ => True

instance (state : OperationState) : (call : KernelJournalCall) → Decidable (Unambiguous state call)
  | .RecordsAfter (some after_head) => inferInstanceAs (Decidable ((state.records.countP fun entry => entry.record_digest = after_head) ≤ 1))
  | .CompareAndInstallCheckpoint _ _ _ => inferInstanceAs (Decidable (state.checkpoints.length < MAX_CHAIN_POSITION))
  | .AckCheckpoint checkpoint_id =>
    inferInstanceAs (Decidable ((state.checkpoints.countP fun installed => installed.checkpoint_id = checkpoint_id) ≤ 1))
  | .RecordsAfter none | .StageOutboundEnvelope _ | .ReadOutboundEnvelope | .ClearOutboundEnvelope | .CompareAndAppend _ _ | .Head | .ReadFrom _
  | .LatestCheckpoint | .PruneAckedPrefix => isTrue trivial

/-- Every call is one of these, in the state it finds in memory. -/
def Tells : List (String × KernelJournalCall) → InMemoryKernelJournal → Prop
  | [],_ => True
  | (operation_id,call) :: rest,memory =>
    Apart memory operation_id ∧ Unambiguous (memory.state operation_id) call ∧ Tells rest (memory.call operation_id call).2

/-- Only the state of this operation has changed, to this one. -/
def Puts (memory after : InMemoryKernelJournal) (operation_id : String) (state : OperationState) : Prop :=
  ∀ other, after.state other = if other = operation_id then state else memory.state other

structure Agree (memory : InMemoryKernelJournal) (files : FileKernelJournal) : Prop where
  sound : ∀ operation_id, Sound (memory.state operation_id)
  represents : ∀ operation_id, Apart memory operation_id → Represents (files.opened operation_id).root (memory.state operation_id)
  outbound : ∀ operation_id, Apart memory operation_id →
    (files.opened operation_id).outbound_envelope = (memory.state operation_id).outbound_envelope
  known : ∀ operation_id, (memory.state operation_id).head = none → files.known_heads operation_id = none

section
variable {memory : InMemoryKernelJournal} {files : FileKernelJournal} {operation_id : String}

theorem state_insert (state : OperationState) : Puts memory (memory.insert operation_id state) operation_id state := by
  intro other
  unfold InMemoryKernelJournal.state InMemoryKernelJournal.insert
  split <;> rfl

private theorem puts_same : Puts memory memory operation_id (memory.state operation_id) := by
  intro other
  split
  next same => rw [same]
  next => rfl

private theorem puts_entry : Puts memory (memory.insert operation_id (memory.state operation_id)) operation_id (memory.state operation_id) :=
  state_insert _

theorem Agree.new : Agree .new .new :=
  ⟨fun _ => .empty,fun _ _ => ⟨fun _ => rfl,fun _ => rfl,fun _ => rfl,rfl,by rintro head ⟨⟩⟩,fun _ _ => rfl,fun _ _ => rfl⟩

section
variable {directory : OperationDir}

variable {other : String}

private theorem opened_shared (same : safe_segment other = safe_segment operation_id) :
    (files.closed operation_id directory).opened other =
      { directory with root := directory.root.remember 0 ((files.closed operation_id directory).known_heads other) } := by
  unfold FileKernelJournal.opened
  have here : (files.closed operation_id directory).directories (safe_segment other) = directory := if_pos same
  rw [here]

private theorem opened_apart (apart : safe_segment other ≠ safe_segment operation_id) :
    (files.closed operation_id directory).opened other = files.opened other := by
  unfold FileKernelJournal.opened
  have there : (files.closed operation_id directory).directories (safe_segment other) = files.directories (safe_segment other) := if_neg apart
  have named : other ≠ operation_id := fun same => apart (congrArg safe_segment same)
  have kept : (files.closed operation_id directory).known_heads other = files.known_heads other := if_neg named
  rw [there,kept]

/-- What a call on an operation of its own leaves behind. -/
theorem Agree.closed (agree : Agree memory files) (apart : Apart memory operation_id) {after : InMemoryKernelJournal}
    {state : OperationState}
    (puts : Puts memory after operation_id state) (sound : Sound state) (shown : Represents directory.root state)
    (outbound : directory.outbound_envelope = state.outbound_envelope) :
    Agree after (files.closed operation_id directory) := by
  have known : ∀ other, (after.state other).head = none → (files.closed operation_id directory).known_heads other = none := by
    intro other headless
    show (if other = operation_id then directory.root.known_heads 0 else files.known_heads other) = none
    rw [puts] at headless
    split at headless
    next same =>
      rw [if_pos same]
      cases seen : directory.root.known_heads 0 with
      | none => rfl
      | some head => cases headless.symm.trans (shown.known head seen)
    next other_named =>
    rw [if_neg other_named]
    exact agree.known other headless
  -- another operation of the segment has no state, so there is none here either
  have shared : ∀ other, Apart after other → safe_segment other = safe_segment operation_id → after.state other = state := by
    intro other alone same
    rw [puts]
    split
    next => rfl
    next other_named =>
    have nothing := alone operation_id (Ne.symm other_named) same.symm
    rw [puts,if_pos rfl] at nothing
    rw [nothing,apart other other_named same]
  have unshared : ∀ other, Apart after other → safe_segment other ≠ safe_segment operation_id →
      Apart memory other ∧ after.state other = memory.state other := by
    intro other alone differs
    have named : other ≠ operation_id := fun same => differs (congrArg safe_segment same)
    refine ⟨fun third third_named same => ?_,by rw [puts,if_neg named]⟩
    have nothing := alone third third_named same
    rwa [puts,if_neg fun here => differs (same.symm.trans (congrArg safe_segment here))] at nothing
  refine ⟨fun other => ?_,fun other alone => ?_,fun other alone => ?_,known⟩
  · rw [puts]
    split
    · exact sound
    · exact agree.sound other
  · by_cases same : safe_segment other = safe_segment operation_id
    · rw [opened_shared same,shared other alone same]
      refine shown.remember fun head seen => ?_
      have held : (after.state other).head ≠ none := fun headless => by
        rw [known other headless] at seen
        cases seen
      by_cases named : other = operation_id
      · subst named
        rw [show (files.closed other directory).known_heads other = directory.root.known_heads 0 from if_pos rfl] at seen
        exact shown.known head seen
      · have nothing := apart other named same
        rw [puts,if_neg named,nothing] at held
        exact absurd rfl held
    · obtain ⟨before,kept⟩ := unshared other alone same
      rw [opened_apart same,kept]
      exact agree.represents other before
  by_cases same : safe_segment other = safe_segment operation_id
  · rw [opened_shared same,shared other alone same]
    exact outbound
  · obtain ⟨before,kept⟩ := unshared other alone same
    rw [opened_apart same,kept]
    exact agree.outbound other before

end

variable {program : Journaled KernelJournalAnswer} {result : Except JournalError KernelJournalAnswer}

theorem Agree.run (agree : Agree memory files) (apart : Apart memory operation_id) {state : OperationState}
    (answers : Answers program (memory.state operation_id) result state)
    (sound : Sound state) (outbound : state.outbound_envelope = (memory.state operation_id).outbound_envelope)
    {after : InMemoryKernelJournal}
    (puts : Puts memory after operation_id state) :
    ∃ later, files.run operation_id program = some (result,later) ∧ Agree after later := by
  obtain ⟨root,done,shown⟩ := answers (files.opened operation_id).root (agree.represents operation_id apart)
  refine ⟨files.closed operation_id { files.opened operation_id with root },?_,agree.closed apart puts sound shown ?_⟩
  · unfold FileKernelJournal.run
    simp only [done,Option.map_some]
  · exact (agree.outbound operation_id apart).trans outbound.symm

theorem Agree.look (agree : Agree memory files) (apart : Apart memory operation_id)
    (answers : Answers program (memory.state operation_id) result (memory.state operation_id)) :
    ∃ later, files.run operation_id program = some (result,later) ∧ Agree memory later :=
  agree.run apart answers (agree.sound operation_id) rfl puts_same

theorem answers_map {α : Type} {program : Journaled α} {wrap : α → KernelJournalAnswer}
    {result : Except JournalError α} {state after : OperationState}
    (answers : Answers program state result after) :
    Answers (do return wrap (← program)) state (result.map wrap) after := by
  cases result with
  | ok value => exact .bind answers (.value _)
  | error error => exact .bind_error answers

/-! What is absent in memory is as what is empty. -/

private theorem outbound_state : read_outbound_envelope memory operation_id = (memory.state operation_id).outbound_envelope := by
  unfold read_outbound_envelope state
  cases memory operation_id <;> rfl

private theorem clear_state : Puts memory (memory.clear_outbound_envelope operation_id) operation_id
    { memory.state operation_id with outbound_envelope := none } := by
  unfold clear_outbound_envelope
  cases held : memory operation_id with
  | some state =>
    have same : memory.state operation_id = state := by rw [InMemoryKernelJournal.state,held]; rfl
    rw [same]
    exact state_insert _
  | none =>
  have same : memory.state operation_id = .empty := by rw [state,held]; rfl
  intro other
  rw [same]
  by_cases here : other = operation_id
  · rw [if_pos here,here]
    exact same
  · rw [if_neg here]

private theorem head_state : head memory operation_id = (memory.state operation_id).head := by
  unfold head state
  cases memory operation_id <;> rfl

private theorem read_from_state (from_step_seq : Nat) :
    read_from memory operation_id from_step_seq = (memory.state operation_id).read_from from_step_seq := by
  unfold read_from state
  cases memory operation_id with
  | some state => rfl
  | none =>
  show _ = StoredOperation.empty.read_from from_step_seq
  unfold StoredOperation.read_from
  simp only [StoredOperation.empty,List.drop_nil]
  rfl

private theorem records_after_state (after_head : String) :
    records_after memory operation_id (some after_head) = (memory.state operation_id).records_after after_head := by
  unfold records_after state
  cases memory operation_id <;> rfl

private theorem latest_state : latest_checkpoint memory operation_id = (memory.state operation_id).checkpoints.getLast? := by
  unfold latest_checkpoint state
  cases memory operation_id <;> rfl

private theorem ack_state (checkpoint_id : String) :
    match OperationState.acknowledge checkpoint_id (memory.state operation_id).checkpoints with
    | none => ack_checkpoint memory operation_id checkpoint_id =
        (.error (.Integrity "cannot acknowledge an uninstalled checkpoint"),memory)
    | some (found,checkpoints) => ack_checkpoint memory operation_id checkpoint_id =
        (.ok found,memory.insert operation_id { memory.state operation_id with checkpoints }) := by
  unfold ack_checkpoint state
  cases memory operation_id with
  | none => rfl
  | some state =>
  simp only [Option.getD_some]
  cases OperationState.acknowledge checkpoint_id state.checkpoints <;> rfl

private theorem prune_state :
    match (memory.state operation_id).checkpoints.reverse.find? fun installed => installed.acknowledged with
    | none => prune_acked_prefix memory operation_id =
        (⟨(memory.state operation_id).pruned.map PrunedAnchor.through_step_seq,0⟩,memory)
    | some boundary => prune_acked_prefix memory operation_id =
        (⟨((memory.state operation_id).prune boundary).pruned.map PrunedAnchor.through_step_seq,
          (memory.state operation_id).records.length-((memory.state operation_id).prune boundary).records.length⟩,
          memory.insert operation_id ((memory.state operation_id).prune boundary)) := by
  unfold prune_acked_prefix state
  cases memory operation_id with
  | none => rfl
  | some state =>
  simp only [Option.getD_some]
  cases state.checkpoints.reverse.find? fun installed => installed.acknowledged <;> rfl

/-- One call: both answer alike, and agree again behind it. -/
theorem Agree.call (agree : Agree memory files) (apart : Apart memory operation_id) (call : KernelJournalCall)
    (unambiguous : Unambiguous (memory.state operation_id) call) :
    ∃ later, files.call operation_id call = some ((memory.call operation_id call).1,later) ∧
    Agree (memory.call operation_id call).2 later := by
  have sound := agree.sound operation_id
  have shown := agree.represents operation_id apart
  cases call with
  | StageOutboundEnvelope envelope_json =>
    exact ⟨_,rfl,agree.closed apart (state_insert _) ⟨sound.placed,sound.bounded,sound.ordinals,sound.counted,sound.covered⟩
      ⟨shown.records,shown.checkpoints,shown.acks,shown.pruned,shown.known⟩ rfl⟩
  | ReadOutboundEnvelope =>
    refine ⟨files,?_,agree⟩
    simp only [FileKernelJournal.call,InMemoryKernelJournal.call,agree.outbound operation_id apart,outbound_state]
  | ClearOutboundEnvelope =>
    exact ⟨_,rfl,agree.closed apart clear_state ⟨sound.placed,sound.bounded,sound.ordinals,sound.counted,sound.covered⟩
      ⟨shown.records,shown.checkpoints,shown.acks,shown.pruned,shown.known⟩ rfl⟩
  | CompareAndAppend expected_head record =>
    simp only [FileKernelJournal.call,InMemoryKernelJournal.call,InMemoryKernelJournal.compare_and_append]
    cases valid : validate_record record with
    | error error => exact agree.look apart (answers_map (append_invalid expected_head record valid))
    | ok _ =>
    cases checked : check_append_precondition (memory.state operation_id).head expected_head record with
    | error error =>
      exact agree.run apart (answers_map (append_refused sound expected_head record valid checked)) sound rfl puts_entry
    | ok _ =>
    exact agree.run apart (answers_map (append_answers sound expected_head record valid checked))
      (sound.append valid (sound.next checked)) rfl (state_insert _)
  | Head =>
    simp only [FileKernelJournal.call,InMemoryKernelJournal.call,head_state]
    exact agree.look apart (answers_map (head_answers sound))
  | ReadFrom from_step_seq =>
    simp only [FileKernelJournal.call,InMemoryKernelJournal.call,read_from_state]
    exact agree.look apart (answers_map (read_from_answers sound from_step_seq))
  | RecordsAfter after_head =>
    cases after_head with
    | none =>
      simp only [FileKernelJournal.call,InMemoryKernelJournal.call,InMemoryKernelJournal.records_after,read_from_state]
      exact agree.look apart (answers_map (read_from_answers sound 0))
    | some after_head =>
    simp only [FileKernelJournal.call,InMemoryKernelJournal.call,records_after_state]
    exact agree.look apart (answers_map (records_after_answers sound after_head unambiguous))
  | CompareAndInstallCheckpoint previous_checkpoint_id covered_head checkpoint =>
    simp only [FileKernelJournal.call,InMemoryKernelJournal.call,InMemoryKernelJournal.compare_and_install_checkpoint]
    cases valid : validate_candidate checkpoint with
    | error error => exact agree.look apart (answers_map (install_invalid previous_checkpoint_id covered_head checkpoint valid))
    | ok _ =>
    cases checked : check_checkpoint_precondition (memory.state operation_id).checkpoints.getLast? previous_checkpoint_id checkpoint with
    | error error =>
      exact agree.run apart (answers_map (install_refused previous_checkpoint_id covered_head checkpoint sound valid checked)) sound rfl puts_entry
    | ok _ =>
    have answers := install_answers previous_checkpoint_id covered_head checkpoint sound valid checked
    cases verified : verify_covered_head ((memory.state operation_id).records.find? fun entry => entry.step_seq = checkpoint.through_step_seq)
        (memory.state operation_id).pruned covered_head checkpoint.through_step_seq with
    | error error =>
      rw [verified] at answers
      exact agree.run apart (answers_map answers) sound rfl puts_entry
    | ok _ =>
    rw [verified] at answers
    exact agree.run apart (answers_map answers) (sound.install previous_checkpoint_id unambiguous verified) rfl (state_insert _)
  | LatestCheckpoint =>
    simp only [FileKernelJournal.call,InMemoryKernelJournal.call,latest_state]
    exact agree.look apart (answers_map (latest_checkpoint_answers sound))
  | AckCheckpoint checkpoint_id =>
    have answers := ack_answers sound checkpoint_id unambiguous
    have acked := @ack_state memory operation_id checkpoint_id
    cases found : OperationState.acknowledge checkpoint_id (memory.state operation_id).checkpoints with
    | none =>
      rw [found] at answers acked
      simp only [FileKernelJournal.call,InMemoryKernelJournal.call,acked]
      exact agree.look apart (answers_map answers)
    | some outcome =>
    rw [found] at answers acked
    simp only [FileKernelJournal.call,InMemoryKernelJournal.call,acked]
    exact agree.run apart (answers_map answers.1) answers.2 rfl (state_insert _)
  | PruneAckedPrefix =>
  have answers := prune_answers sound
  have pruned := @prune_state memory operation_id
  cases found : (memory.state operation_id).checkpoints.reverse.find? fun installed => installed.acknowledged with
  | none =>
    rw [found] at answers pruned
    simp only [FileKernelJournal.call,InMemoryKernelJournal.call,pruned]
    exact agree.look apart (.bind answers (.value _))
  | some boundary =>
  rw [found] at answers pruned
  simp only [FileKernelJournal.call,InMemoryKernelJournal.call,pruned]
  exact agree.run apart (.bind answers.1 (.value _)) answers.2 rfl (state_insert _)

theorem Agree.answers {calls : List (String × KernelJournalCall)} {memory : InMemoryKernelJournal}
    {files : FileKernelJournal}
    (agree : Agree memory files) (tells : Tells calls memory) : files.answers calls = some (memory.answers calls) := by
  induction calls generalizing memory files with
  | nil => rfl
  | cons first rest ih =>
  obtain ⟨operation_id,call⟩ := first
  obtain ⟨apart,unambiguous,later_tells⟩ := tells
  obtain ⟨later,done,kept⟩ := agree.call apart call unambiguous
  simp only [FileKernelJournal.answers,done,Option.bind_eq_bind,Option.bind_some,ih kept later_tells]
  rfl

/-- Over every history in which no call looks up what is there twice, shares a segment or runs out of ordinals, the two
    journals answer alike. -/
theorem journals_agree (calls : List (String × KernelJournalCall)) (tells : Tells calls .new) :
    FileKernelJournal.new.answers calls = some (new.answers calls) :=
  Agree.new.answers tells

/-- No other operation notices a call. -/
theorem call_frame (call : KernelJournalCall) {other : String} (named : other ≠ operation_id) :
    (memory.call operation_id call).2.state other = memory.state other := by
  have inserted (state : OperationState) : (memory.insert operation_id state).state other = memory.state other :=
    (state_insert state other).trans (if_neg named)
  cases call with
  | StageOutboundEnvelope envelope_json => exact inserted _
  | ReadOutboundEnvelope => rfl
  | ClearOutboundEnvelope => exact (clear_state other).trans (if_neg named)
  | CompareAndAppend expected_head record =>
    simp only [call,compare_and_append]
    split
    · rfl
    split
    · exact inserted _
    · exact inserted _
  | Head => rfl
  | ReadFrom from_step_seq => rfl
  | RecordsAfter after_head => rfl
  | CompareAndInstallCheckpoint previous_checkpoint_id covered_head checkpoint =>
    simp only [call,compare_and_install_checkpoint]
    split
    · rfl
    split
    · exact inserted _
    split
    · exact inserted _
    · exact inserted _
  | LatestCheckpoint => rfl
  | AckCheckpoint checkpoint_id =>
    simp only [call,ack_checkpoint]
    split
    · rfl
    split
    · rfl
    · exact inserted _
  | PruneAckedPrefix =>
  simp only [call, prune_acked_prefix]
  split
  · rfl
  split
  · rfl
  · exact inserted _

end

/-- A record, a checkpoint over it, its acknowledgement, and retention. -/
theorem journals_agree_reclaiming :
    let calls := [.CompareAndAppend none ⟨0,"first",[1]⟩,.CompareAndAppend (some "first") ⟨1,"second",[2]⟩,
      .CompareAndInstallCheckpoint none "first" ⟨"checkpoint",0,"state",[3]⟩,.AckCheckpoint
      "checkpoint",.PruneAckedPrefix,.RecordsAfter (some "first")]
    FileKernelJournal.new.answers (calls.map fun call => ("run-1",call)) = some (new.answers (calls.map fun call => ("run-1",call))) := by
  refine journals_agree _ ⟨fun _ _ _ => rfl,trivial,?_,trivial,?_,by decide,?_,by decide,?_,trivial,?_,by decide,trivial⟩
  all_goals
    intro other named _
    simp only [call_frame _ named]
    rfl

/-- The same checkpoint installed twice: memory acknowledges the first, and the files the second. -/
theorem journals_differ :
    ¬∀ calls : List (String × KernelJournalCall),
      (FileKernelJournal.new.answers calls).map (List.map (Except.mapError JournalError.is_retryable)) =
        some ((new.answers calls).map (Except.mapError JournalError.is_retryable)) := by
  intro same
  have differs := same [("run-1",.CompareAndAppend none ⟨0,"first",[1]⟩),
    ("run-1",.CompareAndInstallCheckpoint none "first" ⟨"checkpoint",0,"state",[3]⟩),
    ("run-1",.CompareAndInstallCheckpoint (some "checkpoint") "first" ⟨"checkpoint",0,"state",[3]⟩),("run-1",.AckCheckpoint "checkpoint")]
  revert differs
  decide +kernel

end Deepstrike.Journal

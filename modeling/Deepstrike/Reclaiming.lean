import Deepstrike.Accounting
import Deepstrike.Draining
import Deepstrike.Scalars
import Mathlib.Data.List.TakeWhile

/-!
The checkpoint boundary of a host: install, acknowledge, tell the kernel, reclaim. The kernel takes a
boundary only while it counts the record it names, so a checkpoint behind which nothing was placed
is the last that succeeds at its head.
-/
namespace Deepstrike.Transaction.KernelTransaction
open Wire Record List Option

variable {Step : Type} {C : Codec Step}

private theorem checkpoint_boundary_eq (tx : KernelTransaction C) (head : ChainAnchor) (held : tx.head = some head) :
    tx.checkpoint_boundary = some ⟨head.step_seq,head.record_digest⟩ := by
  rw [checkpoint_boundary,held]
  rfl

/-- A tail ends at the head: its last entry is the head's, and none lies beyond. -/
structure TailEnds (tx : KernelTransaction C) : Prop where
  within : ∀ entry ∈ tx.tail, ∃ boundary, tx.checkpoint_boundary = some boundary ∧ entry.step_seq ≤ boundary.through_step_seq
  last : ∀ entry ∈ tx.tail.getLast?, tx.checkpoint_boundary = some ⟨entry.step_seq,entry.record_digest⟩

variable {tx : KernelTransaction C}

theorem TailEnds.of_empty (empty : tx.tail = []) : TailEnds tx :=
  ⟨by simp [empty],by simp [empty]⟩

variable {after : KernelTransaction C}

theorem TailEnds.of_same (tailed : TailEnds tx) (head : after.head = tx.head) (tail : after.tail = tx.tail) :
    TailEnds after := by
  have boundary : after.checkpoint_boundary = tx.checkpoint_boundary := by rw [checkpoint_boundary,checkpoint_boundary,head]
  refine ⟨?_,?_⟩
  · rw [tail,boundary]
    exact tailed.within
  · rw [tail,boundary]
    exact tailed.last

theorem TailEnds.ack {tx : KernelTransaction C} (tailed : TailEnds tx) (boundary : CheckpointBoundary) :
    TailEnds (tx.note_checkpoint_acked boundary).2 := by
  unfold note_checkpoint_acked
  split
  · exact tailed
  split
  · have suffix := dropWhile_suffix (l := tx.tail) fun entry => decide (entry.step_seq ≤ boundary.through_step_seq)
    refine ⟨fun entry member => tailed.within entry (suffix.subset member),fun entry member => tailed.last entry ?_⟩
    obtain ⟨front,whole⟩ := suffix
    have member : (tx.tail.dropWhile fun entry => decide (entry.step_seq ≤ boundary.through_step_seq)).getLast? = some entry := member
    rw [mem_def,← whole,getLast?_append,member]
    rfl
  · exact tailed

/-- At the head a clean transaction takes the boundary exactly while it counts a record, and counts none then. -/
theorem TailEnds.ack_head (tailed : TailEnds tx) (clean : tx.poison = none) {boundary : CheckpointBoundary}
    (held : tx.checkpoint_boundary = some boundary) :
    tx.note_checkpoint_acked boundary =
      if tx.tail = [] then
        (.error ⟨.CheckpointIncompatible,
        s!"no tail record at step {boundary.through_step_seq} has digest {boundary.covered_head}; this checkpoint does not cover a prefix of this journal"⟩,tx)
      else (.ok ⟨0,0⟩,{ tx with tail := [] }) := by
  have all_covered : tx.tail.dropWhile (fun entry => decide (entry.step_seq ≤ boundary.through_step_seq)) = [] := by
    refine dropWhile_eq_nil_iff.mpr fun entry member => ?_
    obtain ⟨other,same,bound⟩ := tailed.within entry member
    cases held.symm.trans same
    exact decide_eq_true bound
  unfold note_checkpoint_acked
  simp only [clean,all_covered]
  cases last : tx.tail.getLast? with
  | none =>
    have empty := getLast?_eq_none_iff.mp last
    simp [empty]
  | some entry =>
  have same := held.symm.trans (tailed.last entry last)
  cases same
  have named : (tx.tail.any fun other => other.step_seq == entry.step_seq && other.record_digest == entry.record_digest) = true :=
    any_eq_true.mpr ⟨entry,mem_of_getLast? last,by simp⟩
  have counted : tx.tail ≠ [] := by
    rintro empty
    simp [empty] at last
  simp only [named,if_true,counted,if_false]
  rfl

variable [TransitionStep Step]

theorem TailEnds.folded {record : KernelRecord C} {step : Step} {input : NormalizedInput} {record_bytes : Nat}
    (tailed : TailEnds tx) (follows : Follows tx.head input record)
    (facts : FoldedTo record step input record_bytes tx after) : TailEnds after := by
  have boundary : after.checkpoint_boundary = some ⟨record.step_seq,record.record_digest⟩ := checkpoint_boundary_eq after record.anchor facts.head
  refine ⟨fun entry member => ⟨_,boundary,?_⟩,fun entry member => ?_⟩
  · rw [facts.tail] at member
    obtain older | own := mem_append.mp member
    · obtain ⟨earlier,named,bound⟩ := tailed.within entry older
      obtain ⟨head,held,rfl⟩ := map_eq_some_iff.mp named
      exact Nat.le_of_lt (Nat.lt_of_le_of_lt bound (follows.later head held))
    · rw [mem_singleton.mp own]
  · rw [facts.tail,mem_def,getLast?_append,getLast?_singleton,some_or] at member
    cases member
    exact boundary

theorem TailEnds.commit {tx : KernelTransaction C} {token : PrepareToken} {appended_head : Digest}
    {answer : Except KernelFault (CommittedTransition C)} (tailed : TailEnds tx)
    (staged : tx.poison = none → ∀ candidate, tx.candidate = some candidate →
    Follows tx.head candidate.input candidate.record)
    (committed : tx.commit token appended_head = (answer,after)) : TailEnds after := by
  cases answer with
  | error fault =>
    obtain rfl | ⟨head,tail,_⟩ := commit_refused_head_tail committed
    · exact tailed
    · exact tailed.of_same head tail
  | ok transition =>
  obtain ⟨_,same,_⟩ | ⟨candidate,clean,held,_,_,folded,_⟩ := commit_cases committed
  · cases same
  · have idle : TailEnds { tx with candidate := none } := tailed.of_same rfl rfl
    exact idle.folded (staged clean candidate held) (foldRecord_ok folded)

private theorem TailEnds.replay {D : Type} {plan : Planner D Step} {relabel : RecordError → KernelFault} {records : List (KernelRecord C)}
    {state state' : D} (tailed : TailEnds tx)
    (replayed : replay_records plan relabel tx records state = .ok after state') : TailEnds after := by
  refine replay_records_invariant (fun tx _ => TailEnds tx) ?_ tailed replayed
  intro tx after input expected state state' tailed stepped
  obtain ⟨_,_,_,record,_,_,_,_,chained,_,folded⟩ := replay_committed_ok stepped
  exact tailed.folded (chain_after_follows chained) (foldRecord_ok folded)

end Deepstrike.Transaction.KernelTransaction

namespace Deepstrike.CanonicalHost
open Wire Record Transaction Driver Kernel Interleaving List OperationState KernelTransaction Option
open Site hiding journal answered
open Scalars (validate_id)
open Transaction.KernelTransaction (Journaled TailEnds)
open Journal (JournalError JournalHead validate_candidate check_checkpoint_precondition verify_covered_head)
open PlainParts (plainDefaults plainStates plain_round_trips)

variable {K : Parts} {codec : HostCodec K} {S : StateCodec K} {defaults : ConfigDefaults}

section
variable {appended : List (KernelRecord K.codec)} {kernel after : CanonicalKernel K}

private theorem prepare_head_tail {envelope : WireEnvelope} {preparation : Preparation K}
    (prepared : kernel.prepare envelope = .ok (preparation,after)) :
    after.transaction.head = kernel.transaction.head ∧ after.transaction.tail = kernel.transaction.tail := by
  obtain ⟨_,⟨same,_⟩ | ⟨answer,driver,planned,_⟩⟩ := prepare_planned prepared
  · exact same ▸ ⟨rfl,rfl⟩
  · obtain ⟨_,same⟩ | ⟨_,_,_,_,_,_,staging,_⟩ := prepare_cases planned
    · exact same ▸ ⟨rfl,rfl⟩
    · obtain ⟨_,_,same⟩ := stage_cases staging
      exact (Prod.mk.inj same).2 ▸ ⟨rfl,rfl⟩

private theorem commit_tailed {token : PrepareToken} {appended_head : Digest} {answer : Except KernelFault (CommittedTransition K.codec)}
    (answers : AnswersFor defaults appended kernel) (tailed : TailEnds kernel.transaction)
    (committed : kernel.commit token appended_head = .ok (answer,after)) : TailEnds after.transaction := by
  obtain ⟨_,journal,_,lives⟩ := answers
  have staged : kernel.transaction.poison = none → ∀ candidate, kernel.transaction.candidate = some candidate →
      Follows kernel.transaction.head candidate.input candidate.record :=
    fun clean candidate held => ((lives.standing clean).candidate candidate held).follows
  obtain ⟨_,_,refused,rfl⟩ | ⟨_,_,_,folded,rfl⟩ := commit_outcome committed
  · exact tailed.commit staged refused
  · exact tailed.commit staged folded

private theorem abort_tailed (tailed : TailEnds kernel.transaction) (token : PrepareToken) : TailEnds (kernel.abort token).2.transaction := by
  rw [(abort_transaction kernel token).1]
  obtain ⟨_,same⟩ | ⟨_,_,_,_,same⟩ := abort_cases kernel.transaction token
  · rw [same]
    exact tailed
  · rw [same]
    exact tailed.of_same rfl rfl

private theorem restore_tailed {checkpoint : Option (KernelCheckpoint K)} {records : List (KernelRecord K.codec)} {answer : Except KernelFault Unit}
    (tailed : TailEnds kernel.transaction) (restored : kernel.restore S checkpoint records = .ok (answer,after)) : TailEnds after.transaction := by
  obtain ⟨_,_,rfl⟩ | ⟨transaction,driver,outcome,rfl⟩ := restore_outcome restored
  · exact tailed
  cases checkpoint with
  | none =>
    have replayed := settle_ok outcome
    rw [rebuild_from_records_eq] at replayed
    split at replayed
    · cases replayed
      exact TailEnds.of_empty rfl
    · cases replayed
    · exact (TailEnds.of_empty rfl).replay replayed
  | some checkpoint =>
  obtain ⟨tx,base,_,halves,_,replayed⟩ := restore_from_checkpoint_ok outcome
  simp only [restore_halves,bind,Except.bind] at halves
  split at halves
  · cases halves
  cases halves
  exact (TailEnds.of_empty rfl).replay replayed

end

/-- No step of any call leaves a kernel whose tail does not end at its head. -/
theorem exec_tailed {site after : Site codec} {id owner : Nat} {op : HostOp codec} {works : Bool}
    {answer : HostAnswer op}
    (upkept : Upkept defaults site) (tailed : ∀ owner, TailEnds (site.kernels owner).transaction)
    (done : site.exec S id owner op works = some (answer,after)) :
    ∀ owner, TailEnds (after.kernels owner).transaction := by
  have placed (kernel : CanonicalKernel K) (own : TailEnds kernel.transaction) :
      ∀ other, TailEnds ((site.setKernel owner kernel).kernels other).transaction := by
    intro other
    unfold setKernel
    dsimp only
    split
    · exact own
    · exact tailed other
  cases op with
  | Prepare envelope =>
    obtain ⟨kernel,prepared,rfl⟩ := answered_cases done
    obtain ⟨head,tail⟩ := prepare_head_tail prepared
    exact placed kernel ((tailed owner).of_same head tail)
  | Commit token appended_head =>
    obtain ⟨kernel,committed,rfl⟩ := answered_cases done
    exact placed kernel (commit_tailed (upkept.kernels owner) (tailed owner) committed)
  | Abort token =>
    have done : site.answered owner (.ok ((site.kernels owner).abort token)) = some (answer,after) := done
    obtain ⟨kernel,aborted,rfl⟩ := answered_cases done
    have kept := abort_tailed (tailed owner) token
    rw [Except.ok.inj aborted] at kept
    exact placed kernel kept
  | CheckpointCandidate =>
    obtain ⟨kernel,taken,rfl⟩ := answered_cases done
    cases outcome : (site.kernels owner).checkpoint_candidate S with
    | error panicked => simp [outcome,Except.map] at taken
    | ok candidate =>
    simp only [outcome,Except.map,Except.ok.injEq,Prod.mk.injEq] at taken
    exact placed kernel (taken.2 ▸ tailed owner)
  | NoteCheckpointAcked boundary =>
    have done : site.answered owner (.ok ((site.kernels owner).note_checkpoint_acked boundary)) = some (answer,after) := done
    obtain ⟨kernel,acked,rfl⟩ := answered_cases done
    have kept : TailEnds ((site.kernels owner).note_checkpoint_acked boundary).2.transaction := (tailed owner).ack boundary
    rw [Except.ok.inj acked] at kept
    exact placed kernel kept
  | RestoreBytes checkpoint records =>
    obtain ⟨kernel,restored,rfl⟩ := answered_cases done
    exact placed kernel (restore_tailed (tailed owner) restored)
  | StageOutboundEnvelope | ReadOutboundEnvelope | ClearOutboundEnvelope | LatestCheckpoint | PruneAckedPrefix =>
    obtain ⟨rfl,_⟩ | ⟨_,same,_⟩ := stored_cases done
    · exact tailed
    · cases same
      exact tailed
  | CompareAndAppend | RecordsAfter | CompareAndInstallCheckpoint | AckCheckpoint =>
  obtain ⟨rfl,_⟩ | ⟨_,same,_⟩ := stored_cases done
  · exact tailed
  · obtain ⟨_,_,same⟩ := except_map_ok same
    cases same
    exact tailed

/-- The states of the hosts of one operation over an empty journal, whatever calls are made, fail, interleave and
    crash, with no collision of digests. -/
abbrev HostsReached (codec : HostCodec K) (S : StateCodec K) (defaults : ConfigDefaults) (operation_id : OperationId)
    (machine : Hosts codec) : Prop :=
  Machine.Reached (hosts codec S defaults) (answerTo operation_id) (fun site _ => NoCollision site) (empty codec defaults) machine

private theorem tailed_new (site : Site codec) (tailed : ∀ owner, TailEnds (site.kernels owner).transaction) (owner : Nat) :
    ∀ other, TailEnds ((site.setKernel owner (.new K defaults)).kernels other).transaction := by
  intro other
  unfold setKernel
  dsimp only
  split
  · exact TailEnds.of_empty rfl
  · exact tailed other

variable {machine : Hosts codec} {checkpoint : KernelCheckpoint K} {installed : Installed K} {head : JournalHead}

/-- What is known in every state of the hosts, and of every call. -/
theorem HostsReached.sound (trips : K.codec.RoundTrips) {operation_id : OperationId}
    (reached : HostsReached codec S defaults operation_id machine) :
    Machine.Sound (custody codec defaults) (hosts codec S defaults)
    (fun _ request => Yields (answersTruly request)) machine ∧
      ∀ owner, TailEnds (machine.shared.kernels owner).transaction := by
  induction reached with
  | start => exact ⟨⟨Upkept.empty codec defaults,by rintro _ _ ⟨⟩,fun _ _ => rfl⟩,fun _ => TailEnds.of_empty rfl⟩
  | @step machine _ action abides kept =>
  obtain ⟨sound,tailed⟩ := kept
  refine ⟨sound.step action abides (fun id owner request state upkept _ => answerTo_runs trips upkept operation_id request) ?_,?_⟩
  · exact fun owner state upkept id => ⟨upkept.setKernel (AnswersFor.new defaults state.appended),prefix_refl _,rfl⟩
  cases action with
  | Begin owner request => exact tailed
  | Drop id => exact tailed
  | Crash owner => exact tailed_new machine.shared tailed owner
  | Move id works =>
  unfold Machine.step
  dsimp only
  split
  next call found =>
    unfold Machine.move
    split
    · exact tailed
    · exact tailed
    next op next running =>
      split
      next answer after done => exact exec_tailed sound.inv tailed done
      next => exact tailed
    · exact tailed
    · exact tailed
  next => exact tailed

theorem HostsReached.kept (trips : K.codec.RoundTrips) {operation_id : OperationId}
    (reached : HostsReached codec S defaults operation_id machine) :
    Upkept defaults machine.shared ∧ ∀ owner, TailEnds (machine.shared.kernels owner).transaction :=
  (reached.sound trips).imp_left Machine.Sound.inv

/-! A checkpoint with no other call in between. -/

section
variable (S) (id owner : Nat) (site : Site codec)

/-- The calls of a host on storage that works. -/
def execAlone (op : HostOp codec) (site : Site codec) : Option (HostAnswer op × Site codec) := exec S id owner op true site

/-- `checkpoint` with the mint of its token: an illegal token stops the process. -/
def checkpoint_alone : Option (Except HostTransitionError (Installed K) × Site codec) :=
  match (site.kernels owner).checkpoint_candidate S with
  | .ok (.ok candidate) =>
    if (validate_id "checkpoint ack token" (codec.ack_token candidate)).isOk then
    checkpoint_typed.alone (execAlone S id owner) site else none
  | _ => checkpoint_typed.alone (execAlone S id owner) site

/-- What the journal makes of a candidate behind its latest checkpoint. -/
def installed_next (checkpoint : KernelCheckpoint K) : Except JournalError (Installed K × OperationState codec) :=
  site.journal.compare_and_install_checkpoint (site.journal.latest_checkpoint.map fun installed => installed.checkpoint_id)
    checkpoint.boundary.covered_head checkpoint

end

private theorem setKernel_self (site : Site codec) (owner : Nat) : site.setKernel owner (site.kernels owner) = site := by
  have same : (fun other => if other = owner then site.kernels owner else site.kernels other) = site.kernels := by
    funext other
    split
    next own => rw [own]
    next => rfl
  unfold setKernel
  rw [same]

/-- Behind the latest checkpoint an install loses no race. -/
theorem installed_next_error {site : Site codec} {error : JournalError}
    (refused : installed_next site checkpoint = .error error) : error.is_retryable = false := by
  simp only [installed_next,compare_and_install_checkpoint,bind,Except.bind] at refused
  split at refused
  next invalid =>
    cases refused
    unfold validate_candidate at invalid
    split at invalid
    · cases invalid
      rfl
    split at invalid
    · cases invalid
      rfl
    split at invalid
    · cases invalid
      rfl
    · cases invalid
  split at refused
  next unmet =>
    cases refused
    unfold check_checkpoint_precondition at unmet
    cases latest : site.journal.latest_checkpoint with
    | none =>
      simp only [latest,map_none] at unmet
      cases unmet
    | some latest =>
    simp only [latest,map_some,ne_eq,not_true_eq_false,if_false] at unmet
    split at unmet
    · cases unmet
      rfl
    · cases unmet
  split at refused
  next uncovered =>
    cases refused
    unfold verify_covered_head at uncovered
    split at uncovered
    · split at uncovered
      · cases uncovered
        rfl
      · cases uncovered
    · split at uncovered
      · cases uncovered
      · cases uncovered
        rfl
  · cases refused

section
variable {α β : Type} {exec : (op : HostOp codec) → Site codec → Option (HostAnswer op × Site codec)} {site : Site codec}

theorem alone_call {op : HostOp codec} {rest : HostAnswer op → Hosted codec α} :
    (call op >>= rest).alone exec site = (exec op site).bind fun (answer,site) => (rest answer).alone exec site := rfl

end

private theorem exec_alone_install (id owner : Nat) (site : Site codec) (checkpoint : KernelCheckpoint K) :
    execAlone S id owner (.CompareAndInstallCheckpoint (site.journal.latest_checkpoint.map fun installed => installed.checkpoint_id)
      checkpoint.boundary.covered_head checkpoint) site =
      some (site.stored true ((installed_next site checkpoint).map fun (installed,journal) => (installed,{ site with journal }))) := rfl

private theorem exec_alone_ack (id owner : Nat) (site : Site codec) (checkpoint_id : String) :
    execAlone S id owner (.AckCheckpoint checkpoint_id) site =
      some (site.stored true ((site.journal.ack_checkpoint checkpoint_id).map fun (installed,marked) =>
        (installed,{ site with journal := marked }))) := rfl

/-- The steps of a checkpoint that is taken: the install, the first mark with its id, the kernel, retention. -/
theorem checkpoint_alone_eq {id owner : Nat} {site : Site codec}
    (taken : (site.kernels owner).checkpoint_candidate S = .ok (.ok checkpoint))
    (legal : (validate_id "checkpoint ack token" (codec.ack_token checkpoint)).isOk = true) :
    checkpoint_alone S id owner site =
      match installed_next site checkpoint with
      | .error error => some (.error (.Journal (.Journal error)),site)
      | .ok (installed,journal) =>
        match journal.ack_checkpoint installed.checkpoint_id with
        | .error error => some (.error (.Journal (.Journal error)),{ site with journal })
        | .ok (_,journal) =>
          match (site.kernels owner).note_checkpoint_acked checkpoint.boundary with
          | (.error fault,kernel) => some (.error (.Rejected fault),{ site with journal }.setKernel owner kernel)
          | (.ok _,kernel) => some (.ok { installed with acknowledged := true },
              { site.setKernel owner kernel with journal := journal.prune_acked_prefix.2 }) := by
  have first : execAlone S id owner .CheckpointCandidate site = some (.ok checkpoint,site) := by
    simp only [execAlone,exec,taken,Except.map,Site.answered,setKernel_self]
  simp only [checkpoint_alone,taken,legal,if_true]
  refine alone_call.trans ?_
  rw [first,bind_some]
  refine Eq.trans (b := Program.alone (execAlone S id owner) (call .LatestCheckpoint >>= fun latest => durable latest >>= _) site) rfl ?_
  refine Eq.trans (b := Program.alone (execAlone S id owner) (call (.CompareAndInstallCheckpoint
    (site.journal.latest_checkpoint.map fun installed => installed.checkpoint_id) checkpoint.boundary.covered_head checkpoint) >>= _) site) rfl ?_
  refine alone_call.trans ?_
  rw [exec_alone_install]
  cases outcome : installed_next site checkpoint with
  | error error =>
    have final := installed_next_error outcome
    simp only [Except.map,stored,bind_some,installed_or_won,StoreError.is_retryable,final,Bool.false_eq_true,if_false]
    rfl
  | ok placed =>
  obtain ⟨installed,journal⟩ := placed
  simp only [Except.map,stored,bind_some,installed_or_won]
  show (execAlone S id owner (.AckCheckpoint installed.checkpoint_id) { site with journal }).bind _ = _
  rw [exec_alone_ack]
  cases acked : journal.ack_checkpoint installed.checkpoint_id with
  | error error => rfl
  | ok marked =>
  obtain ⟨found,marked⟩ := marked
  simp only [Except.map,stored,bind_some]
  refine Eq.trans (b := Program.alone (execAlone S id owner) (call (.NoteCheckpointAcked checkpoint.boundary) >>= _)
    { site with journal := marked }) rfl ?_
  refine alone_call.trans ?_
  have fifth : execAlone S id owner (.NoteCheckpointAcked checkpoint.boundary) { site with journal := marked } =
      some (((site.kernels owner).note_checkpoint_acked checkpoint.boundary).1,
        { site with journal := marked }.setKernel owner ((site.kernels owner).note_checkpoint_acked checkpoint.boundary).2) := rfl
  rw [fifth]
  rcases noted : (site.kernels owner).note_checkpoint_acked checkpoint.boundary with ⟨fault | usage,kernel⟩
  · rfl
  · rfl

/-- A checkpoint that ends well was taken, and its token is legal. -/
theorem checkpoint_alone_taken {id owner : Nat} {site after : Site codec}
    (done : checkpoint_alone S id owner site = some (.ok installed,after)) :
    ∃ checkpoint, (site.kernels owner).checkpoint_candidate S = .ok (.ok checkpoint) ∧
    (validate_id "checkpoint ack token" (codec.ack_token checkpoint)).isOk = true := by
  cases taken : (site.kernels owner).checkpoint_candidate S with
  | error panicked =>
    have first : execAlone S id owner .CheckpointCandidate site = none := by
      simp only [execAlone,exec,taken,Except.map,Site.answered]
    have stuck : checkpoint_alone S id owner site = none := by
      simp only [checkpoint_alone,taken]
      exact alone_call.trans (by rw [first]; rfl)
    cases stuck.symm.trans done
  | ok candidate =>
  cases candidate with
  | error fault =>
    have first : execAlone S id owner .CheckpointCandidate site = some (.error fault,site) := by
      simp only [execAlone,exec,taken,Except.map,Site.answered,setKernel_self]
    have refused : checkpoint_alone S id owner site = some (.error (.Rejected fault),site) := by
      simp only [checkpoint_alone,taken]
      exact alone_call.trans (by rw [first]; rfl)
    cases refused.symm.trans done
  | ok checkpoint =>
  refine ⟨checkpoint,rfl,?_⟩
  by_contra illegal
  simp only [checkpoint_alone,taken,if_neg illegal] at done
  cases done

variable (checkpoints : List (Installed K))

private theorem acknowledge_none {checkpoint_id : String} :
    acknowledge checkpoint_id checkpoints = none ↔ ∀ installed ∈ checkpoints, installed.checkpoint_id ≠ checkpoint_id := by
  induction checkpoints with
  | nil => simp [acknowledge]
  | cons first rest ih =>
  by_cases named : first.checkpoint_id = checkpoint_id
  · simp [acknowledge,named]
  · simp [acknowledge,named,ih]

private theorem acknowledge_last (last : Installed K) :
    acknowledge last.checkpoint_id (checkpoints ++ [last]) =
      match acknowledge last.checkpoint_id checkpoints with
      | some (found,marked) => some (found,marked ++ [last])
      | none => some ({ last with acknowledged := true },checkpoints ++ [{ last with acknowledged := true }]) := by
  induction checkpoints with
  | nil => simp [acknowledge]
  | cons first rest ih =>
  rw [cons_append]
  unfold acknowledge
  split
  · rfl
  · rw [ih]
    cases acknowledge last.checkpoint_id rest <;> rfl

private theorem installed_next_ok {site : Site codec} {journal : OperationState codec}
    (placed : installed_next site checkpoint = .ok (installed,journal)) :
    validate_candidate (codec.candidate checkpoint) = .ok () ∧ installed.checkpoint_id = codec.ack_token checkpoint ∧
      installed.covered_head = checkpoint.boundary.covered_head ∧ installed.through_step_seq = checkpoint.boundary.through_step_seq ∧
      installed.acknowledged = false ∧ journal = { site.journal with checkpoints := site.journal.checkpoints ++ [installed] } := by
  simp only [installed_next,compare_and_install_checkpoint,bind,Except.bind] at placed
  split at placed
  · cases placed
  next valid =>
  split at placed
  · cases placed
  split at placed
  · cases placed
  cases placed
  exact ⟨valid,rfl,rfl,rfl,rfl,rfl⟩

private theorem Retained.head_last {appended : List (KernelRecord K.codec)} {state : OperationState codec} (retained : Retained appended state)
    (journaled : Journaled appended) : state.head = appended.getLast?.map fun last => ⟨last.step_seq,last.record_digest⟩ := by
  have long := retained.dropped_le
  unfold Journal.StoredOperation.head
  rw [retained.records,getLast?_drop]
  by_cases short : appended.length ≤ dropped state.pruned
  · rw [if_pos short]
    cases pruned : state.pruned with
    | none =>
      rw [pruned] at short
      rw [eq_nil_of_length_eq_zero (Nat.le_zero.mp short)]
      rfl
    | some anchor =>
    obtain ⟨record,held,named⟩ := retained.anchor anchor pruned
    have ends : appended.length = anchor.through_step_seq+1 := by
      rw [pruned] at short long
      exact Nat.le_antisymm short long
    rw [getLast?_eq_getElem?,ends,Nat.add_sub_cancel,held]
    simp only [map_some,← named,journaled.numbered held]
  rw [if_neg short]
  cases final : appended.getLast? with
  | none =>
    rw [getLast?_eq_none_iff.mp final] at short
    exact absurd (Nat.zero_le _) short
  | some last => rfl

/-- A candidate at the head is installed behind the latest checkpoint. -/
theorem installed_next_head {site : Site codec} (upkept : Upkept defaults site)
    (valid : validate_candidate (codec.candidate checkpoint) = .ok ())
    (current : site.journal.head = some ⟨checkpoint.boundary.through_step_seq,checkpoint.boundary.covered_head⟩) :
    ∃ installed journal, installed_next site checkpoint = .ok (installed,journal) := by
  obtain ⟨last,final,same⟩ := map_eq_some_iff.mp ((upkept.retained.head_last upkept.journaled).symm.trans current)
  obtain ⟨place,digest⟩ := JournalHead.mk.inj same
  have numbered : last.step_seq = site.appended.length-1 := by
    rw [getLast?_eq_getElem?] at final
    exact upkept.journaled.numbered final
  have advances : check_checkpoint_precondition (site.journal.latest_checkpoint.map Installed.toInstalledCheckpoint)
      (site.journal.latest_checkpoint.map fun installed => installed.checkpoint_id) (codec.candidate checkpoint) = .ok () := by
    unfold check_checkpoint_precondition
    cases listed : site.journal.latest_checkpoint with
    | none => rfl
    | some latest =>
    obtain ⟨record,held,_⟩ := (upkept.checkpoints latest (mem_of_getLast? listed)).named upkept.journaled
    have bound := (List.getElem?_eq_some_iff.mp held).1
    have within : ¬(codec.candidate checkpoint).through_step_seq < latest.through_step_seq := by
      show ¬checkpoint.boundary.through_step_seq < latest.through_step_seq
      omega
    simp only [map_some,ne_eq,not_true_eq_false,if_false,within]
  have covered : verify_covered_head
      ((site.journal.records.find? fun entry => entry.step_seq = (codec.candidate checkpoint).through_step_seq).map codec.entry)
      site.journal.pruned checkpoint.boundary.covered_head (codec.candidate checkpoint).through_step_seq = .ok () := by
    unfold verify_covered_head
    cases found : site.journal.records.find? fun entry => entry.step_seq = (codec.candidate checkpoint).through_step_seq with
    | some record =>
      have placed : record.step_seq = checkpoint.boundary.through_step_seq := by
        have chosen := find?_some found
        exact of_decide_eq_true chosen
      have member := mem_of_find?_eq_some found
      rw [upkept.retained.records] at member
      obtain ⟨position,held⟩ := mem_iff_getElem?.mp (drop_subset _ _ member)
      have here := upkept.journaled.numbered held
      rw [getLast?_eq_getElem?,← numbered,place,← placed,here,held] at final
      cases final
      simp [HostCodec.entry,digest]
    | none =>
    have dropped_all : site.appended.length ≤ dropped site.journal.pruned := by
      by_contra more
      have retains : last ∈ site.journal.records := by
        refine mem_of_getLast? ?_
        rw [upkept.retained.records,getLast?_drop,if_neg more,final]
      have absent := find?_eq_none.mp found last retains
      exact absent (decide_eq_true place)
    have long := upkept.retained.dropped_le
    cases pruned : site.journal.pruned with
    | none =>
      rw [pruned] at dropped_all
      rw [eq_nil_of_length_eq_zero (Nat.le_zero.mp dropped_all)] at final
      cases final
    | some anchor =>
    obtain ⟨record,held,named⟩ := upkept.retained.anchor anchor pruned
    have ends : site.appended.length = anchor.through_step_seq+1 := by
      rw [pruned] at dropped_all long
      exact Nat.le_antisymm dropped_all long
    have here : anchor.through_step_seq = checkpoint.boundary.through_step_seq := by omega
    rw [getLast?_eq_getElem?,ends,Nat.add_sub_cancel,held] at final
    cases final
    have same : anchor = ⟨checkpoint.boundary.through_step_seq,checkpoint.boundary.covered_head⟩ := by
      rw [← here,← digest,named]
    exact if_pos (congrArg some same)
  simp only [installed_next,compare_and_install_checkpoint,bind,Except.bind,valid,advances,covered]
  exact ⟨_,_,rfl⟩

theorem Upkept.placed {site : Site codec} (upkept : Upkept defaults site) (held : site.journal.head = some head)
    {record : KernelRecord K.codec} (member : record ∈ site.appended) : record.step_seq ≤ head.step_seq := by
  obtain ⟨position,listed⟩ := List.mem_iff_getElem?.mp member
  have bound := (List.getElem?_eq_some_iff.mp listed).1
  have ends := upkept.retained.head upkept.journaled
  rw [held] at ends
  have ends : site.appended.length = head.step_seq+1 := ends
  rw [upkept.journaled.numbered listed]
  omega

/-- The checkpoints behind an install and the mark of its id. -/
def marked (checkpoints : List (Installed K)) (installed : Installed K) : List (Installed K) :=
  match acknowledge installed.checkpoint_id checkpoints with
  | some (_,marked) => marked ++ [installed]
  | none => checkpoints ++ [{ installed with acknowledged := true }]

/-- What a checkpoint that is taken to its end leaves. -/
def reclaimed (owner : Nat) (site : Site codec) (installed : Installed K) : Site codec :=
  { site.setKernel owner { site.kernels owner with transaction := { (site.kernels owner).transaction with tail := [] } } with
    journal := (OperationState.prune_acked_prefix { site.journal with checkpoints := marked site.journal.checkpoints installed }).2 }

section
variable {id owner : Nat} {site : Site codec}

private theorem checkpoint_alone_idle (empty : (site.kernels owner).transaction.tail = []) (installed : Installed K) (after : Site codec) :
    checkpoint_alone S id owner site ≠ some (.ok installed,after) := by
  intro done
  obtain ⟨checkpoint,taken,legal⟩ := checkpoint_alone_taken done
  obtain ⟨clean,head,_,_,held,_,_,boundary,_⟩ := checkpoint_taken taken
  have refused := (TailEnds.of_empty empty).ack_head clean ((checkpoint_boundary_eq _ head held).trans (congrArg some boundary.symm))
  rw [if_pos empty] at refused
  rw [checkpoint_alone_eq taken legal] at done
  split at done
  · cases done
  split at done
  · cases done
  simp only [CanonicalKernel.note_checkpoint_acked,refused] at done
  cases done

/-- A kernel that counts one ends the checkpoint it takes wherever the journal installs it. -/
theorem checkpoint_alone_counted (tailed : TailEnds (site.kernels owner).transaction)
    (counted : (site.kernels owner).transaction.tail ≠ [])
    {checkpoint : KernelCheckpoint K} (taken : (site.kernels owner).checkpoint_candidate S = .ok (.ok checkpoint))
    (legal : (validate_id "checkpoint ack token" (codec.ack_token checkpoint)).isOk = true) {installed : Installed K}
    {journal : OperationState codec}
    (placed : installed_next site checkpoint = .ok (installed,journal)) :
    checkpoint_alone S id owner site =
    some (.ok { installed with acknowledged := true },reclaimed owner site installed) := by
  obtain ⟨clean,head,_,_,held,_,_,boundary,_⟩ := checkpoint_taken taken
  have noted := tailed.ack_head clean ((checkpoint_boundary_eq _ head held).trans (congrArg some boundary.symm))
  rw [if_neg counted] at noted
  obtain ⟨_,_,_,_,_,rfl⟩ := installed_next_ok placed
  have acked : ∃ found, ack_checkpoint { site.journal with checkpoints := site.journal.checkpoints ++ [installed] }
      installed.checkpoint_id = .ok (found,{ site.journal with checkpoints := marked site.journal.checkpoints installed }) := by
    simp only [ack_checkpoint,acknowledge_last,marked]
    cases acknowledge installed.checkpoint_id site.journal.checkpoints with
    | none => exact ⟨_,rfl⟩
    | some found => exact ⟨_,rfl⟩
  obtain ⟨found,acked⟩ := acked
  rw [checkpoint_alone_eq taken legal,placed]
  simp only [acked,CanonicalKernel.note_checkpoint_acked,noted]
  rfl

private theorem checkpoint_alone_ok {after : Site codec} {answer : Installed K} (tailed : TailEnds (site.kernels owner).transaction)
    (done : checkpoint_alone S id owner site = some (.ok answer,after)) :
    ∃ checkpoint installed journal, (site.kernels owner).checkpoint_candidate S = .ok (.ok checkpoint) ∧
      (validate_id "checkpoint ack token" (codec.ack_token checkpoint)).isOk = true ∧ installed_next site checkpoint = .ok (installed,journal) ∧
      (site.kernels owner).transaction.tail ≠ [] ∧ after = reclaimed owner site installed := by
  obtain ⟨checkpoint,taken,legal⟩ := checkpoint_alone_taken done
  have counted : (site.kernels owner).transaction.tail ≠ [] := fun empty => checkpoint_alone_idle empty answer after done
  cases placed : installed_next site checkpoint with
  | error error =>
    rw [checkpoint_alone_eq taken legal,placed] at done
    cases done
  | ok outcome =>
  obtain ⟨installed,journal⟩ := outcome
  rw [checkpoint_alone_counted tailed counted taken legal placed] at done
  cases done
  exact ⟨checkpoint,installed,journal,taken,legal,placed,counted,rfl⟩

end

/-- What a checkpoint at the head leaves: the latest is acknowledged and covers the head, the journal retains the records
    above it, and the kernel counts none. -/
structure AtHead (after : Site codec) (owner : Nat) : Prop where
  latest : ∃ latest, after.journal.latest_checkpoint = some latest ∧ latest.acknowledged = true ∧
    after.journal.head = some ⟨latest.through_step_seq,latest.covered_head⟩ ∧
    after.journal.records = after.appended.filter fun record => decide (latest.through_step_seq < record.step_seq)
  tail : (after.kernels owner).transaction.tail = []

/-- A checkpoint with no other call in between succeeds and leaves this. -/
def Checkpoints (S : StateCodec K) (id owner : Nat) (site : Site codec) : Prop :=
  ∃ installed after, checkpoint_alone S id owner site = some (.ok installed,after) ∧ AtHead after owner

/-- The kernel takes a candidate with a legal, new token at the head of the journal, and counts a record. -/
structure Reclaimable (S : StateCodec K) (owner : Nat) (site : Site codec) : Prop where
  candidate : ∃ checkpoint, (site.kernels owner).checkpoint_candidate S = .ok (.ok checkpoint) ∧
    (validate_id "checkpoint ack token" (codec.ack_token checkpoint)).isOk = true ∧
    validate_candidate (codec.candidate checkpoint) = .ok () ∧
    ∀ installed ∈ site.journal.checkpoints, installed.checkpoint_id ≠ codec.ack_token checkpoint
  current : site.journal.head = (site.kernels owner).transaction.head.map fun head => ⟨head.step_seq,head.record_digest⟩
  counted : (site.kernels owner).transaction.tail ≠ []

private theorem marked_stands {appended : List (KernelRecord K.codec)} {checkpoints : List (Installed K)}
    (before : ∀ earlier ∈ checkpoints, Stands defaults appended earlier) (stands : Stands defaults appended installed) :
    ∀ earlier ∈ marked checkpoints installed, Stands defaults appended earlier := by
  intro earlier member
  unfold marked at member
  split at member
  next acked =>
    obtain among | last := mem_append.mp member
    · exact acknowledge_stands checkpoints acked before earlier among
    · exact mem_singleton.mp last ▸ stands
  next =>
  obtain among | last := mem_append.mp member
  · exact before earlier among
  · rw [mem_singleton.mp last]
    exact ⟨stands.covers,stands.covered_head,stands.through_step_seq⟩

private theorem reclaimed_head {owner : Nat} {site : Site codec} (upkept : Upkept defaults site)
    (stands : Stands defaults site.appended installed) : (reclaimed owner site installed).journal.head = site.journal.head := by
  have same : Retained site.appended { site.journal with checkpoints := marked site.journal.checkpoints installed } :=
    ⟨upkept.retained.records,upkept.retained.anchor⟩
  have kept := same.prune upkept.journaled fun earlier member => (marked_stands upkept.checkpoints stands earlier member).named upkept.journaled
  exact (kept.head_last upkept.journaled).trans (upkept.retained.head_last upkept.journaled).symm

private theorem marked_last (unmarked : installed.acknowledged = false) :
    ∃ latest, (marked checkpoints installed).getLast? = some latest ∧ latest.through_step_seq = installed.through_step_seq ∧
      latest.covered_head = installed.covered_head ∧
      (latest.acknowledged = true ↔ ∀ earlier ∈ checkpoints, earlier.checkpoint_id ≠ installed.checkpoint_id) := by
  rw [← acknowledge_none]
  unfold marked
  cases acknowledge installed.checkpoint_id checkpoints with
  | none => exact ⟨_,getLast?_concat,rfl,rfl,by simp⟩
  | some found => exact ⟨_,getLast?_concat,rfl,rfl,by simp [unmarked]⟩

private theorem reclaimed_latest {owner : Nat} {site : Site codec} :
    (reclaimed owner site installed).journal.latest_checkpoint = (marked site.journal.checkpoints installed).getLast? :=
  congrArg getLast? (prune_checkpoints { site.journal with checkpoints := marked site.journal.checkpoints installed })

private theorem reclaimed_tail {owner : Nat} {site : Site codec} :
    ((reclaimed owner site installed).kernels owner).transaction.tail = [] := by
  simp [reclaimed,setKernel]

private theorem reclaimed_records {owner : Nat} {site : Site codec} (upkept : Upkept defaults site) {latest : Installed K}
    (listed : (marked site.journal.checkpoints installed).getLast? = some latest)
    (acknowledged : latest.acknowledged = true) (held : site.journal.head = some head)
    (through : latest.through_step_seq = head.step_seq) :
    (reclaimed owner site installed).journal.records = [] := by
  obtain ⟨before,whole⟩ := getLast?_eq_some_iff.mp listed
  have found : ((marked site.journal.checkpoints installed).reverse.find? fun installed => installed.acknowledged) = some latest := by
    simp [whole,acknowledged]
  simp only [reclaimed,OperationState.prune_acked_prefix,found,Journal.StoredOperation.prune,Journal.ChainEntry.step_seq]
  refine filter_eq_nil_iff.mpr fun record member => ?_
  rw [upkept.retained.records] at member
  have within := upkept.placed held (drop_subset _ _ member)
  simp only [decide_eq_true_eq]
  omega

/-- It is a run of the machine in which no other call moves. -/
theorem checkpoint_moves (operation_id : OperationId) {owner : Nat} {result : Except HostTransitionError (Installed K)}
    {after : Site codec} (done : checkpoint_alone S machine.calls.length owner machine.shared = some (result,after)) :
    ∃ moves, ((List.replicate moves (Action.Move machine.calls.length true)).foldl
      (Machine.step (hosts codec S defaults) (answerTo operation_id))
      (Machine.step (hosts codec S defaults) (answerTo operation_id) machine (.Begin owner .Checkpoint))).shared =
      after := by
  have ran : checkpoint_typed.alone (execAlone S machine.calls.length owner) machine.shared = some (result,after) := by
    unfold checkpoint_alone at done
    split at done
    · split at done
      · exact done
      · cases done
    · exact done
  have answered : (answerTo operation_id .Checkpoint).alone (execAlone S machine.calls.length owner) machine.shared =
      some (result.map .Checkpointed,after) := by
    show (checkpoint_typed >>= fun installed => pure (HostResponse.Checkpointed installed)).alone _ _ = _
    rw [Program.alone_bind,ran]
    cases result <;> rfl
  have begun : (Machine.step (hosts codec S defaults) (answerTo operation_id) machine (.Begin owner .Checkpoint)).calls[machine.calls.length]? =
      some ⟨owner,.Checkpoint,.Running (answerTo operation_id .Checkpoint)⟩ := getElem?_concat_length
  have moved : ∃ moves, (replicate moves (Action.Move machine.calls.length true)).foldl
      (Machine.step (hosts codec S defaults) (answerTo operation_id))
      (Machine.step (hosts codec S defaults) (answerTo operation_id) machine (.Begin owner .Checkpoint)) = ⟨after,_⟩ :=
    Machine.moves_alone _ begun rfl answered
  obtain ⟨moves,ended⟩ := moved
  exact ⟨moves,by rw [ended]⟩

/-- A checkpoint succeeds and leaves the journal and the kernel at the head exactly where the kernel takes a new candidate
    at the head of the journal and counts a record. It leaves none counted, so the next one fails. -/
theorem checkpoint_reclaims (trips : K.codec.RoundTrips) {operation_id : OperationId} {machine : Hosts codec}
    (reached : HostsReached codec S defaults operation_id machine) (id owner : Nat) :
    (Checkpoints S id owner machine.shared ↔ Reclaimable S owner machine.shared) ∧
      ∀ installed after, checkpoint_alone S id owner machine.shared = some (.ok installed,after) →
        ∀ id again later, checkpoint_alone S id owner after ≠ some (.ok again,later) := by
  obtain ⟨upkept,tailed⟩ := reached.kept trips
  refine ⟨⟨?_,?_⟩,?_⟩
  · rintro ⟨answer,after,done,⟨latest,listed,acknowledged,at_head,_⟩,_⟩
    obtain ⟨checkpoint,installed,journal,taken,legal,placed,counted,rfl⟩ := checkpoint_alone_ok (tailed owner) done
    obtain ⟨valid,named,covered,through,unmarked,_⟩ := installed_next_ok placed
    obtain ⟨clean,head,_,_,held,_,_,boundary,_⟩ := checkpoint_taken taken
    obtain ⟨last,ends,place,digest,once⟩ := marked_last machine.shared.journal.checkpoints unmarked
    cases (reclaimed_latest.symm.trans listed).symm.trans ends
    have stands := (installed_stands ((upkept.kernels owner).candidate taken) placed).1
    refine ⟨⟨checkpoint,taken,legal,valid,named ▸ once.mp acknowledged⟩,?_,counted⟩
    rw [← reclaimed_head upkept stands,at_head,held,place,digest,through,covered,boundary]
    rfl
  · rintro ⟨⟨checkpoint,taken,legal,valid,fresh⟩,current,counted⟩
    obtain ⟨clean,head,_,_,held,_,_,boundary,_⟩ := checkpoint_taken taken
    have at_head : machine.shared.journal.head = some ⟨checkpoint.boundary.through_step_seq,checkpoint.boundary.covered_head⟩ := by
      rw [current,held,boundary]
      rfl
    obtain ⟨installed,journal,placed⟩ := installed_next_head upkept valid at_head
    obtain ⟨_,named,covered,through,unmarked,_⟩ := installed_next_ok placed
    obtain ⟨last,ends,place,digest,once⟩ := marked_last machine.shared.journal.checkpoints unmarked
    have acknowledged := once.mpr (named ▸ fresh)
    have stands := (installed_stands ((upkept.kernels owner).candidate taken) placed).1
    refine ⟨_,_,checkpoint_alone_counted (tailed owner) counted taken legal placed,⟨last,reclaimed_latest.trans ends,acknowledged,?_,?_⟩,
      reclaimed_tail⟩
    · rw [reclaimed_head upkept stands,at_head,place,digest,through,covered]
    rw [reclaimed_records upkept ends acknowledged at_head (place.trans through)]
    refine (filter_eq_nil_iff.mpr fun record member => ?_).symm
    have within : record.step_seq ≤ checkpoint.boundary.through_step_seq := upkept.placed at_head member
    simp only [decide_eq_true_eq,place,through]
    omega
  · intro installed after done
    obtain ⟨_,_,_,_,_,_,_,rfl⟩ := checkpoint_alone_ok (tailed owner) done
    exact fun id => checkpoint_alone_idle reclaimed_tail

/-- A configuration that runs to its end, and a checkpoint behind it that does. -/
def committing : List (Action HostRequest Bool) := .Begin 0 (.Transition configuring) :: List.replicate 6 (.Move 0 true)
def checkpointing : List (Action HostRequest Bool) := .Begin 0 .Checkpoint :: List.replicate 7 (.Move 1 true)

/-- No record is at hand besides the one of the configuration. -/
structure OnlyConfigures (site : Site plainHost) : Prop where
  appended : site.appended = [] ∨ site.appended = (driven committing).shared.appended
  own : (site.kernels 0).transaction.candidate = none ∨
    (site.kernels 0).transaction.candidate.toList.map Transaction.Candidate.record = (driven committing).shared.appended
  others : ∀ owner, (site.kernels (owner+1)).transaction.candidate = none

private theorem OnlyConfigures.apart {site : Site plainHost} (only : OnlyConfigures site) : NoCollision site := by
  have known : ∀ record, AtHand site record → record ∈ (driven committing).shared.appended := by
    rintro record (member | ⟨owner,candidate,held,rfl⟩)
    · obtain nothing | one := only.appended
      · rw [nothing] at member
        cases member
      · exact one ▸ member
    cases owner with
    | zero =>
      obtain idle | one := only.own
      · cases idle.symm.trans held
      · rw [← one,held]
        exact mem_singleton_self _
    | succ owner => cases (only.others owner).symm.trans held
  intro left right first second _
  exact (mem_singleton.mp (known left first)).trans (mem_singleton.mp (known right second)).symm

/-- Before each of these actions. -/
def Configures (machine : Hosts plainHost) : List (Action HostRequest Bool) → Prop
  | [] => True
  | action :: rest =>
    OnlyConfigures machine.shared ∧
    Configures (Machine.step (hosts plainHost plainStates plainDefaults) (answerTo "op") machine action) rest

theorem Configures.reached {machine : Hosts plainHost}
    (reached : HostsReached plainHost plainStates plainDefaults "op" machine)
    (actions rest : List (Action HostRequest Bool)) (configures : Configures machine (actions ++ rest)) :
    HostsReached plainHost plainStates plainDefaults "op"
      (actions.foldl (Machine.step (hosts plainHost plainStates plainDefaults) (answerTo "op")) machine) := by
  induction actions generalizing machine with
  | nil => exact reached
  | cons action actions ih =>
    exact ih (reached.step action fun _ _ _ _ _ _ _ _ => configures.1.apart) configures.2

private theorem configures_checkpointing : Configures ⟨empty plainHost plainDefaults,[]⟩ (committing ++ checkpointing) :=
  ⟨⟨.inl rfl,.inl rfl,fun _ => rfl⟩,⟨.inl rfl,.inl rfl,fun _ => rfl⟩,⟨.inl rfl,.inl rfl,fun _ => rfl⟩,⟨.inl rfl,.inr rfl,fun _ => rfl⟩,
    ⟨.inr rfl,.inr rfl,fun _ => rfl⟩,⟨.inr rfl,.inl rfl,fun _ => rfl⟩,⟨.inr rfl,.inl rfl,fun _ => rfl⟩,⟨.inr rfl,.inl rfl,fun _ => rfl⟩,
    ⟨.inr rfl,.inl rfl,fun _ => rfl⟩,⟨.inr rfl,.inl rfl,fun _ => rfl⟩,⟨.inr rfl,.inl rfl,fun _ => rfl⟩,⟨.inr rfl,.inl rfl,fun _ => rfl⟩,
    ⟨.inr rfl,.inl rfl,fun _ => rfl⟩,⟨.inr rfl,.inl rfl,fun _ => rfl⟩,⟨.inr rfl,.inl rfl,fun _ => rfl⟩,trivial⟩

/-- A checkpoint right behind a configuration. -/
theorem checkpoint_reclaims_configured : Checkpoints plainStates 1 0 (driven committing).shared :=
  (checkpoint_reclaims plain_round_trips (Configures.reached .start committing checkpointing configures_checkpointing) 1 0).1.mpr
    ⟨⟨_,rfl,rfl,rfl,by rintro installed ⟨⟩⟩,rfl,by rintro ⟨⟩⟩

/-- And a second one behind it: the kernel has a durable head, and refuses. -/
theorem checkpoint_again_refused :
    ¬∀ (machine : Hosts plainHost) (id owner : Nat), HostsReached plainHost plainStates plainDefaults "op" machine →
      (machine.shared.kernels owner).transaction.head.isSome = true →
      Checkpoints plainStates id owner machine.shared := by
  intro succeeds
  have reached : HostsReached plainHost plainStates plainDefaults "op" (driven (committing ++ checkpointing)) :=
    Configures.reached .start (committing ++ checkpointing) [] configures_checkpointing
  obtain ⟨installed,after,done,_⟩ := succeeds _ 2 0 reached rfl
  exact checkpoint_alone_idle rfl installed after done

end Deepstrike.CanonicalHost

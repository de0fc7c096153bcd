import Deepstrike.Reachability

/-!
The books of a reachable kernel: its ledgers are keyed by what they hold, the tail is bounded by the
genesis configuration, and the operation is the one its head belongs to.
-/
namespace Deepstrike.Kernel
open Wire Record Transaction Driver KernelTransaction
open KernelTransaction (Sound)

variable {K : Parts}

/-- The books of a kernel are sound until it is poisoned, and its candidate follows its head. -/
structure SoundBooks (kernel : CanonicalKernel K) : Prop where
  clean : kernel.transaction.poison = none → Sound kernel.defaults kernel.transaction
  candidate : ∀ candidate, kernel.transaction.candidate = some candidate → Follows kernel.transaction.head candidate.input candidate.record

theorem SoundBooks.new (K : Parts) (defaults : ConfigDefaults) : SoundBooks (.new K defaults) :=
  ⟨fun _ => Sound.new defaults ∅,by rintro _ ⟨⟩⟩

variable {kernel after : CanonicalKernel K}

/-- A preparation keeps the books sound. -/
theorem SoundBooks.prepare {envelope : WireEnvelope} {preparation : Preparation K} (paired : Paired kernel)
    (sound : SoundBooks kernel) (prepared : kernel.prepare envelope = .ok (preparation,after)) : SoundBooks after := by
  cases held : kernel.before_candidate with
  | some point =>
    obtain ⟨fault,refused⟩ := paired.prepare_busy (by simp [held]) envelope
    rw [refused] at prepared
    cases prepared
    exact sound
  | none =>
  obtain ⟨_,_,_,rfl⟩ | ⟨point,answer,transaction,driver,captured,planned,outcome⟩ := prepare_idle_cases held prepared
  · exact sound
  obtain ⟨unstaged,rfl⟩ | ⟨input,step_seq,config,step,admitted,_,staging,_⟩ := prepare_cases planned
  · cases rebuilt : CanonicalKernel.rebuild_driver point with
    | error fault =>
      rw [settledPlan_refused unstaged rebuilt] at outcome
      cases outcome
      exact ⟨sound.clean,sound.candidate⟩
    | ok driver =>
    rw [settledPlan_rebuilt unstaged rebuilt] at outcome
    cases outcome
    exact ⟨sound.clean,sound.candidate⟩
  obtain ⟨record,able,same⟩ := stage_cases staging
  have follows := chain_after_follows (stageable_chained able)
  cases same
  rw [settledPlan_staged rfl] at outcome
  cases outcome
  refine ⟨?_,?_⟩
  · intro clean
    obtain ⟨defaults,bounds,owner,floor,pending,accepted⟩ := sound.clean clean
    exact ⟨defaults,bounds,owner,floor,pending,accepted⟩
  · rintro candidate ⟨⟩
    exact follows

/-- A commit keeps the books sound. -/
theorem SoundBooks.commit {token : PrepareToken} {appended_head : Digest}
    {answer : Except KernelFault (CommittedTransition K.codec)} (sound : SoundBooks kernel)
    (committed : kernel.commit token appended_head = .ok (answer,after)) : SoundBooks after := by
  obtain ⟨fault,transaction,refused,rfl⟩ | ⟨transition,transaction,driver,done,rfl⟩ := commit_outcome committed
  · obtain ⟨_,_,⟨_,rfl⟩ | ⟨_,poisoned,dropped,_⟩⟩ | ⟨_,_,_,_,_,_,same⟩ := commit_cases refused
    · exact sound
    · refine ⟨fun clean => ?_,by simp [dropped]⟩
      have clean : transaction.poison = none := clean
      simp [clean] at poisoned
    · cases same
  obtain ⟨_,same,_⟩ | ⟨candidate,clean,held,_,_,folded,same⟩ := commit_cases done
  · cases same
  have facts := foldRecord_ok folded
  have follows := sound.candidate candidate held
  obtain ⟨defaults,bounds,owner,floor,pending,accepted⟩ := sound.clean clean
  have before : Sound kernel.defaults { kernel.transaction with candidate := none } := ⟨defaults,bounds,owner,floor,pending,accepted⟩
  exact ⟨fun _ => before.folded follows facts,by simp [facts.candidate]⟩

private theorem SoundBooks.abort (sound : SoundBooks kernel) (token : PrepareToken) :
    SoundBooks (kernel.abort token).2 := by
  obtain ⟨moved,kept⟩ := abort_transaction kernel token
  obtain ⟨fault,same⟩ | ⟨candidate,clean,held,_,outcome⟩ := abort_cases kernel.transaction token
  · rw [same] at moved
    exact ⟨by rw [moved,kept]; exact sound.clean,by rw [moved]; exact sound.candidate⟩
  obtain ⟨defaults,bounds,owner,floor,pending,accepted⟩ := sound.clean clean
  have dropped : Sound kernel.defaults { kernel.transaction with candidate := none } := ⟨defaults,bounds,owner,floor,pending,accepted⟩
  rw [outcome] at moved
  exact ⟨by rw [moved,kept]; exact fun _ => dropped,by rw [moved]; rintro _ ⟨⟩⟩

theorem SoundBooks.ack (sound : SoundBooks kernel) (boundary : CheckpointBoundary) :
    SoundBooks (kernel.note_checkpoint_acked boundary).2 := by
  obtain ⟨tail,acked⟩ := note_checkpoint_acked_tail kernel.transaction boundary
  unfold CanonicalKernel.note_checkpoint_acked
  simp only [acked]
  refine ⟨fun clean => ?_,sound.candidate⟩
  obtain ⟨defaults,bounds,owner,floor,pending,accepted⟩ := sound.clean clean
  exact ⟨defaults,bounds,owner,floor,pending,accepted⟩

variable {records : List (KernelRecord K.codec)} {S : StateCodec K}

private theorem sound_replay {defaults : ConfigDefaults} {relabel : RecordError → KernelFault}
    {tx after : KernelTransaction K.codec} {driver driver' : OperationDriver K} (sound : Sound defaults tx) (free : tx.candidate = none)
    (replayed : KernelTransaction.replay_records fold relabel tx records driver = .ok after driver') :
    Sound defaults after ∧ after.candidate = none := by
  refine replay_records_invariant (fun tx _ => Sound defaults tx ∧ tx.candidate = none) ?_ ⟨sound,free⟩ replayed
  intro tx after input expected driver driver' holds stepped
  obtain ⟨_,_,step,record,_,_,_,_,chained,_,folded⟩ := replay_committed_ok stepped
  have facts := foldRecord_ok folded
  exact ⟨holds.1.folded (chain_after_follows chained) facts,facts.candidate.trans holds.2⟩

/-- A restore keeps the books sound. -/
theorem SoundBooks.restore {checkpoint : Option (KernelCheckpoint K)} {answer : Except KernelFault Unit}
    (sound : SoundBooks kernel)
    (restored : kernel.restore S checkpoint records = .ok (answer,after)) : SoundBooks after := by
  obtain ⟨_,_,rfl⟩ | ⟨transaction,driver,outcome,rfl⟩ := restore_outcome restored
  · exact sound
  have facts : Sound kernel.defaults transaction ∧ transaction.candidate = none := by
    cases checkpoint with
    | none =>
      have replayed := settle_ok outcome
      simp only [rebuild_from_records_eq] at replayed
      split at replayed
      · cases replayed
        exact ⟨Sound.new kernel.defaults _,rfl⟩
      · cases replayed
      · exact sound_replay (Sound.new kernel.defaults _) rfl replayed
    | some checkpoint =>
    obtain ⟨tx,base,_,halves,_,replayed⟩ := restore_from_checkpoint_ok outcome
    unfold restore_halves at halves
    simp only [bind,Except.bind] at halves
    split at halves
    · cases halves
    · cases halves
      exact sound_replay (Sound.restored _ _ _ _ kernel.defaults _) rfl replayed
  exact ⟨fun _ => facts.1,by simp [facts.2]⟩

theorem Reachable.sound (reachable : Reachable S kernel) : SoundBooks kernel := by
  induction reachable with
  | new defaults => exact SoundBooks.new K defaults
  | prepare before prepared sound => exact sound.prepare before.paired prepared
  | commit _ committed sound => exact sound.commit committed
  | abort token _ sound => exact sound.abort token
  | ack boundary _ sound => exact sound.ack boundary
  | restore _ restored sound => exact sound.restore restored

end Deepstrike.Kernel

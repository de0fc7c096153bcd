import Deepstrike.Custody
import Deepstrike.PlainParts

/-!
Envelopes under way over a crash. The slot holds what the last caller staged and no other has replaced or
cleared since; a record that was appended stays; and the kernels stage only inputs the journal does not
hold. What a caller has staged is lost only to another caller.
-/
namespace Deepstrike.CanonicalHost
open Wire Record Driver Kernel Interleaving List OperationState
open Journal (JournalError JournalAppendReceipt)
open PlainParts (plain plainDefaults plainEnvelope plainStates plain_round_trips)

variable {K : Parts} {codec : HostCodec K} {S : StateCodec K} {defaults : ConfigDefaults}

/-- What a step puts into the slot, if it is one that does. -/
def slotted : HostOp codec → Option (Option codec.Text)
  | .StageOutboundEnvelope envelope_json => some (some envelope_json)
  | .ClearOutboundEnvelope => some none
  | _ => none

/-- A step that leaves the slot and the marks. -/
structure Aside (site after : Site codec) : Prop where
  grows : site.appended <+: after.appended
  slot : after.journal.outbound_envelope = site.journal.outbound_envelope
  staged : after.staged = site.staged

theorem Aside.same (site : Site codec) : Aside site site := ⟨prefix_refl _,rfl,rfl⟩

variable {α : Type} {works : Bool} {installed : Installed K} {site after : Site codec}

theorem aside_answered {owner : Nat} {result : Kernel.Call (α × CanonicalKernel K)} {answer : α}
    (done : site.answered owner result = some (answer,after)) : Aside site after := by
  obtain ⟨kernel,_,rfl⟩ := answered_cases done
  exact ⟨prefix_refl _,rfl,rfl⟩

theorem aside_stored {result : Except JournalError (α × Site codec)}
    {answer : Except StoreError α} (done : some (site.stored works result) = some (answer,after))
    (aside : ∀ value, result = .ok (value,after) → Aside site after) : Aside site after := by
  obtain ⟨rfl,_⟩ | ⟨value,same,_⟩ := stored_cases done
  · exact Aside.same after
  · exact aside value same

variable {state journal : OperationState codec}

private theorem append_slot {expected_head : Option Digest} {record : KernelRecord K.codec}
    {receipt : JournalAppendReceipt} (done : state.compare_and_append expected_head record = .ok (receipt,journal)) :
    journal.outbound_envelope = state.outbound_envelope := by
  simp only [compare_and_append,bind,Except.bind] at done
  split at done
  · cases done
  split at done
  · cases done
  cases done
  rfl

private theorem install_slot {previous : Option String} {covered_head : Digest} {checkpoint : KernelCheckpoint K}
    (done : state.compare_and_install_checkpoint previous covered_head checkpoint = .ok (installed,journal)) :
    journal.outbound_envelope = state.outbound_envelope := by
  simp only [compare_and_install_checkpoint,bind,Except.bind] at done
  split at done
  · cases done
  split at done
  · cases done
  split at done
  · cases done
  cases done
  rfl

private theorem ack_slot {checkpoint_id : String}
    (done : state.ack_checkpoint checkpoint_id = .ok (installed,journal)) : journal.outbound_envelope = state.outbound_envelope := by
  unfold ack_checkpoint at done
  split at done
  · cases done
  · cases done
    rfl

private theorem prune_slot (state : OperationState codec) : state.prune_acked_prefix.2.outbound_envelope = state.outbound_envelope := by
  unfold prune_acked_prefix
  split <;> rfl

/-- The slot and the marks change together, and only where a call stages or clears. -/
theorem exec_slot {id owner : Nat} {op : HostOp codec} {answer : HostAnswer op}
    (done : site.exec S id owner op works = some (answer,after)) :
    Aside site after ∨ ∃ text, works = true ∧ slotted op = some text ∧ after = site.setStaged id text := by
  cases op with
  | StageOutboundEnvelope envelope_json =>
    cases works with
    | false =>
      cases done
      exact .inl (Aside.same _)
    | true =>
    cases done
    exact .inr ⟨_,rfl,rfl,rfl⟩
  | ClearOutboundEnvelope =>
    cases works with
    | false =>
      cases done
      exact .inl (Aside.same _)
    | true =>
    cases done
    exact .inr ⟨_,rfl,rfl,rfl⟩
  | Prepare envelope => exact .inl (aside_answered done)
  | Commit token appended_head => exact .inl (aside_answered done)
  | Abort token =>
    have done : site.answered owner (.ok ((site.kernels owner).abort token)) = some (answer,after) := done
    exact .inl (aside_answered done)
  | CheckpointCandidate => exact .inl (aside_answered done)
  | NoteCheckpointAcked boundary =>
    have done : site.answered owner (.ok ((site.kernels owner).note_checkpoint_acked boundary)) = some (answer,after) := done
    exact .inl (aside_answered done)
  | RestoreBytes checkpoint records => exact .inl (aside_answered done)
  | ReadOutboundEnvelope =>
    refine .inl (aside_stored done fun value same => ?_)
    cases same
    exact Aside.same _
  | CompareAndAppend expected_head record =>
    refine .inl (aside_stored done fun value same => ?_)
    obtain ⟨⟨receipt,journal⟩,appended,same⟩ := except_map_ok same
    cases same
    exact ⟨prefix_append _ _,append_slot appended,rfl⟩
  | RecordsAfter after_head =>
    refine .inl (aside_stored done fun value same => ?_)
    obtain ⟨records,_,same⟩ := except_map_ok same
    cases same
    exact Aside.same _
  | LatestCheckpoint =>
    refine .inl (aside_stored done fun value same => ?_)
    cases same
    exact Aside.same _
  | CompareAndInstallCheckpoint previous_checkpoint_id covered_head checkpoint =>
    refine .inl (aside_stored done fun value same => ?_)
    obtain ⟨⟨installed,journal⟩,placed,same⟩ := except_map_ok same
    cases same
    exact ⟨prefix_refl _,install_slot placed,rfl⟩
  | AckCheckpoint checkpoint_id =>
    refine .inl (aside_stored done fun value same => ?_)
    obtain ⟨⟨installed,journal⟩,acked,same⟩ := except_map_ok same
    cases same
    exact ⟨prefix_refl _,ack_slot acked,rfl⟩
  | PruneAckedPrefix =>
  refine .inl (aside_stored done fun value same => ?_)
  cases same
  exact ⟨prefix_refl _,prune_slot site.journal,rfl⟩

/-- A call that has begun and not ended. -/
def UnderWay (call : HostCall codec) : Prop := ∃ program, call.phase = .Running program

/-- What is staged under this text is not lost with the slot: its envelope is in the journal. -/
def Safe (site : Site codec) (text : codec.Text) : Prop := ∃ envelope, codec.read_envelope text = .ok envelope ∧ Committed site envelope

/-- The step takes the slot from no call that still needs it. -/
def Courteous (hosts : Hosts codec) (action : Action HostRequest Bool) : Prop :=
  ∀ id, action = .Move id true → ∀ call op next placed, hosts.calls[id]? = some call → call.phase = .Running (.perform op next) →
    slotted op = some placed → ∀ other held text, other ≠ id → hosts.calls[other]? = some held → UnderWay held →
      hosts.shared.staged other = some text → placed = some text ∨ Safe hosts.shared text

/-- The runs of the hosts of an operation over an empty journal, with no collision of digests, in which every step
    is courteous. -/
inductive CourteousRun (codec : HostCodec K) (S : StateCodec K) (defaults : ConfigDefaults)
    (operation_id : OperationId) : Hosts codec → Prop where
  | start : CourteousRun codec S defaults operation_id ⟨Site.empty codec defaults,[]⟩
  | step {hosts : Hosts codec} (run : CourteousRun codec S defaults operation_id hosts) (action : Action HostRequest Bool)
    (apart : NoCollision hosts.shared) (courteous : Courteous hosts action) :
    CourteousRun codec S defaults operation_id (Machine.step (CanonicalHost.hosts codec S defaults) (answerTo operation_id) hosts action)

/-- Every call under way finds what it staged in the slot, or its envelope is in the journal. -/
def Held (hosts : Hosts codec) : Prop :=
  ∀ id call text, hosts.calls[id]? = some call → UnderWay call → hosts.shared.staged id = some text →
    hosts.shared.journal.outbound_envelope = some text ∨ Safe hosts.shared text

section
variable {hosts : Hosts codec} {operation_id : OperationId}

theorem Safe.later {site later : Site codec} {text : codec.Text} (safe : Safe site text)
    (grows : site.appended <+: later.appended) :
    Safe later text := by
  obtain ⟨envelope,read,committed⟩ := safe
  exact ⟨envelope,read,committed.later grows⟩

theorem Held.aside (held : Held hosts) {after : Site codec} (aside : Aside hosts.shared after)
    {calls : List (HostCall codec)}
    (kept : ∀ (id : Nat) (call : HostCall codec), calls[id]? = some call → UnderWay call →
      ∃ before, hosts.calls[id]? = some before ∧ UnderWay before) :
    Held ⟨after,calls⟩ := by
  intro id call text found running marked
  obtain ⟨before,listed,under_way⟩ := kept id call found running
  have marked : hosts.shared.staged id = some text := by rw [← aside.staged]; exact marked
  obtain slot | safe := held id before text listed under_way marked
  · exact .inl (aside.slot.trans slot)
  · exact .inr (safe.later aside.grows)

private theorem under_way_set {calls : List (HostCall codec)}
    {id : Nat} {before after : HostCall codec} (found : calls[id]? = some before) (running : UnderWay before) :
    ∀ (other : Nat) (call : HostCall codec), (calls.set id after)[other]? = some call → UnderWay call →
      ∃ held, calls[other]? = some held ∧ UnderWay held := by
  intro other call listed under_way
  rw [getElem?_set] at listed
  split at listed
  next same =>
    subst same
    exact ⟨before,found,running⟩
  next => exact ⟨call,listed,under_way⟩

private theorem under_way_stop {call : HostCall codec}
    (running : UnderWay call.stop) : UnderWay call := by
  obtain ⟨program,running⟩ := running
  unfold Interleaving.Call.stop at running
  split at running
  · cases running
  next ended => rw [ended] at running; cases running
  next ended => rw [ended] at running; cases running

/-- Every courteous step leaves what calls under way have staged. -/
theorem Held.step (held : Held hosts) (fresh : hosts.shared.staged hosts.calls.length = none)
    (action : Action HostRequest Bool)
    (courteous : Courteous hosts action) :
    Held (Machine.step (CanonicalHost.hosts codec S defaults) (answerTo operation_id) hosts action) := by
  cases action with
  | Begin owner request =>
    intro id call text found running marked
    obtain inside | beyond := Nat.lt_or_ge id hosts.calls.length
    · rw [Machine.step,getElem?_append_left inside] at found
      exact held id call text found running marked
    rw [Machine.step,getElem?_append_right beyond,getElem?_singleton] at found
    split at found
    next last =>
      have here : id = hosts.calls.length := by omega
      have marked : hosts.shared.staged id = some text := marked
      rw [here,fresh] at marked
      cases marked
    next => cases found
  | Drop id =>
    refine held.aside (Aside.same _) fun other call found running => ?_
    rw [getElem?_modify] at found
    obtain ⟨before,listed,same⟩ := Option.map_eq_some_iff.mp found
    refine ⟨before,listed,?_⟩
    subst same
    split at running
    · exact under_way_stop running
    · exact running
  | Crash owner =>
    refine held.aside ⟨prefix_refl _,rfl,rfl⟩ fun other call found running => ?_
    rw [Machine.step,getElem?_map] at found
    obtain ⟨before,listed,same⟩ := Option.map_eq_some_iff.mp found
    refine ⟨before,listed,?_⟩
    subst same
    split at running
    · exact under_way_stop running
    · exact running
  | Move id works =>
  unfold Machine.step
  dsimp only
  split
  next call found =>
    unfold Machine.move
    split
    next running => exact held.aside (Aside.same _) (under_way_set found ⟨_,running⟩)
    next running => exact held.aside (Aside.same _) (under_way_set found ⟨_,running⟩)
    next op next running =>
      split
      next answer after done =>
        have kept := @under_way_set _ _ _ _ _ { call with phase := .Running (next answer) } found ⟨_,running⟩
        obtain aside | ⟨text,rfl,placed,rfl⟩ := exec_slot done
        · exact held.aside aside kept
        intro other later staged listed under_way marked
        obtain ⟨before,listed,before_under_way⟩ := kept other later listed under_way
        have marked : (if other = id then text else hosts.shared.staged other) = some staged := marked
        split at marked
        · exact .inl marked
        next apart =>
        obtain same | safe := courteous id rfl call op next text found running placed other before staged apart listed before_under_way marked
        · exact .inl same
        · exact .inr (safe.later (prefix_refl _))
      next => exact held
    next => exact held
    next => exact held
  next => exact held

end

private theorem CourteousRun.keeps (trips : K.codec.RoundTrips) {operation_id : OperationId} {hosts : Hosts codec}
    (run : CourteousRun codec S defaults operation_id hosts) :
    Machine.Sound (custody codec defaults) (CanonicalHost.hosts codec S defaults) (fun _ request => Yields (answersTruly request)) hosts ∧
      Held hosts := by
  induction run with
  | start => exact ⟨⟨Upkept.empty codec defaults,by rintro _ _ ⟨⟩,fun _ _ => rfl⟩,by rintro _ _ _ ⟨⟩⟩
  | @step hosts _ action apart courteous kept =>
  obtain ⟨sound,held⟩ := kept
  refine ⟨sound.step action (fun _ _ _ _ _ _ _ _ => apart) ?_ ?_,held.step (sound.fresh _ (Nat.le_refl _)) action courteous⟩
  · intro id owner request state upkept _
    exact answerTo_runs trips upkept operation_id request
  · intro owner state upkept id
    exact ⟨upkept.setKernel (AnswersFor.new defaults state.appended),prefix_refl _,rfl⟩

/-- A drain over this site replays just the envelope. -/
def Replays (site : Site codec) (envelope : WireEnvelope) : Prop :=
  drain_found site.journal.outbound_envelope = (do return some (← settle_staged envelope) : Hosted codec (Option CanonicalTransition))

/-- A call whose envelope a crash does not lose: it has staged it and not cleared it, or it is about to return
    a transition of its own. -/
def Placed (hosts : Hosts codec) (id : Nat) (envelope : WireEnvelope)
    (call : HostCall codec) : Prop :=
  (∃ text, codec.write_envelope envelope = .ok text ∧ hosts.shared.staged id = some text) ∨
    ∃ transition, call.phase = .Running (.pure (.Transitioned transition)) ∧ transition.replayed = false

/-- Whenever a host crashes in a courteous run, each of its transitions under way that has its place is in the journal
    behind the crash, or is what a drain replays; and no input is in the journal twice. -/
theorem staged_outlasts (trips : K.codec.RoundTrips) (wire : codec.RoundTrips) {operation_id : OperationId}
    {hosts : Hosts codec}
    (run : CourteousRun codec S defaults operation_id hosts) :
    (∀ owner id call envelope, hosts.calls[id]? = some call → call.owner = owner →
    call.request = .Transition envelope → UnderWay call →
      Placed hosts id envelope call →
      let crashed := (Machine.step (CanonicalHost.hosts codec S defaults) (answerTo operation_id) hosts
        (.Crash owner)).shared
      Committed crashed envelope ∨ Replays crashed envelope) ∧
    (hosts.shared.appended.map KernelRecord.input_id).Nodup := by
  obtain ⟨sound,held⟩ := run.keeps trips
  refine ⟨fun owner id call envelope found _ requested running placed => ?_,sound.inv.journaled.ids_once⟩
  dsimp only
  obtain ⟨text,written,staged⟩ | ⟨transition,returning,anew⟩ := placed
  · have read := wire envelope text written
    obtain slot | ⟨other,same,committed⟩ := held id call text found running staged
    · refine .inr ?_
      show drain_found hosts.shared.journal.outbound_envelope = _
      simp only [slot,drain_found,read]
    · cases read.symm.trans same
      exact .inl committed
  · have known := sound.calls id call found
    unfold Interleaving.Call.Sound at known
    rw [returning,requested] at known
    exact .inl (known hosts.shared (.refl sound.inv) _ rfl envelope transition rfl rfl anew)

/-- A host of the plain parts, whose stored envelopes are the envelopes themselves. -/
def plainHost : HostCodec plain := ⟨WireEnvelope,.ok,.ok,fun _ => [],fun _ => [],fun checkpoint => checkpoint.state_digest⟩

/-- What the hosts come to by these actions over an empty journal. -/
def driven (actions : List (Action HostRequest Bool)) : Hosts plainHost :=
  actions.foldl (Machine.step (hosts plainHost plainStates plainDefaults) (answerTo "op")) ⟨Site.empty plainHost plainDefaults,[]⟩

def configuring : WireEnvelope := plainEnvelope "configure" 1 (.ConfigureOperation "")
def configuringAgain : WireEnvelope := plainEnvelope "configure-again" 2 (.ConfigureOperation "")

private theorem no_collision_empty {site : Site plainHost} (nothing : site.appended = [])
    (idle : ∀ owner, (site.kernels owner).transaction.candidate = none) : NoCollision site := by
  rintro left right (member | ⟨owner,candidate,held,_⟩)
  · rw [nothing] at member
    cases member
  · rw [idle owner] at held
    cases held

/-- A transition has staged its envelope, and a drain of another host has read it, when the first host crashes. -/
theorem staged_outlasts_configuring :
    let crashed := (driven [.Begin 0 (.Transition configuring),.Begin 1 .DrainOutboundEnvelope,.Move 0 true,
    .Move 1 true,
      .Crash 0]).shared
    Committed crashed configuring ∨ Replays crashed configuring := by
  have begun : CourteousRun plainHost plainStates plainDefaults "op"
      (driven [.Begin 0 (.Transition configuring),.Begin 1 .DrainOutboundEnvelope]) := by
    refine .step (.step .start (.Begin 0 (.Transition configuring)) (no_collision_empty rfl fun _ => rfl) ?_)
      (.Begin 1 .DrainOutboundEnvelope) (no_collision_empty rfl fun _ => rfl) ?_ <;>
    rintro id ⟨⟩
  have staged : CourteousRun plainHost plainStates plainDefaults "op"
      (driven [.Begin 0 (.Transition configuring),.Begin 1 .DrainOutboundEnvelope,.Move 0 true]) := by
    refine .step begun (.Move 0 true) (no_collision_empty rfl fun _ => rfl) ?_
    -- nothing is staged before it
    rintro _ ⟨⟩ _ _ _ _ _ _ _ other held text apart found running ⟨⟩
  have read : CourteousRun plainHost plainStates plainDefaults "op"
      (driven [.Begin 0 (.Transition configuring),.Begin 1 .DrainOutboundEnvelope,.Move 0 true,.Move 1 true]) := by
    refine .step staged (.Move 1 true) (no_collision_empty rfl fun _ => rfl) ?_
    -- a read leaves the slot
    rintro _ ⟨⟩ _ _ _ _ ⟨⟩ ⟨⟩ ⟨⟩
  have wire : plainHost.RoundTrips := by
    rintro envelope text ⟨⟩
    rfl
  exact (staged_outlasts plain_round_trips wire read).1 0 0 _ configuring rfl rfl rfl ⟨_,rfl⟩ (.inl ⟨_,rfl,rfl⟩)

/-- The envelope a program asks its kernel to prepare first. -/
def preparesFirst {α : Type} : Hosted plainHost α → Option WireEnvelope
  | .perform (.Prepare envelope) _ => some envelope
  | _ => none

/-- Two tasks of one host stage at a time, and the host crashes: the first envelope is neither in the journal nor in
    the slot. -/
theorem staged_over :
    ¬∀ (actions : List (Action HostRequest Bool)) (owner id : Nat) (call : HostCall plainHost) (envelope : WireEnvelope),
      (driven actions).calls[id]? = some call → call.owner = owner → call.request = .Transition envelope →
      UnderWay call →
      (∃ text, plainHost.write_envelope envelope = .ok text ∧ (driven actions).shared.staged id = some text) →
      let crashed := (driven (actions ++ [.Crash owner])).shared
      Committed crashed envelope ∨ Replays crashed envelope := by
  intro kept
  have lost := kept [.Begin 0 (.Transition configuring),.Begin 0 (.Transition configuringAgain),.Move 0 true,.Move 1 true] 0 0 _ configuring
    rfl rfl rfl ⟨_,rfl⟩ ⟨_,rfl,rfl⟩
  obtain ⟨record,member,_⟩ | replays := lost
  · cases member
  · have same : some configuringAgain = some configuring := congrArg preparesFirst replays
    have ids : "configure-again" = "configure" := congrArg WireEnvelope.input_id (Option.some.inj same)
    exact absurd ids (by decide)

end Deepstrike.CanonicalHost

import Deepstrike.Sites

/-!
The calls of a host, step by step: what each may ask for, what it learns, and what it leaves to the others.
Whatever interleaves with it, a call keeps the books of the site, and a transition that returns one of its
own has its record in the journal.
-/
namespace Deepstrike.CanonicalHost
open Wire Record Transaction Driver Kernel Interleaving List Except OperationState
open Transaction.KernelTransaction (Journaled)
open Journal (JournalError JournalAppendReceipt)

variable {K : Parts} {codec : HostCodec K} {S : StateCodec K} {defaults : ConfigDefaults}

/-- What a call has to know before it asks for a step. -/
def Allowed (defaults : ConfigDefaults) (site : Site codec) : HostOp codec → Prop
  | .Commit _ appended_head => ∃ record ∈ site.appended, record.record_digest = appended_head
  | .RestoreBytes checkpoint records => Restorable defaults site.appended checkpoint records
  | .CompareAndAppend expected_head record => expected_head = record.previous_record_digest ∧ Behind site.appended record
  | .CompareAndInstallCheckpoint _ covered_head checkpoint => covered_head = checkpoint.boundary.covered_head ∧
    ∃ covered, covered <+: site.appended ∧ Covers defaults checkpoint covered
  | _ => True

/-- What it knows of the answer, in the state it got it. -/
def Answered (defaults : ConfigDefaults) (site : Site codec) : (op : HostOp codec) → HostAnswer op → Prop
  | .Prepare envelope,preparation => ∀ token record step, preparation = .Prepared token record step →
    Behind site.appended record ∧ MadeFor envelope record
  | .CheckpointCandidate,answer => ∀ checkpoint, answer = .ok checkpoint →
    ∃ covered, covered <+: site.appended ∧ Covers defaults checkpoint covered
  | .CompareAndAppend _ record,answer => ∀ receipt, answer = .ok receipt → record ∈ site.appended
  | .LatestCheckpoint,answer => ∀ installed, answer = .ok (some installed) → Stands defaults site.appended installed
  | .RecordsAfter none,answer => ∀ records, answer = .ok records → ∃ dropped, records = site.appended.drop dropped
  | .RecordsAfter (some digest),answer => ∀ records, answer = .ok records → NoCollision site ∧
    ∃ (place : Nat) (record : KernelRecord K.codec), site.appended[place]? = some record ∧ record.record_digest = digest ∧
      records = site.appended.drop (place+1)
  | _,_ => True

theorem answered_cases {α : Type} {site after : Site codec} {owner : Nat}
    {result : Kernel.Call (α × CanonicalKernel K)} {answer : α}
    (done : site.answered owner result = some (answer,after)) :
    ∃ kernel, result = .ok (answer,kernel) ∧ after = site.setKernel owner kernel := by
  unfold Site.answered at done
  split at done
  · cases done
    exact ⟨_,rfl,rfl⟩
  · cases done

variable {works : Bool}

theorem stored_cases {α : Type} {site after : Site codec} {result : Except JournalError (α × Site codec)}
    {answer : Except StoreError α} (done : some (site.stored works result) = some (answer,after)) :
    (after = site ∧ ∃ error, answer = .error error) ∨ ∃ value, result = .ok (value,after) ∧ answer = .ok value := by
  have done := Option.some.inj done
  unfold Site.stored at done
  split at done
  · cases done
    exact .inl ⟨rfl,_,rfl⟩
  · cases done
    exact .inl ⟨rfl,_,rfl⟩
  · cases done
    exact .inr ⟨_,rfl,rfl⟩

theorem except_map_ok {α β : Type} {result : Except JournalError α} {f : α → β} {value : β}
    (done : result.map f = .ok value) :
    ∃ given, result = .ok given ∧ f given = value := by
  cases result with
  | error error => cases done
  | ok given => exact ⟨given,rfl,ok.inj done⟩

/-- What a step leaves: the invariant, all that was appended, and what other calls have staged. -/
structure Leaves (defaults : ConfigDefaults) (id : Nat) (site after : Site codec) : Prop where
  upkept : Upkept defaults after
  grows : site.appended <+: after.appended
  others : ∀ other, other ≠ id → site.staged other = after.staged other

theorem Leaves.same {site : Site codec} {id : Nat} (upkept : Upkept defaults site) : Leaves defaults id site site :=
  ⟨upkept,prefix_refl _,fun _ _ => rfl⟩

theorem Leaves.setKernel {site : Site codec} {id owner : Nat} {kernel : CanonicalKernel K}
    (upkept : Upkept defaults site)
    (answers : AnswersFor defaults site.appended kernel) : Leaves defaults id site (site.setKernel owner kernel) :=
  ⟨upkept.setKernel answers,prefix_refl _,fun _ _ => rfl⟩

theorem Leaves.setStaged {site : Site codec} {id : Nat} (upkept : Upkept defaults site) (text : Option codec.Text) :
    Leaves defaults id site (site.setStaged id text) :=
  ⟨⟨upkept.journaled,upkept.kernels,⟨upkept.retained.records,upkept.retained.anchor⟩,upkept.checkpoints⟩,prefix_refl _,
    fun _ apart => (if_neg apart).symm⟩

/-- A checkpoint that is installed was a candidate, and covers what it says. -/
theorem installed_stands {site : Site codec} {previous : Option String} {checkpoint : KernelCheckpoint K}
    {installed : Installed K}
    {journal : OperationState codec}
    (covered : ∃ covered, covered <+: site.appended ∧ Covers defaults checkpoint covered)
    (done : site.journal.compare_and_install_checkpoint previous checkpoint.boundary.covered_head checkpoint =
    .ok (installed,journal)) :
    Stands defaults site.appended installed ∧
    journal = { site.journal with checkpoints := site.journal.checkpoints ++ [installed] } := by
  simp only [compare_and_install_checkpoint,bind,Except.bind] at done
  split at done
  · cases done
  split at done
  · cases done
  split at done
  · cases done
  cases done
  exact ⟨⟨covered,rfl,rfl⟩,rfl⟩

/-- An acknowledgement keeps what every installed checkpoint stands for. -/
theorem acknowledge_stands {appended : List (KernelRecord K.codec)} {checkpoint_id : String}
    (checkpoints : List (Installed K)) :
    ∀ {found : Installed K} {marked : List (Installed K)}, acknowledge checkpoint_id checkpoints = some (found,marked) →
      (∀ installed ∈ checkpoints, Stands defaults appended installed) → ∀ installed ∈ marked,
      Stands defaults appended installed := by
  induction checkpoints with
  | nil =>
    intro found marked done
    cases done
  | cons first rest ih =>
  intro found marked done stands installed member
  have here := stands first mem_cons_self
  have later := fun installed member => stands installed (mem_cons_of_mem first member)
  unfold acknowledge at done
  split at done
  · cases done
    obtain rfl | behind := mem_cons.mp member
    · exact ⟨here.covers,here.covered_head,here.through_step_seq⟩
    · exact later installed behind
  obtain ⟨⟨other,others⟩,inner,same⟩ := Option.map_eq_some_iff.mp done
  cases same
  obtain rfl | behind := mem_cons.mp member
  · exact here
  · exact ih inner later installed behind

theorem prune_checkpoints (state : OperationState codec) :
    state.prune_acked_prefix.2.checkpoints = state.checkpoints := by
  unfold prune_acked_prefix
  split <;> rfl

/-- What each step does, for a call that knows what it has to. -/
theorem exec_keeps (trips : K.codec.RoundTrips) {site after : Site codec} {id owner : Nat} {op : HostOp codec}
    {answer : HostAnswer op} (upkept : Upkept defaults site) (apart : NoCollision site)
    (allowed : Allowed defaults site op)
    (done : site.exec S id owner op works = some (answer,after)) :
    Leaves defaults id site after ∧ Answered defaults after op answer := by
  cases op with
  | Prepare envelope =>
    obtain ⟨kernel,prepared,rfl⟩ := answered_cases done
    obtain ⟨answers,staged⟩ := (upkept.kernels owner).prepare trips prepared
    exact ⟨.setKernel upkept answers,staged⟩
  | Commit token appended_head =>
    obtain ⟨kernel,committed,rfl⟩ := answered_cases done
    obtain ⟨record,member,digest⟩ := allowed
    refine ⟨.setKernel upkept ((upkept.kernels owner).commit trips upkept.journaled (fun candidate held same => ?_) committed),trivial⟩
    rw [apart candidate.record record (.inr ⟨owner,candidate,held,rfl⟩) (.inl member) (same.trans digest.symm)]
    exact member
  | Abort token =>
    have done : site.answered owner (.ok ((site.kernels owner).abort token)) = some (answer,after) := done
    obtain ⟨kernel,aborted,rfl⟩ := answered_cases done
    have answers := (upkept.kernels owner).abort token
    rw [ok.inj aborted] at answers
    exact ⟨.setKernel upkept answers,trivial⟩
  | CheckpointCandidate =>
    obtain ⟨kernel,taken,rfl⟩ := answered_cases done
    cases outcome : (site.kernels owner).checkpoint_candidate S with
    | error panicked => simp [outcome,Except.map] at taken
    | ok candidate =>
    simp only [outcome] at taken
    obtain ⟨rfl,rfl⟩ := taken
    refine ⟨.setKernel upkept (upkept.kernels owner),?_⟩
    rintro checkpoint rfl
    exact (upkept.kernels owner).candidate outcome
  | NoteCheckpointAcked boundary =>
    have done : site.answered owner (.ok ((site.kernels owner).note_checkpoint_acked boundary)) = some (answer,after) := done
    obtain ⟨kernel,acked,rfl⟩ := answered_cases done
    have answers := (upkept.kernels owner).ack boundary
    rw [ok.inj acked] at answers
    exact ⟨.setKernel upkept answers,trivial⟩
  | RestoreBytes checkpoint records =>
    obtain ⟨kernel,restored,rfl⟩ := answered_cases done
    exact ⟨.setKernel upkept ((upkept.kernels owner).restore trips upkept.journaled allowed restored),trivial⟩
  | StageOutboundEnvelope envelope_json =>
    obtain ⟨rfl,_⟩ | ⟨_,same,_⟩ := stored_cases done
    · exact ⟨.same upkept,trivial⟩
    · cases same
      exact ⟨.setStaged upkept _,trivial⟩
  | ReadOutboundEnvelope =>
    obtain ⟨rfl,_⟩ | ⟨_,same,_⟩ := stored_cases done
    · exact ⟨.same upkept,trivial⟩
    · cases same
      exact ⟨.same upkept,trivial⟩
  | ClearOutboundEnvelope =>
    obtain ⟨rfl,_⟩ | ⟨_,same,_⟩ := stored_cases done
    · exact ⟨.same upkept,trivial⟩
    · cases same
      exact ⟨.setStaged upkept _,trivial⟩
  | CompareAndAppend expected_head record =>
    obtain ⟨rfl,error,rfl⟩ | ⟨receipt,same,rfl⟩ := stored_cases done
    · exact ⟨.same upkept,by rintro receipt ⟨⟩⟩
    obtain ⟨rfl,behind⟩ := allowed
    obtain ⟨⟨given,journal⟩,appended,same⟩ := except_map_ok same
    cases same
    refine ⟨⟨upkept.append behind appended,prefix_append _ _,fun _ _ => rfl⟩,?_⟩
    rintro receipt ⟨⟩
    exact mem_append_right _ (mem_singleton_self record)
  | RecordsAfter after_head =>
    obtain ⟨rfl,error,rfl⟩ | ⟨records,same,rfl⟩ := stored_cases done
    · refine ⟨.same upkept,?_⟩
      cases after_head with
      | none => rintro records ⟨⟩
      | some digest => rintro records ⟨⟩
    obtain ⟨found,read,same⟩ := except_map_ok same
    cases same
    have given := upkept.retained.records_after upkept.journaled read
    refine ⟨.same upkept,?_⟩
    cases after_head with
    | none =>
      rintro records ⟨⟩
      exact ⟨_,given⟩
    | some digest =>
    rintro records ⟨⟩
    exact ⟨apart,given⟩
  | LatestCheckpoint =>
    obtain ⟨rfl,error,rfl⟩ | ⟨latest,same,rfl⟩ := stored_cases done
    · exact ⟨.same upkept,by rintro installed ⟨⟩⟩
    · cases same
      refine ⟨.same upkept,fun installed same => ?_⟩
      exact upkept.checkpoints installed (mem_of_getLast? (ok.inj same))
  | CompareAndInstallCheckpoint previous_checkpoint_id covered_head checkpoint =>
    obtain ⟨rfl,_⟩ | ⟨installed,same,_⟩ := stored_cases done
    · exact ⟨.same upkept,trivial⟩
    obtain ⟨rfl,covered⟩ := allowed
    obtain ⟨⟨given,journal⟩,placed,same⟩ := except_map_ok same
    cases same
    obtain ⟨stands,rfl⟩ := installed_stands covered placed
    refine ⟨⟨upkept.setJournal ⟨upkept.retained.records,upkept.retained.anchor⟩ fun other member => ?_,prefix_refl _,
      fun _ _ => rfl⟩,trivial⟩
    obtain before | last := mem_append.mp member
    · exact upkept.checkpoints other before
    · rw [mem_singleton.mp last]
      exact stands
  | AckCheckpoint checkpoint_id =>
    obtain ⟨rfl,_⟩ | ⟨installed,same,_⟩ := stored_cases done
    · exact ⟨.same upkept,trivial⟩
    obtain ⟨⟨given,journal⟩,acked,same⟩ := except_map_ok same
    cases same
    unfold ack_checkpoint at acked
    split at acked
    · cases acked
    next marked =>
    cases acked
    exact ⟨⟨upkept.setJournal ⟨upkept.retained.records,upkept.retained.anchor⟩ (acknowledge_stands _ marked upkept.checkpoints),
      prefix_refl _,fun _ _ => rfl⟩,trivial⟩
  | PruneAckedPrefix =>
  obtain ⟨rfl,_⟩ | ⟨receipt,same,_⟩ := stored_cases done
  · exact ⟨.same upkept,trivial⟩
  · cases same
    have pruned := upkept.retained.prune upkept.journaled fun installed member => (upkept.checkpoints installed member).named upkept.journaled
    exact ⟨⟨upkept.setJournal pruned fun installed member => upkept.checkpoints installed (prune_checkpoints site.journal ▸ member),
      prefix_refl _,fun _ _ => rfl⟩,trivial⟩

/-- The site keeps its books and loses no record, and a call changes nobody else's mark. -/
def custody (codec : HostCodec K) (defaults : ConfigDefaults) : Discipline (Site codec) (HostOp codec) where
  inv := Upkept defaults
  grows before after := before.appended <+: after.appended
  keeps id before after := before.staged id = after.staged id
  fresh id site := site.staged id = none
  meets site _ := NoCollision site
  grows_refl site := List.prefix_refl site.appended
  grows_trans _ _ _ first second := first.trans second
  keeps_refl _ _ := rfl
  keeps_trans _ _ _ _ first second := first.trans second
  fresh_kept _ _ _ kept fresh := kept.symm.trans fresh

/-- A fact about the value a call returns, if it returns one. -/
def Yields {α : Type} (fact : Site codec → α → Prop) (site : Site codec) (result : Except HostTransitionError α) : Prop :=
  ∀ value, result = .ok value → fact site value

section
variable {id owner : Nat} {site : Site codec} {α β : Type} {fact : Site codec → α → Prop}

/-- The rules below are about programs of one call over one journal. -/
abbrev Runs (S : StateCodec K) (defaults : ConfigDefaults) (id owner : Nat) (fact : Site codec → α → Prop) (program : Hosted codec α)
    (site : Site codec) : Prop :=
  Secure (hosts codec S defaults) (custody codec defaults) id owner (Yields fact) program site

theorem runs_throw (error : HostTransitionError) : Runs S defaults id owner fact (.throw error) site := by
  rintro later _ value ⟨⟩

theorem runs_pure {value : α} (holds : ∀ later : Site codec, site.appended <+: later.appended → fact later value) :
    Runs S defaults id owner fact (.pure value) site := by
  rintro later moved _ ⟨⟩
  exact holds later moved.grows

theorem runs_call (trips : K.codec.RoundTrips) {op : HostOp codec} {rest : HostAnswer op → Hosted codec α}
    (allowed : ∀ later : Site codec, site.appended <+: later.appended → Allowed defaults later op)
    (next : ∀ answer (after : Site codec), Upkept defaults after → site.appended <+: after.appended →
    Answered defaults after op answer →
      Runs S defaults id owner fact (rest answer) after) :
    Runs S defaults id owner fact (call op >>= rest) site := by
  intro later moved meets works answer after done
  obtain ⟨left,answered⟩ := exec_keeps trips moved.inv meets (allowed later moved.grows) done
  exact ⟨left.upkept,left.grows,left.others,next answer after left.upkept (moved.grows.trans left.grows) answered⟩

variable {rest : β → Hosted codec α}

theorem runs_durable {result : Except StoreError β}
    (next : ∀ value, result = .ok value → Runs S defaults id owner fact (rest value) site) :
    Runs S defaults id owner fact (durable result >>= rest) site := by
  cases result with
  | ok value => exact next value rfl
  | error error => exact runs_throw _

private theorem runs_accepted {result : Except KernelFault β}
    (next : ∀ value, result = .ok value → Runs S defaults id owner fact (rest value) site) :
    Runs S defaults id owner fact (accepted result >>= rest) site := by
  cases result with
  | ok value => exact next value rfl
  | error error => exact runs_throw _

theorem runs_bind {mid : Site codec → β → Prop} {first : Hosted codec β} (upkept : Upkept defaults site)
    (runs : Runs S defaults id owner mid first site)
    (next : ∀ value (later : Site codec), Upkept defaults later → site.appended <+: later.appended → mid later value →
      Runs S defaults id owner fact (rest value) later) :
    Runs S defaults id owner fact (first >>= rest) site :=
  Secure.bind upkept runs (fun value later kept grown known => next value later kept grown (known value rfl)) (by rintro _ _ _ _ _ _ ⟨⟩)

end

/-- Nothing is claimed of the value. -/
def anyValue {α : Type} (_ : Site codec) (_ : α) : Prop := True

section
variable {id owner : Nat} {site : Site codec}

private theorem behind_digest {before : List (KernelRecord K.codec)} {last record : KernelRecord K.codec}
    {place : Nat} (journaled : Journaled site.appended)
    (apart : NoCollision site) (shorter : before ++ [last] <+: site.appended) (held : site.appended[place]? = some record)
    (same : record.record_digest = last.record_digest) : before ++ [last] ++ site.appended.drop (place+1) = site.appended := by
  have member : last ∈ site.appended := shorter.subset (by simp)
  have one : record = last := apart record last (.inl (mem_of_getElem? held)) (.inl member) same
  obtain ⟨rest,whole⟩ := shorter
  have last_held : site.appended[before.length]? = some last := by simp [← whole]
  have here : place = before.length := (journaled.numbered held).symm.trans (one ▸ journaled.numbered last_held)
  have length : place+1 = (before ++ [last]).length := by simp [here]
  rw [length,← whole,drop_left]

/-- A restore hands the kernel the latest checkpoint and what stands right behind it. -/
theorem restore_typed_runs (trips : K.codec.RoundTrips) :
    Runs S defaults id owner anyValue (restore_typed : Hosted codec Unit) site := by
  refine runs_call trips (fun _ _ => trivial) fun latest after upkept _ stands => ?_
  refine runs_durable fun checkpoint found => ?_
  cases checkpoint with
  | none =>
    refine runs_call trips (fun _ _ => trivial) fun read after _ _ given => ?_
    refine runs_durable fun records same => ?_
    obtain ⟨dropped,rfl⟩ := given records same
    refine runs_call trips (fun later grown => ⟨_,dropped,grown,rfl⟩) fun answer after _ _ _ => ?_
    cases answer with
    | ok value => exact runs_pure fun _ _ => trivial
    | error fault => exact runs_throw _
  | some installed =>
  obtain ⟨⟨covered,shorter,covers⟩,covered_head,_⟩ := stands installed found
  refine runs_call trips (fun _ _ => trivial) fun read after kept since given => ?_
  refine runs_durable fun records same => ?_
  obtain ⟨apart,place,record,held,digest,rfl⟩ := given records same
  have within : covered <+: after.appended := shorter.trans since
  obtain ⟨before,last,rfl,_,named⟩ := covers.last (kept.journaled.of_prefix within)
  have whole := behind_digest kept.journaled apart within held (digest.trans (covered_head.trans named))
  refine runs_call trips (fun later grown => ⟨before ++ [last],whole.symm ▸ grown,covers⟩) fun answer after _ _ _ => ?_
  cases answer with
  | ok value => exact runs_pure fun _ _ => trivial
  | error fault => exact runs_throw _

private theorem installed_or_won_runs (trips : K.codec.RoundTrips) (candidate : KernelCheckpoint K) (install : Except StoreError (Installed K)) :
    Runs S defaults id owner anyValue (installed_or_won candidate install : Hosted codec (Installed K)) site := by
  unfold installed_or_won
  split
  · exact runs_pure fun _ _ => trivial
  split
  · refine runs_call trips (fun _ _ => trivial) fun latest after _ _ _ => ?_
    refine runs_durable fun winner _ => ?_
    split
    · split
      · exact runs_pure fun _ _ => trivial
      · exact runs_throw _
    · exact runs_throw _
  · exact runs_throw _

private theorem checkpoint_typed_runs (trips : K.codec.RoundTrips) :
    Runs S defaults id owner anyValue (checkpoint_typed : Hosted codec (Installed K)) site := by
  refine runs_call trips (fun _ _ => trivial) fun taken after _ _ covers => ?_
  refine runs_accepted fun candidate same => ?_
  obtain ⟨covered,shorter,covers⟩ := covers candidate same
  refine runs_call trips (fun _ _ => trivial) fun latest after _ since _ => ?_
  refine runs_durable fun previous _ => ?_
  have within : ∀ later : Site codec, after.appended <+: later.appended → covered <+: later.appended :=
    fun later grown => shorter.trans (since.trans grown)
  refine runs_call trips (fun later grown => ⟨rfl,covered,within later grown,covers⟩) fun install after upkept _ _ => ?_
  refine runs_bind upkept (installed_or_won_runs trips candidate install) fun installed later _ _ _ => ?_
  refine runs_call trips (fun _ _ => trivial) fun acked after _ _ _ => ?_
  refine runs_durable fun _ _ => ?_
  refine runs_call trips (fun _ _ => trivial) fun noted after _ _ _ => ?_
  refine runs_accepted fun _ _ => ?_
  refine runs_call trips (fun _ _ => trivial) fun pruned after _ _ _ => ?_
  exact runs_durable fun _ _ => runs_pure fun _ _ => trivial

end

/-- An envelope whose record is in the journal. -/
def Committed (site : Site codec) (envelope : WireEnvelope) : Prop := ∃ record ∈ site.appended, MadeFor envelope record

/-- A transition that is not a replay has committed its envelope. -/
def committedAnew (envelope : WireEnvelope) (site : Site codec) (transition : CanonicalTransition) : Prop :=
  transition.replayed = false → Committed site envelope

theorem Committed.later {site later : Site codec} {envelope : WireEnvelope} (committed : Committed site envelope)
    (grows : site.appended <+: later.appended) : Committed later envelope := by
  obtain ⟨record,member,made⟩ := committed
  exact ⟨record,grows.subset member,made⟩

section
variable {id owner : Nat} {site : Site codec} {envelope : WireEnvelope}

private theorem commit_appended_runs (trips : K.codec.RoundTrips) {token : PrepareToken}
    {record : KernelRecord K.codec} {receipt : JournalAppendReceipt}
    (member : record ∈ site.appended) (made : MadeFor envelope record) :
    Runs S defaults id owner (committedAnew envelope) (commit_appended envelope token record receipt : Hosted codec CanonicalTransition) site := by
  have known : ∀ later : Site codec, site.appended <+: later.appended → Committed later envelope :=
    fun later grown => Committed.later ⟨record,member,made⟩ grown
  refine runs_call trips (fun later grown => ⟨record,grown.subset member,rfl⟩) fun answer after upkept since _ => ?_
  cases answer with
  | error fault => exact runs_bind upkept (restore_typed_runs trips) fun _ _ _ _ _ => runs_throw _
  | ok committed =>
  dsimp only
  split
  · exact runs_bind upkept (restore_typed_runs trips) fun _ _ _ _ _ => runs_throw _
  · split
    · exact runs_bind upkept (checkpoint_typed_runs trips) fun _ later _ grown _ =>
        runs_pure fun last more _ => known last (since.trans (grown.trans more))
    · exact runs_pure fun later grown _ => known later (since.trans grown)

private theorem reconciled_runs {α : Type} {fact : Site codec → α → Prop} {again : Option (Hosted codec α)} {exhausted : HostTransitionError}
    {reconcile : Hosted codec Unit} (upkept : Upkept defaults site) (runs : Runs S defaults id owner anyValue reconcile site)
    (repeats : ∀ program, again = some program → ∀ later : Site codec, Upkept defaults later → Runs S defaults id owner fact program later) :
    Runs S defaults id owner fact (reconciled again exhausted reconcile) site := by
  cases again with
  | none => exact runs_throw _
  | some program => exact runs_bind upkept runs fun _ later kept _ _ => repeats program rfl later kept

section
variable (trips : K.codec.RoundTrips)
include trips

private theorem transition_pass_runs {again : Option (Hosted codec CanonicalTransition)}
    (repeats : ∀ program, again = some program → ∀ later : Site codec, Upkept defaults later →
      Runs S defaults id owner (committedAnew envelope) program later) :
    Runs S defaults id owner (committedAnew envelope) (transition_pass envelope again) site := by
  refine runs_call trips (fun _ _ => trivial) fun preparation after upkept _ staged => ?_
  cases preparation with
  | Rejected fault =>
    dsimp only
    split
    · refine reconciled_runs upkept ?_ repeats
      exact runs_bind upkept (checkpoint_typed_runs trips) fun _ _ _ _ _ => runs_pure fun _ _ => trivial
    · exact runs_throw _
  | Replayed record record_digest committed_step step_seq =>
    cases committed_step with
    | none => exact runs_throw _
    | some planned_step => exact runs_pure fun _ _ anew => by cases anew
  | Prepared token record step =>
  obtain ⟨behind,made⟩ := staged token record step rfl
  refine runs_call trips (fun later grown => ⟨rfl,behind.later grown⟩) fun append after _ _ placed => ?_
  cases append with
  | ok receipt => exact commit_appended_runs trips (placed receipt rfl) made
  | error error =>
  refine runs_call trips (fun _ _ => trivial) fun aborted after upkept _ _ => ?_
  refine runs_accepted fun _ _ => ?_
  split
  · exact reconciled_runs upkept (restore_typed_runs trips) repeats
  · exact runs_throw _

private theorem transition_within_runs (left : Nat) : ∀ {site : Site codec},
    Runs S defaults id owner (committedAnew envelope) (transition_within envelope left : Hosted codec CanonicalTransition) site := by
  induction left with
  | zero =>
    intro site
    refine transition_pass_runs trips ?_
    rintro program ⟨⟩
  | succ left ih =>
  intro site
  refine transition_pass_runs trips ?_
  rintro program ⟨⟩ later _
  exact ih

private theorem settle_staged_runs (upkept : Upkept defaults site) :
    Runs S defaults id owner (committedAnew envelope) (settle_staged envelope : Hosted codec CanonicalTransition) site := by
  have whole : Runs S defaults id owner (committedAnew envelope) (transition_typed envelope : Hosted codec CanonicalTransition) site :=
    transition_within_runs trips MAX_TRANSITION_RECONCILIATIONS
  refine Secure.bind upkept whole.attempt (fun result later _ _ known => ?_) (by rintro _ _ _ _ ⟨_,⟨⟩,_⟩)
  obtain ⟨_,⟨⟩,known⟩ := known
  cases result with
  | ok transition =>
    refine runs_call trips (fun _ _ => trivial) fun cleared after _ since _ => ?_
    refine runs_durable fun _ _ => ?_
    exact runs_pure fun last grown anew => (known transition rfl anew).later (since.trans grown)
  | error error =>
  cases error with
  | Rejected fault =>
    refine runs_call trips (fun _ _ => trivial) fun cleared after _ _ _ => ?_
    exact runs_durable fun _ _ => runs_throw _
  | RebuildRequired =>
    refine runs_call trips (fun _ _ => trivial) fun cleared after _ _ _ => ?_
    exact runs_durable fun _ _ => runs_throw _
  | Journal error => exact runs_throw _
  | Other message => exact runs_throw _

private theorem transition_runs (operation_id : OperationId) :
    Runs S defaults id owner (committedAnew envelope) (transition operation_id envelope : Hosted codec CanonicalTransition) site := by
  unfold transition
  split
  · exact runs_throw _
  · split
    · exact runs_throw _
    · refine runs_call trips (fun _ _ => trivial) fun staged after upkept _ _ => ?_
      exact runs_durable fun _ _ => settle_staged_runs trips upkept

private theorem drain_outbound_envelope_runs :
    Runs S defaults id owner anyValue (drain_outbound_envelope : Hosted codec (Option CanonicalTransition)) site := by
  refine runs_call trips (fun _ _ => trivial) fun read after upkept _ _ => ?_
  refine runs_durable fun found _ => ?_
  cases found with
  | none => exact runs_pure fun _ _ => trivial
  | some staged =>
  unfold drain_found
  dsimp only
  split
  · exact runs_throw _
  · exact runs_bind upkept (settle_staged_runs trips upkept) fun _ _ _ _ _ => runs_pure fun _ _ => trivial

end

end

/-- What a call's answer says of the journal. -/
def answersTruly (request : HostRequest) (site : Site codec) (response : HostResponse K) : Prop :=
  ∀ envelope transition, request = .Transition envelope → response = .Transitioned transition → committedAnew envelope site transition

/-- Every request is answered truly, whatever the others do. -/
theorem answerTo_runs (trips : K.codec.RoundTrips) {id owner : Nat} {site : Site codec} (upkept : Upkept defaults site)
    (operation_id : OperationId) (request : HostRequest) :
    Runs S defaults id owner (answersTruly request)
    (answerTo operation_id request : Hosted codec (HostResponse K)) site := by
  cases request with
  | Transition envelope =>
    refine runs_bind upkept (transition_runs trips operation_id) fun given later _ _ known => runs_pure fun last grown => ?_
    rintro _ transition ⟨⟩ ⟨⟩ anew
    exact (known anew).later grown
  | DrainOutboundEnvelope =>
    refine runs_bind upkept (drain_outbound_envelope_runs trips) fun _ _ _ _ _ => runs_pure fun _ _ => ?_
    rintro _ _ ⟨⟩
  | Restore =>
    refine runs_bind upkept (restore_typed_runs trips) fun _ _ _ _ _ => runs_pure fun _ _ => ?_
    rintro _ _ ⟨⟩
  | Checkpoint =>
  refine runs_bind upkept (checkpoint_typed_runs trips) fun _ _ _ _ _ => runs_pure fun _ _ => ?_
  rintro _ _ ⟨⟩

end Deepstrike.CanonicalHost

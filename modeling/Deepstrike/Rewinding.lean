import Deepstrike.Hosting
import Deepstrike.PlainParts
import Std.Data.String.ToNat

/-!
A preparation that does not end in a commit. The transaction forgets it but for the candidate
counter; the driver is rebuilt from its projection, and a driver at rest comes back as one that no
later call tells from the old one.
-/
namespace Deepstrike.Kernel
open Wire Record Vocabulary Transaction Driver Lockstep KernelTransaction List FaultsAgree
open OrderedMaps

variable {K : Parts}

section Tokens

private theorem after_last_colon {front front' back back' : List Char} (plain : ':' ∉ back) (plain' : ':' ∉ back')
    (same : front ++ ':' :: back = front' ++ ':' :: back') : back = back' := by
  have tail : ∀ (front back : List Char), ':' ∉ back → (front ++ ':' :: back).reverse.takeWhile (· ≠ ':') = back.reverse := by
    intro front back plain
    rw [reverse_append,reverse_cons,append_assoc,takeWhile_append_of_pos]
    · simp
    · intro char member
      simp only [decide_eq_true_eq]
      rintro rfl
      exact plain (mem_reverse.mp member)
  have reversed := congrArg (fun chars => chars.reverse.takeWhile (· ≠ ':')) same
  simp only [tail front back plain,tail front' back' plain'] at reversed
  exact reverse_injective reversed

private theorem repr_plain (number : Nat) : ':' ∉ (Nat.repr number).toList := by
  intro member
  have digit := Nat.isDigit_of_mem_toDigits (b := 10) (n := number) (c := ':') (by decide) (by decide) (by simpa [Nat.repr] using member)
  exact absurd digit (by decide)

private theorem prepare_token_chars (operation_id : OperationId) (step_seq epoch : Nat) :
    (prepare_token operation_id step_seq epoch).toList =
      (operation_id ++ ":prepare:" ++ Nat.repr step_seq).toList ++ ':' :: (Nat.repr epoch).toList := by
  show (operation_id ++ ":prepare:" ++ Nat.repr step_seq ++ ":" ++ Nat.repr epoch).toList = _
  rw [String.toList_append,String.toList_append,append_assoc]
  rfl

variable {operation_id : OperationId} {host : Host K} {kernel : CanonicalKernel K}

private theorem prepare_token_epoch {operation_id' : OperationId} {step_seq step_seq' epoch epoch' : Nat}
    (same : prepare_token operation_id step_seq epoch = prepare_token operation_id' step_seq' epoch') : epoch = epoch' := by
  have chars := congrArg String.toList same
  rw [prepare_token_chars,prepare_token_chars] at chars
  exact Nat.repr_injective (String.toList_injective (after_last_colon (repr_plain epoch) (repr_plain epoch') chars))

private theorem prepare_token_ne_empty (operation_id : OperationId) (step_seq epoch : Nat) :
    prepare_token operation_id step_seq epoch ≠ "" := by
  intro same
  have chars := congrArg String.toList same
  rw [prepare_token_chars] at chars
  simp at chars

/-- The tokens a host holds since a fork: minted one after the other, the candidate's last. -/
structure TokensMinted (fork : Nat) (host : Host K) : Prop where
  forked : fork ≤ host.kernel.transaction.prepare_epoch
  minted : ∀ token ∈ host.tokens, ∃ operation_id step_seq epoch, fork < epoch ∧
    epoch ≤ host.kernel.transaction.prepare_epoch ∧ token = prepare_token operation_id step_seq epoch
  distinct : host.tokens.Nodup
  last : ∀ candidate, host.kernel.transaction.candidate = some candidate → host.tokens.getLast? = some candidate.token

/-- A name a host may use since a fork: no text of a token minted behind it. -/
def NameSound (fork : Nat) : TokenName → Prop
  | .answered _ => True
  | .text token => ∀ operation_id step_seq epoch, fork < epoch → token ≠ prepare_token operation_id step_seq epoch

/-- A host names the outstanding candidate by the last token it was handed, and in no other way. -/
theorem TokensMinted.names_candidate {fork : Nat} (tokens : TokensMinted fork host) {candidate : Candidate K.codec}
    (held : host.kernel.transaction.candidate = some candidate) {name : TokenName} (sound : NameSound fork name) :
    candidate.token = host.token name ↔ name = .answered (host.tokens.length-1) := by
  have last := tokens.last candidate held
  obtain ⟨operation_id,step_seq,epoch,later,_,text⟩ := tokens.minted candidate.token (mem_of_getLast? last)
  cases name with
  | text token =>
    refine ⟨fun same => ?_,fun same => by cases same⟩
    exact absurd (same.symm.trans text) (sound operation_id step_seq epoch later)
  | answered index =>
  rw [getLast?_eq_getElem?] at last
  simp only [Host.token,TokenName.answered.injEq]
  constructor
  · intro same
    cases found : host.tokens[index]? with
    | none =>
      rw [found,Option.getD_none,text] at same
      exact absurd same (prepare_token_ne_empty operation_id step_seq epoch)
    | some token =>
    rw [found,Option.getD_some] at same
    obtain ⟨bound,_⟩ := List.getElem?_eq_some_iff.mp found
    exact (getElem?_inj bound tokens.distinct).mp (by rw [found,last,same])
  · rintro rfl
    rw [last,Option.getD_some]

/-- A handed out token is minted behind all that came before. -/
theorem TokensMinted.hand_out {fork : Nat} (tokens : TokensMinted fork host)
    (candidate : Candidate K.codec) {step_seq : Nat}
    (text : candidate.token = prepare_token operation_id step_seq (host.kernel.transaction.prepare_epoch+1))
    (epoch : kernel.transaction.prepare_epoch = host.kernel.transaction.prepare_epoch+1)
    (held : kernel.transaction.candidate = some candidate) :
    TokensMinted fork ⟨kernel,host.tokens ++ [candidate.token]⟩ := by
  refine ⟨?_,?_,?_,?_⟩
  · have forked := tokens.forked
    simp only [epoch]
    omega
  · intro token member
    rcases mem_append.mp member with old | new
    · obtain ⟨operation_id,step_seq,number,later,bound,text⟩ := tokens.minted token old
      exact ⟨operation_id,step_seq,number,later,by simp only [epoch]; omega,text⟩
    · have same : token = candidate.token := by simpa using new
      have forked := tokens.forked
      exact ⟨operation_id,step_seq,_,by omega,by simp only [epoch]; omega,same.trans text⟩
  · rw [nodup_append]
    refine ⟨tokens.distinct,by simp,?_⟩
    intro old member new fresh same
    obtain ⟨_,_,number,_,bound,oldText⟩ := tokens.minted old member
    have newText : new = candidate.token := by simpa using fresh
    have epochs := prepare_token_epoch (oldText.symm.trans (same.trans (newText.trans text)))
    omega
  · intro other same
    have : candidate = other := by simpa using held.symm.trans same
    simp [this]

theorem TokensMinted.keep {fork : Nat} (tokens : TokensMinted fork host)
    (epoch : kernel.transaction.prepare_epoch = host.kernel.transaction.prepare_epoch)
    (candidate : kernel.transaction.candidate = host.kernel.transaction.candidate ∨
    kernel.transaction.candidate = none) :
    TokensMinted fork ⟨kernel,host.tokens⟩ := by
  refine ⟨by simp only [epoch]; exact tokens.forked,by simp only [epoch]; exact tokens.minted,tokens.distinct,?_⟩
  intro held same
  rcases candidate with kept | dropped
  · exact tokens.last held (kept.symm.trans same)
  · simp [dropped] at same

end Tokens

/-- Two poisons that refuse the same thing. -/
def PoisonsAgree : Option KernelFault → Option KernelFault → Prop
  | none,none => True
  | some left,some right => FaultsAgree left right
  | _,_ => False

/-- Two candidates that differ in their tokens at most. -/
def CandidatesAgree : Option (Candidate K.codec) → Option (Candidate K.codec) → Prop
  | none,none => True
  | some left,some right => left.record = right.record ∧ left.step = right.step ∧ left.input = right.input ∧
      left.record_bytes = right.record_bytes
  | _,_ => False

/-- Two hosts since a fork: the same books, drivers no plan tells apart, the same restore point,
    and tokens that correspond. -/
structure HostsAgree (fork : Nat) (left right : Host K) : Prop where
  books : left.kernel.transaction.books = right.kernel.transaction.books
  poisons : PoisonsAgree left.kernel.transaction.poison right.kernel.transaction.poison
  candidates : CandidatesAgree left.kernel.transaction.candidate right.kernel.transaction.candidate
  drivers : DriversAgree left.kernel.driver right.kernel.driver
  points : left.kernel.before_candidate = right.kernel.before_candidate
  leftPaired : Paired left.kernel
  rightPaired : Paired right.kernel
  counts : left.tokens.length = right.tokens.length
  leftTokens : TokensMinted fork left
  rightTokens : TokensMinted fork right

section
variable {left right : KernelTransaction K.codec}

private theorem pending_of_books (same : left.books = right.books) : left.pending_effects_in_order = right.pending_effects_in_order :=
  (congrArg pending_effects_in_order same :)

private theorem terminal_of_books (same : left.books = right.books) : left.terminal = right.terminal := (congrArg terminal same :)

private theorem views_of_books {kernel kernel' : CanonicalKernel K} {answer answer' : Answer K}
    (same : kernel.transaction.books = kernel'.transaction.books) (answers : AnswersAgree answer answer') :
    ViewsAgree (viewOf answer kernel) (viewOf answer' kernel') := by
  have pending : kernel.pending_effects_in_order = kernel'.pending_effects_in_order := pending_of_books same
  have terminals : kernel.terminal = kernel'.terminal := terminal_of_books same
  refine ⟨answers,pending,?_,terminals⟩
  simp only [viewOf,CanonicalKernel.projection,pending,terminals]

end

theorem capture_agree {left right : CanonicalKernel K} (configs : left.transaction.config = right.transaction.config)
    (states : ∀ root_kind focus,
    left.transaction.transition_state root_kind focus = right.transaction.transition_state root_kind focus)
    (drivers : DriversAgree left.driver right.driver) :
    left.capture_driver_restore_point = right.capture_driver_restore_point := by
  simp only [CanonicalKernel.capture_driver_restore_point,CanonicalKernel.logical_state,configs,states,project_agree drivers]

/-- Two calls that stop the same way, or answer alike and leave agreeing hosts. -/
def CallStepsAgree (fork : Nat) : Call (Answer K × Host K) → Call (Answer K × Host K) → Prop
  | .ok (answer,host),.ok (answer',host') => AnswersAgree answer answer' ∧ HostsAgree fork host host'
  | .error site,.error site' => site = site'
  | _,_ => False

section
variable {fork : Nat} {left right : Host K}

private theorem eq_of_idle (agree : HostsAgree fork left right) (clean : right.kernel.transaction.poison = none)
    (free : right.kernel.transaction.candidate = none) :
    left.kernel.transaction = { right.kernel.transaction with prepare_epoch := left.kernel.transaction.prepare_epoch } := by
  have poisons := agree.poisons
  have candidates := agree.candidates
  refine eq_of_books agree.books ?_ ?_
  · rw [free] at candidates ⊢
    cases held : left.kernel.transaction.candidate with
    | none => rfl
    | some _ => simp [held,CandidatesAgree] at candidates
  · rw [clean] at poisons ⊢
    cases held : left.kernel.transaction.poison with
    | none => rfl
    | some _ => simp [held,PoisonsAgree] at poisons

private theorem refusals_agree (agree : HostsAgree fork left right)
    (busy : right.kernel.transaction.candidate.isSome ∨ right.kernel.transaction.poison.isSome) (operation_id : OperationId) :
    ∃ fault fault', left.kernel.transaction.check_preparable operation_id = .error fault ∧
      right.kernel.transaction.check_preparable operation_id = .error fault' ∧ FaultsAgree fault fault' := by
  have poisons := agree.poisons
  have candidates := agree.candidates
  have busy' : left.kernel.transaction.candidate.isSome ∨ left.kernel.transaction.poison.isSome := by
    revert poisons candidates busy
    cases left.kernel.transaction.candidate <;> cases right.kernel.transaction.candidate <;>
      cases left.kernel.transaction.poison <;> cases right.kernel.transaction.poison <;> simp [CandidatesAgree,PoisonsAgree]
  obtain ⟨fault,refused,why⟩ := check_preparable_busy busy' operation_id
  obtain ⟨fault',refused',why'⟩ := check_preparable_busy busy operation_id
  refine ⟨fault,fault',refused,refused',?_⟩
  rcases why with poisoned | ⟨clean,code⟩ <;> rcases why' with poisoned' | ⟨clean',code'⟩
  · rw [poisoned,poisoned'] at poisons
    exact poisons
  · simp [poisoned,clean',PoisonsAgree] at poisons
  · simp [clean,poisoned',PoisonsAgree] at poisons
  · exact .inr ⟨code,code'⟩

/-- Two plans over agreeing halves: both panic, both are refused, or both fill the slot with the
    same record. -/
theorem plans_lockstep {left right : KernelTransaction K.codec} {driver driver' : OperationDriver K}
    (drivers : DriversAgree driver driver')
    {envelope : WireEnvelope} (guards : left.screened K.resolve envelope = right.screened K.resolve envelope)
    (able : ∀ context step, left.stageable context step = right.stageable context step) :
    (∃ site, left.prepare K.resolve envelope plan driver = .error site ∧
    right.prepare K.resolve envelope plan driver' = .error site) ∨
    ∃ answer answer' transaction transaction' planned planned',
      left.prepare K.resolve envelope plan driver = .ok (answer,transaction,planned) ∧
      right.prepare K.resolve envelope plan driver' = .ok (answer',transaction',planned') ∧
      PreparationsAgree answer answer' ∧ DriversAgree planned planned' ∧
      ((answer.isPrepared = false ∧ answer'.isPrepared = false ∧ transaction = left ∧ transaction' = right) ∨
      ∃ context step record, left.screened K.resolve envelope = .ok (.planned context) ∧
        left.stageable context step = .ok record ∧
        (answer,transaction) = left.filled context step record ∧
        (answer',transaction') = right.filled context step record) := by
  rw [prepare_eq,prepare_eq,← guards]
  cases guarded : left.screened K.resolve envelope with
  | error halt =>
    cases halt with
    | panic site => exact .inl ⟨site,rfl,rfl⟩
    | fault fault => exact .inr ⟨_,_,_,_,_,_,rfl,rfl,refl fault,drivers,.inl ⟨rfl,rfl,rfl,rfl⟩⟩
  | ok admission =>
  cases admission with
  | answered answer =>
    have unstaged := screened_answered guarded
    exact .inr ⟨_,_,_,_,_,_,rfl,rfl,PreparationsAgree.refl answer,drivers,.inl ⟨unstaged,unstaged,rfl,rfl⟩⟩
  | planned context =>
  have planned := plan_lockstep context _ _ drivers
  simp only
  cases leftPlan : plan context driver <;> cases rightPlan : plan context driver' <;> rw [leftPlan,rightPlan] at planned
  · obtain ⟨rfl,drivers⟩ := planned
    rename_i step _ _
    simp only [staged_eq,← able]
    cases stageable : left.stageable context step with
    | error fault => exact .inr ⟨_,_,_,_,_,_,rfl,rfl,refl fault,drivers,.inl ⟨rfl,rfl,rfl,rfl⟩⟩
    | ok record => exact .inr ⟨_,_,_,_,_,_,rfl,rfl,⟨rfl,rfl⟩,drivers,.inr ⟨context,step,record,rfl,stageable,rfl,rfl⟩⟩
  · exact planned.elim
  · exact planned.elim
  obtain ⟨rfl,drivers⟩ := planned
  rename_i halt _ _
  cases halt with
  | panic site => exact .inl ⟨site,rfl,rfl⟩
  | fault fault => exact .inr ⟨_,_,_,_,_,_,rfl,rfl,refl fault,drivers,.inl ⟨rfl,rfl,rfl,rfl⟩⟩

private theorem plans_agree (agree : HostsAgree fork left right) (free : right.kernel.transaction.candidate = none) (envelope : WireEnvelope) :
    (∃ site, left.kernel.transaction.prepare K.resolve envelope plan left.kernel.driver = .error site ∧
      right.kernel.transaction.prepare K.resolve envelope plan right.kernel.driver = .error site) ∨
    ∃ answer answer' transaction transaction' driver driver',
      left.kernel.transaction.prepare K.resolve envelope plan left.kernel.driver = .ok (answer,transaction,driver) ∧
      right.kernel.transaction.prepare K.resolve envelope plan right.kernel.driver = .ok (answer',transaction',driver') ∧
      PreparationsAgree answer answer' ∧ DriversAgree driver driver' ∧
      ((answer.isPrepared = false ∧ answer'.isPrepared = false ∧ transaction = left.kernel.transaction ∧
        transaction' = right.kernel.transaction) ∨
      ∃ context step record, (answer,transaction) = left.kernel.transaction.filled context step record ∧
        (answer',transaction') = right.kernel.transaction.filled context step record) := by
  cases poisoned : right.kernel.transaction.poison with
  | some fault =>
    obtain ⟨fault,fault',refused,refused',faults⟩ := refusals_agree agree (.inr (by simp [poisoned])) envelope.operation_id
    exact .inr ⟨_,_,_,_,_,_,prepare_refused refused plan left.kernel.driver,
      prepare_refused refused' plan right.kernel.driver,faults,agree.drivers,.inl ⟨rfl,rfl,rfl,rfl⟩⟩
  | none =>
  have same := eq_of_idle agree poisoned free
  have guards : left.kernel.transaction.screened K.resolve envelope = right.kernel.transaction.screened K.resolve envelope := by
    rw [same]
    rfl
  have able : ∀ context step, left.kernel.transaction.stageable context step = right.kernel.transaction.stageable context step := by
    intro context step
    refine stageable_congr ?_ ?_ ?_ ?_ ?_ ?_ context step <;> rw [same]
    rfl
  obtain panics | ⟨answer,answer',transaction,transaction',driver,driver',leftPlan,rightPlan,answers,drivers,outcome⟩ :=
    plans_lockstep agree.drivers guards able
  · exact .inl panics
  · refine .inr ⟨answer,answer',transaction,transaction',driver,driver',leftPlan,rightPlan,answers,drivers,?_⟩
    exact outcome.imp_right fun ⟨context,step,record,_,_,filled,filled'⟩ => ⟨context,step,record,filled,filled'⟩

private theorem handedOut_unstaged {preparation : Preparation K} (unstaged : preparation.isPrepared = false) : handedOut preparation = [] := by
  cases preparation with
  | Prepared token record step => cases unstaged
  | Replayed record digest step step_seq => rfl
  | Rejected fault => rfl

/-- One preparation keeps two hosts in agreement. -/
theorem prepare_agree (agree : HostsAgree fork left right) (envelope : WireEnvelope) :
    CallStepsAgree fork (left.call (.Prepare envelope)) (right.call (.Prepare envelope)) := by
  cases held : right.kernel.before_candidate with
  | some point =>
    have busy := agree.rightPaired.busy (by simp [held])
    obtain ⟨fault,fault',refused,refused',faults⟩ := refusals_agree agree busy envelope.operation_id
    have leftHeld : left.kernel.before_candidate.isSome := by simp [agree.points,held]
    have rightHeld : right.kernel.before_candidate.isSome := by simp [held]
    simp only [Host.call,prepare_held leftHeld refused,prepare_held rightHeld refused',bind,Except.bind,handedOut,append_nil]
    exact ⟨faults,agree⟩
  | none =>
  have leftHeld : left.kernel.before_candidate = none := agree.points.trans held
  have free := agree.rightPaired.free held
  simp only [Host.call]
  have captures : left.kernel.capture_driver_restore_point = right.kernel.capture_driver_restore_point :=
    capture_agree (congrArg config agree.books :) (fun root_kind focus =>
      (congrArg (fun tx : KernelTransaction K.codec => tx.transition_state root_kind focus) agree.books :)) agree.drivers
  cases captured : right.kernel.capture_driver_restore_point with
  | error site =>
    rw [prepare_idle_eq leftHeld,prepare_idle_eq held,captures,captured]
    rfl
  | ok captured' =>
  cases captured' with
  | error fault =>
    rw [prepare_idle_eq leftHeld,prepare_idle_eq held,captures,captured]
    exact ⟨refl fault,by simpa [handedOut] using agree⟩
  | ok point =>
  obtain ⟨site,leftPlan,rightPlan⟩ | ⟨answer,answer',transaction,transaction',driver,driver',leftPlan,rightPlan,answers,drivers,outcome⟩ :=
    plans_agree agree free envelope
  · rw [prepare_idle_eq leftHeld,prepare_idle_eq held,captures,captured,leftPlan,rightPlan]
    rfl
  have leftPrepared : left.kernel.prepare envelope = .ok (settledPlan left.kernel point answer transaction driver) := by
    rw [prepare_idle_eq leftHeld,captures,captured,leftPlan]
  have rightPrepared : right.kernel.prepare envelope = .ok (settledPlan right.kernel point answer' transaction' driver') := by
    rw [prepare_idle_eq held,captured,rightPlan]
  obtain ⟨unstaged,unstaged',rfl,rfl⟩ | ⟨context,step,record,filled,filled'⟩ := outcome
  · cases rebuilt : CanonicalKernel.rebuild_driver point with
    | error fault =>
      rw [settledPlan_refused unstaged rebuilt] at leftPrepared
      rw [settledPlan_refused unstaged' rebuilt] at rightPrepared
      rw [leftPrepared,rightPrepared]
      simp only [bind,Except.bind,handedOut,append_nil]
      exact ⟨refl fault,agree.books,agree.poisons,agree.candidates,drivers,agree.points,
        agree.leftPaired.prepare leftPrepared,agree.rightPaired.prepare rightPrepared,agree.counts,
        agree.leftTokens.keep rfl (.inl rfl),agree.rightTokens.keep rfl (.inl rfl)⟩
    | ok driver'' =>
    rw [settledPlan_rebuilt unstaged rebuilt] at leftPrepared
    rw [settledPlan_rebuilt unstaged' rebuilt] at rightPrepared
    rw [leftPrepared,rightPrepared]
    simp only [bind,Except.bind,handedOut_unstaged unstaged,handedOut_unstaged unstaged',append_nil]
    exact ⟨answers,agree.books,agree.poisons,agree.candidates,DriversAgree.refl driver'',agree.points,
      agree.leftPaired.prepare leftPrepared,agree.rightPaired.prepare rightPrepared,agree.counts,
      agree.leftTokens.keep rfl (.inl rfl),agree.rightTokens.keep rfl (.inl rfl)⟩
  cases filled
  cases filled'
  rw [settledPlan_staged rfl] at leftPrepared rightPrepared
  rw [leftPrepared,rightPrepared]
  refine ⟨answers,agree.books,agree.poisons,⟨rfl,rfl,rfl,rfl⟩,drivers,rfl,agree.leftPaired.prepare leftPrepared,
    agree.rightPaired.prepare rightPrepared,by simp [handedOut,agree.counts],?_,?_⟩
  · exact agree.leftTokens.hand_out ⟨_,record,step,context.input,record.record_len⟩ rfl rfl rfl
  · exact agree.rightTokens.hand_out ⟨_,record,step,context.input,record.record_len⟩ rfl rfl rfl

private theorem commit_slot (tx : KernelTransaction K.codec) (token : PrepareToken) (appended_head : Digest) :
    (tx.commit token appended_head).2.prepare_epoch = tx.prepare_epoch ∧
      ((tx.commit token appended_head).2.candidate = tx.candidate ∨ (tx.commit token appended_head).2.candidate = none) := by
  rw [commit_eq]
  cases poisoned : tx.poison with
  | some fault => exact ⟨rfl,.inl rfl⟩
  | none =>
  cases held : tx.candidate with
  | none => exact ⟨rfl,.inr rfl⟩
  | some candidate =>
  simp only
  split
  · exact ⟨rfl,.inr rfl⟩
  split
  · exact ⟨rfl,.inr rfl⟩
  have epoch := (foldRecord_standing candidate.record candidate.step candidate.input candidate.record_bytes
    { tx with candidate := none, poison := none }).2.1
  cases folded : foldRecord candidate.record candidate.step candidate.input candidate.record_bytes
      { tx with candidate := none, poison := none } with
  | ok _ after =>
    rw [folded] at epoch
    exact ⟨epoch,.inr (foldRecord_ok folded).candidate⟩
  | error fault after =>
  rw [folded] at epoch
  exact ⟨epoch,.inr rfl⟩

/-- Two commits that name the slot on both sides, or on neither: they fold the same record, or
    poison alike. -/
private theorem commits_agree {left right : KernelTransaction K.codec} (books : left.books = right.books)
    (poisons : PoisonsAgree left.poison right.poison) (candidates : CandidatesAgree left.candidate right.candidate)
    {token token' : PrepareToken} (named : ∀ candidate candidate', left.candidate = some candidate → right.candidate = some candidate' →
      (candidate.token = token ↔ candidate'.token = token')) (appended_head : Digest) :
    ResultsAgree (left.commit token appended_head).1 (right.commit token' appended_head).1 ∧
      (left.commit token appended_head).2.books = (right.commit token' appended_head).2.books ∧
      PoisonsAgree (left.commit token appended_head).2.poison (right.commit token' appended_head).2.poison ∧
      CandidatesAgree (left.commit token appended_head).2.candidate (right.commit token' appended_head).2.candidate := by
  rw [commit_eq,commit_eq]
  have conflict : ∀ message message', FaultsAgree ⟨.TransactionConflict,message⟩ ⟨.TransactionConflict,message'⟩ :=
    fun _ _ => .inr ⟨rfl,rfl⟩
  cases leftPoison : left.poison <;> cases rightPoison : right.poison <;> simp only [leftPoison,rightPoison,PoisonsAgree] at poisons
  rotate_left
  · exact ⟨poisons,books,by simpa [leftPoison,rightPoison,PoisonsAgree] using poisons,candidates⟩
  cases leftHeld : left.candidate <;> cases rightHeld : right.candidate <;> simp only [leftHeld,rightHeld,CandidatesAgree] at candidates
  · exact ⟨conflict _ _,books,conflict _ _,trivial⟩
  rename_i candidate candidate'
  have named := named candidate candidate' leftHeld rightHeld
  obtain ⟨records,steps,inputs,sizes⟩ := candidates
  simp only [records,steps,inputs,sizes]
  by_cases names : candidate'.token = token'
  rotate_left
  · rw [if_pos (fun same => names (named.mp same)),if_pos names]
    exact ⟨conflict _ _,books,conflict _ _,trivial⟩
  rw [if_neg (not_not.mpr (named.mpr names)),if_neg (not_not.mpr names)]
  by_cases placed : appended_head = candidate'.record.record_digest
  rotate_left
  · rw [if_pos placed,if_pos placed]
    exact ⟨conflict _ _,books,conflict _ _,trivial⟩
  rw [if_neg (not_not.mpr placed),if_neg (not_not.mpr placed)]
  have folds := foldRecord_lockstep books_folds candidate'.record candidate'.step candidate'.input
    candidate'.record_bytes { left with candidate := none, poison := none } { right with candidate := none, poison := none } books
  have pressure : tail_pressure { left with candidate := none, poison := none } =
      tail_pressure { right with candidate := none, poison := none } :=
    (congrArg tail_pressure books :)
  cases leftFold : foldRecord candidate'.record candidate'.step candidate'.input candidate'.record_bytes
      { left with candidate := none, poison := none } <;>
    cases rightFold : foldRecord candidate'.record candidate'.step candidate'.input candidate'.record_bytes
      { right with candidate := none, poison := none } <;> rw [leftFold,rightFold] at folds
  · obtain ⟨_,folds⟩ := folds
    rename_i _ after _ after' _
    have leftFacts := foldRecord_ok leftFold
    have rightFacts := foldRecord_ok rightFold
    have usage : after.tail_pressure = after'.tail_pressure ∧ after.tail_usage = after'.tail_usage ∧ after.bounds = after'.bounds :=
      ⟨(congrArg tail_pressure folds :),(congrArg tail_usage folds :),
        (congrArg bounds folds :)⟩
    refine ⟨?_,folds,?_,?_⟩
    · simp only [ResultsAgree,advice,pressure,usage]
    · simp only [leftFacts.poison,rightFacts.poison,PoisonsAgree]
    · simp only [leftFacts.candidate,rightFacts.candidate,CandidatesAgree]
  · exact folds.elim
  · exact folds.elim
  · obtain ⟨rfl,folds⟩ := folds
    exact ⟨refl _,folds,refl _,trivial⟩

variable {name : TokenName}

private theorem HostsAgree.named (agree : HostsAgree fork left right) (sound : NameSound fork name)
    (candidate candidate' : Candidate K.codec) (held : left.kernel.transaction.candidate = some candidate)
    (held' : right.kernel.transaction.candidate = some candidate') :
    candidate.token = left.token name ↔ candidate'.token = right.token name := by
  rw [agree.leftTokens.names_candidate held sound,agree.rightTokens.names_candidate held' sound,agree.counts]

/-- One commit keeps two hosts in agreement. -/
theorem commit_agree (agree : HostsAgree fork left right) (sound : NameSound fork name) (appended_head : Digest) :
    CallStepsAgree fork (left.call (.Commit name appended_head)) (right.call (.Commit name appended_head)) := by
  obtain ⟨results,books,poisons,candidates⟩ := commits_agree agree.books agree.poisons agree.candidates (agree.named sound) appended_head
  obtain ⟨leftEpoch,leftSlot⟩ := commit_slot left.kernel.transaction (left.token name) appended_head
  obtain ⟨rightEpoch,rightSlot⟩ := commit_slot right.kernel.transaction (right.token name) appended_head
  have leftPaired := fun answer after => agree.leftPaired.commit (left.token name) appended_head answer after
  have rightPaired := fun answer after => agree.rightPaired.commit (right.token name) appended_head answer after
  simp only [Host.call]
  revert results books poisons candidates leftEpoch leftSlot rightEpoch rightSlot leftPaired rightPaired
  simp only [CanonicalKernel.commit]
  generalize left.kernel.transaction.commit (left.token name) appended_head = leftOutcome
  generalize right.kernel.transaction.commit (right.token name) appended_head = rightOutcome
  obtain ⟨leftResult,leftAfter⟩ := leftOutcome
  obtain ⟨rightResult,rightAfter⟩ := rightOutcome
  intro results books poisons candidates leftEpoch leftSlot rightEpoch rightSlot leftPaired rightPaired
  cases leftResult <;> cases rightResult <;> try exact results.elim
  · exact ⟨results,books,poisons,candidates,agree.drivers,agree.points,leftPaired _ _ rfl,rightPaired _ _ rfl,agree.counts,
      agree.leftTokens.keep leftEpoch leftSlot,agree.rightTokens.keep rightEpoch rightSlot⟩
  cases results
  rename_i committed
  have noted := note_committed_lockstep committed.step_seq _ _ agree.drivers
  simp only [CanonicalKernel.settle] at leftPaired rightPaired ⊢
  cases leftNoted : note_committed committed.step_seq left.kernel.driver <;>
    cases rightNoted : note_committed committed.step_seq right.kernel.driver <;> rw [leftNoted,rightNoted] at noted <;>
    simp only [leftNoted] at leftPaired <;> simp only [rightNoted] at rightPaired
  · obtain ⟨_,drivers⟩ := noted
    exact ⟨ResultsAgree.refl (.ok committed),books,poisons,candidates,drivers,rfl,leftPaired _ _ rfl,rightPaired _ _ rfl,agree.counts,
      agree.leftTokens.keep leftEpoch leftSlot,agree.rightTokens.keep rightEpoch rightSlot⟩
  · exact noted.elim
  · exact noted.elim
  obtain ⟨rfl,drivers⟩ := noted
  rename_i halt _ _
  cases halt with
  | panic site => rfl
  | fault fault =>
  exact ⟨refl fault,books,poisons,candidates,drivers,rfl,leftPaired _ _ rfl,rightPaired _ _ rfl,agree.counts,
    agree.leftTokens.keep leftEpoch leftSlot,agree.rightTokens.keep rightEpoch rightSlot⟩

/-- One abort keeps two hosts in agreement. -/
theorem abort_agree (agree : HostsAgree fork left right) (sound : NameSound fork name) :
    CallStepsAgree fork (left.call (.Abort name)) (right.call (.Abort name)) := by
  have leftPaired := agree.leftPaired.abort (left.token name)
  have rightPaired := agree.rightPaired.abort (right.token name)
  have poisons := agree.poisons
  have candidates := agree.candidates
  have named := agree.named sound
  have unchanged : ∀ fault fault', FaultsAgree fault fault' → CallStepsAgree fork
      (pure (.Aborted (.error fault),⟨{ left.kernel with transaction := left.kernel.transaction },left.tokens⟩))
      (pure (.Aborted (.error fault'),⟨{ right.kernel with transaction := right.kernel.transaction },right.tokens⟩)) :=
    fun fault fault' faults => ⟨faults,agree⟩
  have conflict : ∀ message message', FaultsAgree ⟨.TransactionConflict,message⟩ ⟨.TransactionConflict,message'⟩ :=
    fun _ _ => .inr ⟨rfl,rfl⟩
  revert leftPaired rightPaired
  simp only [Host.call,CanonicalKernel.abort,abort]
  cases leftPoison : left.kernel.transaction.poison <;> cases rightPoison : right.kernel.transaction.poison <;>
    simp only [leftPoison,rightPoison,PoisonsAgree] at poisons
  rotate_left
  · exact fun _ _ => unchanged _ _ poisons
  cases leftHeld : left.kernel.transaction.candidate <;> cases rightHeld : right.kernel.transaction.candidate <;>
    simp only [leftHeld,rightHeld,CandidatesAgree] at candidates
  · exact fun _ _ => unchanged _ _ (conflict _ _)
  rename_i candidate candidate'
  have named := named candidate candidate' leftHeld rightHeld
  simp only
  by_cases names : candidate'.token = right.token name
  rotate_left
  · rw [if_pos (fun same => names (named.mp same)),if_pos names]
    exact fun _ _ => unchanged _ _ (conflict _ _)
  rw [if_neg (not_not.mpr (named.mpr names)),if_neg (not_not.mpr names)]
  obtain ⟨point,rightPoint⟩ := Option.isSome_iff_exists.mp (agree.rightPaired.point (by simp [rightHeld]))
  simp only [agree.points,rightPoint]
  cases CanonicalKernel.rebuild_driver point with
  | error fault =>
    intro leftPaired rightPaired
    exact ⟨refl fault,agree.books,trivial,trivial,agree.drivers,rfl,leftPaired,rightPaired,agree.counts,
      agree.leftTokens.keep rfl (.inr rfl),agree.rightTokens.keep rfl (.inr rfl)⟩
  | ok driver =>
  intro leftPaired rightPaired
  exact ⟨candidates.1,agree.books,trivial,trivial,DriversAgree.refl driver,rfl,leftPaired,rightPaired,agree.counts,
    agree.leftTokens.keep rfl (.inr rfl),agree.rightTokens.keep rfl (.inr rfl)⟩

/-- The texts a call names are none that a kernel mints behind the fork. -/
def CallSound (fork : Nat) : HostCall → Prop
  | .Prepare _ => True
  | .Commit name _ | .Abort name => NameSound fork name

private theorem call_agree (agree : HostsAgree fork left right) {call : HostCall} (sound : CallSound fork call) :
    CallStepsAgree fork (left.call call) (right.call call) := by
  cases call with
  | Prepare envelope => exact prepare_agree agree envelope
  | Commit name appended_head => exact commit_agree agree sound appended_head
  | Abort name => exact abort_agree agree sound

end

private theorem transcripts_agree {fork : Nat} {left right : Host K} (agree : HostsAgree fork left right) (calls : List HostCall)
    (sound : ∀ call ∈ calls, CallSound fork call) : List.Forall₂ CallsAgree (left.transcript calls) (right.transcript calls) := by
  induction calls generalizing left right with
  | nil => exact .nil
  | cons call rest ih =>
  have stepped := call_agree agree (sound call (by simp))
  unfold Host.transcript
  cases leftCall : left.call call <;> cases rightCall : right.call call <;> rw [leftCall,rightCall] at stepped
  · exact .cons stepped .nil
  · exact stepped.elim
  · exact stepped.elim
  · obtain ⟨answers,agree⟩ := stepped
    refine .cons (views_of_books agree.books answers) ?_
    exact ih agree fun call member => sound call (by simp [member])

variable {kernel : CanonicalKernel K} {point : DriverRestorePoint K}

private theorem call_sound {calls : List HostCall} (sound : ∀ token ∈ textsOf calls, ¬Unminted kernel token) :
    ∀ call ∈ calls, CallSound kernel.transaction.prepare_epoch call := by
  intro call member
  have named : ∀ name, (call = .Abort name ∨ ∃ appended_head, call = .Commit name appended_head) →
      NameSound kernel.transaction.prepare_epoch name := by
    intro name origin
    cases name with
    | answered index => trivial
    | text token =>
    have text : token ∈ textsOf calls := by
      refine mem_filterMap.mpr ⟨call,member,?_⟩
      rcases origin with rfl | ⟨_,rfl⟩ <;> rfl
    exact fun operation_id step_seq epoch later same => sound token text ⟨operation_id,step_seq,epoch,later,same⟩
  cases call with
  | Prepare envelope => trivial
  | Commit name appended_head => exact named name (.inr ⟨appended_head,rfl⟩)
  | Abort name => exact named name (.inl rfl)

/-- A kernel with another candidate counter and an agreeing driver is the same kernel to its host. -/
theorem indistinguishable_of_agree {left right : CanonicalKernel K} (leftPaired : Paired left)
    (rightPaired : Paired right)
    (same : ∃ epoch, right.transaction.prepare_epoch ≤ epoch ∧
    left.transaction = { right.transaction with prepare_epoch := epoch })
    (idle : right.transaction.candidate = none) (drivers : DriversAgree left.driver right.driver)
    (points : left.before_candidate = right.before_candidate) : Indistinguishable left right := by
  intro calls sound
  obtain ⟨epoch,later,same⟩ := same
  suffices hosts : HostsAgree right.transaction.prepare_epoch ⟨left,[]⟩ ⟨right,[]⟩ from transcripts_agree hosts calls (call_sound sound)
  refine ⟨?_,?_,?_,drivers,points,leftPaired,rightPaired,rfl,?_,?_⟩
  · show left.transaction.books = right.transaction.books
    rw [same]
    rfl
  · show PoisonsAgree left.transaction.poison right.transaction.poison
    rw [same]
    cases right.transaction.poison with
    | none => trivial
    | some fault => exact refl fault
  · show CandidatesAgree left.transaction.candidate right.transaction.candidate
    rw [same,idle]
    trivial
  · have minted : left.transaction.prepare_epoch = epoch := by rw [same]
    have free : left.transaction.candidate = none := by rw [same]; exact idle
    exact ⟨minted ▸ later,by simp,by simp,by simp [free]⟩
  · exact ⟨Nat.le_refl _,by simp,by simp,by simp [idle]⟩

/-- A kernel at rest: with no candidate out, its configured driver would come back from its own
    projection. -/
def KernelAtRest (kernel : CanonicalKernel K) : Prop :=
  kernel.before_candidate = none → ∀ genesis_config, kernel.transaction.config = some genesis_config →
    AtRest genesis_config (values kernel.transaction.pending_effects) kernel.driver

/-- The kernel a preparation leaves that does not end in a commit: it was answered otherwise, or
    its candidate was aborted. -/
inductive Rewound (kernel : CanonicalKernel K) (envelope : WireEnvelope) : CanonicalKernel K → Prop where
  | answered {preparation : Preparation K} {after : CanonicalKernel K} : kernel.prepare envelope = .ok (preparation,after) →
      preparation.isPrepared = false → Rewound kernel envelope after
  | aborted {token : PrepareToken} {record : KernelRecord K.codec} {step : PlannedStep} {staged : CanonicalKernel K} :
      kernel.prepare envelope = .ok (.Prepared token record step,staged) → Rewound kernel envelope (staged.abort token).2

private theorem KernelAtRest.rebuild (paired : Paired kernel) (rest : KernelAtRest kernel)
    (idle : kernel.before_candidate = none) (captured : kernel.capture_driver_restore_point = .ok (.ok point)) :
    ∃ rebuilt, CanonicalKernel.rebuild_driver point = .ok rebuilt ∧ DriversAgree rebuilt kernel.driver := by
  cases configured : kernel.transaction.config with
  | none =>
    rw [capture_unconfigured _ configured] at captured
    cases captured
    have fresh := paired.unconfigured configured
    simp only [idle] at fresh
    exact ⟨.new K,rfl,fresh ▸ DriversAgree.refl _⟩
  | some genesis_config =>
  obtain ⟨state,rebuilt,projected,restored,agree⟩ := rebuild_at_rest (rest idle genesis_config configured)
  simp only [CanonicalKernel.capture_driver_restore_point,configured,CanonicalKernel.logical_state,projected,
    transition_state,bind,Except.bind,pure,Except.pure,Option.isNone_some,Bool.false_eq_true,if_false,Except.map,
    Except.ok.injEq] at captured
  subst captured
  exact ⟨rebuilt,restored,agree⟩

private theorem abort_named (candidate : Candidate K.codec) {rebuilt : OperationDriver K}
    (clean : kernel.transaction.poison = none) (held : kernel.transaction.candidate = some candidate)
    (before : kernel.before_candidate = some point) (rebuilds : CanonicalKernel.rebuild_driver point = .ok rebuilt) :
    kernel.abort candidate.token = (.ok candidate.record,
      { kernel with transaction := { kernel.transaction with candidate := none }, driver := rebuilt, before_candidate := none }) := by
  simp only [CanonicalKernel.abort,abort,clean,held,not_true_eq_false,if_false,before,rebuilds,ne_eq]

/-- The kernel behind a rewound preparation: a candidate counter further, with an agreeing driver. -/
theorem rewound_agrees {after : CanonicalKernel K} {envelope : WireEnvelope} (paired : Paired kernel)
    (rest : KernelAtRest kernel)
    (rewound : Rewound kernel envelope after) :
    after = kernel ∨ (kernel.before_candidate = none ∧ Paired after ∧ after.before_candidate = none ∧
    DriversAgree after.driver kernel.driver ∧
      ∃ epoch, kernel.transaction.prepare_epoch ≤ epoch ∧
      after.transaction = { kernel.transaction with prepare_epoch := epoch }) := by
  cases held : kernel.before_candidate with
  | some point =>
    obtain ⟨fault,refused⟩ := paired.prepare_busy (by simp [held]) envelope
    cases rewound with
    | answered prepared _ =>
      rw [refused] at prepared
      cases prepared
      exact .inl rfl
    | aborted prepared =>
    rw [refused] at prepared
    cases prepared
  | none =>
  have free := paired.free held
  cases rewound with
  | answered prepared unprepared =>
    obtain ⟨_,_,_,rfl⟩ | ⟨point,answer,transaction,driver,captured,planned,outcome⟩ := prepare_idle_cases held prepared
    · exact .inl rfl
    obtain ⟨rebuilt,rebuilds,agree⟩ := rest.rebuild paired held captured
    obtain ⟨unstaged,rfl⟩ | ⟨input,step_seq,config,step,_,_,staged,_⟩ := prepare_cases planned
    · rw [settledPlan_rebuilt unstaged rebuilds] at outcome
      cases outcome
      exact .inr ⟨rfl,paired.prepare prepared,held,agree,_,Nat.le_refl _,rfl⟩
    obtain ⟨record,_,same⟩ := stage_cases staged
    cases same
    rw [settledPlan_staged rfl] at outcome
    cases outcome
    cases unprepared
  | @aborted token record step staged prepared =>
  obtain ⟨_,_,same,_⟩ | ⟨point,answer,transaction,driver,captured,planned,outcome⟩ := prepare_idle_cases held prepared
  · cases same
  obtain ⟨rebuilt,rebuilds,agree⟩ := rest.rebuild paired held captured
  have abortPaired := (paired.prepare prepared).abort token
  obtain ⟨unstaged,rfl⟩ | ⟨input,step_seq,config,step,admitted,_,staging,_⟩ := prepare_cases planned
  · rw [settledPlan_rebuilt unstaged rebuilds] at outcome
    cases outcome
    cases unstaged
  obtain ⟨record,_,same⟩ := stage_cases staging
  cases same
  rw [settledPlan_staged rfl] at outcome
  obtain ⟨answer,same⟩ := Prod.mk.inj outcome
  cases answer
  have clean := (idle_of_preparable admitted.preparable).1
  have aborted : staged.abort _ = _ :=
    abort_named ⟨_,record,step,input,record.record_len⟩ (by rw [same]; exact clean) (by rw [same]; rfl) (by rw [same]) rebuilds
  rw [aborted] at abortPaired ⊢
  refine .inr ⟨rfl,abortPaired,rfl,agree,kernel.transaction.prepare_epoch+1,Nat.le_succ _,?_⟩
  rw [same]
  simp only [← free]

/-- A preparation at rest that does not end in a commit is unobservable: whatever a host calls
    behind it, it sees what it would have seen without it. -/
theorem rewound_indistinguishable (S : StateCodec K) {kernel after : CanonicalKernel K} {envelope : WireEnvelope}
    (reachable : Reachable S kernel)
    (rest : KernelAtRest kernel) (rewound : Rewound kernel envelope after) : Indistinguishable after kernel := by
  obtain rfl | ⟨idle,paired,point,agree,same⟩ := rewound_agrees reachable.paired rest rewound
  · exact Indistinguishable.refl after
  exact indistinguishable_of_agree paired reachable.paired same (reachable.paired.free idle) agree (point.trans idle.symm)

section Plain
open PlainParts

/-- Whether a kernel answers an envelope without staging it. -/
def answersUnstaged (kernel : CanonicalKernel K) (envelope : WireEnvelope) : Bool :=
  match kernel.prepare envelope with
  | .ok (preparation,_) => !preparation.isPrepared
  | .error _ => false

theorem rewound_of_unstaged {kernel : CanonicalKernel K} (envelope : WireEnvelope)
    (unstaged : answersUnstaged kernel envelope = true) :
    Rewound kernel envelope (drive kernel envelope) := by
  unfold answersUnstaged at unstaged
  split at unstaged
  next preparation after prepared =>
    have unprepared : preparation.isPrepared = false := by simpa using unstaged
    exact drive_unstaged prepared unprepared ▸ .answered prepared unprepared
  next => cases unstaged

/-- An agent that was started and now waits for its provider. -/
def startEnvelopes : List WireEnvelope :=
  [plainEnvelope "configure" 1 (.ConfigureOperation "ask"),plainEnvelope "start" 2 (.StartOperation (.Agent "goal" [] none) "")]
def startedAgent : CanonicalKernel plain := startEnvelopes.foldl drive (.new plain plainDefaults)

/-- An envelope whose clock runs behind. -/
def belated : WireEnvelope := plainEnvelope "late" 0 (.HostControl .ForceCompact)

set_option maxRecDepth 100000 in
theorem startedAgent_atRest : KernelAtRest startedAgent := by
  intro _ genesis_config configured
  have genesis : startedAgent.transaction.config = some (plainConfig everyEffect "ask") := by decide +kernel
  cases configured.symm.trans genesis
  exact atRest_plain (by decide +kernel)

set_option maxRecDepth 100000 in
/-- A started agent is at rest, and refuses an envelope whose clock runs behind: the refusal shows
    in nothing. -/
theorem rewound_indistinguishable_started : startedAgent.transaction.pending_effects.size = 1 ∧
    Rewound startedAgent belated (drive startedAgent belated) ∧
    Indistinguishable (drive startedAgent belated) startedAgent := by
  have rewound : Rewound startedAgent belated (drive startedAgent belated) := rewound_of_unstaged belated (by decide +kernel)
  exact ⟨by decide +kernel,rewound,
    rewound_indistinguishable plainStates (Reachable.driven (.new plainDefaults) _) startedAgent_atRest rewound⟩

/-- A turn that asks for a call that needs approval, and the agent after it. -/
def providerTurn : WireEnvelope :=
  plainEnvelope "turn" 3 (.ResolveEffect "op:step:1:effect:0" (plainTurn [⟨"call","deploy","{}"⟩]))
def awaitingApproval : CanonicalKernel plain := drive startedAgent providerTurn

def approval : WireEnvelope := plainEnvelope "approval" 4 (.ResolveEffect "op:step:2:effect:0" (.Succeeded (.Approval ["call"] [])))

/-- The effects of the step a host is shown to be prepared. -/
def preparedEffects : Call (View K) → List KernelEffect
  | .error _ => []
  | .ok view =>
    match view.answer with
    | .Prepared (.Prepared _ _ step) => step.disposition.effects
    | _ => []

private theorem preparedEffects_agree {left right : Call (View K)} (agree : CallsAgree left right) :
    preparedEffects left = preparedEffects right := by
  cases left with
  | error site =>
    cases right with
    | error site' => rfl
    | ok view => exact agree.elim
  | ok view =>
  cases right with
  | error site => exact agree.elim
  | ok view' =>
  have answers := agree.answer
  simp only [preparedEffects]
  generalize view.answer = answer at answers
  generalize view'.answer = answer' at answers
  cases answer <;> cases answer' <;> try exact answers.elim
  case Prepared.Prepared preparation preparation' =>
    cases preparation <;> cases preparation' <;> try exact answers.elim
    case Prepared.Prepared => exact congrArg (fun step : PlannedStep => step.disposition.effects) answers.2
    all_goals rfl
  all_goals rfl

set_option maxRecDepth 100000 in
/-- Not every preparation that fails is unobservable: an approval that was asked for is forgotten
    over a refused envelope, and the approved call is never executed. -/
theorem refusal_observable : ¬∀ (kernel after : CanonicalKernel plain) (envelope : WireEnvelope),
    Reachable plainStates kernel → Rewound kernel envelope after → Indistinguishable after kernel := by
  intro transparent
  have rewound : Rewound awaitingApproval belated (drive awaitingApproval belated) := rewound_of_unstaged belated (by decide +kernel)
  have reachable : Reachable plainStates awaitingApproval := (Reachable.driven (.new plainDefaults) _).drive _
  have same := transparent _ _ _ reachable rewound [.Prepare approval] (by simp [textsOf])
  have shown : ∀ (left right : List (Call (View plain))), List.Forall₂ CallsAgree left right →
      left.map preparedEffects = right.map preparedEffects := by
    intro left right agree
    induction agree with
    | nil => rfl
    | cons first _ inductive_step => rw [map_cons,map_cons,preparedEffects_agree first,inductive_step]
  exact absurd (shown _ _ same) (by decide +kernel)

end Plain

end Deepstrike.Kernel

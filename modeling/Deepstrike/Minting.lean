import Deepstrike.PlainParts
import Deepstrike.Scalars
import Deepstrike.TransactionRuns

/-!
The byte bound of branded identities, and the one place in a preparation that mints one. A token the
bound refuses is an assertion of the core, so a preparation answers only while its token is legal.
-/
namespace Deepstrike.Transaction
open Wire Record
open Scalars (validate_id)

namespace KernelTransaction
variable {Step : Type} {C : Codec Step} [TransitionStep Step]

/-- `prepare` with the mint of its token: an illegal token stops the process. -/
def prepareMinted (resolve : Resolver) (tx : KernelTransaction C) (envelope : WireEnvelope) (plan : PlanFn Step) :
    Except String (KernelPreparation C × KernelTransaction C) := do
  let (preparation,after) ← tx.prepareWith resolve envelope plan
  match preparation with
  | .Prepared token .. =>
    if (validate_id "prepare token" token).isOk then pure (preparation,after)
    else .error "an operation-scoped prepare token is always a legal branded ref"
  | preparation => pure (preparation,after)

/-- An input that reaches the mint: the guards let it through, it is planned, and its step passes the
    screen, follows the head and fits the tail. -/
structure Mints (resolve : Resolver) (tx : KernelTransaction C) (envelope : WireEnvelope) (plan : PlanFn Step) (token : PrepareToken) :
    Prop where
  staged : ∃ context step record, tx.screened resolve envelope = .ok (.planned context) ∧ plan context = .ok step ∧
    tx.stageable context step = .ok record ∧ token = prepare_token context.input.operation_id context.step_seq (tx.prepare_epoch+1)

/-- An unbound operation has nothing to look a duplicate up by. -/
structure Bound (tx : KernelTransaction C) : Prop where
  resolutions : tx.operation_id = none → tx.resolved_effects = ∅
  cancellation : tx.operation_id = none → tx.accepted_cancellation = none

variable {tx : KernelTransaction C} {α : Type}

omit [TransitionStep Step] in
private theorem Bound.of_owned (owned : tx.operation_id.isSome) : Bound tx :=
  ⟨fun unbound => by simp [unbound] at owned,fun unbound => by simp [unbound] at owned⟩

theorem Bound.folded {record : KernelRecord C} {step : Step} {input : NormalizedInput} {record_bytes : Nat}
    {after : KernelTransaction C}
    (folded : foldRecord record step input record_bytes tx = .ok () after) : Bound after := by
  refine Bound.of_owned ?_
  rw [(foldRecord_ok folded).operation_id]
  cases tx.operation_id <;> rfl

private theorem Bound.commit {tx : KernelTransaction C} (bound : Bound tx) (token : PrepareToken) (appended_head : Digest) :
    Bound (tx.commit token appended_head).2 := by
  rw [commit_eq]
  split
  · exact bound
  · exact ⟨bound.resolutions,bound.cancellation⟩
  split
  · exact ⟨bound.resolutions,bound.cancellation⟩
  split
  · exact ⟨bound.resolutions,bound.cancellation⟩
  split
  next after folded => exact Bound.folded folded
  next fault after failed =>
  refine Bound.of_owned ?_
  show after.operation_id.isSome
  rw [(foldRecord_error failed).1]
  cases tx.operation_id <;> rfl

theorem Reachable.bound {resolve : Resolver} (reachable : Reachable resolve tx) : Bound tx := by
  induction reachable with
  | new defaults index => exact ⟨fun _ => rfl,fun _ => rfl⟩
  | restored operation_id genesis_digest base state defaults index => exact Bound.of_owned rfl
  | replayed _ replayed _ =>
    obtain ⟨_,_,_,_,_,_,_,_,_,_,folded⟩ := replay_committed_ok replayed
    exact Bound.folded folded
  | prepare _ prepared bound =>
    obtain ⟨_,rfl⟩ | ⟨input,step_seq,config,step,record,_,_,_,same⟩ := prepareWith_cases prepared
    · exact bound
    · cases same
      exact ⟨bound.resolutions,bound.cancellation⟩
  | commit token appended_head _ bound => exact bound.commit token appended_head
  | @abort tx token _ bound =>
    obtain ⟨fault,same⟩ | ⟨candidate,_,_,_,same⟩ := abort_cases tx token
    · rw [same]
      exact bound
    · rw [same]
      exact ⟨bound.resolutions,bound.cancellation⟩
  | conflict token observed_head _ bound => exact ⟨bound.resolutions,bound.cancellation⟩
  | @ack tx boundary _ bound =>
  obtain ⟨tail,same⟩ := note_checkpoint_acked_tail tx boundary
  rw [same]
  exact ⟨bound.resolutions,bound.cancellation⟩

/-- A program of guards that answers or refuses, and asserts nothing it cannot keep. -/
def Settles {α : Type} (answer : Except Halt α) : Prop := ∀ site, answer ≠ .error (.panic site)

omit [TransitionStep Step] in
private theorem settles_refuse (answer : Except KernelFault α) : Settles (refuse answer) := by
  intro site
  cases answer <;> simp [refuse]

private theorem Settles.bind {β : Type} {first : Except Halt α} {next : α → Except Halt β} (firsts : Settles first)
    (nexts : ∀ value, Settles (next value)) : Settles (first >>= next) := by
  intro site
  cases outcome : first with
  | error halt =>
    intro panicked
    exact firsts site (outcome.trans (congrArg Except.error (Except.error.inj panicked)))
  | ok value => exact nexts value site

private theorem Settles.map {α β : Type} {answer : Except Halt α} (settles : Settles answer) (f : α → β) : Settles (f <$> answer) := by
  intro site
  cases outcome : answer with
  | error halt =>
    intro panicked
    exact settles site (outcome.trans (congrArg Except.error (Except.error.inj panicked)))
  | ok value => simp [Functor.map,Except.map]

private theorem settles_ok (value : α) : Settles (.ok value : Except Halt α) := fun _ => by simp

private theorem settles_fault (fault : KernelFault) : Settles (.error (.fault fault) : Except Halt α) := fun _ => by simp

omit [TransitionStep Step] in
private theorem existing_record_settles (owned : tx.operation_id.isSome) (input_id : InputId) :
    Settles (tx.existing_record input_id) := by
  unfold existing_record
  split
  next unbound => simp [unbound] at owned
  next => exact settles_ok _

omit [TransitionStep Step] in
private theorem resolve_effect_guard_settles (bound : Bound tx) (effect_id : EffectId) (outcome : EffectOutcome) :
    Settles (tx.resolve_effect_guard effect_id outcome) := by
  unfold resolve_effect_guard
  refine (settles_refuse _).bind fun digest => ?_
  split
  next resolved held =>
    have owned : tx.operation_id.isSome := by
      cases owner : tx.operation_id with
      | some _ => rfl
      | none => simp [bound.resolutions owner] at held
    split
    · exact settles_fault _
    · refine (existing_record_settles owned _).bind fun existing => ?_
      cases existing with
      | none => exact settles_fault _
      | some existing => exact (settles_refuse _).map _
  next =>
  split
  · exact settles_fault _
  · split
    · exact settles_fault _
    · exact settles_ok _

omit [TransitionStep Step] in
private theorem cancel_guard_settles (bound : Bound tx) (reason : CancellationReason) (calls : List CallId) :
    Settles (tx.cancel_guard reason calls) := by
  unfold cancel_guard
  split
  · exact settles_ok _
  next accepted held =>
  have owned : tx.operation_id.isSome := by
    cases owner : tx.operation_id with
    | some _ => rfl
    | none => simp [bound.cancellation owner] at held
  refine (settles_refuse _).bind fun digest => ?_
  split
  · exact settles_fault _
  · refine (existing_record_settles owned _).bind fun existing => ?_
    cases existing with
    | none => exact settles_fault _
    | some existing => exact (settles_refuse _).map _

omit [TransitionStep Step] in
private theorem admissionOf_settles (bound : Bound tx) (input : NormalizedInput) : Settles (tx.admissionOf input) := by
  have duplicates : Settles (tx.duplicate_guard input) := by
    unfold duplicate_guard
    split
    · exact cancel_guard_settles bound _ _
    · exact settles_ok _
  have resolutions : Settles (tx.resolution_guard input) := by
    unfold resolution_guard
    split
    · exact resolve_effect_guard_settles bound _ _
    · exact settles_ok _
  unfold admissionOf
  refine (settles_refuse _).bind fun _ => (settles_refuse _).bind fun canonical => ?_
  split
  · split
    · exact settles_fault _
    · exact (settles_refuse _).map _
  split
  · exact settles_ok _
  split
  · exact settles_fault _
  split
  · exact settles_fault _
  refine duplicates.bind fun duplicate => ?_
  split
  · exact settles_ok _
  split
  · exact settles_fault _
  refine resolutions.bind fun resolution => ?_
  split
  · exact settles_ok _
  split
  · exact settles_fault _
  refine (settles_refuse _).bind fun step_seq => ?_
  split
  · exact settles_fault _
  · exact settles_ok _

omit [TransitionStep Step] in
private theorem screened_settles (bound : Bound tx) (resolve : Resolver) (envelope : WireEnvelope) :
    Settles (tx.screened resolve envelope) := by
  unfold screened
  exact (settles_refuse _).bind fun _ => (settles_refuse _).bind fun input => admissionOf_settles bound input

/-- What a preparation owes its host: one of the three answers; no trace where it stages nothing; a
    filled slot and a moved counter where it does, which an abort of its token takes back. -/
def Answers (tx : KernelTransaction C) (answer : Except String (KernelPreparation C × KernelTransaction C)) : Prop :=
  ∃ preparation after, answer = .ok (preparation,after) ∧
    (preparation.isPrepared = false → after = tx) ∧
    ∀ token record step, preparation = .Prepared token record step →
      (∃ candidate, after = { tx with candidate := some candidate, prepare_epoch := after.prepare_epoch }) ∧
      after.abort token = (.ok record,{ tx with prepare_epoch := after.prepare_epoch })

/-- A preparation answers its host exactly when the token it mints, if it gets to that, is legal. -/
theorem prepare_answers {resolve : Resolver} {tx : KernelTransaction C} (reachable : Reachable resolve tx)
    (envelope : WireEnvelope)
    (plan : PlanFn Step) :
    Answers tx (tx.prepareMinted resolve envelope plan) ↔ ∀ token, Mints resolve tx envelope plan token →
    (validate_id "prepare token" token).isOk = true := by
  have settles := screened_settles reachable.bound resolve envelope
  have unstaged : ∀ preparation : KernelPreparation C, preparation.isPrepared = false → tx.prepareWith resolve envelope plan = .ok (preparation,tx) →
      Answers tx (tx.prepareMinted resolve envelope plan) := by
    intro preparation kind prepared
    refine ⟨preparation,tx,?_,fun _ => rfl,?_⟩
    · unfold prepareMinted
      rw [prepared]
      cases preparation with
      | Prepared token record step => cases kind
      | Replayed record digest step step_seq => rfl
      | Rejected fault => rfl
    · rintro token record step rfl
      cases kind
  cases guarded : tx.screened resolve envelope with
  | error halt =>
    cases halt with
    | panic site => exact absurd guarded (settles site)
    | fault fault =>
    refine ⟨?_,fun _ => unstaged (.Rejected fault) rfl ?_⟩
    · rintro _ token ⟨context,step,record,planned,_⟩
      cases guarded.symm.trans planned
    · rw [prepareWith_eq,guarded]
      rfl
  | ok admission =>
  cases admission with
  | answered preparation =>
    refine ⟨?_,fun _ => unstaged preparation (screened_answered guarded) ?_⟩
    · rintro _ token ⟨context,step,record,planned,_⟩
      cases guarded.symm.trans planned
    · rw [prepareWith_eq,guarded]
  | planned context =>
  cases planned : plan context with
  | error fault =>
    refine ⟨?_,fun _ => unstaged (.Rejected fault) rfl ?_⟩
    · rintro _ token ⟨_,step,record,admitted,given,_⟩
      cases guarded.symm.trans admitted
      cases planned.symm.trans given
    · rw [prepareWith_eq,guarded]
      simp only [planned]
  | ok step =>
  cases able : tx.stageable context step with
  | error fault =>
    refine ⟨?_,fun _ => unstaged (.Rejected fault) rfl ?_⟩
    · rintro _ token ⟨_,_,record,admitted,given,staged,_⟩
      cases guarded.symm.trans admitted
      cases planned.symm.trans given
      cases able.symm.trans staged
    · rw [prepareWith_eq,guarded]
      simp only [planned,staged_eq,able]
  | ok record =>
  have prepared : tx.prepareWith resolve envelope plan = .ok (tx.filled context step record) := by
    rw [prepareWith_eq,guarded]
    simp only [planned,staged_eq,able]
  have idle : tx.poison = none ∧ tx.candidate = none := by
    obtain ⟨input,admitted⟩ : ∃ input, tx.admissionOf input = .ok (.planned context) := by
      unfold screened at guarded
      simp only [bind,Except.bind] at guarded
      split at guarded
      · cases guarded
      split at guarded
      · cases guarded
      · exact ⟨_,guarded⟩
    obtain ⟨_,same,_⟩ | ⟨_,_,_,facts⟩ := admit_cases admitted
    · cases same
    · exact idle_of_preparable facts.preparable
  constructor
  · rintro ⟨preparation,after,answered,_⟩ token ⟨_,_,_,admitted,given,_,rfl⟩
    cases guarded.symm.trans admitted
    unfold prepareMinted at answered
    rw [prepared] at answered
    simp only [bind,Except.bind,filled] at answered
    split at answered
    next legal => exact legal
    next => cases answered
  intro legal
  have legal := legal _ ⟨context,step,record,guarded,planned,able,rfl⟩
  refine ⟨(tx.filled context step record).1,(tx.filled context step record).2,?_,?_,?_⟩
  · unfold prepareMinted
    rw [prepared]
    simp only [bind,Except.bind,filled,legal,if_true]
    rfl
  · rintro ⟨⟩
  · rintro token staged_record staged_step ⟨⟩
    refine ⟨⟨_,rfl⟩,?_⟩
    simp only [abort,filled,idle.1,ne_eq,not_true_eq_false,if_false]
    rw [← idle.2]

open PlainParts

/-- The genesis of an operation of this name. -/
def genesisOf (operation_id : OperationId) : WireEnvelope := ⟨operation_id,"configure",0,.ConfigureOperation ""⟩

/-- A planner with nothing to publish. -/
def quietly : PlanFn Vocabulary.PlannedStep := fun _ => .ok (.quiet none none)

private theorem short_token_legal : (match plainFresh.screened plain.resolve (genesisOf "op") with
    | .ok (.planned context) => (validate_id "prepare token" (prepare_token context.input.operation_id context.step_seq 1)).isOk
    | _ => true) = true := by decide +kernel

/-- The genesis of a short name is answered. -/
theorem short_name_answers : Answers plainFresh (plainFresh.prepareMinted plain.resolve (genesisOf "op") quietly) := by
  refine (prepare_answers (.new plainDefaults ∅) (genesisOf "op") quietly).mpr ?_
  rintro token ⟨context,step,record,admitted,_,_,rfl⟩
  have legal := short_token_legal
  rw [show plainFresh.screened plain.resolve (genesisOf "op") = .ok (.planned context) from admitted] at legal
  exact legal

/-- The longest name the wire lets through leaves no room for the token of its genesis. -/
theorem long_name_unanswered :
    validate_id "operation id" (String.ofList (List.replicate 256 'a')) = .ok () ∧ Reachable plain.resolve plainFresh ∧
      ¬Answers plainFresh (plainFresh.prepareMinted plain.resolve (genesisOf (String.ofList (List.replicate 256 'a')))
      quietly) := by
  refine ⟨by decide +kernel,.new plainDefaults ∅,?_⟩
  rintro ⟨preparation,after,answered,_⟩
  have stopped : (plainFresh.prepareMinted plain.resolve (genesisOf (String.ofList (List.replicate 256 'a'))) quietly).toBool = false := by
    decide +kernel
  rw [answered] at stopped
  cases stopped

end KernelTransaction
end Deepstrike.Transaction

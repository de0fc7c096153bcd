import Mathlib.Data.List.Nodup
import Deepstrike.PlainParts
import Deepstrike.TransactionRuns

/-!
The ledgers of published effects over the runs of a transaction: what is pending, what is resolved,
which launch tokens are spent. The screen compares the ids of a planned step with the ledgers and
never with each other, so an id is published once as long as no step names it twice.
-/
namespace Deepstrike.Transaction.KernelTransaction
open Wire Record OrderedMaps List TransitionStep KernelEffect NormalizedPayload

variable {Step : Type} {C : Codec Step}

/-- What the screen and the fold of a record know about effects. -/
structure Ledgers where
  pending : OrdMap KernelEffect
  resolved : OrdMap ResolvedEffectRecord
  tokens : OrdMap Nat
  lifecycle : OperationLifecycle
  terminal : Option KernelTerminal
  config : Option ResolvedOperationConfig

def ledgers (tx : KernelTransaction C) : Ledgers :=
  ⟨tx.pending_effects,tx.resolved_effects,tx.launch_tokens,tx.lifecycle,tx.terminal,tx.config⟩

/-- The identities a list of effects publishes. -/
def effectIds (effects : List KernelEffect) : List EffectId := effects.map effect_id
def launchTokens (effects : List KernelEffect) : List LaunchToken := effects.flatMap screen_effect.launches

private theorem mem_publishedOver (pending : OrdMap KernelEffect) (effects : List KernelEffect) (id : EffectId) :
    id ∈ publishedOver pending effects ↔ id ∈ pending ∨ id ∈ effectIds effects :=
  mem_foldl_insert effect_id (fun effect => effect) effects pending id

private theorem mem_mintedOver (step_seq : Nat) (tokens : OrdMap Nat) (effects : List KernelEffect) (token : LaunchToken) :
    token ∈ mintedOver step_seq tokens effects ↔ token ∈ tokens ∨ token ∈ launchTokens effects := by
  have flat : mintedOver step_seq tokens effects = (launchTokens effects).foldl (fun tokens token => tokens.insert token step_seq) tokens :=
    (foldl_flatMap ..).symm
  rw [flat]
  simpa using mem_foldl_insert (fun token => token) (fun _ => step_seq) (launchTokens effects) tokens token

/-- What the screen says about one effect of a step, apart from the effects beside it. -/
structure Publishable (ledgers : Ledgers) (config : ResolvedOperationConfig) (settled : Option EffectId)
    (effect : KernelEffect) : Prop where
  supported : config.supports effect.tag
  not_pending : effect.effect_id ∉ ledgers.pending
  not_resolved : effect.effect_id ∉ ledgers.resolved
  not_settled : some effect.effect_id ≠ settled
  only : ∀ id pending, ledgers.pending[id]? = some pending → pending.tag = effect.tag → some id = settled

/-- What the screen says about the effects of a step, behind the kinds and tokens it has seen. -/
structure Screens (ledgers : Ledgers) (config : ResolvedOperationConfig) (settled : Option EffectId) (kinds : List EffectKindTag)
    (seen : List LaunchToken) (effects : List KernelEffect) : Prop where
  publishable : ∀ effect ∈ effects, Publishable ledgers config settled effect
  kinds : (kinds ++ effects.map tag).Nodup
  unspent : ∀ token ∈ launchTokens effects, token ∉ ledgers.tokens
  tokens : (seen ++ launchTokens effects).Nodup

private theorem nodup_snoc {α : Type} {seen : List α} {next : α} (distinct : seen.Nodup) (fresh : next ∉ seen) : (seen ++ [next]).Nodup := by
  refine nodup_append.mpr ⟨distinct,nodup_singleton next,?_⟩
  rintro other member _ single rfl
  exact fresh (mem_singleton.mp single ▸ member)

variable {seen : List LaunchToken} {config : ResolvedOperationConfig} {settled : Option EffectId} {kinds : List EffectKindTag} {effect : KernelEffect}
variable {input : NormalizedInput} {lifecycle : OperationLifecycle} {resolve : Resolver} {plans : PlanFn Step → Prop} {defaults : ConfigDefaults}
variable {index : RecordIndex C}

private theorem screen_tokens_ok {tx : KernelTransaction C} {launches : List LaunchToken} (distinct : seen.Nodup)
    (screened : screen_effect.screen_tokens tx seen launches = .ok ()) :
    (∀ token ∈ launches, token ∉ tx.launch_tokens) ∧ (seen ++ launches).Nodup := by
  induction launches generalizing seen with
  | nil => exact ⟨by simp,by simpa using distinct⟩
  | cons token rest ih =>
  unfold screen_effect.screen_tokens at screened
  split at screened
  · cases screened
  next fresh =>
  rw [not_or] at fresh
  have longer : (seen ++ [token]).Nodup := nodup_snoc distinct fresh.2
  obtain ⟨unspent,tokens⟩ := ih longer screened
  refine ⟨?_,by simpa using tokens⟩
  rintro other member
  obtain rfl | later := mem_cons.mp member
  · exact fresh.1
  · exact unspent other later

private theorem screen_effect_ok {tx : KernelTransaction C} (distinct : seen.Nodup)
    (screened : tx.screen_effect config settled kinds seen effect = .ok ()) :
    Publishable tx.ledgers config settled effect ∧ effect.tag ∉ kinds ∧ (∀ token ∈ screen_effect.launches effect, token ∉ tx.launch_tokens) ∧
      (seen ++ screen_effect.launches effect).Nodup := by
  unfold screen_effect at screened
  split at screened
  · cases screened
  next supported =>
  split at screened
  · cases screened
  next fresh =>
  split at screened
  · cases screened
  next alone =>
  rw [not_or,not_or] at fresh
  rw [not_or] at alone
  refine ⟨⟨not_not.mp supported,fresh.1,fresh.2.1,fresh.2.2,?_⟩,alone.1,screen_tokens_ok distinct screened⟩
  intro id pending held same
  by_contra other
  apply alone.2
  rw [any_eq_true]
  refine ⟨(id,pending),Std.ExtTreeMap.mem_toList_iff_getElem?_eq_some.mpr held,?_⟩
  simp [same,other]

private theorem screen_from_ok {tx : KernelTransaction C} {effects : List KernelEffect} (kinds_distinct : kinds.Nodup)
    (tokens_distinct : seen.Nodup) (screened : tx.screen_from config settled kinds seen effects = .ok ()) :
    Screens tx.ledgers config settled kinds seen effects := by
  induction effects generalizing kinds seen with
  | nil => exact ⟨by simp,by simpa using kinds_distinct,by simp [launchTokens],by simpa [launchTokens] using tokens_distinct⟩
  | cons effect rest ih =>
  simp only [screen_from,bind,Except.bind] at screened
  split at screened
  · cases screened
  next accepted =>
  obtain ⟨publishable,fresh,unspent,tokens⟩ := screen_effect_ok tokens_distinct accepted
  have longer : (kinds ++ [effect.tag]).Nodup := nodup_snoc kinds_distinct fresh
  have behind := ih longer tokens screened
  refine ⟨?_,by simpa using behind.kinds,?_,by simpa [launchTokens] using behind.tokens⟩
  · intro other member
    obtain rfl | later := mem_cons.mp member
    · exact publishable
    · exact behind.publishable other later
  · intro token member
    obtain first | later := mem_append.mp (flatMap_cons ▸ member : token ∈ screen_effect.launches effect ++ launchTokens rest)
    · exact unspent token first
    · exact behind.unspent token later

private theorem mem_unsettled (pending : OrdMap KernelEffect) (input : NormalizedInput) (id : EffectId) :
    id ∈ unsettled pending input ↔ id ∈ pending ∧ input.settles ≠ some id := by
  unfold unsettled
  split
  next settled named =>
    rw [Std.ExtTreeMap.mem_erase,ne_eq,Std.LawfulEqCmp.compare_eq_iff_eq,named,ne_eq,Option.some.injEq,and_comm]
  next unnamed => simp [unnamed]

private theorem unsettled_origin {pending : OrdMap KernelEffect} {id : EffectId}
    (held : (unsettled pending input)[id]? = some effect) : pending[id]? = some effect ∧ input.settles ≠ some id := by
  have member : id ∈ unsettled pending input := Std.ExtTreeMap.mem_iff_isSome_getElem?.mpr (by rw [held]; rfl)
  refine ⟨?_,((mem_unsettled pending input id).mp member).2⟩
  unfold unsettled at held
  split at held
  · rw [Std.ExtTreeMap.getElem?_erase] at held
    split at held
    · cases held
    · exact held
  · exact held

private theorem mem_resolvedBy {record : KernelRecord C} {resolved grown : OrdMap ResolvedEffectRecord}
    (noted : resolvedBy record input resolved = .ok grown) (id : EffectId) : id ∈ grown ↔ id ∈ resolved ∨ input.settles = some id := by
  unfold resolvedBy at noted
  unfold NormalizedInput.settles
  cases kind : input.input with
  | ResolveEffect settled outcome =>
    simp only [kind] at noted
    cases digest : kernel_outcome_digest (C := C) outcome with
    | error fault => simp [digest,Except.map] at noted
    | ok value =>
    simp only [digest,Except.map,Except.ok.injEq] at noted
    rw [← noted,Std.ExtTreeMap.mem_insert,Std.LawfulEqCmp.compare_eq_iff_eq,Option.some.injEq,or_comm]
  | _ =>
  simp only [kind] at noted
  cases noted
  simp

theorem open_of_admissible {payload : NormalizedPayload} (admissible : lifecycle ∈ payload.admissible_lifecycles) :
    lifecycle.is_terminal = false := by
  cases payload <;> simp only [admissible_lifecycles,mem_cons,not_mem_nil,or_false] at admissible <;>
    obtain rfl | rfl | rfl := admissible <;> rfl

private theorem advance_lifecycle_open {tx : KernelTransaction C} (admissible : tx.lifecycle ∈ input.input.admissible_lifecycles) :
    (tx.advance_lifecycle input).lifecycle ≠ .Created ∧ (tx.advance_lifecycle input).lifecycle.is_terminal = false := by
  have standing := open_of_admissible admissible
  unfold advance_lifecycle
  cases kind : input.input with
  | ConfigureOperation config => exact ⟨by simp,rfl⟩
  | StartOperation entry context => exact ⟨by simp,rfl⟩
  | ResolveEffect _ _ | DeliverSignal _ | ChildCompleted _ | HostControl _ =>
  refine ⟨?_,standing⟩
  intro created
  simp [kind,admissible_lifecycles,show tx.lifecycle = .Created from created] at admissible

private theorem created_of_genesis
    (admissible : lifecycle ∈ input.input.admissible_lifecycles) (genesis : input.resolved_config = some config) : lifecycle = .Created := by
  unfold NormalizedInput.resolved_config at genesis
  split at genesis
  next kind => simpa [kind,admissible_lifecycles] using admissible
  next => cases genesis

private theorem terminal_lifecycle_closed (terminal : KernelTerminal) : (terminal_lifecycle terminal).is_terminal = true := by
  cases terminal <;> rfl

variable [TransitionStep Step]

/-- The identities the committed steps of a run published. -/
def publishedIds (trace : List (CommittedTransition C)) : List EffectId :=
  trace.flatMap fun transition => effectIds (effects transition.step)
def publishedTokens (trace : List (CommittedTransition C)) : List LaunchToken :=
  trace.flatMap fun transition => launchTokens (effects transition.step)

/-- The books behind a run. While the operation is open every published id is pending or resolved. -/
structure Books (ledgers : Ledgers) (trace : List (CommittedTransition C)) : Prop where
  keyed : KeyedBy effect_id ledgers.pending
  disjoint : ∀ id, id ∈ ledgers.pending → id ∉ ledgers.resolved
  one_per_kind : ∀ (left right : EffectId) (first second : KernelEffect), ledgers.pending[left]? = some first →
    ledgers.pending[right]? = some second →
    first.tag = second.tag → left = right
  supported : ∀ (id : EffectId) (effect : KernelEffect), ledgers.pending[id]? = some effect →
    ∃ config, ledgers.config = some config ∧ config.supports effect.tag
  created : ledgers.lifecycle = .Created → ledgers.pending = ∅
  closed : ledgers.lifecycle.is_terminal → ledgers.pending = ∅
  ended : ledgers.terminal.isSome → ledgers.lifecycle.is_terminal
  known : ledgers.lifecycle.is_terminal = false → ∀ id ∈ publishedIds trace, id ∈ ledgers.pending ∨ id ∈ ledgers.resolved
  spent : ∀ token ∈ publishedTokens trace, token ∈ ledgers.tokens
  tokens_once : (publishedTokens trace).Nodup

/-- A candidate the guards and the screen have let through against these ledgers. -/
structure Screened (ledgers : Ledgers) (candidate : Candidate C) : Prop where
  admissible : ledgers.lifecycle ∈ candidate.input.input.admissible_lifecycles
  digested : ∀ record : KernelRecord C, ∃ resolved, resolvedBy record candidate.input ledgers.resolved = .ok resolved
  screens : ∃ config, candidate.input.resolved_config.or ledgers.config = some config ∧
    Screens ledgers config candidate.input.settles [] [] (effects candidate.step)

private theorem publishedIds_snoc (trace : List (CommittedTransition C)) (transition : CommittedTransition C) :
    publishedIds (trace ++ [transition]) = publishedIds trace ++ effectIds (effects transition.step) := by
  simp [publishedIds]

private theorem publishedTokens_snoc (trace : List (CommittedTransition C)) (transition : CommittedTransition C) :
    publishedTokens (trace ++ [transition]) = publishedTokens trace ++ launchTokens (effects transition.step) := by
  simp [publishedTokens]

section
variable {tx after : KernelTransaction C} {trace : List (CommittedTransition C)} {candidate : Candidate C} {record : KernelRecord C}
  {record_bytes : Nat}

section
variable (facts : FoldedTo record candidate.step candidate.input record_bytes tx after)
include facts

private theorem pending_of_open
    (running : TransitionStep.terminal candidate.step = none) :
    after.pending_effects = publishedOver (unsettled tx.pending_effects candidate.input) (effects candidate.step) := by
  rw [facts.pending,running]

variable {terminal : KernelTerminal}

private theorem pending_of_closed
    (closing : TransitionStep.terminal candidate.step = some terminal) : after.pending_effects = ∅ := by
  rw [facts.pending,closing]

private theorem lifecycle_of_open
    (running : TransitionStep.terminal candidate.step = none) : after.lifecycle = (tx.advance_lifecycle candidate.input).lifecycle := by
  rw [facts.lifecycle,running]

private theorem lifecycle_of_closed
    (closing : TransitionStep.terminal candidate.step = some terminal) : after.lifecycle = terminal_lifecycle terminal := by
  rw [facts.lifecycle,closing]

private theorem pending_origin {id : EffectId}
    {effect : KernelEffect} (held : after.pending_effects[id]? = some effect) :
    (effect ∈ TransitionStep.effects candidate.step ∧ effect.effect_id = id) ∨
      (tx.pending_effects[id]? = some effect ∧ candidate.input.settles ≠ some id) := by
  cases ends : TransitionStep.terminal candidate.step with
  | some terminal => simp [pending_of_closed facts ends] at held
  | none =>
  rw [pending_of_open facts ends] at held
  obtain ⟨entry,member,named,rfl⟩ | before := foldl_insert_origin effect_id (fun effect => effect) held
  · exact .inl ⟨member,named⟩
  · exact .inr (unsettled_origin before)

end

private theorem Books.unpublished (books : Books tx.ledgers trace) (screened : Screened tx.ledgers candidate) (id : EffectId)
    (earlier : id ∈ publishedIds trace) : id ∉ effectIds (effects candidate.step) := by
  intro later
  obtain ⟨config,_,screens⟩ := screened.screens
  obtain ⟨effect,member,rfl⟩ := mem_map.mp later
  have fresh := screens.publishable effect member
  obtain pending | resolved := books.known (open_of_admissible screened.admissible) _ earlier
  · exact fresh.not_pending pending
  · exact fresh.not_resolved resolved

/-- The fold of a screened candidate keeps the books. -/
theorem Books.folded (books : Books tx.ledgers trace) (screened : Screened tx.ledgers candidate)
    (facts : FoldedTo record candidate.step candidate.input record_bytes tx after) {transition : CommittedTransition C}
    (committed : transition.step = candidate.step) : Books after.ledgers (trace ++ [transition]) := by
  obtain ⟨config,configured,screens⟩ := screened.screens
  have standing : tx.lifecycle.is_terminal = false := open_of_admissible screened.admissible
  refine ⟨?_,?_,?_,?_,?_,?_,?_,?_,?_,?_⟩
  · intro id effect held
    obtain ⟨_,named⟩ | ⟨before,_⟩ := pending_origin facts held
    · exact named
    · exact books.keyed id effect before
  · intro id pending resolved
    obtain ⟨effect,held⟩ := Option.isSome_iff_exists.mp (Std.ExtTreeMap.mem_iff_isSome_getElem?.mp pending)
    have known := (mem_resolvedBy facts.resolution id).mp resolved
    obtain ⟨member,rfl⟩ | ⟨before,unsettled⟩ := pending_origin facts held
    · have fresh := screens.publishable effect member
      obtain resolved | settled := known
      · exact fresh.not_resolved resolved
      · exact fresh.not_settled settled.symm
    · obtain resolved | settled := known
      · exact books.disjoint id (Std.ExtTreeMap.mem_iff_isSome_getElem?.mpr (Option.isSome_iff_exists.mpr ⟨effect,before⟩)) resolved
      · exact unsettled settled
  · intro left right first second held held' same
    obtain ⟨member,rfl⟩ | ⟨before,unsettled⟩ := pending_origin facts held <;>
      obtain ⟨member',rfl⟩ | ⟨before',unsettled'⟩ := pending_origin facts held'
    · rw [inj_on_of_nodup_map (by simpa using screens.kinds) member member' same]
    · exact absurd ((screens.publishable first member).only right second before' same.symm).symm unsettled'
    · exact absurd ((screens.publishable second member').only left first before same).symm unsettled
    · exact books.one_per_kind left right first second before before' same
  · intro id effect held
    refine ⟨config,facts.config.trans configured,?_⟩
    obtain ⟨member,_⟩ | ⟨before,_⟩ := pending_origin facts held
    · exact (screens.publishable effect member).supported
    -- Only the genesis changes the configuration, and nothing is pending before it.
    cases genesis : candidate.input.resolved_config with
    | some resolved =>
      have empty : tx.pending_effects = ∅ := books.created (created_of_genesis screened.admissible genesis)
      simp [empty] at before
    | none =>
    obtain ⟨standing,held,supported⟩ := books.supported id effect before
    rw [genesis,Option.none_or,held] at configured
    exact Option.some.inj configured ▸ supported
  · intro created
    cases ends : TransitionStep.terminal candidate.step with
    | some terminal => exact pending_of_closed facts ends
    | none =>
    rw [show after.ledgers.lifecycle = _ from lifecycle_of_open facts ends] at created
    exact absurd created (advance_lifecycle_open screened.admissible).1
  · intro closed
    cases ends : TransitionStep.terminal candidate.step with
    | some terminal => exact pending_of_closed facts ends
    | none =>
    rw [show after.ledgers.lifecycle = _ from lifecycle_of_open facts ends,(advance_lifecycle_open screened.admissible).2] at closed
    cases closed
  · intro ended
    cases ends : TransitionStep.terminal candidate.step with
    | some terminal =>
      show after.lifecycle.is_terminal
      rw [lifecycle_of_closed facts ends]
      exact terminal_lifecycle_closed terminal
    | none =>
    rw [show after.ledgers.terminal = _ from facts.terminal,ends,Option.none_or] at ended
    rw [show tx.lifecycle.is_terminal = true from books.ended ended] at standing
    cases standing
  · intro opened id member
    cases ends : TransitionStep.terminal candidate.step with
    | some terminal =>
      rw [show after.ledgers.lifecycle = _ from lifecycle_of_closed facts ends,terminal_lifecycle_closed] at opened
      cases opened
    | none =>
    show id ∈ after.pending_effects ∨ id ∈ after.resolved_effects
    rw [pending_of_open facts ends,mem_publishedOver,mem_unsettled,mem_resolvedBy facts.resolution]
    rw [publishedIds_snoc,committed,mem_append] at member
    obtain earlier | own := member
    · obtain pending | resolved := books.known standing id earlier
      · by_cases settled : candidate.input.settles = some id
        · exact .inr (.inr settled)
        · exact .inl (.inl ⟨pending,settled⟩)
      · exact .inr (.inl resolved)
    · exact .inl (.inr own)
  · intro token member
    rw [publishedTokens_snoc,committed,mem_append] at member
    show token ∈ after.launch_tokens
    rw [facts.tokens,mem_mintedOver]
    exact member.imp_left (books.spent token)
  · rw [publishedTokens_snoc,committed]
    refine nodup_append.mpr ⟨books.tokens_once,by simpa using screens.tokens,?_⟩
    rintro token earlier _ later rfl
    exact screens.unspent token later (books.spent token earlier)

end

omit [TransitionStep Step] in
private theorem resolvedBy_of_guard {tx : KernelTransaction C} (guarded : tx.resolution_guard input = .ok none)
    (record : KernelRecord C) : ∃ resolved, resolvedBy record input tx.resolved_effects = .ok resolved := by
  unfold resolvedBy
  unfold resolution_guard at guarded
  cases kind : input.input with
  | ResolveEffect effect_id outcome =>
    simp only [kind] at guarded
    unfold resolve_effect_guard at guarded
    cases digest : kernel_outcome_digest (C := C) outcome with
    | error fault => simp [digest,refuse,bind,Except.bind] at guarded
    | ok value =>
    simp only [digest,Except.map]
    exact ⟨_,rfl⟩
  | _ => exact ⟨_,rfl⟩

private theorem Screened.of_filled {tx : KernelTransaction C} {step_seq : Nat} {step : Step}
    {record : KernelRecord C} (admitted : Admitted tx input step_seq config)
    (able : tx.stageable (tx.plan_context input step_seq config) step = .ok record) (token : PrepareToken) (record_bytes : Nat) :
    Screened tx.ledgers (⟨token,record,step,input,record_bytes⟩ : Candidate C) := by
  refine ⟨admitted.admissible,resolvedBy_of_guard admitted.unresolved,config,admitted.configured,?_⟩
  refine screen_from_ok nodup_nil nodup_nil ?_
  unfold stageable at able
  cases screened : tx.screen_planned_effects step config input.settles with
  | error fault => simp [plan_context,screened,bind,Except.bind] at able
  | ok _ => exact screened

/-- The books of a run and the candidate they were screened for. -/
structure Kept (tx : KernelTransaction C) (trace : List (CommittedTransition C)) : Prop where
  books : Books tx.ledgers trace
  candidate : ∀ candidate, tx.candidate = some candidate → Screened tx.ledgers candidate

/-- A refused commit keeps the books: the fold of a screened candidate breaks off only at the
    digest of a cancellation, before it has touched a ledger. -/
theorem Kept.refused {tx after : KernelTransaction C} {trace : List (CommittedTransition C)} {token : PrepareToken}
    {appended_head : Digest}
    {fault : KernelFault} (kept : Kept tx trace) (refused : tx.commit token appended_head = (.error fault,after)) :
    Kept after trace := by
  have emptied : ∀ poison, Kept { tx with candidate := none, poison } trace := fun poison => ⟨kept.books,by rintro _ ⟨⟩⟩
  rw [commit_eq] at refused
  cases poisoned : tx.poison with
  | some fault =>
    simp only [poisoned] at refused
    cases refused
    exact kept
  | none =>
  cases held : tx.candidate with
  | none =>
    simp only [poisoned,held] at refused
    cases refused
    exact emptied _
  | some candidate =>
  simp only [poisoned,held] at refused
  split at refused
  · cases refused
    exact emptied _
  split at refused
  · cases refused
    exact emptied _
  split at refused
  · cases refused
  next failure folded failed =>
  cases refused
  have screened := kept.candidate candidate held
  obtain ⟨_,⟨uncancelled,rfl⟩ | unresolved | ⟨_,ended⟩⟩ := foldRecord_error failed
  · refine ⟨?_,by rintro _ ⟨⟩⟩
    unfold cancelledBy at uncancelled
    split at uncancelled
    next reason calls kind =>
      simp only [advance_lifecycle,kind]
      exact kept.books
    next => cases uncancelled
  · obtain ⟨resolved,digested⟩ := screened.digested candidate.record
    cases digested.symm.trans unresolved
  · have standing := open_of_admissible screened.admissible
    rw [kept.books.ended ended] at standing
    cases standing

/-- Every run keeps its books. -/
theorem Run.kept {tx : KernelTransaction C}
    {trace : List (CommittedTransition C)} (run : Run resolve plans defaults index tx trace) : Kept tx trace := by
  induction run with
  | new =>
    refine ⟨⟨KeyedBy.empty _,?_,?_,?_,fun _ => rfl,fun _ => rfl,?_,?_,?_,nodup_nil⟩,by rintro _ ⟨⟩⟩
    · intro id pending
      simp [ledgers,KernelTransaction.new] at pending
    · intro left right first second held
      simp [ledgers,KernelTransaction.new] at held
    · intro id effect held
      simp [ledgers,KernelTransaction.new] at held
    · rintro ⟨⟩
    · rintro _ id ⟨⟩
    · rintro token ⟨⟩
  | prepare run _ prepared kept =>
    obtain ⟨_,rfl⟩ | ⟨input,step_seq,config,step,record,admitted,_,able,same⟩ := prepareWith_cases prepared
    · exact kept
    · cases same
      refine ⟨kept.books,?_⟩
      rintro candidate ⟨⟩
      exact Screened.of_filled admitted able _ _
  | @commit tx after trace token appended_head transition run committed kept =>
    obtain ⟨_,same,_⟩ | ⟨candidate,_,held,_,_,folded,same⟩ := commit_cases committed
    · cases same
    cases same
    have facts := foldRecord_ok folded
    have books : Books (ledgers { tx with candidate := none }) trace := kept.books
    refine ⟨books.folded (kept.candidate candidate held) facts rfl,?_⟩
    intro other staged
    rw [facts.candidate] at staged
    cases staged
  | refused run refused kept => exact kept.refused refused
  | @abort tx trace token run kept =>
    obtain ⟨fault,same⟩ | ⟨candidate,_,_,_,same⟩ := abort_cases tx token
    · rw [same]
      exact kept
    · rw [same]
      exact ⟨kept.books,by rintro _ ⟨⟩⟩
  | conflict token observed_head run kept => exact ⟨kept.books,by rintro _ ⟨⟩⟩
  | @ack tx trace boundary run kept =>
  obtain ⟨tail,same⟩ := note_checkpoint_acked_tail tx boundary
  rw [same]
  exact ⟨kept.books,kept.candidate⟩

/-- Every step a run committed names each of its effects once. -/
def Distinct (trace : List (CommittedTransition C)) : Prop :=
  ∀ transition ∈ trace, (effectIds (effects transition.step)).Nodup

theorem Run.ids_once
    {tx : KernelTransaction C} {trace : List (CommittedTransition C)} (run : Run resolve plans defaults index tx trace)
    (distinct : Distinct trace) : (publishedIds trace).Nodup := by
  induction run with
  | new => exact nodup_nil
  | prepare _ _ _ ih => exact ih distinct
  | commit run committed ih =>
    have earlier := ih fun transition member => distinct transition (mem_append_left _ member)
    have own := distinct _ (mem_append_right _ (mem_singleton_self _))
    have kept := run.kept
    obtain ⟨_,same,_⟩ | ⟨candidate,_,held,_,_,_,same⟩ := commit_cases committed
    · cases same
    cases same
    rw [publishedIds_snoc]
    refine nodup_append.mpr ⟨earlier,own,?_⟩
    rintro id published _ later rfl
    exact kept.books.unpublished (kept.candidate candidate held) id published later
  | refused _ _ ih => exact ih distinct
  | abort _ _ ih => exact ih distinct
  | conflict _ _ _ ih => exact ih distinct
  | ack _ _ ih => exact ih distinct

/-- What the host may rely on about published effects behind a run. -/
structure PublishedOnce (tx : KernelTransaction C) (trace : List (CommittedTransition C)) : Prop where
  disjoint : ∀ id, id ∈ tx.pending_effects → id ∉ tx.resolved_effects
  one_per_kind : ∀ (left right : EffectId) (first second : KernelEffect), tx.pending_effects[left]? = some first →
    tx.pending_effects[right]? = some second → first.tag = second.tag → left = right
  ids_once : (publishedIds trace).Nodup
  tokens_once : (publishedTokens trace).Nodup
  supported : ∀ (id : EffectId) (effect : KernelEffect), tx.pending_effects[id]? = some effect →
    ∃ config, tx.config = some config ∧ config.supports effect.tag
  closed : tx.lifecycle.is_terminal → tx.pending_effects = ∅

/-- Every effect of a step waits on the host right after its commit. -/
def Awaited (after : KernelTransaction C) (transition : CommittedTransition C) : Prop :=
  ∀ effect ∈ effects transition.step, after.pending_effects[effect.effect_id]? = some effect

instance (after : KernelTransaction C) (transition : CommittedTransition C) : Decidable (Awaited after transition) :=
  inferInstanceAs (Decidable (∀ effect ∈ effects transition.step, after.pending_effects[effect.effect_id]? = some effect))

/-- Along a run under any planners, effects and launch tokens are published once exactly when no
    committed step names an effect twice; and a commit that ends nothing leaves all its effects
    pending exactly when its step names none twice. -/
theorem published_once {resolve : Resolver} {defaults : ConfigDefaults} {index : RecordIndex C}
    {tx : KernelTransaction C}
    {trace : List (CommittedTransition C)} (run : Run resolve (fun _ => True) defaults index tx trace) :
    (PublishedOnce tx trace ↔ Distinct trace) ∧
      ∀ token appended_head transition after, tx.commit token appended_head = (.ok transition,after) →
        TransitionStep.terminal transition.step = none →
        (Awaited after transition ↔ (effectIds (TransitionStep.effects transition.step)).Nodup) := by
  have kept := run.kept
  refine ⟨⟨?_,?_⟩,?_⟩
  · intro published transition member
    exact (nodup_flatMap.mp published.ids_once).1 transition member
  · intro distinct
    exact ⟨kept.books.disjoint,kept.books.one_per_kind,run.ids_once distinct,kept.books.tokens_once,kept.books.supported,kept.books.closed⟩
  intro token appended_head transition after committed running
  obtain ⟨_,same,_⟩ | ⟨candidate,_,held,_,_,folded,same⟩ := commit_cases committed
  · cases same
  cases same
  obtain ⟨config,_,screens⟩ := (kept.candidate candidate held).screens
  constructor
  · intro awaited
    -- Two effects of one id are of different kinds, and the id answers for one of them only.
    refine List.Nodup.map_on ?_ (List.Nodup.of_map tag (by simpa using screens.kinds))
    intro left member right member' same
    have first := awaited left member
    have second := awaited right member'
    rw [same,second] at first
    exact (Option.some.inj first).symm
  · intro once effect member
    rw [pending_of_open (foldRecord_ok folded) running]
    exact foldl_insert_of_nodup effect_id (fun effect => effect) once member _

open PlainParts

/-- A planner that asks for one payload and one tool turn under these ids. -/
def asking (load tools : EffectId) : PlanFn Vocabulary.PlannedStep :=
  fun context => .ok ⟨none,none,[],.Effects
    [⟨load,context.input.input_id,.LoadPayload "handle" "ref"⟩,⟨tools,context.input.input_id,.ExecuteTools []⟩]⟩

/-- The genesis of the plain operation under such a planner. -/
def genesisAsking (load tools : EffectId) : Option (CommittedTransition plainCodec × KernelTransaction plainCodec) :=
  plainFresh.transact plain.resolve (plainEnvelope "configure" 0 (.ConfigureOperation "")) (asking load tools)

private theorem genesisAsking_run {load tools : EffectId} {transition : CommittedTransition plainCodec} {after : KernelTransaction plainCodec}
    (through : genesisAsking load tools = some (transition,after)) :
    Run plain.resolve (fun _ => True) plainDefaults ∅ after [transition] :=
  Run.transact .new trivial through

/-- A genesis with two ids publishes both once. -/
theorem published_once_apart :
    ∃ transition after, genesisAsking "first" "second" = some (transition,after) ∧
    PublishedOnce after [transition] := by
  obtain ⟨⟨transition,after⟩,through,apart⟩ := (Option.any_eq_true _ _).mp (show (genesisAsking "first" "second").any fun (transition,_) =>
    decide (effectIds (TransitionStep.effects transition.step)).Nodup from by decide +kernel)
  refine ⟨transition,after,through,(published_once (genesisAsking_run through)).1.mpr ?_⟩
  intro other member
  rw [mem_singleton.mp member]
  exact of_decide_eq_true apart

/-- A genesis that gives one id to both of its effects commits, and the first of them is lost. -/
theorem one_id_for_two_effects :
    ∃ transition after, genesisAsking "twice" "twice" = some (transition,after) ∧
      Run plain.resolve (fun _ => True) plainDefaults ∅ after [transition] ∧ ¬PublishedOnce after [transition] ∧
      ¬Awaited after transition := by
  obtain ⟨⟨transition,after⟩,through,lost⟩ := (Option.any_eq_true _ _).mp (show (genesisAsking "twice" "twice").any fun (transition,after) =>
    decide (¬(publishedIds [transition]).Nodup ∧ ¬Awaited after transition) from by decide +kernel)
  obtain ⟨repeated,unawaited⟩ := of_decide_eq_true lost
  exact ⟨transition,after,through,genesisAsking_run through,fun published => repeated published.ids_once,unawaited⟩

end Deepstrike.Transaction.KernelTransaction

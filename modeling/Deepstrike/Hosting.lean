import Deepstrike.Kernel
import Deepstrike.Preparing
import Mathlib.Data.List.Forall2

/-!
A host at work: the calls it makes, the tokens it was handed, and what it gets to see. Two kernels
are indistinguishable when no further calls show a host a difference.
-/
namespace Deepstrike.Kernel
open Wire Record Transaction Driver

variable {K : Parts}

/-- How a host names a candidate: by the preparation that handed it the token, or by a text it
    has from elsewhere. -/
inductive TokenName where
  | answered (index : Nat)
  | text (token : PrepareToken)
  deriving DecidableEq,Repr

inductive HostCall where
  | Prepare (envelope : WireEnvelope)
  | Commit (token : TokenName) (appended_head : Digest)
  | Abort (token : TokenName)
  deriving DecidableEq,Repr

/-- A kernel with the tokens it has handed out to this host, in order. -/
structure Host (K : Parts) where
  kernel : CanonicalKernel K
  tokens : List PrepareToken

inductive Answer (K : Parts) where
  | Prepared (preparation : Preparation K)
  | Committed (result : Except KernelFault (CommittedTransition K.codec))
  | Aborted (result : Except KernelFault (KernelRecord K.codec))

def Host.token (host : Host K) : TokenName → PrepareToken
  | .answered index => host.tokens[index]?.getD ""
  | .text token => token

/-- The token a preparation hands out. -/
def handedOut : Preparation K → List PrepareToken
  | .Prepared token _ _ => [token]
  | .Replayed .. | .Rejected _ => []

def Host.call (host : Host K) : HostCall → Call (Answer K × Host K)
  | .Prepare envelope => do
    let (preparation,kernel) ← host.kernel.prepare envelope
    pure (.Prepared preparation,⟨kernel,host.tokens ++ handedOut preparation⟩)
  | .Commit token appended_head => do
    let (result,kernel) ← host.kernel.commit (host.token token) appended_head
    pure (.Committed result,⟨kernel,host.tokens⟩)
  | .Abort token =>
    let (result,kernel) := host.kernel.abort (host.token token)
    pure (.Aborted result,⟨kernel,host.tokens⟩)

/-- What a host sees of one call: the answer, and the kernel behind it. -/
structure View (K : Parts) where
  answer : Answer K
  pending : List KernelEffect
  projection : KernelProjection
  terminal : Option KernelTerminal

def viewOf (answer : Answer K) (kernel : CanonicalKernel K) : View K :=
  ⟨answer,kernel.pending_effects_in_order,kernel.projection,kernel.terminal⟩

/-- What a host sees of a sequence of calls; a panic is the last thing it sees. -/
def Host.transcript : Host K → List HostCall → List (Call (View K))
  | _,[] => []
  | host,call :: rest =>
    match host.call call with
    | .error site => [.error site]
    | .ok (answer,host) => .ok (viewOf answer host.kernel) :: host.transcript rest

/-- Two refusals of the same thing. A fault may name a token; every fault that does is a conflict. -/
def FaultsAgree (left right : KernelFault) : Prop :=
  left = right ∨ (left.code = .TransactionConflict ∧ right.code = .TransactionConflict)

def ResultsAgree {α : Type} : Except KernelFault α → Except KernelFault α → Prop
  | .ok left,.ok right => left = right
  | .error left,.error right => FaultsAgree left right
  | _,_ => False

/-- Two preparations with the same verdict: the same record and step, the same replay, or the same
    refusal. Tokens are names, and may differ. -/
def PreparationsAgree : Preparation K → Preparation K → Prop
  | .Prepared _ record step,.Prepared _ record' step' => record = record' ∧ step = step'
  | .Rejected left,.Rejected right => FaultsAgree left right
  | .Replayed record digest step step_seq,.Replayed record' digest' step' step_seq' =>
    record = record' ∧ digest = digest' ∧ step = step' ∧ step_seq = step_seq'
  | _,_ => False

def AnswersAgree : Answer K → Answer K → Prop
  | .Prepared left,.Prepared right => PreparationsAgree left right
  | .Committed left,.Committed right => ResultsAgree left right
  | .Aborted left,.Aborted right => ResultsAgree left right
  | _,_ => False

structure ViewsAgree (left right : View K) : Prop where
  answer : AnswersAgree left.answer right.answer
  pending : left.pending = right.pending
  projection : left.projection = right.projection
  terminal : left.terminal = right.terminal

def CallsAgree : Call (View K) → Call (View K) → Prop
  | .ok left,.ok right => ViewsAgree left right
  | .error left,.error right => left = right
  | _,_ => False

/-- A text that is a token this kernel may still mint. A host that holds its tokens from the kernel
    has none. -/
def Unminted (kernel : CanonicalKernel K) (token : PrepareToken) : Prop :=
  ∃ operation_id step_seq epoch, kernel.transaction.prepare_epoch < epoch ∧
    token = KernelTransaction.prepare_token operation_id step_seq epoch

/-- The texts a sequence of calls names. -/
def textsOf (calls : List HostCall) : List PrepareToken :=
  calls.filterMap fun
    | .Commit (.text token) _ | .Abort (.text token) => some token
    | _ => none

/-- No later calls tell the left kernel from the right one. -/
def Indistinguishable (left right : CanonicalKernel K) : Prop :=
  ∀ calls, (∀ token ∈ textsOf calls, ¬Unminted right token) →
    List.Forall₂ CallsAgree (Host.transcript ⟨left,[]⟩ calls) (Host.transcript ⟨right,[]⟩ calls)

theorem FaultsAgree.refl (fault : KernelFault) : FaultsAgree fault fault := .inl rfl

theorem ResultsAgree.refl {α : Type} (result : Except KernelFault α) : ResultsAgree result result := by
  cases result with
  | ok value => rfl
  | error fault => exact FaultsAgree.refl fault

theorem PreparationsAgree.refl (preparation : Preparation K) : PreparationsAgree preparation preparation := by
  cases preparation with
  | Prepared token record step => exact ⟨rfl,rfl⟩
  | Replayed record digest step step_seq => exact ⟨rfl,rfl,rfl,rfl⟩
  | Rejected fault => exact FaultsAgree.refl fault

theorem CallsAgree.refl (result : Call (View K)) : CallsAgree result result := by
  cases result with
  | error site => rfl
  | ok view =>
  refine ⟨?_,rfl,rfl,rfl⟩
  cases view.answer with
  | Prepared preparation => exact PreparationsAgree.refl preparation
  | Committed result => exact ResultsAgree.refl result
  | Aborted result => exact ResultsAgree.refl result

theorem Indistinguishable.refl (kernel : CanonicalKernel K) : Indistinguishable kernel kernel :=
  fun _ _ => List.forall₂_same.mpr fun _ _ => CallsAgree.refl _

end Deepstrike.Kernel

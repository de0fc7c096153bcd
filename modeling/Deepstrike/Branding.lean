import Deepstrike.Driver
import Deepstrike.Hashing
import Deepstrike.Preparing
import Deepstrike.RecordBytes

/-!
The identities the kernel mints. Each is the operation's own identity, or a task's, with a suffix, and is
held to the same byte bound. Some are asserted to be legal and some are refused where they are not: none of
either fails exactly while the bound leaves room for the suffix.
-/
namespace Deepstrike.Branding
open String
open Wire (OperationId TaskId AttemptId LaunchToken EffectId WorkflowId HandleId PrepareToken KernelFault)
open Transaction (Halt)
open Scalars RecordBytes

/-- An identity of one kind. -/
def branded (label value : String) : Except String String := do
  validate_id label value
  pure value

/-- A value that is asserted to be there. -/
def expect {α : Type} (assertion : String) : Except String α → Except Halt α
  | .ok value => .ok value
  | .error _ => .error (.panic assertion)

def malformed {α : Type} : Except String α → Except Halt α
  | .ok value => .ok value
  | .error message => .error (.fault ⟨.MalformedEnvelope,message⟩)

def mint_effect_id (operation_id : OperationId) (step_seq index : Nat) : Except Halt EffectId :=
  expect "an operation-scoped effect id is always a legal branded ref"
  (branded "effect id" (Wire.mint_effect_id operation_id step_seq index))

def mint_workflow_id (operation_id : OperationId) (step_seq : Nat) : Except Halt WorkflowId :=
  expect "an operation-scoped workflow id is always a legal branded ref"
  (branded "workflow id" (Wire.mint_workflow_id operation_id step_seq))

def mint_prepare_token (operation_id : OperationId) (step_seq epoch : Nat) : Except Halt PrepareToken :=
  expect "an operation-scoped prepare token is always a legal branded ref"
    (branded "prepare token" (Transaction.KernelTransaction.prepare_token operation_id step_seq epoch))

def ack_token_for (operation_id : OperationId) (through_step_seq : Nat) (checkpoint_digest : String) : Except Halt String :=
  expect "an operation-scoped checkpoint ack token is always a legal branded ref"
    (branded "checkpoint ack token" (Wire.ack_token_for operation_id through_step_seq checkpoint_digest))

def launch_text (operation_id : OperationId) (step_seq : Nat) (agent_id : TaskId) (attempt : Nat) : String :=
  if attempt = 1 then s!"{operation_id}:step:{step_seq}:launch:{agent_id}"
  else s!"{operation_id}:step:{step_seq}:launch:{agent_id}:attempt:{attempt}"

/-- The identities of a launch, in the order in which they are made. -/
def launch_ids (operation_id : OperationId) (step_seq : Nat) (agent_id : TaskId)
    (attempt : Nat) : Except Halt (TaskId × AttemptId × LaunchToken) := do
  let task_id ← malformed (branded "task id" agent_id)
  let attempt_id ← malformed (branded "attempt id" s!"{agent_id}:attempt:{attempt}")
  let launch_token ← malformed (branded "launch token" (launch_text operation_id step_seq agent_id attempt))
  pure (task_id,attempt_id,launch_token)

def page_out_handle_id (operation_id : OperationId) (step_seq effect_index : Nat) : Except Halt HandleId :=
  malformed (branded "handle id" s!"{operation_id}:step:{step_seq}:page-out:{effect_index}")

@[simp] theorem expect_isOk {α : Type} (assertion : String) (answer : Except String α) :
    (expect assertion answer).isOk = answer.isOk := by
  cases answer <;> rfl

@[simp] theorem malformed_isOk {α : Type} (answer : Except String α) : (malformed answer).isOk = answer.isOk := by
  cases answer <;> rfl

/-! Sizes. -/

/-- How many decimal digits a number has. -/
def digits (value : Nat) : Nat := (Nat.toDigits 10 value).length

/-- A text of a number of bytes, without control characters. -/
structure Printed (text : String) (size : Nat) : Prop where
  size : text.utf8ByteSize = size
  clean : text.toList.any is_control = false

namespace Printed

theorem append {left right : String} {m n : Nat} (first : Printed left m) (second : Printed right n) :
    Printed (left ++ right) (m+n) where
  size := by rw [utf8ByteSize_append,first.size,second.size]
  clean := by rw [toList_append,List.any_append,first.clean,second.clean,Bool.or_false]

theorem of_ok {label text : String} (legal : validate_id label text = .ok ()) : Printed text text.utf8ByteSize :=
  ⟨rfl,((validate_id_ok label text).mp legal).printed⟩

theorem number (value : Nat) : Printed (toString value) (digits value) := by
  have ascii : ∀ char : Char, char.isDigit = true → char.utf8Size = 1 ∧ is_control char = false := by
    intro char digit
    simp only [Char.isDigit,Bool.and_eq_true,decide_eq_true_eq] at digit
    have above : 48 ≤ char.toNat := digit.1
    have below : char.toNat ≤ 57 := digit.2
    refine ⟨Char.utf8Size_eq_one_iff.mpr ?_,?_⟩
    · have small : char.val.toNat ≤ 127 := by
        show char.toNat ≤ 127
        omega
      exact UInt32.le_iff_toNat_le.mpr small
    · simp only [is_control,Bool.or_eq_false_iff,Bool.and_eq_false_iff,decide_eq_false_iff_not]
      omega
  rw [Nat.toString_eq_ofList_toDigits]
  refine ⟨size_of_ascii fun char held => (ascii char (Nat.isDigit_of_mem_toDigits (by decide) (by decide) held)).1,?_⟩
  rw [toList_ofList,List.any_eq_false]
  intro char held
  rw [(ascii char (Nat.isDigit_of_mem_toDigits (by decide) (by decide) held)).2]
  decide

theorem branded_iff {text : String} {size : Nat} (printed : Printed text size) (positive : 0 < size) (label : String) :
    (branded label text).isOk = true ↔ size ≤ MAX_ID_BYTES := by
  have filled : text.isEmpty = false := by
    rw [Bool.eq_false_iff]
    intro empty
    have none := printed.size
    rw [isEmpty_iff.mp empty] at none
    exact positive.ne none
  have valid : Valid text ↔ size ≤ MAX_ID_BYTES := by
    rw [← printed.size]
    exact ⟨Valid.short,fun short => ⟨filled,short,printed.clean⟩⟩
  rw [← valid,← validate_id_ok label text]
  unfold branded
  cases validate_id label text with
  | error message => exact iff_of_false nofun nofun
  | ok done => exact iff_of_true rfl rfl

end Printed

/-! The identities of one step. -/

section
variable {operation_id agent_id : String}

private theorem step_text_printed (operation : validate_id "operation id" operation_id = .ok ()) (step_seq index : Nat) {word : String} {size : Nat}
    (between : Printed word size) :
    Printed (operation_id ++ ":step:" ++ toString step_seq ++ word ++ toString index)
      (operation_id.utf8ByteSize+6+digits step_seq+size+digits index) :=
  ((((Printed.of_ok operation).append ⟨rfl,by decide⟩).append (.number _)).append between).append (.number _)

private theorem workflow_text_printed (operation : validate_id "operation id" operation_id = .ok ()) (step_seq : Nat) :
    Printed (Wire.mint_workflow_id operation_id step_seq) (operation_id.utf8ByteSize+10+digits step_seq) :=
  ((Printed.of_ok operation).append ⟨rfl,by decide⟩).append (.number _)

private theorem prepare_text_printed (operation : validate_id "operation id" operation_id = .ok ()) (step_seq epoch : Nat) :
    Printed (Transaction.KernelTransaction.prepare_token operation_id step_seq epoch) (operation_id.utf8ByteSize+9+digits step_seq+1+digits epoch) :=
  ((((Printed.of_ok operation).append ⟨rfl,by decide⟩).append (.number _)).append ⟨rfl,by decide⟩).append (.number _)

private theorem ack_text_printed (operation : validate_id "operation id" operation_id = .ok ()) (step_seq : Nat)
    (sha256 : List UInt8 → Vector UInt8 32)
    (checkpoint : ByteArray) :
    Printed s!"{operation_id}:checkpoint:{step_seq}:{canonical_digest sha256 checkpoint}" (operation_id.utf8ByteSize+12+digits step_seq+1+71) := by
  have digest : Printed (canonical_digest sha256 checkpoint) 71 := by
    refine ⟨?_,(canonical_digest_valid checkpoint).printed⟩
    have hex := hexDigits_ascii (sha256 checkpoint.data.toList).toList
    rw [canonical_digest,utf8ByteSize_append,size_of_ascii fun char held => (hex char held).1,hexDigits_length,Vector.length_toList]
    rfl
  exact ((((Printed.of_ok operation).append ⟨rfl,by decide⟩).append (.number _)).append ⟨rfl,by decide⟩).append digest

private theorem attempt_text_printed (agent : validate_id "task id" agent_id = .ok ()) (attempt : Nat) :
    Printed s!"{agent_id}:attempt:{attempt}" (agent_id.utf8ByteSize+9+digits attempt) :=
  ((Printed.of_ok agent).append ⟨rfl,by decide⟩).append (.number _)

private theorem launch_text_printed (operation : validate_id "operation id" operation_id = .ok ()) (agent : validate_id "task id" agent_id = .ok ())
    (step_seq attempt : Nat) :
    Printed (launch_text operation_id step_seq agent_id attempt)
      (operation_id.utf8ByteSize+6+digits step_seq+8+agent_id.utf8ByteSize+if attempt = 1 then 0 else 9+digits attempt) := by
  have first : Printed (operation_id ++ ":step:" ++ toString step_seq ++ ":launch:" ++ agent_id)
      (operation_id.utf8ByteSize+6+digits step_seq+8+agent_id.utf8ByteSize) :=
    ((((Printed.of_ok operation).append ⟨rfl,by decide⟩).append (.number _)).append ⟨rfl,by decide⟩).append (.of_ok agent)
  unfold launch_text
  split
  · exact first
  · rw [← Nat.add_assoc]
    exact (first.append ⟨rfl,by decide⟩).append (.number _)

end

/-- No identity of a step is a panic, and none is refused. -/
structure Mints (operation_id agent_id : String) (step_seq effect_index epoch attempt : Nat) (checkpoint_digest : String) : Prop where
  effect : (mint_effect_id operation_id step_seq effect_index).isOk = true
  workflow : (mint_workflow_id operation_id step_seq).isOk = true
  prepare : (mint_prepare_token operation_id step_seq epoch).isOk = true
  ack : (ack_token_for operation_id step_seq checkpoint_digest).isOk = true
  launch : (launch_ids operation_id step_seq agent_id attempt).isOk = true
  page_out : (page_out_handle_id operation_id step_seq effect_index).isOk = true

/-- The bound leaves room for every suffix. -/
structure Fits (operation_id agent_id : String) (step_seq effect_index epoch attempt : Nat) : Prop where
  effect : operation_id.utf8ByteSize+14+digits step_seq+digits effect_index ≤ MAX_ID_BYTES
  workflow : operation_id.utf8ByteSize+10+digits step_seq ≤ MAX_ID_BYTES
  prepare : operation_id.utf8ByteSize+10+digits step_seq+digits epoch ≤ MAX_ID_BYTES
  ack : operation_id.utf8ByteSize+84+digits step_seq ≤ MAX_ID_BYTES
  attempt_id : agent_id.utf8ByteSize+9+digits attempt ≤ MAX_ID_BYTES
  launch : operation_id.utf8ByteSize+14+digits step_seq+agent_id.utf8ByteSize+(if attempt = 1 then 0 else 9+digits attempt) ≤ MAX_ID_BYTES
  page_out : operation_id.utf8ByteSize+16+digits step_seq+digits effect_index ≤ MAX_ID_BYTES

private theorem launch_ids_isOk (operation_id : OperationId) (step_seq : Nat) (agent_id : TaskId) (attempt : Nat) :
    (launch_ids operation_id step_seq agent_id attempt).isOk = true ↔ (branded "task id" agent_id).isOk = true ∧
      (branded "attempt id" s!"{agent_id}:attempt:{attempt}").isOk = true ∧
      (branded "launch token" (launch_text operation_id step_seq agent_id attempt)).isOk = true := by
  unfold launch_ids
  cases branded "task id" agent_id with
  | error message => exact iff_of_false nofun nofun
  | ok task_id =>
  cases branded "attempt id" s!"{agent_id}:attempt:{attempt}" with
  | error message => exact iff_of_false nofun nofun
  | ok attempt_id =>
  cases branded "launch token" (launch_text operation_id step_seq agent_id attempt) with
  | error message => exact iff_of_false nofun nofun
  | ok launch_token => exact iff_of_true rfl ⟨rfl,rfl,rfl⟩

/-- For identities that the wire lets through, every identity of a step is minted exactly where the bound leaves room for every suffix. -/
theorem mints_iff (sha256 : List UInt8 → Vector UInt8 32) {operation_id agent_id : String}
    (operation : validate_id "operation id" operation_id = .ok ())
    (agent : validate_id "task id" agent_id = .ok ()) (step_seq effect_index epoch attempt : Nat)
    (checkpoint : ByteArray) :
    Mints operation_id agent_id step_seq effect_index epoch attempt (canonical_digest sha256 checkpoint) ↔
      Fits operation_id agent_id step_seq effect_index epoch attempt := by
  have effect := (step_text_printed operation step_seq effect_index (⟨rfl,by decide⟩ : Printed ":effect:" 8)).branded_iff (by omega) "effect id"
  have page_out := (step_text_printed operation step_seq effect_index (⟨rfl,by decide⟩ : Printed ":page-out:" 10)).branded_iff (by omega) "handle id"
  have workflow := (workflow_text_printed operation step_seq).branded_iff (by omega) "workflow id"
  have prepare := (prepare_text_printed operation step_seq epoch).branded_iff (by omega) "prepare token"
  have ack := (ack_text_printed operation step_seq sha256 checkpoint).branded_iff (by omega) "checkpoint ack token"
  have attempted := (attempt_text_printed agent attempt).branded_iff (by omega) "attempt id"
  have launched := (launch_text_printed operation agent step_seq attempt).branded_iff (by omega) "launch token"
  have task : (branded "task id" agent_id).isOk = true := by
    unfold branded
    rw [agent]
    rfl
  constructor
  · intro mints
    have launch := (launch_ids_isOk ..).mp mints.launch
    have first := effect.mp ((expect_isOk ..).symm.trans mints.effect)
    have second := workflow.mp ((expect_isOk ..).symm.trans mints.workflow)
    have third := prepare.mp ((expect_isOk ..).symm.trans mints.prepare)
    have fourth := ack.mp ((expect_isOk ..).symm.trans mints.ack)
    have fifth := launched.mp launch.2.2
    have sixth := page_out.mp ((malformed_isOk ..).symm.trans mints.page_out)
    exact ⟨by omega,second,by omega,by omega,attempted.mp launch.2.1,by omega,by omega⟩
  intro fits
  obtain ⟨first,second,third,fourth,fifth,sixth,seventh⟩ := fits
  refine ⟨?_,?_,?_,?_,?_,?_⟩
  · exact (expect_isOk ..).trans (effect.mpr (by omega))
  · exact (expect_isOk ..).trans (workflow.mpr second)
  · exact (expect_isOk ..).trans (prepare.mpr (by omega))
  · exact (expect_isOk ..).trans (ack.mpr (by omega))
  · exact (launch_ids_isOk ..).mpr ⟨task,attempted.mpr fifth,launched.mpr (by omega)⟩
  · exact (malformed_isOk ..).trans (page_out.mpr (by omega))

/-- Short names leave room for every suffix. -/
theorem mints_short : Mints "op" "wf-node0" 1 0 1 1 (canonical_digest Hashing.sha256 ByteArray.empty) :=
  (mints_iff Hashing.sha256 (by decide) (by decide) 1 0 1 1 ByteArray.empty).mpr
    ⟨by decide,by decide,by decide,by decide,by decide,by decide,by decide⟩

/-- The longest identity the wire lets through: its first effect is a panic, its first launch is refused. -/
theorem long_operation_mints_nothing :
    validate_id "operation id" (ofList (List.replicate 256 'a')) = .ok () ∧
    mint_effect_id (ofList (List.replicate 256 'a')) 1 0 =
    .error (.panic "an operation-scoped effect id is always a legal branded ref") ∧
    (launch_ids (ofList (List.replicate 256 'a')) 1 "wf-node0" 1).isOk = false ∧
    ∀ digest, ¬Mints (ofList (List.replicate 256 'a')) "wf-node0" 1 0 1 1 digest := by
  have panics : (mint_effect_id (ofList (List.replicate 256 'a')) 1 0).isOk = false := by decide +kernel
  refine ⟨by decide +kernel,by decide +kernel,by decide +kernel,fun digest mints => ?_⟩
  rw [mints.effect] at panics
  cases panics

end Deepstrike.Branding

import Deepstrike.Reclaiming

/-!
What the hosts on one journal agree on, however their calls interleave, fail and crash: the kernels stand on one
history, and what a call was told is committed is in the journal, once.
-/
namespace Deepstrike.CanonicalHost
open Wire Record Transaction Driver Kernel Interleaving
open Transaction.KernelTransaction (Standing)
open PlainParts (plainDefaults plainStates plain_round_trips)

variable {K : Parts} {codec : HostCodec K} {S : StateCodec K} {defaults : ConfigDefaults}

/-- The record of an input, and the only one. -/
def CommittedOnce (site : Site codec) (envelope : WireEnvelope) : Prop :=
  ∃ record ∈ site.appended, MadeFor envelope record ∧ ∀ other ∈ site.appended, other.input_id = envelope.input_id → other = record

/-- The hosts of one operation are of one mind: a kernel that is not poisoned answers for a prefix of the journal, two of
    them never hold different records at one step, and a transition that a call returned as its own is committed once. -/
structure Concur (defaults : ConfigDefaults) (machine : Hosts codec) : Prop where
  behind : ∀ owner, (machine.shared.kernels owner).transaction.poison = none →
    ∃ journal, journal <+: machine.shared.appended ∧ Standing defaults (machine.shared.kernels owner).transaction journal
  heads : ∀ first second left right, (machine.shared.kernels first).transaction.poison = none →
    (machine.shared.kernels second).transaction.poison = none → (machine.shared.kernels first).transaction.head = some left →
      (machine.shared.kernels second).transaction.head = some right → left.step_seq = right.step_seq → left = right
  acknowledged : ∀ call ∈ machine.calls, ∀ envelope transition, call.request = .Transition envelope →
    call.phase = .Returned (.ok (.Transitioned transition)) → transition.replayed = false → CommittedOnce machine.shared envelope

/-- The head of a kernel names the record of the journal at its step. -/
theorem Upkept.head_placed {site : Site codec} (upkept : Upkept defaults site) {owner : Nat} {head : ChainAnchor}
    (clean : (site.kernels owner).transaction.poison = none)
    (held : (site.kernels owner).transaction.head = some head) :
    ∃ record, site.appended[head.step_seq]? = some record ∧ head = record.anchor := by
  obtain ⟨_,journal,shorter,lives⟩ := upkept.kernels owner
  have at_head := (lives.standing clean).ledgers.head
  rw [held] at at_head
  obtain ⟨record,last,anchored⟩ := Option.map_eq_some_iff.mp at_head.symm
  obtain ⟨before,rfl⟩ := List.getLast?_eq_some_iff.mp last
  have numbered : record.step_seq = before.length := lives.journaled.numbered (by simp)
  obtain ⟨rest,appended⟩ := shorter
  refine ⟨record,?_,anchored.symm⟩
  rw [← anchored]
  show site.appended[record.step_seq]? = some record
  rw [numbered,← appended]
  simp

/-- However the calls of the hosts of an operation interleave, fail and crash, the hosts are of one mind. -/
theorem hosts_concur (trips : K.codec.RoundTrips) {operation_id : OperationId} {machine : Hosts codec}
    (reached : HostsReached codec S defaults operation_id machine) : Concur defaults machine := by
  obtain ⟨sound,_⟩ := reached.sound trips
  refine ⟨fun owner clean => ?_,?_,?_⟩
  · obtain ⟨_,journal,shorter,lives⟩ := sound.inv.kernels owner
    exact ⟨journal,shorter,lives.standing clean⟩
  · intro first second left right first_clean second_clean first_head second_head same
    obtain ⟨record,placed,rfl⟩ := sound.inv.head_placed first_clean first_head
    obtain ⟨other,other_placed,rfl⟩ := sound.inv.head_placed second_clean second_head
    rw [same,other_placed] at placed
    cases placed
    rfl
  intro call member envelope transition requested returned anew
  obtain ⟨id,found⟩ := List.mem_iff_getElem?.mp member
  have known := sound.calls id call found
  unfold Interleaving.Call.Sound at known
  rw [returned,requested] at known
  obtain ⟨record,listed,made⟩ := known machine.shared (.refl sound.inv) _ rfl envelope transition rfl rfl anew
  refine ⟨record,listed,made,fun other again same => ?_⟩
  exact List.inj_on_of_nodup_map sound.inv.journaled.ids_once again listed (same.trans made.1.symm)

/-- One host configures while another restores: the other asks for the latest checkpoint before the record is
    appended, and for the records behind it after. -/
def restoring : List (Action HostRequest Bool) :=
  [.Begin 0 (.Transition configuring),.Begin 1 .Restore,.Move 0 true,.Move 1 true,.Move 0 true,.Move 0 true,.Move 1 true,
    .Move 0 true,.Move 1 true,.Move 0 true,.Move 1 true,.Move 0 true]

private theorem configures_restoring : Configures ⟨Site.empty plainHost plainDefaults,[]⟩ restoring := by
  refine ⟨?_,?_,?_,?_,?_,?_,?_,?_,?_,?_,?_,?_,trivial⟩
  all_goals
    refine ⟨by first | exact .inl rfl | exact .inr rfl,by first | exact .inl rfl | exact .inr rfl,fun owner => ?_⟩
    cases owner <;> rfl

/-- Both hosts hold the record in the end, and are of one mind. -/
theorem hosts_concur_restoring : Concur plainDefaults (driven restoring) ∧
    ∀ owner < 2, ((driven restoring).shared.kernels owner).transaction.head.isSome = true := by
  have reached : HostsReached plainHost plainStates plainDefaults "op" (driven restoring) :=
    Configures.reached .start restoring [] configures_restoring
  exact ⟨hosts_concur plain_round_trips reached,by decide +kernel⟩

end Deepstrike.CanonicalHost

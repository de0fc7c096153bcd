import Deepstrike.Slots

/-!
A child spawned by a call into the loop: it runs at once, and the root waits for it. The gate is that
of the run queue, but a full pool is a refusal here.
-/
namespace Deepstrike.Loop
open Wire Tasks Vocabulary Components Frames Slots

variable {K : LoopParts} (manifest : IsolationManifest)

/-- The spawn gate of a blocking spawn: what cannot run now is refused. -/
def evaluate_spawn_quota : LoopProgram K Disposition := do
  match ← evaluate_spawn_quota_deferrable none manifest with
  | .Defer running =>
    let max := ((← get).policies.resource_quota.bind ResourceQuota.max_concurrent_subagents).getD 0
    pure (.Deny "quota" s!"max_concurrent_subagents={max} reached ({running} running)")
  | verdict => pure verdict

def spawn_sub_agent (manifest : IsolationManifest) : LoopProgram K LoopAction := do
  match ← evaluate_spawn_quota manifest with
  | .Deny _ reason =>
    observe (.ControlRequestRejected (← get).turn "spawn_sub_agent" (some manifest.agent_id) reason)
    pure .AwaitingResume
  | _ =>
    let e ← get
    let child : Tcb := ⟨manifest.agent_id,e.tasks.root_id,.Running,.NestedTask,none,true,none⟩
    set { e with tasks := e.tasks.insert child, ledger := K.attach_child_budget_grant manifest.agent_id (K.note_spawned manifest e.ledger) }
    process_changed manifest.agent_id
    modify fun e => { e with suspend_state := some (.SubAgentAwait [manifest.agent_id]) }
    set_lifecycle .Suspended (some (.All,[.Child manifest.agent_id]))
    observe (.Suspended (← get).turn "sub_agent_await" [manifest.agent_id])
    pure .AwaitingResume

private theorem evaluate_spawn_quota_judged (e : LoopStateMachine K) :
    Lands (evaluate_spawn_quota manifest) e (fun verdict after => Judged e verdict after ∧ ∀ running, verdict ≠ .Defer running)
      fun after => after.roster = e.roster := by
  unfold evaluate_spawn_quota
  refine (lands_bind _ _ _).mpr ((evaluate_spawn_quota_deferrable_judged none manifest e).mono (fun verdict gated judged => ?_) fun _ same => same)
  split
  · exact (lands_bind _ _ _).mpr ((lands_get _).mpr ((lands_pure _ _).mpr ⟨⟨judged.1,False.elim⟩,nofun⟩))
  next undeferred => exact (lands_pure _ _).mpr ⟨judged,undeferred⟩

/-- A direct spawn stays within the limits. -/
theorem spawn_sub_agent_guarding (other : manifest.agent_id ≠ "root") :
    Tolerated (K := K) (Guarding []) (spawn_sub_agent manifest) := by
  intro e
  unfold spawn_sub_agent
  refine (lands_bind _ _ _).mpr
    ((evaluate_spawn_quota_judged manifest e).mono (fun verdict gated ⟨judged,undeferred⟩ => ?_) fun _ same =>
    .aside same)
  have entered : OnRoster (Guarding []) e gated := .aside judged.1
  suffices driven : Lands _ gated (fun _ after => OnRoster (Guarding []) gated after ∧ True) (OnRoster (Guarding []) gated) from
    driven.mono (fun _ _ both => ⟨Tolerant.next entered both.1,trivial⟩) fun _ left => Tolerant.next entered left
  split
  next stage reason =>
    exact Spans.here (Spans.of_get fun e => Spans.here ((observe_tolerated _).seq fun _ => tolerated_pure))
  next passed =>
  have opens : gated.roster.Open := by
    rw [judged.1]
    refine judged.2 ?_
    cases verdict with
    | Deny stage reason => exact passed stage reason rfl
    | Defer running => exact undeferred running rfl
    | _ => exact trivial
  refine (lands_bind _ _ _).mpr ((lands_get _).mpr ?_)
  extract_lets child
  refine Lands.set_spans (fun rooted _ => ⟨Within.insert rooted opens other,.inr fun _ _ _ listed => by cases listed⟩) ?_
  refine (process_changed_tolerated _).seq fun _ => Spans.seq (tolerated_aside fun _ => rfl) fun _ => (set_lifecycle_tolerated _ _).seq fun _ => ?_
  exact Spans.of_get fun e => Spans.here ((observe_tolerated _).seq fun _ => tolerated_pure)

end Deepstrike.Loop

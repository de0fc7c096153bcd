import Deepstrike.Lockstep
import Deepstrike.Projection

/-!
Two drivers that no plan can tell apart. A plan sets the clock of the loop, and the clock of its
governance, and drops the observations of the plan before, ahead of anything it looks at, so these
may differ between plans and nothing else may.
-/
namespace Deepstrike.Driver
open Wire
open Transaction Loop Lockstep

variable {K : Parts}

/-- A loop without its clocks and its observations, and a driver without its loop. -/
def unclocked (engine : Engine K) : Engine K := { engine with last_now_ms := none, governance := none, observations := [] }
def OperationDriver.ledgers (driver : OperationDriver K) : OperationDriver K := { driver with engine := none }

/-- Two loops that differ in nothing but their clocks and their observations. -/
structure EnginesAgree (left right : Engine K) : Prop where
  same : unclocked left = unclocked right
  clocked : ∀ now, left.governance.map (K.set_time now) = right.governance.map (K.set_time now)

theorem EnginesAgree.refl (engine : Engine K) : EnginesAgree engine engine := ⟨rfl,fun _ => rfl⟩
theorem EnginesAgree.symm {left right : Engine K} (agree : EnginesAgree left right) : EnginesAgree right left :=
  ⟨agree.same.symm,fun now => (agree.clocked now).symm⟩
theorem EnginesAgree.trans {left middle right : Engine K} (first : EnginesAgree left middle)
    (next : EnginesAgree middle right) :
    EnginesAgree left right := ⟨first.same.trans next.same,fun now => (first.clocked now).trans (next.clocked now)⟩

private theorem EnginesAgree.eq_with {left right : Engine K} (agree : EnginesAgree left right) :
    left = { right with last_now_ms := left.last_now_ms, governance := left.governance, observations := left.observations } := by
  have same := agree.same
  cases left
  cases right
  simp only [unclocked,LoopStateMachine.mk.injEq] at same ⊢
  simp [same]

def OptionsAgree : Option (Engine K) → Option (Engine K) → Prop
  | none,none => True
  | some left,some right => EnginesAgree left right
  | _,_ => False

/-- Two drivers with agreeing loops and the same ledgers. -/
structure DriversAgree (left right : OperationDriver K) : Prop where
  same : left.ledgers = right.ledgers
  engines : OptionsAgree left.engine right.engine

theorem DriversAgree.refl (driver : OperationDriver K) : DriversAgree driver driver := by
  refine ⟨rfl,?_⟩
  cases driver.engine with
  | none => trivial
  | some engine => exact EnginesAgree.refl engine

variable {left right : OperationDriver K}

theorem DriversAgree.symm (agree : DriversAgree left right) : DriversAgree right left := by
  refine ⟨agree.same.symm,?_⟩
  have engines := agree.engines
  cases held : left.engine <;> cases held' : right.engine <;> simp only [held,held',OptionsAgree] at engines ⊢
  exact engines.symm

theorem DriversAgree.trans {middle : OperationDriver K} (first : DriversAgree left middle)
    (next : DriversAgree middle right) : DriversAgree left right := by
  refine ⟨first.same.trans next.same,?_⟩
  have engines := first.engines
  have engines' := next.engines
  cases held : left.engine <;> cases held' : middle.engine <;> cases held'' : right.engine <;>
    simp only [held,held',held'',OptionsAgree] at engines engines' ⊢
  exact engines.trans engines'

/-- Drivers agree when they differ in the engines' projections alone. -/
theorem DriversAgree.cases (agree : DriversAgree left right) :
    left = right ∨ ∃ (driver : OperationDriver K) (engine engine' : Engine K),
    left = { driver with engine := some engine } ∧
      right = { driver with engine := some engine' } ∧ EnginesAgree engine engine' := by
  obtain ⟨same,engines⟩ := agree
  have whole : left = { right.ledgers with engine := left.engine } := by
    rw [← same]
    rfl
  cases held : left.engine <;> cases held' : right.engine <;> simp only [held,held',OptionsAgree] at engines whole
  · refine .inl ?_
    rw [whole,← held']
    rfl
  · refine .inr ⟨right.ledgers,_,_,whole,?_,engines⟩
    rw [← held']
    rfl

private theorem begin_plan_agree {left right : Engine K} (agree : EnginesAgree left right) (now_ms : Nat) :
    begin_plan now_ms left = begin_plan now_ms right := by
  rw [agree.eq_with]
  have clocked := agree.clocked now_ms
  simp only [begin_plan,observe_accepted_time,clear_observations,bind,EStateM.bind,run_get,run_modify,clocked]

private theorem plan_inner_agree (agree : DriversAgree left right) (context : PlanContext) :
    plan_inner context left = plan_inner context right := by
  obtain rfl | ⟨driver,engine,engine',rfl,rfl,engines⟩ := agree.cases
  · rfl
  have begun : engine_if_any (begin_plan context.input.observed_at_ms) { driver with engine := some engine } =
      engine_if_any (begin_plan context.input.observed_at_ms) { driver with engine := some engine' } := by
    simp only [engine_if_any,engine_mut,bind,EStateM.bind,run_get,Option.isSome_some,if_true,
      begin_plan_agree engines]
  simp only [plan_inner,bind,EStateM.bind,begun]

/-- The fault of a driver whose last plan never committed. -/
def uncommitted (staged : StagedFocus) : KernelFault :=
  ⟨.TransactionConflict,s!"the driver still holds the plan of step {staged.step_seq}; its transition never committed while the semantic kernel already advanced under it, so this runtime no longer describes the journal — rebuild from the records"⟩

theorem plan_eq (context : PlanContext) (driver : OperationDriver K) :
    plan context driver =
      match driver.poison,driver.staged with
      | some fault,_ => .error (.fault fault) driver
      | none,some staged =>
        .error (.fault (uncommitted staged)) { driver with staged := none, poison := some (uncommitted staged) }
      | none,none =>
        match plan_inner context driver with
        | .ok step driver => stage_plan context step driver
        | .error halt driver => .error halt driver := by
  unfold plan
  cases poisoned : driver.poison with
  | some fault =>
    simp only [bind,EStateM.bind,run_get,poisoned]
    rfl
  | none =>
  cases staged : driver.staged with
  | some staged =>
    simp only [bind,EStateM.bind,run_get,poisoned,staged,poison_with,Option.getD_none]
    rfl
  | none =>
  simp only [bind,EStateM.bind,run_get,poisoned,staged]
  cases plan_inner context driver <;> rfl

/-- Agreeing drivers plan in step. -/
theorem plan_lockstep (context : PlanContext) : InStep (DriversAgree (K := K)) (plan context) (plan context) := by
  intro left right agree
  have poisons : left.poison = right.poison := congrArg (fun driver => driver.poison) agree.same
  have stagings : left.staged = right.staged := congrArg (fun driver => driver.staged) agree.same
  rw [plan_eq,plan_eq,plan_inner_agree agree context,poisons,stagings]
  cases right.poison with
  | some fault => exact ⟨rfl,agree⟩
  | none =>
  cases right.staged with
  | some staged =>
    refine ⟨rfl,?_,agree.engines⟩
    exact congrArg (fun driver : OperationDriver K => { driver with staged := none, poison := some (uncommitted staged) }) agree.same
  | none => exact Agree.refl DriversAgree.refl _

theorem note_committed_eq (step_seq : Nat) (driver : OperationDriver K) :
    note_committed step_seq driver =
      match driver.poison,driver.staged with
      | some fault,_ => .error (.fault fault) driver
      | none,none =>
        let fault : KernelFault := ⟨.TransactionConflict,s!"step {step_seq} committed, but the driver planned no such step"⟩
        .error (.fault fault) { driver with staged := none, poison := some fault }
      | none,some staged =>
        if staged.step_seq ≠ step_seq then
          let fault : KernelFault := ⟨.TransactionConflict,s!"step {step_seq} committed, but the driver planned step {staged.step_seq}"⟩
          .error (.fault fault) { driver with staged := none, poison := some fault }
        else .ok () { driver with staged := none, root_kind := staged.root_kind.or driver.root_kind, focus := staged.focus } := by
  unfold note_committed
  cases poisoned : driver.poison with
  | some fault =>
    simp only [bind,EStateM.bind,run_get,poisoned]
    rfl
  | none =>
  cases held : driver.staged with
  | none =>
    simp only [bind,EStateM.bind,run_get,poisoned,held,poison_with,Option.getD_none]
    rfl
  | some staged =>
  simp only [bind,EStateM.bind,run_get,poisoned,held,run_set,poison_with]
  split <;> rfl

/-- Agreeing drivers note a commit in step. -/
theorem note_committed_lockstep (step_seq : Nat) : InStep (DriversAgree (K := K)) (note_committed step_seq)
    (note_committed step_seq) := by
  intro left right agree
  obtain rfl | ⟨driver,engine,engine',rfl,rfl,engines⟩ := agree.cases
  · exact Agree.refl DriversAgree.refl _
  rw [note_committed_eq,note_committed_eq]
  cases driver.poison with
  | some fault => exact ⟨rfl,rfl,engines⟩
  | none =>
  cases driver.staged with
  | none => exact ⟨rfl,rfl,engines⟩
  | some staged =>
  simp only
  split
  · exact ⟨rfl,rfl,engines⟩
  · exact ⟨rfl,rfl,engines⟩

theorem project_agree (agree : DriversAgree left right) :
    project_logical_state left = project_logical_state right := by
  obtain rfl | ⟨driver,engine,engine',rfl,rfl,engines⟩ := agree.cases
  · rfl
  · rw [engines.eq_with]
    rfl

end Deepstrike.Driver

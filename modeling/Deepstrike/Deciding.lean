import Deepstrike.Growing

/-!
What the policy of a node makes of the states of its dependencies: it lets the node run, it never
will, or it waits. A verdict stands once it is given, for states that have ended stay.
-/
namespace Deepstrike.Orchestration
open List WorkflowRun

/-- The dependencies let the node run. -/
def Permits : DependencyPolicy → List TaskStatus → Prop
  | .AllSuccess,statuses => ∀ status ∈ statuses, status = .Completed
  | .AcceptPartial,statuses => ∀ status ∈ statuses, status = .Completed ∨ status = .CompletedPartial
  | .AllTerminal,statuses => ∀ status ∈ statuses, status.is_terminal = true
  | .Optional,_ => True

/-- The dependencies will never let the node run. -/
def Forbids : DependencyPolicy → List TaskStatus → Prop
  | .AllSuccess,statuses => ∃ status ∈ statuses, status.is_terminal = true ∧ status ≠ .Completed
  | .AcceptPartial,statuses => ∃ status ∈ statuses, status = .Failed ∨ status = .SkippedUpstreamFailed
  | .AllTerminal,_ | .Optional,_ => False

variable {statuses : List TaskStatus}

theorem Permits.not_forbids {policy : DependencyPolicy} (permits : Permits policy statuses) :
    ¬Forbids policy statuses := by
  cases policy with
  | AllSuccess =>
    rintro ⟨status,member,_,other⟩
    exact other (permits status member)
  | AcceptPartial =>
    rintro ⟨status,member,failed⟩
    obtain rfl | rfl := permits status member <;> simp at failed
  | AllTerminal => exact id
  | Optional => exact id

/-- Over ended dependencies a policy permits or forbids. -/
theorem permits_or_forbids {policy : DependencyPolicy}
    (ended : ∀ status ∈ statuses, status.is_terminal = true) : Permits policy statuses ∨ Forbids policy statuses := by
  cases policy with
  | AllSuccess =>
    by_cases failed : ∃ status ∈ statuses, status ≠ .Completed
    · obtain ⟨status,member,other⟩ := failed
      exact .inr ⟨status,member,ended status member,other⟩
    · exact .inl fun status member => not_not.mp fun other => failed ⟨status,member,other⟩
  | AcceptPartial =>
    by_cases failed : ∃ status ∈ statuses, status = .Failed ∨ status = .SkippedUpstreamFailed
    · exact .inr failed
    refine .inl fun status member => ?_
    have ended := ended status member
    cases status with
    | Completed => exact .inl rfl
    | CompletedPartial => exact .inr rfl
    | Failed => exact (failed ⟨_,member,.inl rfl⟩).elim
    | SkippedUpstreamFailed => exact (failed ⟨_,member,.inr rfl⟩).elim
    | Pending | Ready | Running => cases ended
  | AllTerminal => exact .inl ended
  | Optional => exact .inl trivial

private theorem decided_forbids (policy : DependencyPolicy) (statuses : List TaskStatus) :
    ∃ impossible : Bool, (impossible = true ↔ Forbids policy statuses) ∧
      decided policy statuses =
        if policy = .Optional then some .Ready
        else if impossible then some .SkippedUpstreamFailed
        else if statuses.all TaskStatus.is_terminal then some .Ready
        else none := by
  cases policy with
  | AllSuccess =>
    refine ⟨_,?_,rfl⟩
    simp only [any_eq_true,contains_iff_mem,Forbids]
    refine exists_congr fun status => and_congr_right fun _ => ?_
    cases status <;> simp [TaskStatus.is_terminal]
  | AcceptPartial => exact ⟨_,by simp [Forbids],rfl⟩
  | AllTerminal => exact ⟨false,by simp [Forbids],rfl⟩
  | Optional => exact ⟨false,by simp [Forbids],rfl⟩

/-- What the run computes is the policy's verdict. -/
theorem decided_eq (policy : DependencyPolicy) (statuses : List TaskStatus) :
    (Permits policy statuses ∧ decided policy statuses = some .Ready) ∨
      (Forbids policy statuses ∧ decided policy statuses = some .SkippedUpstreamFailed) ∨
      (¬Permits policy statuses ∧ ¬Forbids policy statuses ∧ decided policy statuses = none) := by
  obtain ⟨impossible,forbidden,value⟩ := decided_forbids policy statuses
  rw [value]
  by_cases optional : policy = .Optional
  · subst optional
    exact .inl ⟨trivial,rfl⟩
  rw [if_neg optional]
  by_cases forbids : Forbids policy statuses
  · rw [if_pos (forbidden.mpr forbids)]
    exact .inr (.inl ⟨forbids,rfl⟩)
  rw [if_neg fun impossible => forbids (forbidden.mp impossible)]
  by_cases ended : statuses.all TaskStatus.is_terminal = true
  · rw [if_pos ended]
    exact .inl ⟨(permits_or_forbids (all_eq_true.mp ended)).resolve_right forbids,rfl⟩
  rw [if_neg ended]
  refine .inr (.inr ⟨fun permits => ended (all_eq_true.mpr fun status member => ?_),forbids,rfl⟩)
  cases policy with
  | AllSuccess =>
    rw [permits status member]
    rfl
  | AcceptPartial => obtain rfl | rfl := permits status member <;> rfl
  | AllTerminal => exact permits status member
  | Optional => exact (optional rfl).elim

/-- States that have ended stay as they are. -/
def Sticky (before after : Nat → Option TaskStatus) : Prop :=
  ∀ id status, before id = some status → status.is_terminal = true → after id = some status

section
variable {before after : Nat → Option TaskStatus} {depends_on : List Nat} {policy : DependencyPolicy}

/-- What is permitted stays permitted. -/
theorem Permits.sticky (sticky : Sticky before after) (defined : ∀ dep ∈ depends_on, (before dep).isSome)
    (permits : Permits policy (depends_on.filterMap before)) : Permits policy (depends_on.filterMap after) := by
  -- A verdict that lets a node run is about states that have ended, so the states are the same.
  by_cases ended : ∀ dep ∈ depends_on, ∀ status, before dep = some status → status.is_terminal = true
  · have same : depends_on.filterMap after = depends_on.filterMap before := by
      refine filterMap_congr fun dep member => ?_
      obtain ⟨status,held⟩ := Option.isSome_iff_exists.mp (defined dep member)
      rw [held,sticky dep status held (ended dep member status held)]
    rwa [same]
  cases policy with
  | Optional => trivial
  | AllSuccess =>
    refine (ended fun dep member status held => ?_).elim
    rw [permits status (mem_filterMap.mpr ⟨dep,member,held⟩)]
    rfl
  | AcceptPartial =>
    refine (ended fun dep member status held => ?_).elim
    obtain rfl | rfl := permits status (mem_filterMap.mpr ⟨dep,member,held⟩) <;> rfl
  | AllTerminal => exact (ended fun dep member status held => permits status (mem_filterMap.mpr ⟨dep,member,held⟩)).elim

/-- What is forbidden stays forbidden. -/
theorem Forbids.sticky (sticky : Sticky before after) (forbids : Forbids policy (depends_on.filterMap before)) :
    Forbids policy (depends_on.filterMap after) := by
  have kept : ∀ status ∈ depends_on.filterMap before, status.is_terminal = true → status ∈ depends_on.filterMap after := by
    intro status member ended
    obtain ⟨dep,member,held⟩ := mem_filterMap.mp member
    exact mem_filterMap.mpr ⟨dep,member,sticky dep status held ended⟩
  cases policy with
  | AllSuccess =>
    obtain ⟨status,member,ended,other⟩ := forbids
    exact ⟨status,kept status member ended,ended,other⟩
  | AcceptPartial =>
    obtain ⟨status,member,failed⟩ := forbids
    refine ⟨status,kept status member ?_,failed⟩
    obtain rfl | rfl := failed <;> rfl
  | AllTerminal | Optional => exact forbids.elim

end

end Deepstrike.Orchestration

import Mathlib.Algebra.Order.Ring.Nat
import Mathlib.Data.List.Basic

/-!
Sliding windows. A limiter keeps the instants at which it admitted, forgets an instant once a span has
passed, and admits while fewer than a maximum are kept. As long as the clock does not turn back, what it
keeps stands for everything it ever admitted.
-/
namespace Deepstrike.SlidingWindows
open List

/-- The instants that a span has not yet passed. -/
def live (span now : Nat) (stamps : List Nat) : List Nat := stamps.filter fun time => decide (now < time+span)

/-- How many instants lie in the window of the span that begins at the start. -/
def within (span start : Nat) (stamps : List Nat) : Nat := stamps.countP fun time => decide (start ≤ time ∧ time < start+span)

theorem mem_live {span now time : Nat} {stamps : List Nat} :
    time ∈ live span now stamps ↔ time ∈ stamps ∧ now < time+span := by
  simp [live]

private theorem live_append (span now : Nat) (left right : List Nat) : live span now (left ++ right) = live span now left ++ live span now right :=
  filter_append ..

private theorem live_live {span now later : Nat} (turned : now ≤ later) (stamps : List Nat) :
    live span later (live span now stamps) = live span later stamps := by
  unfold live
  rw [filter_filter]
  refine filter_congr fun time _ => ?_
  rw [Bool.and_eq_left_iff_imp]
  simp only [decide_eq_true_eq]
  omega

private theorem within_append (span start : Nat) (left right : List Nat) :
    within span start (left ++ right) = within span start left + within span start right :=
  countP_append

private theorem within_outside {span start now : Nat} (outside : ¬(start ≤ now ∧ now < start+span)) : within span start [now] = 0 := by
  simp only [within,countP_singleton,outside,decide_false,Bool.false_eq_true,if_false]

private theorem within_inside {span start now : Nat} (inside : start ≤ now ∧ now < start+span) : within span start [now] = 1 := by
  simp only [within,countP_singleton,inside,and_self,decide_true,if_true]

private theorem within_le_live {span start now : Nat} (inside : start ≤ now ∧ now < start+span) (stamps : List Nat) :
    within span start stamps ≤ (live span now stamps).length := by
  unfold within live
  rw [← countP_eq_length_filter]
  refine countP_mono_left fun time _ held => ?_
  simp only [decide_eq_true_eq] at held ⊢
  omega

private theorem live_le_within {span now : Nat} {stamps : List Nat} (past : ∀ time ∈ stamps, time ≤ now) :
    (live span now stamps).length ≤ within span (now+1-span) stamps := by
  unfold within live
  rw [← countP_eq_length_filter]
  refine countP_mono_left fun time listed held => ?_
  have := past time listed
  simp only [decide_eq_true_eq] at held ⊢
  omega

variable {max span now later : Nat} {admitted stamps : List Nat}

/-- What is kept at an instant stands for what was admitted up to it. -/
structure Remembers (max span now : Nat) (admitted stamps : List Nat) : Prop where
  ordered : admitted.Pairwise (· ≤ ·)
  past : ∀ time ∈ admitted, time ≤ now
  among : stamps.Sublist admitted
  same : ∀ later, now ≤ later → live span later stamps = live span later admitted
  bounded : ∀ start, within span start admitted ≤ max

namespace Remembers

theorem nothing (max span : Nat) : Remembers max span 0 [] [] :=
  ⟨.nil,by simp,.slnil,fun _ _ => rfl,fun _ => Nat.zero_le _⟩

variable (remembers : Remembers max span now admitted stamps) (turned : now ≤ later)
include remembers turned

theorem pass : Remembers max span later admitted stamps where
  ordered := remembers.ordered
  past time listed := (remembers.past time listed).trans turned
  among := remembers.among
  same again passed := remembers.same again (turned.trans passed)
  bounded := remembers.bounded

theorem forget : Remembers max span later admitted (live span later stamps) where
  ordered := remembers.ordered
  past time listed := (remembers.past time listed).trans turned
  among := filter_sublist.trans remembers.among
  same again passed := by
    rw [live_live passed]
    exact remembers.same again (turned.trans passed)
  bounded := remembers.bounded

theorem live_length : (live span later stamps).length ≤ max := by
  rw [remembers.same later turned]
  exact (live_le_within (remembers.forget turned).past).trans (remembers.bounded _)

/-- An admission keeps the window's memory. -/
theorem accept (room : (live span later stamps).length < max) :
    Remembers max span later (admitted ++ [later]) (live span later stamps ++ [later]) where
  ordered := by
    refine pairwise_append.mpr ⟨remembers.ordered,pairwise_singleton ..,fun time listed present eq => ?_⟩
    rw [mem_singleton.mp eq]
    exact (remembers.past time listed).trans turned
  past time listed := by
    obtain listed | listed := mem_append.mp listed
    · exact (remembers.past time listed).trans turned
    · exact (mem_singleton.mp listed).le
  among := (remembers.forget turned).among.append (.refl _)
  same again passed := by rw [live_append,live_append,(remembers.forget turned).same again passed]
  bounded start := by
    rw [within_append]
    by_cases inside : start ≤ later ∧ later < start+span
    · -- The window holds the present, and whatever else it holds is still kept.
      have held := within_le_live inside admitted
      rw [← remembers.same later turned] at held
      rw [within_inside inside]
      omega
    · rw [within_outside inside]
      exact remembers.bounded start

/-- A refusal is due: with it some span would hold more than the limit. -/
theorem refusal_due (positive : 0 < max) (full : max ≤ (live span later stamps).length) :
    ∃ start, start ≤ later ∧ later < start+span ∧ max < within span start (admitted ++ [later]) := by
  have past := (remembers.forget turned).past
  rw [remembers.same later turned] at full
  obtain ⟨time,kept⟩ := exists_mem_of_length_pos (positive.trans_le full)
  obtain ⟨listed,unpassed⟩ := mem_live.mp kept
  have := past time listed
  have inside : later+1-span ≤ later ∧ later < later+1-span+span := by omega
  refine ⟨later+1-span,inside.1,inside.2,?_⟩
  have held := @live_le_within span later admitted past
  rw [within_append,within_inside inside]
  omega

/-- After a refusal there is room again from the instant at which the oldest one kept is passed, and not before. -/
theorem room_iff (positive : 0 < max) (full : max ≤ (live span later stamps).length) (again : Nat) :
    (live span again (live span later stamps)).length < max ↔ (live span later stamps).headD later+span ≤ again := by
  have forgot := remembers.forget turned
  cases kept : live span later stamps with
  | nil =>
    rw [kept] at full
    simp only [length_nil] at full
    omega
  | cons oldest rest =>
  rw [kept] at forgot full
  have oldest_first : ∀ time ∈ rest, oldest ≤ time := (pairwise_cons.mp (forgot.ordered.sublist forgot.among)).1
  have most := remembers.live_length turned
  rw [kept] at most
  simp only [headD_cons]
  constructor
  · intro room
    by_contra early
    have unpassed : live span again (oldest :: rest) = oldest :: rest := by
      refine filter_eq_self.mpr fun time listed => ?_
      have : oldest ≤ time := by
        obtain rfl | listed := mem_cons.mp listed
        · exact le_rfl
        · exact oldest_first time listed
      simp only [decide_eq_true_eq]
      omega
    rw [unpassed] at room
    omega
  intro passed
  have dropped : live span again (oldest :: rest) = live span again rest := by
    refine filter_cons_of_neg ?_
    simp only [decide_eq_true_eq]
    omega
  rw [dropped]
  have : (live span again rest).length ≤ rest.length := length_filter_le ..
  simp only [length_cons] at most
  omega

end Remembers
end Deepstrike.SlidingWindows

import Mathlib.Algebra.GroupWithZero.Nat
import Mathlib.Data.List.Induction

/-!
A selection within an allowance: what is newest is taken first, what weighs nothing is passed over, what is
sheltered is taken whatever it weighs, and the first that does not fit ends the selection.
-/
namespace Deepstrike.Admitting
open List

variable {α : Type} (weight : α → Nat) (sheltered : α → Bool)

/-- The selection from the newest to the oldest; what is taken stands in the order of age. -/
def fitted : List α → Nat → List α → List α
  | [],_,kept => kept
  | unit :: older,room,kept =>
    if weight unit = 0 then fitted older room kept
    else if sheltered unit || weight unit ≤ room then fitted older (room-weight unit) (unit :: kept)
    else kept

/-- A unit is taken when it weighs something, and is sheltered or fits with all that is newer. -/
def fits (room : Nat) (newer : List α) (unit : α) : Bool :=
  weight unit ≠ 0 && (sheltered unit || weight unit+(newer.map weight).sum ≤ room)

/-- What is taken, from the oldest to the newest. -/
def kept (room : Nat) : List α → List α
  | [] => []
  | unit :: newer => if fits weight sheltered room newer unit then unit :: kept room newer else kept room newer

/-- What is sheltered is newest. -/
def Tail (units : List α) : Prop := units.Pairwise fun older newer => sheltered older = true → sheltered newer = true

variable {weight sheltered} {room : Nat}

private theorem kept_over {older newer : List α} (open_ : ∀ unit ∈ older, ¬sheltered unit = true) (beyond : room < (newer.map weight).sum) :
    kept weight sheltered room (older ++ newer) = kept weight sheltered room newer := by
  induction older with
  | nil => rfl
  | cons unit rest ih =>
  have later := ih fun other member => open_ other (mem_cons_of_mem _ member)
  have left : fits weight sheltered room (rest ++ newer) unit = false := by
    have bare : sheltered unit = false := by simpa using open_ unit mem_cons_self
    have heavy : room < weight unit+((rest ++ newer).map weight).sum := by
      rw [map_append,sum_append]
      omega
    unfold fits
    rw [bare,Bool.false_or,decide_eq_false (Nat.not_le_of_lt heavy),Bool.and_false]
  rw [cons_append,kept,left]
  exact later

private theorem admit_reverse (older newer : List α) (tail : Tail sheltered (older ++ newer)) :
    fitted weight sheltered older.reverse (room-(newer.map weight).sum) (kept weight sheltered room newer) =
      kept weight sheltered room (older ++ newer) := by
  induction older using reverseRecOn generalizing newer with
  | nil => rfl
  | append_singleton rest unit ih =>
  rw [append_assoc,singleton_append] at tail ⊢
  rw [reverse_append,reverse_singleton,singleton_append,fitted]
  by_cases nothing : weight unit = 0
  · have passed : kept weight sheltered room (unit :: newer) = kept weight sheltered room newer := by simp [kept,fits,nothing]
    have same := ih (unit :: newer) tail
    rw [passed,map_cons,sum_cons,nothing,Nat.zero_add] at same
    rw [if_pos nothing]
    exact same
  rw [if_neg nothing]
  by_cases room_ : (sheltered unit || decide (weight unit ≤ room-(newer.map weight).sum)) = true
  · have taken : kept weight sheltered room (unit :: newer) = unit :: kept weight sheltered room newer := by
      have fit : fits weight sheltered room newer unit = true := by
        simp only [fits,ne_eq,nothing,not_false_eq_true,decide_true,Bool.true_and,Bool.or_eq_true,decide_eq_true_eq] at room_ ⊢
        exact room_.imp_right fun enough => by omega
      simp [kept,fit]
    have same := ih (unit :: newer) tail
    rw [taken,map_cons,sum_cons,Nat.add_comm,← Nat.sub_sub] at same
    rw [if_pos room_]
    exact same
  simp only [Bool.or_eq_true,decide_eq_true_eq,not_or] at room_
  have heavy : room < ((unit :: newer).map weight).sum := by
    rw [map_cons,sum_cons]
    omega
  have open_ : ∀ other ∈ rest, ¬sheltered other = true := fun other member safe =>
    room_.1 ((pairwise_append.mp tail).2.2 other member unit mem_cons_self safe)
  have left : kept weight sheltered room (unit :: newer) = kept weight sheltered room newer := by
    have out : fits weight sheltered room newer unit = false := by
      rw [map_cons,sum_cons] at heavy
      simp [fits,room_.1,heavy]
    simp [kept,out]
  rw [if_neg (by simpa using room_),kept_over open_ heavy,left]

theorem admit_eq (units : List α) (tail : Tail sheltered units) :
    fitted weight sheltered units.reverse room [] = kept weight sheltered room units := by
  have same := @admit_reverse α weight sheltered room units [] (by rwa [append_nil])
  rwa [append_nil] at same

end Deepstrike.Admitting

import Mathlib.Data.List.Nodup
import Mathlib.Logic.Relation
import Mathlib.Logic.Function.Basic

/-!
Rows that name their parent, under one root: no chain of parents closes, and every chain ends at the root.
-/
namespace Deepstrike.Forests
open List Function

variable {N α : Type} (name : N → α) (parent : N → Option α)

/-- The row of `child` names `above` as its parent. -/
def Under (rows : List N) (child above : α) : Prop := ∃ row ∈ rows, name row = child ∧ parent row = some above

/-- Distinct names, one root, and for every other row a parent of a lower rank. -/
structure Rooted (root : α) (rank : α → Nat) (rows : List N) : Prop where
  unique : (rows.map name).Nodup
  held : root ∈ rows.map name
  root_alone : ∀ row ∈ rows, parent row = none ↔ name row = root
  parents : ∀ row ∈ rows, ∀ above, parent row = some above → above ∈ rows.map name ∧ rank above < rank (name row)
  bounded : ∀ row ∈ rows, rank (name row) < rows.length

namespace Rooted
variable {name parent} {root : α} {rank : α → Nat} {rows : List N}

section
variable (rooted : Rooted name parent root rank rows)
include rooted

theorem same_row {first second : N} (member : first ∈ rows) (member' : second ∈ rows)
    (same : name first = name second) : first = second :=
  inj_on_of_nodup_map rooted.unique member member' same

private theorem rank_lt {child above : α} (chain : Relation.TransGen (Under name parent rows) child above) :
    rank above < rank child := by
  induction chain with
  | single link =>
    obtain ⟨row,member,rfl,named⟩ := link
    exact (rooted.parents row member _ named).2
  | tail _ link ih =>
  obtain ⟨row,member,rfl,named⟩ := link
  exact Nat.lt_trans (rooted.parents row member _ named).2 ih

theorem acyclic (id : α) : ¬ Relation.TransGen (Under name parent rows) id id :=
  fun chain => Nat.lt_irrefl _ (rooted.rank_lt chain)

/-- From every row the links lead to the root. -/
theorem reaches {row : N} (member : row ∈ rows) :
    Relation.ReflTransGen (Under name parent rows) (name row) root := by
  induction height : rank (name row) using Nat.strongRecOn generalizing row with
  | ind height' ih =>
  cases named : parent row with
  | none =>
    rw [(rooted.root_alone row member).mp named]
  | some above =>
  obtain ⟨held,lower⟩ := rooted.parents row member above named
  obtain ⟨next,listed,rfl⟩ := mem_map.mp held
  exact .head ⟨row,member,rfl,named⟩ (ih _ (height ▸ lower) listed rfl)

/-- A new row under a known one goes on top. -/
theorem append [DecidableEq α] {row : N} {above : α} (fresh : name row ∉ rows.map name)
    (named : parent row = some above) (known : above ∈ rows.map name) :
    Rooted name parent root (update rank (name row) rows.length) (rows ++ [row]) := by
  have kept : ∀ id ∈ rows.map name, update rank (name row) rows.length id = rank id := by
    rintro id member
    refine update_of_ne ?_ _ _
    rintro rfl
    exact fresh member
  refine ⟨?_,?_,?_,?_,?_⟩
  · rw [map_append,nodup_append]
    refine ⟨rooted.unique,by simp,fun id member other last => ?_⟩
    rw [map_singleton,mem_singleton] at last
    rintro rfl
    exact fresh (last ▸ member)
  · rw [map_append]
    exact mem_append_left _ rooted.held
  · intro other member
    obtain older | last := mem_append.mp member
    · exact rooted.root_alone other older
    · cases mem_singleton.mp last
      rw [named]
      refine ⟨nofun,fun same => ?_⟩
      exact (fresh (same ▸ rooted.held)).elim
  · intro other member parent' named'
    rw [map_append]
    obtain older | last := mem_append.mp member
    · obtain ⟨held,lower⟩ := rooted.parents other older parent' named'
      rw [kept _ held,kept _ (mem_map_of_mem older)]
      exact ⟨mem_append_left _ held,lower⟩
    cases mem_singleton.mp last
    rw [named] at named'
    cases named'
    obtain ⟨held,listed,rfl⟩ := mem_map.mp known
    rw [kept _ known,update_self]
    exact ⟨mem_append_left _ known,rooted.bounded held listed⟩
  intro other member
  rw [length_append,length_singleton]
  obtain older | last := mem_append.mp member
  · rw [kept _ (mem_map_of_mem older)]
    exact Nat.lt_trans (rooted.bounded other older) (Nat.lt_succ_self _)
  · cases mem_singleton.mp last
    rw [update_self]
    exact Nat.lt_succ_self _

theorem congr {after : List N}
    (same : (after.map fun row => (name row,parent row)) = rows.map fun row => (name row,parent row)) :
    Rooted name parent root rank after := by
  have names : after.map name = rows.map name := by
    have firsts := congrArg (map Prod.fst) same
    simpa [comp_def] using firsts
  have twin : ∀ row ∈ after, ∃ older ∈ rows, name older = name row ∧ parent older = parent row := by
    intro row member
    have listed : (name row,parent row) ∈ rows.map fun row => (name row,parent row) := same ▸ mem_map_of_mem member
    obtain ⟨older,held,equal⟩ := mem_map.mp listed
    exact ⟨older,held,congrArg Prod.fst equal,congrArg Prod.snd equal⟩
  have length : after.length = rows.length := by simpa using congrArg length names
  refine ⟨names ▸ rooted.unique,names ▸ rooted.held,fun row member => ?_,fun row member above named => ?_,fun row member => ?_⟩
  · obtain ⟨older,held,name,parent⟩ := twin row member
    rw [← parent,← name]
    exact rooted.root_alone older held
  · obtain ⟨older,held,name,parent⟩ := twin row member
    rw [names,← name]
    exact rooted.parents older held above (parent.trans named)
  · obtain ⟨older,held,name,_⟩ := twin row member
    rw [← name,length]
    exact rooted.bounded older held

end

end Rooted
end Deepstrike.Forests

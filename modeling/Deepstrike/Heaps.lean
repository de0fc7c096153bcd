import Mathlib.Data.List.Sort
import Mathlib.Order.Lattice

/-!
A priority queue as far as its documentation goes: a greatest item is popped first, and in which order
the items stand otherwise is left open.
-/
namespace Deepstrike.Heaps
open List

variable {α κ : Type} [LinearOrder κ]

/-- A heap over lists in an arrangement of its own. -/
structure BinaryHeap (key : α → κ) where
  Arranged : List α → Prop
  push : α → List α → List α
  pop : List α → Option (α × List α)
  arranged_nil : Arranged []
  arranged_push : ∀ item items, Arranged items → Arranged (push item items)
  arranged_pop : ∀ items item rest, Arranged items → pop items = some (item,rest) → Arranged rest
  push_perm : ∀ item items, (push item items).Perm (item :: items)
  pop_nil : ∀ items, pop items = none → items = []
  pop_perm : ∀ items item rest, pop items = some (item,rest) → items.Perm (item :: rest)
  pop_greatest : ∀ items item rest, Arranged items → pop items = some (item,rest) → ∀ other ∈ rest, key other ≤ key item

namespace BinaryHeap
variable {key : α → κ} (heap : BinaryHeap key)

/-- The heap that items make when they are pushed one after the other. -/
def collect (items : List α) : List α := items.foldl (fun held item => heap.push item held) []

/-- All items as they are popped. -/
def popped : Nat → List α → List α
  | 0,_ => []
  | n+1,items =>
    match heap.pop items with
    | none => []
    | some (item,rest) => item :: popped n rest

def into_sorted (items : List α) : List α := heap.popped items.length items

variable (items : List α)

private theorem foldl_push : ∀ held, heap.Arranged held →
    heap.Arranged (items.foldl (fun held item => heap.push item held) held) ∧
      (items.foldl (fun held item => heap.push item held) held).Perm (held ++ items) := by
  induction items with
  | nil => exact fun held arranged => ⟨arranged,by rw [append_nil]; exact List.Perm.refl held⟩
  | cons item rest ih =>
  intro held arranged
  obtain ⟨arranged_after,same⟩ := ih (heap.push item held) (heap.arranged_push item held arranged)
  refine ⟨arranged_after,same.trans ?_⟩
  exact ((heap.push_perm item held).append_right rest).trans perm_middle.symm

theorem collect_arranged : heap.Arranged (heap.collect items) := (heap.foldl_push items [] heap.arranged_nil).1

theorem collect_perm : (heap.collect items).Perm items := (heap.foldl_push items [] heap.arranged_nil).2

private theorem popped_perm : ∀ (n : Nat) (items : List α), items.length ≤ n → (heap.popped n items).Perm items := by
  intro n
  induction n with
  | zero =>
    intro items short
    rw [eq_nil_of_length_eq_zero (Nat.le_zero.mp short)]
    exact List.Perm.refl []
  | succ n ih =>
  intro items short
  unfold popped
  cases taken : heap.pop items with
  | none =>
    rw [heap.pop_nil items taken]
  | some pair =>
  obtain ⟨item,rest⟩ := pair
  have same := heap.pop_perm items item rest taken
  have shorter := same.length_eq
  rw [length_cons] at shorter
  exact ((ih rest (by omega)).cons item).trans same.symm

theorem into_sorted_perm : (heap.into_sorted items).Perm items := heap.popped_perm items.length items (Nat.le_refl _)

/-- Where no two items have one key, what is popped depends on the items alone, not on their arrangement. -/
theorem pop_congr {items items' : List α} (arranged : heap.Arranged items) (arranged' : heap.Arranged items')
    (same : items.Perm items')
    (distinct : ∀ first ∈ items, ∀ second ∈ items, key first = key second → first = second) :
    match heap.pop items,heap.pop items' with
    | none,none => True
    | some (item,rest),some (item',rest') => item = item' ∧ rest.Perm rest'
    | _,_ => False := by
  cases taken : heap.pop items with
  | none =>
    have empty := heap.pop_nil items taken
    subst empty
    have empty' := same.nil_eq.symm
    subst empty'
    rw [taken]
    trivial
  | some pair =>
  obtain ⟨item,rest⟩ := pair
  have parts := heap.pop_perm items item rest taken
  cases taken' : heap.pop items' with
  | none =>
    have empty' := heap.pop_nil items' taken'
    rw [empty'] at same
    exact absurd (same.symm.trans parts) (nil_perm.not.mpr (by simp))
  | some pair' =>
  obtain ⟨item',rest'⟩ := pair'
  have parts' := heap.pop_perm items' item' rest' taken'
  have whole : (item :: rest).Perm (item' :: rest') := parts.symm.trans (same.trans parts')
  have equal : item = item' := by
    by_contra different
    have later : item' ∈ rest := (mem_cons.mp (whole.mem_iff.mpr mem_cons_self)).resolve_left (Ne.symm different)
    have later' : item ∈ rest' := (mem_cons.mp (whole.mem_iff.mp mem_cons_self)).resolve_left different
    have keys := le_antisymm (heap.pop_greatest items' item' rest' arranged' taken' item later')
      (heap.pop_greatest items item rest arranged taken item' later)
    exact different (distinct item (parts.mem_iff.mpr mem_cons_self) item' (parts.mem_iff.mpr (mem_cons_of_mem item later)) keys)
  subst equal
  exact ⟨rfl,(perm_cons item).mp whole⟩

end BinaryHeap

/-- A heap that keeps its items sorted. -/
def sorted (key : α → κ) : BinaryHeap key where
  Arranged items := items.Pairwise fun first second => key second ≤ key first
  push := orderedInsert fun first second => key second ≤ key first
  pop
    | [] => none
    | item :: rest => some (item,rest)
  arranged_nil := List.Pairwise.nil
  arranged_push item items arranged := by
    have total : Std.Total fun first second : α => key second ≤ key first := ⟨fun first second => le_total (key second) (key first)⟩
    have transitive : IsTrans α fun first second => key second ≤ key first := ⟨fun _ _ _ before after => after.trans before⟩
    exact List.Pairwise.orderedInsert item items arranged
  arranged_pop
    | _ :: _,_,_,arranged,rfl => (pairwise_cons.mp arranged).2
  push_perm := perm_orderedInsert _
  pop_nil
    | [],_ => rfl
  pop_perm
    | _ :: _,_,_,rfl => List.Perm.refl _
  pop_greatest
    | _ :: _,_,_,arranged,rfl => (pairwise_cons.mp arranged).1

end Deepstrike.Heaps

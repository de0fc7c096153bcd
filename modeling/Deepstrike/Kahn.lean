import Mathlib.Data.List.Perm.Subperm
import Mathlib.Data.Fintype.Order
import Mathlib.Logic.Relation
import Mathlib.Order.WellFounded

/-!
Counting out a dependency relation. A node is taken when it waits for nothing, and every node it feeds
then waits for one node less. All nodes are taken just when each of them is fed by all it needs, and
no node needs itself, directly or through others.
-/
namespace Deepstrike.Kahn
open List

/-- The nodes one node feeds wait for one node less; those that wait for none are queued. -/
def release (degrees queue : List Nat) : List Nat → List Nat × List Nat
  | [] => (degrees,queue)
  | next :: rest =>
    let degrees := degrees.modify next (· - 1)
    release degrees (if degrees[next]? = some 0 then queue ++ [next] else queue) rest

/-- Take the last of the queue as long as there is one. -/
def drain (feeds : Nat → List Nat) : Nat → List Nat → List Nat → List Nat → List Nat
  | 0,_,_,order => order
  | fuel+1,degrees,queue,order =>
    match queue.getLast? with
    | none => order
    | some id =>
      let (degrees,queue) := release degrees queue.dropLast (feeds id)
      drain feeds fuel degrees queue (order ++ [id])

/-- The order in which the nodes of a relation are taken. Every node is taken once at most, so as many
    rounds are enough. -/
def takenFrom (degrees : List Nat) (feeds : Nat → List Nat) : List Nat :=
  drain feeds degrees.length degrees ((range degrees.length).filter fun id => degrees[id]? = some 0) []

/-- No node needs itself, directly or through others. -/
def Acyclic (needs : Nat → List Nat) : Prop := ∀ id, ¬Relation.TransGen (fun id need => need ∈ needs id) id id

/-- In an acyclic graph what holds of all needs may be assumed. -/
theorem Acyclic.induction {needs : Nat → List Nat} {count : Nat} {holds : Nat → Prop} (acyclic : Acyclic needs)
    (inside : ∀ id, ∀ need ∈ needs id, need < count)
    (ih : ∀ id < count, (∀ need ∈ needs id, holds need) → holds id) : ∀ id < count, holds id := by
  let behind : Fin count → Fin count → Prop := fun need id => Relation.TransGen (fun id need => need ∈ needs id) id.val need.val
  have transitive : IsTrans (Fin count) behind := ⟨fun _ _ _ first second => second.trans first⟩
  have irreflexive : Std.Irrefl behind := ⟨fun id => acyclic id.val⟩
  have founded : WellFounded behind := Finite.wellFounded_of_trans_of_irrefl behind
  have all : ∀ id : Fin count, holds id.val := by
    intro id
    induction id using founded.induction with
    | _ id earlier =>
      exact ih id.val id.isLt fun need needed => earlier ⟨need,inside id.val need needed⟩ (.single needed)
  exact fun id bound => all ⟨id,bound⟩

/-- What a node feeds, of what needs it. -/
structure Feeds (count : Nat) (needs feeds : Nat → List Nat) : Prop where
  needed_once : ∀ id, (needs id).Nodup
  fed_once : ∀ need, (feeds need).Nodup
  sound : ∀ need id, id ∈ feeds need → id < count ∧ need ∈ needs id

section
variable {count : Nat} {needs feeds : Nat → List Nat} {degrees queue order : List Nat}

/-- How many of the taken nodes feed a node. -/
def fedBy (feeds : Nat → List Nat) (order : List Nat) (id : Nat) : List Nat := order.filter fun need => id ∈ feeds need

/-- The state between two rounds: each node waits for what it needs less what fed it, and those that
    wait for none are the ones taken and queued. -/
structure Visited (count : Nat) (needs feeds : Nat → List Nat) (degrees queue order : List Nat) : Prop where
  distinct : (order ++ queue).Nodup
  inside : ∀ id ∈ order ++ queue, id < count
  counted : ∀ id < count, ∃ degree, degrees[id]? = some degree ∧ degree+(fedBy feeds order id).length = (needs id).length
  released : ∀ id < count, degrees[id]? = some 0 ↔ id ∈ order ++ queue
  sorted : ∀ before id behind, order = before ++ id :: behind → ∀ need ∈ needs id, need ∈ before

private theorem Feeds.fedBy_subset (relation : Feeds count needs feeds) (id : Nat) : ∀ need ∈ fedBy feeds order id, need ∈ needs id := by
  intro need member
  obtain ⟨_,fed⟩ := mem_filter.mp member
  exact (relation.sound need id (of_decide_eq_true fed)).2

private theorem Visited.satisfied (relation : Feeds count needs feeds) (visited : Visited count needs feeds degrees queue order) {id : Nat}
    (bound : id < count) (waits : degrees[id]? = some 0) : ∀ need ∈ needs id, need ∈ fedBy feeds order id := by
  obtain ⟨degree,held,total⟩ := visited.counted id bound
  cases waits.symm.trans held
  have distinct : (fedBy feeds order id).Nodup := (nodup_append.mp visited.distinct).1.filter _
  have part := subperm_of_subset distinct (relation.fedBy_subset id)
  have whole := part.perm_of_length_le (by omega)
  intro need member
  exact whole.mem_iff.mpr member

theorem Visited.waiting (relation : Feeds count needs feeds) (visited : Visited count needs feeds degrees queue order)
    {id next : Nat}
    (queued : id ∈ queue) (fed : next ∈ feeds id) : ∃ degree, degrees[next]? = some (degree+1) := by
  obtain ⟨bound,need⟩ := relation.sound id next fed
  obtain ⟨degree,held,total⟩ := visited.counted next bound
  obtain ⟨once,_,apart⟩ := nodup_append.mp visited.distinct
  have fresh : id ∉ fedBy feeds order next := fun member => apart id (mem_filter.mp member).1 id queued rfl
  have part : (id :: fedBy feeds order next) ⊆ needs next := by
    intro other member
    obtain rfl | taken := mem_cons.mp member
    · exact need
    · exact relation.fedBy_subset next other taken
  have bounded := (subperm_of_subset (nodup_cons.mpr ⟨fresh,once.filter _⟩) part).length_le
  rw [length_cons] at bounded
  cases degree with
  | zero => omega
  | succ degree => exact ⟨degree,held⟩

/-- What a release does to nodes that all wait. -/
theorem release_spec (nexts : List Nat) : ∀ degrees queue : List Nat, nexts.Nodup →
    (∀ next ∈ nexts, ∃ degree, degrees[next]? = some (degree+1)) →
    (release degrees queue nexts).2 = queue ++ nexts.filter (fun next => degrees[next]? = some 1) ∧
      ∀ id, (release degrees queue nexts).1[id]? = if id ∈ nexts then degrees[id]?.map (· - 1) else degrees[id]? := by
  induction nexts with
  | nil =>
    intro degrees queue _ _
    exact ⟨(append_nil queue).symm,fun id => by simp [release]⟩
  | cons next rest ih =>
  intro degrees queue distinct waits
  obtain ⟨fresh,distinct⟩ := nodup_cons.mp distinct
  obtain ⟨degree,held⟩ := waits next mem_cons_self
  have kept : ∀ id, (degrees.modify next (· - 1))[id]? = if next = id then degrees[id]?.map (· - 1) else degrees[id]? := by
    intro id
    rw [getElem?_modify]
    split <;> simp
  have others : ∀ id ∈ rest, (degrees.modify next (· - 1))[id]? = degrees[id]? := by
    intro id member
    rw [kept,if_neg]
    rintro rfl
    exact fresh member
  obtain ⟨queued,lowered⟩ := ih (degrees.modify next (· - 1))
    (if (degrees.modify next (· - 1))[next]? = some 0 then queue ++ [next] else queue) distinct
    (fun id member => others id member ▸ waits id (mem_cons_of_mem next member))
  refine ⟨?_,fun id => ?_⟩
  · rw [release,queued,filter_congr fun id member => by rw [others id member]]
    rw [kept,if_pos rfl,held]
    by_cases last : degree = 0
    · simp [held,last]
    · simp [held,last]
  rw [release,lowered,kept]
  by_cases same : next = id
  · subst same
    simp [fresh]
  · simp [same,Ne.symm same,mem_cons]

/-- A round takes a node that waits for none, and keeps the count. -/
theorem Visited.round (relation : Feeds count needs feeds) {id : Nat}
    (visited : Visited count needs feeds degrees (queue ++ [id]) order) :
    Visited count needs feeds (release degrees queue (feeds id)).1 (release degrees queue (feeds id)).2
    (order ++ [id]) := by
  have queued : id ∈ queue ++ [id] := by simp
  have bound : id < count := visited.inside id (by simp)
  have waits : degrees[id]? = some 0 := (visited.released id bound).mpr (by simp)
  have waiting := fun next (fed : next ∈ feeds id) => visited.waiting relation queued fed
  obtain ⟨added,lowered⟩ := release_spec (feeds id) degrees queue (relation.fed_once id) waiting
  have fed : ∀ other, (fedBy feeds (order ++ [id]) other).length = (fedBy feeds order other).length + if other ∈ feeds id then 1 else 0 := by
    intro other
    unfold fedBy
    rw [filter_append,length_append]
    by_cases member : other ∈ feeds id <;> simp [member]
  have moved : ∀ other, other ∈ order ++ [id] ++ (release degrees queue (feeds id)).2 ↔
      other ∈ order ++ (queue ++ [id]) ∨ (other ∈ feeds id ∧ degrees[other]? = some 1) := by
    intro other
    rw [added]
    simp only [mem_append,mem_filter,decide_eq_true_eq,mem_singleton]
    tauto
  refine ⟨?_,?_,?_,?_,?_⟩
  · have whole : (order ++ (queue ++ [id]) ++ (feeds id).filter (fun next => degrees[next]? = some 1)).Nodup := by
      refine nodup_append.mpr ⟨visited.distinct,(relation.fed_once id).filter _,?_⟩
      rintro other older _ released rfl
      obtain ⟨_,one⟩ := mem_filter.mp released
      have none := (visited.released other (visited.inside other older)).mpr older
      simp [none] at one
    have turned : (order ++ [id] ++ (queue ++ (feeds id).filter (fun next => degrees[next]? = some 1))).Perm
        (order ++ (queue ++ [id]) ++ (feeds id).filter (fun next => degrees[next]? = some 1)) := by
      have front : ([id] ++ queue).Perm (queue ++ [id]) := perm_append_comm
      have grown := (front.append_right ((feeds id).filter (fun next => degrees[next]? = some 1))).append_left order
      simpa only [append_assoc] using grown
    rw [added]
    exact turned.nodup_iff.mpr whole
  · intro other member
    obtain older | ⟨given,_⟩ := (moved other).mp member
    · exact visited.inside other older
    · exact (relation.sound id other given).1
  · intro other inside
    obtain ⟨degree,held,total⟩ := visited.counted other inside
    rw [lowered,fed]
    by_cases given : other ∈ feeds id
    · obtain ⟨more,still⟩ := waiting other given
      cases held.symm.trans still
      refine ⟨more,by simp [given,still],?_⟩
      rw [if_pos given]
      omega
    · exact ⟨degree,by rw [if_neg given,held],by rw [if_neg given]; omega⟩
  · intro other inside
    rw [moved,lowered,← visited.released other inside]
    by_cases given : other ∈ feeds id
    · obtain ⟨more,still⟩ := waiting other given
      simp [given,still]
    · simp [given]
  intro before other behind split need needed
  obtain rfl | ⟨rest,last,rfl⟩ := eq_nil_or_concat behind
  · obtain ⟨rfl,single⟩ := append_inj' split rfl
    cases single
    exact (mem_filter.mp (visited.satisfied relation bound waits need needed)).1
  · have split : order ++ [id] = (before ++ other :: rest) ++ [last] := by simpa using split
    exact visited.sorted before other rest (append_inj' split rfl).1 need needed

private theorem Visited.drained (relation : Feeds count needs feeds) : ∀ (fuel : Nat) {degrees queue order : List Nat},
    Visited count needs feeds degrees queue order → order.length+fuel = count →
      ∃ final, Visited count needs feeds final [] (drain feeds fuel degrees queue order) := by
  intro fuel
  induction fuel with
  | zero =>
    intro degrees queue order visited full
    have bounded : (order ++ queue).length ≤ count := by
      have part := subperm_of_subset visited.distinct (fun id member => mem_range.mpr (visited.inside id member))
      simpa using part.length_le
    rw [length_append] at bounded
    have empty : queue = [] := length_eq_zero_iff.mp (by omega)
    exact ⟨degrees,empty ▸ visited⟩
  | succ fuel ih =>
  intro degrees queue order visited room
  obtain rfl | ⟨rest,id,rfl⟩ := eq_nil_or_concat queue
  · exact ⟨degrees,visited⟩
  · rw [concat_eq_append] at *
    simp only [drain,getLast?_append,getLast?_singleton,Option.some_or,dropLast_concat]
    exact ih (visited.round relation) (by rw [length_append,length_singleton]; omega)

/-- The queue of nodes without needs starts the visit. -/
theorem Visited.start (count : Nat) (needs feeds : Nat → List Nat) :
    Visited count needs feeds ((range count).map fun id => (needs id).length)
      ((range count).filter fun id => ((range count).map fun id => (needs id).length)[id]? = some 0) [] := by
  have held : ∀ id < count, ((range count).map fun id => (needs id).length)[id]? = some (needs id).length := by
    intro id bound
    simp [bound]
  refine ⟨?_,?_,?_,?_,?_⟩
  · exact nodup_range.filter _
  · intro id member
    exact mem_range.mp (mem_filter.mp member).1
  · intro id bound
    exact ⟨_,held id bound,by simp [fedBy]⟩
  · intro id bound
    simp [bound]
  · intro before id behind split
    simp at split

section
variable {final : List Nat}

section
variable (visited : Visited count needs feeds final [] order)
include visited

theorem Visited.part : order.Subperm (range count) := by
  have distinct : order.Nodup := by simpa using visited.distinct
  exact subperm_of_subset distinct fun id member => mem_range.mpr (visited.inside id (mem_append_left [] member))

theorem Visited.done {id : Nat} (bound : id < count) :
    final[id]? = some 0 ↔ id ∈ order := by
  rw [visited.released id bound,append_nil]

private theorem Visited.down (all : ∀ id, ∀ need ∈ needs id, id ∈ order) {id need : Nat}
    (path : Relation.TransGen (fun id need => need ∈ needs id) id need) : order.idxOf need < order.idxOf id := by
  have distinct : order.Nodup := by simpa using visited.distinct
  have once : ∀ id, ∀ need ∈ needs id, order.idxOf need < order.idxOf id := by
    intro id need needed
    obtain ⟨before,behind,split⟩ := append_of_mem (all id need needed)
    have earlier := visited.sorted before id behind split need needed
    have apart : id ∉ before := by
      rw [split,nodup_append] at distinct
      exact fun member => distinct.2.2 id member id mem_cons_self rfl
    rw [split,idxOf_append_of_mem earlier,idxOf_append_of_notMem apart,idxOf_cons_self]
    have place := idxOf_lt_length_of_mem earlier
    omega
  induction path with
  | single needed => exact once id _ needed
  | tail _ needed ih => exact Nat.lt_trans (once _ _ needed) ih

end

private theorem Visited.complete_of_full (relation : Feeds count needs feeds) (outside : ∀ id, count ≤ id → needs id = [])
    (visited : Visited count needs feeds final [] order) (full : order.length = count) :
    (∀ id, ∀ need ∈ needs id, need < count ∧ id ∈ feeds need) ∧ Acyclic needs := by
  have whole : order.Perm (range count) := visited.part.perm_of_length_le (by simp [full])
  have all : ∀ id, ∀ need ∈ needs id, id < count ∧ id ∈ order := by
    intro id need needed
    have bound : id < count := by
      by_contra beyond
      rw [outside id (Nat.not_lt.mp beyond)] at needed
      cases needed
    exact ⟨bound,whole.mem_iff.mpr (mem_range.mpr bound)⟩
  refine ⟨?_,fun id cycle => Nat.lt_irrefl _ (visited.down (fun id need needed => (all id need needed).2) cycle)⟩
  intro id need needed
  obtain ⟨bound,taken⟩ := all id need needed
  obtain ⟨earlier,given⟩ := mem_filter.mp (visited.satisfied relation bound ((visited.done bound).mpr taken) need needed)
  exact ⟨visited.inside need (by simp [earlier]),of_decide_eq_true given⟩

/-- Where every need is fed and no node needs itself, all nodes are taken: what comes first in the
    relation is taken first. -/
theorem Visited.full_of_complete (relation : Feeds count needs feeds)
    (visited : Visited count needs feeds final [] order)
    (complete : ∀ id, ∀ need ∈ needs id, need < count ∧ id ∈ feeds need) (acyclic : Acyclic needs) :
    order.length = count := by
  have all : ∀ id < count, id ∈ order := by
    refine acyclic.induction (fun id need needed => (complete id need needed).1) fun id bound ih => ?_
    rw [← visited.done bound]
    obtain ⟨degree,held,total⟩ := visited.counted id bound
    have fed : needs id ⊆ fedBy feeds order id := by
      intro need needed
      exact mem_filter.mpr ⟨ih need needed,decide_eq_true (complete id need needed).2⟩
    have enough := (subperm_of_subset (relation.needed_once id) fed).length_le
    have none : degree = 0 := by omega
    rw [held,none]
  have whole : (range count).Subperm order :=
    subperm_of_subset nodup_range fun id member => all id (mem_range.mp member)
  have least := whole.length_le
  have most := visited.part.length_le
  rw [length_range] at least most
  omega

end

theorem taken_all_iff (relation : Feeds count needs feeds) (outside : ∀ id, count ≤ id → needs id = []) :
    (takenFrom ((range count).map fun id => (needs id).length) feeds).length = count ↔
      (∀ id, ∀ need ∈ needs id, need < count ∧ id ∈ feeds need) ∧ Acyclic needs := by
  have counts : ((range count).map fun id => (needs id).length).length = count := by simp
  obtain ⟨final,visited⟩ := (Visited.start count needs feeds).drained relation count (by simp)
  unfold takenFrom
  rw [counts]
  exact ⟨visited.complete_of_full relation outside,fun facts => visited.full_of_complete relation facts.1 facts.2⟩

end

end Deepstrike.Kahn

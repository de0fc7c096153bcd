import Mathlib.Data.List.Basic
import Std.Data.ExtTreeMap
import Std.Data.ExtTreeSet

/-!
Ordered maps as the code uses them: a map written out as its entries or its values, and
collected again.
-/
namespace Deepstrike.OrderedMaps
open Std ExtTreeMap Prod LawfulEqCmp

variable {α β : Type} {cmp : α → α → Ordering}

/-- The order of a two-part key: the first parts decide, the second break the tie. -/
def pairCmp (first second : String × String) : Ordering :=
  (compare first.1 second.1).then (compare first.2 second.2)

instance : TransCmp pairCmp :=
  inferInstanceAs (TransCmp (compareLex (compareOn fst) (compareOn snd)))

instance : LawfulEqCmp pairCmp where
  eq_of_compare {first second} equal := by
    simp only [pairCmp,Ordering.then_eq_eq,LawfulEqCmp.compare_eq_iff_eq] at equal
    exact Prod.ext equal.1 equal.2

variable [TransCmp cmp]

/-- The values of a map in key order. -/
def values (map : ExtTreeMap α β cmp) : List β := map.toList.map snd

/-- A map is keyed when every value names its own key. -/
def KeyedBy (key : β → α) (map : ExtTreeMap α β cmp) : Prop := ∀ name value, map[name]? = some value → key value = name

theorem KeyedBy.empty (key : β → α) : KeyedBy key (∅ : ExtTreeMap α β cmp) := by
  intro name value found
  simp at found

variable {map : ExtTreeMap α β cmp}

theorem KeyedBy.erase {key : β → α} (keyed : KeyedBy key map) (name : α) :
    KeyedBy key (map.erase name) := by
  intro other found held
  rw [getElem?_erase] at held
  split at held
  · cases held
  · exact keyed other found held

variable [LawfulEqCmp cmp]

/-- A value entered under its own key keeps the map keyed. -/
theorem KeyedBy.insert {key : β → α} (keyed : KeyedBy key map) (value : β) :
    KeyedBy key (map.insert (key value) value) := by
  intro other found held
  rw [getElem?_insert] at held
  split at held
  next equal =>
    cases held
    exact eq_of_compare equal
  next => exact keyed other found held

section
variable {γ : Type} (key : γ → α) (value : γ → β)

theorem mem_foldl_insert (entries : List γ) (map : ExtTreeMap α β cmp) (name : α) :
    name ∈ entries.foldl (fun map entry => map.insert (key entry) (value entry)) map ↔ name ∈ map ∨
    name ∈ entries.map key := by
  induction entries generalizing map with
  | nil => simp
  | cons entry rest ih =>
  rw [List.foldl_cons,ih,mem_insert,LawfulEqCmp.compare_eq_iff_eq,List.map_cons,List.mem_cons,eq_comm]
  tauto

variable {entries : List γ}

/-- What a folded map holds was entered by the fold or held before it. -/
theorem foldl_insert_origin {map : ExtTreeMap α β cmp} {name : α} {found : β}
    (held : (entries.foldl (fun map entry => map.insert (key entry) (value entry)) map)[name]? = some found) :
    (∃ entry ∈ entries, key entry = name ∧ value entry = found) ∨ map[name]? = some found := by
  induction entries generalizing map with
  | nil => exact .inr held
  | cons first rest ih =>
  obtain ⟨entry,member,named⟩ | before := ih held
  · exact .inl ⟨entry,List.mem_cons_of_mem first member,named⟩
  rw [getElem?_insert] at before
  split at before
  next same =>
    cases before
    exact .inl ⟨first,List.mem_cons_self,eq_of_compare same,rfl⟩
  next => exact .inr before

theorem foldl_insert_of_not_mem {name : α} (other : name ∉ entries.map key) (map : ExtTreeMap α β cmp) :
    (entries.foldl (fun map entry => map.insert (key entry) (value entry)) map)[name]? = map[name]? := by
  induction entries generalizing map with
  | nil => rfl
  | cons first rest ih =>
  rw [List.map_cons,List.mem_cons,not_or] at other
  rw [List.foldl_cons,ih other.2,getElem?_insert,if_neg]
  intro same
  exact other.1 (eq_of_compare same).symm

/-- Among distinct keys each entry of the fold is the one held. -/
theorem foldl_insert_of_nodup (distinct : (entries.map key).Nodup) {entry : γ} (member : entry ∈ entries)
    (map : ExtTreeMap α β cmp) :
    (entries.foldl (fun map entry => map.insert (key entry) (value entry)) map)[key entry]? = some (value entry) := by
  induction entries generalizing map with
  | nil => cases member
  | cons first rest ih =>
  rw [List.map_cons,List.nodup_cons] at distinct
  obtain rfl | later := List.mem_cons.mp member
  · rw [List.foldl_cons,foldl_insert_of_not_mem key value distinct.1,getElem?_insert_self]
  · exact ih distinct.2 later _

end

theorem KeyedBy.ofList (key : β → α) (entries : List β) :
    KeyedBy key (ofList (entries.map fun value => (key value,value)) cmp) := by
  have collected : ∀ map : ExtTreeMap α β cmp, KeyedBy key map → KeyedBy key (map.insertMany (entries.map fun value => (key value,value))) := by
    induction entries with
    | nil =>
      intro map keyed
      simpa using keyed
    | cons value rest ih =>
    intro map keyed
    rw [List.map_cons,insertMany_cons]
    exact ih _ (keyed.insert value)
  rw [ofList_eq_insertMany_empty]
  exact collected ∅ (KeyedBy.empty key)

/-- A map is rebuilt from its own entries. -/
theorem ofList_toList (map : ExtTreeMap α β cmp) : ofList map.toList cmp = map := by
  classical
  let _ : BEq α := instBEqOfDecidableEq
  apply ext_getElem?
  intro name
  cases found : map[name]? with
  | none =>
    rw [getElem?_ofList_of_contains_eq_false]
    rw [map_fst_toList_eq_keys,Bool.eq_false_iff]
    intro contains
    have held : name ∈ map := mem_keys.mp (List.contains_iff_mem.mp contains)
    rw [mem_iff_isSome_getElem?,found] at held
    cases held
  | some value =>
  refine getElem?_ofList_of_mem (k := name) (by simp) distinct_keys_toList ?_
  exact mem_toList_iff_getElem?_eq_some.mpr found

/-- A keyed map is rebuilt from its values alone. -/
theorem ofList_values {key : β → α} (keyed : KeyedBy key map) :
    ofList ((values map).map fun value => (key value,value)) cmp = map := by
  have entries : ((values map).map fun value => (key value,value)) = map.toList := by
    rw [values,List.map_map]
    conv_rhs => rw [←List.map_id map.toList]
    apply List.map_congr_left
    rintro ⟨name,value⟩ member
    have named := keyed name value (mem_toList_iff_getElem?_eq_some.mp member)
    simp [named]
  rw [entries,ofList_toList]

theorem mem_values {value : β} : value ∈ values map ↔ ∃ name : α, map[name]? = some value := by
  unfold values
  rw [List.mem_map]
  constructor
  · rintro ⟨⟨name,found⟩,member,rfl⟩
    exact ⟨name,mem_toList_iff_getElem?_eq_some.mp member⟩
  · rintro ⟨name,held⟩
    exact ⟨(name,value),mem_toList_iff_getElem?_eq_some.mpr held,rfl⟩

theorem values_empty : values (∅ : ExtTreeMap α β cmp) = [] := by
  refine List.eq_nil_iff_forall_not_mem.mpr fun value member => ?_
  obtain ⟨name,held⟩ := mem_values.mp member
  simp at held

theorem KeyedBy.nodup {key : β → α} (keyed : KeyedBy key map) : ((values map).map key).Nodup := by
  have names : (values map).map key = map.keys := by
    rw [values,List.map_map,← map_fst_toList_eq_keys]
    refine List.map_congr_left ?_
    rintro ⟨name,value⟩ member
    exact keyed name value (mem_toList_iff_getElem?_eq_some.mp member)
  rw [names]
  exact nodup_keys

theorem KeyedBy.foldl_values {γ : Type} {key : β → α} (keyed : KeyedBy key map) (value : β → γ) :
    (values map).foldl (fun collected held => collected.insert (key held) (value held)) ∅ = map.map fun _ => value := by
  apply ext_getElem?
  intro name
  rw [getElem?_map]
  cases found : map[name]? with
  | some held =>
    have collected := foldl_insert_of_nodup key value keyed.nodup (mem_values.mpr ⟨name,found⟩) (∅ : ExtTreeMap α γ cmp)
    rwa [keyed name held found] at collected
  | none =>
  rw [foldl_insert_of_not_mem key value]
  · simp
  intro member
  obtain ⟨held,listed,rfl⟩ := List.mem_map.mp member
  obtain ⟨other,known⟩ := mem_values.mp listed
  rw [keyed other held known,known] at found
  cases found

theorem foldl_toList (map : ExtTreeMap α β cmp) :
    map.toList.foldl (fun collected entry => collected.insert entry.1 entry.2) ∅ = map := by
  have distinct : (map.toList.map fst).Nodup := by
    rw [map_fst_toList_eq_keys]
    exact nodup_keys
  apply ext_getElem?
  intro name
  cases found : map[name]? with
  | some held =>
    have member : (name,held) ∈ map.toList := mem_toList_iff_getElem?_eq_some.mpr found
    exact foldl_insert_of_nodup fst snd distinct member ∅
  | none =>
  rw [foldl_insert_of_not_mem fst snd]
  · simp
  · intro member
    rw [map_fst_toList_eq_keys,mem_keys,mem_iff_isSome_getElem?,found] at member
    cases member

theorem not_mem_insert {γ : Type} {key : γ → α} {entry : γ} {rest : List γ} {value : β}
    (first : key entry ∉ rest.map key)
    (fresh : ∀ other ∈ entry :: rest, key other ∉ map) : ∀ other ∈ rest, key other ∉ map.insert (key entry) value := by
  intro other member held
  obtain same | before := mem_insert.mp held
  · exact first (List.mem_map.mpr ⟨other,member,(eq_of_compare same).symm⟩)
  · exact fresh other (List.mem_cons_of_mem entry member) before

theorem getElem?_insert_if [DecidableEq α] (map : ExtTreeMap α β cmp) (name other : α) (value : β) :
    (map.insert name value)[other]? = if other = name then some value else map[other]? := by
  rw [getElem?_insert]
  by_cases same : other = name
  · subst same
    simp
  · rw [if_neg same,if_neg]
    exact fun equal => same (eq_of_compare equal).symm

theorem insert_held {name : α} {held : β} (found : map[name]? = some held) : map.insert name held = map := by
  apply ext_getElem?
  intro other
  rw [getElem?_insert]
  split
  next same => rw [← eq_of_compare same,found]
  next => rfl

omit [LawfulEqCmp cmp] in
theorem values_map {γ : Type} (map : ExtTreeMap α β cmp) (value : β → γ) :
    values (map.map fun _ => value) = (values map).map value := by
  unfold values
  rw [toList_map,List.map_map,List.map_map]
  rfl

theorem ofList_toList_set (set : ExtTreeSet α cmp) : ExtTreeSet.ofList set.toList cmp = set := by
  classical
  let _ : BEq α := instBEqOfDecidableEq
  apply ExtTreeSet.ext_mem
  intro name
  rw [ExtTreeSet.mem_ofList,List.contains_iff_mem,ExtTreeSet.mem_toList]

end Deepstrike.OrderedMaps

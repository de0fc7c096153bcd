import Mathlib.Algebra.Group.Int.Defs
import Mathlib.Algebra.GroupWithZero.Nat
import Mathlib.Data.List.Sort
import Mathlib.Data.String.Basic

/-!
JSON values whose numbers are integers: when two of them are the same value, the form with the fields of every
object in order, and how deep a value nests.
-/
namespace Deepstrike.Values
open List

inductive Json where
  | null
  | bool (value : Bool)
  | number (value : Int)
  | string (text : String)
  | array (items : List Json)
  | object (fields : List (String × Json))

namespace Json

@[elab_as_elim]
theorem induction {motive : Json → Prop} (null : motive .null) (bool : ∀ value, motive (.bool value))
    (number : ∀ value, motive (.number value))
    (string : ∀ text, motive (.string text)) (array : ∀ items, (∀ item ∈ items, motive item) → motive (.array items))
    (object : ∀ fields, (∀ field ∈ fields, motive field.2) → motive (.object fields)) (value : Json) :
    motive value := by
  refine @Json.rec motive (fun items => ∀ item ∈ items, motive item) (fun fields => ∀ field ∈ fields, motive field.2)
    (fun field => motive field.2) null bool number string array object ?_ ?_ ?_ ?_ ?_ value
  all_goals simp_all

mutual

/-- No object names a key twice. -/
def Proper : Json → Prop
  | .array items => ProperItems items
  | .object fields => (fields.map Prod.fst).Nodup ∧ ProperFields fields
  | _ => True

def ProperItems : List Json → Prop
  | [] => True
  | item :: rest => item.Proper ∧ ProperItems rest

def ProperFields : List (String × Json) → Prop
  | [] => True
  | (_,value) :: rest => value.Proper ∧ ProperFields rest

end

variable (items : List Json)

theorem properItems_iff : ProperItems items ↔ ∀ item ∈ items, item.Proper := by
  induction items with
  | nil => simp [ProperItems]
  | cons item rest ih => simp [ProperItems,ih]

variable (fields : List (String × Json))

theorem properFields_iff : ProperFields fields ↔ ∀ field ∈ fields, field.2.Proper := by
  induction fields with
  | nil => simp [ProperFields]
  | cons field rest ih => simp [ProperFields,ih]

mutual

/-- The same JSON value: the order of an object's fields does not matter. -/
def Same : Json → Json → Prop
  | .null,.null => True
  | .bool left,.bool right => left = right
  | .number left,.number right => left = right
  | .string left,.string right => left = right
  | .array left,.array right => SameItems left right
  | .object left,.object right => SameFields left right ∧ ∀ key ∈ right.map Prod.fst, key ∈ left.map Prod.fst
  | _,_ => False

def SameItems : List Json → List Json → Prop
  | [],[] => True
  | left :: lefts,right :: rights => left.Same right ∧ SameItems lefts rights
  | _,_ => False

/-- Every field of the first has a field of its key in the second, with the same value. -/
def SameFields : List (String × Json) → List (String × Json) → Prop
  | [],_ => True
  | (key,left) :: rest,others => (∃ right, (key,right) ∈ others ∧ left.Same right) ∧ SameFields rest others

end

private theorem sameFields_iff (left right : List (String × Json)) :
    SameFields left right ↔ ∀ field ∈ left, ∃ value, (field.1,value) ∈ right ∧ field.2.Same value := by
  induction left with
  | nil => simp [SameFields]
  | cons field rest ih => simp [SameFields,ih]

/-- The order of fields: keys ascend by code point. -/
def sortFields {α : Type} (fields : List (String × α)) : List (String × α) := fields.insertionSort fun left right => left.1 ≤ right.1

mutual

/-- The value with the fields of every object in the order of their keys. -/
def normal : Json → Json
  | .array items => .array (normalItems items)
  | .object fields => .object (sortFields (normalFields fields))
  | other => other

def normalItems : List Json → List Json
  | [] => []
  | item :: rest => item.normal :: normalItems rest

def normalFields : List (String × Json) → List (String × Json)
  | [] => []
  | (key,value) :: rest => (key,value.normal) :: normalFields rest

end

theorem normalItems_eq : normalItems items = items.map normal := by
  induction items with
  | nil => rfl
  | cons item rest ih => rw [normalItems,ih,map_cons]

theorem normalFields_eq : normalFields fields = fields.map fun field => (field.1,field.2.normal) := by
  induction fields with
  | nil => rfl
  | cons field rest ih => rw [normalFields,ih,map_cons]

variable {α : Type}

theorem sortFields_perm (fields : List (String × α)) : (sortFields fields).Perm fields := perm_insertionSort _ fields

private theorem sortFields_sorted (fields : List (String × α)) : (sortFields fields).Pairwise fun left right => left.1 ≤ right.1 :=
  pairwise_insertionSort _ fields

private theorem sortFields_of_sorted {fields : List (String × α)} (sorted : fields.Pairwise fun left right => left.1 ≤ right.1) :
    sortFields fields = fields := sorted.insertionSort_eq

private theorem sortFields_congr {left right : List (String × α)} (distinct : (left.map Prod.fst).Nodup) (perm : left.Perm right) :
    sortFields left = sortFields right := by
  have same : (sortFields left).Perm (sortFields right) := (sortFields_perm left).trans (perm.trans (sortFields_perm right).symm)
  refine same.eq_of_pairwise ?_ (sortFields_sorted left) (sortFields_sorted right)
  intro first second held listed least most
  have first_in : first ∈ left := (sortFields_perm left).mem_iff.mp held
  have second_in : second ∈ left := (perm.mem_iff.mpr ((sortFields_perm right).mem_iff.mp listed))
  exact inj_on_of_nodup_map distinct first_in second_in (le_antisymm least most)

theorem sortFields_map {β : Type} (fields : List (String × α)) (view : α → β) :
    (sortFields fields).map (fun field => (field.1,view field.2)) =
    sortFields (fields.map fun field => (field.1,view field.2)) :=
  map_insertionSort _ _ _ _ fun _ _ _ _ => Iff.rfl

private theorem lookup_perm {left right : List (String × α)} (distinct : (left.map Prod.fst).Nodup) (perm : left.Perm right) (key : String) :
    left.lookup key = right.lookup key := by
  induction perm with
  | nil => rfl
  | cons field _ ih =>
    rw [map_cons,nodup_cons] at distinct
    rw [lookup_cons,lookup_cons,ih distinct.2]
  | swap first second rest =>
    obtain ⟨name,value⟩ := first
    obtain ⟨other,twin⟩ := second
    simp only [map_cons,nodup_cons,mem_cons,not_or] at distinct
    rw [lookup_cons,lookup_cons,lookup_cons,lookup_cons]
    by_cases is_first : key = name
    · have apart : (key == other) = false := by
        rw [beq_eq_false_iff_ne,is_first]
        exact Ne.symm distinct.1.1
      rw [apart]
    · rw [beq_eq_false_iff_ne.mpr is_first]
  | trans first _ step_first step_second =>
    rw [step_first distinct,step_second ((first.map Prod.fst).nodup_iff.mp distinct)]

theorem normalFields_keys : (normalFields fields).map Prod.fst = fields.map Prod.fst := by
  simp [normalFields_eq,Function.comp_def]

theorem lookup_normal {fields : List (String × Json)} (distinct : (fields.map Prod.fst).Nodup) (key : String) :
    (sortFields (normalFields fields)).lookup key = (fields.lookup key).map normal := by
  have keys : ((sortFields (normalFields fields)).map Prod.fst).Nodup := by
    rw [((sortFields_perm (normalFields fields)).map Prod.fst).nodup_iff,normalFields_keys]
    exact distinct
  rw [lookup_perm keys (sortFields_perm _),normalFields_eq]
  clear keys distinct
  induction fields with
  | nil => rfl
  | cons field rest ih =>
  rw [map_cons,lookup_cons,lookup_cons,ih]
  cases key == field.1 <;> rfl

/-- Normalising keeps the fields of every object distinct. -/
theorem normal_proper {value : Json} (proper : value.Proper) : value.normal.Proper := by
  induction value using induction with
  | null => trivial
  | bool value => trivial
  | number value => trivial
  | string text => trivial
  | array items ih =>
    rw [Proper,properItems_iff] at proper
    rw [normal,Proper,properItems_iff,normalItems_eq]
    intro item held
    obtain ⟨before,member,rfl⟩ := mem_map.mp held
    exact ih before member (proper before member)
  | object fields ih =>
  rw [Proper,properFields_iff] at proper
  rw [normal,Proper,properFields_iff]
  refine ⟨?_,fun field held => ?_⟩
  · have keys : ((sortFields (normalFields fields)).map Prod.fst).Perm (fields.map Prod.fst) := by
      rw [← normalFields_keys fields]
      exact (sortFields_perm _).map Prod.fst
    exact keys.nodup_iff.mpr proper.1
  · have listed := (sortFields_perm _).mem_iff.mp held
    rw [normalFields_eq] at listed
    obtain ⟨before,member,rfl⟩ := mem_map.mp listed
    exact ih before member (proper.2 before member)

/-- Normalising twice is normalising once. -/
theorem normal_normal (value : Json) : value.normal.normal = value.normal := by
  induction value using induction with
  | null => rfl
  | bool value => rfl
  | number value => rfl
  | string text => rfl
  | array items ih =>
    rw [normal,normal,normalItems_eq,normalItems_eq,map_map]
    exact congrArg Json.array (map_congr_left ih)
  | object fields ih =>
  have kept : normalFields (sortFields (normalFields fields)) = sortFields (normalFields fields) := by
    rw [normalFields_eq,normalFields_eq,sortFields_map,map_map]
    refine congrArg sortFields (map_congr_left fun field held => ?_)
    rw [Function.comp_apply,ih field held]
  rw [normal,normal,kept,sortFields_of_sorted (sortFields_sorted _)]

/-- Values are the same if and only if they are equal once their fields are in order. -/
theorem same_iff {left right : Json} (proper : left.Proper) (proper_right : right.Proper) :
    left.Same right ↔ left.normal = right.normal := by
  induction left using induction generalizing right with
  | null => cases right <;> simp [Same,normal]
  | bool value => cases right <;> simp [Same,normal]
  | number value => cases right <;> simp [Same,normal]
  | string text => cases right <;> simp [Same,normal]
  | array items ih =>
    cases right with
    | array others =>
      rw [Proper,properItems_iff] at proper proper_right
      rw [Same,normal,normal,Json.array.injEq,normalItems_eq,normalItems_eq]
      induction items generalizing others with
      | nil =>
        cases others with
        | nil => simp [SameItems]
        | cons other others => simp [SameItems]
      | cons item items more =>
      cases others with
      | nil => simp [SameItems]
      | cons other others =>
      rw [SameItems,map_cons,map_cons,cons.injEq]
      have first := ih item mem_cons_self (proper item mem_cons_self) (proper_right other mem_cons_self)
      have rest := more (fun item held => ih item (mem_cons_of_mem _ held))
        (fun item held => proper item (mem_cons_of_mem _ held)) others fun other held => proper_right other (mem_cons_of_mem _ held)
      rw [first,rest]
    | null => simp [Same,normal]
    | bool value => simp [Same,normal]
    | number value => simp [Same,normal]
    | string text => simp [Same,normal]
    | object fields => simp [Same,normal]
  | object fields ih =>
  cases right with
  | object others =>
    rw [Proper,properFields_iff] at proper proper_right
    rw [Same,sameFields_iff,normal,normal,Json.object.injEq]
    have distinct : ((normalFields fields).map Prod.fst).Nodup := (normalFields_keys fields).symm ▸ proper.1
    have distinct_right : ((normalFields others).map Prod.fst).Nodup := (normalFields_keys others).symm ▸ proper_right.1
    have related : ∀ key value other, (key,value) ∈ fields → (key,other) ∈ others → (value.Same other ↔ value.normal = other.normal) :=
      fun key value other held listed => ih (key,value) held (proper.2 _ held) (proper_right.2 _ listed)
    have image : ∀ fields : List (String × Json), ∀ key value, (key,value) ∈ normalFields fields ↔
      ∃ before, (key,before) ∈ fields ∧ before.normal = value := by
      intro fields key value
      rw [normalFields_eq]
      constructor
      · intro held
        obtain ⟨field,member,same⟩ := mem_map.mp held
        cases same
        exact ⟨field.2,member,rfl⟩
      · rintro ⟨before,member,rfl⟩
        exact mem_map.mpr ⟨_,member,rfl⟩
    constructor
    · rintro ⟨covers,known⟩
      refine sortFields_congr distinct ((perm_ext_iff_of_nodup distinct.of_map distinct_right.of_map).mpr ?_)
      rintro ⟨key,value⟩
      rw [image,image]
      constructor
      · rintro ⟨before,held,rfl⟩
        obtain ⟨other,listed,same⟩ := covers (key,before) held
        exact ⟨other,listed,((related key before other held listed).mp same).symm⟩
      rintro ⟨other,listed,rfl⟩
      obtain ⟨⟨_,before⟩,held,rfl⟩ := mem_map.mp (known key (mem_map_of_mem listed))
      obtain ⟨twin,found,same⟩ := covers _ held
      obtain rfl : other = twin := congrArg Prod.snd (inj_on_of_nodup_map proper_right.1 listed found rfl)
      exact ⟨before,held,(related _ before other held found).mp same⟩
    intro equal
    have perm : (normalFields fields).Perm (normalFields others) := (sortFields_perm _).symm.trans (equal ▸ sortFields_perm _)
    refine ⟨fun field held => ?_,fun key listed => ?_⟩
    · have moved := perm.mem_iff.mp ((image fields field.1 field.2.normal).mpr ⟨field.2,held,rfl⟩)
      obtain ⟨other,listed,same⟩ := (image others field.1 field.2.normal).mp moved
      exact ⟨other,listed,(related field.1 field.2 other held listed).mpr same.symm⟩
    · have keys := (perm.map Prod.fst).mem_iff (a := key)
      rw [normalFields_keys,normalFields_keys] at keys
      exact keys.mpr listed
  | null => simp [Same,normal]
  | bool value => simp [Same,normal]
  | number value => simp [Same,normal]
  | string text => simp [Same,normal]
  | array items => simp [Same,normal]

mutual

/-- How many containers are within each other at most. -/
def containers : Json → Nat
  | .array items => containersItems items+1
  | .object fields => containersFields fields+1
  | _ => 0

def containersItems : List Json → Nat
  | [] => 0
  | item :: rest => max item.containers (containersItems rest)

def containersFields : List (String × Json) → Nat
  | [] => 0
  | (_,value) :: rest => max value.containers (containersFields rest)

end

variable (bound : Nat)

theorem containersItems_le : containersItems items ≤ bound ↔ ∀ item ∈ items, item.containers ≤ bound := by
  induction items with
  | nil => simp [containersItems]
  | cons item rest ih => simp [containersItems,ih]

theorem containersFields_le :
    containersFields fields ≤ bound ↔ ∀ field ∈ fields, field.2.containers ≤ bound := by
  induction fields with
  | nil => simp [containersFields]
  | cons field rest ih => simp [containersFields,ih]

/-- A measure that puts a container one above the largest within it does not see how members are ordered. -/
theorem measure_normal {measure : Json → Nat} {largest : List Json → Nat} {largest_field : List (String × Json) → Nat}
    (arrays : ∀ items, measure (.array items) = largest items+1)
    (objects : ∀ fields, measure (.object fields) = largest_field fields+1)
    (items_le : ∀ items bound, largest items ≤ bound ↔ ∀ item ∈ items, measure item ≤ bound)
    (fields_le : ∀ fields bound, largest_field fields ≤ bound ↔ ∀ field ∈ fields, measure field.2 ≤ bound)
    (value : Json) :
    measure value.normal = measure value := by
  induction value using induction with
  | null => rfl
  | bool value => rfl
  | number value => rfl
  | string text => rfl
  | array items ih =>
    rw [normal,arrays,arrays,normalItems_eq]
    refine congrArg (· + 1) (eq_of_forall_ge_iff fun bound => ?_)
    rw [items_le,items_le,forall_mem_map]
    exact forall₂_congr fun item held => by rw [ih item held]
  | object fields ih =>
  rw [normal,objects,objects,normalFields_eq]
  refine congrArg (· + 1) (eq_of_forall_ge_iff fun bound => ?_)
  rw [fields_le,fields_le]
  simp only [(sortFields_perm _).mem_iff,forall_mem_map]
  exact forall₂_congr fun field held => by rw [ih field held]

theorem containers_normal (value : Json) : value.normal.containers = value.containers :=
  measure_normal (fun _ => by rw [containers]) (fun _ => by rw [containers]) containersItems_le containersFields_le value

mutual

/-- How deep a value nests. A value alone is one deep, what a container holds is one deeper. -/
def depth : Json → Nat
  | .array items => depthItems items+1
  | .object fields => depthFields fields+1
  | _ => 1

def depthItems : List Json → Nat
  | [] => 0
  | item :: rest => max item.depth (depthItems rest)

def depthFields : List (String × Json) → Nat
  | [] => 0
  | (_,value) :: rest => max value.depth (depthFields rest)

end

theorem depthItems_le : depthItems items ≤ bound ↔ ∀ item ∈ items, item.depth ≤ bound := by
  induction items with
  | nil => simp [depthItems]
  | cons item rest ih => simp [depthItems,ih]

theorem depthFields_le : depthFields fields ≤ bound ↔ ∀ field ∈ fields, field.2.depth ≤ bound := by
  induction fields with
  | nil => simp [depthFields]
  | cons field rest ih => simp [depthFields,ih]

theorem depth_normal (value : Json) : value.normal.depth = value.depth :=
  measure_normal (fun _ => by rw [depth]) (fun _ => by rw [depth]) depthItems_le depthFields_le value

mutual

/-- Whether a value holds a number outside a range. -/
def Holds (outside : Int → Prop) : Json → Prop
  | .number value => outside value
  | .array items => HoldsItems outside items
  | .object fields => HoldsFields outside fields
  | _ => False

def HoldsItems (outside : Int → Prop) : List Json → Prop
  | [] => False
  | item :: rest => item.Holds outside ∨ HoldsItems outside rest

def HoldsFields (outside : Int → Prop) : List (String × Json) → Prop
  | [] => False
  | (_,value) :: rest => value.Holds outside ∨ HoldsFields outside rest

end

theorem holdsItems_iff (outside : Int → Prop) (items : List Json) :
    HoldsItems outside items ↔ ∃ item ∈ items, item.Holds outside := by
  induction items with
  | nil => simp [HoldsItems]
  | cons item rest ih => simp [HoldsItems,ih]

theorem holdsFields_iff (outside : Int → Prop) (fields : List (String × Json)) :
    HoldsFields outside fields ↔ ∃ field ∈ fields, field.2.Holds outside := by
  induction fields with
  | nil => simp [HoldsFields]
  | cons field rest ih => simp [HoldsFields,ih]

theorem holds_normal (outside : Int → Prop) (value : Json) : value.normal.Holds outside ↔ value.Holds outside := by
  induction value using induction with
  | null => rfl
  | bool value => rfl
  | number value => rfl
  | string text => rfl
  | array items ih =>
    rw [normal,Holds,Holds,holdsItems_iff,holdsItems_iff,normalItems_eq]
    simp only [mem_map,exists_exists_and_eq_and]
    exact exists_congr fun item => and_congr_right fun held => ih item held
  | object fields ih =>
  rw [normal,Holds,Holds,holdsFields_iff,holdsFields_iff,normalFields_eq]
  simp only [(sortFields_perm _).mem_iff,mem_map,exists_exists_and_eq_and]
  exact exists_congr fun field => and_congr_right fun held => ih field held

end Json
end Deepstrike.Values

import Deepstrike.Record
import Deepstrike.Texts

/-!
The canonical writer: compact text, the keys of every object in order, numbers within the range every language
holds exactly, and a bound on how deep it descends. How strings are escaped and the parser that reads text back
are the JSON library's; the parser refuses to open as many containers within each other as its limit.
-/
namespace Deepstrike.Canonical
open Values Texts Record Json List

def CANONICAL_MAX_DEPTH : Nat := 128
def JS_SAFE_INTEGER_MAX : Nat := 2 ^ 53 - 1

/-- The recursion limit of the JSON library. -/
def RECURSION_LIMIT : Nat := 128

def write_canonical_number (value : Int) : Except RecordError (List Char) :=
  if value < -(JS_SAFE_INTEGER_MAX : Int) ∨ (JS_SAFE_INTEGER_MAX : Int) < value then
    .error (.NotCanonical s!"integer {value} exceeds the cross-language exact-integer range (±{JS_SAFE_INTEGER_MAX}); logical u64 travels as a decimal string")
  else .ok (printInteger value)

/-- The members of an object, written in the order they come in. -/
def write_members (strings : Strings) : List (String × Except RecordError (List Char)) → Except RecordError (List (List Char))
  | [] => .ok []
  | (key,written) :: rest =>
    match written with
    | .error error => .error error
    | .ok text =>
      match write_members strings rest with
      | .error error => .error error
      | .ok texts => .ok ((strings.print key ++ ':' :: text) :: texts)

/-- What is written at a depth, unless that is too deep. -/
def bounded (depth : Nat) (written : Except RecordError (List Char)) : Except RecordError (List Char) :=
  if CANONICAL_MAX_DEPTH < depth then .error (.NotCanonical s!"value nests deeper than {CANONICAL_MAX_DEPTH}") else written

section Write
variable (strings : Strings)

mutual

/-- Write a value at a depth. The fields of an object are visited in the order of their keys. -/
def write_canonical (depth : Nat) : Json → Except RecordError (List Char)
  | .null => bounded depth (.ok "null".toList)
  | .bool true => bounded depth (.ok "true".toList)
  | .bool false => bounded depth (.ok "false".toList)
  | .number value => bounded depth (write_canonical_number value)
  | .string text => bounded depth (.ok (strings.print text))
  | .array items => bounded depth ((write_items (depth+1) items).map fun texts => '[' :: (separated texts ++ [']']))
  | .object fields =>
    bounded depth ((write_members strings (Json.sortFields (write_fields (depth+1) fields))).map fun texts =>
    '\x7b' :: (separated texts ++ ['}']))

def write_items (depth : Nat) : List Json → Except RecordError (List (List Char))
  | [] => .ok []
  | item :: rest =>
    match write_canonical depth item with
    | .error error => .error error
    | .ok text =>
      match write_items depth rest with
      | .error error => .error error
      | .ok texts => .ok (text :: texts)

def write_fields (depth : Nat) : List (String × Json) → List (String × Except RecordError (List Char))
  | [] => []
  | (key,value) :: rest => (key,write_canonical depth value) :: write_fields depth rest

end

def canonical_bytes (value : Json) : Except RecordError ByteArray := (write_canonical strings 1 value).map fun text =>
    (String.ofList text).toUTF8

/-- Read a document back from its bytes. -/
def decode (bytes : ByteArray) : Option Json := (String.fromUTF8? bytes).bind fun text => parse strings RECURSION_LIMIT text.toList

/-- A value the writer accepts at a depth. -/
structure Accepted (depth : Nat) (value : Json) : Prop where
  shallow : value.depth+depth ≤ CANONICAL_MAX_DEPTH+1
  exact : ¬ value.Holds fun number => JS_SAFE_INTEGER_MAX < number.natAbs

variable {depth : Nat} {items : List Json} {value : Json} {bytes : ByteArray}

private theorem write_items_ok
    (written : ∀ item ∈ items, write_canonical strings depth item = .ok (print strings item.normal)) :
    write_items strings depth items = .ok (items.map fun item => print strings item.normal) := by
  induction items with
  | nil => rfl
  | cons item rest ih =>
  rw [write_items,written item mem_cons_self,ih fun item held => written item (mem_cons_of_mem _ held)]
  rfl

private theorem write_items_error {item : Json} (held : item ∈ items)
    (refused : ∃ error, write_canonical strings depth item = .error error) : ∃ error, write_items strings depth items = .error error := by
  induction items with
  | nil => cases held
  | cons first rest ih =>
  rw [write_items]
  cases written : write_canonical strings depth first with
  | error error => exact ⟨error,rfl⟩
  | ok text =>
  obtain rfl | inside := mem_cons.mp held
  · obtain ⟨error,refused⟩ := refused
    cases written.symm.trans refused
  · obtain ⟨error,refused⟩ := ih inside
    exact ⟨error,by rw [refused]⟩

private theorem write_fields_eq (depth : Nat) (fields : List (String × Json)) :
    write_fields strings depth fields = fields.map fun field => (field.1,write_canonical strings depth field.2) := by
  induction fields with
  | nil => rfl
  | cons field rest ih => rw [write_fields,ih,map_cons]

private theorem write_members_ok (members : List (String × List Char)) :
    write_members strings (members.map fun member => (member.1,.ok member.2)) =
    .ok (members.map fun member => strings.print member.1 ++ ':' :: member.2) := by
  induction members with
  | nil => rfl
  | cons member rest ih => rw [map_cons,write_members,ih,map_cons]

private theorem write_members_error {members : List (String × Except RecordError (List Char))} {key : String} {error : RecordError}
    (held : (key,.error error) ∈ members) : ∃ error, write_members strings members = .error error := by
  induction members with
  | nil => cases held
  | cons first rest ih =>
  obtain ⟨key,written⟩ := first
  cases written with
  | error error => exact ⟨error,rfl⟩
  | ok text =>
  obtain same | inside := mem_cons.mp held
  · cases same
  · obtain ⟨error,refused⟩ := ih inside
    exact ⟨error,by simp only [write_members,refused]⟩

theorem accepted_scalar (alone : value.depth = 1)
    (free : ¬ value.Holds fun number => JS_SAFE_INTEGER_MAX < number.natAbs) :
    Accepted depth value ↔ depth ≤ CANONICAL_MAX_DEPTH := by
  constructor
  · rintro ⟨shallow,_⟩
    omega
  · intro shallow
    exact ⟨by omega,free⟩

private theorem accepted_container {α : Type} {level : Nat} {items : List α} {inside : α → Json} (nests : value.depth = level+1)
    (levels : ∀ bound, level ≤ bound ↔ ∀ item ∈ items, (inside item).depth ≤ bound)
    (holds : ∀ outside, value.Holds outside ↔ ∃ item ∈ items, (inside item).Holds outside) :
    Accepted depth value ↔ depth ≤ CANONICAL_MAX_DEPTH ∧ ∀ item ∈ items, Accepted (depth+1) (inside item) := by
  constructor
  · rintro ⟨shallow,exact_numbers⟩
    rw [nests] at shallow
    rw [holds] at exact_numbers
    refine ⟨by omega,fun item held => ⟨?_,fun outside => exact_numbers ⟨item,held,outside⟩⟩⟩
    have below := (levels (CANONICAL_MAX_DEPTH-depth)).mp (by omega) item held
    omega
  rintro ⟨shallow,all⟩
  refine ⟨?_,?_⟩
  · have below := (levels (CANONICAL_MAX_DEPTH-depth)).mpr fun item held => by
      have shallow := (all item held).shallow
      omega
    omega
  · rw [holds]
    rintro ⟨item,held,outside⟩
    exact (all item held).exact outside

private theorem accepted_array (depth : Nat) (items : List Json) :
    Accepted depth (.array items) ↔ depth ≤ CANONICAL_MAX_DEPTH ∧ ∀ item ∈ items, Accepted (depth+1) item :=
  accepted_container (by rw [Json.depth]) (Json.depthItems_le items) fun outside => by rw [Json.Holds,Json.holdsItems_iff]

theorem accepted_object (depth : Nat) (fields : List (String × Json)) :
    Accepted depth (.object fields) ↔ depth ≤ CANONICAL_MAX_DEPTH ∧ ∀ field ∈ fields, Accepted (depth+1) field.2 :=
  accepted_container (by rw [Json.depth]) (Json.depthFields_le fields) fun outside => by rw [Json.Holds,Json.holdsFields_iff]

theorem bounded_of_le (shallow : depth ≤ CANONICAL_MAX_DEPTH) (written : Except RecordError (List Char)) :
    bounded depth written = written := if_neg (Nat.not_lt.mpr shallow)

theorem bounded_error (deep : CANONICAL_MAX_DEPTH < depth) (written : Except RecordError (List Char)) :
    ∃ error, bounded depth written = .error error := ⟨_,if_pos deep⟩

private theorem scalar_spec (alone : value.depth = 1)
    (free : ¬ value.Holds fun number => JS_SAFE_INTEGER_MAX < number.natAbs)
    (written : write_canonical strings depth value = bounded depth (.ok (print strings value.normal))) :
    (Accepted depth value → write_canonical strings depth value = .ok (print strings value.normal)) ∧
      (¬ Accepted depth value → ∃ error, write_canonical strings depth value = .error error) := by
  rw [accepted_scalar alone free,written]
  exact ⟨fun shallow => bounded_of_le shallow _,fun deep => bounded_error (Nat.not_le.mp deep) _⟩

/-- What is accepted is written as the compact text of the value with its fields in order, and nothing else is written. -/
theorem write_canonical_spec (depth : Nat) (value : Json) :
    (Accepted depth value → write_canonical strings depth value = .ok (print strings value.normal)) ∧
      (¬ Accepted depth value → ∃ error, write_canonical strings depth value = .error error) := by
  induction value using induction generalizing depth with
  | null => exact scalar_spec strings rfl (by simp [Json.Holds]) rfl
  | bool value => cases value <;> exact scalar_spec strings rfl (by simp [Json.Holds]) rfl
  | string text => exact scalar_spec strings rfl (by simp [Json.Holds]) rfl
  | number value =>
    have alone : (number value).depth = 1 := rfl
    rw [write_canonical]
    constructor
    · rintro ⟨shallow,exact_number⟩
      rw [Json.Holds] at exact_number
      rw [bounded_of_le (by omega),write_canonical_number,if_neg (by omega)]
      rfl
    intro refused
    by_cases shallow : depth ≤ CANONICAL_MAX_DEPTH
    · rw [bounded_of_le shallow,write_canonical_number]
      have outside : JS_SAFE_INTEGER_MAX < value.natAbs := by
        by_contra inside
        exact refused ⟨by omega,inside⟩
      exact ⟨_,if_pos (by omega)⟩
    · exact bounded_error (Nat.not_le.mp shallow) _
  | array items ih =>
    rw [accepted_array,write_canonical]
    constructor
    · rintro ⟨shallow,all⟩
      rw [bounded_of_le shallow,write_items_ok strings fun item held => (ih item held (depth+1)).1 (all item held)]
      rw [normal,print,printItems_eq,normalItems_eq,map_map]
      rfl
    intro refused
    by_cases shallow : depth ≤ CANONICAL_MAX_DEPTH
    · obtain ⟨item,held,rejected⟩ : ∃ item ∈ items, ¬ Accepted (depth+1) item := by
        by_contra all
        exact refused ⟨shallow,fun item held => not_not.mp fun rejected => all ⟨item,held,rejected⟩⟩
      obtain ⟨error,failed⟩ := write_items_error strings held ((ih item held (depth+1)).2 rejected)
      rw [bounded_of_le shallow,failed]
      exact ⟨error,rfl⟩
    · exact bounded_error (Nat.not_le.mp shallow) _
  | object fields ih =>
  rw [accepted_object,write_canonical,write_fields_eq]
  constructor
  · rintro ⟨shallow,all⟩
    have written : (fields.map fun field => (field.1,write_canonical strings (depth+1) field.2)) =
        (fields.map fun field => (field.1,print strings field.2.normal)).map fun member => (member.1,.ok member.2) := by
      rw [map_map]
      exact map_congr_left fun field held => by simp [(ih field held (depth+1)).1 (all field held)]
    rw [bounded_of_le shallow,written,← sortFields_map,write_members_ok]
    rw [normal,print,printFields_eq,normalFields_eq]
    have sorted : sortFields (fields.map fun field => (field.1,print strings field.2.normal)) =
        (sortFields (fields.map fun field => (field.1,field.2.normal))).map fun field => (field.1,print strings field.2) := by
      rw [sortFields_map,map_map]
      rfl
    rw [sorted,map_map]
    rfl
  intro refused
  by_cases shallow : depth ≤ CANONICAL_MAX_DEPTH
  · obtain ⟨field,held,rejected⟩ : ∃ field ∈ fields, ¬ Accepted (depth+1) field.2 := by
      by_contra all
      exact refused ⟨shallow,fun field held => not_not.mp fun rejected => all ⟨field,held,rejected⟩⟩
    obtain ⟨error,failed⟩ := (ih field held (depth+1)).2 rejected
    have listed : (field.1,Except.error error) ∈
        sortFields (fields.map fun field => (field.1,write_canonical strings (depth+1) field.2)) := by
      refine (sortFields_perm _).mem_iff.mpr (mem_map.mpr ⟨field,held,?_⟩)
      rw [failed]
    obtain ⟨error,failed⟩ := write_members_error strings listed
    rw [bounded_of_le shallow,failed]
    exact ⟨error,rfl⟩
  · exact bounded_error (Nat.not_le.mp shallow) _

theorem canonical_bytes_ok (written : canonical_bytes strings value = .ok bytes) :
    Accepted 1 value ∧ bytes = (String.ofList (print strings value.normal)).toUTF8 := by
  obtain ⟨accepts,refuses⟩ := write_canonical_spec strings 1 value
  by_cases accepted : Accepted 1 value
  · rw [canonical_bytes,accepts accepted] at written
    cases written
    exact ⟨accepted,rfl⟩
  · obtain ⟨error,refused⟩ := refuses accepted
    rw [canonical_bytes,refused] at written
    cases written

theorem canonical_bytes_of_accepted (accepted : Accepted 1 value) :
    canonical_bytes strings value = .ok (String.ofList (print strings value.normal)).toUTF8 := by
  rw [canonical_bytes,(write_canonical_spec strings 1 value).1 accepted]
  rfl

private theorem fromUTF8?_toUTF8 (text : String) : String.fromUTF8? text.toUTF8 = some text := dif_pos text.isValidUTF8

/-- Canonical bytes decode to the normal value within the recursion limit. -/
theorem decode_canonical (proper : value.Proper) (written : canonical_bytes strings value = .ok bytes) :
    decode strings bytes = if value.containers < RECURSION_LIMIT then some value.normal else none := by
  obtain ⟨_,rfl⟩ := canonical_bytes_ok strings written
  rw [decode,fromUTF8?_toUTF8,Option.bind_some,String.toList_ofList]
  have read := parse_print strings (normal_proper proper) 127
  rw [containers_normal] at read
  have limits : value.containers < RECURSION_LIMIT ↔ value.containers ≤ 127 := Nat.lt_succ_iff
  simp only [limits]
  exact read

theorem Accepted.normal (accepted : Accepted depth value) : Accepted depth value.normal :=
  ⟨by rw [depth_normal]; exact accepted.shallow,by rw [holds_normal]; exact accepted.exact⟩

theorem print_injective {left right : Json} (proper : left.Proper) (proper_right : right.Proper)
    (same : print strings left = print strings right) : left = right := by
  have read := parse_print strings proper (max left.containers right.containers)
  have read_right := parse_print strings proper_right (max left.containers right.containers)
  rw [if_pos (le_max_left _ _),same] at read
  rw [if_pos (le_max_right _ _)] at read_right
  exact Option.some.inj (read.symm.trans read_right)

private theorem canonical_bytes_error (value : Json) : (∃ error, canonical_bytes strings value = .error error) ↔ ¬ Accepted 1 value := by
  constructor
  · rintro ⟨error,refused⟩ accepted
    rw [canonical_bytes_of_accepted strings accepted] at refused
    cases refused
  · intro rejected
    obtain ⟨error,refused⟩ := (write_canonical_spec strings 1 value).2 rejected
    exact ⟨error,by rw [canonical_bytes,refused]; rfl⟩

/-- Canonical bytes are equal exactly when the values are the same. They are read back exactly when fewer containers nest
    than the parser's limit, as the same value and with the same bytes. What is refused holds an integer beyond the exact
    range or nests too deep, and nothing else is. -/
theorem canonical_bytes_canonical :
    (∀ left right : Json, left.Proper → right.Proper → ∀ bytes others, canonical_bytes strings left = .ok bytes →
      canonical_bytes strings right = .ok others → (bytes = others ↔ left.Same right)) ∧
    (∀ value : Json, value.Proper → ∀ bytes, canonical_bytes strings value = .ok bytes →
      ((∃ decoded, decode strings bytes = some decoded) ↔ value.containers < RECURSION_LIMIT) ∧
      ∀ decoded, decode strings bytes = some decoded → value.Same decoded ∧
      canonical_bytes strings decoded = .ok bytes) ∧
    (∀ value : Json, value.Proper → ((∃ error, canonical_bytes strings value = .error error) ↔
      value.Holds (fun number => JS_SAFE_INTEGER_MAX < number.natAbs) ∨ CANONICAL_MAX_DEPTH < value.depth)) := by
  refine ⟨?_,?_,?_⟩
  · intro left right proper proper_right bytes others written written_right
    obtain ⟨_,rfl⟩ := canonical_bytes_ok strings written
    obtain ⟨_,rfl⟩ := canonical_bytes_ok strings written_right
    rw [same_iff proper proper_right]
    constructor
    · intro equal
      have texts := String.ofList_injective (String.toByteArray_inj.mp equal)
      exact print_injective strings (normal_proper proper) (normal_proper proper_right) texts
    · intro same
      rw [same]
  · intro value proper bytes written
    have read := decode_canonical strings proper written
    constructor
    · constructor
      · rintro ⟨decoded,found⟩
        by_contra deep
        rw [read,if_neg deep] at found
        cases found
      · intro shallow
        exact ⟨value.normal,by rw [read,if_pos shallow]⟩
    intro decoded found
    obtain rfl : value.normal = decoded := by
      by_cases shallow : value.containers < RECURSION_LIMIT
      · rw [read,if_pos shallow] at found
        exact Option.some.inj found
      · rw [read,if_neg shallow] at found
        cases found
    obtain ⟨accepted,rfl⟩ := canonical_bytes_ok strings written
    refine ⟨(same_iff proper (normal_proper proper)).mpr (normal_normal value).symm,?_⟩
    rw [canonical_bytes_of_accepted strings accepted.normal,normal_normal]
  intro value _
  rw [canonical_bytes_error]
  constructor
  · intro rejected
    by_contra neither
    obtain ⟨exact_numbers,shallow⟩ := not_or.mp neither
    exact rejected ⟨by omega,exact_numbers⟩
  · rintro (outside | deep) accepted
    · exact accepted.exact outside
    · have shallow := accepted.shallow
      omega

end Write

/-- Two fields in either order give the same bytes, and these are read back. -/
theorem canonical_bytes_swapped : ∃ bytes, canonical_bytes escaped (.object [("b",.number 1),("a",.null)]) = .ok bytes ∧
    canonical_bytes escaped (.object [("a",.null),("b",.number 1)]) = .ok bytes ∧
    (∃ decoded, decode escaped bytes = some decoded) ∧
    ∃ error, canonical_bytes escaped (.number (2^53)) = .error error := by
  have accepted : Accepted 1 (.object [("b",.number 1),("a",.null)]) := ⟨by decide,by simp [Json.Holds,Json.HoldsFields,JS_SAFE_INTEGER_MAX]⟩
  have accepted_other : Accepted 1 (.object [("a",.null),("b",.number 1)]) := ⟨by decide,by simp [Json.Holds,Json.HoldsFields,JS_SAFE_INTEGER_MAX]⟩
  have written := canonical_bytes_of_accepted escaped accepted
  have written_other := canonical_bytes_of_accepted escaped accepted_other
  have proper : Json.Proper (.object [("b",.number 1),("a",.null)]) := ⟨by decide,trivial,trivial,trivial⟩
  have proper_other : Json.Proper (.object [("a",.null),("b",.number 1)]) := ⟨by decide,trivial,trivial,trivial⟩
  obtain ⟨equal,reads,refuses⟩ := canonical_bytes_canonical escaped
  have same := (equal _ _ proper proper_other _ _ written written_other).mpr
    ⟨⟨⟨_,.tail _ (.head _),rfl⟩,⟨_,.head _,trivial⟩,trivial⟩,by decide⟩
  refine ⟨_,written,same ▸ written_other,?_,(refuses (.number (2^53)) trivial).mpr (.inl ?_)⟩
  · exact (reads _ proper _ written).1.mpr (by decide)
  · simp [Json.Holds,JS_SAFE_INTEGER_MAX]

/-- As many arrays as a number says, one within the other. -/
def nested : Nat → Json
  | 0 => .array []
  | levels+1 => .array [nested levels]

private theorem nested_depth (levels : Nat) : (nested levels).depth = levels+1 := by
  induction levels with
  | zero => rfl
  | succ levels ih => simp [nested,depth,depthItems,ih]

private theorem nested_containers (levels : Nat) : (nested levels).containers = levels+1 := by
  induction levels with
  | zero => rfl
  | succ levels ih => simp [nested,containers,containersItems,ih]

private theorem nested_proper (levels : Nat) : (nested levels).Proper := by
  induction levels with
  | zero => trivial
  | succ levels ih => exact ⟨ih,trivial⟩

private theorem nested_exact (outside : Int → Prop) (levels : Nat) : ¬ (nested levels).Holds outside := by
  induction levels with
  | zero => exact fun held => held
  | succ levels ih => exact fun held => held.elim ih fun held => held

/-- The writer's bound is one more than the parser's: what nests 128 arrays is written and never read back. -/
theorem deepest_not_decoded : ∃ bytes, canonical_bytes escaped (nested 127) = .ok bytes ∧
    decode escaped bytes = none := by
  have accepted : Accepted 1 (nested 127) := ⟨by rw [nested_depth]; decide,nested_exact _ _⟩
  have written := canonical_bytes_of_accepted escaped accepted
  refine ⟨_,written,?_⟩
  rw [decode_canonical escaped (nested_proper 127) written,nested_containers]
  rfl

end Deepstrike.Canonical

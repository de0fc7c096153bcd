import Mathlib.Data.List.Infix
import Deepstrike.Canonical
import Deepstrike.Scalars

/-!
The bytes of a record: its digests are hashes of canonical bytes, its JSON names every field, and its journal form
is read back and verified. The hash and the JSON of inputs and steps are parameters.
-/
namespace Deepstrike.RecordBytes
open Option
open Wire (NormalizedInput OperationId InputId Digest EffectOutcome CancellationReason CallId)
open Values Texts Record Canonical Scalars

def RECORD_ERROR_MARKER : String := "kernel record rejected"
def DIGEST_ALGORITHM : String := "sha256"

def hexDigits (bytes : List UInt8) : List Char := bytes.flatMap fun byte => [Nat.digitChar (byte.toNat/16),Nat.digitChar (byte.toNat%16)]

/-- The JSON the derived encoders give to the values a record holds, and the derived reader of inputs. -/
structure Schema (Step : Type) where
  input : NormalizedInput → Json
  read_input : Json → Option NormalizedInput
  step : Step → Json
  outcome : EffectOutcome → Json
  cancel : CancellationReason → List CallId → Json

def bytes_json (bytes : ByteArray) : Json :=
  .object [("encoding",.string "base64"),("data",.string (String.ofList (base64_encode bytes.data.toList)))]

def digest_json : Option Digest → Json
  | none => .null
  | some digest => .string digest

/-- The digested body of a record, under the names of its fields. -/
def body_fields (operation_id : OperationId) (input_id : InputId) (step_seq : Nat) (previous_record_digest : Option Digest)
    (canonical_input : ByteArray) (input_digest step_digest : Digest) : List (String × Json) :=
  [("operation_id",.string operation_id),("input_id",.string input_id),("step_seq",.string (WireU64.print step_seq)),
    ("previous_record_digest",digest_json previous_record_digest),("canonical_input",bytes_json canonical_input),
    ("input_digest",.string input_digest),("step_digest",.string step_digest)]

section Codec
variable {Step : Type} (strings : Strings) (sha256 : List UInt8 → Vector UInt8 32) (schema : Schema Step)

/-- The hash of exactly these bytes, under the name of its algorithm. -/
def canonical_digest (bytes : ByteArray) : Digest :=
  DIGEST_ALGORITHM ++ ":" ++ String.ofList (hexDigits (sha256 bytes.data.toList).toList)

def json_digest (value : Json) : Except RecordError Digest := (canonical_bytes strings value).map (canonical_digest sha256)

/-- Decode the normalised input a record froze. -/
def decode_input (bytes : ByteArray) : Except RecordError NormalizedInput :=
  match String.fromUTF8? bytes with
  | none => .error (.NotCanonical "canonical input is not UTF-8")
  | some _ =>
    match (decode strings bytes).bind schema.read_input with
    | none => .error (.NotCanonical "canonical input does not decode")
    | some input => .ok input

abbrev jsonCodec : Codec Step where
  Bytes := ByteArray
  bytesEq := ByteArray.instDecidableEq
  encode_input input := canonical_bytes strings (schema.input input)
  decode_input := decode_input strings schema
  bytes_len := ByteArray.size
  input_digest := canonical_digest sha256
  step_digest step := json_digest strings sha256 (schema.step step)
  body_digest operation_id input_id step_seq previous_record_digest canonical_input input_digest step_digest :=
    json_digest strings sha256
    (.object (body_fields operation_id input_id step_seq previous_record_digest canonical_input input_digest step_digest))
  record_len operation_id input_id step_seq previous_record_digest canonical_input input_digest step_digest record_digest :=
    match canonical_bytes strings (.object (body_fields operation_id input_id step_seq previous_record_digest canonical_input input_digest
      step_digest ++ [("record_digest",.string record_digest)])) with
    | .ok bytes => bytes.size
    | .error _ => 0
  outcome_digest outcome := json_digest strings sha256 (schema.outcome outcome)
  cancel_digest reason calls := json_digest strings sha256 (schema.cancel reason calls)

abbrev JsonRecord := KernelRecord (jsonCodec strings sha256 schema)

variable {strings sha256 schema}

def body (record : JsonRecord strings sha256 schema) : List (String × Json) :=
  body_fields record.operation_id record.input_id record.step_seq record.previous_record_digest record.canonical_input
    record.input_digest record.step_digest

/-- The fields of a record in its JSON. -/
def record_fields (record : JsonRecord strings sha256 schema) : List (String × Json) :=
  body record ++ [("record_digest",.string record.record_digest)]

def record_json (record : JsonRecord strings sha256 schema) : Json := .object (record_fields record)

/-- What the journal stores. -/
def record_bytes (record : JsonRecord strings sha256 schema) : Except RecordError ByteArray := canonical_bytes strings (record_json record)

def field (fields : List (String × Json)) (name : String) : Except String Json :=
  match fields.lookup name with
  | none => .error s!"missing field `{name}`"
  | some value => .ok value

/-- How a value is named that is of another type. -/
def unexpected : Json → String
  | .null => "null"
  | .bool value => s!"boolean `{value}`"
  | .number value => s!"integer `{value}`"
  | .string text => s!"string {text.quote}"
  | .array _ => "sequence"
  | .object _ => "map"

def invalid_type {α : Type} (value : Json) (expected : String) : Except String α :=
  .error s!"invalid type: {unexpected value}, expected {expected}"

def one_of : List String → String
  | [first,second] => s!"`{first}` or `{second}`"
  | names => "one of " ++ ", ".intercalate (names.map fun name => s!"`{name}`")

/-- A field nobody knows is refused. -/
def known (names : List String) (fields : List (String × Json)) : Except String Unit :=
  match fields.find? fun field => !names.contains field.1 with
  | none => .ok ()
  | some (name,_) => .error s!"unknown field `{name}`, expected {one_of names}"

def scalar_error {α : Type} (message : String) : Except String α := .error s!"{SCALAR_ERROR_MARKER}: {message}"

/-- A branded text. Identities and opaque references say what else they were given in words of their own. -/
def read_branded (label : String) (numbered : Int → String) : Json → Except String String
  | .string text =>
    match validate_id label text with
    | .error message => scalar_error message
    | .ok () => .ok text
  | .number value => scalar_error s!"{label} must be a branded string, got {numbered value}"
  | .null => scalar_error s!"{label} must be a branded string, got null"
  | value => invalid_type value s!"a non-empty {label} string"

def read_id (label : String) : Json → Except String String := read_branded label fun value => s!"the number integer `{value}`"
def read_digest : Json → Except String Digest := read_branded "digest" fun value => s!"{value}"

def read_u64 : Json → Except String Nat
  | .string text =>
    match WireU64.parse text with
    | .error message => scalar_error message
    | .ok value => .ok value
  | .number value => scalar_error s!"u64 must be a decimal string, got the JSON number {value}"
  | .bool value => scalar_error s!"u64 must be a decimal string, got the boolean {value}"
  | .null => scalar_error "u64 must be a decimal string, got null"
  | value => invalid_type value "a canonical decimal string encoding a u64"

def read_string : Json → Except String String
  | .string text => .ok text
  | value => invalid_type value "a string"

def read_bytes : Json → Except String ByteArray
  | .object fields => do
    known ["encoding","data"] fields
    let encoding ← read_string (← field fields "encoding")
    let data ← read_string (← field fields "data")
    if encoding ≠ "base64" then .error s!"unknown variant `{encoding}`, expected `base64`"
    else
      match base64_decode data.toList with
      | .error message => scalar_error message
      | .ok bytes => .ok ⟨bytes.toArray⟩
  | value => invalid_type value "struct CanonicalBytesProjection"

/-- A missing field of an optional digest is none, as null is. -/
def read_previous (fields : List (String × Json)) : Except String (Option Digest) :=
  match fields.lookup "previous_record_digest" with
  | none | some .null => .ok none
  | some value => (read_digest value).map some

/-- The projection a record is decoded through. -/
def read_record : Json → Except String (JsonRecord strings sha256 schema)
  | .object fields => do
    known ["operation_id","input_id","step_seq","previous_record_digest","canonical_input","input_digest",
      "step_digest","record_digest"] fields
    let operation_id ← read_id "operation id" (← field fields "operation_id")
    let input_id ← read_id "input id" (← field fields "input_id")
    let step_seq ← read_u64 (← field fields "step_seq")
    let previous_record_digest ← read_previous fields
    let canonical_input ← read_bytes (← field fields "canonical_input")
    let input_digest ← read_digest (← field fields "input_digest")
    let step_digest ← read_digest (← field fields "step_digest")
    let record_digest ← read_digest (← field fields "record_digest")
    .ok ⟨operation_id,input_id,step_seq,previous_record_digest,canonical_input,input_digest,step_digest,record_digest⟩
  | value => invalid_type value "struct RecordProjection"

def decode_error (message : String) : RecordError :=
  if RECORD_ERROR_MARKER.toList <:+: message.toList then .DigestMismatch message else .NotCanonical s!"record does not decode: {message}"

/-- Decode a record from its journal bytes, verifying every digest it carries. -/
def from_record_bytes (bytes : ByteArray) : Except RecordError (JsonRecord strings sha256 schema) :=
  match String.fromUTF8? bytes with
  | none => .error (.NotCanonical "record bytes are not UTF-8")
  | some text =>
    match parse strings RECURSION_LIMIT text.toList with
    | none => .error (decode_error "no JSON document")
    | some value =>
      match read_record value with
      | .error message => .error (decode_error message)
      | .ok record =>
        match record.verify with
        | .error error => .error (decode_error s!"{RECORD_ERROR_MARKER}: {error.message}")
        | .ok () => .ok record

/-- What a branded text is. -/
structure Valid (text : String) : Prop where
  nonempty : text.isEmpty = false
  short : text.utf8ByteSize ≤ MAX_ID_BYTES
  printed : text.toList.any is_control = false

/-- What the types of its fields promise of a record. -/
structure Branded (record : JsonRecord strings sha256 schema) : Prop where
  operation_id : Valid record.operation_id
  input_id : Valid record.input_id
  step_seq : record.step_seq ≤ u64Max
  previous_record_digest : ∀ digest ∈ record.previous_record_digest, Valid digest
  input_digest : Valid record.input_digest
  step_digest : Valid record.step_digest
  record_digest : Valid record.record_digest

theorem validate_id_ok (label text : String) : validate_id label text = .ok () ↔ Valid text := by
  unfold validate_id
  constructor
  · intro accepted
    split_ifs at accepted with empty long control
    exact ⟨by simpa using empty,not_lt.mp long,by simpa using control⟩
  · rintro ⟨nonempty,short,printed⟩
    rw [if_neg (by simp [nonempty]),if_neg (not_lt.mpr short),if_neg (by simp [printed])]

theorem read_branded_string {label : String} {numbered : Int → String} {text : String} (valid : Valid text) :
    read_branded label numbered (.string text) = .ok text := by
  rw [read_branded,(validate_id_ok label text).mpr valid]

private theorem read_u64_print {value : Nat} (bounded : value ≤ u64Max) : read_u64 (.string (WireU64.print value)) = .ok value := by
  rw [read_u64,WireU64.parse_print bounded]

variable {fields : List (String × Json)} {names : List String} {record : JsonRecord strings sha256 schema}

theorem field_of_lookup {name : String} {value : Json} (held : fields.lookup name = some value) :
    field fields name = .ok value := by rw [field,held]

private theorem known_ok (listed : ∀ field ∈ fields, field.1 ∈ names) : known names fields = .ok () := by
  have none_found : (fields.find? fun field => !names.contains field.1) = none := by
    rw [List.find?_eq_none]
    intro field held
    simp [listed field held]
  rw [known,none_found]

private theorem known_normal (listed : ∀ field ∈ fields, field.1 ∈ names) :
    known names (Json.sortFields (Json.normalFields fields)) = .ok () := by
  refine known_ok fun field held => ?_
  have named := List.mem_map_of_mem (f := Prod.fst) ((Json.sortFields_perm _).mem_iff.mp held)
  rw [Json.normalFields_keys] at named
  obtain ⟨before,member,same⟩ := List.mem_map.mp named
  exact same ▸ listed before member

variable (bytes : ByteArray)

private theorem read_bytes_normal : read_bytes (bytes_json bytes).normal = .ok bytes := by
  have distinct : ([("encoding",Json.string "base64"),("data",.string (String.ofList (base64_encode bytes.data.toList)))].map Prod.fst).Nodup :=
    show ["encoding","data"].Nodup by decide
  have lookup := Json.lookup_normal distinct
  have encoding := field_of_lookup ((lookup "encoding").trans rfl)
  have data := field_of_lookup ((lookup "data").trans rfl)
  rw [bytes_json,Json.normal,read_bytes,known_normal (by simp)]
  simp only [bind,Except.bind,encoding,data,Json.normal,read_string]
  rw [if_neg (by simp),String.toList_ofList,base64_decode_encode]

private theorem body_names (record : JsonRecord strings sha256 schema) : (body record).map Prod.fst =
    ["operation_id","input_id","step_seq","previous_record_digest","canonical_input","input_digest","step_digest"] := rfl

private theorem body_distinct (record : JsonRecord strings sha256 schema) : ((body record).map Prod.fst).Nodup := by
  rw [body_names]
  decide

private theorem record_names (record : JsonRecord strings sha256 schema) : (record_fields record).map Prod.fst =
    ["operation_id","input_id","step_seq","previous_record_digest","canonical_input","input_digest","step_digest","record_digest"] := rfl

private theorem record_distinct (record : JsonRecord strings sha256 schema) :
    ((record_fields record).map Prod.fst).Nodup := by
  rw [record_names]
  decide

private theorem read_record_normal (branded : Branded record) :
    read_record (record_json record).normal = .ok record := by
  have lookup := Json.lookup_normal (record_distinct record)
  have operation_id := field_of_lookup ((lookup "operation_id").trans rfl)
  have input_id := field_of_lookup ((lookup "input_id").trans rfl)
  have step_seq := field_of_lookup ((lookup "step_seq").trans rfl)
  have canonical_input := field_of_lookup ((lookup "canonical_input").trans rfl)
  have input_digest := field_of_lookup ((lookup "input_digest").trans rfl)
  have step_digest := field_of_lookup ((lookup "step_digest").trans rfl)
  have record_digest := field_of_lookup ((lookup "record_digest").trans rfl)
  have previous : read_previous (Json.sortFields (Json.normalFields (record_fields record))) =
      .ok record.previous_record_digest := by
    have found : (record_fields record).lookup "previous_record_digest" = some (digest_json record.previous_record_digest) := rfl
    have valid := branded.previous_record_digest
    rw [read_previous,lookup,found]
    cases held : record.previous_record_digest with
    | none => rfl
    | some digest =>
    have read : read_digest (.string digest) = .ok digest := read_branded_string (valid digest held)
    simp only [digest_json,map_some,Json.normal,read]
    rfl
  have names : ∀ field ∈ record_fields record, field.1 ∈
      ["operation_id","input_id","step_seq","previous_record_digest","canonical_input","input_digest","step_digest","record_digest"] := by
    intro field held
    rw [← record_names record]
    exact List.mem_map_of_mem held
  rw [record_json,Json.normal,read_record,known_normal names]
  simp only [bind,Except.bind,operation_id,input_id,step_seq,canonical_input,input_digest,step_digest,record_digest,
    previous,read_bytes_normal,Json.normal,
    read_id,read_digest,read_branded_string branded.operation_id,read_branded_string branded.input_id,read_u64_print branded.step_seq,
    read_branded_string branded.input_digest,read_branded_string branded.step_digest,read_branded_string branded.record_digest]

private theorem bytes_json_accepted (depth : Nat) (shallow : depth+1 ≤ CANONICAL_MAX_DEPTH) (bytes : ByteArray) :
    Accepted depth (bytes_json bytes) := by
  rw [bytes_json,accepted_object]
  refine ⟨by omega,fun field held => ?_⟩
  simp only [List.mem_cons,List.not_mem_nil,or_false] at held
  obtain rfl | rfl := held
  all_goals exact (accepted_scalar rfl (by simp [Json.Holds])).mpr shallow

private theorem digest_json_accepted {depth : Nat} (shallow : depth ≤ CANONICAL_MAX_DEPTH) (digest : Option Digest) :
    Accepted depth (digest_json digest) := by
  cases digest <;> exact (accepted_scalar rfl (by simp [digest_json,Json.Holds])).mpr shallow

private theorem body_accepted (record : JsonRecord strings sha256 schema) : ∀ field ∈ body record, Accepted 2 field.2 := by
  intro field held
  have text : ∀ text : String, Accepted 2 (.string text) := fun text => (accepted_scalar rfl (by simp [Json.Holds])).mpr (by decide)
  simp only [body,body_fields,List.mem_cons,List.not_mem_nil,or_false] at held
  obtain rfl | rfl | rfl | rfl | rfl | rfl | rfl := held
  · exact text _
  · exact text _
  · exact text _
  · exact digest_json_accepted (by decide) _
  · exact bytes_json_accepted 2 (by decide) _
  · exact text _
  · exact text _

private theorem record_json_accepted (record : JsonRecord strings sha256 schema) : Accepted 1 (record_json record) := by
  rw [record_json,accepted_object]
  refine ⟨by decide,fun field held => ?_⟩
  obtain inside | last := List.mem_append.mp held
  · exact body_accepted record field inside
  · obtain rfl := List.mem_singleton.mp last
    exact (accepted_scalar rfl (by simp [Json.Holds])).mpr (by decide)

private theorem body_json_accepted (record : JsonRecord strings sha256 schema) : Accepted 1 (.object (body record)) := by
  rw [accepted_object]
  exact ⟨by decide,body_accepted record⟩

private theorem bytes_json_proper : (bytes_json bytes).Proper := ⟨show ["encoding","data"].Nodup by decide,trivial,trivial,trivial⟩

private theorem record_json_proper (record : JsonRecord strings sha256 schema) : (record_json record).Proper := by
  rw [record_json,Json.Proper,Json.properFields_iff]
  refine ⟨record_distinct record,fun field held => ?_⟩
  simp only [record_fields,body,body_fields,List.cons_append,List.nil_append,List.mem_cons,List.not_mem_nil,or_false] at held
  obtain rfl | rfl | rfl | rfl | rfl | rfl | rfl | rfl := held
  · trivial
  · trivial
  · trivial
  · cases record.previous_record_digest <;> trivial
  · exact bytes_json_proper _
  · trivial
  · trivial
  · trivial

private theorem body_json_proper (record : JsonRecord strings sha256 schema) : (Json.object (body record)).Proper := by
  obtain ⟨_,fields⟩ := record_json_proper record
  rw [Json.properFields_iff] at fields
  rw [Json.Proper,Json.properFields_iff]
  exact ⟨body_distinct record,fun field held => fields field (List.mem_append_left _ held)⟩

private theorem record_json_containers (record : JsonRecord strings sha256 schema) : (record_json record).containers = 2 := by
  cases held : record.previous_record_digest <;>
    simp [record_json,record_fields,body,body_fields,Json.containers,Json.containersFields,bytes_json,digest_json,held]

/-- A verified record is read back from its bytes. -/
theorem from_record_bytes_record_bytes (branded : Branded record) (verified : record.verify = .ok ()) :
    ∃ bytes, record_bytes record = .ok bytes ∧ from_record_bytes bytes = .ok record := by
  have written := canonical_bytes_of_accepted strings (record_json_accepted record)
  have decoded := decode_canonical strings (record_json_proper record) written
  rw [if_pos (by rw [record_json_containers]; decide)] at decoded
  refine ⟨_,written,?_⟩
  obtain ⟨text,utf8,parsed⟩ := bind_eq_some_iff.mp decoded
  rw [from_record_bytes,utf8]
  simp only [parsed,read_record_normal branded,verified]

/-- Two byte strings with one spelling in hex are one. -/
theorem hexDigits_injective {left right : List UInt8} (same : hexDigits left = hexDigits right) : left = right := by
  induction left generalizing right with
  | nil =>
    cases right with
    | nil => rfl
    | cons byte rest => cases same
  | cons byte rest ih =>
  cases right with
  | nil => cases same
  | cons other others =>
  simp only [hexDigits,List.flatMap_cons,List.cons_append,List.nil_append,List.cons.injEq] at same ih
  obtain ⟨high,low,rest_same⟩ := same
  have byte_small := byte.toNat_lt
  have other_small := other.toNat_lt
  have high_same := congrArg hexValue high
  have low_same := congrArg hexValue low
  rw [hexValue_digitChar (by omega),hexValue_digitChar (by omega),some.injEq] at high_same low_same
  rw [ih rest_same,UInt8.toNat_inj.mp (show byte.toNat = other.toNat by omega)]

theorem canonical_digest_hash {left right : ByteArray}
    (same : canonical_digest sha256 left = canonical_digest sha256 right) :
    sha256 left.data.toList = sha256 right.data.toList :=
  Vector.toList_inj.mp (hexDigits_injective (String.ofList_injective ((String.append_right_inj _).mp same)))

theorem size_of_ascii {chars : List Char} (ascii : ∀ char ∈ chars, char.utf8Size = 1) :
    (String.ofList chars).utf8ByteSize = chars.length := by
  induction chars with
  | nil => rfl
  | cons char rest ih =>
  rw [← List.singleton_append,String.ofList_append,String.utf8ByteSize_append,ih fun char held => ascii char (List.mem_cons_of_mem _ held),
    ← String.singleton_eq_ofList,String.utf8ByteSize_singleton,ascii char List.mem_cons_self,List.length_append,List.length_singleton]

theorem hexDigits_length (bytes : List UInt8) : (hexDigits bytes).length = 2*bytes.length := by
  induction bytes with
  | nil => rfl
  | cons byte rest ih =>
  simp only [hexDigits,List.flatMap_cons,List.length_append,List.length_cons,List.length_nil] at ih ⊢
  omega

theorem hexDigits_ascii (bytes : List UInt8) :
    ∀ char ∈ hexDigits bytes, char.utf8Size = 1 ∧ is_control char = false := by
  have digits : ∀ digit : Fin 16, (Nat.digitChar digit.val).utf8Size = 1 ∧ is_control (Nat.digitChar digit.val) = false := by decide
  intro char held
  obtain ⟨byte,_,among⟩ := List.mem_flatMap.mp held
  have small := byte.toNat_lt
  obtain rfl | among := List.mem_cons.mp among
  · exact digits ⟨byte.toNat/16,by omega⟩
  · exact List.mem_singleton.mp among ▸ digits ⟨byte.toNat%16,by omega⟩

/-- A computed digest has the form that is checked. -/
theorem canonical_digest_valid : Valid (canonical_digest sha256 bytes) := by
  have hex := hexDigits_ascii (sha256 bytes.data.toList).toList
  have size : (canonical_digest sha256 bytes).utf8ByteSize = 71 := by
    rw [canonical_digest,String.utf8ByteSize_append,size_of_ascii fun char held => (hex char held).1,hexDigits_length,Vector.length_toList]
    rfl
  have chars : (canonical_digest sha256 bytes).toList = (DIGEST_ALGORITHM ++ ":").toList ++ hexDigits (sha256 bytes.data.toList).toList := by
    rw [canonical_digest,String.toList_append,String.toList_ofList]
  refine ⟨?_,?_,?_⟩
  · rw [Bool.eq_false_iff]
    intro empty
    rw [String.isEmpty_iff] at empty
    rw [empty] at size
    cases size
  · rw [size]
    decide
  · rw [chars,List.any_append,Bool.or_eq_false_iff]
    exact ⟨by decide,List.any_eq_false.mpr fun char held => Bool.not_eq_true _ ▸ (hex char held).2⟩

/-- The bytes a record's digest hashes. -/
def body_bytes (record : JsonRecord strings sha256 schema) : ByteArray :=
  (String.ofList (print strings (Json.object (body record)).normal)).toUTF8

theorem body_written (record : JsonRecord strings sha256 schema) :
    canonical_bytes strings (.object (body record)) = .ok (body_bytes record) :=
  canonical_bytes_of_accepted strings (body_json_accepted record)

/-- A verified record carries the digests of its own bytes. -/
theorem verify_digests (verified : record.verify = .ok ()) :
    canonical_digest sha256 record.canonical_input = record.input_digest ∧
    canonical_digest sha256 (body_bytes record) = record.record_digest := by
  have hashed : json_digest strings sha256 (.object (body record)) = .ok (canonical_digest sha256 (body_bytes record)) := by
    rw [json_digest,body_written]
    rfl
  rw [body] at hashed
  unfold KernelRecord.verify at verified
  simp only [hashed,bind,Except.bind] at verified
  split_ifs at verified with input output
  exact ⟨not_not.mp input,not_not.mp output⟩

/-- A body's bytes determine every field of the body. -/
theorem body_injective {left right : JsonRecord strings sha256 schema} (same : body_bytes left = body_bytes right) :
    left.operation_id = right.operation_id ∧ left.input_id = right.input_id ∧ left.step_seq = right.step_seq ∧
      left.previous_record_digest = right.previous_record_digest ∧ left.canonical_input = right.canonical_input ∧
      left.input_digest = right.input_digest ∧ left.step_digest = right.step_digest := by
  have texts := String.ofList_injective (String.toByteArray_inj.mp same)
  have ordered := print_injective strings (Json.normal_proper (body_json_proper left)) (Json.normal_proper (body_json_proper right)) texts
  rw [Json.normal,Json.normal,Json.object.injEq] at ordered
  have agree : ∀ key, ((body left).lookup key).map Json.normal = ((body right).lookup key).map Json.normal := by
    intro key
    rw [← Json.lookup_normal (body_distinct left),← Json.lookup_normal (body_distinct right),ordered]
  have text : ∀ (key : String) {one other : String}, (body left).lookup key = some (.string one) →
    (body right).lookup key = some (.string other) → one = other := by
    intro key one other held listed
    have equal := agree key
    rw [held,listed] at equal
    exact Json.string.inj (some.inj equal)
  refine ⟨text "operation_id" rfl rfl,text "input_id" rfl rfl,WireU64.print_injective (text "step_seq" rfl rfl),?_,?_,
    text "input_digest" rfl rfl,text "step_digest" rfl rfl⟩
  · have equal : (digest_json left.previous_record_digest).normal = (digest_json right.previous_record_digest).normal :=
      some.inj (agree "previous_record_digest")
    cases held : left.previous_record_digest <;> cases listed : right.previous_record_digest <;>
      simp_all [digest_json,Json.normal]
  · have equal : (bytes_json left.canonical_input).normal = (bytes_json right.canonical_input).normal := some.inj (agree "canonical_input")
    have read := congrArg read_bytes equal
    rw [read_bytes_normal,read_bytes_normal] at read
    exact Except.ok.inj read

theorem decode_input_encoded {input : NormalizedInput} {bytes : ByteArray}
    (encoded : canonical_bytes strings (schema.input input) = .ok bytes)
    (proper : (schema.input input).Proper) (shallow : (schema.input input).containers < RECURSION_LIMIT)
    (inverts : schema.read_input (schema.input input).normal = some input) :
    decode_input strings schema bytes = .ok input := by
  have decoded := decode_canonical strings proper encoded
  rw [if_pos shallow] at decoded
  obtain ⟨text,utf8,_⟩ := bind_eq_some_iff.mp decoded
  simp only [decode_input,utf8,decoded,bind_some,inverts]

end Codec

end Deepstrike.RecordBytes

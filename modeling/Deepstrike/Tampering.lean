import Deepstrike.Refolding
import Deepstrike.PlainParts
import Deepstrike.RecordBytes
import Deepstrike.Hashing

/-!
What the digests of a journal bind: the digest of the last record binds every field of every record before it. The
header of a record is bound to the canonical input it embeds where the kernel chains it, and checked where a journal
is rebuilt; verification alone does not compare them.
-/
namespace Deepstrike.Tampering
open Option
open Wire (NormalizedInput InputId Digest)
open Values Texts Record Canonical Scalars RecordBytes
open Transaction Transaction.KernelTransaction

section Chains
variable {Step : Type} {C : Codec Step}

variable {records : List (KernelRecord C)} {record : KernelRecord C}

private theorem verify_record_chain_ok {genesis : Digest} (verified : verify_record_chain records = .ok genesis) :
    verify_chain_from none records = .ok () := by
  cases records with
  | nil => cases verified
  | cons record rest =>
  simp only [verify_record_chain,bind,Except.bind] at verified
  split at verified
  · cases verified
  next walked => exact walked

private theorem verify_chain_unsnoc : ∀ {previous : Option (KernelRecord C)},
    verify_chain_from previous (records ++ [record]) = .ok () →
      verify_chain_from previous records = .ok () ∧ record.verify_follows (records.getLast?.or previous) = .ok () := by
  induction records with
  | nil =>
    intro previous verified
    refine ⟨rfl,?_⟩
    simp only [List.nil_append,verify_chain_from,bind,Except.bind] at verified
    split at verified
    · cases verified
    next follows => simpa using follows
  | cons first rest ih =>
  intro previous verified
  simp only [verify_chain_from,bind,Except.bind,List.cons_append] at verified ⊢
  split at verified
  · cases verified
  next follows =>
  obtain ⟨walked,last⟩ := ih verified
  refine ⟨by simpa [follows] using walked,?_⟩
  cases final : rest.getLast? with
  | none => simpa [List.getLast?_cons,final] using last
  | some held => simpa [List.getLast?_cons,final] using last

/-- How a record that verifies against its predecessor is linked to it. -/
structure Linked (previous : Option (KernelRecord C)) (record : KernelRecord C) : Prop where
  verified : record.verify = .ok ()
  digest : record.previous_record_digest = previous.map KernelRecord.record_digest
  position : record.step_seq = (previous.map fun before => before.step_seq+1).getD 0

theorem verify_follows_linked {previous : Option (KernelRecord C)} (follows : record.verify_follows previous = .ok ()) :
    Linked previous record := by
  unfold KernelRecord.verify_follows at follows
  simp only [bind,Except.bind] at follows
  split at follows
  · cases follows
  next verified =>
  cases previous with
  | none =>
    cases linked : record.previous_record_digest with
    | none =>
      simp only [linked] at follows
      split_ifs at follows with position
      exact ⟨verified,linked,not_not.mp position⟩
    | some digest =>
    simp only [linked] at follows
    cases follows
  | some before =>
  cases linked : record.previous_record_digest with
  | none =>
    simp only [linked] at follows
    cases follows
  | some digest =>
  simp only [linked] at follows
  split_ifs at follows with owner head position
  exact ⟨verified,by rw [linked,not_not.mp head]; rfl,(not_not.mp position).symm⟩

private theorem chains_equal {left right : List (KernelRecord C)}
    (bound : ∀ one ∈ left, ∀ other ∈ right, one.verify = .ok () → other.verify = .ok () → one.record_digest = other.record_digest → one = other)
    (verified : verify_chain_from none left = .ok ()) (verified_right : verify_chain_from none right = .ok ())
    (heads : left.getLast?.map KernelRecord.record_digest = right.getLast?.map KernelRecord.record_digest) : left = right := by
  induction left using List.reverseRecOn generalizing right with
  | nil =>
    cases right using List.reverseRecOn with
    | nil => rfl
    | append_singleton => simp at heads
  | append_singleton before record ih =>
  cases right using List.reverseRecOn with
  | nil => simp at heads
  | append_singleton others other =>
  obtain ⟨walked,last⟩ := verify_chain_unsnoc verified
  obtain ⟨walked_right,last_right⟩ := verify_chain_unsnoc verified_right
  have linked := verify_follows_linked last
  have linked_right := verify_follows_linked last_right
  simp only [List.getLast?_append,List.getLast?_singleton,some_or,map_some,some.injEq] at heads
  obtain rfl := bound record (by simp) other (by simp) linked.verified linked_right.verified heads
  have digests := linked.digest.symm.trans linked_right.digest
  rw [or_none,or_none] at digests
  have apart : ∀ one ∈ before, ∀ other ∈ others, one.verify = .ok () → other.verify = .ok () →
    one.record_digest = other.record_digest → one = other :=
    fun one held other listed => bound one (List.mem_append_left _ held) other (List.mem_append_left _ listed)
  rw [ih apart walked walked_right digests]

private theorem chain_verified : ∀ {previous : Option (KernelRecord C)}, verify_chain_from previous records = .ok () →
    ∀ record ∈ records, record.verify = .ok () := by
  induction records with
  | nil => simp
  | cons first rest ih =>
  intro previous verified record held
  simp only [verify_chain_from,bind,Except.bind] at verified
  split at verified
  · cases verified
  next follows =>
  obtain rfl | inside := List.mem_cons.mp held
  · exact (verify_follows_linked follows).verified
  · exact ih verified record inside

private theorem genesis_chain {input : NormalizedInput} (verified : record.verify = .ok ()) (first : record.step_seq = 0)
    (unlinked : record.previous_record_digest = none) (embedded : record.normalized_input = .ok input) (genesis : input.is_genesis = true) :
    verify_record_chain [record] = .ok record.record_digest := by
  have follows : record.verify_follows none = .ok () := by
    unfold KernelRecord.verify_follows
    simp only [verified,unlinked,first,embedded,genesis,bind,Except.bind,ne_eq,not_true_eq_false,if_false,if_true]
  simp only [verify_record_chain,verify_chain_from,follows,bind,Except.bind]

/-- The position of a record in a verified chain is its sequence number. -/
theorem chain_positions (verified : verify_chain_from none records = .ok ()) :
    ∀ (place : Nat) (record : KernelRecord C), records[place]? = some record → record.step_seq = place := by
  induction records using List.reverseRecOn with
  | nil => simp
  | append_singleton before record ih =>
  obtain ⟨walked,last⟩ := verify_chain_unsnoc verified
  have kept := ih walked
  intro place held found
  by_cases inside : place < before.length
  · rw [List.getElem?_append_left inside] at found
    exact kept place held found
  rw [List.getElem?_append_right (not_lt.mp inside)] at found
  obtain ⟨within,rfl⟩ := List.getElem?_eq_some_iff.mp found
  simp only [List.length_singleton,Nat.lt_one_iff] at within
  simp only [within,List.getElem_cons_zero]
  rw [(verify_follows_linked last).position,or_none]
  cases before using List.reverseRecOn with
  | nil =>
    simp only [List.length_nil] at within
    simpa using within.symm
  | append_singleton earlier final =>
  have placed := kept earlier.length final (by simp)
  simp only [List.getLast?_append,List.getLast?_singleton,some_or,map_some,getD_some,placed]
  simp only [List.length_append,List.length_singleton] at within inside
  omega

/-- What a rebuild made of a journal's record: the input it embeds, planned and chained again, has its digest. -/
structure Rechained {D : Type} (plan : Planner D Step) (record : KernelRecord C) (input : NormalizedInput)
    (rebuilt : KernelRecord C) : Prop where
  embedded : record.normalized_input = .ok input
  planned : ∃ context step head, context.input = input ∧ (∃ state state', plan context state = .ok step state') ∧
    chain_after head input step = .ok rebuilt
  digest : rebuilt.record_digest = record.record_digest

private theorem replay_rechains [TransitionStep Step] {D : Type} {plan : Planner D Step} {relabel : RecordError → Wire.KernelFault}
    {tx after : KernelTransaction C} {state state' : D} (replayed : replay_records plan relabel tx records state = .ok after state') :
    ∀ record ∈ records, ∃ input rebuilt, Rechained plan record input rebuilt := by
  induction records generalizing tx state with
  | nil => simp
  | cons first rest ih =>
  obtain ⟨input,_,_,decoded,stepped,replayed⟩ := replay_records_cons.mp replayed
  obtain ⟨_,_,step,rebuilt,_,_,_,planned,chained,digest,_⟩ := replay_committed_ok stepped
  intro record held
  obtain rfl | inside := List.mem_cons.mp held
  · exact ⟨input,rebuilt,decoded,⟨_,step,_,rfl,⟨_,_,planned⟩,chained⟩,digest⟩
  · exact ih replayed record inside

private theorem rebuild_verifies [TransitionStep Step] {D : Type} {plan : Planner D Step} {defaults : Wire.ConfigDefaults}
    {index : RecordIndex C} {state state' : D} {after : KernelTransaction C}
    (rebuilt : rebuild_from_records records defaults index plan state = .ok after state') : verify_chain_from none records = .ok () := by
  rw [rebuild_from_records_eq] at rebuilt
  split at rebuilt
  · rfl
  · cases rebuilt
  next verified => exact verify_record_chain_ok verified

end Chains

section Journal
variable {Step : Type} {strings : Strings} {sha256 : List UInt8 → Vector UInt8 32} {schema : Schema Step}

/-- No two of these texts have one hash. -/
def CollisionFree (sha256 : List UInt8 → Vector UInt8 32) (texts : List ByteArray) : Prop :=
  ∀ left ∈ texts, ∀ right ∈ texts, sha256 left.data.toList = sha256 right.data.toList → left = right

private theorem record_bound {left right : JsonRecord strings sha256 schema} (apart : CollisionFree sha256 [body_bytes left,body_bytes right])
    (verified : left.verify = .ok ()) (verified_right : right.verify = .ok ())
    (digest : left.record_digest = right.record_digest) : left = right := by
  have hashed := canonical_digest_hash (((verify_digests verified).2.trans digest).trans (verify_digests verified_right).2.symm)
  have same := apart _ (by simp) _ (by simp) hashed
  obtain ⟨operation_id,input_id,step_seq,previous,canonical_input,input_digest,step_digest⟩ := body_injective same
  cases left
  cases right
  simp_all

private theorem chain_after_position {C : Codec Step} {head : Option ChainAnchor} {input : NormalizedInput} {step : Step} {record : KernelRecord C}
    (chained : chain_after head input step = .ok record) : record.step_seq = (head.map fun anchor => anchor.step_seq+1).getD 0 := by
  have follows := chain_after_follows chained
  cases head with
  | none => exact follows.first
  | some anchor => exact follows.next anchor rfl

private theorem journals_equal {left right : List (JsonRecord strings sha256 schema)} (verified : verify_chain_from none left = .ok ())
    (verified_right : verify_chain_from none right = .ok ())
    (heads : left.getLast?.map KernelRecord.record_digest = right.getLast?.map KernelRecord.record_digest)
    (apart : CollisionFree sha256 ((left ++ right).map body_bytes)) : left = right := by
  have among : ∀ record ∈ left ++ right, body_bytes record ∈ (left ++ right).map body_bytes := fun record held => List.mem_map.mpr ⟨record,held,rfl⟩
  refine chains_equal (fun one held twin listed ok ok_twin digest => record_bound (fun first found second other => ?_) ok ok_twin digest)
    verified verified_right heads
  have texts : ∀ text ∈ [body_bytes one,body_bytes twin], text ∈ (left ++ right).map body_bytes := by
    intro text within
    obtain same | within := List.mem_cons.mp within
    · exact same ▸ among one (List.mem_append_left _ held)
    · exact List.mem_singleton.mp within ▸ among twin (List.mem_append_right _ listed)
  exact apart first (texts first found) second (texts second other)

/-- Every record of a journal that is rebuilt has what the rebuild chained for its digest, and is that unless the two collide. -/
theorem rebuilt_bound [TransitionStep Step] {D : Type} {plan : Planner D Step}
    {records : List (JsonRecord strings sha256 schema)}
    {defaults : Wire.ConfigDefaults} {index : RecordIndex (jsonCodec strings sha256 schema)} {state state' : D}
    {after : KernelTransaction (jsonCodec strings sha256 schema)}
    (rebuilt : rebuild_from_records records defaults index plan state = .ok after state')
    {place : Nat} {record : JsonRecord strings sha256 schema} (found : records[place]? = some record) :
    record.step_seq = place ∧ ∃ input again, Rechained plan record input again ∧
    (CollisionFree sha256 [body_bytes record,body_bytes again] →
      record = again ∧ record.operation_id = input.operation_id ∧ record.input_id = input.input_id) := by
  have verified := rebuild_verifies rebuilt
  obtain ⟨input,again,rechained⟩ := replay_rechains (rebuild_replays rebuilt) record (List.mem_of_getElem? found)
  refine ⟨chain_positions verified place record found,input,again,rechained,fun apart => ?_⟩
  obtain ⟨_,step,head,_,_,chained⟩ := rechained.planned
  have follows := chain_after_follows chained
  have bound := record_bound apart (chain_verified verified record (List.mem_of_getElem? found)) follows.verify rechained.digest.symm
  exact ⟨bound,bound ▸ follows.operation_id,bound ▸ follows.input_id⟩

/-- Journals that verify are equal record by record when their heads are; the journal form of a record that verifies
    decodes to it; what the kernel chains is headed by the input it embeds, and so is every record of a journal that
    is rebuilt, each at its place. -/
theorem records_tamper_evident [TransitionStep Step] (strings : Strings) (sha256 : List UInt8 → Vector UInt8 32)
    (schema : Schema Step) :
    (∀ (left right : List (JsonRecord strings sha256 schema)) (genesis other : Digest),
    verify_record_chain left = .ok genesis →
      verify_record_chain right = .ok other → left.length = right.length →
      left.getLast?.map KernelRecord.record_digest = right.getLast?.map KernelRecord.record_digest →
      CollisionFree sha256 ((left ++ right).map body_bytes) → left = right) ∧
    (∀ record : JsonRecord strings sha256 schema, Branded record → record.verify = .ok () →
      ∃ bytes, record_bytes record = .ok bytes ∧ from_record_bytes bytes = .ok record) ∧
    (∀ head input (step : Step) (record : JsonRecord strings sha256 schema), chain_after head input step = .ok record →
      (jsonCodec strings sha256 schema).encode_input input = .ok record.canonical_input ∧
      record.operation_id = input.operation_id ∧
        record.input_id = input.input_id ∧ record.step_seq = (head.map fun anchor => anchor.step_seq+1).getD 0 ∧
        record.verify_step step = .ok ()) ∧
    ∀ (D : Type) (plan : Planner D Step) (records : List (JsonRecord strings sha256 schema)) (defaults : Wire.ConfigDefaults)
      (index : RecordIndex (jsonCodec strings sha256 schema)) (state : D)
      (after : KernelTransaction (jsonCodec strings sha256 schema)) (state' : D),
      rebuild_from_records records defaults index plan state = .ok after state' →
      ∀ (place : Nat) (record : JsonRecord strings sha256 schema),
        records[place]? = some record → record.step_seq = place ∧ ∃ input again, Rechained plan record input again ∧
          (CollisionFree sha256 [body_bytes record,body_bytes again] →
            record = again ∧ record.operation_id = input.operation_id ∧ record.input_id = input.input_id) := by
  refine ⟨?_,fun record branded verified => from_record_bytes_record_bytes branded verified,?_,?_⟩
  · intro left right genesis other verified verified_right _ heads apart
    exact journals_equal (verify_record_chain_ok verified) (verify_record_chain_ok verified_right) heads apart
  · intro head input step record chained
    have follows := chain_after_follows chained
    exact ⟨follows.encoded,follows.operation_id,follows.input_id,chain_after_position chained,chain_after_verify_step chained⟩
  · intro D plan records defaults index state after state' rebuilt place record found
    exact rebuilt_bound rebuilt found

end Journal

section Sealing
variable {Step : Type} {strings : Strings} {sha256 : List UInt8 → Vector UInt8 32} {schema : Schema Step}

/-- The record with the digest of its input. -/
def stamped (record : JsonRecord strings sha256 schema) : JsonRecord strings sha256 schema :=
  { record with input_digest := canonical_digest sha256 record.canonical_input }

/-- The record with its own digests, whatever its header says. -/
def sealed (record : JsonRecord strings sha256 schema) : JsonRecord strings sha256 schema :=
  { stamped record with record_digest := canonical_digest sha256 (body_bytes (stamped record)) }

variable (record : JsonRecord strings sha256 schema)

private theorem sealed_body : body_bytes (sealed record) = body_bytes (stamped record) := by
  have same : body (sealed record) = body (stamped record) := rfl
  rw [body_bytes,body_bytes,same]

private theorem sealed_normalized_input :
    (sealed record).normalized_input = decode_input strings schema record.canonical_input := rfl

private theorem sealed_verify : (sealed record).verify = .ok () := by
  have digest : (sealed record).record_digest = canonical_digest sha256 (body_bytes (stamped record)) := rfl
  have hashed : json_digest strings sha256 (.object (body (sealed record))) = .ok (sealed record).record_digest := by
    rw [json_digest,body_written,sealed_body,digest,Except.map]
  have input : canonical_digest sha256 (sealed record).canonical_input = (sealed record).input_digest := rfl
  rw [body] at hashed
  unfold KernelRecord.verify
  simp only [input,hashed,bind,Except.bind,ne_eq,not_true_eq_false,if_false]

end Sealing

/-- The configuration of an operation in its first record. -/
def firstInput : NormalizedInput := ⟨"op-record-1","in-0",1700000000000,.ConfigureOperation (PlainParts.plainConfig [] "defaults")⟩

/-- The JSON of a configuration whose settings are a text. -/
def configurations : Schema Vocabulary.PlannedStep where
  input input := .object [("operation_id",.string input.operation_id),("input_id",.string input.input_id),
    ("observed_at_ms",.string (WireU64.print input.observed_at_ms)),
    ("input",.object [("kind",.string input.input.kind),
    ("config",.string ((input.resolved_config.map fun config => config.settings).getD ""))])]
  read_input
    | .object fields =>
      match fields.lookup "operation_id",fields.lookup "input_id",fields.lookup "observed_at_ms",fields.lookup "input" with
      | some (.string operation_id),some (.string input_id),some (.string observed),some (.object payload) =>
        match WireU64.parse observed,payload.lookup "kind",payload.lookup "config" with
        | .ok observed_at_ms,some (.string "configure_operation"),some (.string settings) =>
          some ⟨operation_id,input_id,observed_at_ms,.ConfigureOperation (PlainParts.plainConfig [] settings)⟩
        | _,_,_ => none
      | _,_,_,_ => none
    | _ => none
  step _ := .null
  outcome _ := .null
  cancel _ _ := .null

abbrev SampleRecord := JsonRecord escaped Hashing.sha256 configurations

def firstBytes : ByteArray := (String.ofList (print escaped (configurations.input firstInput).normal)).toUTF8

/-- A first record under this input id, of the configuration above. -/
def headed (input_id : InputId) : SampleRecord := sealed ⟨firstInput.operation_id,input_id,0,none,firstBytes,"","sha256:planned",""⟩

private theorem headed_accepted (input_id : InputId) : (headed input_id).normalized_input = .ok firstInput ∧
    verify_record_chain [headed input_id] = .ok (headed input_id).record_digest := by
  have accepted : Accepted 1 (configurations.input firstInput) := ⟨by decide,by simp [configurations,Json.Holds,Json.HoldsFields]⟩
  have encoded : canonical_bytes escaped (configurations.input firstInput) = .ok firstBytes := canonical_bytes_of_accepted escaped accepted
  have proper : (configurations.input firstInput).Proper :=
    ⟨show ["operation_id","input_id","observed_at_ms","input"].Nodup by decide,trivial,trivial,trivial,
      ⟨show ["kind","config"].Nodup by decide,trivial,trivial,trivial⟩,trivial⟩
  have inverts : configurations.read_input (configurations.input firstInput).normal = some firstInput := by decide +kernel
  have decoded : decode_input escaped configurations firstBytes = .ok firstInput := decode_input_encoded encoded proper (by decide) inverts
  have embedded : (headed input_id).normalized_input = .ok firstInput := by
    rw [headed,sealed_normalized_input,decoded]
  exact ⟨embedded,genesis_chain (sealed_verify _) rfl rfl embedded rfl⟩

private theorem headed_branded {input_id : InputId} (valid : Valid input_id) : Branded (headed input_id) where
  operation_id := show Valid "op-record-1" from ⟨by decide,by decide,by decide⟩
  input_id := valid
  step_seq := Nat.zero_le _
  previous_record_digest := by rintro digest ⟨⟩
  input_digest := canonical_digest_valid _
  step_digest := show Valid "sha256:planned" from ⟨by decide,by decide,by decide⟩
  record_digest := canonical_digest_valid _

/-- The journal form of a first record decodes to it. -/
theorem headed_read_back : ∃ bytes, record_bytes (headed "in-0") = .ok bytes ∧
    from_record_bytes bytes = .ok (headed "in-0") := by
  obtain ⟨_,reads,_⟩ := records_tamper_evident escaped Hashing.sha256 configurations
  exact reads (headed "in-0") (headed_branded ⟨by decide,by decide,by decide⟩) (sealed_verify _)

/-- A journal verifies whose header names another input than the one it embeds. -/
theorem header_not_compared :
    ∃ record : SampleRecord, Branded record ∧ verify_record_chain [record] = .ok record.record_digest ∧
    ∃ input, record.normalized_input = .ok input ∧ record.input_id ≠ input.input_id := by
  obtain ⟨embedded,verified⟩ := headed_accepted "in-9"
  exact ⟨headed "in-9",headed_branded ⟨by decide,by decide,by decide⟩,verified,firstInput,embedded,show "in-9" ≠ "in-0" by decide⟩

end Deepstrike.Tampering

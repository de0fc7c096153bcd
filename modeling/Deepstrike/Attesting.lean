import Deepstrike.Candidates

/-!
What the identity of a candidate and its attestation bind: up to a collision of the hash, equal digests
are of equal contents, and an attestation vouches for one write only.
-/
namespace Deepstrike.Candidates
open Texts RecordBytes Hashing String MemoryCandidatePayload
open Tampering (CollisionFree)

/-- Two payloads that differ at most in how a number is held, not in how it is written. -/
structure MemoryCandidatePayload.Same (payload other : MemoryCandidatePayload) : Prop where
  scope : payload.scope = other.scope
  kind : payload.kind = other.kind
  name : payload.name = other.name
  description : payload.description = other.description
  content : payload.content = other.content
  provenance : payload.provenance = other.provenance
  confidence : number_token payload.confidence = number_token other.confidence
  links : payload.links = other.links
  pinned : payload.pinned = other.pinned
  ttl_days : number_token payload.ttl_days = number_token other.ttl_days

variable {strings : Strings}

private theorem optional_token_injective {value other : Option String}
    (same : optional_token strings value = optional_token strings other) : value = other := by
  have quoted : ∀ text, strings.print text ≠ "null".toList := by
    intro text
    obtain ⟨rest,shown⟩ := strings.quoted text
    rw [shown]
    exact fun equal => absurd (List.cons.inj equal).1 (by decide)
  cases value with
  | none =>
    cases other with
    | none => rfl
    | some text => exact (quoted text same.symm).elim
  | some text =>
  cases other with
  | none => exact (quoted text same).elim
  | some text' => exact congrArg some (print_injective same)

private theorem strings_token_injective {values other : List String}
    (same : strings_token strings values = strings_token strings other) : values = other :=
  (@strings_token_unique strings values other [] [] (by rw [same])).1

private theorem canonical_parts_injective {parts other : List String}
    (same : canonical_parts strings parts = canonical_parts strings other) : parts = other := by
  have tokens : ∀ parts : List String, ∀ token ∈ parts.map strings.print, Token strings token := by
    intro parts token member
    obtain ⟨value,_,rfl⟩ := List.mem_map.mp member
    exact .inl ⟨value,rfl⟩
  rw [canonical_parts_eq,canonical_parts_eq] at same
  exact List.map_injective_iff.mpr (fun _ _ => print_injective) (array_injective (tokens parts) (tokens other) same)

private theorem canonical_injective {payload other : MemoryCandidatePayload}
    (same : payload.canonical strings = other.canonical strings) : payload.Same other := by
  rw [canonical_eq,canonical_eq] at same
  have tokens := array_injective (payload_tokens payload) (payload_tokens other) same
  simp only [MemoryCandidatePayload.tokens,List.cons.injEq] at tokens
  obtain ⟨tenant_id,«namespace»,kind,name,description,content,author,trust,session_id,evidence_refs,confidence,links,pinned,ttl_days,_⟩ := tokens
  have flags : payload.pinned = other.pinned := by
    revert pinned
    cases payload.pinned <;> cases other.pinned <;> decide
  have scopes : payload.scope = other.scope := by
    cases scope : payload.scope
    cases scope' : other.scope
    rw [scope,scope'] at tenant_id «namespace»
    exact congr (congrArg PayloadScope.mk (print_injective tenant_id)) (print_injective «namespace»)
  have provenances : payload.provenance = other.provenance := by
    cases held : payload.provenance
    cases held' : other.provenance
    rw [held,held'] at author trust session_id evidence_refs
    simp only [PayloadProvenance.mk.injEq]
    exact ⟨print_injective author,print_injective trust,optional_token_injective session_id,strings_token_injective evidence_refs⟩
  exact {
    scope := scopes
    kind := print_injective kind
    name := print_injective name
    description := print_injective description
    content := print_injective content
    provenance := provenances
    confidence := confidence
    links := strings_token_injective links
    pinned := flags
    ttl_days := ttl_days }

private theorem label_injective {source other : MemoryCandidateSource} (same : source.label = other.label) : source = other := by
  revert same
  cases source <;> cases other <;> decide

private theorem kind_injective {kind other : MemoryKind} (same : kind.label = other.label) : kind = other := by
  revert same
  cases kind <;> cases other <;> decide

private theorem author_injective {author other : MemoryAuthor} (same : author.label = other.label) : author = other := by
  revert same
  cases author <;> cases other <;> decide

private theorem trust_injective {trust other : MemoryTrustLevel} (same : trust.label = other.label) : trust = other := by
  revert same
  cases trust <;> cases other <;> decide

private theorem canonical_payload_injective {attestation other : MemoryCandidateAttestation}
    (same : memory_candidate_attestation_canonical_payload strings attestation = memory_candidate_attestation_canonical_payload strings other) :
    { attestation with signature := "" } = { other with signature := "" } := by
  rw [canonical_payload_eq,canonical_payload_eq] at same
  have tokens := array_injective (attestation_tokens attestation) (attestation_tokens other) same
  simp only [MemoryCandidateAttestation.tokens,List.cons.injEq] at tokens
  obtain ⟨issuer,key_id,agent_id,tenant_id,«namespace»,candidate_id,source,payload_digest,issued_at,expires_at,policy_version,_⟩ := tokens
  simp only [MemoryCandidateAttestation.mk.injEq]
  exact ⟨print_injective issuer,print_injective key_id,print_injective agent_id,print_injective tenant_id,print_injective «namespace»,
    print_injective candidate_id,label_injective (print_injective source),print_injective
    payload_digest,toDigits_injective (by decide) (by decide) issued_at,
    toDigits_injective (by decide) (by decide) expires_at,print_injective policy_version,trivial⟩

section Hashed
variable {sha256 : List UInt8 → Vector UInt8 32}

private theorem sha256_hex_apart {text other : String} (apart : CollisionFree sha256 [text.toUTF8,other.toUTF8])
    (same : sha256_hex sha256 text.toUTF8 = sha256_hex sha256 other.toUTF8) : text = other := by
  have hashes := Vector.toList_inj.mp (hexDigits_injective (ofList_injective same))
  exact toByteArray_inj.mp (apart _ List.mem_cons_self _ (List.mem_cons_of_mem _ List.mem_cons_self) hashes)

private theorem digest_binds {payload other : MemoryCandidatePayload}
    (apart : CollisionFree sha256 [(payload.canonical strings).toUTF8,(other.canonical strings).toUTF8])
    (same : payload.digest strings sha256 = other.digest strings sha256) : payload.Same other :=
  canonical_injective (sha256_hex_apart apart ((String.append_right_inj _).mp same))

/-- Equal digests of records, whose time to live is a natural number: equal records, up to how the confidence is held. -/
theorem record_digest_binds {record other : MemoryRecord}
    (apart : CollisionFree sha256 [((of record).canonical strings).toUTF8,((of other).canonical strings).toUTF8])
    (same : memory_candidate_payload_digest strings sha256 record =
    memory_candidate_payload_digest strings sha256 other) :
    record = { other with confidence := record.confidence } ∧
    js_number record.confidence = js_number other.confidence := by
  have payloads := digest_binds apart same
  have ttl : record.ttl_days = other.ttl_days := by
    have tokens := payloads.ttl_days
    simp only [of] at tokens
    have digits : ∀ value : UInt32, number_token ((some value).map F64.from) = Nat.toDigits 10 value.toNat := js_number_from
    have never : ∀ value : UInt32, number_token ((some value).map F64.from) ≠ number_token none := by
      intro value null
      rw [digits] at null
      have letter : 'n' ∈ Nat.toDigits 10 value.toNat := null ▸ List.mem_cons_self
      exact absurd (toDigits_isDigit value.toNat 'n' letter) (by decide)
    cases held : record.ttl_days with
    | none =>
      cases held' : other.ttl_days with
      | none => rfl
      | some value =>
      rw [held,held'] at tokens
      exact (never value tokens.symm).elim
    | some value =>
    cases held' : other.ttl_days with
    | none =>
      rw [held,held'] at tokens
      exact (never value tokens).elim
    | some value' =>
    rw [held,held',digits,digits] at tokens
    exact congrArg some (UInt32.toNat_inj.mp (toDigits_injective (by decide) (by decide) tokens))
  refine ⟨?_,payloads.confidence⟩
  have origins : record.provenance = other.provenance := by
    have parts := payloads.provenance
    simp only [of,PayloadProvenance.mk.injEq] at parts
    obtain ⟨author,trust,session_id,evidence_refs⟩ := parts
    cases held : record.provenance
    cases held' : other.provenance
    rw [held,held'] at author trust session_id evidence_refs
    simp only [MemoryProvenance.mk.injEq]
    exact ⟨session_id,author_injective author,trust_injective trust,evidence_refs⟩
  have scope : record.scope = other.scope := payloads.scope
  have kind : record.kind = other.kind := kind_injective payloads.kind
  have name : record.name = other.name := payloads.name
  have description : record.description = other.description := payloads.description
  have content : record.content = other.content := payloads.content
  have links : record.links = other.links := payloads.links
  have pinned : record.pinned = other.pinned := payloads.pinned
  cases record
  simp_all

private theorem compared_equal {left right : List UInt8} (length : left.length = right.length)
    (none : (left.zip right).foldl (fun acc pair => acc ||| (pair.1 ^^^ pair.2)) 0 = 0) : left = right := by
  have accumulated : ∀ (pairs : List (UInt8 × UInt8)) (acc : UInt8), pairs.foldl (fun acc pair => acc ||| (pair.1 ^^^ pair.2)) acc = 0 →
      acc = 0 ∧ ∀ pair ∈ pairs, pair.1 = pair.2 := by
    intro pairs
    induction pairs with
    | nil => exact fun acc zero => ⟨zero,nofun⟩
    | cons pair rest ih =>
    intro acc zero
    obtain ⟨before,later⟩ := ih _ zero
    obtain ⟨acc_zero,pair_zero⟩ := UInt8.or_eq_zero_iff.mp before
    exact ⟨acc_zero,List.forall_mem_cons.mpr ⟨UInt8.xor_eq_zero_iff.mp pair_zero,later⟩⟩
  have pairs := (accumulated _ _ none).2
  calc left = (left.zip right).map Prod.fst := (List.map_fst_zip length.le).symm
    _ = (left.zip right).map Prod.snd := List.map_congr_left pairs
    _ = right := List.map_snd_zip length.ge

variable {attestation : MemoryCandidateAttestation} {secret : String}

private theorem verified_signature
    (verified : verify_memory_candidate_attestation_hmac strings sha256 attestation secret = true) :
    attestation.signature = sign_memory_candidate_attestation strings sha256 attestation secret := by
  unfold verify_memory_candidate_attestation_hmac at verified
  simp only [Bool.and_eq_true,beq_iff_eq] at verified
  have bytes := compared_equal verified.1 verified.2
  exact (toByteArray_inj.mp (ByteArray.ext (Array.toList_inj.mp bytes))).symm

private theorem signed_apart {other : MemoryCandidateAttestation}
    (apart : CollisionFree (hmac_sha256 sha256 secret.toUTF8.data.toList)
      [(memory_candidate_attestation_canonical_payload strings attestation).toUTF8,
      (memory_candidate_attestation_canonical_payload strings other).toUTF8])
    (same : sign_memory_candidate_attestation strings sha256 attestation secret = sign_memory_candidate_attestation strings sha256 other secret) :
    { attestation with signature := "" } = { other with signature := "" } := by
  unfold sign_memory_candidate_attestation at same
  have digits := ofList_injective ((append_right_inj "hmac-sha256:").mp same)
  have macs := Vector.toList_inj.mp (hexDigits_injective digits)
  have texts := apart _ List.mem_cons_self _ (List.mem_cons_of_mem _ List.mem_cons_self) macs
  exact canonical_payload_injective (toByteArray_inj.mp texts)

private theorem checked_names {candidate : AttestedCandidate} {trusted_issuer : Option String}
    {window : AttestationWindow} (checked : check_memory_candidate_attestation strings sha256 candidate attestation trusted_issuer window = .ok ()) :
    attestation.agent_id = candidate.agent_id ∧ attestation.candidate_id = candidate.candidate_id ∧ attestation.source = candidate.source ∧
      attestation.payload_digest = candidate.payload.digest strings sha256 := by
  unfold check_memory_candidate_attestation at checked
  split at checked
  · cases checked
  split at checked
  · cases checked
  next scope =>
  split at checked
  · cases checked
  next candidate_id =>
  split at checked
  · cases checked
  next source =>
  split at checked
  · cases checked
  next digest => exact ⟨not_not.mp fun other => scope (.inl other),not_not.mp candidate_id,not_not.mp source,not_not.mp digest⟩

end Hashed

/-- Up to collisions among the texts at hand: equal candidate ids are of equal lists of parts; what an attestation's signature
    covers determines all its other fields; equal payload digests are of equal records, save for how the confidence is held; an
    attestation that passes the checks for two candidates has the same agent, id, source and payload in both; and two
    attestations under one signature that both verify are equal. -/
theorem candidate_bound (strings : Strings) (sha256 : List UInt8 → Vector UInt8 32) :
    (∀ parts other : List String,
    CollisionFree sha256 [(canonical_parts strings parts).toUTF8,(canonical_parts strings other).toUTF8] →
      memory_candidate_id strings sha256 parts = memory_candidate_id strings sha256 other → parts = other) ∧
    (∀ attestation other : MemoryCandidateAttestation,
      memory_candidate_attestation_canonical_payload strings attestation =
      memory_candidate_attestation_canonical_payload strings other →
      { attestation with signature := "" } = { other with signature := "" }) ∧
    (∀ record other : MemoryRecord,
      CollisionFree sha256 [((of record).canonical strings).toUTF8,((of other).canonical strings).toUTF8] →
      memory_candidate_payload_digest strings sha256 record = memory_candidate_payload_digest strings sha256 other →
      record = { other with confidence := record.confidence } ∧
      js_number record.confidence = js_number other.confidence) ∧
    (∀ (attestation : MemoryCandidateAttestation) (candidate other : AttestedCandidate) (trusted_issuer trusted_issuer' : Option String)
      (window window' : AttestationWindow),
      CollisionFree sha256 [(candidate.payload.canonical strings).toUTF8,(other.payload.canonical strings).toUTF8] →
      check_memory_candidate_attestation strings sha256 candidate attestation trusted_issuer window = .ok () →
      check_memory_candidate_attestation strings sha256 other attestation trusted_issuer' window' = .ok () →
      candidate.agent_id = other.agent_id ∧ candidate.candidate_id = other.candidate_id ∧
      candidate.source = other.source ∧
        candidate.payload.Same other.payload) ∧
    ∀ (attestation other : MemoryCandidateAttestation) (secret : String),
      CollisionFree (hmac_sha256 sha256 secret.toUTF8.data.toList)
        [(memory_candidate_attestation_canonical_payload strings attestation).toUTF8,
        (memory_candidate_attestation_canonical_payload strings other).toUTF8] →
      verify_memory_candidate_attestation_hmac strings sha256 attestation secret = true →
      verify_memory_candidate_attestation_hmac strings sha256 other secret = true →
        attestation.signature = other.signature → attestation = other := by
  refine ⟨fun parts other apart same => ?_,fun _ _ => canonical_payload_injective,fun record other => record_digest_binds,?_,?_⟩
  · exact canonical_parts_injective (sha256_hex_apart apart ((String.append_right_inj _).mp same))
  · intro attestation candidate other trusted_issuer trusted_issuer' window window' apart checked checked'
    obtain ⟨agent_id,candidate_id,source,digest⟩ := checked_names checked
    obtain ⟨agent_id',candidate_id',source',digest'⟩ := checked_names checked'
    exact ⟨agent_id.symm.trans agent_id',candidate_id.symm.trans candidate_id',source.symm.trans source',
      digest_binds apart (digest.symm.trans digest')⟩
  intro attestation other secret apart verified verified' signatures
  have signed := (verified_signature verified).symm.trans (signatures.trans (verified_signature verified'))
  have unsigned := signed_apart apart signed
  simp only [MemoryCandidateAttestation.mk.injEq] at unsigned
  cases attestation
  simp_all

private def half : F64 := .Finite false ⟨['5'],by decide,by simp⟩ (-1)

/-- A fact the host proposes, with whatever is held of its time to live. -/
private def fact (ttl_days : Option F64) : AttestedCandidate := ⟨"agent","host-candidate",.ModelProposal,
  ⟨⟨"t","n"⟩,"project","brief-style","","host fact",⟨"host","host_verified",none,[]⟩,some half,[],false,ttl_days⟩⟩

private def attested : MemoryCandidateAttestation := ⟨"issuer-a","ed-key-1","agent","t","n","host-candidate",.ModelProposal,
  "sha256:dfac225c1c832a2900dd59d0867840abbf7e396ef13d03308b7c5ff7516e145f",1000,2000,"memory-attestation-v1",""⟩

private def window : AttestationWindow := ⟨1500,0,600000,"memory-attestation-v1"⟩

/-- Parts cut at another place give another id, and an attestation that passes twice passes for one written payload. -/
theorem candidate_bound_fact :
    memory_candidate_id escaped sha256 ["a","bc"] ≠ memory_candidate_id escaped sha256 ["ab","c"] ∧
    check_memory_candidate_attestation escaped sha256 (fact none) attested (some "issuer-a") window = .ok () ∧
    check_memory_candidate_attestation escaped sha256 (fact (some .NaN)) attested (some "issuer-a") window = .ok () ∧
    (fact none).payload.Same (fact (some .NaN)).payload := by
  obtain ⟨parts,_,_,checked,_⟩ := candidate_bound escaped sha256
  have passes : check_memory_candidate_attestation escaped sha256 (fact none) attested (some "issuer-a") window = .ok () := by decide +kernel
  have passes' : check_memory_candidate_attestation escaped sha256 (fact (some .NaN)) attested (some "issuer-a") window = .ok () := by decide +kernel
  refine ⟨fun same => ?_,passes,passes',?_⟩
  · have apart : CollisionFree sha256 [(canonical_parts escaped ["a","bc"]).toUTF8,(canonical_parts escaped ["ab","c"]).toUTF8] := by
      unfold CollisionFree
      decide +kernel
    exact absurd (parts ["a","bc"] ["ab","c"] apart same) (by decide)
  have apart : CollisionFree sha256 [((fact none).payload.canonical escaped).toUTF8,((fact (some .NaN)).payload.canonical escaped).toUTF8] := by
    have texts : (fact (some .NaN)).payload.canonical escaped = (fact none).payload.canonical escaped := by decide +kernel
    rw [texts]
    intro left first right second _
    simp only [List.mem_cons,List.not_mem_nil,or_false,or_self] at first second
    rw [first,second]
  exact (checked attested (fact none) (fact (some .NaN)) (some "issuer-a") (some "issuer-a") window window apart passes passes').2.2.2

end Deepstrike.Candidates

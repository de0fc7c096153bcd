import Deepstrike.Delimited
import Deepstrike.Tampering
import Mathlib.Data.List.DropRight

/-!
The identity of a memory candidate and the attestation of its source: compact arrays of what each
covers, hashed or signed, and the checks of an attestation against a candidate.
-/
namespace Deepstrike.Candidates
open Texts RecordBytes Delimited
open Tampering (CollisionFree)

inductive MemoryCandidateSource where
  | ChildRequest | ModelProposal
  deriving DecidableEq,Repr

def MemoryCandidateSource.label : MemoryCandidateSource → String
  | .ChildRequest => "child_request"
  | .ModelProposal => "model_proposal"

/-- The signature is empty while the attestation is being signed. -/
structure MemoryCandidateAttestation where
  issuer : String
  key_id : String
  agent_id : String
  tenant_id : String
  «namespace» : String
  candidate_id : String
  source : MemoryCandidateSource
  payload_digest : String
  issued_at : Nat
  expires_at : Nat
  policy_version : String
  signature : String
  deriving DecidableEq,Repr

inductive MemoryCandidateAttestationReasonCode where
  | AttestationMissing | AttestationVerifierUnconfigured | AttestationIssuerUntrusted | AttestationScopeMismatch | AttestationCandidateMismatch
  | AttestationSourceMismatch | AttestationDigestMismatch | AttestationNotYetValid | AttestationExpired | AttestationSignatureInvalid
  | HostVerifiedRequiresHostAuthor
  deriving DecidableEq,Repr

/-- The shortest digits that read back as a number. -/
structure Digits where
  chars : List Char
  filled : chars ≠ []
  decimal : ∀ char ∈ chars, char.isDigit = true
  deriving DecidableEq,Repr

/-- A double, as far as formatting tells doubles apart: its shortest digits and the exponent of the first. -/
inductive F64 where
  | NaN
  | Infinite (negative : Bool)
  | Zero (negative : Bool)
  | Finite (negative : Bool) (digits : Digits) (exponent : Int)
  deriving DecidableEq,Repr

structure PayloadScope where
  tenant_id : String
  «namespace» : String
  deriving DecidableEq,Repr

structure PayloadProvenance where
  author : String
  trust : String
  session_id : Option String
  evidence_refs : List String
  deriving DecidableEq,Repr

structure MemoryCandidatePayload where
  scope : PayloadScope
  kind : String
  name : String
  description : String
  content : String
  provenance : PayloadProvenance
  confidence : Option F64
  links : List String
  pinned : Bool
  ttl_days : Option F64
  deriving DecidableEq,Repr

/-- The layout of a number without its sign: digits and zeros up to 21 places, a point within or before the digits, or an
    exponent. -/
def body (digits : List Char) (exponent : Int) : List Char :=
  let k : Int := digits.length
  let n := exponent+1
  if k ≤ n ∧ n ≤ 21 then digits ++ List.replicate (n-k).toNat '0'
  else if 0 < n ∧ n ≤ 21 then digits.take n.toNat ++ '.' :: digits.drop n.toNat
  else if -6 < n ∧ n ≤ 0 then '0' :: '.' :: (List.replicate (-n).toNat '0' ++ digits)
  else
    let sign := if n-1 < 0 then '-' else '+'
    let fraction := if k > 1 then '.' :: digits.drop 1 else []
    digits.take 1 ++ fraction ++ 'e' :: sign :: Nat.toDigits 10 (n-1).natAbs

def js_number : F64 → List Char
  | .NaN | .Infinite _ => "null".toList
  | .Zero _ => ['0']
  | .Finite negative digits exponent => if negative then '-' :: body digits.chars exponent else body digits.chars exponent

/-- A compact array while it is written. -/
structure Canon where
  out : List Char
  any : Bool

namespace Canon

def empty : Canon := ⟨[],false⟩

def raw (value : List Char) (canon : Canon) : Canon := ⟨canon.out ++ (if canon.any then ',' else '[') :: value,true⟩

section Strings
variable (json : Strings)

def string (value : String) : Canon → Canon := raw (json.print value)

def optional_string : Option String → Canon → Canon
  | some value => string json value
  | none => raw "null".toList

def strings (values : List String) : Canon → Canon := raw (print json (.array (values.map .string)))

end Strings

def optional_number : Option F64 → Canon → Canon
  | some value => raw (js_number value)
  | none => raw "null".toList

def finish (canon : Canon) : List Char := (if canon.any then canon.out else canon.out ++ ['[']) ++ [']']

end Canon

section Written
variable (strings : Strings)

/-- The array a payload is hashed as. -/
def MemoryCandidatePayload.canonical (payload : MemoryCandidatePayload) : String :=
  String.ofList <| Canon.finish <|
    Canon.optional_number payload.ttl_days <|
    Canon.raw (if payload.pinned then "true".toList else "false".toList) <|
    Canon.strings strings payload.links <| Canon.optional_number payload.confidence <|
    Canon.strings strings payload.provenance.evidence_refs <|
    Canon.optional_string strings payload.provenance.session_id <|
    Canon.string strings payload.provenance.trust <| Canon.string strings payload.provenance.author <|
    Canon.string strings payload.content <| Canon.string strings payload.description <|
    Canon.string strings payload.name <| Canon.string strings payload.kind <|
    Canon.string strings payload.scope.namespace <| Canon.string strings payload.scope.tenant_id Canon.empty

/-- The array the identity of a write is hashed as. -/
def canonical_parts (parts : List String) : String :=
  String.ofList (parts.foldl (fun canon part => canon.string strings part) Canon.empty).finish

/-- What the signature of an attestation covers: every field but the signature. -/
def memory_candidate_attestation_canonical_payload (attestation : MemoryCandidateAttestation) : String :=
  String.ofList <| Canon.finish <|
    Canon.string strings attestation.policy_version <|
    Canon.raw (Nat.toDigits 10 attestation.expires_at) <| Canon.raw (Nat.toDigits 10 attestation.issued_at) <|
    Canon.string strings attestation.payload_digest <| Canon.string strings attestation.source.label <|
    Canon.string strings attestation.candidate_id <| Canon.string strings attestation.namespace <|
    Canon.string strings attestation.tenant_id <| Canon.string strings attestation.agent_id <|
    Canon.string strings attestation.key_id <| Canon.string strings attestation.issuer Canon.empty

section Hashed
variable (sha256 : List UInt8 → Vector UInt8 32)

def sha256_hex (bytes : ByteArray) : String := String.ofList (hexDigits (sha256 bytes.data.toList).toList)

def MemoryCandidatePayload.digest (payload : MemoryCandidatePayload) : String :=
  "sha256:" ++ sha256_hex sha256 (payload.canonical strings).toUTF8

/-- The identity of a write. -/
def memory_candidate_id (parts : List String) : String := "candidate:" ++ sha256_hex sha256 (canonical_parts strings parts).toUTF8

/-- A key longer than a block is hashed first. -/
def hmac_sha256 (key message : List UInt8) : Vector UInt8 32 :=
  let key := if key.length > 64 then (sha256 key).toList else key
  let padded := key ++ List.replicate (64-key.length) 0
  sha256 (padded.map (· ^^^ 0x5c) ++ (sha256 (padded.map (· ^^^ 0x36) ++ message)).toList)

def sign_memory_candidate_attestation (attestation : MemoryCandidateAttestation) (secret : String) : String :=
  "hmac-sha256:" ++ String.ofList (hexDigits
    (hmac_sha256 sha256 secret.toUTF8.data.toList
    (memory_candidate_attestation_canonical_payload strings attestation).toUTF8.data.toList).toList)

structure AttestationWindow where
  now_ms : Nat
  allowed_clock_skew_ms : Nat
  max_lifetime_ms : Nat
  policy_version : String
  deriving DecidableEq,Repr

structure AttestedCandidate where
  agent_id : String
  candidate_id : String
  source : MemoryCandidateSource
  payload : MemoryCandidatePayload
  deriving DecidableEq,Repr

/-- The largest of 64 bits. -/
def u64_max : Nat := 2^64-1

/-- Every check but that of the signature. -/
def check_memory_candidate_attestation (candidate : AttestedCandidate) (attestation : MemoryCandidateAttestation)
    (trusted_issuer : Option String)
    (window : AttestationWindow) : Except MemoryCandidateAttestationReasonCode Unit :=
  if trusted_issuer ≠ some attestation.issuer then .error .AttestationIssuerUntrusted
  else if attestation.agent_id ≠ candidate.agent_id ∨ attestation.tenant_id ≠ candidate.payload.scope.tenant_id ∨
      attestation.namespace ≠ candidate.payload.scope.namespace then .error .AttestationScopeMismatch
  else if attestation.candidate_id ≠ candidate.candidate_id then .error .AttestationCandidateMismatch
  else if attestation.source ≠ candidate.source then .error .AttestationSourceMismatch
  else if attestation.payload_digest ≠ candidate.payload.digest strings sha256 then .error .AttestationDigestMismatch
  else if attestation.policy_version ≠ window.policy_version then .error .AttestationSignatureInvalid
  else if attestation.expires_at ≤ attestation.issued_at ∨ attestation.expires_at-attestation.issued_at > window.max_lifetime_ms then
    .error .AttestationExpired
  else if min (window.now_ms+window.allowed_clock_skew_ms) u64_max < attestation.issued_at then .error .AttestationNotYetValid
  else if window.now_ms-window.allowed_clock_skew_ms > attestation.expires_at then .error .AttestationExpired
  else .ok ()

/-- Compared without a branch on the bytes. -/
def verify_memory_candidate_attestation_hmac (attestation : MemoryCandidateAttestation) (secret : String) : Bool :=
  let left := (sign_memory_candidate_attestation strings sha256 attestation secret).toUTF8.data.toList
  let right := attestation.signature.toUTF8.data.toList
  left.length == right.length && (left.zip right).foldl (fun acc pair => acc ||| (pair.1 ^^^ pair.2)) 0 == 0

end Hashed
end Written

/-! The records a payload is taken from. -/

inductive MemoryKind where
  | User | Feedback | Project | Reference
  deriving DecidableEq,Repr

def MemoryKind.label : MemoryKind → String
  | .User => "user"
  | .Feedback => "feedback"
  | .Project => "project"
  | .Reference => "reference"

inductive MemoryAuthor where
  | Model | Host | Extraction
  deriving DecidableEq,Repr

def MemoryAuthor.label : MemoryAuthor → String
  | .Model => "model"
  | .Host => "host"
  | .Extraction => "extraction"

inductive MemoryTrustLevel where
  | Untrusted | UserAsserted | HostVerified
  deriving DecidableEq,Repr

def MemoryTrustLevel.label : MemoryTrustLevel → String
  | .Untrusted => "untrusted"
  | .UserAsserted => "user_asserted"
  | .HostVerified => "host_verified"

structure MemoryProvenance where
  session_id : Option String
  author : MemoryAuthor
  trust : MemoryTrustLevel
  evidence_refs : List String
  deriving DecidableEq,Repr

/-- A record without what a retry mints afresh: its store id, timestamps and recall counters. -/
structure MemoryRecord where
  scope : PayloadScope
  name : String
  kind : MemoryKind
  content : String
  description : String
  provenance : MemoryProvenance
  confidence : F64
  links : List String
  pinned : Bool
  ttl_days : Option UInt32
  deriving DecidableEq

private theorem stripped_filled {value : Nat} (positive : 0 < value) : (Nat.toDigits 10 value).rdropWhile (· == '0') ≠ [] := by
  rw [ne_eq,List.rdropWhile_eq_nil_iff]
  intro zeros
  obtain ⟨head,tail,shown⟩ := List.exists_cons_of_ne_nil (Nat.toDigits_ne_nil : Nat.toDigits 10 value ≠ [])
  have leading := toDigits_head value positive
  rw [shown] at leading zeros
  exact leading (congrArg some (beq_iff_eq.mp (zeros head List.mem_cons_self)))

/-- The double of a natural number: its digits up to the last that is not zero. -/
def F64.from (value : UInt32) : F64 :=
  if zero : value.toNat = 0 then .Zero false
  else .Finite false ⟨(Nat.toDigits 10 value.toNat).rdropWhile (· == '0'),stripped_filled (Nat.pos_of_ne_zero zero),
    fun char member => toDigits_isDigit value.toNat char ((List.rdropWhile_prefix _ _).subset member)⟩ ((Nat.toDigits 10 value.toNat).length-1)

def MemoryCandidatePayload.of (record : MemoryRecord) : MemoryCandidatePayload where
  scope := record.scope
  kind := record.kind.label
  name := record.name
  description := record.description
  content := record.content
  provenance := ⟨record.provenance.author.label,record.provenance.trust.label,record.provenance.session_id,record.provenance.evidence_refs⟩
  confidence := some record.confidence
  links := record.links
  pinned := record.pinned
  ttl_days := record.ttl_days.map F64.from

def memory_candidate_payload_digest (strings : Strings) (sha256 : List UInt8 → Vector UInt8 32) (record : MemoryRecord) : String :=
  (MemoryCandidatePayload.of record).digest strings sha256

/-! What the arrays are made of, and that an array gives it back. -/

section Tokens
variable (strings : Strings)

def strings_token (values : List String) : List Char := print strings (.array (values.map .string))
def optional_token : Option String → List Char
  | some value => strings.print value
  | none => "null".toList
def number_token : Option F64 → List Char
  | some value => js_number value
  | none => "null".toList

/-- Literals and numbers: no character of theirs opens, parts or closes anything. -/
def Plain (token : List Char) : Prop := token ≠ [] ∧ ∀ char ∈ token, char ≠ ',' ∧ char ≠ ']' ∧ char ≠ '"' ∧ char ≠ '['

/-- Whatever the arrays hold. -/
def Token (token : List Char) : Prop :=
  (∃ value, token = strings.print value) ∨ (∃ values, token = strings_token strings values) ∨ Plain token

def MemoryCandidatePayload.tokens (payload : MemoryCandidatePayload) : List (List Char) :=
  [strings.print payload.scope.tenant_id,strings.print payload.scope.namespace,strings.print payload.kind,strings.print payload.name,
    strings.print payload.description,strings.print payload.content,strings.print
    payload.provenance.author,strings.print payload.provenance.trust,
    optional_token strings payload.provenance.session_id,strings_token strings
    payload.provenance.evidence_refs,number_token payload.confidence,
    strings_token strings payload.links,if payload.pinned then "true".toList else "false".toList,number_token payload.ttl_days]

def MemoryCandidateAttestation.tokens (attestation : MemoryCandidateAttestation) : List (List Char) :=
  [strings.print attestation.issuer,strings.print attestation.key_id,strings.print attestation.agent_id,strings.print attestation.tenant_id,
    strings.print attestation.namespace,strings.print attestation.candidate_id,strings.print attestation.source.label,
    strings.print attestation.payload_digest,Nat.toDigits 10 attestation.issued_at,Nat.toDigits 10 attestation.expires_at,
    strings.print attestation.policy_version]

end Tokens

private theorem raw_foldl (tokens : List (List Char)) (out : List Char) :
    tokens.foldl (fun canon token => Canon.raw token canon) ⟨out,true⟩ = ⟨out ++ tokens.flatMap (',' :: ·),true⟩ := by
  induction tokens generalizing out with
  | nil => simp
  | cons token tokens ih =>
    rw [List.foldl_cons,Canon.raw,if_pos rfl,ih,List.flatMap_cons,List.append_assoc]

private theorem finish_eq (tokens : List (List Char)) :
    (tokens.foldl (fun canon token => Canon.raw token canon) Canon.empty).finish = '[' :: (joined ',' tokens ++ [']']) := by
  cases tokens with
  | nil => rfl
  | cons token tokens =>
  rw [List.foldl_cons]
  show (tokens.foldl (fun canon token => Canon.raw token canon) ⟨'[' :: token,true⟩).finish = _
  rw [raw_foldl]
  simp [Canon.finish,joined]

variable {strings : Strings}

theorem canonical_eq (payload : MemoryCandidatePayload) :
    payload.canonical strings = String.ofList ('[' :: (joined ',' (payload.tokens strings) ++ [']'])) := by
  rw [← finish_eq]
  obtain ⟨scope,kind,name,description,content,⟨author,trust,session_id,evidence_refs⟩,confidence,links,pinned,ttl_days⟩ := payload
  cases session_id <;> cases confidence <;> cases ttl_days <;> rfl

theorem canonical_parts_eq (parts : List String) :
    canonical_parts strings parts = String.ofList ('[' :: (joined ',' (parts.map strings.print) ++ [']'])) := by
  rw [← finish_eq,List.foldl_map]
  rfl

theorem canonical_payload_eq (attestation : MemoryCandidateAttestation) :
    memory_candidate_attestation_canonical_payload strings attestation =
    String.ofList ('[' :: (joined ',' (attestation.tokens strings) ++ [']'])) := by
  rw [← finish_eq]
  rfl

private theorem print_unique {first second : String} {rest rest' : List Char} (same : strings.print first ++ rest = strings.print second ++ rest') :
    first = second ∧ rest = rest' := by
  have read := strings.inverts first rest
  rw [same,strings.inverts] at read
  obtain ⟨rfl,rfl⟩ := Prod.mk.inj (Option.some.inj read)
  exact ⟨rfl,rfl⟩

theorem print_injective {first second : String} (same : strings.print first = strings.print second) : first = second :=
  (@print_unique strings first second [] [] (by rw [same])).1

private theorem strings_delimit : Delimits ',' ']' fun token => ∃ value, token = strings.print value := by
  refine .of_unique ?_ ?_
  · rintro first ⟨value,rfl⟩
    obtain ⟨rest,shown⟩ := strings.quoted value
    exact ⟨'"',rest,shown,by decide⟩
  · rintro first second rest rest' ⟨value,rfl⟩ ⟨value',rfl⟩ same
    obtain ⟨rfl,equal⟩ := print_unique same
    exact ⟨rfl,equal⟩

theorem strings_token_eq (values : List String) :
    strings_token strings values = '[' :: (joined ',' (values.map strings.print) ++ [']']) := by
  rw [strings_token,print,printItems_eq,separated,joined_eq_intercalate,List.map_map]
  congr 4

theorem strings_token_unique {values values' : List String} {rest rest' : List Char}
    (same : strings_token strings values ++ rest = strings_token strings values' ++ rest') :
    values = values' ∧ rest = rest' := by
  rw [strings_token_eq,strings_token_eq,List.cons_append,List.cons_append,List.append_assoc,List.append_assoc] at same
  have each : ∀ values : List String, ∀ token ∈ values.map strings.print, ∃ value, token = strings.print value := by
    intro values token member
    obtain ⟨value,_,rfl⟩ := List.mem_map.mp member
    exact ⟨value,rfl⟩
  obtain ⟨equal,behind⟩ := strings_delimit.joined_unique (by decide) (each values) (each values') (List.cons.inj same).2
  exact ⟨List.map_injective_iff.mpr (fun _ _ => print_injective) equal,behind⟩

private theorem tokens_delimit : Delimits ',' ']' (Token strings) := by
  have arrays : Delimits ',' ']' fun token => ∃ values, token = strings_token strings values := by
    refine .of_unique ?_ ?_
    · rintro first ⟨values,rfl⟩
      exact ⟨_,_,strings_token_eq values,by decide⟩
    · rintro first second rest rest' ⟨values,rfl⟩ ⟨values',rfl⟩ same
      obtain ⟨rfl,equal⟩ := strings_token_unique same
      exact ⟨rfl,equal⟩
  have plain : Delimits ',' ']' Plain := Delimits.plain.mono fun token held =>
    ⟨held.1,fun char member => ⟨(held.2 char member).1,(held.2 char member).2.1⟩⟩
  have starts : ∀ {token : List Char}, Plain token → ∃ head tail, token = head :: tail ∧ head ≠ '"' ∧ head ≠ '[' := by
    rintro token ⟨filled,clean⟩
    obtain ⟨head,tail,rfl⟩ := List.exists_cons_of_ne_nil filled
    exact ⟨head,tail,rfl,(clean head List.mem_cons_self).2.2⟩
  refine strings_delimit.or (arrays.or plain ?_) ?_
  · rintro first second ⟨values,rfl⟩ held
    obtain ⟨head,tail,rfl,_,other⟩ := starts held
    rw [strings_token_eq]
    exact fun same => other (Option.some.inj same).symm
  rintro first second ⟨value,rfl⟩ held
  obtain ⟨rest,shown⟩ := strings.quoted value
  rw [shown]
  obtain ⟨values,rfl⟩ | held := held
  · rw [strings_token_eq]
    exact fun same => absurd (Option.some.inj same) (by decide)
  · obtain ⟨head,tail,rfl,other,_⟩ := starts held
    exact fun same => other (Option.some.inj same).symm

theorem array_injective {tokens tokens' : List (List Char)} (held : ∀ token ∈ tokens, Token strings token)
    (held' : ∀ token ∈ tokens', Token strings token)
    (same : String.ofList ('[' :: (joined ',' tokens ++ [']'])) =
    String.ofList ('[' :: (joined ',' tokens' ++ [']']))) : tokens = tokens' :=
  (tokens_delimit.joined_unique (by decide) held held' (List.cons.inj (String.ofList_injective same)).2).1

/-- A character of a number or a literal. -/
def Clean (char : Char) : Prop := char ≠ ',' ∧ char ≠ ']' ∧ char ≠ '"' ∧ char ≠ '['

theorem digit_clean {char : Char} (digit : char.isDigit = true) : Clean char := by
  refine ⟨?_,?_,?_,?_⟩ <;>
  · rintro rfl
    cases digit

private theorem body_plain {digits : List Char} (filled : digits ≠ []) (decimal : ∀ char ∈ digits, char.isDigit = true) (exponent : Int) :
    Plain (body digits exponent) := by
  have clean : ∀ char ∈ digits, Clean char := fun char member => digit_clean (decimal char member)
  have zeros : ∀ count, ∀ char ∈ List.replicate count '0', Clean char := by
    intro count char member
    rw [List.eq_of_mem_replicate member]
    exact digit_clean rfl
  unfold body
  dsimp only
  split
  · refine ⟨by simp [filled],fun char member => ?_⟩
    obtain held | zero := List.mem_append.mp member
    · exact clean char held
    · exact zeros _ char zero
  split
  · refine ⟨by simp,fun char member => ?_⟩
    obtain front | back := List.mem_append.mp member
    · exact clean char (List.mem_of_mem_take front)
    · obtain rfl | behind := List.mem_cons.mp back
      · decide
      · exact clean char (List.mem_of_mem_drop behind)
  split
  · refine ⟨by simp,fun char member => ?_⟩
    obtain rfl | back := List.mem_cons.mp member
    · exact digit_clean rfl
    obtain rfl | back := List.mem_cons.mp back
    · decide
    obtain zero | held := List.mem_append.mp back
    · exact zeros _ char zero
    · exact clean char held
  refine ⟨by simp,fun char member => ?_⟩
  obtain front | back := List.mem_append.mp member
  · obtain first | fraction := List.mem_append.mp front
    · exact clean char (List.mem_of_mem_take first)
    split at fraction
    · obtain rfl | behind := List.mem_cons.mp fraction
      · decide
      · exact clean char (List.mem_of_mem_drop behind)
    · cases fraction
  obtain rfl | back := List.mem_cons.mp back
  · decide
  obtain rfl | power := List.mem_cons.mp back
  · split <;> decide
  · exact digit_clean (toDigits_isDigit _ char power)

private theorem js_number_plain (value : F64) : Plain (js_number value) := by
  have null : Plain "null".toList := by simp [Plain]
  cases value with
  | NaN => exact null
  | Infinite _ => exact null
  | Zero _ => exact ⟨nofun,fun char member => List.mem_singleton.mp member ▸ digit_clean rfl⟩
  | Finite negative digits exponent =>
  obtain ⟨filled,clean⟩ := body_plain digits.filled digits.decimal exponent
  cases negative with
  | false => exact ⟨filled,clean⟩
  | true =>
  refine ⟨nofun,fun char member => ?_⟩
  obtain rfl | held := List.mem_cons.mp member
  · decide
  · exact clean char held

/-- Every token of a payload is delimited. -/
theorem payload_tokens (payload : MemoryCandidatePayload) : ∀ token ∈ payload.tokens strings, Token strings token := by
  have text : ∀ value, Token strings (strings.print value) := fun value => .inl ⟨value,rfl⟩
  have texts : ∀ values, Token strings (strings_token strings values) := fun values => .inr (.inl ⟨values,rfl⟩)
  have literal : Plain "null".toList ∧ Plain "true".toList ∧ Plain "false".toList := by simp [Plain]
  have optional : ∀ value, Token strings (optional_token strings value) := fun
    | some value => text value
    | none => .inr (.inr literal.1)
  have number : ∀ value, Token strings (number_token value) := fun
    | some value => .inr (.inr (js_number_plain value))
    | none => .inr (.inr literal.1)
  have flag : Token strings (if payload.pinned then "true".toList else "false".toList) := by
    split
    · exact .inr (.inr literal.2.1)
    · exact .inr (.inr literal.2.2)
  simp only [MemoryCandidatePayload.tokens,List.forall_mem_cons,text,texts,optional,number,flag,true_and]
  exact fun _ none => nomatch none

theorem attestation_tokens (attestation : MemoryCandidateAttestation) :
    ∀ token ∈ attestation.tokens strings, Token strings token := by
  have text : ∀ value, Token strings (strings.print value) := fun value => .inl ⟨value,rfl⟩
  have decimal : ∀ value, Token strings (Nat.toDigits 10 value) := fun value =>
    .inr (.inr ⟨Nat.toDigits_ne_nil,fun char member => digit_clean (toDigits_isDigit value char member)⟩)
  simp only [MemoryCandidateAttestation.tokens,List.forall_mem_cons,text,decimal,true_and]
  exact fun _ none => nomatch none

/-- A natural number is written in its decimal digits. -/
theorem js_number_from (value : UInt32) : js_number (F64.from value) = Nat.toDigits 10 value.toNat := by
  unfold F64.from
  split
  next zero =>
    rw [zero]
    rfl
  next positive =>
  have few : (Nat.toDigits 10 value.toNat).length ≤ 10 :=
    (Nat.length_toDigits_le_iff (by decide) (by decide)).mpr (value.toNat_lt.trans (by decide))
  have some_digit : 0 < (Nat.toDigits 10 value.toNat).length := Nat.length_toDigits_pos
  have whole := @List.rdropWhile_append_rtakeWhile Char (· == '0') (Nat.toDigits 10 value.toNat)
  have zeros : (Nat.toDigits 10 value.toNat).rtakeWhile (· == '0') =
    List.replicate ((Nat.toDigits 10 value.toNat).rtakeWhile (· == '0')).length '0' :=
    List.eq_replicate_of_mem fun char member => by simpa using List.mem_rtakeWhile_imp member
  have lengths := congrArg List.length whole
  rw [List.length_append] at lengths
  show body _ _ = _
  unfold body
  dsimp only
  rw [if_pos (by omega)]
  have rest : (((Nat.toDigits 10 value.toNat).length : Int)-1+1-((Nat.toDigits 10 value.toNat).rdropWhile (· == '0')).length).toNat =
      ((Nat.toDigits 10 value.toNat).rtakeWhile (· == '0')).length := by omega
  rw [rest,← zeros,whole]

end Deepstrike.Candidates

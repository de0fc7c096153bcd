import Deepstrike.Items
import Deepstrike.Renderings

/-!
The knowledge tier of a context. Its resident entries are rendered before the history, so a rendered entry
is rewritten or removed at a boundary only; what arrives after the prefix was sent is staged.
-/
namespace Deepstrike.Context
open Wire Renderings ContextItem

/-- What the words of a message say: the tokens of a text, whether a message speaks of an item and whether
    strongly so, and whether it speaks of another message. -/
structure Wording where
  count : String → Nat
  references : CoreMessage → ContextItem → Option Bool
  mentions : CoreMessage → CoreMessage → Bool

/-- What a mention by a message is evidence of. -/
inductive Evidence where
  | Any | StrongOnly | None
  deriving DecidableEq,Repr

def Evidence.counts (evidence : Evidence) (strong : Bool) : Bool :=
  match evidence with
  | .Any => true
  | .StrongOnly => strong
  | .None => false

inductive RetentionKind where
  | User | Feedback | Project | Reference | Skill | Artifact | Other
  deriving DecidableEq,Repr

structure RetentionFeatures where
  pinned : Bool
  use_count : Nat
  last_used_step : Option Nat
  current_step : Nat
  lease_remaining_steps : Option Nat
  kind : RetentionKind
  tokens : Nat
  confidence_ppm : Nat
  stale_discount_ppm : Nat

def RetentionKind.weight : RetentionKind → Int
  | .User => 1600
  | .Feedback => 1800
  | .Project => 1400
  | .Reference => 1200
  | .Skill => 3000
  | .Artifact => 1700
  | .Other => 0

/-- Higher scores are retained first; the greatest is that of a pin. -/
def deterministic_retention_score (features : RetentionFeatures) : Int :=
  if features.pinned then 2 ^ 63 - 1
  else
    let usage_bucket := if features.use_count = 0 then 0 else (Nat.log2 (min (features.use_count+1) (2 ^ 64 - 1)) + 1 : Nat)
    let recency := features.last_used_step.elim 0 fun last => 4096 / (features.current_step-last+1)
    let lease := min (features.lease_remaining_steps.getD 0) 1024 * 8
    usage_bucket*8192 + recency + lease + features.kind.weight + ((min features.confidence_ppm 1000000 / 250 : Nat) : Int)
      - ((min features.stale_discount_ppm 1000000 / 125 : Nat) : Int) - features.tokens*4

def retention_kind (key : Option String) : RetentionKind :=
  match ((key.getD "").splitOn ":").headD "" with
  | "user" => .User
  | "feedback" => .Feedback
  | "project" | "memory" => .Project
  | "reference" | "ref" => .Reference
  | "skill" => .Skill
  | "artifact" => .Artifact
  | _ => .Other

/-- The outcome of one boundary sweep. -/
structure KnowledgeSweep where
  removed_keys : List String
  tokens_freed : Nat
  changed : Bool
  deriving DecidableEq,Repr

structure KnowledgePartition where
  entries : List ContextItem
  token_count : Nat
  turn : Nat
  evicted_keys : Finset String
  regret : Nat
  wasted_tokens : Nat
  retired : List ItemRecord
  deriving DecidableEq

namespace KnowledgePartition

def empty : KnowledgePartition := ⟨[],0,0,∅,0,0,[]⟩

def keyed (key : String) (entry : ContextItem) : Bool := entry.key = some key

variable (knowledge : KnowledgePartition)

/-- An item that is held under its key is to be replaced at the next boundary, and wanted again; any other
    is appended. -/
def push_item (origin : ItemOrigin) (key : Option String) (msg : CoreMessage) (tokens : Nat) (pinned : Bool) :
    KnowledgePartition :=
  if key.any fun key => knowledge.entries.any (keyed key) then
    { knowledge with
      entries := modifyFirst (fun entry => entry.key = key) (fun entry => { entry with
        pending := some (msg,tokens)
        leaving := none
        pinned
        lease := Lease.for_item entry.origin pinned
        value := { entry.value with injected_turn := knowledge.turn } }) knowledge.entries }
  else
    let item := new origin key msg tokens pinned knowledge.turn
    let back := key.any fun key => key ∈ knowledge.evicted_keys
    { knowledge with
      entries := knowledge.entries ++ [{ item with value := { item.value with paged_in_after_evict := back } }]
      token_count := knowledge.token_count+tokens
      evicted_keys := key.elim knowledge.evicted_keys knowledge.evicted_keys.erase
      regret := if back then knowledge.regret+1 else knowledge.regret }

/-- Host knowledge: its origin follows from the key. -/
def push_entry (key : Option String) (msg : CoreMessage) (tokens : Nat) (pinned : Bool) : KnowledgePartition :=
  knowledge.push_item (ItemOrigin.for_host_key key) key msg tokens pinned

def push (msg : CoreMessage) (tokens : Nat) : KnowledgePartition := knowledge.push_entry none msg tokens false

def live (key : String) (entry : ContextItem) : Bool := !entry.is_leaving && keyed key entry

/-- The lease of a live item starts again; whether one holds the key. -/
def renew (key : String) : Bool × KnowledgePartition :=
  (knowledge.entries.any (live key),
    { knowledge with
      entries := modifyFirst (live key)
        (fun entry => { entry with value := { entry.value with injected_turn := knowledge.turn } }) knowledge.entries })

/-- The model asked for the full form. An item whose lease ran out is wanted again. -/
def note_expanded (key : String) : KnowledgePartition :=
  { knowledge with
    entries := modifyFirst (keyed key) (fun entry => { entry with
      leaving := if entry.leaving = some .Expired then none else entry.leaving
      value := { entry.value with
        expanded := true
        ref_count := entry.value.ref_count+1
        strong_refs := entry.value.strong_refs+1
        last_referenced_turn := some knowledge.turn } }) knowledge.entries }

/-- Every item whose lease ran out is marked, the held ones apart. -/
def expire_leases (held : List ItemId) : KnowledgePartition :=
  { knowledge with
    entries := knowledge.entries.map fun entry =>
      if !entry.is_leaving && !held.contains entry.id && entry.lease_expired knowledge.turn then { entry with leaving := some .Expired }
      else entry }

def awaits (event : LeaseEvent) (key : String) (entry : ContextItem) : Bool := live key entry && decide (entry.lease = .Until event)

/-- The event a lease waits for; whether a live item's lease ended. -/
def end_lease (event : LeaseEvent) (key : String) : Bool × KnowledgePartition :=
  (knowledge.entries.any (awaits event key),
    { knowledge with
      entries := modifyFirst (awaits event key) (fun entry => { entry with leaving := some .Expired, pending := none }) knowledge.entries })

/-- A staged entry joins the rendered prefix. -/
def promoted (entry : ContextItem) : ContextItem := { entry with staged := false }

def promote_staged : KnowledgePartition := { knowledge with entries := knowledge.entries.map promoted }

def staged_tokens : Nat := ((knowledge.entries.filter staged).map tokens).sum

/-- The messages rendered before the history, in entry order. -/
def resident_messages : List CoreMessage :=
  visible (fun entry : ContextItem => !entry.staged) message knowledge.entries

/-- The messages rendered in the state turn. -/
def staged_messages : List CoreMessage := visible staged message knowledge.entries

/-- The references of a history message, by evidence; the items it speaks of, each with whether strongly so. -/
def observe_references (W : Wording) (knowledge : KnowledgePartition) (message : CoreMessage) (step : Nat) (evidence : Evidence) :
    List (ItemId × Bool) × KnowledgePartition :=
  let spoken (entry : ContextItem) := if entry.is_leaving then none else W.references message entry
  (knowledge.entries.filterMap fun entry => (spoken entry).map (entry.id,·),
    { knowledge with
      entries := knowledge.entries.map fun entry =>
        match spoken entry with
        | some strong => if evidence.counts strong then entry.referenced strong step knowledge.turn else entry
        | none => entry })

/-- A use that reached an item along an edge. -/
def credit_lexical (id : ItemId) (step : Nat) : KnowledgePartition :=
  { knowledge with
    entries := modifyFirst (fun entry => entry.id = id && !entry.is_leaving) (fun entry => entry.referenced false step knowledge.turn)
      knowledge.entries }

def retention_score (entry : ContextItem) (current_step : Nat) : Int :=
  deterministic_retention_score
  ⟨entry.pinned,entry.value.strong_refs*4+entry.value.lexical_refs,entry.value.last_referenced_step,current_step,
    entry.lease_remaining_turns knowledge.turn,retention_kind entry.key,entry.tokens,0,0⟩

/-- Content pushed under a key is withdrawn: a staged replacement is dropped and its item marked, any other
    item is taken out at once. Whether anything was withdrawn. -/
def retract_staged (key : String) : Bool × KnowledgePartition :=
  match knowledge.entries.findIdx? (keyed key) with
  | none => (false,knowledge)
  | some index =>
    match knowledge.entries[index]? with
    | none => (false,knowledge)
    | some entry =>
      if entry.pending.isSome then
        (true,{ knowledge with entries := knowledge.entries.set index { entry with pending := none, leaving := some .Removed } })
      else
        (true,{ knowledge with
          entries := knowledge.entries.eraseIdx index
          token_count := knowledge.token_count-entry.tokens
          retired := knowledge.retired ++ [entry.record (some .Removed)] })

/-- The item under a key is marked; whether there was one. -/
def remove (key : String) : Bool × KnowledgePartition :=
  (knowledge.entries.any (keyed key),
    { knowledge with
      entries := modifyFirst (keyed key) (fun entry => { entry with leaving := some .Removed, pending := none }) knowledge.entries })

/-- What a boundary makes of an entry that may stay. -/
def settle (entry : ContextItem) : ContextItem :=
  let replaced : ContextItem := match entry.pending with
    | some (msg,tokens) => { entry with message := msg, tokens, pending := none }
    | none => entry
  if replaced.lease = .UntilBoundary && !replaced.is_leaving then { replaced with leaving := some .Expired } else replaced

/-- Staged entries are promoted, replacements applied and marked entries dropped. -/
def sweep_at_boundary : KnowledgeSweep × KnowledgePartition :=
  let promoted := knowledge.promote_staged
  let settled := promoted.entries.map settle
  let gone := settled.filter is_leaving
  let freed := (gone.map tokens).sum
  let removed_keys := gone.filterMap key
  let count := promoted.entries.foldl (fun count entry => entry.pending.elim count fun replacement => count-entry.tokens+replacement.2)
    promoted.token_count
  (⟨removed_keys,freed,0 < knowledge.staged_tokens || promoted.entries.any (fun entry => entry.pending.isSome) || !gone.isEmpty⟩,
    { promoted with
      entries := settled.filter fun entry => !entry.is_leaving
      token_count := if gone.isEmpty then count else count-freed
      evicted_keys := removed_keys.foldl (fun keys key => insert key keys) promoted.evicted_keys
      wasted_tokens := promoted.wasted_tokens + ((gone.filter fun entry => entry.value.ref_count = 0).map tokens).sum
      retired := promoted.retired ++ gone.map fun entry => entry.record entry.leaving })

end KnowledgePartition

end Deepstrike.Context

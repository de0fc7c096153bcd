import Deepstrike.Boundaries

/-!
The knowledge prefix over any run of a context: what a boundary may change, what a promotion costs, and that
each entry is shown once, with the content that was applied last.
-/
namespace Deepstrike.Context
open Std Wire Renderings List KnowledgePartition ContextManager Capabilities

variable {W : Wording}

/-- What a reader of the log knows of the content under a key: what was pushed last, and what was applied
    last. A new item shows what it was pushed with; anything else is applied at a boundary. -/
structure Ledger where
  pushed : String → Option CoreMessage
  applied : String → Option CoreMessage

namespace Ledger

def empty : Ledger := ⟨fun _ => none,fun _ => none⟩

def push (ledger : Ledger) (held : Bool) (key : String) (msg : CoreMessage) : Ledger :=
  ⟨Function.update ledger.pushed key (some msg),if held then ledger.applied else Function.update ledger.applied key (some msg)⟩

def settle (ledger : Ledger) : Ledger := { ledger with applied := ledger.pushed }

def note (W : Wording) (manager : ContextManager) (ledger : Ledger) (op : ContextOp) : Ledger :=
  match pushed_by W manager op with
  | some (_,some key,msg,_) => ledger.push (manager.held (some key)) key msg
  | some (_,none,_) => ledger
  | none => if op.boundary then ledger.settle else ledger

end Ledger

/-- A message that is text. -/
def Plain (message : CoreMessage) : Prop := ∃ text, message.content = .Text text

/-- What holds of an entry beside the ledger. -/
structure Honest (ledger : Ledger) (entry : ContextItem) : Prop where
  applied : ∀ key, entry.key = some key → ledger.applied key = some entry.message
  pushed : ∀ key, entry.key = some key → Retained entry → ledger.pushed key = some (wanted entry)
  skill : entry.origin = .Skill → ∃ key, entry.key = some key ∧ starts_with key "skill:"
  event : ∀ event, entry.lease = .Until event → entry.origin = .Skill
  plain : Plain entry.message
  plain_wanted : Plain (wanted entry)

/-- The entries are honest, and no two of them have one key. -/
structure Kept (ledger : Ledger) (entries : List ContextItem) : Prop where
  honest : ∀ entry ∈ entries, Honest ledger entry
  apart : entries.Pairwise fun first second => first.key.isSome → first.key ≠ second.key

section
variable {ledger : Ledger} {entries after : List ContextItem} {before entry : ContextItem}

theorem Honest.quiet (honest : Honest ledger before) (quiet : Quiet before entry) : Honest ledger entry := by
  refine ⟨fun key named => ?_,fun key named kept => ?_,fun skill => ?_,fun event waits => ?_,?_,?_⟩
  · rw [quiet.message]
    exact honest.applied key (quiet.key ▸ named)
  · obtain ⟨held,same⟩ := quiet.retained kept
    rw [same]
    exact honest.pushed key (quiet.key ▸ named) held
  · rw [quiet.key]
    exact honest.skill (quiet.origin ▸ skill)
  · rw [quiet.origin]
    exact honest.event event (quiet.lease ▸ waits)
  · rw [quiet.message]
    exact honest.plain
  rcases quiet.wanted with same | dropped
  · rw [same]
    exact honest.plain_wanted
  · rw [dropped]
    exact honest.plain

theorem apart_of_keys (same : after.map ContextItem.key = entries.map ContextItem.key)
    (apart : entries.Pairwise fun first second => first.key.isSome → first.key ≠ second.key) :
    after.Pairwise fun first second => first.key.isSome → first.key ≠ second.key := by
  have keys : (entries.map ContextItem.key).Pairwise fun first second => first.isSome → first ≠ second := pairwise_map.mpr apart
  rw [← same] at keys
  exact pairwise_map.mp keys

theorem Kept.quiet (kept : Kept ledger entries) (each : List.Forall₂ Quiet entries after) : Kept ledger after := by
  constructor
  · intro entry member
    obtain ⟨older,held,quiet⟩ := forall₂_source each member
    exact (kept.honest older held).quiet quiet
  · exact apart_of_keys (keys_same (each.imp fun _ _ quiet => quiet.toShown)) kept.apart

theorem Kept.sublist (kept : Kept ledger entries) (part : after.Sublist entries) : Kept ledger after :=
  ⟨fun entry member => kept.honest entry (part.subset member),kept.apart.sublist part⟩

theorem Kept.promoted (kept : Kept ledger entries) : Kept ledger (entries.map promoted) := by
  constructor
  · intro entry member
    obtain ⟨older,held,rfl⟩ := mem_map.mp member
    obtain ⟨applied,pushed,skill,event,plain,plain_wanted⟩ := kept.honest older held
    exact ⟨applied,pushed,skill,event,plain,plain_wanted⟩
  · exact apart_of_keys (by rw [map_map]; rfl) kept.apart

private theorem plain_system (text : String) : Plain (.system text) := ⟨text,rfl⟩

variable {origin : ItemOrigin} {msg : CoreMessage} {knowledge : KnowledgePartition}

private theorem event_of_for_item {pinned : Bool} {event : LeaseEvent} (waits : Lease.for_item origin pinned = .Until event) :
    origin = .Skill := by
  cases origin <;> cases pinned <;> first | rfl | simp [Lease.for_item,ItemOrigin.defaults] at waits

/-- An item under a key that no other has. -/
theorem Kept.append (kept : Kept ledger entries) {key : Option String} {pinned staged : Bool}
    {item : ContextItem} (fresh : ContextManager.Fresh origin key msg pinned staged item)
    (absent : ∀ entry ∈ entries, key.isSome → entry.key ≠ key)
    (skill : origin = .Skill → ∃ named, key = some named ∧ starts_with named "skill:") (plain : Plain msg) :
    Kept (key.elim ledger fun key => ledger.push false key msg) (entries ++ [item]) := by
  have others : ∀ entry ∈ entries, Honest (key.elim ledger fun key => ledger.push false key msg) entry := by
    intro entry member
    obtain ⟨applied,pushed,skilled,event,text,text_wanted⟩ := kept.honest entry member
    cases key with
    | none => exact ⟨applied,pushed,skilled,event,text,text_wanted⟩
    | some key =>
    refine ⟨fun other named => ?_,fun other named held => ?_,skilled,event,text,text_wanted⟩
    · have different : other ≠ key := fun same => absent entry member rfl (same ▸ named)
      simpa [Ledger.push,Function.update_of_ne different] using applied other named
    · have different : other ≠ key := fun same => absent entry member rfl (same ▸ named)
      simpa [Ledger.push,Function.update_of_ne different] using pushed other named held
  have shows : wanted item = msg := by
    unfold wanted
    rw [fresh.pending,fresh.message]
    rfl
  have last : Honest (key.elim ledger fun key => ledger.push false key msg) item := by
    refine ⟨fun named same => ?_,fun named same _ => ?_,fun skilled => ?_,fun event waits => ?_,?_,?_⟩
    · rw [fresh.key] at same
      subst same
      simp [Ledger.push,fresh.message]
    · rw [fresh.key] at same
      subst same
      simp [Ledger.push,shows]
    · rw [fresh.key]
      exact skill (fresh.origin ▸ skilled)
    · rw [fresh.origin]
      exact event_of_for_item (fresh.lease ▸ waits)
    · rw [fresh.message]
      exact plain
    · rw [shows]
      exact plain
  constructor
  · intro entry member
    rcases mem_append.mp member with older | new
    · exact others entry older
    · cases mem_singleton.mp new
      exact last
  refine pairwise_append.mpr ⟨kept.apart,pairwise_singleton _ _,fun first member second new keyed => ?_⟩
  cases mem_singleton.mp new
  rw [fresh.key]
  intro same
  exact absent first member (same ▸ keyed) same

/-- The entry under a key waits for its new content. -/
theorem Kept.replace (kept : Kept ledger knowledge.entries) {key : String} (plain : Plain msg)
    (held : knowledge.entries.any (keyed key)) (origin : ItemOrigin) (tokens : Nat) (pinned : Bool) :
    List.Forall₂ Shown knowledge.entries (knowledge.push_item origin (some key) msg tokens pinned).entries ∧
      Kept (ledger.push true key msg) (knowledge.push_item origin (some key) msg tokens pinned).entries := by
  have one : knowledge.entries.Pairwise fun first second => decide (first.key = some key) = true → ¬decide (second.key = some key) = true := by
    refine kept.apart.imp fun {first second} apart named other => ?_
    have named := of_decide_eq_true named
    exact apart (by rw [named]; rfl) (named.trans (of_decide_eq_true other).symm)
  have replaced : (knowledge.push_item origin (some key) msg tokens pinned).entries = knowledge.entries.map fun entry =>
      if decide (entry.key = some key) then { entry with
        pending := some (msg,tokens)
        leaving := none
        pinned
        lease := Lease.for_item entry.origin pinned
        value := { entry.value with injected_turn := knowledge.turn } } else entry := by
    rw [← modifyFirst_eq_map one]
    unfold push_item
    rw [if_pos (by simpa using held)]
  rw [replaced]
  have shown : ∀ entry : ContextItem, Shown entry (if decide (entry.key = some key) then { entry with
        pending := some (msg,tokens)
        leaving := none
        pinned
        lease := Lease.for_item entry.origin pinned
        value := { entry.value with injected_turn := knowledge.turn } } else entry) := by
    intro entry
    split
    · exact ⟨rfl,rfl,rfl,rfl⟩
    · exact Shown.refl entry
  refine ⟨forall₂_map fun entry _ => shown entry,fun entry member => ?_,?_⟩
  · obtain ⟨older,inside,rfl⟩ := mem_map.mp member
    obtain ⟨applied,pushed,skilled,event,text,text_wanted⟩ := kept.honest older inside
    by_cases same : older.key = some key
    · rw [if_pos (decide_eq_true same)]
      refine ⟨applied,fun other named _ => ?_,skilled,fun event waits => event_of_for_item waits,text,plain⟩
      obtain rfl : key = other := Option.some.inj (same.symm.trans named)
      simp [Ledger.push,wanted]
    · rw [if_neg (by simpa using same)]
      refine ⟨applied,fun other named kept => ?_,skilled,event,text,text_wanted⟩
      have different : other ≠ key := fun equal => same (equal ▸ named)
      simpa [Ledger.push,Function.update_of_ne different] using pushed other named kept
  · refine apart_of_keys ?_ kept.apart
    rw [map_map]
    exact map_congr_left fun entry _ => (shown entry).key

private theorem settle_stays {entry : ContextItem} (stays : (settle entry).leaving = none) :
    entry.leaving = none ∧ (settle entry).message = wanted entry ∧ (settle entry).pending = none := by
  unfold settle at stays ⊢
  cases waiting : entry.pending with
  | none =>
    simp only [waiting] at stays ⊢
    split at stays
    · cases stays
    next staying => simp only [staying,Bool.false_eq_true,if_false]; exact ⟨stays,by simp [wanted,waiting],waiting⟩
  | some replacement =>
  simp only [waiting] at stays ⊢
  split at stays
  · cases stays
  next staying => simp only [staying,Bool.false_eq_true,if_false]; exact ⟨stays,by simp [wanted,waiting],trivial⟩

private theorem settle_identity (entry : ContextItem) : (settle entry).key = entry.key ∧
    (settle entry).origin = entry.origin ∧ (settle entry).lease = entry.lease := by
  unfold settle
  cases entry.pending <;> dsimp only <;> split <;> exact ⟨rfl,rfl,rfl⟩

private theorem Honest.settled (honest : Honest ledger entry) (stays : (settle entry).leaving = none) :
    Honest ledger.settle (settle entry) := by
  obtain ⟨unmarked,message,pending⟩ := settle_stays stays
  obtain ⟨key,origin,lease⟩ := settle_identity entry
  have shows : wanted (settle entry) = wanted entry := by
    rw [wanted,pending]
    exact message
  refine ⟨fun named same => ?_,fun named same _ => ?_,fun skilled => ?_,fun event waits => ?_,?_,?_⟩
  · rw [message]
    exact honest.pushed named (key ▸ same) (.inl unmarked)
  · rw [shows]
    exact honest.pushed named (key ▸ same) (.inl unmarked)
  · rw [key]
    exact honest.skill (origin ▸ skilled)
  · rw [origin]
    exact honest.event event (lease ▸ waits)
  · rw [message]
    exact honest.plain_wanted
  · rw [shows]
    exact honest.plain_wanted

private theorem Kept.swept (kept : Kept ledger knowledge.entries) : Kept ledger.settle knowledge.sweep_at_boundary.2.entries := by
  have promoted := kept.promoted
  constructor
  · intro entry member
    obtain ⟨inside,stays⟩ := mem_filter.mp member
    obtain ⟨older,held,rfl⟩ := mem_map.mp inside
    exact (promoted.honest older held).settled (by simpa [ContextItem.is_leaving] using stays)
  have same : ((knowledge.entries.map KnowledgePartition.promoted).map KnowledgePartition.settle).map ContextItem.key =
      (knowledge.entries.map KnowledgePartition.promoted).map ContextItem.key := by
    rw [map_map]
    exact map_congr_left fun entry _ => (settle_identity entry).1
  have all := apart_of_keys same promoted.apart
  exact all.sublist filter_sublist

end

section
variable {manager : ContextManager} {ledger : Ledger}

section
variable (kept : Kept ledger manager.knowledge.entries)
include kept

private theorem Kept.timed (record_id : String) : ∀ entry ∈ manager.knowledge.entries,
    entry.key = some ("memory:" ++ record_id) → ∀ event, entry.lease ≠ .Until event := by
  intro entry member recalled event waits
  have honest := kept.honest entry member
  obtain ⟨key,named,skill⟩ := honest.skill (honest.event event waits)
  obtain rfl : "memory:" ++ record_id = key := Option.some.inj (recalled.symm.trans named)
  obtain ⟨rest,same⟩ := starts_with_iff.mp skill
  have first := congrArg head? same
  simp at first

theorem Kept.pushed {origin : ItemOrigin} {key : Option String} {msg : CoreMessage} {tokens : Nat}
    {pinned : Bool} (skill : origin = .Skill → ∃ named, key = some named ∧ starts_with named "skill:")
    (plain : Plain msg) :
    Kept (key.elim ledger fun key => ledger.push (manager.held (some key)) key msg)
      (manager.push_knowledge_item origin key msg tokens pinned).knowledge.entries := by
  rcases push_knowledge_item_cases manager origin key msg tokens pinned with ⟨found,same⟩ | ⟨absent,item,fresh,placed⟩
  · obtain ⟨key,rfl,held⟩ := (Option.any_eq_true _ _).mp found
    rw [same,Option.elim_some,found]
    exact (kept.replace plain held origin tokens pinned).2
  have apart : ∀ entry ∈ manager.knowledge.entries, key.isSome → entry.key ≠ key := by
    intro entry member keyed same
    obtain ⟨key,rfl⟩ := Option.isSome_iff_exists.mp keyed
    exact absent ((Option.any_eq_true _ _).mpr ⟨key,rfl,any_eq_true.mpr ⟨entry,member,decide_eq_true same⟩⟩)
  have appended := kept.append fresh apart skill plain
  have noted : (key.elim ledger fun key => ledger.push (manager.held (some key)) key msg) = key.elim ledger fun key => ledger.push false key msg := by
    cases key with
    | none => rfl
    | some key => rw [Option.elim_some,Option.elim_some,Bool.eq_false_of_not_eq_true absent]
  rw [noted]
  rcases placed with ⟨entries,_⟩ | ⟨_,_,entries,_⟩
  · rw [entries]
    exact appended
  · rw [entries]
    exact appended.promoted

theorem Kept.step (op : ContextOp) :
    Kept (ledger.note W manager op) (manager.step W op).knowledge.entries := by
  rcases effect_of_step (W := W) op fun record_id _ => kept.timed record_id with
    ⟨pushed,inner,entries,_⟩ | ⟨origin,key,msg,tokens,pinned,pushed,_,skill,⟨text,rfl⟩,step⟩ |
    ⟨name,pushed,rfl,_,index,entry,_,_,_,entries,_⟩ | ⟨pushed,outer,staying,part,entries,_⟩
  · have noted : ledger.note W manager op = ledger := by simp [Ledger.note,pushed,inner]
    rw [noted]
    exact kept.quiet entries
  · have noted : ledger.note W manager op = key.elim ledger fun key => ledger.push (manager.held (some key)) key (.system text) := by
      simp only [Ledger.note,pushed]
      cases key <;> rfl
    rw [noted,step]
    exact kept.pushed skill (plain_system text)
  · have noted : ledger.note W manager (.retract_refused_skill name) = ledger := rfl
    rw [noted,entries]
    exact kept.sublist (eraseIdx_sublist _ _)
  · have noted : ledger.note W manager op = ledger.settle := by simp [Ledger.note,pushed,outer]
    rw [noted,entries]
    exact (kept.sublist part).swept

end

/-- What is withdrawn for a refused activation is not part of the prefix: an upsert that waits, or an entry
    that is still staged. -/
def ContextManager.Withdrawn (manager : ContextManager) : ContextOp → Bool
  | .retract_refused_skill name => manager.active_skills.contains name ||
    (manager.knowledge.entries.find? (keyed ("skill:" ++ name))).all fun entry => entry.pending.isSome || entry.staged
  | _ => true

variable {op : ContextOp}

private theorem resident_messages_step (kept : Kept ledger manager.knowledge.entries) (inner : op.boundary = false)
    (withdrawn : manager.Withdrawn op = true) (sent : manager.prefix_sent = true) (still : (manager.step W op).prefix_sent = true) :
    (manager.step W op).knowledge.resident_messages = manager.knowledge.resident_messages := by
  unfold resident_messages
  rcases effect_of_step (W := W) op fun record_id _ => kept.timed record_id with
    ⟨_,_,entries,_⟩ | ⟨origin,key,msg,tokens,pinned,_,_,_,⟨text,rfl⟩,step⟩ |
    ⟨name,_,rfl,inactive,index,entry,held,found,settled,entries,_⟩ | ⟨_,outer,_,_,_,_⟩
  · exact resident_same (entries.imp fun _ _ quiet => quiet.toShown)
  · rw [step] at still ⊢
    rcases push_knowledge_item_cases manager origin key (.system text) tokens pinned with ⟨replaced,same⟩ | ⟨_,item,fresh,placed⟩
    · obtain ⟨key,rfl,there⟩ := (Option.any_eq_true _ _).mp replaced
      rw [same]
      exact resident_same (kept.replace (plain_system text) there origin tokens pinned).1
    · rcases placed with ⟨entries,_⟩ | ⟨_,unsent,_,_⟩
      · rw [entries]
        exact visible_concat (by simp [fresh.staged,sent])
      · cases still.symm.trans unsent
  · rw [entries]
    refine visible_eraseIdx held ?_
    simp only [ContextManager.Withdrawn,inactive,found,Bool.false_or,Option.all_some,settled,Option.isSome_none] at withdrawn
    simp [withdrawn]
  · cases inner.symm.trans outer

private theorem promotion_counted (kept : Kept ledger manager.knowledge.entries) (inner : op.boundary = false)
    (sent : manager.prefix_sent = true) (unsent : (manager.step W op).prefix_sent = false) :
    (manager.step W op).cache_invalidated_tokens = manager.cache_invalidated_tokens+manager.history.token_count := by
  rcases effect_of_step (W := W) op fun record_id _ => kept.timed record_id with
    ⟨_,_,_,still⟩ | ⟨origin,key,msg,tokens,pinned,_,_,_,_,step⟩ | ⟨name,_,_,_,_,_,_,_,_,_,same⟩ | ⟨_,outer,_,_,_,_⟩
  · cases unsent.symm.trans (still sent)
  · rw [step] at unsent ⊢
    rcases push_knowledge_item_cases manager origin key msg tokens pinned with ⟨_,same⟩ | ⟨_,item,_,placed⟩
    · rw [same] at unsent
      cases unsent.symm.trans sent
    · rcases placed with ⟨_,same⟩ | ⟨_,_,_,counted⟩
      · cases unsent.symm.trans (same.trans sent)
      · exact counted
  · cases unsent.symm.trans (same.trans sent)
  · cases inner.symm.trans outer

end

/-- A context that was reached from an empty one, with the ledger of what was pushed and applied. -/
inductive Reached (W : Wording) (config : ContextConfig) : ContextManager → Ledger → Prop where
  | start : Reached W config (.new config) .empty
  | step {manager : ContextManager} {ledger : Ledger} (op : ContextOp) (reached : Reached W config manager ledger) :
      Reached W config (manager.step W op) (ledger.note W manager op)

/-- A run without a boundary or a promotion, in which refused activations withdraw what is not in the prefix. -/
inductive Quietly (W : Wording) (manager : ContextManager) : ContextManager → Prop where
  | refl : Quietly W manager manager
  | step {later : ContextManager} (op : ContextOp) (before : Quietly W manager later) (inner : op.boundary = false)
      (withdrawn : later.Withdrawn op = true) (sent : (later.step W op).prefix_sent = true) : Quietly W manager (later.step W op)

/-- The text of an entry, as it is rendered. -/
def text_of (entry : ContextItem) : String := (entry.message.content.as_text).getD ""

/-- A state turn that begins with some texts; it is left out when there is nothing to say. -/
def Begins (texts : List String) (turn : Option CoreMessage) : Prop :=
  turn = none ∧ "\n\n".intercalate texts = "" ∨
    ∃ rest, turn = some ⟨.User,.Text ("\n\n".intercalate
      ((if ("\n\n".intercalate texts).isEmpty then [] else ["\n\n".intercalate texts]) ++ rest) ++ "\n\nProceed."),[]⟩

section
variable {config : ContextConfig} {manager later : ContextManager} {ledger : Ledger}

theorem Reached.kept (reached : Reached W config manager ledger) : Kept ledger manager.knowledge.entries := by
  induction reached with
  | start => exact ⟨by simp [new,empty],List.Pairwise.nil⟩
  | step op _ ih => exact ih.step op

theorem Quietly.resident (reached : Reached W config manager ledger) (sent : manager.prefix_sent = true)
    (quietly : Quietly W manager later) :
    (∃ ledger, Reached W config later ledger) ∧ later.prefix_sent = true ∧
      later.knowledge.resident_messages = manager.knowledge.resident_messages := by
  induction quietly with
  | refl => exact ⟨⟨ledger,reached⟩,sent,rfl⟩
  | step op _ inner withdrawn still ih =>
  obtain ⟨⟨noted,before⟩,held,same⟩ := ih
  exact ⟨⟨_,before.step op⟩,still,(resident_messages_step before.kept inner withdrawn held still).trans same⟩

private theorem texts_of_visible {entries : List ContextItem} (plain : ∀ entry ∈ entries, Plain entry.message) (shown : ContextItem → Bool) :
    (visible shown ContextItem.message entries).filterMap (fun message => message.content.as_text) = visible shown text_of entries := by
  unfold visible
  rw [filterMap_map]
  induction entries with
  | nil => rfl
  | cons entry rest ih =>
  have later := ih fun other member => plain other (mem_cons_of_mem _ member)
  obtain ⟨text,same⟩ := plain entry mem_cons_self
  by_cases here : shown entry = true
  · rw [filter_cons_of_pos here,filterMap_cons_some (b := text) (by simp [same,Content.as_text]),map_cons,later]
    simp [text_of,same,Content.as_text]
  · rw [filter_cons_of_neg here,later]

private theorem build_state_turn_begins (manager : ContextManager) (task : String) (footer : Option String) :
    Begins (manager.knowledge.staged_messages.filterMap fun message => message.content.as_text) (manager.build_state_turn task footer) := by
  unfold build_state_turn Begins
  dsimp only
  split
  next nothing =>
    simp only [Bool.and_eq_true] at nothing
    exact .inl ⟨rfl,by simpa using nothing.2⟩
  next =>
  refine .inr ⟨(if task.isEmpty then [] else [task])
    ++ (if ("\n".intercalate manager.signals).isEmpty then [] else ["\n".intercalate manager.signals]) ++ footer.toList,?_⟩
  simp only [append_assoc]

/-- Each entry is rendered once, before the history or in the state turn, with the content applied last; and a
    prefix that was sent stays as it is up to the next boundary, promotions apart, which are counted. -/
theorem knowledge_prefix_stable (reached : Reached W config manager ledger) :
    (∃ resident staged : List String, manager.build_system_knowledge = "\n\n".intercalate resident ∧
      (∀ task footer, Begins staged (manager.build_state_turn task footer)) ∧
      (resident ++ staged).Perm (manager.knowledge.entries.map text_of)) ∧
    (∀ entry ∈ manager.knowledge.entries, entry.message.content = .Text (text_of entry) ∧
      ∀ key, entry.key = some key → ledger.applied key = some entry.message) ∧
    (manager.prefix_sent = true → ∀ later, Quietly W manager later →
      later.build_system_knowledge = manager.build_system_knowledge) ∧
    ∀ op : ContextOp, op.boundary = false → manager.prefix_sent = true → (manager.step W op).prefix_sent = false →
      (manager.step W op).cache_invalidated_tokens = manager.cache_invalidated_tokens+manager.history.token_count := by
  have kept := reached.kept
  have plain : ∀ entry ∈ manager.knowledge.entries, Plain entry.message := fun entry member => (kept.honest entry member).plain
  refine ⟨?_,fun entry member => ⟨?_,(kept.honest entry member).applied⟩,fun sent later quietly => ?_,fun op inner sent unsent => ?_⟩
  · refine ⟨visible (fun entry => !entry.staged) text_of manager.knowledge.entries,
      visible ContextItem.staged text_of manager.knowledge.entries,?_,?_,?_⟩
    · unfold build_system_knowledge resident_messages
      rw [texts_of_visible plain]
    · intro task footer
      have begins := build_state_turn_begins manager task footer
      unfold staged_messages at begins
      rwa [texts_of_visible plain] at begins
    · have split := @visible_split ContextItem String (fun entry => !entry.staged) text_of manager.knowledge.entries
      simpa only [Bool.not_not] using split
  · obtain ⟨text,same⟩ := plain entry member
    simp [text_of,same,Content.as_text]
  · unfold build_system_knowledge
    rw [(quietly.resident reached sent).2.2]
  · exact promotion_counted kept inner sent unsent

end

section
/-- Words that nothing refers to, of one token each. -/
def plain_wording : Wording := ⟨fun _ => 1,fun _ _ => none,fun _ _ => false⟩

def plain_config : ContextConfig := ⟨none,3,0,false,false⟩

/-- A context whose host gave the body of a skill before the first call, and then heard that the activation
    was refused. -/
def seeded : ContextManager :=
    ((ContextManager.new plain_config).step plain_wording (.push_knowledge_entry (some "skill:a") "body" 1 false)).step
  plain_wording .mark_prefix_sent

private theorem seeded_reached : ∃ ledger, Reached plain_wording plain_config seeded ledger := ⟨_,(Reached.start.step _).step _⟩

/-- New content under the key waits for a boundary, and its withdrawal leaves the prefix alone. -/
theorem knowledge_prefix_stable_seeded :
    ((seeded.step plain_wording (.push_knowledge_entry (some "skill:a") "other" 1 false)).step plain_wording
      (.retract_refused_skill "a")).build_system_knowledge = "body" ∧
    (seeded.step plain_wording (.push_knowledge "more" 1)).cache_invalidated_tokens = 0 := by
  obtain ⟨ledger,reached⟩ := seeded_reached
  obtain ⟨_,_,stable,counted⟩ := knowledge_prefix_stable reached
  have quietly : Quietly plain_wording seeded ((seeded.step plain_wording (.push_knowledge_entry (some "skill:a") "other" 1 false)).step plain_wording
      (.retract_refused_skill "a")) :=
    (Quietly.refl.step _ rfl rfl (by decide +kernel)).step _ rfl (by decide +kernel) (by decide +kernel)
  exact ⟨stable (by decide +kernel) _ quietly,counted (.push_knowledge "more" 1) rfl (by decide +kernel) (by decide +kernel)⟩

/-- The body of a refused skill leaves the prefix that was sent with it. -/
theorem refused_skill_rewrites_prefix : ∃ ledger, Reached plain_wording plain_config seeded ledger ∧
    seeded.prefix_sent = true ∧
    (seeded.step plain_wording (.retract_refused_skill "a")).prefix_sent = true ∧
    seeded.build_system_knowledge = "body" ∧
    (seeded.step plain_wording (.retract_refused_skill "a")).build_system_knowledge = "" := by
  obtain ⟨ledger,reached⟩ := seeded_reached
  refine ⟨ledger,reached,by decide +kernel,by decide +kernel,by decide +kernel,by decide +kernel⟩

end

end Deepstrike.Context

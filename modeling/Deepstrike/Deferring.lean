import Deepstrike.Histories

/-!
Each operation on the knowledge of a context against the rendered bytes: most leave every entry where it
stands with its message, a push appends behind the others, and only a boundary applies what was put off.
-/
namespace Deepstrike.Context
open Std Wire Renderings List ContextItem

/-- The content an entry is to have from the next boundary on. -/
def wanted (entry : ContextItem) : CoreMessage := entry.pending.elim entry.message Prod.fst

/-- An entry that stays, or one that may be wanted again: its lease ran out, and not by an event. -/
def Retained (entry : ContextItem) : Prop :=
  entry.leaving = none ∨ (entry.leaving = some .Expired ∧ ∀ event, entry.lease ≠ .Until event)

/-- What no operation between two boundaries changes of an entry. -/
structure Shown (before after : ContextItem) : Prop where
  key : after.key = before.key
  origin : after.origin = before.origin
  message : after.message = before.message
  staged : after.staged = before.staged

/-- An entry that is marked or counted, and no new content is put off. -/
structure Quiet (before after : ContextItem) : Prop extends Shown before after where
  lease : after.lease = before.lease
  wanted : wanted after = wanted before ∨ wanted after = before.message
  retained : Retained after → Retained before ∧ Context.wanted after = Context.wanted before

section
variable {first second third entry : ContextItem}

@[simp] theorem Shown.refl (entry : ContextItem) : Shown entry entry := ⟨rfl,rfl,rfl,rfl⟩

theorem Shown.trans (before : Shown first second) (after : Shown second third) : Shown first third :=
  ⟨after.key.trans before.key,after.origin.trans before.origin,after.message.trans before.message,after.staged.trans before.staged⟩

@[simp] theorem Quiet.refl (entry : ContextItem) :
    Quiet entry entry := ⟨Shown.refl entry,rfl,.inl rfl,fun kept => ⟨kept,rfl⟩⟩

/-- Two quiet changes in turn are one. -/
theorem Quiet.trans (before : Quiet first second) (after : Quiet second third) : Quiet first third := by
  refine ⟨before.toShown.trans after.toShown,after.lease.trans before.lease,?_,fun kept => ?_⟩
  · rcases after.wanted with same | dropped
    · rw [same]
      exact before.wanted
    · exact .inr (dropped.trans before.message)
  · obtain ⟨kept,same⟩ := after.retained kept
    obtain ⟨held,told⟩ := before.retained kept
    exact ⟨held,same.trans told⟩

private theorem Quiet.of_value (value : ItemValue) : Quiet entry { entry with value } := ⟨⟨rfl,rfl,rfl,rfl⟩,rfl,.inl rfl,fun kept => ⟨kept,rfl⟩⟩

theorem Quiet.of_mark {leaving : ItemEnd} {pending : Option (CoreMessage × Nat)} (final : leaving ≠ .Expired)
    (put_off : pending = none ∨ pending = entry.pending) :
    Quiet entry { entry with leaving := some leaving, pending } := by
  refine ⟨⟨rfl,rfl,rfl,rfl⟩,rfl,?_,fun kept => ?_⟩
  · rcases put_off with rfl | rfl
    · exact .inr rfl
    · exact .inl rfl
  · rcases kept with none_ | ⟨expired,_⟩
    · cases none_
    · exact (final (Option.some.inj expired)).elim

theorem Quiet.referenced (strong : Bool) (step turn : Nat) : Quiet entry (entry.referenced strong step turn) :=
    Quiet.of_value _

end

section
variable {entries after : List ContextItem}

theorem quiet_trans {last : List ContextItem} (before : List.Forall₂ Quiet entries after)
    (later : List.Forall₂ Quiet after last) :
    List.Forall₂ Quiet entries last := by
  induction before generalizing last with
  | nil =>
    cases later
    exact .nil
  | cons first _ ih =>
  cases later with
  | cons second rest => exact .cons (first.trans second) (ih rest)

theorem resident_same (each : List.Forall₂ Shown entries after) :
    visible (fun entry : ContextItem => !entry.staged) message after =
    visible (fun entry : ContextItem => !entry.staged) message entries :=
  visible_alike (each.imp fun _ _ same => ⟨congrArg not same.staged,fun _ => same.message⟩)

theorem keys_same (each : List.Forall₂ Shown entries after) : after.map key = entries.map key := by
  induction each with
  | nil => rfl
  | cons first _ ih => rw [map_cons,map_cons,first.key,ih]

end

namespace KnowledgePartition
variable {knowledge : KnowledgePartition}

theorem renew_quiet (key : String) : List.Forall₂ Quiet knowledge.entries (knowledge.renew key).2.entries :=
  forall₂_modifyFirst Quiet.refl fun _ _ _ => Quiet.of_value _

theorem note_expanded_quiet {key : String}
    (timed : ∀ entry ∈ knowledge.entries, entry.key = some key → ∀ event, entry.lease ≠ .Until event) :
    List.Forall₂ Quiet knowledge.entries (knowledge.note_expanded key).entries := by
  refine forall₂_modifyFirst Quiet.refl fun entry member selected => ⟨⟨rfl,rfl,rfl,rfl⟩,rfl,.inl rfl,fun kept => ⟨?_,rfl⟩⟩
  have named : entry.key = some key := by simpa [keyed] using selected
  by_cases expired : entry.leaving = some .Expired
  · exact .inr ⟨expired,timed entry member named⟩
  · rcases kept with none_ | ⟨marked,_⟩
    · exact .inl (by simpa [expired] using none_)
    · exact by simp [expired] at marked

theorem expire_leases_quiet (held : List ItemId) :
    List.Forall₂ Quiet knowledge.entries (knowledge.expire_leases held).entries := by
  refine forall₂_map fun entry _ => ?_
  split
  next due =>
    simp only [Bool.and_eq_true,Bool.not_eq_true',is_leaving,Option.isSome_eq_false_iff,Option.isNone_iff_eq_none] at due
    exact ⟨⟨rfl,rfl,rfl,rfl⟩,rfl,.inl rfl,fun _ => ⟨.inl due.1.1,rfl⟩⟩
  · exact Quiet.refl entry

theorem end_lease_quiet (event : LeaseEvent) (key : String) :
    List.Forall₂ Quiet knowledge.entries (knowledge.end_lease event key).2.entries := by
  refine forall₂_modifyFirst Quiet.refl fun entry _ selected => ⟨⟨rfl,rfl,rfl,rfl⟩,rfl,.inr rfl,fun kept => ?_⟩
  simp only [awaits,live,Bool.and_eq_true,decide_eq_true_eq] at selected
  rcases kept with none_ | ⟨_,timed⟩
  · cases none_
  · exact (timed event selected.2).elim

theorem remove_quiet (key : String) : List.Forall₂ Quiet knowledge.entries (knowledge.remove key).2.entries :=
  forall₂_modifyFirst Quiet.refl fun _ _ _ => Quiet.of_mark (by simp) (.inl rfl)

/-- References observed mark and count, and put no content off. -/
theorem observe_references_quiet (W : Wording) (message : CoreMessage) (step : Nat) (evidence : Evidence) :
    List.Forall₂ Quiet knowledge.entries (knowledge.observe_references W message step evidence).2.entries := by
  refine forall₂_map fun entry _ => ?_
  dsimp only
  split
  · split
    · exact Quiet.referenced _ _ _
    · exact Quiet.refl entry
  · exact Quiet.refl entry

theorem credit_lexical_quiet (id : ItemId) (step : Nat) :
    List.Forall₂ Quiet knowledge.entries (knowledge.credit_lexical id step).entries :=
  forall₂_modifyFirst Quiet.refl fun _ _ _ => Quiet.referenced _ _ _

/-- A withdrawn upsert leaves its entry in place; an entry without one is taken out. -/
theorem retract_staged_cases (key : String) :
    List.Forall₂ Quiet knowledge.entries (knowledge.retract_staged key).2.entries ∨
    ∃ (index : Nat) (entry : ContextItem), knowledge.entries[index]? = some entry ∧
    knowledge.entries.find? (keyed key) = some entry ∧
      entry.pending = none ∧ (knowledge.retract_staged key).2.entries = knowledge.entries.eraseIdx index := by
  cases found : knowledge.entries.findIdx? (keyed key) with
  | none =>
    rw [show knowledge.retract_staged key = (false,knowledge) by simp [retract_staged,found]]
    exact .inl (forall₂_same Quiet.refl _)
  | some index =>
  obtain ⟨bound,selected,first⟩ := findIdx?_eq_some_iff_getElem.mp found
  have held : knowledge.entries[index]? = some knowledge.entries[index] := getElem?_eq_getElem bound
  by_cases put_off : knowledge.entries[index].pending.isSome = true
  · rw [show (knowledge.retract_staged key).2.entries = knowledge.entries.set index
      { knowledge.entries[index] with pending := none, leaving := some .Removed } by simp [retract_staged,found,held,put_off]]
    left
    rw [forall₂_iff_get]
    refine ⟨by simp,fun i here there => ?_⟩
    simp only [get_eq_getElem,getElem_set]
    split
    next at_ =>
      subst at_
      exact Quiet.of_mark (by simp) (.inl rfl)
    next => exact Quiet.refl _
  · have none_ : knowledge.entries[index].pending = none := by simpa using put_off
    refine .inr ⟨index,_,held,?_,none_,by simp [retract_staged,found,held,none_]⟩
    rw [find?_eq_some_iff_getElem]
    exact ⟨selected,index,bound,rfl,fun other before => by simpa using first other before⟩

end KnowledgePartition

end Deepstrike.Context

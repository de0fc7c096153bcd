import Deepstrike.PlainParts

/-!
The publication order of pending effects. An effect's position is read back out of its id; behind
whatever the operation is called, the id of a minted effect reads as the step and the index it was
minted with, so the listing is by step and by index.
-/
namespace Deepstrike.Transaction
open Std Wire Record OrderedMaps List

section Occurrences
variable {mark : Char} {word text : List Char}

theorem afterLast_append {front : List Char} (plain : mark ∉ front) (missing : afterLast (mark :: word) text = none) :
    afterLast (mark :: word) (front ++ text) = none := by
  induction front with
  | nil => exact missing
  | cons char rest ih =>
  rw [mem_cons,not_or] at plain
  have other : (mark == char) = false := beq_false_of_ne plain.1
  rw [cons_append,afterLast,ih plain.2]
  simp [isPrefixOf,other]

theorem afterLast_cons (other : word.isPrefixOf text = false) (missing : afterLast (mark :: word) text = none) :
    afterLast (mark :: word) (mark :: text) = none := by
  rw [afterLast,missing]
  simp [isPrefixOf,other]

private theorem afterLast_occurrence (front : List Char) (missing : afterLast (mark :: word) (word ++ text) = none) :
    afterLast (mark :: word) (front ++ mark :: (word ++ text)) = some text := by
  induction front with
  | nil =>
    rw [nil_append,afterLast,missing]
    simp [isPrefixOf]
  | cons char rest ih =>
  rw [cons_append,afterLast,ih]
  rfl

end Occurrences

section Decimals

private theorem digit_of_mem {value : Nat} {char : Char} (member : char ∈ Nat.toDigits 10 value) : char.isDigit = true :=
  Nat.isDigit_of_mem_toDigits (by decide) (by decide) member

private theorem colon_free (value : Nat) : ':' ∉ Nat.toDigits 10 value := by
  intro member
  exact absurd (digit_of_mem member) (by decide)

private theorem letter_behind {letter : Char} (word : List Char) (value : Nat) (text : List Char) (other : letter.isDigit = false) :
    (letter :: word).isPrefixOf (Nat.toDigits 10 value ++ text) = false := by
  obtain ⟨head,tail,shown⟩ := exists_cons_of_ne_nil (Nat.toDigits_ne_nil : Nat.toDigits 10 value ≠ [])
  have digit : head.isDigit = true := digit_of_mem (shown ▸ mem_cons_self)
  have differ : (letter == head) = false := by
    apply beq_false_of_ne
    rintro rfl
    rw [other] at digit
    cases digit
  rw [shown]
  simp [isPrefixOf,differ]

private theorem parse_u64_toDigits {value : Nat} (bounded : value ≤ u64Max) : parse_u64 (Nat.toDigits 10 value) = some value := by
  obtain ⟨head,tail,shown⟩ := exists_cons_of_ne_nil (Nat.toDigits_ne_nil : Nat.toDigits 10 value ≠ [])
  have digits : ∀ char ∈ head :: tail, char.isDigit = true := fun char member => digit_of_mem (shown ▸ member)
  have unsigned : head ≠ '+' := by
    rintro rfl
    exact absurd (digits '+' mem_cons_self) (by decide)
  have read : (head :: tail).foldl (fun value digit => 10*value+(digit.toNat - '0'.toNat)) 0 = value := by
    rw [← shown]
    exact Nat.ofDigitChars_ten_toDigits
  have legal : (head :: tail).all Char.isDigit = true := all_eq_true.mpr digits
  rw [shown,parse_u64,read,legal]
  · simp [bounded]
  · intro rest signed
    exact unsigned (cons.inj signed).1

end Decimals

section Positions
variable (operation_id : OperationId) (step_seq index : Nat)

private theorem mint_effect_id_chars :
    (mint_effect_id operation_id step_seq index).toList = operation_id.toList ++ ':' :: (['s','t','e','p',':'] ++
      (Nat.toDigits 10 step_seq ++ ':' :: (['e','f','f','e','c','t',':'] ++ Nat.toDigits 10 index))) := by
  show (operation_id ++ ":step:" ++ Nat.repr step_seq ++ ":effect:" ++ Nat.repr index).toList = _
  simp only [String.toList_append,Nat.toList_repr,append_assoc]
  rfl

private theorem number_missing (word : List Char) (value : Nat) : afterLast (':' :: word) (Nat.toDigits 10 value) = none := by
  have missing : afterLast (':' :: word) (Nat.toDigits 10 value ++ []) = none := afterLast_append (colon_free value) rfl
  rwa [append_nil] at missing

private theorem step_missing :
    afterLast ":step:".toList (['s','t','e','p',':'] ++ (Nat.toDigits 10 step_seq ++ ':' :: (['e','f','f','e','c','t',':'] ++ Nat.toDigits 10 index)))
      = none := by
  have behind_effect : afterLast [':','s','t','e','p',':'] (['e','f','f','e','c','t',':'] ++ Nat.toDigits 10 index) = none := by
    refine @afterLast_append _ _ _ ['e','f','f','e','c','t'] (by decide) (afterLast_cons ?_ (number_missing _ index))
    have letter := letter_behind ['t','e','p',':'] index [] (by decide : 's'.isDigit = false)
    rwa [append_nil] at letter
  have behind_step : afterLast [':','s','t','e','p',':'] (':' :: (['e','f','f','e','c','t',':'] ++ Nat.toDigits 10 index)) = none :=
    afterLast_cons rfl behind_effect
  have behind_number := afterLast_append (colon_free step_seq) behind_step
  have letter := letter_behind ['t','e','p',':'] step_seq
    (':' :: (['e','f','f','e','c','t',':'] ++ Nat.toDigits 10 index)) (by decide : 's'.isDigit = false)
  exact @afterLast_append ':' ['s','t','e','p',':'] _ ['s','t','e','p'] (by decide) (afterLast_cons letter behind_number)

private theorem effect_missing : afterLast ":effect:".toList (['e','f','f','e','c','t',':'] ++ Nat.toDigits 10 index) = none := by
  refine @afterLast_append ':' ['e','f','f','e','c','t',':'] _ ['e','f','f','e','c','t'] (by decide) (afterLast_cons ?_ (number_missing _ index))
  have letter := letter_behind ['f','f','e','c','t',':'] index [] (by decide : 'e'.isDigit = false)
  rwa [append_nil] at letter

/-- The position of a minted effect is the one it was minted at. -/
theorem effect_position_mint_effect_id {step_seq index : Nat} (step_bounded : step_seq ≤ u64Max)
    (index_bounded : index ≤ u64Max) :
    effect_position (mint_effect_id operation_id step_seq index) =
    (step_seq,index,mint_effect_id operation_id step_seq index) := by
  have behind_step := afterLast_occurrence operation_id.toList (step_missing step_seq index)
  have behind_effect := afterLast_occurrence
    (operation_id.toList ++ ':' :: (['s','t','e','p',':'] ++ Nat.toDigits 10 step_seq)) (effect_missing index)
  simp only [append_assoc,cons_append] at behind_effect
  have digits (text : List Char) : (Nat.toDigits 10 step_seq ++ ':' :: text).takeWhile (· ≠ ':') = Nat.toDigits 10 step_seq := by
    rw [takeWhile_append_of_pos]
    · simp
    · intro char member
      simp only [decide_eq_true_eq]
      rintro rfl
      exact colon_free step_seq member
  have step : (afterLast ":step:".toList (mint_effect_id operation_id step_seq index).toList).bind
      (fun rest => if ':' ∈ rest then parse_u64 (rest.takeWhile (· ≠ ':')) else none) = some step_seq := by
    rw [mint_effect_id_chars]
    refine (congrArg (Option.bind · _) behind_step).trans ?_
    rw [Option.bind_some,if_pos (by simp),digits,parse_u64_toDigits step_bounded]
  have position : (afterLast ":effect:".toList (mint_effect_id operation_id step_seq index).toList).bind parse_u64 = some index := by
    rw [mint_effect_id_chars]
    exact (congrArg (Option.bind · _) behind_effect).trans (parse_u64_toDigits index_bounded)
  show (Option.getD (Option.bind _ _) u64Max,_,_) = _
  rw [step,position]
  rfl

end Positions

section Order

private theorem publishedBefore_iff {left right : EffectId} : publishedBefore left right = true ↔
    (effect_position left).1 < (effect_position right).1 ∨ (effect_position left).1 = (effect_position right).1 ∧
      ((effect_position left).2.1 < (effect_position right).2.1 ∨
        (effect_position left).2.1 = (effect_position right).2.1 ∧ left ≤ right) := by
  simp only [publishedBefore,Bool.or_eq_true,Bool.and_eq_true,decide_eq_true_eq,beq_iff_eq]
  rfl

private theorem publishedBefore_trans (left middle right : EffectId) (first : publishedBefore left middle = true)
    (second : publishedBefore middle right = true) : publishedBefore left right = true := by
  rw [publishedBefore_iff] at *
  rcases first with first | ⟨step,first⟩ <;> rcases second with second | ⟨step',second⟩
  · exact .inl (Nat.lt_trans first second)
  · exact .inl (step' ▸ first)
  · exact .inl (step ▸ second)
  refine .inr ⟨step.trans step',?_⟩
  rcases first with first | ⟨index,first⟩ <;> rcases second with second | ⟨index',second⟩
  · exact .inl (Nat.lt_trans first second)
  · exact .inl (index' ▸ first)
  · exact .inl (index ▸ second)
  · exact .inr ⟨index.trans index',String.le_trans first second⟩

private theorem publishedBefore_total (left right : EffectId) : (publishedBefore left right || publishedBefore right left) = true := by
  rw [Bool.or_eq_true,publishedBefore_iff,publishedBefore_iff]
  rcases Nat.lt_trichotomy (effect_position left).1 (effect_position right).1 with step | step | step
  · exact .inl (.inl step)
  · rcases Nat.lt_trichotomy (effect_position left).2.1 (effect_position right).2.1 with index | index | index
    · exact .inl (.inr ⟨step,.inl index⟩)
    · rcases String.le_total left right with names | names
      · exact .inl (.inr ⟨step,.inr ⟨index,names⟩⟩)
      · exact .inr (.inr ⟨step.symm,.inr ⟨index.symm,names⟩⟩)
    · exact .inr (.inr ⟨step.symm,.inl index⟩)
  · exact .inr (.inl step)

end Order

section Listing
variable {Step : Type} {C : Codec Step}

/-- An effect minted for an operation, with the step and the index it was minted at. -/
structure MintedAt (operation_id : OperationId) (effect : KernelEffect) (position : Nat × Nat) : Prop where
  step : position.1 ≤ u64Max
  index : position.2 < 2 ^ 32
  id : effect.effect_id = mint_effect_id operation_id position.1 position.2

variable {operation_id : OperationId} {effect other : KernelEffect} {at_effect at_other : Nat × Nat}

theorem MintedAt.position (minted : MintedAt operation_id effect at_effect) :
    effect_position effect.effect_id = (at_effect.1,at_effect.2,effect.effect_id) := by
  rw [minted.id]
  exact effect_position_mint_effect_id operation_id minted.step (Nat.le_trans (Nat.le_of_lt minted.index) (by decide))

private theorem MintedAt.ordered (minted : MintedAt operation_id effect at_effect) (minted' : MintedAt operation_id other at_other)
    (before : publishedBefore effect.effect_id other.effect_id = true) :
    at_effect.1 < at_other.1 ∨ at_effect.1 = at_other.1 ∧ at_effect.2 ≤ at_other.2 := by
  rw [publishedBefore_iff,minted.position,minted'.position] at before
  rcases before with earlier | ⟨step,earlier | ⟨index,-⟩⟩
  · exact .inl earlier
  · exact .inr ⟨step,Nat.le_of_lt earlier⟩
  · exact .inr ⟨step,Nat.le_of_eq index⟩

namespace KernelTransaction

/-- The listing of minted effects holds each of them, at the position read out of its id, by step and by
    index; and effects pending under their own ids share no position. -/
theorem pending_effects_in_order_ascending (tx : KernelTransaction C) (operation_id : OperationId)
    (position : KernelEffect → Nat × Nat)
    (minted : ∀ effect ∈ values tx.pending_effects, MintedAt operation_id effect (position effect)) :
    tx.pending_effects_in_order.Perm (values tx.pending_effects) ∧
    (∀ effect ∈ tx.pending_effects_in_order,
      effect_position effect.effect_id = ((position effect).1,(position effect).2,effect.effect_id)) ∧
    tx.pending_effects_in_order.Pairwise (fun left right =>
      (position left).1 < (position right).1 ∨ (position left).1 = (position right).1 ∧
      (position left).2 ≤ (position right).2) ∧
    (KeyedBy KernelEffect.effect_id tx.pending_effects → (tx.pending_effects_in_order.map position).Nodup) := by
  have listed : tx.pending_effects_in_order.Perm (values tx.pending_effects) := mergeSort_perm _ _
  have minted_listed : ∀ effect ∈ tx.pending_effects_in_order, MintedAt operation_id effect (position effect) :=
    fun effect member => minted effect (listed.mem_iff.mp member)
  refine ⟨listed,fun effect member => (minted_listed effect member).position,?_,?_⟩
  · have sorted : tx.pending_effects_in_order.Pairwise fun left right => publishedBefore left.effect_id right.effect_id = true := by
      apply pairwise_mergeSort
      · exact fun left middle right => publishedBefore_trans left.effect_id middle.effect_id right.effect_id
      · exact fun left right => publishedBefore_total left.effect_id right.effect_id
    exact sorted.imp_of_mem fun here there before => (minted_listed _ here).ordered (minted_listed _ there) before
  intro keyed
  have distinct : (tx.pending_effects_in_order.map KernelEffect.effect_id).Nodup := (listed.map _).nodup_iff.mpr keyed.nodup
  rw [List.Nodup,pairwise_map] at distinct ⊢
  refine distinct.imp_of_mem fun {left right} here there differ same => differ ?_
  rw [(minted_listed left here).id,(minted_listed right there).id,same]

/-- Two effects of an operation named like an effect, the later step minted first. -/
theorem pending_effects_in_order_ascending_two :
    let operation_id := "run:step:11:effect:3"
    let earlier : KernelEffect := ⟨mint_effect_id operation_id 9 2,"input-1",.ExecuteTools []⟩
    let later : KernelEffect := ⟨mint_effect_id operation_id 10 0,"input-2",.ExecuteTools []⟩
    let position := fun effect => if effect = earlier then (9,2) else (10,0)
    let tx := { PlainParts.plainFresh with pending_effects :=
      ((∅ : OrdMap KernelEffect).insert later.effect_id later).insert earlier.effect_id earlier }
    tx.pending_effects_in_order.Pairwise (fun left right =>
      (position left).1 < (position right).1 ∨ (position left).1 = (position right).1 ∧ (position left).2 ≤ (position right).2) ∧
    (tx.pending_effects_in_order.map position).Nodup := by
  intro operation_id earlier later position tx
  have minted : ∀ effect ∈ values tx.pending_effects, MintedAt operation_id effect (position effect) := by
    intro effect member
    obtain ⟨name,held⟩ := mem_values.mp member
    rw [ExtTreeMap.getElem?_insert,ExtTreeMap.getElem?_insert] at held
    split at held
    next =>
      cases held
      exact ⟨by decide,by decide,by decide⟩
    split at held
    next =>
      cases held
      exact ⟨by decide,by decide,by decide⟩
    next => simp at held
  obtain ⟨-,-,ascending,distinct⟩ := tx.pending_effects_in_order_ascending operation_id position minted
  exact ⟨ascending,distinct (((KeyedBy.empty _).insert later).insert earlier)⟩

end KernelTransaction
end Listing
end Deepstrike.Transaction

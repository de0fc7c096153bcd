import Deepstrike.Renderings
import Deepstrike.TaskGraph

/-!
The counts of the recalls of a store. The kernel derives the counts from what the store holds, the store mirrors them,
and a promotion is suggested when a count crosses the threshold.
-/
namespace Deepstrike.Recalling
open Renderings Orchestration List

/-- What a store holds of a record about its recalls. -/
structure MemoryRecord where
  record_id : String
  recall_count : Nat
  last_recalled_at : Option Nat
  pinned : Bool
  deriving DecidableEq,Repr

structure MemoryRecallPrior where
  record_id : String
  recall_count : Nat
  pinned : Bool
  deriving DecidableEq,Repr

structure MemoryRecallLifecycle where
  record_id : String
  recall_count : Nat
  last_recalled_at : Nat
  deriving DecidableEq,Repr

structure MemoryPromotion where
  record_id : String
  recall_count : Nat
  deriving DecidableEq,Repr

/-- The promotion of a record on the recall that crosses the threshold. -/
def MemoryRecallPrior.promotion (promotion_threshold : Option Nat) (prior : MemoryRecallPrior) : List MemoryPromotion :=
  promotion_threshold.toList.filterMap fun threshold =>
    if !prior.pinned && prior.recall_count < threshold && threshold ≤ saturating_succ prior.recall_count then
      some ⟨prior.record_id,saturating_succ prior.recall_count⟩
    else none

/-- Each record counts once, however many hits named it. -/
def derive_unseen (recalled_at : Nat) (promotion_threshold : Option Nat) :
    List String → List MemoryRecallPrior → List MemoryRecallLifecycle × List MemoryPromotion
  | _,[] => ([],[])
  | seen,prior :: priors =>
    if seen.contains prior.record_id then derive_unseen recalled_at promotion_threshold seen priors
    else
      let later := derive_unseen recalled_at promotion_threshold (prior.record_id :: seen) priors
      (⟨prior.record_id,saturating_succ prior.recall_count,recalled_at⟩ :: later.1,prior.promotion promotion_threshold ++ later.2)

def derive_recall_lifecycle (priors : List MemoryRecallPrior) (recalled_at : Nat) (promotion_threshold : Option Nat) :
    List MemoryRecallLifecycle × List MemoryPromotion :=
  derive_unseen recalled_at promotion_threshold [] priors

/-- A record under the count of a recall. -/
def MemoryRecord.counted (round : MemoryRecallLifecycle) (record : MemoryRecord) : MemoryRecord :=
  { record with recall_count := round.recall_count,last_recalled_at := some round.last_recalled_at }

def record_recall (records : List MemoryRecord) (recalls : List MemoryRecallLifecycle) : List MemoryRecord :=
  recalls.foldl (fun records round =>
  modifyFirst (fun record => record.record_id == round.record_id) (MemoryRecord.counted round) records) records

/-- What the host reports of a record it has just recalled. -/
def MemoryRecord.prior (record : MemoryRecord) : MemoryRecallPrior := ⟨record.record_id,record.recall_count,record.pinned⟩

/-- The ids that the hits of a search named, and when. -/
structure Recall where
  named : List String
  recalled_at : Nat

/-- The recalls of a store, of whatever records it holds, with the promotions suggested so far. -/
inductive Recalls (promotion_threshold : Option Nat) (first : List MemoryRecord) :
    List MemoryRecord → List Recall → List MemoryPromotion → Prop where
  | start : Recalls promotion_threshold first first [] []
  | round {records : List MemoryRecord} {rounds : List Recall} {promotions : List MemoryPromotion}
    (before : Recalls promotion_threshold first records rounds promotions) (hits : List MemoryRecord)
    (held : hits ⊆ records) (recalled_at : Nat) :
    Recalls promotion_threshold first
      (record_recall records (derive_recall_lifecycle (hits.map MemoryRecord.prior) recalled_at promotion_threshold).1)
      (rounds ++ [⟨hits.map MemoryRecord.record_id,recalled_at⟩])
      (promotions ++ (derive_recall_lifecycle (hits.map MemoryRecord.prior) recalled_at promotion_threshold).2)

/-- A record one recall on. -/
def MemoryRecord.recalled (record : MemoryRecord) (round : Recall) : MemoryRecord :=
  { record with recall_count := saturating_succ record.recall_count,last_recalled_at := some round.recalled_at }

def Recall.names (record_id : String) (round : Recall) : Bool := round.named.contains record_id

/-- A record behind some recalls, of which those that name it count. -/
def MemoryRecord.after (record : MemoryRecord) (rounds : List Recall) : MemoryRecord :=
  (rounds.filter (Recall.names record.record_id)).foldl MemoryRecord.recalled record

abbrev ids (records : List MemoryRecord) : List String := records.map MemoryRecord.record_id

section
variable {limit : Option Nat} {recalled_at : Nat} {records first after : List MemoryRecord} {record : MemoryRecord}
  {rounds : List Recall} {promotions : List MemoryPromotion}

/-- The mirror of a count in one record. -/
def mirrored (record : MemoryRecord) (round : MemoryRecallLifecycle) : MemoryRecord :=
  if record.record_id = round.record_id then record.counted round else record

private theorem record_recall_eq (once : (ids records).Nodup) (recalls : List MemoryRecallLifecycle) :
    record_recall records recalls = records.map fun record => recalls.foldl mirrored record := by
  induction recalls generalizing records with
  | nil => exact (map_id' records).symm
  | cons round rest ih =>
  have changed : modifyFirst (fun record => record.record_id == round.record_id) (MemoryRecord.counted round) records =
      records.map fun record => mirrored record round := by
    rw [modifyFirst_eq_map]
    · simp only [mirrored,beq_iff_eq]
    · refine (pairwise_map.mp once).imp fun apart here there => ?_
      exact apart ((beq_iff_eq.mp here).trans (beq_iff_eq.mp there).symm)
  have same : ids (records.map fun record => mirrored record round) = ids records := by
    rw [ids,map_map]
    refine map_congr_left fun record _ => ?_
    rw [Function.comp_apply,mirrored]
    split <;> rfl
  have later := ih (same ▸ once)
  rw [map_map] at later
  rw [record_recall,foldl_cons,changed]
  exact later

private theorem mirrored_filter (recalls : List MemoryRecallLifecycle) : recalls.foldl mirrored record =
    (recalls.filter fun round => round.record_id == record.record_id).foldl (fun record round => record.counted round) record := by
  induction recalls generalizing record with
  | nil => rfl
  | cons round rest ih =>
  rw [foldl_cons,ih,mirrored]
  by_cases here : round.record_id = record.record_id
  · rw [if_pos here.symm,filter_cons,if_pos (beq_iff_eq.mpr here)]
    rfl
  · rw [if_neg (Ne.symm here),filter_cons,if_neg (here ∘ beq_iff_eq.mp)]

private theorem promotion_id {prior : MemoryRecallPrior} {promotion : MemoryPromotion} (member : promotion ∈ prior.promotion limit) :
    promotion.record_id = prior.record_id := by
  obtain ⟨threshold,_,crossed⟩ := mem_filterMap.mp member
  split at crossed <;> cases crossed
  rfl

/-- Of what a derivation says, a record's part is that of the first prior that names it. -/
theorem derive_unseen_own (record_id : String) (seen : List String) (priors : List MemoryRecallPrior) :
    let derived := derive_unseen recalled_at limit seen priors
    let own := if record_id ∈ seen then none else priors.find? fun prior => prior.record_id == record_id
    (derived.1.filter fun round => round.record_id == record_id) =
        own.toList.map (fun prior => ⟨prior.record_id,saturating_succ prior.recall_count,recalled_at⟩) ∧
      (derived.2.filter fun promotion => promotion.record_id == record_id) = own.toList.flatMap fun prior => prior.promotion limit := by
  dsimp only
  induction priors generalizing seen with
  | nil => simp [derive_unseen]
  | cons prior rest ih =>
  have promotions : ((prior.promotion limit).filter fun promotion => promotion.record_id == record_id) =
      if prior.record_id = record_id then prior.promotion limit else [] := by
    split
    next here => exact filter_eq_self.mpr fun promotion member => beq_iff_eq.mpr ((promotion_id member).trans here)
    next apart => exact filter_eq_nil_iff.mpr fun promotion member same => apart ((promotion_id member).symm.trans (beq_iff_eq.mp same))
  have later := ih (prior.record_id :: seen)
  unfold derive_unseen
  by_cases here : prior.record_id = record_id
  · subst here
    by_cases known : prior.record_id ∈ seen
    · simpa [known] using ih seen
    · simpa [known,promotions] using later
  · by_cases known : prior.record_id ∈ seen
    · simpa [known,here] using ih seen
    · simpa [known,here,Ne.symm here,promotions] using later

/-- A recall counts the records that its hits named, and suggests those that crossed the threshold. -/
theorem recall_effect {hits : List MemoryRecord} (once : (ids records).Nodup) (held : hits ⊆ records)
    (member : record ∈ records) :
    let derived := derive_recall_lifecycle (hits.map MemoryRecord.prior) recalled_at limit
    derived.1.foldl mirrored record = (if record.record_id ∈ ids hits then record.recalled ⟨ids hits,recalled_at⟩ else record) ∧
      (derived.2.filter fun promotion => promotion.record_id == record.record_id) =
        if record.record_id ∈ ids hits then record.prior.promotion limit else [] := by
  have found : ((hits.map MemoryRecord.prior).find? fun prior => prior.record_id == record.record_id) =
      if record.record_id ∈ ids hits then some record.prior else none := by
    split
    next named =>
      obtain ⟨hit,listed,same⟩ := mem_map.mp named
      have some_ : ((hits.map MemoryRecord.prior).find? fun prior => prior.record_id == record.record_id).isSome = true :=
        find?_isSome.mpr ⟨hit.prior,mem_map_of_mem listed,beq_iff_eq.mpr same⟩
      obtain ⟨prior,found⟩ := Option.isSome_iff_exists.mp some_
      obtain ⟨other,listed,rfl⟩ := mem_map.mp (mem_of_find?_eq_some found)
      have key : other.prior.record_id = record.record_id := by simpa using find?_some found
      rw [found,inj_on_of_nodup_map once (held listed) member key]
    next unnamed =>
    refine find?_eq_none.mpr fun prior listed same => unnamed ?_
    obtain ⟨hit,held,rfl⟩ := mem_map.mp listed
    exact mem_map.mpr ⟨hit,held,beq_iff_eq.mp same⟩
  obtain ⟨counts,suggested⟩ := @derive_unseen_own limit recalled_at record.record_id [] (hits.map MemoryRecord.prior)
  rw [if_neg not_mem_nil,found] at counts suggested
  dsimp only [derive_recall_lifecycle]
  rw [mirrored_filter,counts,suggested]
  split
  next => exact ⟨rfl,append_nil _⟩
  next => exact ⟨rfl,rfl⟩

private theorem after_concat (record : MemoryRecord) (rounds : List Recall) (round : Recall) : record.after (rounds ++ [round]) =
    if round.names record.record_id then (record.after rounds).recalled round else record.after rounds := by
  unfold MemoryRecord.after
  rw [filter_append,foldl_append,filter_cons,filter_nil]
  split <;> rfl

theorem after_prior (bounded : record.recall_count ≤ 2^64-1) (rounds : List Recall) : (record.after rounds).prior =
    ⟨record.record_id,min (record.recall_count+rounds.countP (Recall.names record.record_id)) (2^64-1),
    record.pinned⟩ := by
  induction rounds using reverseRecOn with
  | nil => exact congrArg (MemoryRecallPrior.mk _ · _) (Nat.min_eq_left bounded).symm
  | append_singleton rounds round ih =>
  obtain ⟨named,count,pinned⟩ := (MemoryRecallPrior.mk.injEq ..).mp ih
  rw [after_concat,countP_append,countP_cons,countP_nil]
  split
  · refine (MemoryRecallPrior.mk.injEq ..).mpr ⟨named,?_,pinned⟩
    rw [MemoryRecord.recalled,count,saturating_succ]
    dsimp only
    omega
  · exact ih

/-- The promotion at a recall, behind those before it. -/
theorem promotions_concat {start count : Nat} (record_id : String) (pinned : Bool) (grown : start ≤ count)
    (bounded : count ≤ 2^64-1) :
    (limit.toList.filterMap fun threshold =>
        if !pinned && start < threshold && threshold ≤ count then some (⟨record_id,threshold⟩ : MemoryPromotion)
        else none) ++
        (⟨record_id,count,pinned⟩ : MemoryRecallPrior).promotion limit =
      limit.toList.filterMap fun threshold =>
        if !pinned && start < threshold && threshold ≤ saturating_succ count then some ⟨record_id,threshold⟩
        else none := by
  cases limit with
  | none => rfl
  | some threshold =>
  have single : ∀ suggest : Nat → Option MemoryPromotion, (some threshold).toList.filterMap suggest = (suggest threshold).toList := fun suggest => by
    rw [Option.toList_some,filterMap_cons]
    cases suggest threshold <;> rfl
  have within : saturating_succ count ≤ count+1 ∧ count ≤ saturating_succ count := by
    unfold saturating_succ
    omega
  rw [MemoryRecallPrior.promotion,single,single,single]
  generalize saturating_succ count = next at within ⊢
  simp only [Bool.and_eq_true,Bool.not_eq_true',decide_eq_true_eq]
  by_cases crossed : count < threshold ∧ threshold ≤ next
  · obtain rfl : threshold = next := by omega
    rw [if_neg fun before => Nat.not_le_of_lt crossed.1 before.2]
    have both : (pinned = false ∧ start < threshold) ∧ threshold ≤ threshold ↔ (pinned = false ∧ count < threshold) ∧ threshold ≤ threshold := by
      have after : start < threshold := by omega
      simp only [crossed.1,after]
    rw [if_congr both rfl rfl]
    rfl
  · rw [if_neg fun now : (pinned = false ∧ count < threshold) ∧ threshold ≤ next => crossed ⟨now.1.2,now.2⟩,Option.toList_none,append_nil]
    refine congrArg _ (if_congr (and_congr_right fun above => ?_) rfl rfl)
    have start_below := above.2
    omega

/-- Behind the recalls each record stands as those that named it leave it. -/
theorem Recalls.stands (recalls : Recalls limit first after rounds promotions) (once : (ids first).Nodup)
    (bounded : ∀ record ∈ first, record.recall_count ≤ 2^64-1) :
    after = first.map (fun record => record.after rounds) ∧ (ids after).Nodup := by
  have named : ∀ rounds, ∀ record ∈ first, (record.after rounds).record_id = record.record_id := fun rounds record member =>
    congrArg MemoryRecallPrior.record_id (after_prior (bounded record member) rounds)
  have apart : ∀ rounds, (ids (first.map fun record => record.after rounds)).Nodup := fun rounds => by
    rw [ids,map_map]
    exact (map_congr_left (named rounds)).symm ▸ once
  suffices stands : after = first.map (fun record => record.after rounds) from ⟨stands,stands ▸ apart rounds⟩
  induction recalls with
  | start => exact (map_id' first).symm
  | @round _ rounds _ before hits held recalled_at ih =>
  subst ih
  rw [record_recall_eq (apart rounds),map_map]
  refine map_congr_left fun record member => ?_
  rw [Function.comp_apply,after_concat,(recall_effect (apart rounds) held (mem_map_of_mem member)).1,named rounds record member]
  simp only [Recall.names,contains_iff_mem]

/-- Over every run of recalls a record's count grows by the recalls that named it, up to the largest; its promotion is
    suggested once, when the count reaches the threshold, and never for a pinned one. -/
theorem recalls_promote (recalls : Recalls limit first after rounds promotions) (once : (ids first).Nodup)
    (bounded : ∀ record ∈ first, record.recall_count ≤ 2^64-1) (member : record ∈ first) :
    record.after rounds ∈ after ∧ (record.after rounds).prior =
        ⟨record.record_id,min (record.recall_count+rounds.countP (Recall.names record.record_id)) (2^64-1),
        record.pinned⟩ ∧
      (promotions.filter fun promotion => promotion.record_id == record.record_id) =
        limit.toList.filterMap fun threshold =>
        if !record.pinned && record.recall_count < threshold && threshold ≤ (record.after rounds).recall_count then
        some ⟨record.record_id,threshold⟩
        else none := by
  have within := bounded record member
  refine ⟨(recalls.stands once bounded).1 ▸ mem_map_of_mem member,after_prior within rounds,?_⟩
  induction recalls with
  | start =>
    refine (filterMap_eq_nil_iff.mpr fun threshold _ => if_neg fun above => ?_).symm
    obtain ⟨below,reached⟩ := Bool.and_eq_true_iff.mp above
    exact Nat.not_le_of_lt (of_decide_eq_true (Bool.and_eq_true_iff.mp below).2) (of_decide_eq_true reached)
  | @round _ rounds _ before hits held recalled_at ih =>
  obtain ⟨rfl,apart⟩ := before.stands once bounded
  have effect := (@recall_effect limit recalled_at _ _ _ apart held (mem_map_of_mem member)).2
  obtain ⟨named,count,pinned⟩ := (MemoryRecallPrior.mk.injEq ..).mp (after_prior within rounds)
  rw [named] at effect
  rw [filter_append,ih,effect,after_concat,Recall.names]
  simp only [contains_iff_mem]
  split
  next =>
    rw [after_prior within,← count]
    exact promotions_concat record.record_id record.pinned (by omega) (by omega)
  next => rw [append_nil]

end

/-- A record that two hits of the first recall name is suggested with the second, as it reaches the threshold. -/
theorem recalls_promote_again : ∃ after promotions, Recalls (some 2)
    [⟨"a",0,none,false⟩] after [⟨["a","a"],7⟩,⟨["a"],9⟩] promotions ∧
    ⟨"a",2,some 9,false⟩ ∈ after ∧ (promotions.filter fun promotion => promotion.record_id == "a") = [⟨"a",2⟩] := by
  have once : Recalls (some 2) [⟨"a",0,none,false⟩] [⟨"a",1,some 7,false⟩] [⟨["a","a"],7⟩] [] :=
    .round .start [⟨"a",0,none,false⟩,⟨"a",0,none,false⟩] (by simp) 7
  have twice := once.round [⟨"a",1,some 7,false⟩] (by simp) 9
  obtain ⟨stands,_,suggested⟩ := recalls_promote twice (by simp) (by simp) mem_cons_self
  exact ⟨_,_,twice,stands,suggested⟩

end Deepstrike.Recalling

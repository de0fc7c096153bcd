import Deepstrike.Freezing

/-!
The render as its loop assembles it: units are collected from the newest on into shared buffers, and put back in
the order of age by draining the buffers from their ends. What comes out is the render, and what it keeps is said
unit by unit. The tokens of a row are those its measurement answers: recorded for this message, or counted again.
-/
namespace Deepstrike.Context
open Wire List RenderedTurn RenderUnit

/-- The buffers of the loop: the messages and the source indices that are kept, newest unit first with each unit in
    its own order, and where each kept unit stands in them. -/
structure RenderBuffers where
  kept_messages_rev : List CoreMessage
  kept_unit_ranges : List (Nat × Nat)
  selected_indices_rev : List Nat
  remaining : Nat
  used_tokens : Nat
  budget_overflow : Option ContextBudgetOverflow

/-- A range is taken out of a buffer. -/
def drain {α : Type} (buffer : List α) (range : Nat × Nat) : List α × List α :=
  ((buffer.take range.2).drop range.1,buffer.take range.1 ++ buffer.drop range.2)

/-- The kept units are drained one after the other, in the order in which their ranges are given. -/
def drain_units {α : Type} : List (Nat × Nat) → List α → List α
  | [],_ => []
  | range :: rest,buffer =>
    let (drained,left) := drain buffer range
    drained ++ drain_units rest left

namespace ContextManager
variable (engine : ContextTokenEngine) (manager : ContextManager) (setting : Setting)

def protected_from : Nat := (unit_boundaries (manager.history.rows.map PartitionRow.message)).length-manager.config.preserve_recent_units

/-- A unit as the loop meets it, with its index. -/
def unit_of (unit : (Nat × Nat) × Nat) : RenderUnit := manager.render_unit engine (manager.protected_from ≤ unit.2) unit.1

/-- The loop over the units, from the newest on. A unit without tokens leaves the buffer again, and one too large ends the loop. -/
def collect (budget : Nat) : List ((Nat × Nat) × Nat) → RenderBuffers → RenderBuffers
  | [],buffers => buffers
  | (unit,unit_index) :: older,buffers =>
    let rendered := manager.unit_of engine (unit,unit_index)
    let unit_start := buffers.kept_messages_rev.length
    let kept_messages_rev := buffers.kept_messages_rev ++ rendered.turns.map message
    if rendered.tokens = 0 then collect budget older { buffers with kept_messages_rev := kept_messages_rev.take unit_start }
    else if rendered.is_protected || rendered.tokens ≤ buffers.remaining then
      let used_tokens := buffers.used_tokens+rendered.tokens
      collect budget older
        { kept_messages_rev
          kept_unit_ranges := buffers.kept_unit_ranges ++ [(unit_start,kept_messages_rev.length)]
          selected_indices_rev := buffers.selected_indices_rev ++ List.range' unit.1 (unit.2-unit.1)
          remaining := buffers.remaining-rendered.tokens
          used_tokens
          budget_overflow := if rendered.is_protected && budget < used_tokens && buffers.budget_overflow.isNone then
          some ⟨.ProtectedTail,used_tokens,budget⟩
            else buffers.budget_overflow }
    else { buffers with kept_messages_rev := kept_messages_rev.take unit_start }

/-- The identity of a row of the history. -/
def tag_id (index : Nat) : ItemId := manager.history.rows[index]?.elim 0 fun row => row.tag.id

/-- The render, from the buffers. -/
def render_drained (budget : Nat) : InternalRenderedContext :=
  let fixed := manager.fixed_tokens engine setting
  let buffers := manager.collect engine budget (unit_boundaries (manager.history.rows.map PartitionRow.message)).zipIdx.reverse
    ⟨[],[],[],budget-fixed,fixed,if budget < fixed then some ⟨.FixedContext,fixed,budget⟩ else none⟩
  let kept := drain_units buffers.kept_unit_ranges.reverse buffers.kept_messages_rev
  let selected_indices := drain_units buffers.kept_unit_ranges.reverse buffers.selected_indices_rev
  let turns := normalize_turn_prefix kept
  let anchor_count := turns.length-kept.length
  let frozen_selected := (selected_indices.takeWhile fun index => index < manager.frozen_history_len).length
  let projected_tokens := (turns.take anchor_count).foldl (fun total message => total+engine.count_message message) buffers.used_tokens
  { system_text := manager.system_text setting
    system_stable := setting.system_stable
    system_knowledge := manager.build_system_knowledge
    turns
    state_turn := manager.build_state_turn setting.task setting.footer
    frozen_prefix_len := if 0 < frozen_selected && frozen_selected < selected_indices.length then
    some (frozen_selected+anchor_count) else none
    budget_overflow :=
      if budget < projected_tokens then
        match buffers.budget_overflow with
        | none => some ⟨.ProtectedTail,projected_tokens,budget⟩
        | some overflow => if overflow.kind = .ProtectedTail then
          some { overflow with required_tokens := projected_tokens } else some overflow
      else buffers.budget_overflow
    turn_items := List.replicate anchor_count 0 ++ selected_indices.map manager.tag_id
    estimated_tokens := projected_tokens }

end ContextManager

/-- Where units stand that were appended to a buffer one after the other. -/
def offsets (start : Nat) : List RenderUnit → List (Nat × Nat)
  | [] => []
  | unit :: rest => (start,start+unit.turns.length) :: offsets (start+unit.turns.length) rest

private theorem offsets_snoc (start : Nat) (units : List RenderUnit) (unit : RenderUnit) : offsets start (units ++ [unit]) =
    offsets start units ++ [(start+(units.flatMap turns).length,start+(units.flatMap turns).length+unit.turns.length)] := by
  induction units generalizing start with
  | nil => rfl
  | cons first rest ih =>
    rw [cons_append,offsets,ih,flatMap_cons,length_append,offsets,cons_append,Nat.add_assoc start]

private theorem drain_units_offsets {α : Type} (read : RenderedTurn → α) (units : List RenderUnit) :
    drain_units (offsets 0 units.reverse).reverse ((units.reverse.flatMap turns).map read) = (units.flatMap turns).map read := by
  induction units with
  | nil => rfl
  | cons unit rest ih =>
  have length : ((rest.reverse.flatMap turns).map read).length = (rest.reverse.flatMap turns).length := length_map _
  rw [reverse_cons,offsets_snoc,reverse_append,reverse_singleton,singleton_append,flatMap_append,map_append,drain_units,drain]
  have alone : ([unit].flatMap turns).map read = unit.turns.map read := by rw [flatMap_cons,flatMap_nil,append_nil]
  have whole : 0+(rest.reverse.flatMap turns).length+unit.turns.length =
      ((rest.reverse.flatMap turns).map read ++ unit.turns.map read).length := by
    rw [length_append,length,length_map,Nat.zero_add]
  dsimp only
  rw [alone,whole,take_length,drop_length,append_nil,Nat.zero_add,← length,drop_left,take_left,ih,
    flatMap_cons,map_append]

namespace ContextManager
variable {engine : ContextTokenEngine} {manager : ContextManager} {setting : Setting} {budget : Nat}

private theorem unit_of_index {unit : (Nat × Nat) × Nat} (within : unit.1.2 ≤ manager.history.rows.length) :
    (manager.unit_of engine unit).turns.map RenderedTurn.index = List.range' unit.1.1 (unit.1.2-unit.1.1) := by
  unfold unit_of render_unit
  dsimp only
  rw [map_map,map_filterMap]
  have each : ∀ index ∈ range' unit.1.1 (unit.1.2-unit.1.1),
      (manager.render_row engine (decide (manager.protected_from ≤ unit.2)) index).map (RenderedTurn.index ∘ Prod.fst) = some index := by
    intro index member
    have bound := mem_range'_1.mp member
    have held : index < manager.history.rows.length := by omega
    unfold render_row
    rw [getElem?_eq_getElem held,Option.map_some]
    split <;> rfl
  rw [filterMap_congr each,filterMap_some]

/-- What the buffers hold of a selection. -/
structure Fills (buffers : RenderBuffers) (selection : Selection) : Prop where
  messages : buffers.kept_messages_rev = (selection.kept.reverse.flatMap turns).map message
  ranges : buffers.kept_unit_ranges = offsets 0 selection.kept.reverse
  indices : buffers.selected_indices_rev = (selection.kept.reverse.flatMap turns).map index
  remaining : buffers.remaining = selection.remaining
  used_tokens : buffers.used_tokens = selection.used_tokens
  budget_overflow : buffers.budget_overflow = selection.budget_overflow

theorem Fills.collect {units : List ((Nat × Nat) × Nat)}
    (within : ∀ unit ∈ units, unit.1.2 ≤ manager.history.rows.length)
    {buffers : RenderBuffers} {selection : Selection} (fills : Fills buffers selection) :
    Fills (manager.collect engine budget units buffers)
    (select budget (units.map (manager.unit_of engine)) selection) := by
  induction units generalizing buffers selection with
  | nil => exact fills
  | cons entry older ih =>
  obtain ⟨unit,unit_index⟩ := entry
  have later := fun {buffers selection} => @ih (fun other member => within other (mem_cons_of_mem _ member)) buffers selection
  have indices := @unit_of_index engine manager (unit,unit_index) (within (unit,unit_index) mem_cons_self)
  obtain ⟨messages,ranges,selected,remaining,used,overflow⟩ := fills
  rw [map_cons]
  unfold ContextManager.collect select
  dsimp only
  split
  next nothing => exact later ⟨by rw [take_left,messages],ranges,selected,remaining,used,overflow⟩
  next something =>
  rw [remaining,used,overflow]
  split
  next taken =>
    have length : buffers.kept_messages_rev.length = (selection.kept.reverse.flatMap turns).length := by rw [messages,length_map]
    refine later ⟨?_,?_,?_,rfl,rfl,rfl⟩
    · dsimp only
      rw [messages,reverse_cons,flatMap_append,map_append,flatMap_cons,flatMap_nil,append_nil]
    · dsimp only
      rw [length_append,length,length_map,reverse_cons,offsets_snoc,Nat.zero_add,ranges]
    · dsimp only
      rw [← indices,selected,reverse_cons,flatMap_append,map_append,flatMap_cons,flatMap_nil,append_nil]
  next left => exact ⟨by dsimp only; rw [take_left,messages],ranges,selected,rfl,rfl,rfl⟩

private theorem render_units_eq : manager.render_units engine =
    (unit_boundaries (manager.history.rows.map PartitionRow.message)).zipIdx.map (manager.unit_of engine) := rfl

private theorem unit_within {unit : (Nat × Nat) × Nat} (member : unit ∈ (unit_boundaries (manager.history.rows.map PartitionRow.message)).zipIdx) :
    unit.1.2 ≤ manager.history.rows.length := by
  have tiles := unit_boundaries_tiles (manager.history.rows.map PartitionRow.message)
  rw [length_map] at tiles
  exact tiles.within (fst_mem_of_mem_zipIdx member)

private theorem turns_of_item {indices : List Nat} {turn : RenderedTurn} (member : turn ∈ manager.turns_of engine setting budget indices) :
    manager.tag_id turn.index = turn.item := by
  obtain ⟨index,_,found⟩ := mem_filterMap.mp member
  rw [turn_of_index found]
  unfold turn_of render_row at found
  unfold tag_id
  cases held : manager.history.rows[index]? with
  | none =>
    rw [held] at found
    cases found
  | some row =>
  rw [held] at found
  simp only [Option.map_some,Option.some.injEq] at found
  rw [← found]
  split <;> rfl

/-- The selection of a render. -/
def selection (engine : ContextTokenEngine) (manager : ContextManager) (setting : Setting) (budget : Nat) : Selection :=
  select budget (manager.render_units engine).reverse
    ⟨[],budget-manager.fixed_tokens engine setting,manager.fixed_tokens engine setting,
      if budget < manager.fixed_tokens engine setting then some ⟨.FixedContext,manager.fixed_tokens engine setting,budget⟩ else none⟩

private theorem selection_fills :
    Fills (manager.collect engine budget
    (unit_boundaries (manager.history.rows.map PartitionRow.message)).zipIdx.reverse
    ⟨[],[],[],budget-manager.fixed_tokens engine setting,manager.fixed_tokens engine setting,
      if budget < manager.fixed_tokens engine setting then some ⟨.FixedContext,manager.fixed_tokens engine setting,budget⟩ else none⟩)
    (manager.selection engine setting budget) := by
  have within : ∀ unit ∈ (unit_boundaries (manager.history.rows.map PartitionRow.message)).zipIdx.reverse, unit.1.2 ≤ manager.history.rows.length :=
    fun unit member => unit_within (mem_reverse.mp member)
  unfold selection
  rw [render_units_eq,← map_reverse]
  exact Fills.collect within ⟨rfl,rfl,rfl,rfl,rfl,rfl⟩

private theorem selection_items {turn : RenderedTurn} (member : turn ∈ (manager.selection engine setting budget).kept.flatMap turns) :
    manager.tag_id turn.index = turn.item := by
  unfold selection at member
  rw [selected_eq] at member
  rcases mem_append.mp member with frozen | hot
  · exact turns_of_item frozen
  · exact turns_of_item hot

private theorem render_drained_eq : manager.render_drained engine setting budget = manager.render_projected engine setting budget := by
  obtain ⟨messages,ranges,indices,-,used_tokens,budget_overflow⟩ := @selection_fills engine manager setting budget
  have items : ((manager.selection engine setting budget).kept.flatMap turns).map (manager.tag_id ∘ index) =
      ((manager.selection engine setting budget).kept.flatMap turns).map item :=
    map_congr_left fun turn member => selection_items member
  have spent : ∀ (turns : List CoreMessage) start,
      turns.foldl (fun total message => total+engine.count_message message) start = start+(turns.map engine.count_message).sum := by
    intro turns start
    induction turns generalizing start with
    | nil => rfl
    | cons message rest ih => rw [foldl_cons,ih,map_cons,sum_cons,Nat.add_assoc]
  unfold render_drained render_projected
  dsimp only
  rw [messages,ranges,indices,used_tokens,budget_overflow,drain_units_offsets,drain_units_offsets,spent,takeWhile_map,map_map,items]
  simp only [length_map]
  rfl

end ContextManager

/-- What weighs something. -/
def weighs (unit : RenderUnit) : Bool := unit.tokens ≠ 0

/-- A selection takes the newest units but those that weigh nothing, up to one that is not protected. -/
theorem select_takes (budget : Nat) (units : List RenderUnit) (selection : Selection) :
    ∃ newer rest, units = newer ++ rest ∧
    (select budget units selection).kept = newer.reverse.filter weighs ++ selection.kept ∧
    ∀ unit older, rest = unit :: older → unit.is_protected = false := by
  induction units generalizing selection with
  | nil => exact ⟨[],[],rfl,rfl,nofun⟩
  | cons unit older ih =>
  unfold select
  split
  next nothing =>
    obtain ⟨newer,rest,split,kept,stops⟩ := ih selection
    refine ⟨unit :: newer,rest,by rw [split,cons_append],?_,stops⟩
    rw [kept,reverse_cons,filter_append]
    simp [weighs,nothing]
  next something =>
  split
  next taken =>
    obtain ⟨newer,rest,split,kept,stops⟩ := ih ⟨unit :: selection.kept,selection.remaining-unit.tokens,selection.used_tokens+unit.tokens,
      if unit.is_protected && budget < selection.used_tokens+unit.tokens && selection.budget_overflow.isNone then
        some ⟨.ProtectedTail,selection.used_tokens+unit.tokens,budget⟩
      else selection.budget_overflow⟩
    refine ⟨unit :: newer,rest,by rw [split,cons_append],?_,stops⟩
    rw [kept,reverse_cons,filter_append,append_assoc]
    simp [weighs,something]
  next left =>
  refine ⟨[],unit :: older,rfl,rfl,fun first others same => ?_⟩
  cases same
  simp only [Bool.or_eq_true,not_or,Bool.not_eq_true] at left
  exact left.1

/-- The books of a selection: what is left of the budget, and an overflow exactly when more than the budget is spent. -/
structure Selection.Sound (budget : Nat) (selection : Selection) : Prop where
  remaining : selection.remaining = budget-selection.used_tokens
  overflow : selection.budget_overflow.isSome = true ↔ budget < selection.used_tokens

theorem Selection.Sound.select {budget : Nat} {selection : Selection} (sound : selection.Sound budget)
    (units : List RenderUnit) :
    (Context.select budget units selection).Sound budget ∧
    selection.used_tokens ≤ (Context.select budget units selection).used_tokens := by
  induction units generalizing selection with
  | nil => exact ⟨sound,Nat.le_refl _⟩
  | cons unit older ih =>
  unfold Context.select
  split
  · exact ih sound
  next something =>
  split
  next taken =>
    obtain ⟨remaining,overflow⟩ := sound
    refine (ih ⟨?_,?_⟩).imp_right (Nat.le_trans (Nat.le_add_right _ _))
    · dsimp only
      omega
    dsimp only
    cases before : selection.budget_overflow with
    | some found =>
      have beyond : budget < selection.used_tokens := overflow.mp (by rw [before]; rfl)
      simp only [Option.isNone_some,Bool.and_false,Bool.false_eq_true,if_false,Option.isSome_some,true_iff]
      omega
    | none =>
    have within : ¬budget < selection.used_tokens := fun beyond => by
      have some_ := overflow.mpr beyond
      rw [before] at some_
      cases some_
    rw [Bool.or_eq_true,decide_eq_true_eq] at taken
    simp only [Option.isNone_none,Bool.and_true,Bool.and_eq_true,decide_eq_true_eq]
    split
    next spills => exact iff_of_true rfl spills.2
    next spills =>
    refine iff_of_false Bool.false_ne_true fun beyond => ?_
    rcases taken with safe | fits
    · exact spills ⟨safe,beyond⟩
    · omega
  next left => exact ⟨sound,Nat.le_refl _⟩

namespace ContextManager
variable {engine : ContextTokenEngine} {manager : ContextManager} {setting : Setting} {budget : Nat}

/-- The units a render selects are those of one suffix of the history that weigh something; no unit before it is protected. -/
theorem selection_suffix :
    ∃ older suffix, unit_boundaries (manager.history.rows.map PartitionRow.message) = older ++ suffix ∧
    (manager.selection engine setting budget).kept =
    ((suffix.zipIdx older.length).map (manager.unit_of engine)).filter weighs ∧
    ∀ unit ∈ older.zipIdx, unit.2 < manager.protected_from := by
  obtain ⟨newer,rest,split,kept,stops⟩ := select_takes budget (manager.render_units engine).reverse
    ⟨[],budget-manager.fixed_tokens engine setting,manager.fixed_tokens engine setting,
      if budget < manager.fixed_tokens engine setting then some ⟨.FixedContext,manager.fixed_tokens engine setting,budget⟩ else none⟩
  have units : manager.render_units engine = rest.reverse ++ newer.reverse := by
    rw [← reverse_append,← split,reverse_reverse]
  have counted : rest.length ≤ (unit_boundaries (manager.history.rows.map PartitionRow.message)).length := by
    have lengths := congrArg length units
    rw [render_units_eq,length_map,length_zipIdx,length_append,length_reverse] at lengths
    omega
  have joined := take_append_drop rest.length (unit_boundaries (manager.history.rows.map PartitionRow.message))
  have taken : ((unit_boundaries (manager.history.rows.map PartitionRow.message)).take rest.length).length = rest.length := by
    rw [length_take]
    omega
  generalize (unit_boundaries (manager.history.rows.map PartitionRow.message)).take rest.length = older at *
  generalize (unit_boundaries (manager.history.rows.map PartitionRow.message)).drop rest.length = suffix at *
  have parts : older.zipIdx.map (manager.unit_of engine) ++
    (suffix.zipIdx older.length).map (manager.unit_of engine) = rest.reverse ++ newer.reverse := by
    rw [← map_append,← units,render_units_eq,← joined,zipIdx_append,Nat.zero_add]
  have same : older.zipIdx.map (manager.unit_of engine) = rest.reverse ∧ (suffix.zipIdx older.length).map (manager.unit_of engine) = newer.reverse :=
    append_inj parts (by rw [length_map,length_zipIdx,length_reverse,taken])
  refine ⟨older,suffix,joined.symm,?_,fun unit member => ?_⟩
  · rw [same.2]
    exact kept.trans (append_nil _)
  have listed : manager.unit_of engine unit ∈ rest := by
    rw [← mem_reverse,← same.1]
    exact mem_map_of_mem member
  have bare : (manager.unit_of engine unit).is_protected = false := by
    have tail := @render_units_tail engine manager
    rw [units,Admitting.Tail,pairwise_append,pairwise_reverse] at tail
    cases left : rest with
    | nil =>
      rw [left] at listed
      cases listed
    | cons first others =>
    have stop := stops first others left
    rw [left] at listed tail
    rcases mem_cons.mp listed with here | before
    · rw [here]
      exact stop
    · by_contra safe
      have first_safe := (pairwise_cons.mp tail.1).1 _ before (by simpa using safe)
      rw [stop] at first_safe
      cases first_safe
  simpa [unit_of,render_unit] using bare

/-- The units of a suffix of the history that weigh something, and their turns. -/
def weighty (engine : ContextTokenEngine) (manager : ContextManager) (older suffix : List (Nat × Nat)) : List ((Nat × Nat) × Nat) :=
  (suffix.zipIdx older.length).filter fun unit => weighs (manager.unit_of engine unit)

def weighty_turns (engine : ContextTokenEngine) (manager : ContextManager) (older suffix : List (Nat × Nat)) : List RenderedTurn :=
  (manager.weighty engine older suffix).flatMap fun unit => (manager.unit_of engine unit).turns

/-- What a render owes. Its turns are the units of one suffix of the history that weigh something, with every row of them in order, behind
    an anchor at most; a protected unit is left out only when it weighs nothing; the identities stand beside the turns; an overflow is told
    exactly when the estimate is over the budget; a frozen prefix counts the anchor and the turns from before the frozen boundary. -/
structure Contract (engine : ContextTokenEngine) (manager : ContextManager) (budget : Nat)
    (older suffix : List (Nat × Nat)) (anchor : List CoreMessage)
    (rendered : InternalRenderedContext) : Prop where
  boundaries : unit_boundaries (manager.history.rows.map PartitionRow.message) = older ++ suffix
  rows : (manager.weighty_turns engine older suffix).map index =
    (manager.weighty engine older suffix).flatMap fun unit => List.range' unit.1.1 (unit.1.2-unit.1.1)
  one_anchor : anchor.length ≤ 1
  turns : rendered.turns = anchor ++ (manager.weighty_turns engine older suffix).map message
  sheltered : ∀ unit ∈ (unit_boundaries (manager.history.rows.map PartitionRow.message)).zipIdx, manager.protected_from ≤ unit.2 →
    (manager.unit_of engine unit).tokens ≠ 0 → unit ∈ manager.weighty engine older suffix
  items : rendered.turn_items = List.replicate anchor.length 0 ++ ((manager.weighty_turns engine older suffix).map index).map manager.tag_id
  aligned : rendered.turn_items.length = rendered.turns.length
  overflow : rendered.budget_overflow.isSome = true ↔ budget < rendered.estimated_tokens
  frozen : ∀ count, rendered.frozen_prefix_len = some count →
    count = anchor.length+((manager.weighty_turns engine older suffix).filter fun turn => turn.index < manager.frozen_history_len).length

private theorem selection_sound : (manager.selection engine setting budget).Sound budget := by
  refine (Selection.Sound.select ⟨rfl,?_⟩ _).1
  dsimp only
  split
  next beyond => exact iff_of_true rfl beyond
  next within => exact iff_of_false Bool.false_ne_true within

private theorem selection_frozen :
    ((manager.selection engine setting budget).kept.flatMap turns).takeWhile
    (fun turn => turn.index < manager.frozen_history_len) =
    ((manager.selection engine setting budget).kept.flatMap turns).filter fun turn => turn.index < manager.frozen_history_len := by
  unfold selection
  rw [selected_eq,frozen_selected,filter_append]
  have before : (manager.frozen_turns engine setting budget).filter (fun turn => turn.index < manager.frozen_history_len) =
      manager.frozen_turns engine setting budget :=
    filter_eq_self.mpr fun turn member => decide_eq_true (mem_range.mp (turns_of_source member))
  have behind : (manager.hot_turns engine setting budget).filter (fun turn => turn.index < manager.frozen_history_len) = [] := by
    refine filter_eq_nil_iff.mpr fun turn member => ?_
    have bound := (mem_range'_1.mp (turns_of_source member)).1
    simpa using bound
  rw [before,behind,append_nil]

private theorem resume_anchor_length (turns : List CoreMessage) : (resume_anchor turns).length ≤ 1 := by
  unfold resume_anchor
  split
  · exact Nat.le_refl 1
  · exact Nat.zero_le 1

/-- Every render keeps its contract. -/
theorem render_contract (engine : ContextTokenEngine) (manager : ContextManager) (setting : Setting) (budget : Nat) :
    ∃ older suffix anchor, Contract engine manager budget older suffix anchor
    (manager.render_drained engine setting budget) := by
  obtain ⟨older,suffix,boundaries,kept,bare⟩ := @selection_suffix engine manager setting budget
  have selected : (manager.selection engine setting budget).kept.flatMap turns = manager.weighty_turns engine older suffix := by
    rw [kept,filter_map,flatMap_map]
    rfl
  have within : ∀ unit ∈ manager.weighty engine older suffix, unit ∈ (unit_boundaries (manager.history.rows.map PartitionRow.message)).zipIdx := by
    intro unit member
    rw [boundaries,zipIdx_append,Nat.zero_add]
    exact mem_append_right _ (mem_filter.mp member).1
  have turns : (manager.render_projected engine setting budget).turns =
      resume_anchor ((manager.weighty_turns engine older suffix).map message) ++ (manager.weighty_turns engine older suffix).map message := by
    rw [← selected,← normalize_eq]
    rfl
  have anchored : ( normalize_turn_prefix ((manager.weighty_turns engine older suffix).map message)).length-
      (manager.weighty_turns engine older suffix).length =
      (resume_anchor ((manager.weighty_turns engine older suffix).map message)).length := by
    rw [normalize_eq,length_append,length_map]
    omega
  have items : (manager.render_projected engine setting budget).turn_items =
      replicate (resume_anchor ((manager.weighty_turns engine older suffix).map message)).length 0 ++
        ((manager.weighty_turns engine older suffix).map index).map manager.tag_id := by
    have read : ((manager.selection engine setting budget).kept.flatMap RenderUnit.turns).map item =
        ((manager.selection engine setting budget).kept.flatMap RenderUnit.turns).map (manager.tag_id ∘ index) :=
      (map_congr_left fun turn member => selection_items member).symm
    rw [selected] at read
    rw [map_map,← read,← anchored,← selected]
    rfl
  refine ⟨older,suffix,resume_anchor ((manager.weighty_turns engine older suffix).map message),?_⟩
  rw [render_drained_eq]
  refine ⟨boundaries,?_,resume_anchor_length _,turns,?_,items,?_,?_,?_⟩
  · unfold weighty_turns
    rw [map_flatMap]
    exact flatMap_congr fun unit member => unit_of_index (unit_within (within unit member))
  · intro unit member safe heavy
    rw [boundaries,zipIdx_append,Nat.zero_add] at member
    rcases mem_append.mp member with before | there
    · exact absurd safe (Nat.not_le.mpr (bare unit before))
    · exact mem_filter.mpr ⟨there,by simpa [weighs] using heavy⟩
  · rw [turns,items]
    simp only [length_append,length_replicate,length_map]
  · -- The anchor alone can bring the estimate over the budget; then the overflow is told at the end.
    have sound := @selection_sound engine manager setting budget
    unfold selection at sound
    unfold render_projected
    dsimp only
    generalize select budget _ _ = chosen at sound ⊢
    split
    next beyond =>
      refine iff_of_true ?_ beyond
      split
      · rfl
      · split <;> rfl
    next within =>
      exact iff_of_false (fun told => within (Nat.lt_of_lt_of_le (sound.overflow.mp told) (Nat.le_add_right _ _))) within
  intro count counted
  have frozen := @selection_frozen engine manager setting budget
  unfold selection at frozen selected
  unfold render_projected at counted
  dsimp only at counted
  generalize select budget _ _ = chosen at counted selected frozen
  rw [selected] at counted frozen
  rw [frozen,anchored] at counted
  split at counted
  next distinct =>
    rw [← Option.some.inj counted,Nat.add_comm]
  next => cases counted

end ContextManager

end Deepstrike.Context

import Deepstrike.Renderer

/-!
A render row by row: which rows fit the allowance, which stand in the protected tail and which results are
previews. The turns before the frozen boundary depend on nothing else.
-/
namespace Deepstrike.Context
open Wire Admitting List RenderUnit RenderedTurn

/-- The unit a row stands in, and the newer ones. -/
def unit_at : List RenderUnit → Nat → Option (RenderUnit × List RenderUnit)
  | [],_ => none
  | unit :: newer,index => if index < unit.stop then some (unit,newer) else unit_at newer index

/-- Whether the unit of a row is rendered: it weighs something, and is protected or fits with all that is newer. -/
def fitting (room : Nat) (units : List RenderUnit) (index : Nat) : Bool :=
  (unit_at units index).any fun found => fits tokens is_protected room found.2 found.1

def sheltering (units : List RenderUnit) (index : Nat) : Bool := (unit_at units index).any fun found => found.1.is_protected

section
variable (render : Bool → Nat → Option RenderedTurn)

/-- Units that follow one another, each with the turns of its rows. -/
def Laid : Nat → List RenderUnit → Nat → Prop
  | start,[],stop => start = stop
  | start,unit :: newer,stop => start < unit.stop ∧
    unit.turns = (List.range' start (unit.stop-start)).filterMap (render unit.is_protected) ∧ Laid unit.stop newer stop

variable {render} {start stop room : Nat} {units : List RenderUnit}

private theorem Laid.le (laid : Laid render start units stop) : start ≤ stop := by
  induction units generalizing start with
  | nil => exact Nat.le_of_eq laid
  | cons unit newer ih => exact Nat.le_of_lt (Nat.lt_of_lt_of_le laid.1 (ih laid.2.2))

/-- The turns of the units that are kept are those of the rows whose unit fits. -/
theorem Laid.turns (laid : Laid render start units stop) : (kept tokens is_protected room units).flatMap turns =
    ((List.range' start (stop-start)).filter (fitting room units)).filterMap fun index =>
    render (sheltering units index) index := by
  induction units generalizing start with
  | nil =>
    obtain rfl : start = stop := laid
    simp [kept]
  | cons unit newer ih =>
  obtain ⟨more,turns,rest⟩ := laid
  have reaches := rest.le
  have split : range' start (stop-start) = range' start (unit.stop-start) ++ range' unit.stop (stop-unit.stop) := by
    have length : stop-start = (unit.stop-start)+(stop-unit.stop) := by omega
    have joined : unit.stop = start+(unit.stop-start) := by omega
    rw [length,← range'_append_1]
    rw [← joined]
  have here : ∀ index ∈ range' start (unit.stop-start), unit_at (unit :: newer) index = some (unit,newer) := by
    intro index member
    have bound := (mem_range'_1.mp member).2
    exact if_pos (by omega)
  have there : ∀ index ∈ range' unit.stop (stop-unit.stop), unit_at (unit :: newer) index = unit_at newer index := by
    intro index member
    have bound := (mem_range'_1.mp member).1
    exact if_neg (by omega)
  have old : ((range' unit.stop (stop-unit.stop)).filter (fitting room (unit :: newer))).filterMap
      (fun index => render (sheltering (unit :: newer) index) index) =
      ((range' unit.stop (stop-unit.stop)).filter (fitting room newer)).filterMap fun index => render (sheltering newer index) index := by
    rw [filter_congr fun index member => show fitting room (unit :: newer) index = fitting room newer index by
      rw [fitting,there index member,fitting]]
    refine filterMap_congr fun index member => ?_
    rw [sheltering,there index (mem_filter.mp member).1,sheltering]
  have first : ((range' start (unit.stop-start)).filter (fitting room (unit :: newer))).filterMap
      (fun index => render (sheltering (unit :: newer) index) index) =
      if fits tokens is_protected room newer unit then unit.turns else [] := by
    rw [filter_congr fun index member => show fitting room (unit :: newer) index =
      fits tokens is_protected room newer unit by rw [fitting,here index member,Option.any_some]]
    split
    next fit =>
      rw [fit,filter_true,turns]
      refine filterMap_congr fun index member => ?_
      rw [sheltering,here index member,Option.any_some]
    next unfit =>
      simp [unfit]
  rw [split,filter_append,filterMap_append,old,first,← ih rest,kept]
  split
  · rfl
  · rfl

end

namespace ContextManager
variable {engine : ContextTokenEngine} {manager : ContextManager} {setting : Setting} {budget : Nat}

/-- The turn of a row, as it is rendered with or without protection. -/
def turn_of (engine : ContextTokenEngine) (manager : ContextManager) (is_protected : Bool) (index : Nat) : Option RenderedTurn :=
  (manager.render_row engine is_protected index).map Prod.fst

variable {is_protected : Bool} {index : Nat} {turn : RenderedTurn} {indices : List Nat}

theorem turn_of_index (found : manager.turn_of engine is_protected index = some turn) :
    turn.index = index := by
  unfold turn_of render_row at found
  simp only [Option.map_map,Option.map_eq_some_iff,Function.comp_apply] at found
  obtain ⟨row,_,rfl⟩ := found
  split <;> rfl

/-- Whether a row fits what the budget leaves. -/
def admitted (engine : ContextTokenEngine) (manager : ContextManager) (setting : Setting) (budget index : Nat) : Bool :=
  fitting (budget-manager.fixed_tokens engine setting) (manager.render_units engine) index

/-- Whether a row stands in the protected tail. -/
def shielded (engine : ContextTokenEngine) (manager : ContextManager) (index : Nat) : Bool := sheltering (manager.render_units engine) index

def turns_of (engine : ContextTokenEngine) (manager : ContextManager) (setting : Setting) (budget : Nat)
    (indices : List Nat) : List RenderedTurn :=
  (indices.filter (manager.admitted engine setting budget)).filterMap fun index =>
  manager.turn_of engine (manager.shielded engine index) index

/-- The turns from before the frozen boundary, and those behind it. -/
def frozen_turns (engine : ContextTokenEngine) (manager : ContextManager) (setting : Setting) (budget : Nat) : List RenderedTurn :=
  manager.turns_of engine setting budget (List.range manager.frozen_history_len)

def hot_turns (engine : ContextTokenEngine) (manager : ContextManager) (setting : Setting) (budget : Nat) : List RenderedTurn :=
  manager.turns_of engine setting budget (List.range' manager.frozen_history_len (manager.history.rows.length-manager.frozen_history_len))

private theorem select_kept (units : List RenderUnit) (selection : Selection) :
    (select budget units selection).kept = fitted RenderUnit.tokens RenderUnit.is_protected units selection.remaining selection.kept := by
  induction units generalizing selection with
  | nil => rfl
  | cons unit older ih =>
  unfold select fitted
  split
  · exact ih selection
  · split
    · exact ih _
    · rfl

theorem render_units_tail : Tail RenderUnit.is_protected (manager.render_units engine) := by
  unfold render_units Tail
  dsimp only
  rw [pairwise_map]
  have order : ((unit_boundaries (manager.history.rows.map PartitionRow.message)).zipIdx.map Prod.snd).Pairwise (· < ·) := by
    rw [zipIdx_map_snd]
    exact pairwise_lt_range'
  refine (pairwise_map.mp order).imp fun before safe => ?_
  simp only [render_unit,decide_eq_true_eq] at safe ⊢
  exact Nat.le_trans safe (Nat.le_of_lt before)

private theorem laid_of_tiles {start stop : Nat} {ranges : List (Nat × Nat)} (tiles : Tiles start ranges stop) (first protected_from : Nat) :
    Laid (manager.turn_of engine) start
      ((ranges.zipIdx first).map fun range => manager.render_unit engine (protected_from ≤ range.2) range.1) stop := by
  induction ranges generalizing start first with
  | nil => exact tiles
  | cons range rest ih =>
  obtain ⟨rfl,more,later⟩ := tiles
  refine ⟨more,?_,ih later (first+1)⟩
  simp only [render_unit,map_filterMap]
  rfl

private theorem render_units_laid : Laid (manager.turn_of engine) 0 (manager.render_units engine) manager.history.rows.length := by
  have tiles := unit_boundaries_tiles (manager.history.rows.map PartitionRow.message)
  rw [length_map] at tiles
  exact laid_of_tiles tiles 0 _

private theorem turn_of_none (behind : manager.history.rows.length ≤ index) : manager.turn_of engine is_protected index = none := by
  unfold turn_of render_row
  rw [getElem?_eq_none behind]
  rfl

private theorem turns_of_append (first second : List Nat) :
    manager.turns_of engine setting budget (first ++ second) = manager.turns_of engine setting budget first ++
    manager.turns_of engine setting budget second := by
  unfold turns_of
  rw [filter_append,filterMap_append]

private theorem turns_of_behind (behind : ∀ index ∈ indices, manager.history.rows.length ≤ index) :
    manager.turns_of engine setting budget indices = [] := by
  unfold turns_of
  rw [filterMap_eq_nil_iff]
  exact fun index member => turn_of_none (behind index (mem_filter.mp member).1)

/-- The selection is the frozen turns and the hot ones that fit. -/
theorem selected_eq (overflow : Option ContextBudgetOverflow) :
    (select budget (manager.render_units engine).reverse
      ⟨[],budget-manager.fixed_tokens engine setting,manager.fixed_tokens engine setting,overflow⟩).kept.flatMap turns =
      manager.frozen_turns engine setting budget ++ manager.hot_turns engine setting budget := by
  have all : (select budget (manager.render_units engine).reverse
      ⟨[],budget-manager.fixed_tokens engine setting,manager.fixed_tokens engine setting,overflow⟩).kept.flatMap turns =
      manager.turns_of engine setting budget (range manager.history.rows.length) := by
    rw [select_kept,admit_eq _ render_units_tail,render_units_laid.turns,Nat.sub_zero,range_eq_range']
    rfl
  rw [all]
  unfold frozen_turns hot_turns
  rw [← turns_of_append]
  by_cases within : manager.frozen_history_len ≤ manager.history.rows.length
  · have joined : manager.history.rows.length = manager.frozen_history_len+(manager.history.rows.length-manager.frozen_history_len) := by omega
    rw [range_eq_range',range_eq_range']
    nth_rewrite 1 [joined]
    rw [← range'_append_1,Nat.zero_add]
  have nothing : manager.history.rows.length-manager.frozen_history_len = 0 := by omega
  have joined : manager.frozen_history_len = manager.history.rows.length+(manager.frozen_history_len-manager.history.rows.length) := by omega
  rw [nothing,range'_zero,append_nil,range_eq_range',range_eq_range']
  nth_rewrite 1 [joined]
  have behind : manager.turns_of engine setting budget
      (range' (0+manager.history.rows.length) (manager.frozen_history_len-manager.history.rows.length)) = [] := by
    refine turns_of_behind fun index member => ?_
    have bound := (mem_range'_1.mp member).1
    omega
  rw [← range'_append_1,turns_of_append,behind,append_nil]

theorem turns_of_source (member : turn ∈ manager.turns_of engine setting budget indices) :
    turn.index ∈ indices := by
  obtain ⟨index,kept,found⟩ := mem_filterMap.mp member
  rw [turn_of_index found]
  exact (mem_filter.mp kept).1

/-- What is selected before the frozen length is the frozen prefix. -/
theorem frozen_selected :
    (manager.frozen_turns engine setting budget ++ manager.hot_turns engine setting budget).takeWhile
    (fun turn => turn.index < manager.frozen_history_len) = manager.frozen_turns engine setting budget := by
  rw [takeWhile_append_of_pos]
  · cases hot : manager.hot_turns engine setting budget with
    | nil => rw [takeWhile_nil,append_nil]
    | cons turn rest =>
    have behind : manager.frozen_history_len ≤ turn.index := by
      have member : turn ∈ manager.hot_turns engine setting budget := hot ▸ mem_cons_self
      exact (mem_range'_1.mp (turns_of_source member)).1
    rw [takeWhile_cons_of_neg (by simpa using behind),append_nil]
  · intro turn member
    exact decide_eq_true (mem_range.mp (turns_of_source member))

end ContextManager

/-- The anchor before turns that do not begin with the user. -/
def resume_anchor (turns : List CoreMessage) : List CoreMessage :=
  if turns.head?.any fun first => first.role = .Assistant || first.role = .Tool then [⟨.User,.Text "[context resumed]",[]⟩] else []

theorem normalize_eq (turns : List CoreMessage) : normalize_turn_prefix turns = resume_anchor turns ++ turns := by
  unfold normalize_turn_prefix resume_anchor
  cases turns with
  | nil => rfl
  | cons first rest =>
  rw [head?_cons,Option.any_some]
  dsimp only
  split
  · rfl
  · rfl

namespace ContextManager
variable {engine : ContextTokenEngine} {manager : ContextManager} {setting : Setting} {budget : Nat}

/-- The frozen turns of a render, with the anchor before them. -/
def frozen_prefix (engine : ContextTokenEngine) (manager : ContextManager) (setting : Setting) (budget : Nat) : List CoreMessage :=
  let turns := (manager.frozen_turns engine setting budget).map message
  resume_anchor turns ++ turns

/-- A render that has a frozen prefix begins with the frozen turns, and counts them. -/
theorem render_frozen : ∃ hot, (manager.frozen_turns engine setting budget ≠ [] →
      (manager.render_projected engine setting budget).turns = manager.frozen_prefix engine setting budget ++ hot) ∧
    ∀ count, (manager.render_projected engine setting budget).frozen_prefix_len = some count →
      manager.frozen_turns engine setting budget ≠ [] ∧
      count = (manager.frozen_prefix engine setting budget).length := by
  have begins : manager.frozen_turns engine setting budget ≠ [] →
      resume_anchor ((manager.frozen_turns engine setting budget ++ manager.hot_turns engine setting budget).map message) =
        resume_anchor ((manager.frozen_turns engine setting budget).map message) := by
    intro some_
    cases frozen : manager.frozen_turns engine setting budget with
    | nil => exact absurd frozen some_
    | cons turn rest => rfl
  refine ⟨(manager.hot_turns engine setting budget).map message,fun some_ => ?_,fun count counted => ?_⟩
  · unfold render_projected frozen_prefix
    dsimp only
    rw [selected_eq,normalize_eq,begins some_,map_append,append_assoc]
  unfold render_projected at counted
  dsimp only at counted
  rw [selected_eq,frozen_selected,normalize_eq] at counted
  split at counted
  next distinct =>
    simp only [Bool.and_eq_true,decide_eq_true_eq] at distinct
    have some_ : manager.frozen_turns engine setting budget ≠ [] := length_pos_iff.mp distinct.1
    refine ⟨some_,?_⟩
    rw [Option.some.injEq] at counted
    rw [← counted,begins some_]
    unfold frozen_prefix
    simp only [length_append,length_map]
    omega
  next => cases counted

end ContextManager

end Deepstrike.Context

import Mathlib.Data.List.Forall2
import Mathlib.Data.List.Perm.Basic

/-!
Tables of which some rows are shown. What is shown stays as long as each row keeps its place, its text and
whether it is shown, and rows come and go only among those that are not.
-/
namespace Deepstrike.Renderings
open List

/-- The first row a test selects is changed. -/
def modifyFirst {α : Type} (selects : α → Bool) (change : α → α) : List α → List α
  | [] => []
  | row :: rest => if selects row then change row :: rest else row :: modifyFirst selects change rest

section
variable {α β : Type} {related : α → α → Prop} {rows after : List α}

variable {change : α → α} {selects : α → Bool}

theorem forall₂_map (each : ∀ row ∈ rows, related row (change row)) : List.Forall₂ related rows (rows.map change) := by
  induction rows with
  | nil => exact .nil
  | cons row rest ih =>
    exact .cons (each row mem_cons_self) (ih fun other member => each other (mem_cons_of_mem _ member))

theorem forall₂_same (same : ∀ row, related row row) (rows : List α) : List.Forall₂ related rows rows := by
  induction rows with
  | nil => exact .nil
  | cons row rest ih => exact .cons (same row) ih

theorem forall₂_modifyFirst (same : ∀ row, related row row)
    (each : ∀ row ∈ rows, selects row → related row (change row)) :
    List.Forall₂ related rows (modifyFirst selects change rows) := by
  induction rows with
  | nil => exact .nil
  | cons row rest ih =>
  unfold modifyFirst
  by_cases selected : selects row
  · rw [if_pos selected]
    exact .cons (each row mem_cons_self selected) (forall₂_same same rest)
  · rw [if_neg selected]
    exact .cons (same row) (ih fun other member => each other (mem_cons_of_mem _ member))

theorem length_modifyFirst (rows : List α) : (modifyFirst selects change rows).length = rows.length := by
  induction rows with
  | nil => rfl
  | cons row rest ih =>
  unfold modifyFirst
  split <;> simp [ih]

theorem modifyFirst_of_none (none_ : ∀ row ∈ rows, ¬selects row) : modifyFirst selects change rows = rows := by
  induction rows with
  | nil => rfl
  | cons row rest ih =>
  unfold modifyFirst
  rw [if_neg (none_ row mem_cons_self),ih fun other member => none_ other (mem_cons_of_mem _ member)]

/-- Where one row at most is selected, modifying the first is a map. -/
theorem modifyFirst_eq_map (one : rows.Pairwise fun first second => selects first → ¬selects second) :
    modifyFirst selects change rows = rows.map fun row => if selects row then change row else row := by
  induction rows with
  | nil => rfl
  | cons row rest ih =>
  obtain ⟨here,later⟩ := pairwise_cons.mp one
  unfold modifyFirst
  rw [map_cons]
  by_cases selected : selects row
  · rw [if_pos selected,if_pos selected]
    congr 1
    rw [map_congr_left fun other member => if_neg (here other member selected)]
    exact (map_id' rest).symm
  · rw [if_neg selected,if_neg selected,ih later]

theorem forall₂_modify {index : Nat} (same : ∀ row, related row row) (each : ∀ row ∈ rows, related row (change row)) :
    List.Forall₂ related rows (rows.modify index change) := by
  induction rows generalizing index with
  | nil => simp
  | cons row rest ih =>
  cases index with
  | zero => simpa using List.Forall₂.cons (each row mem_cons_self) (forall₂_same same rest)
  | succ index =>
  rw [modify_succ_cons]
  exact .cons (same row) (ih fun other member => each other (mem_cons_of_mem _ member))

theorem forall₂_source (each : List.Forall₂ related rows after) {row : α} (member : row ∈ after) :
    ∃ older ∈ rows, related older row := by
  induction each with
  | nil => cases member
  | cons first _ ih =>
  rcases mem_cons.mp member with rfl | inside
  · exact ⟨_,mem_cons_self,first⟩
  · obtain ⟨older,held,same⟩ := ih inside
    exact ⟨older,mem_cons_of_mem _ held,same⟩

end

section
variable {α β : Type} (shown : α → Bool) (text : α → β)

/-- What a table shows. -/
def visible (rows : List α) : List β := (rows.filter shown).map text

/-- A row shows what another shows, or neither shows anything. -/
def Alike (first second : α) : Prop := shown second = shown first ∧ (shown first → text second = text first)

variable {shown text} {rows after : List α}

theorem visible_alike (each : List.Forall₂ (Alike shown text) rows after) :
    visible shown text after = visible shown text rows := by
  induction each with
  | nil => rfl
  | @cons first second _ _ alike _ ih =>
  obtain ⟨same,told⟩ := alike
  unfold visible at ih ⊢
  by_cases here : shown first = true
  · rw [filter_cons_of_pos here,filter_cons_of_pos (same.trans here),map_cons,map_cons,told here,ih]
  · rw [filter_cons_of_neg here,filter_cons_of_neg (same ▸ here),ih]

theorem visible_concat {row : α} (unseen : shown row = false) :
    visible shown text (rows ++ [row]) = visible shown text rows := by
  unfold visible
  rw [filter_append]
  simp [unseen]

theorem visible_eraseIdx {index : Nat} {row : α} (held : rows[index]? = some row) (unseen : shown row = false) :
    visible shown text (rows.eraseIdx index) = visible shown text rows := by
  induction rows generalizing index with
  | nil => cases held
  | cons first rest ih =>
  cases index with
  | zero =>
    cases held
    unfold visible
    rw [eraseIdx_zero,tail_cons,filter_cons_of_neg (by simp [unseen])]
  | succ index =>
  have held' : rest[index]? = some row := by simpa using held
  have rest_same := ih held'
  unfold visible at rest_same ⊢
  rw [eraseIdx_cons_succ]
  by_cases here : shown first = true
  · rw [filter_cons_of_pos here,filter_cons_of_pos here,map_cons,map_cons,rest_same]
  · rw [filter_cons_of_neg here,filter_cons_of_neg here,rest_same]

theorem visible_split (rows : List α) :
    (visible shown text rows ++ visible (fun row => !shown row) text rows).Perm (rows.map text) := by
  unfold visible
  rw [← map_append]
  exact (filter_append_perm shown rows).map text

end

end Deepstrike.Renderings

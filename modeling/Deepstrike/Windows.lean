import Deepstrike.Anchoring

/-!
The window of a run between two anchorings of the frozen boundary: any two of its renders within one budget
begin with the same frozen turns.
-/
namespace Deepstrike.Context
open Wire ContextManager List Grown

/-- The steps of a context that a render shows. -/
inductive ViewOp where
  | content (op : ContextOp)
  | recompute_handle_residency (pressed : Bool)
  | absorb_cleared_tool_results (call_ids : List String)
  | set_payload_residency (source : String) (kind : HandleKind) (tokens : Nat) (residency : Residency)
  | compress_with_target (action : PressureAction) (target_tokens non_history_tokens : Nat) (preserved_refs : List String)
  | renew_with (renewed : Partition)
  | absorb_provider_summary (through : ItemId) (summary_tokens : Nat)
  | tell (setting : Setting)

variable (W : Wording) (pipeline : CompressionPipeline)

/-- What replaces the history has its own steps here. -/
def ContextManager.advance (manager : ContextManager) : ViewOp → ContextManager
  | .content op => if op.replaces then manager else manager.step W op
  | .recompute_handle_residency pressed => manager.recompute_handle_residency pressed
  | .absorb_cleared_tool_results call_ids => manager.absorb_cleared_tool_results call_ids
  | .set_payload_residency source kind tokens residency => (manager.set_payload_residency source kind tokens residency).2
  | .compress_with_target action target_tokens non_history_tokens preserved_refs =>
    (manager.compress_with_target pipeline action target_tokens non_history_tokens preserved_refs).2
  | .renew_with renewed => manager.renew_with renewed
  | .absorb_provider_summary through summary_tokens => (manager.absorb_provider_summary through summary_tokens).2
  | .tell _ => manager

def View.step (view : View) (op : ViewOp) : View :=
  ⟨view.manager.advance W pipeline op,match op with | .tell setting => setting | _ => view.setting⟩

/-- A renewal, a provider's summary, and a compaction that reports a break of the prefix. -/
def ContextManager.reanchors (manager : ContextManager) : ViewOp → Bool
  | .compress_with_target action target_tokens non_history_tokens preserved_refs =>
    (manager.compress_with_target pipeline action target_tokens non_history_tokens preserved_refs).1.isSome
  | .renew_with _ => true
  | .absorb_provider_summary through summary_tokens => (manager.absorb_provider_summary through summary_tokens).1
  | _ => false

/-- A rollback does not reach into the frozen part. -/
def ContextManager.Behind (manager : ContextManager) : ViewOp → Prop
  | .content op => ∀ len, op.rolls_back = some len → manager.frozen_history_len ≤ len
  | _ => True

/-- A context that was reached from an empty one, or from one whose checkpoint was checked; no rollback reached
    into its frozen part. -/
inductive Sighted : View → Prop where
  | start (config : ContextConfig) (setting : Setting) : Sighted ⟨.new config,setting⟩
  | restored (manager : ContextManager) (setting : Setting) (checked : manager.frozen_history_len ≤ manager.history.rows.length) :
      Sighted ⟨manager,setting⟩
  | step {view : View} (op : ViewOp) (sighted : Sighted view) (behind : view.manager.Behind op) : Sighted (view.step W pipeline op)

/-- A run without an anchoring, in which no step disturbs what is frozen. -/
inductive Window (engine : ContextTokenEngine) (budget : Nat) (first : View) : View → Prop where
  | refl : Window engine budget first first
  | step {later : View} (op : ViewOp) (before : Window engine budget first later) (inner : later.manager.reanchors pipeline op = false)
      (behind : later.manager.Behind op) (undisturbed : Undisturbed engine budget later (later.step W pipeline op)) :
      Window engine budget first (later.step W pipeline op)

variable {W pipeline}

section
variable {manager : ContextManager} {op : ViewOp}

private theorem set_payload_residency_grown (manager : ContextManager) (source : String) (kind : HandleKind) (tokens : Nat) (residency : Residency) :
    Grown manager (manager.set_payload_residency source kind tokens residency).2 := by
  unfold set_payload_residency
  split
  · exact beside rfl rfl rfl
  · exact beside rfl rfl rfl

private theorem recompute_handle_residency_grown (manager : ContextManager) (pressed : Bool) :
    Grown manager (manager.recompute_handle_residency pressed) := by
  unfold recompute_handle_residency
  split
  · exact refl manager
  · exact beside rfl rfl rfl

/-- An operation that anchors anew freezes the whole history. -/
theorem reanchored (anchored : manager.reanchors pipeline op = true) :
    (manager.advance W pipeline op).frozen_history_len = (manager.advance W pipeline op).history.rows.length := by
  cases op with
  | compress_with_target action target_tokens non_history_tokens preserved_refs =>
    have broken : (pipeline.compress manager.history action target_tokens non_history_tokens preserved_refs).prefix_invalidated_at.isSome = true :=
      anchored
    unfold advance compress_with_target
    dsimp only
    rw [if_pos broken]
  | renew_with renewed => rfl
  | absorb_provider_summary through summary_tokens =>
    unfold reanchors absorb_provider_summary at anchored
    unfold advance absorb_provider_summary
    dsimp only at anchored ⊢
    split
    next missing =>
      rw [missing] at anchored
      cases anchored
    next => rfl
  | content op => cases anchored
  | recompute_handle_residency pressed => cases anchored
  | absorb_cleared_tool_results call_ids => cases anchored
  | set_payload_residency source kind tokens residency => cases anchored
  | tell setting => cases anchored

/-- Every other step leaves the boundary, and rows only join the history, unless the step rolls back. -/
theorem advance_grown (inner : manager.reanchors pipeline op = false)
    (forward : ∀ len, op ≠ .content (.truncate_history len)) :
    Grown manager (manager.advance W pipeline op) := by
  cases op with
  | content op =>
    have drops : op.rolls_back = none := by
      cases op with
      | truncate_history len => exact absurd rfl (forward len)
      | _ => rfl
    unfold advance
    dsimp only
    split
    next => exact refl manager
    next stays => exact step_grown manager op (by simpa using stays) drops
  | recompute_handle_residency pressed => exact recompute_handle_residency_grown manager pressed
  | absorb_cleared_tool_results call_ids => exact beside rfl rfl rfl
  | set_payload_residency source kind tokens residency => exact set_payload_residency_grown manager source kind tokens residency
  | compress_with_target action target_tokens non_history_tokens preserved_refs =>
    have quiet : (manager.compress_with_target pipeline action target_tokens non_history_tokens preserved_refs).1 = none := by
      simpa [reanchors] using inner
    have same := compress_with_target_safe quiet
    unfold advance
    dsimp only
    rw [same]
    exact refl manager
  | renew_with renewed => cases inner
  | absorb_provider_summary through summary_tokens =>
    unfold reanchors absorb_provider_summary at inner
    unfold advance absorb_provider_summary
    dsimp only at inner ⊢
    split
    next => exact refl manager
    next position found =>
    rw [found] at inner
    cases inner
  | tell setting => exact refl manager

private theorem advance_same (inner : manager.reanchors pipeline op = false) (behind : manager.Behind op)
    (within : manager.frozen_history_len ≤ manager.history.rows.length) :
    SameRows manager (manager.advance W pipeline op) ∧
      (manager.advance W pipeline op).frozen_history_len ≤ (manager.advance W pipeline op).history.rows.length := by
  by_cases rolls : ∃ len, op = .content (.truncate_history len)
  · obtain ⟨len,rfl⟩ := rolls
    exact truncate_history_same within (behind len rfl)
  · exact (advance_grown inner fun len same => rolls ⟨len,same⟩).same within

end

section
variable {engine : ContextTokenEngine} {budget : Nat} {first later : View}

theorem Sighted.within (sighted : Sighted W pipeline first) :
    first.manager.frozen_history_len ≤ first.manager.history.rows.length := by
  induction sighted with
  | start config setting => exact Nat.le_refl 0
  | restored manager setting checked => exact checked
  | step op before behind ih =>
  rename_i view
  cases anchored : view.manager.reanchors pipeline op with
  | false => exact (advance_same anchored behind ih).2
  | true => exact Nat.le_of_eq (reanchored anchored)

/-- Inside a window the frozen turns stay as they are. -/
theorem Window.frozen (window : Window W pipeline engine budget first later)
    (within : first.manager.frozen_history_len ≤ first.manager.history.rows.length) :
    later.manager.frozen_history_len ≤ later.manager.history.rows.length ∧
      later.manager.frozen_turns engine later.setting budget =
      first.manager.frozen_turns engine first.setting budget := by
  induction window with
  | refl => exact ⟨within,rfl⟩
  | step op before inner behind undisturbed ih =>
  obtain ⟨bound,turns⟩ := ih
  obtain ⟨same,still⟩ := @advance_same W pipeline _ op inner behind bound
  exact ⟨still,(frozen_turns_eq same undisturbed).trans turns⟩

/-- The frozen part lies within the history in every reached context, and over a window all renders within one
    budget begin with the same frozen turns. -/
theorem frozen_prefix_stable (sighted : Sighted W pipeline first) :
    first.manager.frozen_history_len ≤ first.manager.history.rows.length ∧
    ∀ budget later, Window W pipeline engine budget first later →
      later.manager.frozen_history_len ≤ later.manager.history.rows.length ∧
      Agree (first.manager.render_projected engine first.setting budget)
      (later.manager.render_projected engine later.setting budget) := by
  refine ⟨sighted.within,fun budget later window => ?_⟩
  obtain ⟨bound,turns⟩ := window.frozen sighted.within
  exact ⟨bound,agree_of_frozen turns⟩

end

section
variable {engine : ContextTokenEngine} {budget : Nat} {before after : View}

/-- The comparison of two views, row by row. -/
def undisturbed (engine : ContextTokenEngine) (budget : Nat) (before after : View) : Bool :=
  (range before.manager.frozen_history_len).all fun index =>
    after.manager.admitted engine after.setting budget index == before.manager.admitted engine before.setting budget index &&
      (before.manager.history.rows[index]?).all fun row =>
        (ContextManager.tool_results row.message).all (fun result =>
          previewed after.manager.handles row result.1 == previewed before.manager.handles row result.1) &&
        (!narrates before.manager.config row || after.manager.shielded engine index == before.manager.shielded engine index)

private theorem undisturbed_of (same : undisturbed engine budget before after = true) : Undisturbed engine budget before after := by
  have each := fun index (bound : index < before.manager.frozen_history_len) => all_eq_true.mp same index (mem_range.mpr bound)
  simp only [Bool.and_eq_true,beq_iff_eq,Option.all_eq_true,all_eq_true,Bool.or_eq_true,Bool.not_eq_true'] at each
  refine ⟨fun index bound => (each index bound).1,fun index bound _ row held =>
    ((each index bound).2 row held).1,fun index bound _ row held narration => ?_⟩
  exact ((each index bound).2 row held).2.resolve_left (by simp [narration])

end

section
/-- An engine that counts every text as one token. -/
def flat_engine : ContextTokenEngine := ⟨⟨fun _ => 1,fun _ _ => none,fun _ _ => false⟩,fun _ => 1⟩

/-- A pipeline for a history that is never compacted. -/
def idle_pipeline : CompressionPipeline := ⟨50,2,fun text _ => text,fun _ _ output => output,fun _ _ => ([],0),flat_engine.count_message⟩

def idle_setting : Setting := ⟨"","",none⟩

/-- A few turns: the second answer says what it does, and calls a tool. -/
def told_turns : List ViewOp :=
  [⟨.User,.Text "q",[]⟩,⟨.Assistant,.Text "a",[]⟩,⟨.User,.Text "w",[]⟩,
    ⟨.Assistant,.Text "First I will read the file and then I will tell you.",[⟨"c1","read","{}"⟩]⟩,
    ⟨.Tool,.Parts [.ToolResult "c1" "text" false none],[]⟩].map fun message => .content (.push_history message 1)

def advance_all (view : View) (ops : List ViewOp) : View := ops.foldl (View.step flat_engine.toWording idle_pipeline) view

/-- The context in which the provider summed up the first exchange, and the user asked on. -/
def summed_view : View := advance_all ⟨.new ⟨none,2,5,false,true⟩,idle_setting⟩
  (told_turns ++ [.absorb_provider_summary 1 1,.content (.push_history ⟨.User,.Text "next",[]⟩ 1)])

private theorem sighted_all {view : View} (sighted : Sighted flat_engine.toWording idle_pipeline view) (ops : List ViewOp)
    (forward : ∀ op ∈ ops, ∀ manager : ContextManager, manager.Behind op) : Sighted flat_engine.toWording idle_pipeline (advance_all view ops) := by
  induction ops generalizing view with
  | nil => exact sighted
  | cons op rest ih =>
    exact ih (sighted.step op (forward op mem_cons_self view.manager)) fun other member => forward other (mem_cons_of_mem _ member)

private theorem summed_sighted : Sighted flat_engine.toWording idle_pipeline summed_view := by
  refine sighted_all (Sighted.start _ _) _ fun op member manager => ?_
  simp only [told_turns,map_cons,map_nil,cons_append,nil_append,mem_cons,not_mem_nil,or_false] at member
  rcases member with rfl | rfl | rfl | rfl | rfl | rfl | rfl
  all_goals first | exact trivial | exact fun len rolled => nomatch rolled

/-- An answer behind the boundary leaves the frozen turns alone. -/
theorem frozen_prefix_stable_summed : Agree (summed_view.manager.render_projected flat_engine idle_setting 1000)
    ((summed_view.manager.advance flat_engine.toWording idle_pipeline
    (.content (.push_history ⟨.Assistant,.Text "ok",[]⟩ 1))).render_projected
      flat_engine idle_setting 1000) := by
  have window : Window flat_engine.toWording idle_pipeline flat_engine 1000 summed_view
      (summed_view.step flat_engine.toWording idle_pipeline (.content (.push_history ⟨.Assistant,.Text "ok",[]⟩ 1))) :=
    Window.refl.step _ rfl (fun len rolled => nomatch rolled) (undisturbed_of (by decide +kernel))
  exact ((frozen_prefix_stable summed_sighted).2 1000 _ window).2

/-- The next question moves the narration out of the protected tail, and rewrites a frozen turn; and a rollback
    may leave fewer rows than are frozen. -/
theorem frozen_turn_rewritten :
    ∃ first later : View, ∃ ops : List ViewOp, Sighted flat_engine.toWording idle_pipeline first ∧
    later = advance_all first ops ∧
    (∀ op ∈ ops, ∀ manager : ContextManager, manager.reanchors idle_pipeline op = false) ∧
    ¬Agree (first.manager.render_projected flat_engine first.setting 1000)
    (later.manager.render_projected flat_engine later.setting 1000) ∧
    (first.manager.truncate_history 0).history.rows.length < (first.manager.truncate_history 0).frozen_history_len := by
  refine ⟨summed_view,_,[.content (.push_history ⟨.Assistant,.Text "ok",[]⟩ 1),.content (.push_history ⟨.User,.Text "more",[]⟩ 1)],
    summed_sighted,rfl,?_,?_,by decide +kernel⟩
  · intro op member manager
    simp only [mem_cons,not_mem_nil,or_false] at member
    rcases member with rfl | rfl
    · rfl
    · rfl
  · intro agree
    have same := agree 5 (.inl (by decide +kernel))
    revert same
    decide +kernel

end

end Deepstrike.Context

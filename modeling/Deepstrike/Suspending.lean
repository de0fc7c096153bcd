import Deepstrike.Scalars
import Deepstrike.WaitIndex

/-!
The wait set of a suspended task and its row in a checkpoint: what registration stores, what events
record in it, and the two translations between the stored and the written form.
-/
namespace Deepstrike.Suspending
open Std List
open Wire (TaskId EffectId KernelFault)
open Tasks (WaitMode TaskLifecycle RunnableCause)
open Waiting (WaitCondition WaitSet WaitKey keys_for)
open Scalars (validate_id)

structure DurableWaitSet where
  mode : WaitMode
  conditions : List WaitCondition
  /-- The indexes of the conditions that have fired. -/
  satisfied : ExtTreeSet Nat compare

/-- A condition over several children becomes one for each child. -/
def DurableWaitSet.from (wait_set : WaitSet) : DurableWaitSet where
  mode := wait_set.mode
  conditions := wait_set.conditions.flatMap fun
    | .Children ids => ids.map .Child
    | condition => [condition]
  satisfied := ∅

/-- What a task holds of its wait. -/
structure Task where
  state : TaskLifecycle
  runnable_cause : RunnableCause
  wait_set : Option DurableWaitSet

/-- No condition at all, or a task that has ended, leaves the row alone. -/
def register_wait_set (wait_set : WaitSet) (task : Task) : Task :=
  if wait_set.conditions.isEmpty || task.state.is_terminal then task
  else { task with state := .Suspended, wait_set := some (.from wait_set) }

/-- The conditions an event matches have fired. -/
def DurableWaitSet.hear (key : WaitKey) (wait : DurableWaitSet) : DurableWaitSet := { wait with
  satisfied := wait.conditions.zipIdx.foldl
    (fun satisfied entry => if key ∈ keys_for entry.1 then satisfied.insert entry.2 else satisfied) wait.satisfied }

def DurableWaitSet.complete (wait : DurableWaitSet) : Bool :=
  match wait.mode with
  | .Any => !wait.satisfied.isEmpty
  | .All => wait.satisfied.size == wait.conditions.length

/-- A task the wait index names under the key of an event. -/
def notify (key : WaitKey) (task : Task) : Task :=
  if task.state.is_terminal then { task with wait_set := none }
  else
    match task.wait_set with
    | none => task
    | some wait =>
      let wait := wait.hear key
      if wait.complete then
        if task.state = .Suspended then ⟨.Ready,Tasks.TaskTable.cause_of key,none⟩ else { task with wait_set := none }
      else { task with wait_set := some wait }

/-- What is done to the row. -/
inductive Op where
  | register_wait_set (wait_set : WaitSet)
  | notify (key : WaitKey)
  | clear_wait
  | set_state (state : TaskLifecycle)

def step (task : Task) : Op → Task
  | .register_wait_set wait_set => register_wait_set wait_set task
  | .notify key => notify key task
  | .clear_wait => { task with wait_set := none }
  | .set_state state => { task with state }

def run (ops : List Op) (task : Task) : Task := ops.foldl step task

inductive TaskWaitConditionState where
  | Effect (effect_id : EffectId)
  | Child (task_id : TaskId)
  | Children (task_ids : List TaskId)
  | Approval (approval_id : String)
  | Signal (filter : String)
  | Timer (deadline_ms : Nat)
  | Channel (channel_id : String)
  | Resource (resource_key : String)
  | External (subscription_id : String)
  deriving DecidableEq,Repr

structure TaskWaitSetState where
  mode : String
  conditions : List TaskWaitConditionState
  satisfied : List UInt32
  deriving DecidableEq,Repr

/-- An identity as the wire brands it. -/
def TaskId.new (value : String) : Option TaskId := if (validate_id "task id" value).isOk then some value else none

/-- `none` where the source asserts that an internal task id is a legal branded one. -/
def project_condition : WaitCondition → Option TaskWaitConditionState
  | .Effect effect_id => some (.Effect effect_id)
  | .Child task_id => (TaskId.new task_id).map .Child
  | .Children task_ids => (task_ids.mapM TaskId.new).map .Children
  | .Approval id => some (.Approval id)
  | .Signal filter => some (.Signal filter)
  | .Timer deadline_ms => some (.Timer deadline_ms)
  | .Channel id => some (.Channel id)
  | .Resource key => some (.Resource key)
  | .External id => some (.External id)

def mode_label : WaitMode → String
  | .Any => "any"
  | .All => "all"

def project_wait_set (wait_set : DurableWaitSet) : Option TaskWaitSetState :=
  (wait_set.conditions.mapM project_condition).map fun conditions =>
    ⟨mode_label wait_set.mode,conditions,wait_set.satisfied.toList.map UInt32.ofNat⟩

def restore_condition : TaskWaitConditionState → WaitCondition
  | .Effect effect_id => .Effect effect_id
  | .Child task_id => .Child task_id
  | .Children task_ids => .Children task_ids
  | .Approval approval_id => .Approval approval_id
  | .Signal filter => .Signal filter
  | .Timer deadline_ms => .Timer deadline_ms
  | .Channel channel_id => .Channel channel_id
  | .Resource resource_key => .Resource resource_key
  | .External subscription_id => .External subscription_id

def incompatible {α : Type} (message : String) : Except KernelFault α := .error ⟨.CheckpointIncompatible,message⟩

/-- The indexes that have fired: each once, and of a condition there is. -/
def restore_satisfied (task_id : TaskId) (length : Nat) (indexes : List UInt32) : Except KernelFault (ExtTreeSet Nat compare) :=
  indexes.foldlM (fun satisfied index =>
    if index.toNat ≥ length ∨ index.toNat ∈ satisfied then
      incompatible s!"task {task_id} carries invalid satisfied WaitSet index {index.toNat}"
    else .ok (satisfied.insert index.toNat)) ∅

def restore_wait_set (task_id : TaskId) (state : TaskWaitSetState) : Except KernelFault DurableWaitSet := do
  let mode ← match state.mode with
    | "any" => .ok WaitMode.Any
    | "all" => .ok WaitMode.All
    | other => incompatible s!"task {task_id} wait set names mode {other.quote}, which this kernel does not know"
  if state.conditions.isEmpty then incompatible s!"task {task_id} carries an empty durable WaitSet"
  else
    let conditions := state.conditions.map restore_condition
    let satisfied ← restore_satisfied task_id conditions.length state.satisfied
    pure ⟨mode,conditions,satisfied⟩

/-- The children a condition names. -/
def children : WaitCondition → List TaskId
  | .Child task_id => [task_id]
  | .Children task_ids => task_ids
  | _ => []

/-- The fired conditions are among those there are. -/
def DurableWaitSet.Sound (wait : DurableWaitSet) : Prop := ∀ index ∈ wait.satisfied, index < wait.conditions.length

private theorem hear_mem (key : WaitKey) (entries : List (WaitCondition × Nat)) (satisfied : ExtTreeSet Nat compare) (index : Nat) :
    index ∈ entries.foldl (fun satisfied entry => if key ∈ keys_for entry.1 then satisfied.insert entry.2 else satisfied) satisfied →
      index ∈ satisfied ∨ index ∈ entries.map Prod.snd := by
  induction entries generalizing satisfied with
  | nil => exact .inl
  | cons entry rest ih =>
  intro held
  rw [foldl_cons] at held
  rw [map_cons,mem_cons]
  obtain before | later := ih _ held
  · split at before
    · rw [ExtTreeSet.mem_insert,LawfulEqCmp.compare_eq_iff_eq] at before
      obtain new | older := before
      · exact .inr (.inl new.symm)
      · exact .inl older
    · exact .inl before
  · exact .inr (.inr later)

variable {wait : DurableWaitSet} {task : Task}

theorem DurableWaitSet.Sound.hear (sound : wait.Sound) (key : WaitKey) : (wait.hear key).Sound := by
  intro index held
  obtain before | named := hear_mem key _ _ index held
  · exact sound index before
  · rw [zipIdx_map_snd] at named
    have bounded : index < wait.conditions.length := by simpa using named
    exact bounded

private theorem step_sound (sound : ∀ wait, task.wait_set = some wait → wait.Sound) (op : Op) :
    ∀ wait, (step task op).wait_set = some wait → wait.Sound := by
  intro wait held
  cases op with
  | register_wait_set wait_set =>
    simp only [step,register_wait_set] at held
    split at held
    · exact sound wait held
    · cases held
      exact fun index fired => (ExtTreeSet.not_mem_empty fired).elim
  | notify key =>
    simp only [step,notify] at held
    split at held
    · cases held
    split at held
    next => exact sound wait held
    next before waiting =>
    split at held
    · split at held <;> cases held
    · cases held
      exact (sound before waiting).hear key
  | clear_wait => cases held
  | set_state state => exact sound wait held

private theorem run_sound (ops : List Op) (sound : ∀ wait, task.wait_set = some wait → wait.Sound) :
    ∀ wait, (run ops task).wait_set = some wait → wait.Sound := by
  induction ops generalizing task with
  | nil => exact sound
  | cons op ops ih => exact ih (step_sound sound op)

private theorem mapM_back {α β : Type} {forth : α → Option β} {back : β → α} {legal : α → Prop} (returns : ∀ a b, forth a = some b → back b = a)
    (goes : ∀ a, (forth a).isSome = true ↔ legal a) (items : List α) :
    (∀ results, items.mapM forth = some results → results.map back = items) ∧ ((items.mapM forth).isSome = true ↔ ∀ item ∈ items, legal item) := by
  induction items with
  | nil => simp
  | cons item rest ih =>
  obtain ⟨back_rest,goes_rest⟩ := ih
  rw [mapM_cons,forall_mem_cons,← goes item,← goes_rest]
  cases first : forth item with
  | none => simp
  | some result =>
  cases later : rest.mapM forth with
  | none => simp
  | some results =>
  refine ⟨?_,by simp⟩
  intro all gathered
  cases gathered
  rw [map_cons,returns item result first,back_rest results later]

private theorem new_isSome (value : String) : (TaskId.new value).isSome = true ↔ (validate_id "task id" value).isOk = true := by
  unfold TaskId.new
  split
  next legal => simp [legal]
  next illegal => simp [illegal]

private theorem new_same {value id : String} (minted : TaskId.new value = some id) : id = value := by
  unfold TaskId.new at minted
  split at minted
  · exact (Option.some.inj minted).symm
  · cases minted

private theorem project_condition_back (condition : WaitCondition) (state : TaskWaitConditionState)
    (projected : project_condition condition = some state) :
    restore_condition state = condition := by
  cases condition with
  | Child task_id =>
    obtain ⟨id,minted,rfl⟩ := Option.map_eq_some_iff.mp projected
    exact congrArg WaitCondition.Child (new_same minted)
  | Children task_ids =>
    obtain ⟨ids,minted,rfl⟩ := Option.map_eq_some_iff.mp projected
    have same := (@mapM_back _ _ TaskId.new id _ (fun _ _ => new_same) new_isSome task_ids).1 ids minted
    exact congrArg WaitCondition.Children ((map_id ids).symm.trans same)
  | _ =>
  cases projected
  rfl

private theorem project_condition_isSome (condition : WaitCondition) :
    (project_condition condition).isSome = true ↔ ∀ child ∈ children condition, (validate_id "task id" child).isOk = true := by
  cases condition with
  | Child task_id => simpa [project_condition,children] using new_isSome task_id
  | Children task_ids =>
    rw [project_condition,Option.isSome_map]
    exact (@mapM_back _ _ TaskId.new id _ (fun _ _ => new_same) new_isSome task_ids).2
  | _ => simp [project_condition,children]

variable (task_id : TaskId)

/-- Distinct indexes in range are taken as they stand. -/
theorem restore_satisfied_ok (length : Nat) (indexes : List UInt32) (satisfied : ExtTreeSet Nat compare)
    (nodup : (indexes.map UInt32.toNat).Nodup)
    (fits : ∀ index ∈ indexes, index.toNat < length ∧ index.toNat ∉ satisfied) :
    ∃ result, (indexes.foldlM (fun satisfied index =>
        if index.toNat ≥ length ∨ index.toNat ∈ satisfied then
          incompatible s!"task {task_id} carries invalid satisfied WaitSet index {index.toNat}"
        else .ok (satisfied.insert index.toNat)) satisfied) = .ok result ∧
      ∀ index, index ∈ result ↔ index ∈ satisfied ∨ index ∈ indexes.map UInt32.toNat := by
  induction indexes generalizing satisfied with
  | nil => exact ⟨satisfied,rfl,by simp⟩
  | cons first rest ih =>
  rw [map_cons,nodup_cons] at nodup
  obtain ⟨bounded,fresh⟩ := fits first mem_cons_self
  obtain ⟨result,went,members⟩ := ih (satisfied.insert first.toNat) nodup.2 fun index member => by
    obtain ⟨below,unseen⟩ := fits index (mem_cons_of_mem _ member)
    refine ⟨below,?_⟩
    rw [ExtTreeSet.mem_insert,LawfulEqCmp.compare_eq_iff_eq,not_or]
    exact ⟨fun same => nodup.1 (same ▸ mem_map_of_mem member),unseen⟩
  have taken : ¬ (first.toNat ≥ length ∨ first.toNat ∈ satisfied) := by
    rintro (beyond | seen)
    · omega
    · exact fresh seen
  refine ⟨result,?_,fun index => ?_⟩
  · rw [foldlM_cons,if_neg taken]
    exact went
  · rw [members,ExtTreeSet.mem_insert,LawfulEqCmp.compare_eq_iff_eq,map_cons,mem_cons,eq_comm]
    tauto

private theorem restore_satisfied_written (length : Nat) (indexes : List UInt32) {satisfied result : ExtTreeSet Nat compare}
    (went : (indexes.foldlM (fun satisfied index =>
        if index.toNat ≥ length ∨ index.toNat ∈ satisfied then
          incompatible s!"task {task_id} carries invalid satisfied WaitSet index {index.toNat}"
        else .ok (satisfied.insert index.toNat)) satisfied) = .ok result) :
    ∀ index ∈ result, index ∈ satisfied ∨ index < 2^32 := by
  induction indexes generalizing satisfied with
  | nil =>
    cases went
    exact fun _ held => .inl held
  | cons first rest ih =>
  rw [foldlM_cons] at went
  split at went
  · cases went
  intro index held
  obtain before | small := ih went index held
  · rw [ExtTreeSet.mem_insert,LawfulEqCmp.compare_eq_iff_eq] at before
    obtain rfl | older := before
    · exact .inr first.toNat_lt
    · exact .inl older
  · exact .inr small

private theorem restore_wait_set_eq (mode : WaitMode) (states : List TaskWaitConditionState) (indexes : List UInt32) :
    restore_wait_set task_id ⟨mode_label mode,states,indexes⟩ =
      if states.isEmpty then incompatible s!"task {task_id} carries an empty durable WaitSet"
      else (restore_satisfied task_id (states.map restore_condition).length indexes).map fun satisfied =>
        ⟨mode,states.map restore_condition,satisfied⟩ := by
  cases mode <;> rfl

/-- A wait set comes back from a checkpoint exactly when it waits on something, names its children by legal identities, and no
    index that has fired is beyond the written width. -/
theorem restore_project (sound : wait.Sound) (task_id : TaskId) :
    (∃ state, project_wait_set wait = some state ∧ restore_wait_set task_id state = .ok wait) ↔
      wait.conditions ≠ [] ∧ (∀ condition ∈ wait.conditions, ∀ child ∈ children condition,
      (validate_id "task id" child).isOk = true) ∧
        ∀ index ∈ wait.satisfied, index < 2^32 := by
  obtain ⟨back,goes⟩ := mapM_back project_condition_back project_condition_isSome wait.conditions
  have empty : ∀ states, wait.conditions.mapM project_condition = some states → (states.isEmpty = true ↔ wait.conditions = []) := by
    intro states mapped
    rw [← back states mapped,List.isEmpty_iff,List.map_eq_nil_iff]
  rw [← goes]
  constructor
  · rintro ⟨state,projected,restored⟩
    obtain ⟨states,mapped,rfl⟩ := Option.map_eq_some_iff.mp projected
    rw [restore_wait_set_eq] at restored
    split at restored
    · cases restored
    next filled =>
    refine ⟨mt (empty states mapped).mpr filled,by rw [mapped]; rfl,?_⟩
    cases taken : restore_satisfied task_id (states.map restore_condition).length (wait.satisfied.toList.map UInt32.ofNat) with
    | error fault =>
      rw [taken] at restored
      cases restored
    | ok satisfied =>
    rw [taken] at restored
    have same : satisfied = wait.satisfied := congrArg DurableWaitSet.satisfied (Except.ok.inj restored)
    intro index held
    obtain before | small := restore_satisfied_written task_id _ _ taken index (same ▸ held)
    · exact (ExtTreeSet.not_mem_empty before).elim
    · exact small
  rintro ⟨nonempty,legal,small⟩
  obtain ⟨states,mapped⟩ := Option.isSome_iff_exists.mp legal
  have width : (wait.satisfied.toList.map UInt32.ofNat).map UInt32.toNat = wait.satisfied.toList := by
    rw [map_map]
    refine (map_congr_left fun index held => ?_).trans (map_id _)
    exact UInt32.toNat_ofNat_of_lt (small index (ExtTreeSet.mem_toList.mp held))
  have distinct : wait.satisfied.toList.Nodup := ExtTreeSet.distinct_toList.imp fun apart same => apart (LawfulEqCmp.compare_eq_iff_eq.mpr same)
  obtain ⟨satisfied,taken,members⟩ := restore_satisfied_ok task_id (states.map restore_condition).length (wait.satisfied.toList.map UInt32.ofNat) ∅
    (by rw [width]; exact distinct) fun index member => by
      have named : index.toNat ∈ wait.satisfied.toList := width ▸ mem_map_of_mem member
      rw [back states mapped]
      exact ⟨sound index.toNat (ExtTreeSet.mem_toList.mp named),ExtTreeSet.not_mem_empty⟩
  have same : satisfied = wait.satisfied := by
    refine ExtTreeSet.ext_mem fun index => ?_
    rw [members,width,ExtTreeSet.mem_toList]
    exact or_iff_right ExtTreeSet.not_mem_empty
  refine ⟨_,by rw [project_wait_set,mapped]; rfl,?_⟩
  rw [restore_wait_set_eq,if_neg (mt (empty states mapped).mp nonempty)]
  have taken' : restore_satisfied task_id (states.map restore_condition).length (wait.satisfied.toList.map UInt32.ofNat) = .ok satisfied := taken
  rw [taken',same,back states mapped]
  rfl

/-- Over every run of a row: the wait set it holds comes back from its row in a checkpoint exactly when, flattened, it waits on
    something, every child it names has a legal identity, and every index that has fired fits the written width. -/
theorem held_wait_restored (state : TaskLifecycle) (runnable_cause : RunnableCause) (ops : List Op)
    {wait : DurableWaitSet}
    (held : (run ops ⟨state,runnable_cause,none⟩).wait_set = some wait) (task_id : TaskId) :
    (∃ written, project_wait_set wait = some written ∧ restore_wait_set task_id written = .ok wait) ↔
      wait.conditions ≠ [] ∧ (∀ condition ∈ wait.conditions, ∀ child ∈ children condition,
      (validate_id "task id" child).isOk = true) ∧
        ∀ index ∈ wait.satisfied, index < 2^32 :=
  restore_project (run_sound ops (fun _ fresh => by cases fresh) wait held) task_id

/-- Two children, one of them done: the wait set comes back as it is. -/
theorem held_wait_restored_half :
    ∃ wait, (run [.register_wait_set ⟨.All,[.Children ["first","second"]]⟩,.notify (.Child "first")]
      ⟨.Ready,.NestedTask,none⟩).wait_set = some wait ∧ wait.satisfied.toList = [0] ∧
    ∃ written, project_wait_set wait = some written ∧ restore_wait_set "root" written = .ok wait := by
  refine ⟨_,rfl,?_,?_⟩
  · decide +kernel
  refine (held_wait_restored .Ready .NestedTask [.register_wait_set ⟨.All,[.Children ["first","second"]]⟩,.notify (.Child "first")] rfl "root").mpr
    ⟨by decide +kernel,by decide +kernel,fun index fired => ?_⟩
  have listed : index ∈ ([0] : List Nat) := ExtTreeSet.mem_toList.mpr fired
  rw [mem_singleton.mp listed]
  decide

/-- A condition over no child at all passes registration, and is stored as no condition. -/
theorem childless_wait_refused :
    ¬ ∀ (state : TaskLifecycle) (runnable_cause : RunnableCause) (ops : List Op) (wait : DurableWaitSet),
    (run ops ⟨state,runnable_cause,none⟩).wait_set = some wait → ∀ task_id,
      ∃ written, project_wait_set wait = some written ∧ restore_wait_set task_id written = .ok wait := by
  intro claimed
  obtain ⟨written,projected,restored⟩ := claimed .Ready .NestedTask [.register_wait_set ⟨.Any,[.Children []]⟩] _ rfl "root"
  cases projected
  cases restored

end Deepstrike.Suspending

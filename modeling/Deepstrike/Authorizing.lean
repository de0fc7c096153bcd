import Deepstrike.CrossOperation
import Deepstrike.Frames
import Deepstrike.PlainParts
import Deepstrike.Residencies

/-!
Who may load a body. A read names a handle by an address: the check of what the caller may read finds a handle by its source
or by its printed number, the load finds one by its source only. The two find the same handle unless the number of an earlier
handle is printed like the source of a later one.
-/
namespace Deepstrike.Driver
open Wire Transaction Loop Frames Capabilities
open CrossOperation (ObjectDescriptor)
open Context (Handle HandleTable)

variable {K : Parts}

/-- A capability that holds at a turn and lets its holder do this to an object. -/
def object_access_allowed_at (capabilities : List Capability) (action : String) (descriptor : ObjectDescriptor) (now_turn : Nat) : Bool :=
  capabilities.any fun capability => decide (action ∈ capability.actions) && capability.live now_turn &&
    resource_matches capability.resource s!"object:{descriptor.owner}/{descriptor.id}"

/-- The tables a read looks at: the handles of the context, and the objects and the capabilities of the task table. -/
structure Tables where
  handles : HandleTable
  object : Nat → Option ObjectDescriptor
  task_capabilities : TaskId → List Capability

namespace Tables

variable (tables : Tables)

/-- The handle whose object the check looks at. -/
def checked (address : HandleId) : Option Handle :=
  tables.handles.find? fun handle => decide (handle.source = some address) || toString handle.id == address

/-- The handle whose body is loaded. -/
def loaded (address : HandleId) : Option Handle := tables.handles.find? (HandleTable.anchored address)

/-- Whether a caller owns an object or holds a live read capability for it. -/
def readable (caller : TaskId) (turn : Nat) (descriptor : ObjectDescriptor) : Bool :=
  descriptor.owner == caller || object_access_allowed_at (tables.task_capabilities caller) "read" descriptor turn

/-- The object that stands in the way of a read. -/
def unreadable_object (caller : TaskId) (address : HandleId) (turn : Nat) : Option String := do
  let handle ← tables.checked address
  let descriptor ← tables.object handle.id
  if tables.readable caller turn descriptor then none else some (toString descriptor.id)

/-- A caller may have the body of a handle: no object is registered for it, or one that the caller may read. -/
def MayLoad (caller : TaskId) (turn : Nat) (handle : Handle) : Prop :=
  ∀ descriptor ∈ tables.object handle.id, tables.readable caller turn descriptor = true

end Tables

/-- Where a body lives, as the driver sees it. -/
def held_body : Context.Residency → Residency
  | .Resident => .Resident
  | .Collapsed => .Collapsed
  | .External payload_ref digest original_size => .External payload_ref digest original_size
  | .PagedOut payload_ref digest => .PagedOut payload_ref digest

/-- Parts that answer a read from their tables. -/
def Parts.reading (K : Parts) (handles : K.Ctx → HandleTable) (object : K.Ledger → Nat → Option ObjectDescriptor)
    (task_capabilities : K.Ledger → TaskId → List Capability) : Parts :=
  { K with
    payload_residency := fun ctx address => (HandleTable.residency_for_source (handles ctx) address).map held_body
    unreadable_object := fun caller address turn ctx ledger =>
      (Tables.mk (handles ctx) (object ledger) (task_capabilities ledger)).unreadable_object caller address turn }

section
variable {handles : K.Ctx → HandleTable} {object : K.Ledger → Nat → Option ObjectDescriptor}
  {task_capabilities : K.Ledger → TaskId → List Capability}

/-- The tables of a loop once the read has been noted. -/
def tablesOf (engine : Engine (K.reading handles object task_capabilities)) (address : HandleId) : Tables :=
  ⟨handles (K.note_read_back address engine.ctx),object engine.ledger,task_capabilities engine.ledger⟩

/-- What is published for a read is the load of the one handle that was found and checked. -/
def LoadsChecked (context : PlanContext) (caller : TaskId) (address : HandleId) (effect_index : Nat)
    (driver : OperationDriver (K.reading handles object task_capabilities)) : Prop :=
  ∀ engine ∈ driver.engine, ∀ outcome index after,
    plan_page_in context caller address effect_index driver = .ok (.ok (outcome,index)) after →
    ∀ published ∈ outcome.effects, ∃ handle payload_ref, published.effect = .LoadPayload address payload_ref ∧
      handle.residency.payload_ref = some payload_ref ∧ (tablesOf engine address).loaded address = some handle ∧
      (tablesOf engine address).checked address = some handle ∧ (tablesOf engine address).MayLoad caller engine.turn handle

/-- A read that nothing refuses: the check passes, and there is a usable body outside that the host can load. -/
structure Loadable (context : PlanContext) (caller : TaskId) (address : HandleId)
    (engine : Engine (K.reading handles object task_capabilities)) : Prop where
  remote : dependency_address address = none
  readable : (tablesOf engine address).unreadable_object caller address engine.turn = none
  outside : ∃ handle payload_ref, (tablesOf engine address).loaded address = some handle ∧ handle.residency.payload_ref = some payload_ref ∧
    K.unusable_payload_ref payload_ref = none
  supported : context.config.supports .LoadPayload = true

end

private theorem bind_run {ε σ α β : Type} {first : EStateM ε σ α} {next : α → EStateM ε σ β} {start between : σ} {value : α}
    (ran : first start = .ok value between) : (first >>= next) start = next value between := by
  change EStateM.bind first next start = _
  unfold EStateM.bind
  rw [ran]

/-! The load. -/

private theorem held_body_reference (residency : Context.Residency) : (held_body residency).reference.map Prod.fst = residency.payload_ref := by
  cases residency <;> rfl

variable {residency : Residency}

private theorem load_payload_ok {context : PlanContext} {address : HandleId} {effect_index index : Nat} {outcome : SyscallOutcome}
    {driver after : OperationDriver K} (ran : load_payload context address residency effect_index driver = .ok (.ok (outcome,index)) after) :
    ∃ payload_ref, residency.reference.map Prod.fst = some payload_ref ∧ K.unusable_payload_ref payload_ref = none ∧
      context.config.supports .LoadPayload = true ∧ outcome.effects = [mint_effect context (.LoadPayload address payload_ref) effect_index] := by
  unfold load_payload at ran
  cases refers : residency.reference with
  | none =>
    rw [refers] at ran
    cases ran
  | some reference =>
  obtain ⟨payload_ref,digest,original_size⟩ := reference
  rw [refers] at ran
  cases usable : K.unusable_payload_ref payload_ref with
  | some error =>
    simp only [usable] at ran
    cases ran
  | none =>
  simp only [usable] at ran
  obtain ⟨_,_,supports,ran⟩ := bind_ok ran
  obtain ⟨_,_,_,ran⟩ := bind_ok ran
  cases ran
  unfold require_effect_support at supports
  split at supports
  next supported => exact ⟨payload_ref,rfl,usable,supported,rfl⟩
  next => cases supports

private theorem load_payload_publishes {context : PlanContext} {address : HandleId} {payload_ref : String} (effect_index : Nat)
    (driver : OperationDriver K) (refers : residency.reference.map Prod.fst = some payload_ref) (usable : K.unusable_payload_ref payload_ref = none)
    (supported : context.config.supports .LoadPayload = true) :
    ∃ after, load_payload context address residency effect_index driver =
      .ok (.ok (.publishing (mint_effect context (.LoadPayload address payload_ref) effect_index),effect_index+1)) after := by
  obtain ⟨⟨held,digest,original_size⟩,reference,rfl⟩ := Option.map_eq_some_iff.mp refers
  unfold load_payload
  rw [reference]
  simp only [usable]
  unfold require_effect_support
  rw [if_pos supported]
  exact ⟨_,rfl⟩

/-! The read. -/

/-- The driver once the read has been noted. -/
def readBack (driver : OperationDriver K) (engine : Engine K) (address : HandleId) : OperationDriver K :=
  { driver with engine := some { engine with ctx := K.note_read_back address engine.ctx } }

section
variable {context : PlanContext} {caller : TaskId} {address : HandleId} {effect_index : Nat} {driver : OperationDriver K} {engine : Engine K}

/-- What a read comes to once it has been noted: an object stands in its way, or no handle is there, or the handle's body is loaded. -/
theorem plan_page_in_noted (held : driver.engine = some engine) (remote : dependency_address address = none) :
    plan_page_in context caller address effect_index driver =
      (K.unreadable_object caller address engine.turn (K.note_read_back address engine.ctx) engine.ledger).elim
        ((K.payload_residency (K.note_read_back address engine.ctx) address).elim
          (rejected "read_result"
            s!"handle {address} is not reachable in this operation's handle table; a page-in addresses only what the caller already holds")
          fun residency => load_payload context address residency effect_index)
        (fun object => rejected "read_result" s!"caller {caller} has no read capability for shared object {object}")
        (readBack driver engine address) := by
  have read : engine_mut (do onCtx (K.note_read_back address); get) driver =
      .ok { engine with ctx := K.note_read_back address engine.ctx } (readBack driver engine address) := by
    unfold engine_mut
    rw [held]
    rfl
  unfold plan_page_in
  rw [bind_run read]
  simp only [remote]
  cases K.unreadable_object caller address engine.turn (K.note_read_back address engine.ctx) engine.ledger with
  | some object => rfl
  | none => cases K.payload_residency (K.note_read_back address engine.ctx) address <;> rfl

private theorem plan_page_in_dependency {agent_id : TaskId} (dependency : dependency_address address = some agent_id)
    {outcome : SyscallOutcome} {index : Nat}
    {after : OperationDriver K} (ran : plan_page_in context caller address effect_index driver = .ok (.ok (outcome,index)) after) :
    outcome.effects = [] := by
  unfold plan_page_in at ran
  obtain ⟨e,_,_,ran⟩ := bind_ok ran
  simp only [dependency] at ran
  cases held : K.dependency_body e.ctx agent_id with
  | some body =>
    simp only [held] at ran
    cases ran
    rfl
  | none =>
  simp only [held] at ran
  cases ran

end

section
variable {handles : K.Ctx → HandleTable} {object : K.Ledger → Nat → Option ObjectDescriptor}
  {task_capabilities : K.Ledger → TaskId → List Capability} {context : PlanContext} {caller : TaskId} {address : HandleId} {effect_index : Nat}
  {driver : OperationDriver (K.reading handles object task_capabilities)} {engine : Engine (K.reading handles object task_capabilities)}

variable {handle : Handle}

private theorem plan_page_in_loads (held : driver.engine = some engine) (remote : dependency_address address = none)
    (readable : (tablesOf engine address).unreadable_object caller address engine.turn = none)
    (found : (tablesOf engine address).loaded address = some handle) : plan_page_in context caller address effect_index driver =
      load_payload context address (held_body handle.residency) effect_index (readBack driver engine address) := by
  have unopposed : (K.reading handles object task_capabilities).unreadable_object caller address engine.turn
      ((K.reading handles object task_capabilities).note_read_back address engine.ctx) engine.ledger = none := readable
  have residency : (K.reading handles object task_capabilities).payload_residency
      ((K.reading handles object task_capabilities).note_read_back address engine.ctx) address = some (held_body handle.residency) :=
    congrArg (Option.map held_body ∘ Option.map Handle.residency) found
  rw [plan_page_in_noted held remote,unopposed,residency]
  rfl

private theorem plan_page_in_rejects (held : driver.engine = some engine) (remote : dependency_address address = none)
    (stopped : (tablesOf engine address).unreadable_object caller address engine.turn ≠ none ∨ (tablesOf engine address).loaded address = none) :
    ∃ rejection, plan_page_in context caller address effect_index driver = .ok (.error rejection) (readBack driver engine address) := by
  rw [plan_page_in_noted held remote]
  cases opposed : (K.reading handles object task_capabilities).unreadable_object caller address engine.turn
      ((K.reading handles object task_capabilities).note_read_back address engine.ctx) engine.ledger with
  | some object => exact ⟨_,rfl⟩
  | none =>
  have missing : (tablesOf engine address).loaded address = none := stopped.resolve_left fun stands => stands opposed
  have residency : (K.reading handles object task_capabilities).payload_residency
      ((K.reading handles object task_capabilities).note_read_back address engine.ctx) address = none :=
    congrArg (Option.map held_body ∘ Option.map Handle.residency) missing
  rw [residency]
  exact ⟨_,rfl⟩

private theorem unreadable_object_eq_none {tables : Tables} {turn : Nat} (found : tables.checked address = some handle) :
    tables.unreadable_object caller address turn = none ↔ tables.MayLoad caller turn handle := by
  unfold Tables.unreadable_object Tables.MayLoad
  rw [found]
  cases registered : tables.object handle.id with
  | none => simp [registered]
  | some descriptor => simp [registered]

private theorem LoadsChecked.same_handle (loads : LoadsChecked context caller address effect_index driver) (held : driver.engine = some engine)
    (loadable : Loadable context caller address engine) : (tablesOf engine address).checked address = (tablesOf engine address).loaded address := by
  obtain ⟨remote,readable,⟨handle,payload_ref,found,outside,usable⟩,supported⟩ := loadable
  have refers : (held_body handle.residency).reference.map Prod.fst = some payload_ref := (held_body_reference handle.residency).trans outside
  obtain ⟨after,published⟩ := load_payload_publishes effect_index (readBack driver engine address) refers usable supported
  obtain ⟨other,_,_,_,loaded,checked,_⟩ := loads engine held _ _ after ((plan_page_in_loads held remote readable found).trans published) _
    (List.mem_singleton_self _)
  rw [checked,loaded]

/-- What is published is the load of the handle that was checked, exactly when a read that nothing refuses names one handle. -/
theorem loads_checked_iff : LoadsChecked context caller address effect_index driver ↔ ∀ engine ∈ driver.engine,
    Loadable context caller address engine →
    (tablesOf engine address).checked address = (tablesOf engine address).loaded address := by
  refine ⟨fun loads engine held loadable => loads.same_handle held loadable,?_⟩
  intro names engine held outcome index after ran published member
  cases remote : dependency_address address with
  | some agent_id =>
    rw [plan_page_in_dependency remote ran] at member
    cases member
  | none =>
  by_cases stopped : (tablesOf engine address).unreadable_object caller address engine.turn ≠ none ∨
      (tablesOf engine address).loaded address = none
  · obtain ⟨rejection,rejects⟩ := plan_page_in_rejects held remote stopped
    rw [rejects] at ran
    cases ran
  obtain ⟨readable,present⟩ := not_or.mp stopped
  have readable := Decidable.not_not.mp readable
  obtain ⟨handle,found⟩ := Option.ne_none_iff_exists'.mp present
  rw [plan_page_in_loads held remote readable found] at ran
  obtain ⟨payload_ref,refers,usable,supported,effects⟩ := load_payload_ok ran
  have outside : handle.residency.payload_ref = some payload_ref := (held_body_reference handle.residency).symm.trans refers
  have same := names engine held ⟨remote,readable,⟨handle,payload_ref,found,outside,usable⟩,supported⟩
  rw [effects] at member
  cases List.mem_singleton.mp member
  exact ⟨handle,payload_ref,rfl,outside,found,same.trans found,(unreadable_object_eq_none (same.trans found)).mp readable⟩

/-- Two results outside: the number of the first is printed like the call the second answers, which another task owns. -/
def twoResults : HandleTable :=
  [⟨7,.ToolResult,.External "payload-a" "sha256:a" 10,0,some "call-a",1⟩,⟨8,.ToolResult,.External "payload-b" "sha256:b" 20,0,some "7",2⟩]

/-- The root task owns the first object, and a child the second. -/
def twoObjects (id : Nat) : Option ObjectDescriptor :=
  if id = 7 then some ⟨7,.ToolResult,"root","sha256:a",10,.External "payload-a" "sha256:a" 10,some "payload-a",1,none⟩
  else if id = 8 then some ⟨8,.ToolResult,"child","sha256:b",20,.External "payload-b" "sha256:b" 20,some "payload-b",1,none⟩
  else none

def readConfig : ResolvedOperationConfig := PlainParts.plainConfig PlainParts.everyEffect ""
def readContext : PlanContext := ⟨⟨"op","input",1,.ConfigureOperation readConfig⟩,0,none,readConfig,none,[]⟩

/-- Parts over these tables, in which nobody holds a capability. -/
def readingParts : Parts := PlainParts.plain.reading (fun _ => twoResults) (fun _ => twoObjects) fun _ _ => []

def readingEngine : Engine readingParts := base_engine readConfig readConfig none
def readingDriver : OperationDriver readingParts := { OperationDriver.new readingParts with engine := some readingEngine }

/-- The root task reads the child's result under its call id. -/
theorem foreign_result_loads : ¬ @LoadsChecked PlainParts.plain (fun _ => twoResults) (fun _ => twoObjects)
    (fun _ _ => []) readContext "root" "7" 0
    readingDriver := by
  intro loads
  have held : readingDriver.engine = some readingEngine := rfl
  have same := loads.same_handle held ⟨rfl,by decide,⟨_,"payload-b",rfl,rfl,rfl⟩,rfl⟩
  revert same
  decide

end

end Deepstrike.Driver

import Mathlib.Algebra.GroupWithZero.Nat
import Mathlib.Data.Finset.Basic
import Mathlib.Data.List.Infix

/-!
Object capabilities: a selector of resources, the actions on them, the constraints of a use and a lease.
A capability attenuates another when it narrows all of these, and a spawn may hand on attenuations only.
-/
namespace Deepstrike.Capabilities

inductive CapabilityKind where
  | Tool | Skill | Memory | Knowledge | McpServer | Command | Agent
  deriving DecidableEq,Repr

/-- A path, or a path pattern with a wildcard at its end. -/
structure ResourceSelector where
  pattern : String
  deriving DecidableEq,Repr

structure Lease where
  /-- `none` never expires. -/
  expires_at_turn : Option Nat
  deriving DecidableEq,Repr

def Lease.is_expired (lease : Lease) (now : Nat) : Bool := lease.expires_at_turn.any fun expiry => decide (expiry ≤ now)

structure Capability where
  id : String
  kind : CapabilityKind
  resource : ResourceSelector
  actions : Finset String
  constraints : Finset String
  lease : Option Lease
  delegatable : Bool
  issuer : String
  deriving DecidableEq

/-- `str::starts_with`. -/
def starts_with (text head : String) : Bool := head.toList.isPrefixOf text.toList
/-- `str::ends_with`. -/
def ends_with (text tail : String) : Bool := tail.toList.isSuffixOf text.toList
/-- `str::strip_suffix`. -/
def strip_suffix (text tail : String) : Option String :=
  if ends_with text tail then some (String.ofList (text.toList.take (text.toList.length - tail.toList.length))) else none

/-- The concrete head of a selector: a trailing `**` or `*` is cut off. -/
def resource_prefix (selector : ResourceSelector) : String :=
  ((strip_suffix selector.pattern "**").or (strip_suffix selector.pattern "*")).getD selector.pattern

def is_wildcard (selector : ResourceSelector) : Bool := ends_with selector.pattern "**" || ends_with selector.pattern "*"

/-- A selector without a wildcard names one resource. -/
def resource_matches (selector : ResourceSelector) (resource : String) : Bool :=
  if is_wildcard selector then starts_with resource ( resource_prefix selector) else resource == selector.pattern

def selector_contains (parent child : ResourceSelector) : Bool :=
  if is_wildcard parent then starts_with ( resource_prefix child) ( resource_prefix parent) else child.pattern == parent.pattern

def lease_is_narrower : Option Lease → Option Lease → Bool
  | _,none => true
  | some child,some parent =>
    match child.expires_at_turn,parent.expires_at_turn with
    | _,none => true
    | some child,some parent => decide (child ≤ parent)
    | none,some _ => false
  | none,some _ => false

/-- Whether `child` narrows `parent`: fewer resources and actions, more constraints, no longer a lease. -/
def is_attenuation_of (child parent : Capability) : Bool :=
  lease_is_narrower child.lease parent.lease && child.kind == parent.kind && selector_contains parent.resource child.resource &&
    decide (child.actions ⊆ parent.actions) && decide (parent.constraints ⊆ child.constraints)

/-- Every child capability attenuates one of the parents'; the others are the violations. -/
def caps_subset (children parents : List Capability) : Except (List Capability) Unit :=
  match children.filter fun child => !parents.any (is_attenuation_of child) with
  | [] => .ok ()
  | violations => .error violations

variable (capability : Capability)

/-- A capability that holds at a turn, and may be handed on. -/
def Capability.live (turn : Nat) : Bool := capability.lease.all fun lease => !lease.is_expired turn
def Capability.grantable (turn : Nat) : Bool := capability.delegatable && capability.live turn

/-- One use of a resource: what is done to it, at which turn, and under which constraints. -/
structure Use where
  kind : CapabilityKind
  action : String
  resource : String
  turn : Nat
  constraints : Finset String

/-- What a capability permits. -/
def Capability.Admits (use : Use) : Prop :=
  capability.kind = use.kind ∧ use.action ∈ capability.actions ∧ resource_matches capability.resource use.resource = true ∧
    capability.live use.turn = true ∧ capability.constraints ⊆ use.constraints

section Selectors

theorem starts_with_iff {text head : String} : starts_with text head = true ↔ head.toList <+: text.toList := by
  simp [starts_with]

variable {selector : ResourceSelector}

private theorem resource_prefix_of_exact (exact_ : is_wildcard selector = false) : resource_prefix selector = selector.pattern := by
  obtain ⟨twice,once⟩ := Bool.or_eq_false_iff.mp exact_
  simp [ resource_prefix,strip_suffix,twice,once]

private theorem resource_matches_head (selector : ResourceSelector) : resource_matches selector ( resource_prefix selector) = true := by
  unfold resource_matches
  split
  · exact starts_with_iff.mpr (List.prefix_refl _)
  next other => rw [resource_prefix_of_exact (Bool.not_eq_true _ ▸ other)]; exact beq_self_eq_true _

private theorem starts_with_of_matches {resource : String} (matched : resource_matches selector resource = true) :
    ( resource_prefix selector).toList <+: resource.toList := by
  unfold resource_matches at matched
  split at matched
  · exact starts_with_iff.mp matched
  next other =>
    rw [resource_prefix_of_exact (Bool.not_eq_true _ ▸ other),beq_iff_eq.mp matched]

/-- Containment of selectors is containment of what they match. -/
theorem selector_contains_iff (parent child : ResourceSelector) :
    selector_contains parent child = true ↔ ∀ resource, resource_matches child resource = true →
    resource_matches parent resource = true := by
  unfold selector_contains
  split
  next wild =>
    rw [starts_with_iff]
    constructor
    · intro heads resource matched
      unfold resource_matches
      rw [if_pos wild]
      exact starts_with_iff.mpr (heads.trans (starts_with_of_matches matched))
    · intro contained
      have matched := contained _ (resource_matches_head child)
      exact starts_with_of_matches matched
  next named =>
  have named : is_wildcard parent = false := Bool.not_eq_true _ ▸ named
  rw [beq_iff_eq]
  constructor
  · intro same resource matched
    have both : child = parent := by
      cases child
      cases parent
      simpa using same
    rwa [← both]
  intro contained
  have alone : ∀ resource, resource_matches child resource = true → resource = parent.pattern := by
    intro resource matched
    have named_ := contained resource matched
    unfold resource_matches at named_
    rw [if_neg (by simp [named])] at named_
    exact beq_iff_eq.mp named_
  cases wild : is_wildcard child with
  | false =>
    have own := alone _ (resource_matches_head child)
    rwa [resource_prefix_of_exact wild] at own
  | true =>
  -- A wildcard matches more than one resource.
  have first := alone _ (resource_matches_head child)
  have second := alone (String.ofList (( resource_prefix child).toList ++ ['/'])) (by
    unfold resource_matches
    rw [if_pos wild]
    exact starts_with_iff.mpr (by rw [String.toList_ofList]; exact List.prefix_append _ _))
  have lengths := congrArg (fun text : String => text.toList.length) (first.trans second.symm)
  simp at lengths

end Selectors

section Attenuation

private theorem lease_is_narrower_refl (lease : Option Lease) : lease_is_narrower lease lease = true := by
  unfold lease_is_narrower
  split
  · rfl
  next child parent same =>
  cases same
  split <;> simp_all

private theorem lease_is_narrower_iff (child parent : Option Lease) :
    lease_is_narrower child parent = true ↔ parent = none ∨ ∃ inner outer, child = some inner ∧ parent = some outer ∧
      ∀ bound, outer.expires_at_turn = some bound → ∃ expiry, inner.expires_at_turn = some expiry ∧ expiry ≤ bound := by
  cases parent with
  | none => simp [lease_is_narrower]
  | some outer =>
  cases child with
  | none => simp [lease_is_narrower]
  | some inner =>
  obtain ⟨expiry⟩ := inner
  obtain ⟨bound⟩ := outer
  cases bound with
  | none => simp [lease_is_narrower]
  | some bound => cases expiry <;> simp [lease_is_narrower]

private theorem lease_is_narrower_trans {first second third : Option Lease} (inner : lease_is_narrower first second = true)
    (outer : lease_is_narrower second third = true) : lease_is_narrower first third = true := by
  rw [lease_is_narrower_iff] at inner outer ⊢
  obtain rfl | ⟨middle,last,rfl,rfl,later⟩ := outer
  · exact .inl rfl
  obtain nothing | ⟨earliest,_,rfl,same,earlier⟩ := inner
  · cases nothing
  cases same
  refine .inr ⟨earliest,last,rfl,rfl,fun bound held => ?_⟩
  obtain ⟨between,expires,below⟩ := later bound held
  obtain ⟨expiry,expires,under⟩ := earlier between expires
  exact ⟨expiry,expires,under.trans below⟩

private theorem selector_contains_trans {first second third : ResourceSelector} (outer : selector_contains first second = true)
    (inner : selector_contains second third = true) : selector_contains first third = true := by
  rw [selector_contains_iff] at *
  exact fun resource matched => outer resource (inner resource matched)

private theorem is_attenuation_of_iff (child parent : Capability) : is_attenuation_of child parent = true ↔
    lease_is_narrower child.lease parent.lease = true ∧ child.kind = parent.kind ∧
      selector_contains parent.resource child.resource = true ∧ child.actions ⊆ parent.actions ∧ parent.constraints ⊆ child.constraints := by
  simp [is_attenuation_of,and_assoc]

theorem is_attenuation_of_refl (capability : Capability) : is_attenuation_of capability capability = true := by
  refine (is_attenuation_of_iff _ _).mpr ⟨lease_is_narrower_refl _,rfl,?_,Finset.Subset.refl _,Finset.Subset.refl _⟩
  exact (selector_contains_iff _ _).mpr fun _ matched => matched

theorem is_attenuation_of_trans {first second third : Capability} (inner : is_attenuation_of first second = true)
    (outer : is_attenuation_of second third = true) : is_attenuation_of first third = true := by
  rw [is_attenuation_of_iff] at *
  obtain ⟨lease,kind,resource,actions,constraints⟩ := inner
  obtain ⟨lease',kind',resource',actions',constraints'⟩ := outer
  exact ⟨lease_is_narrower_trans lease lease',kind.trans kind',selector_contains_trans resource' resource,actions.trans actions',
    constraints'.trans constraints⟩

private theorem live_of_narrower {child parent : Capability} (narrower : lease_is_narrower child.lease parent.lease = true) {turn : Nat}
    (live : child.live turn = true) : parent.live turn = true := by
  unfold Capability.live at *
  obtain nothing | ⟨inner,outer,held,holds,earlier⟩ := (lease_is_narrower_iff _ _).mp narrower
  · rw [nothing]
    rfl
  rw [held] at live
  rw [holds]
  simp only [Option.all_some,Lease.is_expired,Bool.not_eq_true',Option.any_eq_false_iff_get] at live ⊢
  intro bounded
  obtain ⟨expiry,expires,under⟩ := earlier _ (Option.some_get bounded).symm
  have later := live (by rw [expires]; rfl)
  simp only [expires,Option.get_some,decide_eq_false_iff_not,Nat.not_le] at later ⊢
  omega

theorem admits_of_attenuation {child parent : Capability} (attenuates : is_attenuation_of child parent = true)
    {use : Use}
    (admits : child.Admits use) : parent.Admits use := by
  obtain ⟨lease,kind,resource,actions,constraints⟩ := (is_attenuation_of_iff _ _).mp attenuates
  obtain ⟨same,acts,matched,live,met⟩ := admits
  exact ⟨kind ▸ same,actions acts,(selector_contains_iff _ _).mp resource _ matched,live_of_narrower lease live,constraints.trans met⟩

/-- The check passes where every child attenuates some parent. -/
theorem caps_subset_iff (children parents : List Capability) :
    caps_subset children parents = .ok () ↔ ∀ child ∈ children, ∃ parent ∈ parents,
    is_attenuation_of child parent = true := by
  unfold caps_subset
  split
  next clean =>
    rw [List.filter_eq_nil_iff] at clean
    simpa using clean
  next wide =>
  refine ⟨by simp,fun each => absurd (List.filter_eq_nil_iff.mpr ?_) wide⟩
  simpa using each

end Attenuation

end Deepstrike.Capabilities

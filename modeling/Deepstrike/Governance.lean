import Mathlib.Data.Finset.Basic
import Deepstrike.Wire

/-!
The governance gate of tool calls: constraints on arguments, permissions, vetoes and rate limits. Every
stage judges the call, and the most severe verdict stands, the earliest of equals.
-/
namespace Deepstrike.Governance
open Wire

inductive PolicyAction where
  | Allow | Deny | AskUser
  deriving DecidableEq,Repr

inductive GovernanceVerdict where
  | Allow
  | Deny (stage reason : String)
  | AskUser (reason : String)
  | RateLimited (retry_after_ms : Nat)
  deriving DecidableEq,Repr

structure PermissionRule where
  tool_pattern : String
  action : PolicyAction
  deriving DecidableEq,Repr

/-- A pattern is a name, or a prefix or a suffix with a star. -/
def PermissionRule.matches_tool (rule : PermissionRule) (tool_name : String) : Bool :=
  let pattern := rule.tool_pattern.toList
  if pattern = ['*'] then true
  else if pattern.getLast? = some '*' then pattern.dropLast.isPrefixOf tool_name.toList
  else if pattern.head? = some '*' then pattern.tail.isSuffixOf tool_name.toList
  else decide (rule.tool_pattern = tool_name)

structure PermissionManager where
  rules : List PermissionRule
  default : PolicyAction
  deriving DecidableEq,Repr

/-- The first rule that matches decides, and without one the default. -/
def PermissionManager.check (permission : PermissionManager) (call : ToolCall) : Option GovernanceVerdict :=
  match permission.rules.find? fun rule => rule.matches_tool call.name with
  | some rule => match rule.action with
    | .Allow => none
    | .Deny => some (.Deny "permission" s!"tool '{call.name}' denied by rule '{rule.tool_pattern}'")
    | .AskUser => some (.AskUser s!"tool '{call.name}' requires user approval")
  | none => match permission.default with
    | .Allow => none
    | .AskUser => some (.AskUser s!"tool '{call.name}' requires user approval")
    | .Deny => some (.Deny "permission" s!"tool '{call.name}' denied by default policy")

structure VetoAuthority where
  blocked_tools : Finset String

def VetoAuthority.check (veto : VetoAuthority) (call : ToolCall) : Option GovernanceVerdict :=
  if call.name ∈ veto.blocked_tools then some (.Deny "veto" s!"tool '{call.name}' is vetoed") else none

structure RateLimit where
  max_calls : Nat
  window_ms : Nat
  deriving DecidableEq,Repr

/-- A sliding window of calls for each tool. -/
structure RateLimiter where
  windows : String → List Nat
  limits : String → Option RateLimit
  default_limit : RateLimit
  current_time_ms : Nat

namespace RateLimiter

def new (default_limit : RateLimit) : RateLimiter := ⟨fun _ => [],fun _ => none,default_limit,0⟩

def set_limit (limiter : RateLimiter) (tool_name : String) (limit : RateLimit) : RateLimiter :=
  { limiter with limits := fun name => if name = tool_name then some limit else limiter.limits name }

def set_time (limiter : RateLimiter) (now_ms : Nat) : RateLimiter := { limiter with current_time_ms := now_ms }

/-- Drop what has left the window of the tool, and count the call if it has room. -/
def check (limiter : RateLimiter) (call : ToolCall) : Option GovernanceVerdict × RateLimiter :=
  let limit := (limiter.limits call.name).getD limiter.default_limit
  let cutoff := limiter.current_time_ms-limit.window_ms
  let window := (limiter.windows call.name).dropWhile fun time => decide (time < cutoff)
  let keep := fun window => { limiter with windows := fun name => if name = call.name then window else limiter.windows name }
  if limit.max_calls ≤ window.length % 2 ^ 32 then
    let oldest := window.headD limiter.current_time_ms
    (some (.RateLimited (oldest+limit.window_ms-limiter.current_time_ms)),keep window)
  else (none,keep (window ++ [limiter.current_time_ms]))

end RateLimiter

inductive ConstraintRule where
  | Required
  | Enum (values : List String)
  /-- Inclusive bounds in millionths. -/
  | Range (min_micros max_micros : Option Int)
  deriving DecidableEq,Repr

structure ParamConstraint where
  tool : String
  param_path : String
  rule : ConstraintRule
  deriving DecidableEq,Repr

/-- The constraints in order. Reading an argument by its pointer and comparing it, as a text or as a float, is the language's:
    `refusal` is the reason for which an argument breaks a rule. -/
structure ConstraintValidator where
  constraints : List ParamConstraint
  deriving DecidableEq,Repr

variable (refusal : ParamConstraint → Json → Option String)

def ConstraintValidator.validate (validator : ConstraintValidator) (call : ToolCall) : Option GovernanceVerdict :=
  (validator.constraints.filter fun constraint => constraint.tool = call.name).findSome? fun constraint =>
    (refusal constraint call.arguments).map (.Deny "constraint")

structure GovernancePipeline where
  permission : PermissionManager
  veto : VetoAuthority
  rate_limiter : RateLimiter
  constraints : ConstraintValidator
  /-- Withhold what is denied whatever its arguments from the provider's view. -/
  hide_denied_tools : Bool

def severity : GovernanceVerdict → Nat
  | .Deny .. => 3
  | .AskUser .. => 2
  | .RateLimited .. => 1
  | .Allow => 0

namespace GovernancePipeline

def new (default_action : PolicyAction) : GovernancePipeline :=
  ⟨⟨[],default_action⟩,⟨∅⟩,.new ⟨60,60000⟩,⟨[]⟩,false⟩

variable (pipeline : GovernancePipeline)

/-- A veto or a deny permission, which no argument and no moment lifts. -/
def denies_tool (name : String) : Bool :=
  let probe : ToolCall := ⟨"governance-surface",name,"null"⟩
  let denies : Option GovernanceVerdict → Bool
    | some (.Deny ..) => true
    | _ => false
  denies (pipeline.veto.check probe) || denies (pipeline.permission.check probe)

/-- The tools that are kept from the provider. -/
def withheld (names : List String) : List String :=
  if pipeline.hide_denied_tools then names.filter pipeline.denies_tool else []

def set_time (pipeline : GovernancePipeline) (now_ms : Nat) : GovernancePipeline :=
  { pipeline with rate_limiter := pipeline.rate_limiter.set_time now_ms }

/-- Every stage judges the call; the rate limiter counts it whatever the others say. -/
def evaluate (call : ToolCall) : GovernanceVerdict × GovernancePipeline :=
  let (limited,rate_limiter) := pipeline.rate_limiter.check call
  let verdicts := [pipeline.constraints.validate refusal call,pipeline.permission.check call,pipeline.veto.check call,limited].filterMap id
  (verdicts.foldl (fun worst verdict => if severity worst < severity verdict then verdict else worst) .Allow,{ pipeline with rate_limiter })

end GovernancePipeline

/-! What a pipeline accumulates, and what it was built with. -/

namespace GovernancePipeline

/-- The pipeline as it was built, with the windows and the clock of another one. -/
def accumulating (built used : GovernancePipeline) : GovernancePipeline :=
  { built with rate_limiter := { built.rate_limiter with
    windows := used.rate_limiter.windows
    current_time_ms := used.rate_limiter.current_time_ms } }

@[simp] theorem accumulating_self (pipeline : GovernancePipeline) : pipeline.accumulating pipeline = pipeline := rfl

theorem accumulating_set_time {built used : GovernancePipeline} (same : used = built.accumulating used) (now_ms : Nat) :
    used.set_time now_ms = built.accumulating (used.set_time now_ms) := by
  rw [same]
  rfl

theorem accumulating_evaluate {built used : GovernancePipeline} (same : used = built.accumulating used)
    (call : ToolCall) :
    (used.evaluate refusal call).2 = built.accumulating (used.evaluate refusal call).2 := by
  rw [same]
  unfold evaluate RateLimiter.check
  dsimp only [accumulating]
  split <;> rfl

end GovernancePipeline

end Deepstrike.Governance

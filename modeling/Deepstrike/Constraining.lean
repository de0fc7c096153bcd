import Deepstrike.Excerpting
import Deepstrike.Policies

/-!
Constraints on arguments. A constraint names its argument by a dotted path, which the validator turns into
a pointer: a slash or a tilde in the path may send it to another value. A value of another type than the
rule compares passes.
-/
namespace Deepstrike.Governance
open Wire List
open Excerpting (JsonValue)

section Pointers

/-- An escape of a pointer written out. -/
def expand (digit stands : Char) : List Char → List Char
  | [] => []
  | [char] => [char]
  | char :: next :: rest => if char = '~' ∧ next = digit then stands :: expand digit stands rest
    else char :: expand digit stands (next :: rest)

/-- The reference token of a pointer: first the slashes are written out, then the tildes. -/
def unescape (token : List Char) : List Char := expand '0' '~' (expand '1' '/' token)

/-- An index is a decimal number without a leading zero. -/
def parse_index (token : List Char) : Option Nat :=
  if token = [] ∨ !token.all Char.isDigit ∨ (token.head? = some '0' ∧ token.length ≠ 1) then none else some (Nat.ofDigitChars 10 token 0)

variable (value : JsonValue)

def child (token : List Char) : Option JsonValue :=
  match value with
  | .Object fields => fields.lookup (String.ofList token)
  | .Array items => (parse_index token).bind fun index => items[index]?
  | _ => none

/-- What a JSON pointer addresses, as the standard of pointers has it. -/
def resolve (pointer : String) : Option JsonValue :=
  match pointer.toList with
  | [] => some value
  | '/' :: tokens => ((tokens.splitOn '/').map unescape).foldlM child value
  | _ => none

variable (param_path : String)

/-- What a dotted path names: each segment is a key or an index, whatever its characters. -/
def named : Option JsonValue := (param_path.toList.splitOn '.').foldlM child value

/-- The pointer a dotted path is turned into. -/
def slashed : String := String.ofList ('/' :: param_path.toList.map fun char => if char = '.' then '/' else char)

/-- What the pointer of a dotted path leads to: the path is cut at its slashes as well as at its dots, and an escape in a
    segment is written out. -/
def reached : Option JsonValue :=
  (((param_path.toList.map fun char => if char = '.' then '/' else char).splitOn '/').map unescape).foldlM child value

/-- A path without a slash and without a tilde. -/
def Literal : Prop := '/' ∉ param_path.toList ∧ '~' ∉ param_path.toList

private theorem resolve_slashed : resolve value (slashed param_path) = reached value param_path := by
  simp only [resolve,slashed,String.toList_ofList,reached]

private theorem expand_plain {digit stands : Char} {token : List Char} (plain : '~' ∉ token) : expand digit stands token = token := by
  induction token using expand.induct digit with
  | case1 => rfl
  | case2 char => rfl
  | case3 char next rest escaped ih => simp [escaped.1] at plain
  | case4 char next rest unescaped ih =>
    rw [expand,if_neg unescaped,ih fun member => plain (mem_cons_of_mem _ member)]

private theorem splitOn_among {mark : Char} {path piece : List Char} (member : piece ∈ path.splitOn mark) : piece ⊆ path := by
  induction path generalizing piece with
  | nil =>
    rw [splitOn_nil,mem_singleton] at member
    rw [member]
    exact List.Subset.refl []
  | cons char rest ih =>
  rw [splitOn_cons_eq_if_modifyHead] at member
  split at member
  next =>
    obtain rfl | member := mem_cons.mp member
    · exact nil_subset _
    · exact subset_cons_of_subset char (ih member)
  next =>
  cases pieces : rest.splitOn mark with
  | nil => exact absurd pieces (splitOn_ne_nil mark rest)
  | cons first more =>
  rw [pieces,modifyHead_cons] at member
  have among : ∀ piece ∈ first :: more, piece ⊆ rest := fun piece listed => ih (pieces ▸ listed)
  obtain rfl | member := mem_cons.mp member
  · exact cons_subset_cons char (among first mem_cons_self)
  · exact subset_cons_of_subset char (among piece (mem_cons_of_mem first member))

/-- A literal path is read as it is written. -/
theorem Literal.reached {param_path : String} (literal : Literal param_path) (value : JsonValue) :
    reached value param_path = named value param_path := by
  have cuts : ∀ path : List Char, '/' ∉ path → (path.map fun char => if char = '.' then '/' else char).splitOn '/' = path.splitOn '.' := by
    intro path plain
    induction path with
    | nil => rfl
    | cons char rest ih =>
    rw [mem_cons,not_or] at plain
    rw [map_cons,splitOn_cons_eq_if_modifyHead,splitOn_cons_eq_if_modifyHead,ih plain.2]
    by_cases dot : char = '.'
    · simp [dot]
    · simp [dot,Ne.symm plain.1]
  have pieces : (param_path.toList.splitOn '.').map unescape = param_path.toList.splitOn '.' := by
    refine (map_congr_left fun piece member => ?_).trans (map_id _)
    have plain : '~' ∉ piece := fun tilde => literal.2 (splitOn_among member tilde)
    rw [unescape,expand_plain plain,expand_plain plain,id]
  rw [Governance.reached,cuts _ literal.1,pieces,named]

end Pointers

/-- What the validator takes from its libraries: the value a written argument stands for, the lookup of a pointer in it,
    and floats. -/
structure ValueLibrary where
  value_of : Json → JsonValue
  pointer : JsonValue → String → Option JsonValue
  Float : Type
  as_f64 : String → Option Float
  from_micros : Int → Float
  lt : Float → Float → Bool
  print : Float → String

/-- A list of texts as the debugger prints it. -/
def debug_list (texts : List String) : String := "[" ++ ", ".intercalate (texts.map String.quote) ++ "]"

namespace ValueLibrary
variable (library : ValueLibrary)

/-- The reason for which a value breaks a rule. -/
def broken (constraint : ParamConstraint) (value : Option JsonValue) : Option String :=
  match constraint.rule,value with
  | .Required,none | .Required,some .Null => some s!"parameter '{constraint.param_path}' is required for '{constraint.tool}'"
  | .Required,some _ => none
  | .Enum allowed,some (.Text text) =>
    if text ∈ allowed then none
    else some s!"parameter '{constraint.param_path}' value '{text}' not in allowed: {debug_list allowed}"
  | .Enum _,_ => none
  | .Range min max,some (.Number printed) => (library.as_f64 printed).bind fun value =>
    (min.bind fun low => if library.lt value (library.from_micros low) then
      some s!"parameter '{constraint.param_path}' value {library.print value} below minimum {library.print (library.from_micros low)}" else none).or
    (max.bind fun high => if library.lt (library.from_micros high) value then
      some s!"parameter '{constraint.param_path}' value {library.print value} above maximum {library.print (library.from_micros high)}" else none)
  | .Range _ _,_ => none

/-- The reason for which an argument breaks a rule, the argument read through the pointer its path is turned into. -/
def refusal (constraint : ParamConstraint) (arguments : Json) : Option String :=
  library.broken constraint (library.pointer (library.value_of arguments) (slashed constraint.param_path))

/-- The number lies in the bounds. -/
def Within (min max : Option Int) (printed : String) : Prop :=
  ∃ value, library.as_f64 printed = some value ∧ (∀ low ∈ min, library.lt value (library.from_micros low) = false) ∧
    ∀ high ∈ max, library.lt (library.from_micros high) value = false

/-- What a constraint asks of the value it is on. -/
def Holds : ConstraintRule → Option JsonValue → Prop
  | .Required,value => ∃ found, value = some found ∧ found ≠ .Null
  | .Enum allowed,value => ∀ found, value = some found → ∃ text ∈ allowed, found = .Text text
  | .Range min max,value => ∀ found, value = some found → ∃ printed, found = .Number printed ∧ library.Within min max printed

/-- The value breaks the rule as the validator compares it: a required value that is absent or null, a text that is not
    listed, a number out of bounds. -/
def Refutes : ConstraintRule → Option JsonValue → Prop
  | .Required,value => value = none ∨ value = some .Null
  | .Enum allowed,value => ∃ text, value = some (.Text text) ∧ text ∉ allowed
  | .Range min max,value => ∃ printed, value = some (.Number printed) ∧ (library.as_f64 printed).isSome = true ∧
    ¬library.Within min max printed

/-- The value is of another JSON type than the rule compares. -/
def Foreign : ConstraintRule → Option JsonValue → Prop
  | .Required,_ => False
  | .Enum _,value => ∃ found, value = some found ∧ ∀ text, found ≠ .Text text
  | .Range _ _,value => ∃ found, value = some found ∧ ∀ printed, found = .Number printed → library.as_f64 printed = none

variable {library}

private theorem broken_iff {constraint : ParamConstraint} {value : Option JsonValue} :
    library.broken constraint value = none ↔ ¬library.Refutes constraint.rule value := by
  unfold broken
  cases constraint.rule with
  | Required =>
    rcases value with _ | (_ | _ | _ | _ | _ | _) <;> simp [Refutes]
  | Enum allowed =>
    rcases value with _ | (_ | _ | _ | text | _ | _) <;> simp [Refutes]
  | Range min max =>
  rcases value with _ | (_ | _ | printed | _ | _ | _)
  case some.Number =>
    simp only [Refutes]
    cases floated : library.as_f64 printed with
    | none => simp [floated]
    | some number =>
      simp [floated,Within]
  all_goals simp [Refutes]

/-- A value keeps a rule when it does not break it as it is compared and is of the type that is. -/
theorem holds_iff {rule : ConstraintRule} {value : Option JsonValue} :
    library.Holds rule value ↔ ¬library.Refutes rule value ∧ ¬library.Foreign rule value := by
  cases rule with
  | Required =>
    rcases value with _ | (_ | _ | _ | _ | _ | _) <;> simp [Holds,Refutes,Foreign]
  | Enum allowed =>
    rcases value with _ | (_ | _ | _ | text | _ | _) <;> simp [Holds,Refutes,Foreign]
  | Range min max =>
  rcases value with _ | (_ | _ | printed | _ | _ | _)
  case some.Number =>
    cases floated : library.as_f64 printed with
    | none => simp [Holds,Refutes,Foreign,Within,floated]
    | some number => simp [Holds,Refutes,Foreign,Within,floated]
  all_goals simp [Holds,Refutes,Foreign]

end ValueLibrary

/-- The validator keeps its word on a call: it passes the call only if every constraint on the tool holds of the value its
    path names. -/
def Enforces (library : ValueLibrary) (validator : ConstraintValidator) (call : ToolCall) : Prop :=
  validator.validate library.refusal call = none → ∀ constraint ∈ validator.constraints, constraint.tool = call.name →
    library.Holds constraint.rule (named (library.value_of call.arguments) constraint.param_path)

/-- The call passes when no constraint on its tool is broken by the value its path leads to. -/
theorem validate_none_iff {library : ValueLibrary}
    (standard : ∀ value pointer, library.pointer value pointer = resolve value pointer)
    {validator : ConstraintValidator} {call : ToolCall} : validator.validate library.refusal call = none ↔
    ∀ constraint ∈ validator.constraints, constraint.tool = call.name →
      ¬library.Refutes constraint.rule (reached (library.value_of call.arguments) constraint.param_path) := by
  unfold ConstraintValidator.validate
  simp only [findSome?_eq_none_iff,mem_filter,decide_eq_true_eq,and_imp,Option.map_eq_none_iff,ValueLibrary.refusal,
    ValueLibrary.broken_iff,standard,resolve_slashed]

/-- The validator keeps its word on a call exactly when some constraint on the tool is broken by the value its path leads to,
    or none is on a value of another type, and none whose path has a slash or a tilde is broken by the value it names. -/
theorem enforces_iff (library : ValueLibrary)
    (standard : ∀ value pointer, library.pointer value pointer = resolve value pointer)
    (validator : ConstraintValidator) (call : ToolCall) : Enforces library validator call ↔
    (∃ constraint ∈ validator.constraints, constraint.tool = call.name ∧
      library.Refutes constraint.rule (reached (library.value_of call.arguments) constraint.param_path)) ∨
    ∀ constraint ∈ validator.constraints, constraint.tool = call.name →
      ¬library.Foreign constraint.rule (named (library.value_of call.arguments) constraint.param_path) ∧
      (¬Literal constraint.param_path →
        ¬library.Refutes constraint.rule (named (library.value_of call.arguments) constraint.param_path)) := by
  rw [Enforces,validate_none_iff standard]
  by_cases passes : ∀ constraint ∈ validator.constraints, constraint.tool = call.name →
      ¬library.Refutes constraint.rule (reached (library.value_of call.arguments) constraint.param_path)
  · constructor
    · intro enforces
      refine .inr fun constraint listed on_tool => ?_
      obtain ⟨unbroken,own⟩ := ValueLibrary.holds_iff.mp (enforces passes constraint listed on_tool)
      exact ⟨own,fun _ => unbroken⟩
    rintro (⟨constraint,listed,on_tool,breaks⟩ | kept) _ other listed' on_tool'
    · exact absurd breaks (passes constraint listed on_tool)
    obtain ⟨own,unbroken⟩ := kept other listed' on_tool'
    refine ValueLibrary.holds_iff.mpr ⟨?_,own⟩
    by_cases literal : Literal other.param_path
    · rw [← literal.reached]
      exact passes other listed' on_tool'
    · exact unbroken literal
  · refine iff_of_true (fun every => absurd every passes) (.inl ?_)
    push Not at passes
    exact passes

/-- A library whose floats are whole numbers, and which reads every argument as the given value. -/
def plainLibrary (value : JsonValue) : ValueLibrary :=
  ⟨fun _ => value,resolve,Int,String.toInt?,fun micros => micros/1000000,fun low high => decide (low < high),toString⟩

/-- A text under its enumeration, at a plain path. -/
theorem enforces_text : Enforces (plainLibrary (.Object [("mode",.Text "read")]))
    ⟨[⟨"set_mode","mode",.Enum ["read","write"]⟩]⟩ ⟨"call-1","set_mode",""⟩ := by
  refine (enforces_iff (plainLibrary _) (fun _ _ => rfl) _ _).mpr (.inr fun constraint listed _ => ?_)
  obtain rfl := mem_singleton.mp listed
  have read : named (.Object [("mode",.Text "read")]) "mode" = some (.Text "read") := by rfl
  refine ⟨?_,fun slashed => absurd (by unfold Literal; decide) slashed⟩
  rintro ⟨found,same,other⟩
  exact other "read" (Option.some.inj (same.symm.trans read))

/-- An array under an enumeration passes, though it is no permitted text. -/
theorem shaped_value_passes :
    ¬∀ (library : ValueLibrary) (policy : Policies.ResolvedGovernancePolicy) (rule_bound : Nat) (pipeline : GovernancePipeline)
    (call : ToolCall), (∀ value pointer, library.pointer value pointer = resolve value pointer) →
    Policies.validate_governance policy rule_bound = .ok () → Policies.core_governance policy = some pipeline →
    Enforces library pipeline.constraints call := by
  intro enforces
  have kept := enforces (plainLibrary (.Object [("mode",.Array [.Text "exec"])]))
    ⟨.Allow,[],[],[],[⟨"set_mode","mode",.Enum ["read","write"]⟩],false⟩ 1 _ ⟨"call-1","set_mode",""⟩ (fun _ _ => rfl) (by decide) rfl
  obtain ⟨text,-,same⟩ := kept (by decide) _ mem_cons_self rfl (.Array [.Text "exec"]) rfl
  cases same

end Deepstrike.Governance

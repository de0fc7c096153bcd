import Mathlib.Data.List.Infix
import Deepstrike.Policies

/-!
Tool patterns as globs. What the matcher of a permission rule accepts, the pattern globs; the converse
holds where the only star stands at one end. Elsewhere a star is compared as a character, and the
rules behind the pattern, or the default, decide in its place.
-/
namespace Deepstrike.Globs
open List
variable {α : Type} [DecidableEq α] (star : α)

/-- A pattern read as a glob: each star stands for anything. -/
def glob : List α → List α → Bool
  | [],name => name.isEmpty
  | token :: pattern,name =>
    if token = star then name.tails.any fun rest => glob pattern rest
    else decide (name.head? = some token) && glob pattern name.tail

variable {star} {pattern left right : List α}

theorem glob_star {name : List α} : glob star (star :: pattern) name = true ↔ ∃ any rest, name = any ++ rest ∧
    glob star pattern rest = true := by
  rw [glob,if_pos rfl,any_eq_true]
  constructor
  · rintro ⟨rest,tail,globbed⟩
    obtain ⟨any,rfl⟩ := (mem_tails _ _).mp tail
    exact ⟨any,rest,rfl,globbed⟩
  · rintro ⟨any,rest,rfl,globbed⟩
    exact ⟨rest,(mem_tails _ _).mpr (suffix_append any rest),globbed⟩

theorem glob_token {token : α} (other : token ≠ star) {name : List α} :
    glob star (token :: pattern) name = true ↔ ∃ rest, name = token :: rest ∧ glob star pattern rest = true := by
  rw [glob,if_neg other]
  rw [Bool.and_eq_true,decide_eq_true_eq]
  constructor
  · rintro ⟨first,globbed⟩
    obtain ⟨rest,rfl⟩ := head?_eq_some_iff.mp first
    exact ⟨rest,rfl,globbed⟩
  · rintro ⟨rest,rfl,globbed⟩
    exact ⟨rfl,globbed⟩

private theorem glob_append {front back : List α} (first : glob star left front = true) (second : glob star right back = true) :
    glob star (left ++ right) (front ++ back) = true := by
  induction left generalizing front with
  | nil =>
    obtain rfl : front = [] := isEmpty_iff.mp first
    exact second
  | cons token pattern ih =>
  by_cases starred : token = star
  · subst starred
    obtain ⟨any,rest,rfl,globbed⟩ := glob_star.mp first
    exact glob_star.mpr ⟨any,rest ++ back,append_assoc .. ,ih globbed⟩
  · obtain ⟨rest,rfl,globbed⟩ := (glob_token starred).mp first
    exact (glob_token starred).mpr ⟨rest ++ back,rfl,ih globbed⟩

private theorem glob_any (name : List α) : glob star [star] name = true := glob_star.mpr ⟨name,[],(append_nil name).symm,rfl⟩

private theorem glob_self (pattern : List α) : glob star pattern pattern = true := by
  induction pattern with
  | nil => rfl
  | cons token pattern ih =>
  by_cases starred : token = star
  · subst starred
    exact glob_star.mpr ⟨[token],pattern,rfl,ih⟩
  · exact (glob_token starred).mpr ⟨pattern,rfl,ih⟩

private theorem glob_plain_append (plain : star ∉ left) {name : List α} :
    glob star (left ++ right) name = true ↔ ∃ rest, name = left ++ rest ∧ glob star right rest = true := by
  induction left generalizing name with
  | nil => simp
  | cons token pattern ih =>
  rw [mem_cons,not_or] at plain
  rw [cons_append,glob_token (Ne.symm plain.1)]
  constructor
  · rintro ⟨rest,rfl,globbed⟩
    obtain ⟨behind,rfl,rest_globbed⟩ := (ih plain.2).mp globbed
    exact ⟨behind,rfl,rest_globbed⟩
  · rintro ⟨rest,rfl,globbed⟩
    exact ⟨pattern ++ rest,rfl,(ih plain.2).mpr ⟨rest,rfl,globbed⟩⟩

private theorem glob_plain (plain : star ∉ pattern) {name : List α} : glob star pattern name = true ↔ name = pattern := by
  have whole := @glob_plain_append α _ star pattern [] plain name
  rw [append_nil] at whole
  rw [whole]
  constructor
  · rintro ⟨rest,rfl,empty⟩
    obtain rfl : rest = [] := isEmpty_iff.mp empty
    exact append_nil pattern
  · rintro rfl
    exact ⟨[],(append_nil _).symm,rfl⟩

private theorem glob_unstarred (pattern : List α) : glob star pattern (pattern.filter fun token => decide (token ≠ star)) = true := by
  induction pattern with
  | nil => rfl
  | cons token pattern ih =>
  by_cases starred : token = star
  · subst starred
    rw [filter_cons_of_neg (by simp)]
    exact glob_star.mpr ⟨[],_,rfl,ih⟩
  · rw [filter_cons_of_pos (by simpa using starred)]
    exact (glob_token starred).mpr ⟨_,rfl,ih⟩

end Deepstrike.Globs

namespace Deepstrike.Governance
open Wire Globs List PermissionManager

namespace PermissionRule
variable {rule : PermissionRule} {name : String}

def globs (rule : PermissionRule) (name : String) : Bool := glob '*' rule.tool_pattern.toList name.toList

/-- What the matcher compares: what stands before an end star, else what stands behind a first star, else the whole pattern. -/
theorem matches_tool_iff : rule.matches_tool name = true ↔
    (∃ front, rule.tool_pattern.toList = front ++ ['*'] ∧ front <+: name.toList) ∨
    (rule.tool_pattern.toList.getLast? ≠ some '*' ∧ ∃ back, rule.tool_pattern.toList = '*' :: back ∧
    back <:+ name.toList) ∨
    (rule.tool_pattern.toList.getLast? ≠ some '*' ∧ rule.tool_pattern.toList.head? ≠ some '*' ∧
    rule.tool_pattern = name) := by
  unfold matches_tool
  dsimp only
  by_cases ends : rule.tool_pattern.toList.getLast? = some '*'
  · obtain ⟨front,whole⟩ := getLast?_eq_some_iff.mp ends
    have compared : (if rule.tool_pattern.toList = ['*'] then true
        else if rule.tool_pattern.toList.getLast? = some '*' then rule.tool_pattern.toList.dropLast.isPrefixOf name.toList
        else if rule.tool_pattern.toList.head? = some '*' then rule.tool_pattern.toList.tail.isSuffixOf name.toList
        else decide (rule.tool_pattern = name)) = true ↔ front <+: name.toList := by
      by_cases lone : rule.tool_pattern.toList = ['*']
      · obtain rfl : front = [] := by simpa [lone] using whole.symm
        simp [lone]
      · rw [if_neg lone,if_pos ends,whole,dropLast_concat,List.isPrefixOf_iff_prefix]
    rw [compared]
    constructor
    · exact fun begins => .inl ⟨front,whole,begins⟩
    rintro (⟨front',whole',begins⟩ | ⟨differs,-⟩ | ⟨differs,-⟩)
    · obtain rfl : front = front' := append_cancel_right (whole.symm.trans whole')
      exact begins
    · exact absurd ends differs
    · exact absurd ends differs
  have several : rule.tool_pattern.toList ≠ ['*'] := by
    intro lone
    exact ends (by rw [lone]; rfl)
  have no_front : ¬∃ front, rule.tool_pattern.toList = front ++ ['*'] ∧ front <+: name.toList := by
    rintro ⟨front,whole,-⟩
    exact ends (by rw [whole,getLast?_concat])
  rw [if_neg several,if_neg ends]
  by_cases begins : rule.tool_pattern.toList.head? = some '*'
  · obtain ⟨back,whole⟩ := head?_eq_some_iff.mp begins
    rw [if_pos begins,whole,tail_cons,isSuffixOf_iff_suffix]
    simp [whole] at ends no_front ⊢
    tauto
  rw [if_neg begins,decide_eq_true_iff]
  constructor
  · exact fun same => .inr (.inr ⟨ends,begins,same⟩)
  · rintro (front | ⟨-,back,whole,-⟩ | ⟨-,-,same⟩)
    · exact absurd front no_front
    · exact absurd (by rw [whole]; rfl) begins
    · exact same

private theorem globs_of_matches (matched : rule.matches_tool name = true) : rule.globs name = true := by
  unfold globs
  obtain ⟨front,whole,rest,shown⟩ | ⟨-,back,whole,any,shown⟩ | ⟨-,-,rfl⟩ := matches_tool_iff.mp matched
  · rw [whole,← shown]
    exact glob_append (glob_self front) (glob_any rest)
  · rw [whole,← shown]
    exact glob_append (glob_any any) (glob_self back)
  · exact glob_self _

/-- A pattern with no star, or with one star that stands at an end. -/
def Plain (rule : PermissionRule) : Prop := '*' ∉ rule.tool_pattern.toList.dropLast ∨ '*' ∉ rule.tool_pattern.toList.tail

private theorem Plain.matches_of_globs (plain : rule.Plain) (globbed : rule.globs name = true) : rule.matches_tool name = true := by
  rw [matches_tool_iff]
  unfold globs at globbed
  by_cases ends : rule.tool_pattern.toList.getLast? = some '*'
  · obtain ⟨front,whole⟩ := getLast?_eq_some_iff.mp ends
    have unstarred : '*' ∉ front := by
      rcases plain with plain | plain
      · rwa [whole,dropLast_concat] at plain
      · cases front with
        | nil => exact not_mem_nil
        | cons first rest => simp [whole] at plain
    rw [whole] at globbed
    obtain ⟨rest,shown,-⟩ := (glob_plain_append unstarred).mp globbed
    exact .inl ⟨front,whole,rest,shown.symm⟩
  by_cases begins : rule.tool_pattern.toList.head? = some '*'
  · obtain ⟨back,whole⟩ := head?_eq_some_iff.mp begins
    have unstarred : '*' ∉ back := by
      rcases plain with plain | plain
      · cases back with
        | nil => exact not_mem_nil
        | cons first rest => simp [whole] at plain
      · rwa [whole] at plain
    rw [whole] at globbed
    obtain ⟨any,rest,shown,globbed⟩ := glob_star.mp globbed
    rw [glob_plain unstarred] at globbed
    subst globbed
    exact .inr (.inl ⟨ends,rest,whole,any,shown.symm⟩)
  have unstarred : '*' ∉ rule.tool_pattern.toList := by
    intro starred
    obtain ⟨front,back,whole⟩ := append_of_mem starred
    rcases front with _ | ⟨first,front⟩
    · exact begins (by rw [whole]; rfl)
    rcases back.eq_nil_or_concat' with rfl | ⟨back,last,rfl⟩
    · exact ends (by rw [whole,getLast?_concat])
    rcases plain with plain | plain
    · rw [whole,← cons_append,← append_assoc,dropLast_concat] at plain
      simp at plain
    · simp [whole] at plain
  rw [glob_plain unstarred] at globbed
  exact .inr (.inr ⟨ends,begins,String.toList_injective globbed.symm⟩)

/-- A rule matches as its glob does, whatever the name, exactly when its pattern is plain. -/
theorem matches_all_iff : (∀ name, rule.matches_tool name = true ↔ rule.globs name = true) ↔ rule.Plain := by
  constructor
  · intro agrees
    by_contra starred
    rw [Plain,not_or,not_not,not_not] at starred
    obtain ⟨in_front,behind⟩ := starred
    have unstarred : '*' ∉ (String.ofList (rule.tool_pattern.toList.filter fun char => decide (char ≠ '*'))).toList := by simp
    have globbed : rule.globs (String.ofList (rule.tool_pattern.toList.filter fun char => decide (char ≠ '*'))) = true := by
      rw [globs,String.toList_ofList]
      exact glob_unstarred _
    obtain ⟨front,whole,begins⟩ | ⟨-,back,whole,ends⟩ | ⟨-,-,same⟩ := matches_tool_iff.mp ((agrees _).mpr globbed)
    · rw [whole,dropLast_concat] at in_front
      exact unstarred (begins.subset in_front)
    · rw [whole] at behind
      exact unstarred (ends.subset behind)
    · rw [← same] at unstarred
      exact unstarred (mem_of_mem_tail behind)
  · exact fun plain name => ⟨globs_of_matches,plain.matches_of_globs⟩

end PermissionRule

/-- The action a verdict stands for. -/
def acted : Option GovernanceVerdict → PolicyAction
  | some (.Deny ..) => .Deny
  | some (.AskUser _) => .AskUser
  | _ => .Allow

namespace PermissionManager
variable {permission : PermissionManager} {name : String}

/-- The action of the first rule that a reading of the patterns accepts the name by, and without one the default. -/
def decided (permission : PermissionManager) (accepts : PermissionRule → Bool) : PolicyAction :=
  ((permission.rules.find? accepts).map PermissionRule.action).getD permission.default

private theorem acted_check (permission : PermissionManager) (call : ToolCall) :
    acted (permission.check call) = permission.decided fun rule => rule.matches_tool call.name := by
  unfold check decided
  cases permission.rules.find? fun rule => rule.matches_tool call.name with
  | none => cases permission.default <;> rfl
  | some rule => cases shown : rule.action <;> simp [shown,acted]

variable {accepts : PermissionRule → Bool} {before after : List PermissionRule}

theorem decided_first {rule : PermissionRule}
    (whole : permission.rules = before ++ rule :: after) (passed : ∀ earlier ∈ before, accepts earlier = false)
    (first : accepts rule = true) :
    permission.decided accepts = rule.action := by
  have found : permission.rules.find? accepts = some rule := by
    rw [whole,find?_append,find?_eq_none.mpr fun earlier listed => by simp [passed earlier listed],find?_cons_of_pos first]
    rfl
  simp [decided,found]

theorem decided_none (passed : ∀ rule ∈ permission.rules, accepts rule = false) :
    permission.decided accepts = permission.default := by
  have missing : permission.rules.find? accepts = none := find?_eq_none.mpr fun rule listed => by simp [passed rule listed]
  simp [decided,missing]

private theorem decided_drop (whole : permission.rules = before ++ after)
    (passed : ∀ earlier ∈ before, accepts earlier = false) :
    permission.decided accepts = decided ⟨after,permission.default⟩ accepts := by
  have missing : before.find? accepts = none := find?_eq_none.mpr fun earlier listed => by simp [passed earlier listed]
  simp [decided,whole,find?_append,missing]

private theorem first_or_none (accepts : PermissionRule → Bool) (rules : List PermissionRule) :
    (∀ rule ∈ rules, accepts rule = false) ∨
    ∃ before rule after, rules = before ++ rule :: after ∧ (∀ earlier ∈ before, accepts earlier = false) ∧ accepts rule = true := by
  cases found : rules.find? accepts with
  | none => exact .inl fun rule listed => by simpa using find?_eq_none.mp found rule listed
  | some rule =>
  obtain ⟨accepted,before,after,whole,passed⟩ := find?_eq_some_iff_append.mp found
  exact .inr ⟨before,rule,after,whole,fun earlier listed => by simpa using passed earlier listed,accepted⟩

private theorem first_unique {before' after' : List PermissionRule} {rule rule' : PermissionRule}
    (same : before ++ rule :: after = before' ++ rule' :: after') (passed : ∀ earlier ∈ before, accepts earlier = false) (first : accepts rule = true)
    (passed' : ∀ earlier ∈ before', accepts earlier = false) (first' : accepts rule' = true) : rule' = rule ∧ after' = after := by
  have dropped : ∀ {before after : List PermissionRule} {rule : PermissionRule}, (∀ earlier ∈ before, accepts earlier = false) → accepts rule = true →
      (before ++ rule :: after).dropWhile (fun rule => !accepts rule) = rule :: after := by
    intro before after rule passed first
    rw [dropWhile_append_of_pos fun earlier listed => by simp [passed earlier listed],dropWhile_cons_of_neg (by simp [first])]
  have both : rule' :: after' = rule :: after := by
    rw [← dropped passed' first',← dropped passed first,same]
  exact cons.inj both

/-- The action that rules and a default come to by the matcher: of the first rule it accepts the name by, or the default. -/
def Leads (name : String) (rules : List PermissionRule) (default action : PolicyAction) : Prop :=
  (∃ before rule after, rules = before ++ rule :: after ∧ (∀ earlier ∈ before, earlier.matches_tool name = false) ∧
    rule.matches_tool name = true ∧ rule.action = action) ∨
  ((∀ rule ∈ rules, rule.matches_tool name = false) ∧ default = action)

private theorem leads_iff {rules : List PermissionRule} {default action : PolicyAction} :
    Leads name rules default action ↔ decided ⟨rules,default⟩ (fun rule => rule.matches_tool name) = action := by
  constructor
  · rintro (⟨before,rule,after,whole,passed,matched,rfl⟩ | ⟨passed,rfl⟩)
    · exact decided_first whole passed matched
    · exact decided_none passed
  · intro came
    obtain passed | ⟨before,rule,after,whole,passed,matched⟩ := first_or_none (fun rule => rule.matches_tool name) rules
    · exact .inr ⟨passed,(decided_none passed).symm.trans came⟩
    · exact .inl ⟨before,rule,after,whole,passed,matched,(decided_first whole passed matched).symm.trans came⟩

end PermissionManager

namespace GovernancePipeline

private theorem denies_tool_iff (pipeline : GovernancePipeline) (name : String) : pipeline.denies_tool name = true ↔
    ∀ call : ToolCall, call.name = name → acted (pipeline.veto.check call) = .Deny ∨ acted (pipeline.permission.check call) = .Deny := by
  have vetoed (call : ToolCall) : acted (pipeline.veto.check call) = .Deny ↔ call.name ∈ pipeline.veto.blocked_tools := by
    unfold VetoAuthority.check
    split
    next blocked => simp [acted,blocked]
    next free => simp [acted,free]
  have probed : pipeline.denies_tool name = true ↔
      acted (pipeline.veto.check ⟨"governance-surface",name,"null"⟩) = .Deny ∨
      acted (pipeline.permission.check ⟨"governance-surface",name,"null"⟩) = .Deny := by
    unfold denies_tool
    dsimp only
    generalize pipeline.veto.check _ = first
    generalize pipeline.permission.check _ = second
    rcases first with _ | (_ | _ | _ | _) <;> rcases second with _ | (_ | _ | _ | _) <;> simp [acted]
  rw [probed]
  constructor
  · intro denied call named
    rw [vetoed,acted_check] at denied ⊢
    rwa [named]
  · exact fun denied => denied _ rfl

/-- The permission of a call is that of the first rule whose pattern globs the tool, unless the matcher passes that rule over
    and what it comes to behind it is another action. -/
theorem check_globs_iff (pipeline : GovernancePipeline) (name : String) :
    ((∀ call : ToolCall, call.name = name →
    acted (pipeline.permission.check call) = pipeline.permission.decided fun rule => rule.globs name) ∧
      (pipeline.denies_tool name = true ↔
        ∀ call : ToolCall, call.name = name → acted (pipeline.veto.check call) = .Deny ∨
        acted (pipeline.permission.check call) = .Deny)) ↔
    ∀ before rule after, pipeline.permission.rules = before ++ rule :: after →
      (∀ earlier ∈ before, earlier.globs name = false) →
      rule.globs name = true → rule.matches_tool name = true ∨
      PermissionManager.Leads name after pipeline.permission.default rule.action := by
  have unmatched {rule : PermissionRule} (unglobbed : rule.globs name = false) : rule.matches_tool name = false := by
    cases matched : rule.matches_tool name with
    | false => rfl
    | true =>
    rw [PermissionRule.globs_of_matches matched] at unglobbed
    cases unglobbed
  have checked : (∀ call : ToolCall, call.name = name →
    acted (pipeline.permission.check call) = pipeline.permission.decided fun rule => rule.globs name) ↔
      (pipeline.permission.decided fun rule => rule.matches_tool name) = pipeline.permission.decided fun rule => rule.globs name := by
    constructor
    · exact fun governs => (pipeline.permission.acted_check ⟨"governance-surface",name,"null"⟩).symm.trans (governs _ rfl)
    · rintro same call rfl
      rw [acted_check,same]
  rw [and_iff_left (pipeline.denies_tool_iff name),checked]
  obtain none_globs | ⟨before,rule,after,whole,passed,globbed⟩ := first_or_none (fun rule => rule.globs name) pipeline.permission.rules
  · rw [decided_none none_globs,decided_none fun rule listed => unmatched (none_globs rule listed)]
    refine iff_of_true rfl fun before rule after whole _ globbed => ?_
    rw [none_globs rule (by simp [whole])] at globbed
    cases globbed
  rw [decided_first whole passed globbed]
  -- Up to the first rule that globs the name nothing matches; what stands behind it decides if it does not match either.
  have silent : ∀ earlier ∈ before, earlier.matches_tool name = false := fun earlier listed => unmatched (passed earlier listed)
  have first_only : (∀ before rule after, pipeline.permission.rules = before ++ rule :: after → (∀ earlier ∈ before, earlier.globs name = false) →
      rule.globs name = true → rule.matches_tool name = true ∨ PermissionManager.Leads name after pipeline.permission.default rule.action) ↔
      (rule.matches_tool name = true ∨ PermissionManager.Leads name after pipeline.permission.default rule.action) := by
    constructor
    · exact fun holds => holds before rule after whole passed globbed
    · intro holds before' rule' after' whole' passed' globbed'
      obtain ⟨rfl,rfl⟩ := first_unique (whole.symm.trans whole') passed globbed passed' globbed'
      exact holds
  rw [first_only]
  by_cases matched : rule.matches_tool name = true
  · rw [decided_first whole silent matched]
    exact iff_of_true rfl (.inl matched)
  have split_off : pipeline.permission.rules = (before ++ [rule]) ++ after := by rw [whole,append_assoc]; rfl
  rw [decided_drop split_off,← leads_iff,or_iff_right matched]
  intro earlier listed
  obtain listed | listed := mem_append.mp listed
  · exact silent earlier listed
  · rw [mem_singleton.mp listed]
    exact Bool.eq_false_iff.mpr matched

/-- A deny rule with two stars is legal, globs the tool, and denies nothing. -/
theorem starred_deny_allows :
    ¬∀ (policy : Policies.ResolvedGovernancePolicy) (rule_bound : Nat) (pipeline : GovernancePipeline) (call : ToolCall),
    Policies.validate_governance policy rule_bound = .ok () → Policies.core_governance policy = some pipeline →
    acted (pipeline.permission.check call) = pipeline.permission.decided fun rule => rule.globs call.name := by
  intro governs
  have same := governs ⟨.Allow,[⟨"*drop*",.Deny⟩],[],[],[],false⟩ 1 _ ⟨"call-1","db.drop.table","null"⟩ (by decide) rfl
  exact absurd same (by decide)

end GovernancePipeline
end Deepstrike.Governance

import Mathlib.Data.List.Induction
import Deepstrike.Governance
import Deepstrike.Record
import Deepstrike.SlidingWindows

/-!
The rate limiter over a sequence of calls. What it keeps of a tool is the sliding window of one
millisecond more than configured, since a call as old as the window still counts; the wait it names
ends when the oldest call is as old as the window, which is one millisecond too early.
-/
namespace Deepstrike.Governance
open Wire Record SlidingWindows List

/-- A call and the time the clock is set to before it. -/
structure Ask where
  call : ToolCall
  now_ms : Nat
  deriving DecidableEq,Repr

/-- The times at which a tool was called. -/
def calls (tool : String) (asks : List Ask) : List Nat := (asks.filter fun ask => decide (ask.call.name = tool)).map Ask.now_ms

private theorem calls_append (tool : String) (left right : List Ask) : calls tool (left ++ right) = calls tool left ++ calls tool right := by
  simp [calls]

private theorem calls_same (ask : Ask) : calls ask.call.name [ask] = [ask.now_ms] := by simp [calls]

private theorem calls_other {tool : String} {ask : Ask} (other : ask.call.name ≠ tool) : calls tool [ask] = [] := by simp [calls,other]

namespace RateLimiter
variable (limiter : RateLimiter)

/-- A limiter that has counted nothing yet, whatever its limits. -/
def Fresh : Prop := ∀ tool, limiter.windows tool = []

def limit (tool : String) : RateLimit := (limiter.limits tool).getD limiter.default_limit

def ask (ask : Ask) : Option GovernanceVerdict × RateLimiter := (limiter.set_time ask.now_ms).check ask.call

/-- What a check at the time keeps of the calls of the tool. -/
def kept (ask : Ask) : List Nat :=
  (limiter.windows ask.call.name).dropWhile fun time => decide (time < ask.now_ms-(limiter.limit ask.call.name).window_ms)

/-- The call the wait is counted from. -/
def oldest (ask : Ask) : Nat := (limiter.kept ask).headD ask.now_ms

/-- How many earlier calls of the tool lie in the window that ends with the call, both ends included. -/
def recent (before : List Ask) (ask : Ask) : Nat :=
  (calls ask.call.name before).countP fun time => decide (ask.now_ms ≤ time+(limiter.limit ask.call.name).window_ms)

end RateLimiter

/-- A limiter and the calls it has admitted. -/
structure Served where
  limiter : RateLimiter
  admitted : List Ask

def Served.ask (served : Served) (ask : Ask) : Served where
  limiter := (served.limiter.ask ask).2
  admitted := if (served.limiter.ask ask).1.isNone then served.admitted ++ [ask] else served.admitted

def RateLimiter.serve (limiter : RateLimiter) (asks : List Ask) : Served := asks.foldl Served.ask ⟨limiter,[]⟩

namespace RateLimiter
variable {limiter : RateLimiter} {admitted : List Ask} {now : Nat}

private theorem serve_append (asks : List Ask) (ask : Ask) : limiter.serve (asks ++ [ask]) = (limiter.serve asks).ask ask := by
  simp [serve]

/-- Every tool's window stands for the calls that were admitted of it. -/
def Counts (limiter : RateLimiter) (admitted : List Ask) (now : Nat) : Prop :=
  ∀ tool, Remembers (limiter.limit tool).max_calls ((limiter.limit tool).window_ms+1) now (calls tool admitted) (limiter.windows tool)

/-- The maxima fit their type. -/
def Typed (limiter : RateLimiter) : Prop := ∀ tool, (limiter.limit tool).max_calls < 2 ^ 32

private theorem dropWhile_eq_live {window : Nat} {stamps : List Nat} (ordered : stamps.Pairwise (· ≤ ·)) (now : Nat) :
    (stamps.dropWhile fun time => decide (time < now-window)) = live (window+1) now stamps := by
  induction stamps with
  | nil => rfl
  | cons first rest ih =>
  obtain ⟨first_least,rest_ordered⟩ := pairwise_cons.mp ordered
  by_cases expired : first < now-window
  · rw [dropWhile_cons_of_pos (by simpa using expired),ih rest_ordered]
    exact (filter_cons_of_neg (by simp only [decide_eq_true_eq]; omega)).symm
  rw [dropWhile_cons_of_neg (by simpa using expired)]
  refine (filter_eq_self.mpr fun time listed => ?_).symm
  have : first ≤ time := by
    obtain rfl | listed := mem_cons.mp listed
    · exact le_rfl
    · exact first_least time listed
  simp only [decide_eq_true_eq]
  omega

variable (ask : Ask) (counts : limiter.Counts admitted now) (turned : now ≤ ask.now_ms)
include counts

theorem Counts.kept : limiter.kept ask = live ((limiter.limit ask.call.name).window_ms+1) ask.now_ms
    (limiter.windows ask.call.name) :=
  dropWhile_eq_live ((counts ask.call.name).ordered.sublist (counts ask.call.name).among) ask.now_ms

include turned

theorem Counts.ask_cases (typed : limiter.Typed) :
    ((limiter.kept ask).length < (limiter.limit ask.call.name).max_calls ∧ limiter.ask ask = (none,
      { limiter with
        windows := fun name => if name = ask.call.name then limiter.kept ask ++ [ask.now_ms] else limiter.windows name
        current_time_ms := ask.now_ms })) ∨
    ((limiter.limit ask.call.name).max_calls ≤ (limiter.kept ask).length ∧
      limiter.ask ask = (some (.RateLimited (limiter.oldest ask+(limiter.limit ask.call.name).window_ms-ask.now_ms)),
      { limiter with
        windows := fun name => if name = ask.call.name then limiter.kept ask else limiter.windows name
        current_time_ms := ask.now_ms })) := by
  have most := (counts ask.call.name).live_length turned
  rw [← counts.kept] at most
  have size := Nat.mod_eq_of_lt (most.trans_lt (typed ask.call.name))
  have checked : limiter.ask ask = if (limiter.limit ask.call.name).max_calls ≤ (limiter.kept ask).length % 2 ^ 32 then _ else _ := rfl
  rw [checked,size]
  by_cases full : (limiter.limit ask.call.name).max_calls ≤ (limiter.kept ask).length
  · exact .inr ⟨full,if_pos full⟩
  · exact .inl ⟨Nat.lt_of_not_le full,if_neg full⟩

omit turned in
theorem Counts.pass {later : Nat} (passed : now ≤ later) : limiter.Counts admitted later :=
    fun tool => (counts tool).pass passed

private theorem Counts.step (typed : limiter.Typed) :
    ((⟨limiter,admitted⟩ : Served).ask ask).limiter.Counts ((⟨limiter,admitted⟩ : Served).ask ask).admitted
    ask.now_ms := by
  obtain ⟨room,answered⟩ | ⟨full,answered⟩ := counts.ask_cases ask turned typed
  · simp only [Served.ask,answered]
    intro tool
    by_cases named : tool = ask.call.name
    · subst named
      simp only [if_true,Option.isNone_none,calls_append,calls_same]
      have kept := counts.kept ask
      rw [kept] at room ⊢
      exact (counts ask.call.name).accept turned room
    · simp only [named,if_false,Option.isNone_none,if_true,calls_append,calls_other (Ne.symm named),append_nil]
      exact (counts tool).pass turned
  simp only [Served.ask,answered]
  intro tool
  by_cases named : tool = ask.call.name
  · subst named
    simp only [if_true]
    rw [counts.kept]
    exact (counts ask.call.name).forget turned
  · simp only [named,if_false]
    exact (counts tool).pass turned

/-- A limited call is admitted again once the oldest call is older than the window, if the limit admits any call. -/
theorem Counts.retry_iff (typed : limiter.Typed)
    (full : (limiter.limit ask.call.name).max_calls ≤ (limiter.kept ask).length) {again : Nat}
    (passed : ask.now_ms ≤ again) :
    ((limiter.ask ask).2.ask ⟨ask.call,again⟩).1 = none ↔
      0 < (limiter.limit ask.call.name).max_calls ∧
      limiter.oldest ask+(limiter.limit ask.call.name).window_ms < again := by
  obtain ⟨room,-⟩ | ⟨-,answered⟩ := counts.ask_cases ask turned typed
  · omega
  have held := counts.step ask turned typed
  simp only [Served.ask,answered,Option.isNone_some,Bool.false_eq_true,if_false] at held
  have again_kept := held.kept ⟨ask.call,again⟩
  simp only [if_true] at again_kept
  have again_cases := held.ask_cases ⟨ask.call,again⟩ passed typed
  have room_iff := fun positive full => (counts ask.call.name).room_iff turned positive full again
  rw [← counts.kept] at room_iff
  rw [answered]
  rw [again_kept] at again_cases
  have limit_same : ∀ windows time, RateLimiter.limit { limiter with windows, current_time_ms := time } = limiter.limit := fun _ _ => rfl
  simp only [limit_same] at again_cases
  obtain ⟨room,admits⟩ | ⟨short,limits⟩ := again_cases
  · rw [admits]
    have positive : 0 < (limiter.limit ask.call.name).max_calls := by omega
    have due := (room_iff positive full).mp room
    simp only [true_iff]
    exact ⟨positive,due⟩
  rw [limits]
  simp only [reduceCtorEq,false_iff]
  rintro ⟨positive,due⟩
  have room := (room_iff positive full).mpr due
  omega

omit counts turned

private theorem ask_limit (limiter : RateLimiter) (ask : Ask) : (limiter.ask ask).2.limit = limiter.limit := by
  simp only [RateLimiter.ask,check]
  split <;> rfl

end RateLimiter

section Runs
variable {limiter : RateLimiter} {asks : List Ask}

namespace RateLimiter

theorem serve_limit (limiter : RateLimiter) (asks : List Ask) : (limiter.serve asks).limiter.limit = limiter.limit := by
  induction asks using reverseRecOn with
  | nil => rfl
  | append_singleton asks ask ih =>
  rw [serve_append,← ih]
  exact ask_limit _ ask

theorem Typed.served (typed : limiter.Typed) (asks : List Ask) :
    (limiter.serve asks).limiter.Typed := by rwa [Typed,serve_limit]

private theorem serve_counts (fresh : limiter.Fresh) (typed : limiter.Typed)
    (ordered : asks.Pairwise fun earlier later => earlier.now_ms ≤ later.now_ms)
    {now : Nat} (past : ∀ ask ∈ asks, ask.now_ms ≤ now) : (limiter.serve asks).limiter.Counts (limiter.serve asks).admitted now := by
  induction asks using reverseRecOn generalizing now with
  | nil =>
    intro tool
    show Remembers _ _ now [] (limiter.windows tool)
    rw [fresh tool]
    exact (Remembers.nothing _ _).pass (Nat.zero_le now)
  | append_singleton asks ask ih =>
  obtain ⟨ordered,-,before⟩ := pairwise_append.mp ordered
  have counts := ih ordered fun earlier listed => before earlier listed ask (mem_singleton_self ask)
  rw [serve_append]
  exact (counts.step ask le_rfl (typed.served asks)).pass (past ask (by simp))

private theorem admitted_all (admits : ∀ before ask, before ++ [ask] <+: asks → ((limiter.serve before).limiter.ask ask).1 = none) :
    (limiter.serve asks).admitted = asks := by
  induction asks using reverseRecOn with
  | nil => rfl
  | append_singleton asks ask ih =>
  have earlier := ih fun before earlier found => admits before earlier (found.trans (prefix_append ..))
  rw [serve_append,Served.ask,admits asks ask (prefix_refl _),earlier]
  rfl

/-- The contract of the limiter over a sequence of calls: no span shorter than the window admits more than the maximum, only a
    call that finds the maximum in its window is limited, the wait a limited call is given is the one after which it is admitted,
    and counting that wait neither falls below zero nor leaves the type. -/
structure Throttles (limiter : RateLimiter) (asks : List Ask) : Prop where
  spans : ∀ tool start, within (limiter.limit tool).window_ms start (calls tool (limiter.serve asks).admitted) ≤
    (limiter.limit tool).max_calls
  earned : ∀ before ask, before ++ [ask] <+: asks → ((limiter.serve before).limiter.ask ask).1 ≠ none →
    (limiter.limit ask.call.name).max_calls ≤ limiter.recent (limiter.serve before).admitted ask
  waits : ∀ before ask retry_after_ms, before ++ [ask] <+: asks →
    ((limiter.serve before).limiter.ask ask).1 = some (.RateLimited retry_after_ms) →
    (((limiter.serve before).limiter.ask ask).2.ask ⟨ask.call,ask.now_ms+retry_after_ms⟩).1 = none ∧
    ∀ again, ask.now_ms ≤ again → again < ask.now_ms+retry_after_ms →
    (((limiter.serve before).limiter.ask ask).2.ask ⟨ask.call,again⟩).1 ≠ none
  exact : ∀ before ask, before ++ [ask] <+: asks → ((limiter.serve before).limiter.ask ask).1 ≠ none →
    (limiter.serve before).limiter.oldest ask+(limiter.limit ask.call.name).window_ms ≤ u64Max ∧
    ask.now_ms ≤ (limiter.serve before).limiter.oldest ask+(limiter.limit ask.call.name).window_ms

variable (fresh : limiter.Fresh) (typed : limiter.Typed) (ordered : asks.Pairwise fun earlier later => earlier.now_ms ≤ later.now_ms)
include fresh typed ordered

private theorem serve_spans (tool : String) (start : Nat) :
    within (limiter.limit tool).window_ms start (calls tool (limiter.serve asks).admitted) ≤ (limiter.limit tool).max_calls := by
  obtain ⟨now,past⟩ : ∃ now, ∀ ask ∈ asks, ask.now_ms ≤ now := by
    obtain rfl | ⟨before,last,rfl⟩ := asks.eq_nil_or_concat'
    · exact ⟨0,by simp⟩
    obtain ⟨-,-,earlier⟩ := pairwise_append.mp ordered
    refine ⟨last.now_ms,fun ask listed => ?_⟩
    obtain listed | listed := mem_append.mp listed
    · exact earlier ask listed last (mem_singleton_self last)
    · rw [mem_singleton.mp listed]
  have counts := serve_counts fresh typed ordered past tool
  rw [serve_limit] at counts
  refine le_trans (countP_mono_left fun time _ inside => ?_) (counts.bounded start)
  simp only [decide_eq_true_eq] at inside ⊢
  omega

/-- The next call of a run is limited when as many calls were admitted in its window as the limit allows; it is then told a wait,
    and admitted again after the wait is over, not at its end. -/
theorem next_cases {ask : Ask} (next : ∀ earlier ∈ asks, earlier.now_ms ≤ ask.now_ms) :
    (limiter.recent (limiter.serve asks).admitted ask < (limiter.limit ask.call.name).max_calls ∧
    ((limiter.serve asks).limiter.ask ask).1 = none) ∨
    ((limiter.limit ask.call.name).max_calls ≤ limiter.recent (limiter.serve asks).admitted ask ∧
      ∃ retry_after_ms, ((limiter.serve asks).limiter.ask ask).1 = some (.RateLimited retry_after_ms) ∧
        ask.now_ms+retry_after_ms = (limiter.serve asks).limiter.oldest ask+(limiter.limit ask.call.name).window_ms ∧
        ∀ again, ask.now_ms ≤ again → ((((limiter.serve asks).limiter.ask ask).2.ask ⟨ask.call,again⟩).1 = none ↔
          0 < (limiter.limit ask.call.name).max_calls ∧ ask.now_ms+retry_after_ms < again)) := by
  have counts := serve_counts fresh typed ordered next
  have kept : ((limiter.serve asks).limiter.kept ask).length = limiter.recent (limiter.serve asks).admitted ask := by
    rw [counts.kept,(counts ask.call.name).same ask.now_ms le_rfl,serve_limit,recent,countP_eq_length_filter,live]
    congr 2
    funext time
    simp only [decide_eq_decide]
    omega
  have cases := counts.ask_cases ask le_rfl (typed.served asks)
  have retry := fun full (again : Nat) (passed : ask.now_ms ≤ again) => counts.retry_iff ask le_rfl (typed.served asks) full passed
  rw [kept,serve_limit] at cases retry
  obtain ⟨room,answered⟩ | ⟨full,answered⟩ := cases
  · exact .inl ⟨room,congrArg Prod.fst answered⟩
  have wait : ask.now_ms ≤ (limiter.serve asks).limiter.oldest ask+(limiter.limit ask.call.name).window_ms := by
    unfold oldest
    rw [counts.kept,serve_limit]
    cases held : live ((limiter.limit ask.call.name).window_ms+1) ask.now_ms ((limiter.serve asks).limiter.windows ask.call.name) with
    | nil => exact Nat.le_add_right ..
    | cons oldest rest =>
    have unpassed := (mem_live.mp (held ▸ mem_cons_self)).2
    simp only [headD_cons]
    omega
  refine .inr ⟨full,_,congrArg Prod.fst answered,Nat.add_sub_cancel' wait,fun again passed => ?_⟩
  rw [Nat.add_sub_cancel' wait]
  exact retry full again passed

/-- The limiter keeps its contract over the sequences it limits no call of, and over no other: every wait it names is one
    millisecond short. -/
theorem throttles_iff : limiter.Throttles asks ↔
    ∀ before ask, before ++ [ask] <+: asks → limiter.recent before ask < (limiter.limit ask.call.name).max_calls := by
  have sorted {before : List Ask} {ask : Ask} (found : before ++ [ask] <+: asks) :
      before.Pairwise (fun earlier later => earlier.now_ms ≤ later.now_ms) ∧ ∀ earlier ∈ before, earlier.now_ms ≤ ask.now_ms := by
    obtain ⟨within_before,-,until_ask⟩ := pairwise_append.mp (ordered.sublist found.sublist)
    exact ⟨within_before,fun earlier listed => until_ask earlier listed ask (mem_singleton_self ask)⟩
  constructor
  · intro throttles
    have admits : ∀ before ask, before ++ [ask] <+: asks → ((limiter.serve before).limiter.ask ask).1 = none := by
      intro before ask found
      obtain ⟨ordered_before,next⟩ := sorted found
      obtain ⟨-,admitted⟩ | ⟨-,retry_after_ms,limited,-,again_iff⟩ := next_cases fresh typed ordered_before next
      · exact admitted
      · -- At the end of its wait the call is limited once more.
        have retried := (throttles.waits before ask retry_after_ms found limited).1
        exact absurd ((again_iff _ (Nat.le_add_right ..)).mp retried).2 (Nat.lt_irrefl _)
    intro before ask found
    obtain ⟨ordered_before,next⟩ := sorted found
    have all := admitted_all fun earlier other first => admits earlier other (first.trans ((prefix_append before [ask]).trans found))
    obtain ⟨room,-⟩ | ⟨-,_,limited,-⟩ := next_cases fresh typed ordered_before next
    · rwa [all] at room
    · rw [admits before ask found] at limited
      cases limited
  intro uncrowded
  have admits : ∀ before, before <+: asks → ∀ earlier ask, earlier ++ [ask] <+: before → ((limiter.serve earlier).limiter.ask ask).1 = none := by
    intro before
    induction before using reverseRecOn with
    | nil =>
      intro _ earlier ask found
      simp at found
    | append_singleton before last inductive_step =>
    intro inside earlier ask found
    obtain same | found := prefix_concat_iff.mp found
    · obtain ⟨rfl,same⟩ := append_inj' same rfl
      obtain rfl : ask = last := by simpa using same
      obtain ⟨ordered_before,next⟩ := sorted inside
      have all := admitted_all (inductive_step ((prefix_append ..).trans inside))
      obtain ⟨-,admitted⟩ | ⟨full,-⟩ := next_cases fresh typed ordered_before next
      · exact admitted
      · rw [all] at full
        exact absurd (uncrowded earlier ask inside) (Nat.not_lt.mpr full)
    · exact inductive_step ((prefix_append ..).trans inside) earlier ask found
  refine ⟨serve_spans fresh typed ordered,?_,?_,?_⟩
  · exact fun before ask found limited => absurd (admits asks (prefix_refl _) before ask found) limited
  · intro before ask retry_after_ms found limited
    rw [admits asks (prefix_refl _) before ask found] at limited
    cases limited
  · exact fun before ask found limited => absurd (admits asks (prefix_refl _) before ask found) limited

omit fresh typed ordered in
/-- Two calls further apart than the window. -/
theorem throttles_spaced : (new ⟨1,100⟩).Throttles [⟨⟨"c","bar","null"⟩,0⟩,⟨⟨"c","bar","null"⟩,101⟩] := by
  refine (throttles_iff (fun _ => rfl) (by intro tool; show 1 < 2 ^ 32; decide) (by decide)).mpr fun before ask found => ?_
  rcases before with _ | ⟨first,_ | ⟨second,rest⟩⟩
  · obtain ⟨rfl,-⟩ := cons_prefix_cons.mp found
    decide
  · obtain ⟨rfl,behind⟩ := cons_prefix_cons.mp found
    obtain ⟨rfl,-⟩ := cons_prefix_cons.mp behind
    decide
  · have few := found.length_le
    simp at few

omit fresh typed ordered in
/-- A second call at once is told to wait as long as the window, and is limited at the end of the wait. -/
theorem retried_call_limited : ¬∀ (limiter : RateLimiter) (asks : List Ask), limiter.Fresh → limiter.Typed →
    asks.Pairwise (fun earlier later => earlier.now_ms ≤ later.now_ms) → limiter.Throttles asks := by
  intro holds
  have throttles := holds (new ⟨1,100⟩) [⟨⟨"c","bar","null"⟩,0⟩,⟨⟨"c","bar","null"⟩,0⟩] (fun _ => rfl)
    (by intro tool; show 1 < 2 ^ 32; decide) (by decide)
  exact absurd (throttles.waits [_] _ 100 (prefix_refl _) (by decide)).1 (by decide)

end RateLimiter
end Runs
end Deepstrike.Governance

import Mathlib.Algebra.BigOperators.Group.List.Lemmas
import Mathlib.Algebra.Order.BigOperators.Group.List
import Mathlib.Algebra.Order.Ring.Nat
import Mathlib.Algebra.BigOperators.Group.Multiset.Basic

/-!
Accounts that lend parts of what they hold to accounts below them. An account lends out of what it has left,
a loan is settled once, what was not consumed goes back to the lender, and what was consumed is the lender's.
-/
namespace Deepstrike.Ledgers
open List

/-- An account. `none` is without bound where it is an amount left, and not lent where it is an amount granted. -/
@[ext]
structure Account (κ : Type) where
  key : κ
  parent : Option κ
  left : Option Nat
  granted : Option Nat
  returned : Nat
  settled : Bool
  /-- What the account and the settled accounts below it have consumed. -/
  consumed : Nat
  /-- What the account has consumed itself. -/
  own : Nat

/-- The part of a loan that has not come back. -/
def Account.kept {κ : Type} (account : Account κ) : Nat := account.granted.getD 0-account.returned
/-- A loan that is not settled. -/
def Account.out {κ : Type} (account : Account κ) : Nat := if account.settled then 0 else account.granted.getD 0
/-- What a settled loan has consumed. -/
def Account.used {κ : Type} (account : Account κ) : Nat := if account.settled then account.consumed else 0

def total {α : Type} (rows : List α) (weight : α → Nat) : Nat := (rows.map weight).sum

section Totals
variable {α : Type}

@[simp] theorem total_nil (weight : α → Nat) : total [] weight = 0 := rfl
@[simp] theorem total_cons (row : α) (rows : List α) (weight : α → Nat) :
    total (row :: rows) weight = weight row+total rows weight := by
  simp [total]
@[simp] theorem total_append (left right : List α) (weight : α → Nat) :
    total (left ++ right) weight = total left weight+total right weight := by
  simp [total]

variable {rows : List α}

theorem total_congr {first second : α → Nat} (same : ∀ row ∈ rows, first row = second row) :
    total rows first = total rows second := by
  rw [total,total,map_congr_left same]

theorem total_le {first second : α → Nat} (least : ∀ row ∈ rows, first row ≤ second row) :
    total rows first ≤ total rows second :=
  sum_le_sum least

theorem total_add (rows : List α) (first second : α → Nat) :
    total rows (fun row => first row+second row) = total rows first+total rows second :=
  sum_map_add

private theorem total_zero {weight : α → Nat} (none : ∀ row ∈ rows, weight row = 0) : total rows weight = 0 := by
  rw [total_congr none]
  simp [total]

private theorem total_swap {β : Type} (rows : List α) (others : List β) (weight : α → β → Nat) :
    total rows (fun row => total others (weight row)) = total others (fun other => total rows fun row => weight row other) := by
  have swapped := Multiset.sum_map_sum_map (rows : Multiset α) (others : Multiset β) (f := weight)
  simpa [total] using swapped

theorem le_total {row : α} (member : row ∈ rows) (weight : α → Nat) : weight row ≤ total rows weight :=
  single_le_sum (fun _ _ => Nat.zero_le _) _ (mem_map_of_mem member)

end Totals

theorem same_key {κ : Type} {rows : List (Account κ)} (distinct : (rows.map Account.key).Nodup)
    {first second : Account κ} (held : first ∈ rows)
    (member : second ∈ rows) (same : first.key = second.key) : first = second :=
  inj_on_of_nodup_map distinct held member same

theorem total_at_key {κ : Type} [DecidableEq κ] (rows : List (Account κ)) (distinct : (rows.map Account.key).Nodup)
    (key : κ) (amount : Nat) :
    total rows (fun account => if account.key = key then amount else 0) ≤ amount := by
  induction rows with
  | nil => exact Nat.zero_le _
  | cons head tail ih =>
  obtain ⟨fresh,distinct⟩ := nodup_cons.mp distinct
  rw [total_cons]
  split
  next same =>
    have rest : total tail (fun account => if account.key = key then amount else 0) = 0 := by
      refine total_zero fun account member => if_neg fun other => ?_
      exact fresh (same.trans other.symm ▸ mem_map_of_mem member)
    omega
  next => simpa using ih distinct

section Rows
variable {κ : Type} [DecidableEq κ]

/-- Rewrite the account of one key. -/
def change (rows : List (Account κ)) (key : κ) (rewrite : Account κ → Account κ) : List (Account κ) :=
  rows.map fun account => if account.key = key then rewrite account else account

/-- The sum of a weight over the accounts directly below a key. -/
def below (rows : List (Account κ)) (key : κ) (weight : Account κ → Nat) : Nat :=
  total rows fun account => if account.parent = some key then weight account else 0

variable {key : κ} {rewrite : Account κ → Account κ} {account : Account κ} {weight : Account κ → Nat}

variable {rows : List (Account κ)}

theorem mem_change
    (member : account ∈ change rows key rewrite) :
    (∃ before ∈ rows, before.key = key ∧ account = rewrite before) ∨ (account ∈ rows ∧ account.key ≠ key) := by
  obtain ⟨before,held,rfl⟩ := mem_map.mp member
  split
  next same => exact .inl ⟨before,held,same,rfl⟩
  next other => exact .inr ⟨held,other⟩

private theorem change_absent (absent : ∀ account ∈ rows, account.key ≠ key) (rewrite : Account κ → Account κ) :
    change rows key rewrite = rows :=
  (map_congr_left fun account member => if_neg (absent account member)).trans (map_id' rows)

private theorem total_change (distinct : (rows.map Account.key).Nodup) (member : account ∈ rows)
    (rewrite : Account κ → Account κ) (weight : Account κ → Nat) :
    total (change rows account.key rewrite) weight+weight account = total rows weight+weight (rewrite account) := by
  induction rows with
  | nil => cases member
  | cons head tail ih =>
  obtain ⟨fresh,distinct⟩ := nodup_cons.mp distinct
  have split : change (head :: tail) account.key rewrite =
      (if head.key = account.key then rewrite head else head) :: change tail account.key rewrite := rfl
  rw [split,total_cons,total_cons]
  obtain rfl | inside := mem_cons.mp member
  · have alone : ∀ other ∈ tail, other.key ≠ account.key := by
      intro other held same
      exact fresh (mem_map.mpr ⟨other,held,same⟩)
    have untouched := change_absent alone rewrite
    rw [untouched,if_pos rfl]
    omega
  · have other : head.key ≠ account.key := fun same => fresh (same ▸ mem_map_of_mem inside)
    have tail_sum := ih distinct inside
    rw [if_neg other]
    omega

private theorem below_change (distinct : (rows.map Account.key).Nodup) (member : account ∈ rows)
    (rewrite : Account κ → Account κ) (key : κ) (weight : Account κ → Nat) :
    below (change rows account.key rewrite) key weight+(if account.parent = some key then weight account else 0) =
      below rows key weight+(if (rewrite account).parent = some key then weight (rewrite account) else 0) :=
  total_change distinct member rewrite _

theorem below_kept
    (kept : ∀ account ∈ rows, account.key = key → (rewrite account).parent = account.parent ∧
    weight (rewrite account) = weight account) (above : κ) :
    below (change rows key rewrite) above weight = below rows above weight := by
  rw [below,total,change,map_map]
  refine congrArg sum (map_congr_left fun account member => ?_)
  simp only [Function.comp]
  split
  next same =>
    obtain ⟨parent,weighs⟩ := kept account member same
    rw [parent,weighs]
  next => rfl

theorem keys_change (kept : ∀ account, (rewrite account).key = account.key) :
    (change rows key rewrite).map Account.key = rows.map Account.key := by
  rw [change,map_map]
  refine map_congr_left fun account _ => ?_
  simp only [Function.comp]
  split
  · exact kept account
  · rfl

/-- Where each account of a kind has its parent among the accounts of another, the first weigh at most what is below the others. -/
theorem covered {kind other : Account κ → Prop} [DecidablePred kind] [DecidablePred other]
    (parented : ∀ account ∈ rows, kind account → ∃ above ∈ rows, other above ∧ account.parent = some above.key) :
    total rows (fun account => if kind account then weight account else 0) ≤
      total rows (fun above => if other above then below rows above.key weight else 0) := by
  have spread : total rows (fun above => if other above then below rows above.key weight else 0) =
      total rows (fun account => total rows fun above => if other above ∧ account.parent = some above.key then weight account else 0) := by
    rw [total_swap]
    refine total_congr fun above _ => ?_
    by_cases chosen : other above
    · simp [chosen,below]
    · rw [if_neg chosen,total_zero fun account _ => by simp [chosen]]
  rw [spread]
  refine total_le fun account member => ?_
  by_cases chosen : kind account
  · obtain ⟨above,held,fits,under⟩ := parented account member chosen
    have single := le_total held fun above => if other above ∧ account.parent = some above.key then weight account else 0
    simpa [chosen,fits,under] using single
  · simp [chosen]

end Rows

section Moves
variable {κ : Type} [DecidableEq κ]

/-- Take an amount from what a key has left. -/
def take (rows : List (Account κ)) (key : κ) (amount : Nat) : List (Account κ) :=
  change rows key fun account => { account with left := account.left.map (· - amount) }

/-- The account of a loan. -/
def Account.opened (key parent : κ) (lent : Option Nat) : Account κ := ⟨key,some parent,lent,lent,0,false,0,0⟩
/-- An account without a loan has nothing to settle. -/
def Account.bare (key parent : κ) : Account κ := ⟨key,some parent,none,none,0,true,0,0⟩

def spend (cap : Nat) (rows : List (Account κ)) (key : κ) (amount : Nat) : List (Account κ) :=
  change rows key fun account => { account with consumed := min (account.consumed+amount) cap, own := amount }

def Account.unused (account : Account κ) : Nat := account.granted.getD 0-account.consumed
def Account.close (account : Account κ) : Account κ := { account with returned := account.unused, settled := true }
def Account.repaid (cap : Nat) (loan lender : Account κ) : Account κ :=
  { lender with
    left := lender.left.map fun left => min (left+loan.unused) cap
    consumed := if lender.settled then lender.consumed else min (lender.consumed+loan.consumed) cap }

/-- Close a loan and repay its lender. -/
def settle (cap : Nat) (rows : List (Account κ)) (loan : Account κ) (lender : κ) : List (Account κ) :=
  change (change rows loan.key Account.close) lender (loan.repaid cap)

variable (rows : List (Account κ))

theorem keys_take (key : κ) (amount : Nat) : (take rows key amount).map Account.key = rows.map Account.key := by
  refine keys_change fun account => ?_
  rfl

variable {weight : Account κ → Nat} {account loan : Account κ} {lender : κ}

theorem below_take (key : κ) (amount : Nat) (above : κ)
    (blind : ∀ account left, weight { account with left } = weight account) :
    below (take rows key amount) above weight = below rows above weight := by
  refine below_kept (fun account _ _ => ?_) above
  exact ⟨rfl,blind account _⟩

theorem mem_take {rows : List (Account κ)} {key : κ} {amount : Nat} (member : account ∈ take rows key amount) :
    ∃ before ∈ rows, ∃ left, left.isSome = before.left.isSome ∧ account = { before with left } := by
  obtain ⟨before,held,_,rfl⟩ | ⟨held,_⟩ := mem_change member
  · exact ⟨before,held,before.left.map (· - amount),by simp,rfl⟩
  · exact ⟨account,held,account.left,rfl,rfl⟩

theorem take_zero (key : κ) : take rows key 0 = rows := by
  refine (map_congr_left fun account _ => ?_).trans (map_id' rows)
  simp

private theorem keys_settle (cap : Nat) (rows : List (Account κ)) (loan : Account κ) (lender : κ) :
    (settle cap rows loan lender).map Account.key = rows.map Account.key :=
  (keys_change fun account => (rfl : (loan.repaid cap account).key = account.key)).trans
    (keys_change fun account => (rfl : account.close.key = account.key))

theorem mem_settle {cap : Nat} {rows : List (Account κ)} (distinct : (rows.map Account.key).Nodup)
    (member : loan ∈ rows) (apart : lender ≠ loan.key) (held : account ∈ settle cap rows loan lender) :
    account = loan.close ∨ (∃ before ∈ rows, before.key = lender ∧ account = loan.repaid cap before) ∨
      (account ∈ rows ∧ account.key ≠ loan.key ∧ account.key ≠ lender) := by
  obtain ⟨closed,listed,same,rfl⟩ | ⟨listed,other⟩ := mem_change held
  · obtain ⟨before,_,loaned,rfl⟩ | ⟨found,_⟩ := mem_change listed
    · exact absurd (same.symm.trans loaned) apart
    · exact .inr (.inl ⟨closed,found,same,rfl⟩)
  · obtain ⟨before,found,loaned,rfl⟩ | ⟨found,unloaned⟩ := mem_change listed
    · obtain rfl := same_key distinct found member loaned
      exact .inl rfl
    · exact .inr (.inr ⟨found,unloaned,other⟩)

/-- What lies below a lender counts the loan as closed. -/
theorem below_settle (cap : Nat) {rows : List (Account κ)} (distinct : (rows.map Account.key).Nodup)
    (member : loan ∈ rows) (under : loan.parent = some lender)
    (blind : ∀ account, weight (loan.repaid cap account) = weight account) (above : κ) :
    below (settle cap rows loan lender) above weight+(if lender = above then weight loan else 0) =
      below rows above weight+if lender = above then weight loan.close else 0 := by
  have changed := below_change distinct member Account.close above weight
  have same : loan.close.parent = some lender := under
  have repaid : below (settle cap rows loan lender) above weight = below (change rows loan.key Account.close) above weight := by
    refine below_kept (fun account _ _ => ?_) above
    exact ⟨rfl,blind account⟩
  rw [under,same] at changed
  rw [repaid]
  simpa using changed

end Moves

/-- What an account has left and what it has lent and not got back are within what it was granted. -/
structure Balanced {κ : Type} [DecidableEq κ] (rows : List (Account κ)) : Prop where
  distinct : (rows.map Account.key).Nodup
  rooted : ∀ account ∈ rows, ∀ parent, account.parent = some parent → parent ≠ account.key ∧ ∃ above ∈ rows, above.key = parent
  unreturned : ∀ account ∈ rows, account.settled = false → account.returned = 0
  bounded : ∀ account ∈ rows, ∀ left, account.left = some left →
    ∃ granted, account.granted = some granted ∧ left+below rows account.key Account.kept ≤ granted

namespace Balanced
variable {κ : Type} [DecidableEq κ] {rows : List (Account κ)}

section
variable (balanced : Balanced rows)
include balanced

theorem below_fresh {key : κ} (fresh : key ∉ rows.map Account.key) (weight : Account κ → Nat) :
    below rows key weight = 0 := by
  refine total_zero fun account member => if_neg fun under => ?_
  obtain ⟨_,above,held,same⟩ := balanced.rooted account member key under
  exact fresh (same ▸ mem_map_of_mem held)

/-- A change that leaves an account no more left, and everything else that counts as it is. -/
theorem lowered {key : κ} {rewrite : Account κ → Account κ}
    (kept : ∀ account, (rewrite account).key = account.key ∧ (rewrite account).parent = account.parent ∧
      (rewrite account).granted = account.granted ∧ (rewrite account).returned = account.returned ∧
      (rewrite account).settled = account.settled)
    (fewer : ∀ account left, (rewrite account).left = some left → ∃ before, account.left = some before ∧
      left ≤ before) :
    Balanced (change rows key rewrite) := by
  have keys : (change rows key rewrite).map Account.key = rows.map Account.key := keys_change fun account => (kept account).1
  have weighs : ∀ above, below (change rows key rewrite) above Account.kept = below rows above Account.kept := by
    refine below_kept fun account _ _ => ⟨(kept account).2.1,?_⟩
    rw [Account.kept,Account.kept,(kept account).2.2.1,(kept account).2.2.2.1]
  have origin : ∀ account ∈ change rows key rewrite, ∃ before ∈ rows, account.key = before.key ∧ account.parent = before.parent ∧
      account.granted = before.granted ∧ account.returned = before.returned ∧ account.settled = before.settled ∧
      ∀ left, account.left = some left → ∃ more, before.left = some more ∧ left ≤ more := by
    intro account member
    obtain ⟨before,held,_,rfl⟩ | ⟨held,_⟩ := mem_change member
    · obtain ⟨same,under,given,back,ended⟩ := kept before
      exact ⟨before,held,same,under,given,back,ended,fewer before⟩
    · exact ⟨account,held,rfl,rfl,rfl,rfl,rfl,fun left has => ⟨left,has,le_rfl⟩⟩
  refine ⟨keys ▸ balanced.distinct,?_,?_,?_⟩
  · intro account member parent under
    obtain ⟨before,held,same,lineage,_⟩ := origin account member
    obtain ⟨apart,above,listed,named⟩ := balanced.rooted before held parent (lineage ▸ under)
    have stays : parent ∈ (change rows key rewrite).map Account.key := by
      rw [keys,← named]
      exact mem_map_of_mem listed
    exact ⟨same ▸ apart,mem_map.mp stays⟩
  · intro account member unsettled
    obtain ⟨before,held,_,_,_,back,ended,_⟩ := origin account member
    rw [back]
    exact balanced.unreturned before held (ended ▸ unsettled)
  intro account member left has
  obtain ⟨before,held,same,_,given,_,_,less⟩ := origin account member
  obtain ⟨more,had,least⟩ := less left has
  obtain ⟨granted,named,enough⟩ := balanced.bounded before held more had
  refine ⟨granted,given.trans named,?_⟩
  rw [weighs,same]
  omega

theorem take (key : κ) (amount : Nat) : Balanced (take rows key amount) := by
  refine balanced.lowered (fun _ => ⟨rfl,rfl,rfl,rfl,rfl⟩) fun account left has => ?_
  obtain ⟨before,had,rfl⟩ := Option.map_eq_some_iff.mp has
  exact ⟨before,had,Nat.sub_le _ _⟩

theorem spend (cap : Nat) (key : κ) (amount : Nat) : Balanced (spend cap rows key amount) :=
  balanced.lowered (fun _ => ⟨rfl,rfl,rfl,rfl,rfl⟩) fun _ left has => ⟨left,has,le_rfl⟩

/-- A new account under a lender who takes its amount from what is left. -/
theorem lend {lender account : Account κ} {amount : Nat} (member : lender ∈ rows)
    (fresh : account.key ∉ rows.map Account.key) (under : account.parent = some lender.key)
    (start : account.returned = 0)
    (backed : ∀ left, lender.left = some left → account.kept ≤ amount ∧ amount ≤ left)
    (full : ∀ left, account.left = some left → account.granted = some left) :
    Balanced (Ledgers.take rows lender.key amount ++ [account]) := by
  have taken := balanced.take lender.key amount
  have keys := keys_take rows lender.key amount
  have weighs : ∀ above, below (Ledgers.take rows lender.key amount ++ [account]) above Account.kept =
      below rows above Account.kept+if lender.key = above then account.kept else 0 := by
    intro above
    have before : below (Ledgers.take rows lender.key amount) above Account.kept = below rows above Account.kept :=
      below_take rows lender.key amount above fun _ _ => rfl
    rw [below,total_append,← below,before]
    simp [under]
  have known : lender.key ∈ (Ledgers.take rows lender.key amount).map Account.key := keys ▸ mem_map_of_mem member
  refine ⟨?_,?_,?_,?_⟩
  · rw [map_append,map_singleton,keys]
    refine nodup_append.mpr ⟨balanced.distinct,nodup_singleton _,?_⟩
    rintro key listed other single rfl
    exact fresh (mem_singleton.mp single ▸ listed)
  · intro row held parent lineage
    obtain older | rfl := (mem_append.mp held).imp id mem_singleton.mp
    · obtain ⟨apart,above,listed,named⟩ := taken.rooted row older parent lineage
      exact ⟨apart,above,mem_append_left _ listed,named⟩
    obtain rfl : lender.key = parent := Option.some.inj (under.symm.trans lineage)
    obtain ⟨above,listed,named⟩ := mem_map.mp known
    refine ⟨?_,above,mem_append_left _ listed,named⟩
    intro same
    exact fresh (same ▸ mem_map_of_mem member)
  · intro row held unsettled
    obtain older | rfl := (mem_append.mp held).imp id mem_singleton.mp
    · exact taken.unreturned row older unsettled
    · exact start
  intro row held left has
  rw [weighs]
  obtain older | rfl := (mem_append.mp held).imp id mem_singleton.mp
  · obtain ⟨before,listed,same,rfl⟩ | ⟨listed,other⟩ := mem_change older
    · -- The lender: what it has left falls by the amount, what it has lent grows by it at most.
      obtain rfl := same_key balanced.distinct listed member same
      obtain ⟨more,had,rfl⟩ := Option.map_eq_some_iff.mp has
      obtain ⟨granted,given,enough⟩ := balanced.bounded before listed more had
      obtain ⟨covers,least⟩ := backed more had
      refine ⟨granted,given,?_⟩
      simp only [if_true]
      omega
    · obtain ⟨granted,given,enough⟩ := balanced.bounded row listed left has
      refine ⟨granted,given,?_⟩
      rw [if_neg fun same => other same.symm]
      exact enough
  · have apart : lender.key ≠ row.key := fun same => fresh (same ▸ mem_map_of_mem member)
    refine ⟨left,full left has,?_⟩
    rw [if_neg apart,balanced.below_fresh fresh]
    omega

/-- What a settled loan gives back its lender has left, and has lent no longer. -/
theorem settle (cap : Nat) {loan : Account κ} {lender : κ} (member : loan ∈ rows) (open_loan : loan.settled = false)
    (under : loan.parent = some lender) : Balanced (settle cap rows loan lender) := by
  obtain ⟨apart,_⟩ := balanced.rooted loan member lender under
  have unreturned := balanced.unreturned loan member open_loan
  have back : loan.close.kept+loan.unused = loan.kept := by
    simp only [Account.kept,Account.close,Account.unused,unreturned]
    omega
  have weighs : ∀ above, below (Ledgers.settle cap rows loan lender) above Account.kept+(if lender = above then loan.kept else 0) =
      below rows above Account.kept+if lender = above then loan.close.kept else 0 := below_settle cap balanced.distinct member under fun _ => rfl
  have keys := keys_settle cap rows loan lender
  have stays : ∀ key, (∃ above ∈ rows, above.key = key) → ∃ above ∈ Ledgers.settle cap rows loan lender, above.key = key := by
    rintro key ⟨above,listed,named⟩
    have known : key ∈ (Ledgers.settle cap rows loan lender).map Account.key := by
      rw [keys,← named]
      exact mem_map_of_mem listed
    exact mem_map.mp known
  refine ⟨keys ▸ balanced.distinct,?_,?_,?_⟩
  · intro account held parent lineage
    obtain rfl | ⟨before,found,_,rfl⟩ | ⟨found,_,_⟩ := mem_settle balanced.distinct member apart held
    · exact (balanced.rooted loan member parent lineage).imp id (stays parent)
    · exact (balanced.rooted before found parent lineage).imp id (stays parent)
    · exact (balanced.rooted account found parent lineage).imp id (stays parent)
  · intro account held unsettled
    obtain rfl | ⟨before,found,_,rfl⟩ | ⟨found,_,_⟩ := mem_settle balanced.distinct member apart held
    · cases unsettled
    · exact balanced.unreturned before found unsettled
    · exact balanced.unreturned account found unsettled
  intro account held left has
  have weighed := weighs account.key
  obtain rfl | ⟨before,found,same,rfl⟩ | ⟨found,_,other⟩ := mem_settle balanced.distinct member apart held
  · obtain ⟨granted,given,enough⟩ := balanced.bounded loan member left has
    refine ⟨granted,given,?_⟩
    have other : lender ≠ loan.close.key := apart
    rw [if_neg other,if_neg other] at weighed
    exact (Nat.add_le_add_left weighed.le left).trans enough
  · -- The lender: it has left what it has lent no longer.
    obtain ⟨more,had,rfl⟩ := Option.map_eq_some_iff.mp has
    obtain ⟨granted,given,enough⟩ := balanced.bounded before found more had
    refine ⟨granted,given,?_⟩
    have named : lender = (loan.repaid cap before).key := same.symm
    rw [if_pos named,if_pos named] at weighed
    have cut := Nat.min_le_left (more+loan.unused) cap
    have here : below rows (loan.repaid cap before).key Account.kept = below rows before.key Account.kept := rfl
    omega
  · obtain ⟨granted,given,enough⟩ := balanced.bounded account found left has
    refine ⟨granted,given,?_⟩
    rw [if_neg other.symm,if_neg other.symm] at weighed
    exact (Nat.add_le_add_left weighed.le left).trans enough

private theorem out_le_kept {account : Account κ} (member : account ∈ rows) : account.out ≤ account.kept := by
  rw [Account.out,Account.kept]
  split
  · exact Nat.zero_le _
  next open_loan =>
  have back := balanced.unreturned account member (by simpa using open_loan)
  omega

theorem below_out_le (key : κ) : below rows key Account.out ≤ below rows key Account.kept := by
  refine total_le fun account member => ?_
  split
  · exact balanced.out_le_kept member
  · exact le_rfl

end

end Balanced

end Deepstrike.Ledgers

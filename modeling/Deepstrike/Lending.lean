import Deepstrike.Ledgers
import Mathlib.Logic.Relation

/-!
What holds of all accounts below one. Where every loan of a bounded account is bounded and no account is
settled with a loan out, what is left below an account is within its grant; where loans also consume no more
than they are, the root, the consumption of the settled and the rest of the open accounts add up to the grant
of the root at most.
-/
namespace Deepstrike.Ledgers
open Account List

/-- Every loan of a bounded account is bounded, and a settled account has no loan out. -/
structure Contained {κ : Type} [DecidableEq κ] (rows : List (Account κ)) : Prop where
  balanced : Balanced rows
  metered : ∀ account ∈ rows, ∀ above ∈ rows, account.parent = some above.key → above.left.isSome = true → account.left.isSome = true
  rested : ∀ account ∈ rows, account.parent.isSome = true → account.granted.isSome = true → account.settled = true →
    below rows account.key out = 0

/-- What the containment of an account is about. -/
def Account.face {κ : Type} (account : Account κ) : κ × Option κ × Option Nat × Bool × Bool :=
  (account.key,account.parent,account.granted,account.settled,account.left.isSome)

/-- One account is directly below another. -/
def Under {κ : Type} (rows : List (Account κ)) (account above : Account κ) : Prop :=
  account ∈ rows ∧ above ∈ rows ∧ account.parent = some above.key

namespace Contained
variable {κ : Type} [DecidableEq κ] {rows : List (Account κ)}

theorem bounded_below (contained : Contained rows) {account top : Account κ}
    (under : Relation.TransGen (Under rows) account top)
    (bounded : top.left.isSome = true) : account.left.isSome = true := by
  induction under using Relation.TransGen.head_induction_on with
  | single direct => exact contained.metered _ direct.1 _ direct.2.1 direct.2.2 bounded
  | head direct _ ih => exact contained.metered _ direct.1 _ direct.2.1 direct.2.2 ih

section Classical
attribute [local instance] Classical.propDecidable

/-- All that the open accounts below a bounded account have left is within what that account was granted. -/
theorem left_below (contained : Contained rows) {top : Account κ} {granted : Nat} (bounded : top.left.isSome = true)
    (given : top.granted = some granted) {chosen : List (Account κ)} (sub : chosen.Sublist rows)
    (inside : ∀ account ∈ chosen, Relation.TransGen (Under rows) account top ∧ account.settled = false) :
    total chosen (fun account => account.left.getD 0) ≤ granted := by
  have balanced := contained.balanced
  let within (account : Account κ) : Prop := Relation.ReflTransGen (Under rows) account top
  let live (account : Account κ) : Prop := within account ∧ (account = top ∨ account.settled = false)
  let lent (account : Account κ) : Prop := within account ∧ account ≠ top ∧ account.out ≠ 0
  have proper : ∀ account, within account → account ≠ top → Relation.TransGen (Under rows) account top := by
    intro account reaches other
    obtain same | under := Relation.reflTransGen_iff_eq_or_transGen.mp reaches
    · exact absurd same.symm other
    · exact under
  have has_left : ∀ account, within account → account.left.isSome = true := by
    intro account reaches
    by_cases same : account = top
    · exact same ▸ bounded
    · exact contained.bounded_below (proper account reaches same) bounded
  -- An open loan below the top has a lender that is the top or is open itself.
  have lenders : total rows (fun account => if lent account then account.out else 0) ≤
      total rows (fun account => if live account then below rows account.key out else 0) := by
    refine covered fun account held ⟨reaches,other,out⟩ => ?_
    obtain ⟨above,⟨_,listed,under⟩,upper⟩ := Relation.TransGen.head'_iff.mp (proper account reaches other)
    refine ⟨above,listed,⟨upper,?_⟩,under⟩
    by_contra stuck
    obtain ⟨not_top,closed⟩ := not_or.mp stuck
    obtain ⟨_,⟨_,_,lineage⟩,_⟩ := Relation.TransGen.head'_iff.mp (proper above upper not_top)
    obtain ⟨left,has⟩ := Option.isSome_iff_exists.mp (has_left above upper)
    obtain ⟨amount,named,_⟩ := balanced.bounded above listed left has
    have nothing := contained.rested above listed (by simp [lineage]) (by simp [named]) (by simpa using closed)
    have counted := le_total held fun account => if account.parent = some above.key then account.out else 0
    rw [if_pos under] at counted
    exact out (Nat.le_zero.mp (nothing ▸ counted))
  have budgets : total rows (fun account => (if live account then account.left.getD 0 else 0)+
      if live account then below rows account.key out else 0) ≤
      total rows (fun account => (if account.key = top.key then granted else 0)+if lent account then account.out else 0) := by
    refine total_le fun account held => ?_
    by_cases alive : live account
    · obtain ⟨left,has⟩ := Option.isSome_iff_exists.mp (has_left account alive.1)
      obtain ⟨amount,named,enough⟩ := balanced.bounded account held left has
      have lighter := balanced.below_out_le account.key
      rw [if_pos alive,if_pos alive]
      by_cases same : account = top
      · subst same
        rw [if_pos rfl,has]
        rw [given] at named
        cases named
        simp only [Option.getD_some]
        omega
      have unsettled : account.settled = false := alive.2.resolve_left same
      have out : account.out = amount := by simp [out,unsettled,named]
      have counted : account.out ≤ if lent account then account.out else 0 := by
        by_cases zero : account.out = 0
        · omega
        · rw [if_pos ⟨alive.1,same,zero⟩]
      rw [has]
      simp only [Option.getD_some]
      omega
    · rw [if_neg alive,if_neg alive]
      exact Nat.zero_le _
  rw [total_add,total_add] at budgets
  have single := total_at_key rows balanced.distinct top.key granted
  have picked : total chosen (fun account => account.left.getD 0) ≤ total rows (fun account => if live account then account.left.getD 0 else 0) := by
    have alive : ∀ account ∈ chosen, account.left.getD 0 = if live account then account.left.getD 0 else 0 := by
      intro account held
      obtain ⟨under,unsettled⟩ := inside account held
      exact (if_pos ⟨under.to_reflTransGen,.inr unsettled⟩).symm
    rw [total_congr alive]
    exact (sub.map _).sum_le_sum fun _ _ => Nat.zero_le _
  omega

end Classical

/-- Accounts with the same faces are contained alike. -/
theorem congr (contained : Contained rows) {after : List (Account κ)} (balanced : Balanced after)
    (same : after.map face = rows.map face) : Contained after := by
  have twin : ∀ account ∈ after, ∃ before ∈ rows, before.face = account.face := by
    intro account member
    have listed : account.face ∈ rows.map face := same ▸ mem_map_of_mem member
    exact mem_map.mp listed
  have outs : ∀ key, below after key out = below rows key out := by
    intro key
    have seen : ∀ some_rows : List (Account κ), below some_rows key out =
        total (some_rows.map face) fun face => if face.2.1 = some key then (if face.2.2.2.1 then 0 else face.2.2.1.getD 0) else 0 := by
      intro some_rows
      rw [below,total,total,map_map]
      refine congrArg sum (map_congr_left fun account _ => ?_)
      by_cases under : account.parent = some key
      · simp [under,face,out]
      · simp [under,face]
    rw [seen,seen,same]
  refine ⟨balanced,?_,?_⟩
  · intro account member above held under bounded
    obtain ⟨before,listed,alike⟩ := twin account member
    obtain ⟨upper,found,similar⟩ := twin above held
    simp only [face,Prod.mk.injEq] at alike similar
    rw [← alike.2.2.2.2]
    refine contained.metered before listed upper found ?_ (similar.2.2.2.2.trans bounded)
    rw [alike.2.1,similar.1,under]
  intro account member parented given closed
  obtain ⟨before,listed,alike⟩ := twin account member
  simp only [face,Prod.mk.injEq] at alike
  rw [outs,← alike.1]
  exact contained.rested before listed (alike.2.1 ▸ parented) (alike.2.2.1 ▸ given) (alike.2.2.2.1.trans closed)

private theorem map_change {key : κ} {rewrite : Account κ → Account κ} (kept : ∀ account, (rewrite account).face = account.face) :
    (change rows key rewrite).map face = rows.map face := by
  rw [change,map_map]
  refine map_congr_left fun account _ => ?_
  simp only [Function.comp]
  split
  · exact kept account
  · rfl

section
variable (contained : Contained rows)
include contained

theorem take (key : κ) (amount : Nat) : Contained (take rows key amount) := by
  refine contained.congr (contained.balanced.take key amount) (map_change fun account => ?_)
  simp [face]

theorem spend (cap : Nat) (key : κ) (amount : Nat) : Contained (spend cap rows key amount) :=
  contained.congr (contained.balanced.spend cap key amount) (map_change fun _ => rfl)

theorem lend {lender account : Account κ} {amount : Nat} (member : lender ∈ rows)
    (fresh : account.key ∉ rows.map key) (under : account.parent = some lender.key)
    (unsettled : account.settled = true → account.granted = none)
    (balanced : Balanced (Ledgers.take rows lender.key amount ++ [account]))
    (bounded : lender.left.isSome = true → account.left.isSome = true)
    (rested : lender.parent.isSome = true → lender.granted.isSome = true → lender.settled = true → account.out = 0) :
    Contained (Ledgers.take rows lender.key amount ++ [account]) := by
  have taken := contained.take lender.key amount
  have keys := keys_take rows lender.key amount
  have apart : account.key ≠ lender.key := fun same => fresh (same ▸ mem_map_of_mem member)
  have faces : (Ledgers.take rows lender.key amount).map face = rows.map face := map_change fun _ => by simp [face]
  have outs : ∀ key, below (Ledgers.take rows lender.key amount ++ [account]) key out =
      below (Ledgers.take rows lender.key amount) key out+if lender.key = key then account.out else 0 := by
    intro key
    rw [below,total_append,← below]
    simp [under]
  have twin : ∀ row ∈ Ledgers.take rows lender.key amount, row.key = lender.key → lender.face = row.face := by
    intro row held same
    have listed : row.face ∈ rows.map face := faces ▸ mem_map_of_mem held
    obtain ⟨before,found,alike⟩ := mem_map.mp listed
    have key : before.key = lender.key := (congrArg Prod.fst alike).trans same
    exact same_key contained.balanced.distinct found member key ▸ alike
  refine ⟨balanced,?_,?_⟩
  · intro row held above listed lineage has
    obtain older | rfl := (mem_append.mp held).imp id mem_singleton.mp
    · obtain upper | rfl := (mem_append.mp listed).imp id mem_singleton.mp
      · exact taken.metered row older above upper lineage has
      · obtain ⟨_,found,stays,named⟩ := taken.balanced.rooted row older _ lineage
        exact absurd (keys ▸ named ▸ mem_map_of_mem stays) fresh
    obtain upper | rfl := (mem_append.mp listed).imp id mem_singleton.mp
    · have alike := twin above upper (Option.some.inj (lineage.symm.trans under))
      simp only [face,Prod.mk.injEq] at alike
      exact bounded (alike.2.2.2.2.trans has)
    · exact absurd (Option.some.inj (lineage.symm.trans under)) apart
  intro row held parented given closed
  rw [outs]
  obtain older | rfl := (mem_append.mp held).imp id mem_singleton.mp
  · rw [taken.rested row older parented given closed,Nat.zero_add]
    split
    next same =>
      have alike := twin row older same.symm
      simp only [face,Prod.mk.injEq] at alike
      exact rested (alike.2.1 ▸ parented) (alike.2.2.1 ▸ given) (alike.2.2.2.1.trans closed)
    next => rfl
  · rw [unsettled closed] at given
    cases given

theorem settle (cap : Nat) {loan : Account κ} {lender : κ} (member : loan ∈ rows) (open_loan : loan.settled = false)
    (under : loan.parent = some lender) (rested : below rows loan.key out = 0) :
    Contained (settle cap rows loan lender) := by
  have balanced := contained.balanced
  obtain ⟨apart,_⟩ := balanced.rooted loan member lender under
  have lighter : ∀ above, below (Ledgers.settle cap rows loan lender) above out ≤ below rows above out := by
    intro above
    have weighed := below_settle cap balanced.distinct member under
      (fun _ => rfl : ∀ account : Account κ, (loan.repaid cap account).out = account.out) above
    have closed : loan.close.out = 0 := rfl
    split at weighed <;> omega
  have origin : ∀ account ∈ Ledgers.settle cap rows loan lender, ∃ before ∈ rows, account.key = before.key ∧ account.parent = before.parent ∧
      account.granted = before.granted ∧ account.left.isSome = before.left.isSome ∧ (account.settled = before.settled ∨ before = loan) := by
    intro account held
    obtain rfl | ⟨before,found,_,rfl⟩ | ⟨found,_,_⟩ := mem_settle balanced.distinct member apart held
    · exact ⟨loan,member,rfl,rfl,rfl,rfl,.inr rfl⟩
    · exact ⟨before,found,rfl,rfl,rfl,by simp [repaid],.inl rfl⟩
    · exact ⟨account,found,rfl,rfl,rfl,rfl,.inl rfl⟩
  refine ⟨balanced.settle cap member open_loan under,?_,?_⟩
  · intro account held above listed lineage bounded
    obtain ⟨before,found,_,parents,_,lefts,_⟩ := origin account held
    obtain ⟨upper,stays,keys,_,_,uppers,_⟩ := origin above listed
    rw [lefts]
    refine contained.metered before found upper stays ?_ (uppers ▸ bounded)
    rw [← parents,← keys,lineage]
  intro account held parented given closed
  obtain ⟨before,found,keys,parents,grants,_,same | rfl⟩ := origin account held
  · rw [parents] at parented
    rw [grants] at given
    rw [same] at closed
    have nothing := contained.rested before found parented given closed
    exact Nat.le_zero.mp (keys ▸ nothing ▸ lighter before.key)
  · exact Nat.le_zero.mp (keys ▸ rested ▸ lighter before.key)

end

end Contained

/-- Every account is bounded, its consumption is its own and that of its settled loans, and no loan consumed more than it was. -/
structure Exact {κ : Type} [DecidableEq κ] (cap : Nat) (rows : List (Account κ)) : Prop where
  contained : Contained rows
  capped : ∀ account ∈ rows, account.granted.getD 0 ≤ cap
  bounded : ∀ account ∈ rows, account.left.isSome = true
  summed : ∀ account ∈ rows, account.parent.isSome = true → account.consumed = account.own+below rows account.key used
  closed : ∀ account ∈ rows, account.parent.isSome = true → account.settled = true →
    account.returned+account.consumed = account.granted.getD 0
  fits : ∀ account ∈ rows, account.parent.isSome = true → account.settled = false →
    account.consumed+below rows account.key out ≤ account.granted.getD 0

/-- What an account stands for: what a settled one consumed itself, or what an open one may still consume or lend. -/
def Account.share {κ : Type} [DecidableEq κ] (rows : List (Account κ)) (account : Account κ) : Nat :=
  if account.settled then account.own else account.granted.getD 0-(account.consumed+below rows account.key out)

namespace Exact
variable {κ : Type} [DecidableEq κ] {cap : Nat} {rows : List (Account κ)}

variable {account : Account κ} {amount : Nat}

section
variable (exact_rows : Exact cap rows)
include exact_rows

private theorem kept_eq (member : account ∈ rows) (parented : account.parent.isSome = true) :
    account.used+account.out = account.kept := by
  rw [used,out,kept]
  cases ended : account.settled with
  | true =>
    have whole := exact_rows.closed account member parented ended
    simp only [if_true]
    omega
  | false =>
  have back := exact_rows.contained.balanced.unreturned account member ended
  simp [back]

private theorem below_kept_eq (key : κ) :
    below rows key used+below rows key out = below rows key kept := by
  rw [below,below,← total_add]
  refine total_congr fun account member => ?_
  split
  next under => exact exact_rows.kept_eq member (by simp [under])
  next => rfl

/-- The root has left, and the accounts below it stand for, no more than the root was granted. -/
theorem conserved {root : Account κ} {granted : Nat} (member : root ∈ rows)
    (alone : ∀ account ∈ rows, account.parent = none → account = root) (given : root.granted = some granted) :
    root.left.getD 0+total rows (fun account => if account.parent.isSome then account.share rows else 0) ≤ granted := by
  have balanced := exact_rows.contained.balanced
  obtain ⟨left,has⟩ := Option.isSome_iff_exists.mp (exact_rows.bounded root member)
  obtain ⟨amount,named,enough⟩ := balanced.bounded root member left has
  obtain rfl : granted = amount := Option.some.inj (given.symm.trans named)
  -- What an account stands for and what it has lent are within its own loan.
  have local_share : ∀ account ∈ rows, (if account.parent.isSome then account.share rows else 0)+
      (if account.parent.isSome then below rows account.key kept else 0) ≤ if account.parent.isSome then account.kept else 0 := by
    intro account held
    split
    next parented =>
      have weighs := exact_rows.kept_eq held parented
      have spread := exact_rows.below_kept_eq account.key
      have whole := exact_rows.summed account held parented
      rw [share]
      rw [used,out] at weighs
      cases ended : account.settled with
      | true =>
        obtain ⟨here,has⟩ := Option.isSome_iff_exists.mp (exact_rows.bounded account held)
        obtain ⟨loan,lent,_⟩ := balanced.bounded account held here has
        have nothing := exact_rows.contained.rested account held parented (by simp [lent]) ended
        rw [ended] at weighs
        simp only [if_true] at weighs ⊢
        omega
      | false =>
      have room := exact_rows.fits account held parented ended
      rw [ended] at weighs
      simp only [Bool.false_eq_true,if_false] at weighs ⊢
      omega
    next => exact le_rfl
  have summed := total_le local_share
  rw [total_add] at summed
  have lenders : total rows (fun account => if account.parent.isSome = true then account.kept else 0) ≤
      total rows (fun above => if True then below rows above.key kept else 0) := by
    refine covered fun account held parented => ?_
    obtain ⟨parent,lineage⟩ := Option.isSome_iff_exists.mp parented
    obtain ⟨_,above,listed,same⟩ := balanced.rooted account held parent lineage
    exact ⟨above,listed,trivial,same ▸ lineage⟩
  have apart : total rows (fun above => if True then below rows above.key kept else 0) ≤
      total rows (fun above => (if above.parent.isSome then below rows above.key kept else 0)+
        if above.key = root.key then below rows root.key kept else 0) := by
    refine total_le fun above listed => ?_
    rw [if_pos trivial]
    cases lineage : above.parent with
    | some parent => simp
    | none =>
    obtain rfl := alone above listed lineage
    simp
  rw [total_add] at apart
  have single : total rows (fun above => if above.key = root.key then below rows root.key kept else 0) ≤ below rows root.key kept :=
    total_at_key rows balanced.distinct root.key _
  rw [has,Option.getD_some]
  omega

theorem take (key : κ) (amount : Nat) : Exact cap (take rows key amount) := by
  have useds : ∀ above, below (Ledgers.take rows key amount) above used = below rows above used :=
    fun above => below_take rows key amount above fun _ _ => rfl
  have outs : ∀ above, below (Ledgers.take rows key amount) above out = below rows above out :=
    fun above => below_take rows key amount above fun _ _ => rfl
  refine ⟨exact_rows.contained.take key amount,?_,?_,?_,?_,?_⟩
  · intro account held
    obtain ⟨before,found,_,_,rfl⟩ := mem_take held
    exact exact_rows.capped before found
  · intro account held
    obtain ⟨before,found,left,same,rfl⟩ := mem_take held
    exact same.trans (exact_rows.bounded before found)
  · intro account held parented
    obtain ⟨before,found,_,_,rfl⟩ := mem_take held
    rw [useds]
    exact exact_rows.summed before found parented
  · intro account held parented ended
    obtain ⟨before,found,_,_,rfl⟩ := mem_take held
    exact exact_rows.closed before found parented ended
  · intro account held parented unsettled
    obtain ⟨before,found,_,_,rfl⟩ := mem_take held
    rw [outs]
    exact exact_rows.fits before found parented unsettled

/-- A loan of an account that has consumed nothing itself fits beside what its settled loans have consumed. -/
theorem lend {lender : Account κ} {key : κ} (member : lender ∈ rows)
    (fresh : key ∉ rows.map Account.key) (enough : ∀ left, lender.left = some left → amount ≤ left)
    (unspent : lender.own = 0 ∨ amount = 0)
    (contained : Contained (Ledgers.take rows lender.key amount ++ [.opened key lender.key (some amount)])) :
    Exact cap (Ledgers.take rows lender.key amount ++ [.opened key lender.key (some amount)]) := by
  have balanced := exact_rows.contained.balanced
  have taken := exact_rows.take lender.key amount
  have apart : lender.key ≠ key := fun same => fresh (same ▸ mem_map_of_mem member)
  have useds : ∀ above, below (Ledgers.take rows lender.key amount ++ [.opened key lender.key (some amount)]) above used =
      below rows above used := by
    intro above
    have before : below (Ledgers.take rows lender.key amount) above used = below rows above used :=
      below_take rows lender.key amount above fun _ _ => rfl
    rw [below,total_append,← below,before]
    simp [opened,used]
  have outs : ∀ above, below (Ledgers.take rows lender.key amount ++ [.opened key lender.key (some amount)]) above out =
      below rows above out+if lender.key = above then amount else 0 := by
    intro above
    have before : below (Ledgers.take rows lender.key amount) above out = below rows above out :=
      below_take rows lender.key amount above fun _ _ => rfl
    rw [below,total_append,← below,before]
    simp [opened,out]
  obtain ⟨left,has⟩ := Option.isSome_iff_exists.mp (exact_rows.bounded lender member)
  obtain ⟨granted,given,room⟩ := balanced.bounded lender member left has
  have least := enough left has
  have within_cap := exact_rows.capped lender member
  rw [given,Option.getD_some] at within_cap
  refine ⟨contained,?_,?_,?_,?_,?_⟩
  · intro account held
    obtain older | rfl := (mem_append.mp held).imp id mem_singleton.mp
    · exact taken.capped account older
    · show amount ≤ cap
      omega
  · intro account held
    obtain older | rfl := (mem_append.mp held).imp id mem_singleton.mp
    · exact taken.bounded account older
    · rfl
  · intro account held parented
    rw [useds]
    obtain older | rfl := (mem_append.mp held).imp id mem_singleton.mp
    · obtain ⟨before,found,_,_,rfl⟩ := mem_take older
      exact exact_rows.summed before found parented
    · have nothing := balanced.below_fresh fresh used
      show 0 = 0+below rows key used
      omega
  · intro account held parented ended
    obtain older | rfl := (mem_append.mp held).imp id mem_singleton.mp
    · exact taken.closed account older parented ended
    · cases ended
  intro account held parented unsettled
  rw [outs]
  obtain older | rfl := (mem_append.mp held).imp id mem_singleton.mp
  · obtain ⟨before,found,_,_,rfl⟩ := mem_take older
    have fits := exact_rows.fits before found parented unsettled
    show before.consumed+(below rows before.key out+if lender.key = before.key then amount else 0) ≤ before.granted.getD 0
    split
    next same =>
      obtain rfl := same_key balanced.distinct member found same
      have whole := exact_rows.summed lender member parented
      have spread := exact_rows.below_kept_eq lender.key
      rw [given,Option.getD_some] at fits ⊢
      omega
    next => exact fits
  · show 0+(below rows key out+if lender.key = key then amount else 0) ≤ amount
    rw [balanced.below_fresh fresh,if_neg apart]
    omega

/-- An open account spends, once, within what is left of its loan. -/
theorem spend (member : account ∈ rows) (unsettled : account.settled = false)
    (unspent : account.own = 0) (room : account.consumed+below rows account.key out+amount ≤ account.granted.getD 0) :
    Exact cap (spend cap rows account.key amount) := by
  have balanced := exact_rows.contained.balanced
  have useds : ∀ above, below (Ledgers.spend cap rows account.key amount) above used = below rows above used := by
    refine below_kept fun other held same => ?_
    obtain rfl := same_key balanced.distinct held member same
    exact ⟨rfl,by simp [used,unsettled]⟩
  have outs : ∀ above, below (Ledgers.spend cap rows account.key amount) above out = below rows above out := by
    refine below_kept fun other _ _ => ?_
    exact ⟨rfl,rfl⟩
  have exactly : min (account.consumed+amount) cap = account.consumed+amount := by
    have within_cap := exact_rows.capped account member
    exact Nat.min_eq_left (by omega)
  have origin : ∀ row ∈ Ledgers.spend cap rows account.key amount,
      row = { account with consumed := account.consumed+amount, own := amount } ∨ row ∈ rows := by
    intro row held
    obtain ⟨before,found,same,rfl⟩ | ⟨found,_⟩ := mem_change held
    · obtain rfl := same_key balanced.distinct found member same
      exact .inl (by rw [exactly])
    · exact .inr found
  refine ⟨exact_rows.contained.spend cap account.key amount,?_,?_,?_,?_,?_⟩
  · intro row held
    obtain rfl | found := origin row held
    · exact exact_rows.capped account member
    · exact exact_rows.capped row found
  · intro row held
    obtain rfl | found := origin row held
    · exact exact_rows.bounded account member
    · exact exact_rows.bounded row found
  · intro row held parented
    rw [useds]
    obtain rfl | found := origin row held
    · have whole := exact_rows.summed account member parented
      show account.consumed+amount = amount+below rows account.key used
      omega
    · exact exact_rows.summed row found parented
  · intro row held parented ended
    obtain rfl | found := origin row held
    · exact absurd (unsettled.symm.trans ended) (by decide)
    · exact exact_rows.closed row found parented ended
  intro row held parented open_row
  rw [outs]
  obtain rfl | found := origin row held
  · show account.consumed+amount+below rows account.key out ≤ account.granted.getD 0
    omega
  · exact exact_rows.fits row found parented open_row

theorem settle {loan : Account κ} {lender : κ} (member : loan ∈ rows) (open_loan : loan.settled = false)
    (under : loan.parent = some lender) (rested : below rows loan.key out = 0) :
    Exact cap (settle cap rows loan lender) := by
  have balanced := exact_rows.contained.balanced
  obtain ⟨apart,_⟩ := balanced.rooted loan member lender under
  have consumed : loan.consumed ≤ loan.granted.getD 0 := by
    have room := exact_rows.fits loan member (by simp [under]) open_loan
    omega
  have loan_out : loan.out = loan.granted.getD 0 := by simp [out,open_loan]
  have loan_used : loan.used = 0 := by simp [used,open_loan]
  have useds := below_settle cap balanced.distinct member under fun other : Account κ => show (loan.repaid cap other).used = other.used by
    simp only [used,repaid]
    split <;> rfl
  have outs := below_settle cap balanced.distinct member under fun other : Account κ => show (loan.repaid cap other).out = other.out from rfl
  have closed_used : loan.close.used = loan.consumed := rfl
  have closed_out : loan.close.out = 0 := rfl
  have counted := le_total member fun account => if account.parent = some lender then account.out else 0
  rw [if_pos under] at counted
  refine ⟨exact_rows.contained.settle cap member open_loan under rested,?_,?_,?_,?_,?_⟩
  · intro account held
    obtain rfl | ⟨before,found,_,rfl⟩ | ⟨found,_,_⟩ := mem_settle balanced.distinct member apart held
    · exact exact_rows.capped loan member
    · exact exact_rows.capped before found
    · exact exact_rows.capped account found
  · intro account held
    obtain rfl | ⟨before,found,_,rfl⟩ | ⟨found,_,_⟩ := mem_settle balanced.distinct member apart held
    · exact exact_rows.bounded loan member
    · simpa [repaid] using exact_rows.bounded before found
    · exact exact_rows.bounded account found
  · intro account held parented
    have weighed := useds account.key
    obtain rfl | ⟨before,found,same,rfl⟩ | ⟨found,_,other⟩ := mem_settle balanced.distinct member apart held
    · have whole := exact_rows.summed loan member parented
      have other : lender ≠ loan.close.key := apart
      rw [if_neg other,if_neg other] at weighed
      exact whole.trans (congrArg (loan.own + ·) weighed.symm)
    · -- The lender: the consumption of the loan is its own from now on.
      have whole := exact_rows.summed before found parented
      have named : lender = (loan.repaid cap before).key := same.symm
      rw [if_pos named,if_pos named] at weighed
      have here : below rows (loan.repaid cap before).key used = below rows before.key used := rfl
      have lent : loan.granted.getD 0 ≤ below rows before.key out := by
        rw [same]
        exact loan_out ▸ counted
      show (if before.settled then before.consumed else min (before.consumed+loan.consumed) cap) =
        before.own+below (Ledgers.settle cap rows loan lender) (loan.repaid cap before).key used
      cases ended : before.settled with
      | true =>
        obtain ⟨left,has⟩ := Option.isSome_iff_exists.mp (exact_rows.bounded before found)
        obtain ⟨granted,given,_⟩ := balanced.bounded before found left has
        have nothing := exact_rows.contained.rested before found parented (by simp [given]) ended
        simp only [if_true]
        omega
      | false =>
      have room := exact_rows.fits before found parented ended
      have within_cap := exact_rows.capped before found
      rw [if_neg (by decide),Nat.min_eq_left (by omega)]
      omega
    · have whole := exact_rows.summed account found parented
      rw [if_neg other.symm,if_neg other.symm] at weighed
      exact whole.trans (congrArg (account.own + ·) weighed.symm)
  · intro account held parented ended
    obtain rfl | ⟨before,found,_,rfl⟩ | ⟨found,_,_⟩ := mem_settle balanced.distinct member apart held
    · show loan.granted.getD 0-loan.consumed+loan.consumed = loan.granted.getD 0
      omega
    · have was : before.settled = true := ended
      have whole := exact_rows.closed before found parented was
      simpa [repaid,was] using whole
    · exact exact_rows.closed account found parented ended
  intro account held parented unsettled
  have weighed := outs account.key
  obtain rfl | ⟨before,found,same,rfl⟩ | ⟨found,_,other⟩ := mem_settle balanced.distinct member apart held
  · cases unsettled
  · have was : before.settled = false := unsettled
    have room := exact_rows.fits before found parented was
    have named : lender = (loan.repaid cap before).key := same.symm
    rw [if_pos named,if_pos named] at weighed
    have here : below rows (loan.repaid cap before).key out = below rows before.key out := rfl
    have cut := Nat.min_le_left (before.consumed+loan.consumed) cap
    show (if before.settled then before.consumed else min (before.consumed+loan.consumed) cap)+_ ≤ before.granted.getD 0
    rw [was,if_neg (by decide)]
    omega
  · rw [if_neg other.symm,if_neg other.symm] at weighed
    exact (Nat.add_le_add_left weighed.le account.consumed).trans (exact_rows.fits account found parented unsettled)

end

end Exact

end Deepstrike.Ledgers

import Mathlib.Data.List.Induction

/-!
What a shared feed owes its readers: each drain gives a reader what was accepted since its last one,
in order, save for what is no longer alive.
-/
namespace Deepstrike.Feeds
open List List.Sublist

variable {R M T : Type}

/-- What happened to a feed: a message was accepted, or a reader was given messages. -/
inductive Event (R M T : Type) where
  | accepted (message : M)
  | drained (reader : R) (now : T) (messages : List M)
  deriving Repr

/-- The messages accepted, in the order of their publication. -/
def accepted : List (Event R M T) → List M
  | [] => []
  | .accepted message :: rest => message :: accepted rest
  | .drained _ _ _ :: rest => accepted rest

theorem accepted_append (first second : List (Event R M T)) :
    accepted (first ++ second) = accepted first ++ accepted second := by
  induction first with
  | nil => rfl
  | cons event rest ih =>
  cases event with
  | accepted message => exact congrArg (message :: ·) ih
  | drained other now messages => exact ih

section
variable [DecidableEq R]

/-- What a reader was given by all its drains. -/
def received (reader : R) : List (Event R M T) → List M
  | [] => []
  | .accepted _ :: rest => received reader rest
  | .drained other _ messages :: rest => if other = reader then messages ++ received reader rest else received reader rest

/-- What was accepted since the reader drained last, over what it had not read before. -/
def unread (reader : R) : List M → List (Event R M T) → List M
  | waiting, [] => waiting
  | waiting, .accepted message :: rest => unread reader (waiting ++ [message]) rest
  | waiting, .drained other _ _ :: rest => unread reader (if other = reader then [] else waiting) rest

variable {reader : R} {trace : List (Event R M T)}

theorem received_append (first second : List (Event R M T)) :
    received reader (first ++ second) = received reader first ++ received reader second := by
  induction first with
  | nil => rfl
  | cons event rest ih =>
  cases event with
  | accepted message => exact ih
  | drained other now messages =>
  simp only [cons_append,received]
  split
  · rw [ih,append_assoc]
  · exact ih

theorem unread_append (waiting : List M) (first second : List (Event R M T)) :
    unread reader waiting (first ++ second) = unread reader (unread reader waiting first) second := by
  induction first generalizing waiting with
  | nil => rfl
  | cons event rest ih =>
  cases event with
  | accepted message => exact ih _
  | drained other now messages => exact ih _

private theorem unread_of_idle (waiting : List M) (idle : ∀ now messages, .drained reader now messages ∉ trace) :
    unread reader waiting trace = waiting ++ accepted trace := by
  induction trace generalizing waiting with
  | nil => exact (append_nil waiting).symm
  | cons event rest ih =>
  have later : ∀ now messages, .drained reader now messages ∉ rest := fun now messages member =>
    idle now messages (mem_cons_of_mem event member)
  cases event with
  | accepted message =>
    simp only [unread,accepted]
    rw [ih _ later,append_assoc,singleton_append]
  | drained other now messages =>
  have different : other ≠ reader := by
    rintro rfl
    exact idle now messages mem_cons_self
  simp only [unread,accepted,if_neg different]
  exact ih _ later

end

/-- A feed is faithful to a reader when each of its drains gives what was accepted since the last and is alive. -/
def Faithful [DecidableEq R] (alive : T → M → Bool) (reader : R) (trace : List (Event R M T)) : Prop :=
  ∀ before now messages after, trace = before ++ .drained reader now messages :: after →
    messages = (unread reader [] before).filter (alive now)

namespace Faithful
variable [DecidableEq R] {alive : T → M → Bool} {reader : R} {trace : List (Event R M T)}

theorem nil : Faithful alive reader [] :=
    fun before _ _ _ same => (append_ne_nil_of_right_ne_nil before (cons_ne_nil _ _) same.symm).elim

/-- A faithful trace takes one more event that delivers what is owed. -/
theorem snoc (faithful : Faithful alive reader trace) {event : Event R M T}
    (owed : ∀ now messages, event = .drained reader now messages →
    messages = (unread reader [] trace).filter (alive now)) :
    Faithful alive reader (trace ++ [event]) := by
  intro before now messages after same
  obtain rfl | ⟨front,last,rfl⟩ := eq_nil_or_concat after
  · obtain ⟨rfl,last⟩ := append_inj' same rfl
    exact owed now messages (cons.inj last).1
  · rw [concat_eq_append,← cons_append,← append_assoc] at same
    exact faithful before now messages front (append_inj' same rfl).1

private theorem of_snoc {event : Event R M T} (faithful : Faithful alive reader (trace ++ [event])) : Faithful alive reader trace := by
  intro before now messages after same
  refine faithful before now messages (after ++ [event]) ?_
  rw [same,append_assoc,cons_append]

/-- What was received and what is unread stand in the order of acceptance. -/
theorem sublist (faithful : Faithful alive reader trace) :
    (received reader trace ++ unread reader [] trace).Sublist (accepted trace) := by
  induction trace using reverseRecOn with
  | nil => exact refl []
  | append_singleton front event ih =>
  have before := ih faithful.of_snoc
  rw [received_append,unread_append,accepted_append]
  cases event with
  | accepted message =>
    show (received reader front ++ [] ++ (unread reader [] front ++ [message])).Sublist _
    rw [append_nil,← append_assoc]
    exact before.append (refl [message])
  | drained other now messages =>
  simp only [received,unread,accepted,append_nil]
  split
  next same =>
    subst same
    rw [faithful front now messages [] rfl,append_nil]
    exact (append (refl _) filter_sublist).trans before
  next => rwa [append_nil]

theorem next_drain (faithful : Faithful alive reader trace) {before between after : List (Event R M T)} {message : M}
    {now : T} {messages : List M}
    (split : trace = before ++ .accepted message :: between ++ .drained reader now messages :: after)
    (idle : ∀ now messages, .drained reader now messages ∉ between) :
    messages = (unread reader [] before ++ message :: accepted between).filter (alive now) := by
  rw [faithful _ now messages after split,unread_append]
  simp only [unread]
  rw [unread_of_idle _ idle,append_assoc,singleton_append]

end Faithful
end Deepstrike.Feeds

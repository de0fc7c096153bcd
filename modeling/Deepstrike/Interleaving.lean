import Mathlib.Data.List.Basic

/-!
Programs that share a state. Each call runs its own program; a program asks for one shared operation
at a time, and between any two of them the other calls may move, stop, or lose what their owner held.
A program is secure for a call when every operation it asks for keeps the invariant, whatever the others
did before; the rules below build that up along the program, and `Machine.Sound.step` carries it
over a run.
-/
namespace Deepstrike.Interleaving
open List

/-- A program that asks for one shared operation at a time. -/
inductive Program (Op : Type) (Answer : Op → Type) (ε α : Type) where
  | pure (value : α)
  | throw (error : ε)
  | perform (op : Op) (next : Answer op → Program Op Answer ε α)

section
variable {Op : Type} {Answer : Op → Type} {ε α β : Type}

namespace Program

def bind : Program Op Answer ε α → (α → Program Op Answer ε β) → Program Op Answer ε β
  | .pure value,rest => rest value
  | .throw error,_ => .throw error
  | .perform op next,rest => .perform op fun answer => (next answer).bind rest

instance : Monad (Program Op Answer ε) where
  pure := .pure
  bind := .bind

/-- Ask for one operation and give its answer. -/
def ask (op : Op) : Program Op Answer ε (Answer op) := .perform op .pure

def ofExcept : Except ε α → Program Op Answer ε α
  | .ok value => .pure value
  | .error error => .throw error

/-- Run a program to its end, whichever it is. -/
def attempt : Program Op Answer ε α → Program Op Answer ε (Except ε α)
  | .pure value => .pure (.ok value)
  | .throw error => .pure (.error error)
  | .perform op next => .perform op fun answer => (next answer).attempt

/-- Run a program with nothing in between. It stops where an operation has no answer. -/
def alone {σ : Type} (exec : (op : Op) → σ → Option (Answer op × σ)) : Program Op Answer ε α → σ → Option (Except ε α × σ)
  | .pure value,state => some (.ok value,state)
  | .throw error,state => some (.error error,state)
  | .perform op next,state => (exec op state).bind fun (answer,state) => (next answer).alone exec state

/-- A composed program runs alone as its parts in turn. -/
theorem alone_bind {σ : Type} {exec : (op : Op) → σ → Option (Answer op × σ)} (program : Program Op Answer ε α)
    (rest : α → Program Op Answer ε β) (state : σ) :
    (program >>= rest).alone exec state = match program.alone exec state with
      | some (.ok value,after) => (rest value).alone exec after
      | some (.error error,after) => some (.error error,after)
      | none => none := by
  induction program generalizing state with
  | pure value => rfl
  | throw error => rfl
  | perform op next ih =>
  show (exec op state).bind (fun (answer,state) => (next answer >>= rest).alone exec state) = _
  simp only [alone]
  cases exec op state with
  | none => rfl
  | some answered => exact ih answered.1 answered.2

section
variable {σ τ : Type} {exec : (op : Op) → σ → Option (Answer op × σ)} {shows : σ → τ → Prop} {state middle after : τ}

/-- Run alone over any state that shows an abstract one, a program ends with this result and shows the abstract state
    behind it. -/
def Refines (exec : (op : Op) → σ → Option (Answer op × σ)) (shows : σ → τ → Prop) (program : Program Op Answer ε α) (state : τ)
    (result : Except ε α) (after : τ) : Prop :=
  ∀ concrete, shows concrete state → ∃ later, program.alone exec concrete = some (result,later) ∧ shows later after

theorem Refines.value (value : α) : Refines exec shows (.pure value : Program Op Answer ε α) state (.ok value) state :=
  fun concrete shown => ⟨concrete,rfl,shown⟩

theorem Refines.failure (error : ε) :
    Refines exec shows (.throw error : Program Op Answer ε α) state (.error error) state :=
  fun concrete shown => ⟨concrete,rfl,shown⟩

theorem Refines.ofExcept (result : Except ε α) : Refines exec shows (.ofExcept result) state result state := by
  cases result with
  | ok value => exact .value value
  | error error => exact .failure error

/-- A program that asks once refines what the answer shows. -/
theorem Refines.ask {op : Op} {answer : Answer op}
    (answered : ∀ concrete, shows concrete state → ∃ later, exec op concrete = some (answer,later) ∧
    shows later after) :
    Refines exec shows (.ask op : Program Op Answer ε (Answer op)) state (.ok answer) after := by
  intro concrete shown
  obtain ⟨later,done,kept⟩ := answered concrete shown
  refine ⟨later,?_,kept⟩
  show (exec op concrete).bind _ = _
  rw [done]
  rfl

variable {program : Program Op Answer ε α} {rest : α → Program Op Answer ε β}

theorem Refines.bind {value : α} {result : Except ε β}
    (first : Refines exec shows program state (.ok value) middle)
    (next : Refines exec shows (rest value) middle result after) :
    Refines exec shows (program >>= rest) state result after := by
  intro concrete shown
  obtain ⟨between,done,kept⟩ := first concrete shown
  obtain ⟨later,ended,held⟩ := next between kept
  exact ⟨later,by rw [alone_bind,done]; exact ended,held⟩

theorem Refines.bind_error {error : ε}
    (first : Refines exec shows program state (.error error) after) :
    Refines exec shows (program >>= rest) state (.error error) after := by
  intro concrete shown
  obtain ⟨later,done,kept⟩ := first concrete shown
  exact ⟨later,by rw [alone_bind,done],kept⟩

end

end Program

end

/-- What the calls share: an operation of a call, under a choice the environment makes, and what is
    gone when the owner of a call crashes. -/
structure System (σ Op : Type) (Answer : Op → Type) (κ : Type) where
  exec : (id owner : Nat) → (op : Op) → κ → σ → Option (Answer op × σ)
  wipe : (owner : Nat) → σ → σ

inductive Phase (Op : Type) (Answer : Op → Type) (ε α : Type) where
  | Running (program : Program Op Answer ε α)
  | Returned (result : Except ε α)
  | Stopped

structure Call (ρ Op : Type) (Answer : Op → Type) (ε α : Type) where
  owner : Nat
  request : ρ
  phase : Phase Op Answer ε α

/-- The shared state and all calls ever made; a call is known by its position. -/
structure Machine (σ ρ Op : Type) (Answer : Op → Type) (ε α : Type) where
  shared : σ
  calls : List (Call ρ Op Answer ε α)

inductive Action (ρ κ : Type) where
  | Begin (owner : Nat) (request : ρ)
  | Move (id : Nat) (choice : κ)
  | Drop (id : Nat)
  | Crash (owner : Nat)

section
variable {σ ρ κ Op : Type} {Answer : Op → Type} {ε α β : Type}

/-- A running call ends without a result. -/
def Call.stop (call : Call ρ Op Answer ε α) : Call ρ Op Answer ε α :=
  match call.phase with
  | .Running _ => { call with phase := .Stopped }
  | .Returned _ | .Stopped => call

namespace Machine

/-- One move of one call. -/
def move (system : System σ Op Answer κ) (machine : Machine σ ρ Op Answer ε α) (id : Nat) (choice : κ)
    (call : Call ρ Op Answer ε α) : Machine σ ρ Op Answer ε α :=
  match call.phase with
  | .Running (.pure value) => { machine with calls := machine.calls.set id { call with phase := .Returned (.ok value) } }
  | .Running (.throw error) => { machine with calls := machine.calls.set id { call with phase := .Returned (.error error) } }
  | .Running (.perform op next) =>
    match system.exec id call.owner op choice machine.shared with
    | some (answer,shared) => ⟨shared,machine.calls.set id { call with phase := .Running (next answer) }⟩
    | none => machine
  | .Returned _ | .Stopped => machine

def step (system : System σ Op Answer κ) (program : ρ → Program Op Answer ε α) (machine : Machine σ ρ Op Answer ε α) :
    Action ρ κ → Machine σ ρ Op Answer ε α
  | .Begin owner request => { machine with calls := machine.calls ++ [⟨owner,request,.Running (program request)⟩] }
  | .Move id choice =>
    match machine.calls[id]? with
    | some call => machine.move system id choice call
    | none => machine
  | .Drop id => { machine with calls := machine.calls.modify id Call.stop }
  | .Crash owner =>
    ⟨system.wipe owner machine.shared,machine.calls.map fun call => if call.owner = owner then call.stop else call⟩

/-- A program run alone is a run of its machine in which only its call moves. -/
theorem moves_alone {system : System σ Op Answer κ} {begin_ : ρ → Program Op Answer ε α} {id : Nat} {choice : κ}
    (program : Program Op Answer ε α) :
    ∀ {machine : Machine σ ρ Op Answer ε α} {call : Call ρ Op Answer ε α} {result : Except ε α} {after : σ},
    machine.calls[id]? = some call →
      call.phase = .Running program →
      program.alone (fun op => system.exec id call.owner op choice) machine.shared = some (result,after) →
      ∃ moves, (replicate moves (Action.Move id choice)).foldl (step system begin_) machine =
        ⟨after,machine.calls.set id { call with phase := .Returned result }⟩ := by
  induction program with
  | pure value =>
    intro machine call result after found running done
    cases done
    exact ⟨1,by simp [step,found,move,running]⟩
  | throw error =>
    intro machine call result after found running done
    cases done
    exact ⟨1,by simp [step,found,move,running]⟩
  | perform op next ih =>
  intro machine call result after found running done
  obtain ⟨⟨answer,middle⟩,answered,done⟩ := Option.bind_eq_some_iff.mp done
  have bound := (List.getElem?_eq_some_iff.mp found).1
  have moved : step system begin_ machine (.Move id choice) = ⟨middle,machine.calls.set id { call with phase := .Running (next answer) }⟩ := by
    simp [step,found,move,running,answered]
  have placed : (machine.calls.set id { call with phase := .Running (next answer) })[id]? =
      some { call with phase := .Running (next answer) } := getElem?_set_self bound
  obtain ⟨moves,rest⟩ := @ih answer ⟨middle,machine.calls.set id { call with phase := .Running (next answer) }⟩
    { call with phase := .Running (next answer) } result after placed rfl done
  refine ⟨moves+1,?_⟩
  rw [replicate_succ,foldl_cons,moved,rest]
  simp

/-- The operation an action performs, if it performs one, meets a condition on the state before it. -/
def Abides (meets : σ → Op → Prop) (machine : Machine σ ρ Op Answer ε α) (action : Action ρ κ) : Prop :=
  ∀ id choice, action = .Move id choice → ∀ call op next, machine.calls[id]? = some call →
    call.phase = .Running (.perform op next) → meets machine.shared op

/-- The states of the runs whose operations all meet a condition. -/
inductive Reached (system : System σ Op Answer κ) (program : ρ → Program Op Answer ε α) (meets : σ → Op → Prop) (start : σ) :
    Machine σ ρ Op Answer ε α → Prop where
  | start : Reached system program meets start ⟨start,[]⟩
  | step {machine : Machine σ ρ Op Answer ε α} (reached : Reached system program meets start machine) (action : Action ρ κ)
    (abides : machine.Abides meets action) : Reached system program meets start (machine.step system program action)

end Machine

/-- An invariant of the shared state, how the state grows under every move, and what the others leave of
    a call: what it has put there stays as it is, and nothing is there before it has begun. -/
structure Discipline (σ Op : Type) where
  inv : σ → Prop
  grows : σ → σ → Prop
  keeps : Nat → σ → σ → Prop
  fresh : Nat → σ → Prop
  meets : σ → Op → Prop
  grows_refl : ∀ state, grows state state
  grows_trans : ∀ first second third, grows first second → grows second third → grows first third
  keeps_refl : ∀ id state, keeps id state state
  keeps_trans : ∀ id first second third, keeps id first second → keeps id second third → keeps id first third
  fresh_kept : ∀ id first second, keeps id first second → fresh id first → fresh id second

namespace Discipline

/-- What the others may have done since a call looked. -/
structure Rely (discipline : Discipline σ Op) (id : Nat) (before after : σ) : Prop where
  inv : discipline.inv after
  grows : discipline.grows before after
  keeps : discipline.keeps id before after

variable {discipline : Discipline σ Op} {id : Nat} {first second third : σ}

theorem Rely.refl (kept : discipline.inv first) : discipline.Rely id first first :=
  ⟨kept,discipline.grows_refl first,discipline.keeps_refl id first⟩

theorem Rely.trans (before : discipline.Rely id first second) (after : discipline.Rely id second third) :
    discipline.Rely id first third :=
  ⟨after.inv,discipline.grows_trans _ _ _ before.grows after.grows,discipline.keeps_trans id _ _ _ before.keeps after.keeps⟩

end Discipline

variable (system : System σ Op Answer κ) (discipline : Discipline σ Op)

/-- A result that stays as it is described, whatever the others do. -/
def Settled (id : Nat) (post : σ → Except ε α → Prop) (result : Except ε α) (state : σ) : Prop :=
  ∀ later, discipline.Rely id state later → post later result

/-- Whatever the others did before each of its operations, a program keeps the invariant and what the
    others rely on, and ends as described. -/
def Secure (id owner : Nat) (post : σ → Except ε α → Prop) : Program Op Answer ε α → σ → Prop
  | .pure value,state => Settled discipline id post (.ok value) state
  | .throw error,state => Settled discipline id post (.error error) state
  | .perform op next,state => ∀ later, discipline.Rely id state later → discipline.meets later op →
    ∀ choice answer after, system.exec id owner op choice later = some (answer,after) →
      discipline.inv after ∧ discipline.grows later after ∧ (∀ other, other ≠ id → discipline.keeps other later after) ∧
        Secure id owner post (next answer) after

variable {system discipline} {id owner : Nat} {state : σ}

variable {result : Except ε α} {program : Program Op Answer ε α} {call : Call ρ Op Answer ε α}

theorem Settled.later {post : σ → Except ε α → Prop} {after : σ} (settled : Settled discipline id post result state)
    (since : discipline.Rely id state after) : Settled discipline id post result after :=
  fun later moved => settled later (since.trans moved)

theorem Secure.later {post : σ → Except ε α → Prop} {after : σ}
    (secure : Secure system discipline id owner post program state) (since : discipline.Rely id state after) :
    Secure system discipline id owner post program after := by
  cases program with
  | pure value => exact Settled.later secure since
  | throw error => exact Settled.later secure since
  | perform op next => exact fun later moved => secure later (since.trans moved)

/-- A program followed by another: the second is secure wherever the first may end. -/
theorem Secure.bind {mid : σ → Except ε α → Prop} {post : σ → Except ε β → Prop}
    {rest : α → Program Op Answer ε β} (kept : discipline.inv state)
    (first : Secure system discipline id owner mid program state)
    (next : ∀ value later, discipline.inv later → discipline.grows state later → mid later (.ok value) →
      Secure system discipline id owner post (rest value) later)
    (raised : ∀ error later, discipline.inv later → discipline.grows state later → mid later (.error error) →
      post later (.error error)) :
    Secure system discipline id owner post (program >>= rest) state := by
  -- The two follow-ups are wanted at every later state, so the claim is about those.
  suffices general : ∀ now, discipline.inv now → discipline.grows state now → Secure system discipline id owner mid program now →
      Secure system discipline id owner post (program.bind rest) now from general state kept (discipline.grows_refl state) first
  clear first kept
  induction program with
  | pure value =>
    intro now kept since first
    exact next value now kept since (first now (.refl kept))
  | throw error =>
    intro now _ since first later moved
    exact raised error later moved.inv (discipline.grows_trans _ _ _ since moved.grows) (first later moved)
  | perform op continue_ ih =>
  intro now _ since first later moved meets choice answer after done
  obtain ⟨held,grown,others,secure⟩ := first later moved meets choice answer after done
  have still := discipline.grows_trans _ _ _ since (discipline.grows_trans _ _ _ moved.grows grown)
  exact ⟨held,grown,others,ih answer after held still secure⟩

/-- A secure program is secure for a weaker postcondition. -/
theorem Secure.weaken {mid post : σ → Except ε α → Prop}
    (secure : Secure system discipline id owner mid program state)
    (implied : ∀ result later, discipline.inv later → discipline.grows state later → mid later result →
    post later result) :
    Secure system discipline id owner post program state := by
  suffices general : ∀ now, discipline.grows state now → Secure system discipline id owner mid program now →
      Secure system discipline id owner post program now from general state (discipline.grows_refl state) secure
  clear secure
  induction program with
  | pure value =>
    intro now since secure later moved
    exact implied _ later moved.inv (discipline.grows_trans _ _ _ since moved.grows) (secure later moved)
  | throw error =>
    intro now since secure later moved
    exact implied _ later moved.inv (discipline.grows_trans _ _ _ since moved.grows) (secure later moved)
  | perform op next ih =>
  intro now since secure later moved meets choice answer after done
  obtain ⟨held,grown,others,rest⟩ := secure later moved meets choice answer after done
  have still := discipline.grows_trans _ _ _ since (discipline.grows_trans _ _ _ moved.grows grown)
  exact ⟨held,grown,others,ih answer after still rest⟩

theorem Secure.ask {op : Op} {post : σ → Except ε (Answer op) → Prop}
    (asked : ∀ later, discipline.Rely id state later → discipline.meets later op → ∀ choice answer after,
      system.exec id owner op choice later = some (answer,after) →
        discipline.inv after ∧ discipline.grows later after ∧
        (∀ other, other ≠ id → discipline.keeps other later after) ∧
          Settled discipline id post (.ok answer) after) :
    Secure system discipline id owner post (Program.ask op) state := asked

theorem Secure.ofExcept {post : σ → Except ε α → Prop} (settled : Settled discipline id post result state) :
    Secure system discipline id owner post (Program.ofExcept result) state := by
  cases result with
  | ok value => exact settled
  | error error => exact settled

theorem Secure.attempt {post : σ → Except ε α → Prop}
    (secure : Secure system discipline id owner post program state) :
    Secure system discipline id owner (fun later result => ∃ ended, result = .ok ended ∧ post later ended)
    program.attempt state := by
  induction program generalizing state with
  | pure value => exact fun later moved => ⟨_,rfl,secure later moved⟩
  | throw error => exact fun later moved => ⟨_,rfl,secure later moved⟩
  | perform op next ih =>
  intro later moved meets choice answer after done
  obtain ⟨held,grown,others,rest⟩ := secure later moved meets choice answer after done
  exact ⟨held,grown,others,ih answer rest⟩

/-- What is known of a call in a state. -/
def Call.Sound (discipline : Discipline σ Op) (system : System σ Op Answer κ) (post : Nat → ρ → σ → Except ε α → Prop) (id : Nat)
    (call : Call ρ Op Answer ε α) (state : σ) : Prop :=
  match call.phase with
  | .Running program => Secure system discipline id call.owner (post id call.request) program state
  | .Returned result => Settled discipline id (post id call.request) result state
  | .Stopped => True

theorem Call.Sound.later {post : Nat → ρ → σ → Except ε α → Prop} {after : σ}
    (sound : call.Sound discipline system post id state) (since : discipline.Rely id state after) :
    call.Sound discipline system post id after := by
  unfold Call.Sound at sound ⊢
  split at sound
  · exact Secure.later sound since
  · exact Settled.later sound since
  · trivial

theorem Call.Sound.stop {post : Nat → ρ → σ → Except ε α → Prop}
    (sound : call.Sound discipline system post id state) : call.stop.Sound discipline system post id state := by
  unfold Call.stop
  split
  · trivial
  · exact sound
  · exact sound

/-- The state keeps its invariant, each call is as its program makes it, and no other call has begun. -/
structure Machine.Sound (discipline : Discipline σ Op) (system : System σ Op Answer κ) (post : Nat → ρ → σ → Except ε α → Prop)
    (machine : Machine σ ρ Op Answer ε α) : Prop where
  inv : discipline.inv machine.shared
  calls : ∀ id (call : Call ρ Op Answer ε α), machine.calls[id]? = some call → call.Sound discipline system post id machine.shared
  fresh : ∀ id, machine.calls.length ≤ id → discipline.fresh id machine.shared

section
variable {post : Nat → ρ → σ → Except ε α → Prop} {machine : Machine σ ρ Op Answer ε α}

variable {call : Call ρ Op Answer ε α}

section
variable (sound : machine.Sound discipline system post)
include sound

theorem Machine.Sound.set {after : σ}
    (bound : id < machine.calls.length) (held : discipline.inv after) (grown : discipline.grows machine.shared after)
    (others : ∀ other, other ≠ id → discipline.keeps other machine.shared after)
    (placed : call.Sound discipline system post id after) :
    Machine.Sound discipline system post ⟨after,machine.calls.set id call⟩ := by
  refine ⟨held,fun other known found => ?_,fun other beyond => ?_⟩
  · rw [getElem?_set] at found
    by_cases same : id = other
    · subst same
      rw [if_pos rfl,if_pos bound] at found
      cases found
      exact placed
    · rw [if_neg same] at found
      exact (sound.calls other known found).later ⟨held,grown,others other (Ne.symm same)⟩
  rw [length_set] at beyond
  have apart : other ≠ id := by
    rintro rfl
    omega
  exact discipline.fresh_kept other _ _ (others other apart) (sound.fresh other beyond)

/-- One move of any call keeps a machine sound. -/
theorem Machine.Sound.move {choice : κ}
    (found : machine.calls[id]? = some call)
    (abides : ∀ op next, call.phase = .Running (.perform op next) → discipline.meets machine.shared op) :
    Machine.Sound discipline system post (machine.move system id choice call) := by
  have bound : id < machine.calls.length := (List.getElem?_eq_some_iff.mp found).1
  have known := sound.calls id call found
  have stays := fun other (_ : other ≠ id) => discipline.keeps_refl other machine.shared
  unfold Call.Sound at known
  unfold Machine.move
  split
  next value running =>
    rw [running] at known
    exact sound.set bound sound.inv (discipline.grows_refl _) stays known
  next error running =>
    rw [running] at known
    exact sound.set bound sound.inv (discipline.grows_refl _) stays known
  next op next running =>
    rw [running] at known
    cases done : system.exec id call.owner op choice machine.shared with
    | none => exact sound
    | some answered =>
    obtain ⟨answer,after⟩ := answered
    obtain ⟨held,grown,others,rest⟩ := known machine.shared (.refl sound.inv) (abides op next running) choice answer after done
    exact sound.set bound held grown others rest
  next => exact sound
  next => exact sound

/-- Every step of a run keeps the machine sound: what a call does, what stops it, and what a crash takes. -/
theorem Machine.Sound.step {program : ρ → Program Op Answer ε α} (action : Action ρ κ)
    (abides : machine.Abides discipline.meets action)
    (begun : ∀ id owner request state, discipline.inv state → discipline.fresh id state →
      Secure system discipline id owner (post id request) (program request) state)
    (wiped : ∀ owner state, discipline.inv state → ∀ id, discipline.Rely id state (system.wipe owner state)) :
    Machine.Sound discipline system post (machine.step system program action) := by
  cases action with
  | Begin owner request =>
    refine ⟨sound.inv,fun id call found => ?_,fun id beyond => sound.fresh id ?_⟩
    · obtain inside | last : id < machine.calls.length ∨ machine.calls.length ≤ id := Nat.lt_or_ge _ _
      · rw [Machine.step,getElem?_append_left inside] at found
        exact sound.calls id call found
      rw [Machine.step,getElem?_append_right last,getElem?_singleton] at found
      split at found
      · cases found
        exact begun id owner request _ sound.inv (sound.fresh id last)
      · cases found
    · rw [Machine.step,length_append] at beyond
      omega
  | Move id choice =>
    unfold Machine.step
    dsimp only
    split
    next call found => exact sound.move found fun op next running => abides id choice rfl call op next found running
    next => exact sound
  | Drop id =>
    refine ⟨sound.inv,fun other call found => ?_,fun other beyond => sound.fresh other ?_⟩
    · rw [Machine.step,getElem?_modify] at found
      obtain ⟨before,held,same⟩ := Option.map_eq_some_iff.mp found
      have known := sound.calls other before held
      rw [← same]
      split
      · exact known.stop
      · exact known
    · simpa [Machine.step] using beyond
  | Crash owner =>
  have gone := wiped owner machine.shared sound.inv
  refine ⟨(gone 0).inv,fun id call found => ?_,fun id beyond => ?_⟩
  · rw [Machine.step,getElem?_map] at found
    obtain ⟨before,held,same⟩ := Option.map_eq_some_iff.mp found
    have known := (sound.calls id before held).later (gone id)
    rw [← same]
    split
    · exact known.stop
    · exact known
  · have before : machine.calls.length ≤ id := by simpa [Machine.step] using beyond
    exact discipline.fresh_kept id _ _ (gone id).keeps (sound.fresh id before)

end

end

end

end Deepstrike.Interleaving

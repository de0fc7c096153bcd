import Mathlib.Order.Defs.Unbundled

/-!
What a program over a state leaves as it is: rules for relations between the state a program starts in
and the state it ends in. A program that stops with an error ends nowhere; where a caller catches the
error, the state it leaves behind counts as well.
-/
namespace Deepstrike.Frames

variable {ε σ α β : Type}

/-- Every value the program returns from a state fits the state it ends in. -/
def Ends (program : EStateM ε σ α) (start : σ) (fits : α → σ → Prop) : Prop :=
  ∀ value after, program start = .ok value after → fits value after

variable {program first : EStateM ε σ α} {next : α → EStateM ε σ β} {rest : PUnit → EStateM ε σ β}

theorem Ends.mono {start : σ} {fits weaker : α → σ → Prop} (ends : Ends program start fits)
    (weakens : ∀ value after, fits value after → weaker value after) : Ends program start weaker :=
  fun value after ran => weakens value after (ends value after ran)

theorem Ends.and {start : σ} {first second : α → σ → Prop} (one : Ends program start first)
    (two : Ends program start second) : Ends program start fun value after => first value after ∧ second value after :=
  fun value after ran => ⟨one value after ran,two value after ran⟩

@[simp] theorem ends_pure (value : α) (start : σ) (fits : α → σ → Prop) :
    Ends (pure value : EStateM ε σ α) start fits ↔ fits value start :=
  ⟨fun ends => ends value start rfl,fun fit _ _ ran => by cases ran; exact fit⟩

/-- A composed program ends as its parts in turn. -/
@[simp] theorem ends_bind (first : EStateM ε σ α) (next : α → EStateM ε σ β) (start : σ) (fits : β → σ → Prop) :
    Ends (first >>= next) start fits ↔ Ends first start fun value between => Ends (next value) between fits := by
  have run : (first >>= next) start = match first start with
    | .ok value between => next value between
    | .error error between => .error error between := rfl
  constructor
  · intro ends value between ran final after ran'
    refine ends final after ?_
    rw [run,ran]
    exact ran'
  intro ends final after ran
  rw [run] at ran
  split at ran
  next value between ran' => exact ends value between ran' final after ran
  next => cases ran

@[simp] theorem ends_get (start : σ) (fits : σ → σ → Prop) : Ends (get : EStateM ε σ σ) start fits ↔ fits start start :=
  ⟨fun ends => ends start start rfl,fun fit _ _ ran => by cases ran; exact fit⟩

@[simp] theorem ends_set (next start : σ) (fits : PUnit → σ → Prop) : Ends (set next : EStateM ε σ PUnit) start fits ↔
    fits ⟨⟩ next :=
  ⟨fun ends => ends ⟨⟩ next rfl,fun fit _ _ ran => by cases ran; exact fit⟩

@[simp] theorem ends_modify (change : σ → σ) (start : σ) (fits : PUnit → σ → Prop) :
    Ends (modify change : EStateM ε σ PUnit) start fits ↔ fits ⟨⟩ (change start) :=
  ⟨fun ends => ends ⟨⟩ (change start) rfl,fun fit _ _ ran => by cases ran; exact fit⟩

@[simp] theorem ends_throw (error : ε) (start : σ) (fits : α → σ → Prop) :
    Ends (throw error : EStateM ε σ α) start fits :=
  fun _ _ ran => by cases ran

theorem bind_ok {start after : σ} {value : β} (ran : (first >>= next) start = .ok value after) :
    ∃ first_value between, first start = .ok first_value between ∧ next first_value between = .ok value after := by
  change (match first start with
    | .ok value between => next value between
    | .error error between => EStateM.Result.error error between) = _ at ran
  split at ran
  next first_value between first_ran => exact ⟨first_value,between,first_ran,ran⟩
  next => cases ran

/-- From every state the program ends in a related one, with a value that fits. -/
def Keeps (related : σ → σ → Prop) (program : EStateM ε σ α) (fits : α → Prop) : Prop :=
  ∀ start, Ends program start fun value after => related start after ∧ fits value

namespace Keeps
variable {related : σ → σ → Prop} {fits : β → Prop}

variable {program : EStateM ε σ β} {first : EStateM ε σ α} {some_fit : α → Prop} {next : α → EStateM ε σ β}

theorem weaken (keeps : Keeps related program fits) {weaker : σ → σ → Prop} {looser : β → Prop}
    (weakens : ∀ before after, related before after → weaker before after)
    (loosens : ∀ value, fits value → looser value) :
    Keeps weaker program looser :=
  fun start => (keeps start).mono fun value after both => ⟨weakens start after both.1,loosens value both.2⟩

theorem of_pure [Std.Refl related] {value : β} (fit : fits value) : Keeps related (pure value : EStateM ε σ β) fits :=
  fun start => (ends_pure value start _).mpr ⟨refl start,fit⟩

theorem of_modify {change : σ → σ} (changes : ∀ start, related start (change start)) :
    Keeps related (modify change : EStateM ε σ PUnit) fun _ => True :=
  fun start => (ends_modify change start _).mpr ⟨changes start,trivial⟩

theorem bind [IsTrans σ related] (one : Keeps related first some_fit)
    (two : ∀ value, some_fit value → Keeps related (next value) fits) : Keeps related (first >>= next) fits :=
    fun start =>
  (ends_bind first next start _).mpr ((one start).mono fun value between both =>
    (two value both.2 between).mono fun _ _ both' => ⟨trans_of related both.1 both'.1,both'.2⟩)

theorem seq [IsTrans σ related] (one : Keeps related first some_fit)
    (two : ∀ value, Keeps related (next value) fits) : Keeps related (first >>= next) fits :=
    one.bind fun value _ => two value

theorem here (keeps : Keeps related program fits) {start : σ} :
    Ends program start fun value after => related start after ∧ fits value := keeps start

theorem of_get {next : σ → EStateM ε σ β}
    (here : ∀ start, Ends (next start) start fun value after => related start after ∧ fits value) :
    Keeps related (get >>= next) fits :=
    fun start => (ends_bind get next start _).mpr ((ends_get start _).mpr (here start))

end Keeps

variable {related : σ → σ → Prop} {fits : β → Prop}

theorem Ends.set_keeps [IsTrans σ related] {start next : σ} (changed : related start next)
    (keeps : Keeps related (rest ⟨⟩) fits) : Ends (set next >>= rest) start fun value after => related start after ∧
    fits value :=
  (ends_bind (set next) rest start _).mpr ((ends_set next start _).mpr
    ((keeps next).mono fun _ _ both => ⟨trans_of related changed both.1,both.2⟩))

/-- A value the program returns from a state fits the state it ends in, and an error leaves an accepted one. -/
def Lands (program : EStateM ε σ α) (start : σ) (fits : α → σ → Prop) (left : σ → Prop) : Prop :=
  Ends program start fits ∧ ∀ error after, program start = .error error after → left after

section
variable {start : σ} {left : σ → Prop}

theorem Lands.mono {program : EStateM ε σ α} {fits weaker : α → σ → Prop} {looser : σ → Prop}
    (lands : Lands program start fits left)
    (weakens : ∀ value after, fits value after → weaker value after) (loosens : ∀ after, left after → looser after) :
    Lands program start weaker looser :=
  ⟨lands.1.mono weakens,fun error after ran => loosens after (lands.2 error after ran)⟩

theorem lands_pure (value : α) (fits : α → σ → Prop) : Lands (pure value : EStateM ε σ α) start fits left ↔
    fits value start :=
  ⟨fun lands => (ends_pure value start fits).mp lands.1,fun fit => ⟨(ends_pure value start fits).mpr fit,fun _ _ ran => by cases ran⟩⟩

/-- A composed program lands as its parts in turn. -/
theorem lands_bind (first : EStateM ε σ α) (next : α → EStateM ε σ β) (fits : β → σ → Prop) :
    Lands (first >>= next) start fits left ↔
    Lands first start (fun value between => Lands (next value) between fits left) left := by
  have run : (first >>= next) start = match first start with
    | .ok value between => next value between
    | .error error between => .error error between := rfl
  constructor
  · intro lands
    have ended := (ends_bind first next start fits).mp lands.1
    refine ⟨fun value between ran => ⟨ended value between ran,fun error after ran' => ?_⟩,fun error after ran => ?_⟩
    · refine lands.2 error after ?_
      rw [run,ran]
      exact ran'
    · refine lands.2 error after ?_
      rw [run,ran]
  intro lands
  refine ⟨(ends_bind first next start fits).mpr (lands.1.mono fun value between both => both.1),fun error after ran => ?_⟩
  rw [run] at ran
  split at ran
  next value between ran' => exact (lands.1 value between ran').2 error after ran
  next error' between ran' =>
  cases ran
  exact lands.2 _ _ ran'

theorem lands_get (fits : σ → σ → Prop) : Lands (get : EStateM ε σ σ) start fits left ↔ fits start start :=
  ⟨fun lands => (ends_get start fits).mp lands.1,fun fit => ⟨(ends_get start fits).mpr fit,fun _ _ ran => by cases ran⟩⟩

theorem lands_set (next : σ) (fits : PUnit → σ → Prop) : Lands (set next : EStateM ε σ PUnit) start fits left ↔
    fits ⟨⟩ next :=
  ⟨fun lands => (ends_set next start fits).mp lands.1,fun fit => ⟨(ends_set next start fits).mpr fit,fun _ _ ran => by cases ran⟩⟩

theorem lands_modify (change : σ → σ) (fits : PUnit → σ → Prop) :
    Lands (modify change : EStateM ε σ PUnit) start fits left ↔ fits ⟨⟩ (change start) :=
  ⟨fun lands => (ends_modify change start fits).mp lands.1,fun fit => ⟨(ends_modify change start fits).mpr fit,fun _ _ ran => by cases ran⟩⟩

theorem lands_throw (error : ε) (fits : α → σ → Prop) (accepted : left start) :
    Lands (throw error : EStateM ε σ α) start fits left :=
  ⟨ends_throw error start fits,fun _ _ ran => by cases ran; exact accepted⟩

end

/-- From every state the program stops in a related one, with a value that fits or with an error. -/
def Spans (related : σ → σ → Prop) (program : EStateM ε σ α) (fits : α → Prop) : Prop :=
  ∀ start, Lands program start (fun value after => related start after ∧ fits value) (related start)

namespace Spans

theorem of_pure [Std.Refl related] {value : β} (fit : fits value) : Spans related (pure value : EStateM ε σ β) fits :=
  fun start => (lands_pure value _).mpr ⟨refl start,fit⟩

theorem of_throw [Std.Refl related] {error : ε} : Spans related (throw error : EStateM ε σ β) fits :=
    fun start => lands_throw error _ (refl start)

theorem of_modify {change : σ → σ} (changes : ∀ start, related start (change start)) :
    Spans related (modify change : EStateM ε σ PUnit) fun _ => True :=
  fun start => (lands_modify change _).mpr ⟨changes start,trivial⟩

variable {first : EStateM ε σ α} {some_fit : α → Prop} {next : α → EStateM ε σ β}

theorem bind [IsTrans σ related] (one : Spans related first some_fit)
    (two : ∀ value, some_fit value → Spans related (next value) fits) : Spans related (first >>= next) fits :=
    fun start =>
  (lands_bind first next _).mpr ((one start).mono (fun value between both =>
    (two value both.2 between).mono (fun _ _ both' => ⟨trans_of related both.1 both'.1,both'.2⟩) fun _ left => trans_of related both.1 left)
    fun _ left => left)

theorem seq [IsTrans σ related] (one : Spans related first some_fit)
    (two : ∀ value, Spans related (next value) fits) : Spans related (first >>= next) fits :=
    one.bind fun value _ => two value

theorem here {program : EStateM ε σ β} (spans : Spans related program fits) {start : σ} :
    Lands program start (fun value after => related start after ∧ fits value) (related start) := spans start

theorem of_get {next : σ → EStateM ε σ β}
    (here : ∀ start, Lands (next start) start (fun value after => related start after ∧ fits value) (related start)) :
    Spans related (get >>= next) fits := fun start => (lands_bind get next _).mpr ((lands_get _).mpr (here start))

end Spans

theorem Lands.seq [IsTrans σ related] {start : σ}
    (one : Lands first start (fun _ after => related start after ∧ True) (related start))
    (two : ∀ value, Spans related (next value) fits) :
    Lands (first >>= next) start (fun value after => related start after ∧ fits value) (related start) :=
  (lands_bind first next _).mpr (one.mono (fun value between both =>
    (two value between).mono (fun _ _ both' => ⟨trans_of related both.1 both'.1,both'.2⟩) fun _ left => trans_of related both.1 left)
    fun _ left => left)

theorem Lands.since [IsTrans σ related] {start between : σ} {program : EStateM ε σ β} (reached : related start between)
    (lands : Lands program between (fun value after => related between after ∧ fits value) (related between)) :
    Lands program between (fun value after => related start after ∧ fits value) (related start) :=
  lands.mono (fun _ _ both => ⟨trans_of related reached both.1,both.2⟩) fun _ left => trans_of related reached left

theorem Lands.step [IsTrans σ related] {start between : σ} {some_fit : α → Prop} {first : EStateM ε σ α}
    {next : α → EStateM ε σ β} {fits : β → σ → Prop}
    (reached : related start between) (one : Spans related first some_fit)
    (rest : ∀ value after, related start after → Lands (next value) after fits (related start)) :
    Lands (first >>= next) between fits (related start) :=
  (lands_bind first next _).mpr ((one between).mono (fun value after both => rest value after (trans_of related reached both.1))
    fun _ left => trans_of related reached left)

theorem Lands.set_spans [IsTrans σ related] {start next : σ} (changed : related start next)
    (spans : Spans related (rest ⟨⟩) fits) :
    Lands (set next >>= rest) start (fun value after => related start after ∧ fits value) (related start) :=
  (lands_bind (set next) rest _).mpr ((lands_set next _).mpr
    ((spans next).mono (fun _ _ both => ⟨trans_of related changed both.1,both.2⟩) fun _ left => trans_of related changed left))

end Deepstrike.Frames

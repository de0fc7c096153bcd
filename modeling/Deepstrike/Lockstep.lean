/-!
Two runs of one program from related states. The relation may forget part of the state, as long as
no step of the program lets the forgotten part show.
-/
namespace Deepstrike.Lockstep

variable {ε σ τ α β : Type}

/-! What the operations on the state come to. -/

theorem run_get (s : σ) : (get : EStateM ε σ σ) s = .ok s s := rfl
theorem run_set (next s : σ) : (set next : EStateM ε σ PUnit) s = .ok ⟨⟩ next := rfl
theorem run_modify (change : σ → σ) (s : σ) : (modify change : EStateM ε σ PUnit) s = .ok ⟨⟩ (change s) := rfl
theorem run_throw (error : ε) (s : σ) : (throw error : EStateM ε σ α) s = .error error s := rfl

/-- Two results that stop the same way, with the same value, in related states. -/
def Agree (R : σ → τ → Prop) : EStateM.Result ε σ α → EStateM.Result ε τ α → Prop
  | .ok value left,.ok value' right => value = value' ∧ R left right
  | .error halt left,.error halt' right => halt = halt' ∧ R left right
  | _,_ => False

theorem Agree.refl {R : σ → σ → Prop} (reflexive : ∀ s, R s s) (result : EStateM.Result ε σ α) :
    Agree R result result := by
  cases result <;> exact ⟨rfl,reflexive _⟩

/-- Two programs that agree from all related states. -/
def InStep (R : σ → τ → Prop) (left : EStateM ε σ α) (right : EStateM ε τ α) : Prop :=
  ∀ s t, R s t → Agree R (left s) (right t)

variable {R : σ → τ → Prop}

theorem InStep.pure (value : α) : InStep R (pure value : EStateM ε σ α) (pure value) :=
  fun _ _ related => ⟨rfl,related⟩

theorem InStep.throw (halt : ε) : InStep R (throw halt : EStateM ε σ α) (throw halt) :=
  fun _ _ related => ⟨rfl,related⟩

theorem InStep.ofExcept (value : Except ε α) :
    InStep R (MonadExcept.ofExcept value : EStateM ε σ α) (MonadExcept.ofExcept value) := by
  cases value with
  | error halt => exact InStep.throw halt
  | ok value => exact InStep.pure value

theorem InStep.modify {f : σ → σ} {g : τ → τ} (kept : ∀ s t, R s t → R (f s) (g t)) :
    InStep R (modify f : EStateM ε σ PUnit) (modify g) :=
  fun s t related => ⟨rfl,kept s t related⟩

/-- Two programs in step, continued in step, are in step. -/
theorem InStep.bind {first : EStateM ε σ α} {first' : EStateM ε τ α} {next : α → EStateM ε σ β}
    {next' : α → EStateM ε τ β}
    (firsts : InStep R first first') (nexts : ∀ value, InStep R (next value) (next' value)) :
    InStep R (first >>= next) (first' >>= next') := by
  intro s t related
  have firsts := firsts s t related
  show Agree R (EStateM.bind first next s) (EStateM.bind first' next' t)
  unfold EStateM.bind
  cases left : first s <;> cases right : first' t <;> rw [left,right] at firsts
  · obtain ⟨rfl,related⟩ := firsts
    exact nexts _ _ _ related
  · exact firsts.elim
  · exact firsts.elim
  · exact firsts

/-- A step respects a projection of the state when it shows through the projection alone. -/
def Respects (erase : σ → τ) (step : σ → σ) : Prop := ∀ s t, erase s = erase t → erase (step s) = erase (step t)

theorem Respects.of_erased {erase step : σ → σ} (shown : ∀ s, erase (step s) = erase (step (erase s))) :
    Respects erase step := by
  intro s t same
  rw [shown s,same,← shown t]

theorem Respects.of_commutes {erase step : σ → σ} (commutes : ∀ s, erase (step s) = step (erase s)) :
    Respects erase step := by
  intro s t same
  rw [commutes,commutes,same]

theorem Respects.foldl {erase : σ → τ} {step : σ → β → σ} (respects : ∀ item, Respects erase (step · item))
    (items : List β) :
    Respects erase fun s => items.foldl step s := by
  induction items with
  | nil => exact fun _ _ same => same
  | cons item rest ih => exact fun s t same => ih _ _ (respects item s t same)

theorem Respects.lockstep {erase : σ → τ} {step : σ → σ} (respects : Respects erase step) :
    InStep (fun s t => erase s = erase t) (modify step : EStateM ε σ PUnit) (modify step) :=
  InStep.modify respects

/-- The state a run ends in, whichever way it ends. -/
def stateOf : EStateM.Result ε σ α → σ
  | .ok _ state | .error _ state => state

end Deepstrike.Lockstep

import Marquee.Link.Channel

/-!
# Attempts in a row

An attempt that is followed by another one ends at the first failure, with the state that the
failure left behind. Two attempts on different states are related if they answer the same on
related states and leave related states behind; series of related attempts are related. What is said
of the errors of every part of a series holds of the errors of the series (`FailsWith.bind`).
-/

namespace Marquee.Attempt

variable {σ ε α β : Type}

@[simp] theorem pure_apply (a : α) (s : σ) : (pure a : Attempt σ ε α) s = (.ok a, s) := rfl

@[simp] theorem throw_apply (e : ε) (s : σ) : (throw e : Attempt σ ε α) s = (.error e, s) := rfl

/-- A result that is already there leaves the state alone. -/
@[simp] theorem lift_apply (result : Except ε α) (s : σ) :
    (liftM result : Attempt σ ε α) s = (result, s) := rfl

/-- An attempt that is followed by another one goes on with its result, or ends with its error. -/
theorem bind_apply (first : Attempt σ ε α) (next : α → Attempt σ ε β) (s : σ) :
    (first >>= next) s =
      match first s with
      | (.ok a, s) => next a s
      | (.error e, s) => (.error e, s) := by
  change (match (first s).1 with
    | .ok a => next a
    | .error e => pure (.error e) : StateM σ (Except ε β)) (first s).2 = _
  rcases first s with ⟨_ | _, _⟩ <;> rfl

/-- After a success the next attempt begins with the state that was left behind. -/
theorem bind_of_ok {first : Attempt σ ε α} {next : α → Attempt σ ε β} {s s' : σ} {a : α}
    (h : first s = (.ok a, s')) : (first >>= next) s = next a s' := by
  rw [bind_apply, h]

/-- After a failure there is no next attempt. -/
theorem bind_of_error {first : Attempt σ ε α} {next : α → Attempt σ ε β} {s s' : σ} {e : ε}
    (h : first s = (.error e, s')) : (first >>= next) s = (.error e, s') := by
  rw [bind_apply, h]

/-! ## Related attempts -/

section Related

variable {σ' : Type} {R : σ → σ' → Prop}

/-- On related states the attempts answer the same and leave related states behind. -/
def Related (R : σ → σ' → Prop) (one : Attempt σ ε α) (other : Attempt σ' ε α) : Prop :=
  ∀ ⦃s s'⦄, R s s' → (one s).1 = (other s').1 ∧ R (one s).2 (other s').2

theorem related_pure (a : α) : Related R (pure a : Attempt σ ε α) (pure a) := fun _ _ h => ⟨rfl, h⟩

theorem related_throw (e : ε) : Related R (throw e : Attempt σ ε α) (throw e) :=
  fun _ _ h => ⟨rfl, h⟩

/-- A result that is already there is related to itself, since it touches no state. -/
theorem related_lift (result : Except ε α) :
    Related R (liftM result : Attempt σ ε α) (liftM result) := fun _ _ h => ⟨rfl, h⟩

/-- Related attempts followed by related ones are related. -/
theorem Related.bind {one : Attempt σ ε α} {other : Attempt σ' ε α} (h : Related R one other)
    {next : α → Attempt σ ε β} {next' : α → Attempt σ' ε β}
    (k : ∀ a, Related R (next a) (next' a)) : Related R (one >>= next) (other >>= next') := by
  intro s s' hs
  obtain ⟨hanswer, hstate⟩ := h hs
  rw [bind_apply, bind_apply]
  generalize one s = result at hanswer hstate
  generalize other s' = result' at hanswer hstate
  obtain ⟨answer, t⟩ := result
  obtain ⟨answer', t'⟩ := result'
  obtain rfl : answer = answer' := hanswer
  cases answer with
  | error e => exact ⟨rfl, hstate⟩
  | ok a => exact k a hstate

end Related

/-! ## Errors of attempts -/

section FailsWith

variable {P : ε → Prop}

/-- The attempt has no other errors than these. -/
def FailsWith (P : ε → Prop) (attempt : Attempt σ ε α) : Prop :=
  ∀ s e, (attempt s).1 = .error e → P e

theorem failsWith_pure (a : α) : FailsWith P (pure a : Attempt σ ε α) := fun _ _ => nofun

/-- Throwing an error fails with that error only. -/
theorem failsWith_throw {e : ε} (h : P e) : FailsWith P (throw e : Attempt σ ε α) := by
  rintro _ _ ⟨⟩
  exact h

/-- The errors of a series are those of its parts. -/
theorem FailsWith.bind {first : Attempt σ ε α} (h : FailsWith P first)
    {next : α → Attempt σ ε β} (k : ∀ a, FailsWith P (next a)) : FailsWith P (first >>= next) := by
  intro s e hfail
  rcases hfirst : first s with ⟨e' | a, s'⟩
  · rw [bind_of_error hfirst] at hfail
    cases hfail
    exact h s e (congrArg Prod.fst hfirst)
  · rw [bind_of_ok hfirst] at hfail
    exact k a s' e hfail

end FailsWith

end Marquee.Attempt

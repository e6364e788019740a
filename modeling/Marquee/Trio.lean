/-!
# Three of a kind

Three panels hang in one chain, with the identities 0, 1 and 2.
-/

namespace Marquee

/-- The number of panels in the chain. -/
def panelCount : Nat := 3

/-- One value for each of the three places in the chain. -/
@[ext] structure Trio (α : Type) where
  /-- place 0 -/
  zero : α
  /-- place 1 -/
  one : α
  /-- place 2 -/
  two : α
deriving DecidableEq

namespace Trio

variable {α β : Type}

/-- The three values in order. -/
def toList (t : Trio α) : List α := [t.zero, t.one, t.two]

/-- The value at a place. -/
def get (t : Trio α) : Fin 3 → α
  | 0 => t.zero
  | 1 => t.one
  | 2 => t.two

/-- Another value at a place. -/
def set (t : Trio α) (i : Fin 3) (a : α) : Trio α :=
  match i with
  | 0 => { t with zero := a }
  | 1 => { t with one := a }
  | 2 => { t with two := a }

/-- Each value through `f`. -/
def map (f : α → β) (t : Trio α) : Trio β := ⟨f t.zero, f t.one, f t.two⟩

/-- Three values, if all of them are there. -/
def sequence (t : Trio (Option α)) : Option (Trio α) :=
  match t.zero, t.one, t.two with
  | some a, some b, some c => some ⟨a, b, c⟩
  | _, _, _ => none

@[simp] theorem get_set_self (t : Trio α) (i : Fin 3) (a : α) : (t.set i a).get i = a := by
  match i with
  | 0 => rfl
  | 1 => rfl
  | 2 => rfl

theorem get_set_of_ne (t : Trio α) {i j : Fin 3} (a : α) (h : i ≠ j) :
    (t.set i a).get j = t.get j := by
  match i, j with
  | 0, 0 => exact absurd rfl h
  | 0, 1 => rfl
  | 0, 2 => rfl
  | 1, 0 => rfl
  | 1, 1 => exact absurd rfl h
  | 1, 2 => rfl
  | 2, 0 => rfl
  | 2, 1 => rfl
  | 2, 2 => exact absurd rfl h

theorem forall_get {p : α → Prop} (t : Trio α) :
    (∀ place, p (t.get place)) ↔ p t.zero ∧ p t.one ∧ p t.two := by
  constructor
  · intro h
    exact ⟨h 0, h 1, h 2⟩
  · rintro ⟨hzero, hone, htwo⟩ place
    match place with
    | 0 => exact hzero
    | 1 => exact hone
    | 2 => exact htwo

theorem sequence_eq_some_iff {t : Trio (Option α)} {u : Trio α} :
    t.sequence = some u ↔ ∀ place, t.get place = some (u.get place) := by
  obtain ⟨a, b, c⟩ := t
  constructor
  · intro h
    cases a <;> cases b <;> cases c <;> simp [sequence] at h
    subst h
    intro place
    match place with
    | 0 => rfl
    | 1 => rfl
    | 2 => rfl
  · intro h
    obtain rfl : a = some u.zero := h 0
    obtain rfl : b = some u.one := h 1
    obtain rfl : c = some u.two := h 2
    rfl

end Trio

end Marquee

import Mathlib.Data.List.Basic

/-!
# Facts that stand

A list of what has happened, oldest first, settles a fact if some entry makes it so and every
later entry lets it stand (`Stands`). Between the two the fact may still have been contested:
some later entry went against it without settling the opposite (`Contested`). Both are seen from
the last entry (`stands_concat`, `contested_concat`).
-/

namespace Marquee

variable {α : Type} {makes keeps against : α → Prop} {past : List α}

/-- Some entry makes the fact so, and every later one lets it stand. -/
def Stands (makes keeps : α → Prop) (past : List α) : Prop :=
  ∃ before r later, past = before ++ r :: later ∧ makes r ∧ ∀ r' ∈ later, keeps r'

/-- The fact stands, and an entry after the one that made it so went against it. -/
def Contested (makes keeps against : α → Prop) (past : List α) : Prop :=
  ∃ before r later, past = before ++ r :: later ∧ makes r ∧ (∀ r' ∈ later, keeps r') ∧
    ∃ r' ∈ later, against r'

theorem Contested.stands (h : Contested makes keeps against past) : Stands makes keeps past := by
  obtain ⟨before, r, later, hpast, hr, hkeeps, -⟩ := h
  exact ⟨before, r, later, hpast, hr, hkeeps⟩

theorem not_stands_nil : ¬ Stands makes keeps [] := by
  rintro ⟨before, r, later, hpast, -⟩
  exact List.append_ne_nil_of_right_ne_nil before (List.cons_ne_nil r later) hpast.symm

/-- The entry that makes a fact so is the last one, or lies before it. -/
theorem split_concat {last r : α} {before later : List α}
    (h : past ++ [last] = before ++ r :: later) :
    (before = past ∧ r = last ∧ later = []) ∨
      ∃ init, later = init ++ [last] ∧ past = before ++ r :: init := by
  -- Nothing comes after the entry, or what does ends with the last one.
  rcases List.eq_nil_or_concat' later with rfl | ⟨init, x, rfl⟩
  · obtain ⟨hpast, hlast⟩ := List.append_inj' h rfl
    exact .inl ⟨hpast.symm, (List.cons.inj hlast).1.symm, rfl⟩
  · rw [← List.cons_append, ← List.append_assoc] at h
    obtain ⟨hpast, hlast⟩ := List.append_inj' h rfl
    obtain rfl := (List.cons.inj hlast).1
    exact .inr ⟨init, rfl, hpast⟩

theorem forall_mem_concat {p : α → Prop} {later : List α} {last : α} :
    (∀ r ∈ later ++ [last], p r) ↔ (∀ r ∈ later, p r) ∧ p last := by
  rw [List.forall_mem_append, List.forall_mem_singleton]

theorem stands_concat {last : α} :
    Stands makes keeps (past ++ [last]) ↔ makes last ∨ Stands makes keeps past ∧ keeps last := by
  constructor
  · rintro ⟨before, r, later, hpast, hr, hkeeps⟩
    rcases split_concat hpast with ⟨-, rfl, -⟩ | ⟨init, rfl, rfl⟩
    · exact .inl hr
    · obtain ⟨hinit, hlast⟩ := forall_mem_concat.mp hkeeps
      exact .inr ⟨⟨before, r, init, rfl, hr, hinit⟩, hlast⟩
  · rintro (hlast | ⟨⟨before, r, later, rfl, hr, hkeeps⟩, hlast⟩)
    · exact ⟨past, last, [], rfl, hlast, List.forall_mem_nil _⟩
    · exact ⟨before, r, later ++ [last], by simp, hr, forall_mem_concat.mpr ⟨hkeeps, hlast⟩⟩

theorem contested_concat {last : α} :
    Contested makes keeps against (past ++ [last]) ↔
      keeps last ∧
        (Contested makes keeps against past ∨ Stands makes keeps past ∧ against last) := by
  constructor
  · rintro ⟨before, r, later, hpast, hr, hkeeps, r', hmem, hagainst⟩
    rcases split_concat hpast with ⟨-, -, rfl⟩ | ⟨init, rfl, rfl⟩
    · exact absurd hmem List.not_mem_nil
    · obtain ⟨hinit, hlast⟩ := forall_mem_concat.mp hkeeps
      refine ⟨hlast, ?_⟩
      rcases List.mem_append.mp hmem with hmem | hmem
      · exact .inl ⟨before, r, init, rfl, hr, hinit, r', hmem, hagainst⟩
      · rw [List.mem_singleton.mp hmem] at hagainst
        exact .inr ⟨⟨before, r, init, rfl, hr, hinit⟩, hagainst⟩
  · rintro ⟨hlast, ⟨before, r, later, rfl, hr, hkeeps, r', hmem, hagainst⟩ |
      ⟨⟨before, r, later, rfl, hr, hkeeps⟩, hagainst⟩⟩
    · exact ⟨before, r, later ++ [last], by simp, hr, forall_mem_concat.mpr ⟨hkeeps, hlast⟩, r',
        List.mem_append_left _ hmem, hagainst⟩
    · exact ⟨before, r, later ++ [last], by simp, hr, forall_mem_concat.mpr ⟨hkeeps, hlast⟩, last,
        List.mem_append_right _ (List.mem_singleton_self _), hagainst⟩

end Marquee

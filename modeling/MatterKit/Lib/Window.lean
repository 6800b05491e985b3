import Mathlib.Order.Bounds.Basic
import Mathlib.Tactic

/-!
# A window over the natural numbers

Numbers come in, and each is to be taken once. What has been taken is a set, and a window of width `n` takes
a number that is above all of the set, or one that is at most `n` below its greatest element and not in it
(`Fresh`). A number that is taken is never fresh again (`Fresh.not_mem`, `not_fresh_of_mem`).
-/

namespace MatterKit.Lib

variable {n : ℕ} {S : Set ℕ} {c m : ℕ}

/-- What a window of width `n` takes next to the numbers it has taken. -/
def Fresh (n : ℕ) (S : Set ℕ) (c : ℕ) : Prop :=
  (∀ a ∈ S, a < c) ∨ (∃ m, IsGreatest S m ∧ c < m ∧ m ≤ c + n) ∧ c ∉ S

/-- The numbers taken after one more has come in. -/
def Admitted (n : ℕ) (S : Set ℕ) (c : ℕ) : Set ℕ := {a | a ∈ S ∨ a = c ∧ Fresh n S c}

lemma fresh_empty (n c : ℕ) : Fresh n ∅ c := .inl fun _ h => h.elim

/-- What is fresh has not been taken. -/
lemma Fresh.not_mem (h : Fresh n S c) : c ∉ S := by
  rcases h with habove | ⟨-, hnew⟩
  · exact fun hc => lt_irrefl c (habove c hc)
  · exact hnew

lemma not_fresh_of_mem (h : c ∈ S) : ¬ Fresh n S c := fun hfresh => hfresh.not_mem h

/-- Below the greatest number taken, only what is close to it and has not been taken is fresh. -/
lemma fresh_iff_of_le (hm : IsGreatest S m) (hc : c ≤ m) : Fresh n S c ↔ c < m ∧ m ≤ c + n ∧ c ∉ S := by
  constructor
  · rintro (habove | ⟨⟨m', hm', hlt, hnear⟩, hnew⟩)
    · exact absurd (habove m hm.1) (Nat.not_lt.mpr hc)
    · obtain rfl := hm.unique hm'
      exact ⟨hlt, hnear, hnew⟩
  · rintro ⟨hlt, hnear, hnew⟩
    exact .inr ⟨⟨m, hm, hlt, hnear⟩, hnew⟩

/-- Whatever is above the greatest number taken is fresh. -/
lemma fresh_of_lt (hm : IsGreatest S m) (hc : m < c) : Fresh n S c :=
  .inl fun _ ha => (hm.2 ha).trans_lt hc

lemma admitted_of_not_fresh (h : ¬ Fresh n S c) : Admitted n S c = S := by
  ext a
  exact ⟨fun ha => ha.resolve_right fun hc => h hc.2, .inl⟩

lemma mem_admitted_of_fresh (h : Fresh n S c) {a : ℕ} : a ∈ Admitted n S c ↔ a ∈ S ∨ a = c :=
  or_congr_right (and_iff_left h)

/-- A number above all others becomes the greatest one. -/
lemma isGreatest_admitted_of_lt (hm : IsGreatest S m) (hc : m < c) : IsGreatest (Admitted n S c) c := by
  have hfresh : Fresh n S c := fresh_of_lt hm hc
  refine ⟨.inr ⟨rfl, hfresh⟩, ?_⟩
  rintro a (ha | ⟨rfl, -⟩)
  · exact (hm.2 ha).trans hc.le
  · exact le_rfl

/-- A number below the greatest one leaves it that. -/
lemma isGreatest_admitted_of_le (hm : IsGreatest S m) (hc : c ≤ m) : IsGreatest (Admitted n S c) m := by
  refine ⟨.inl hm.1, ?_⟩
  rintro a (ha | ⟨rfl, -⟩)
  · exact hm.2 ha
  · exact hc

end MatterKit.Lib

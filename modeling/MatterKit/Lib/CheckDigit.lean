import Mathlib.Algebra.Group.Basic

/-!
# Check digits over a group

A word is read letter by letter, each letter weighed by a group element that depends on its position,
and the word is good if the product of its weights is one. What such a check notices follows from two
things about the weights alone: at one position different letters weigh differently (`eq_of_replace`),
and at two positions next to each other two letters weigh differently in their two orders
(`eq_of_swap`).
-/

namespace MatterKit.Lib

/-- A weight for every letter at every position. -/
structure CheckScheme (α G : Type) [Group G] where
  weight : ℕ → α → G
  weight_injective : ∀ i, Function.Injective (weight i)
  eq_of_commute : ∀ i a b, weight i a * weight (i + 1) b = weight i b * weight (i + 1) a → a = b

namespace CheckScheme

variable {α G : Type} [Group G] (s : CheckScheme α G)

/-- The product of the weights of a word whose first letter is at position `i`. -/
def total : ℕ → List α → G
  | _, [] => 1
  | i, a :: word => s.weight i a * total (i + 1) word

lemma total_append (i : ℕ) (front back : List α) :
    s.total i (front ++ back) = s.total i front * s.total (i + front.length) back := by
  induction front generalizing i with
  | nil => simp [total]
  | cons a front ih =>
    have hposition : i + 1 + front.length = i + (a :: front).length := by
      rw [List.length_cons, Nat.add_assoc, Nat.add_comm 1]
    rw [List.cons_append, total, total, ih, hposition, mul_assoc]

/-- Words that differ in one letter weigh differently. -/
lemma eq_of_replace {i : ℕ} {front back : List α} {a b : α}
    (h : s.total i (front ++ a :: back) = s.total i (front ++ b :: back)) : a = b := by
  rw [total_append, total_append] at h
  have hrest := mul_left_cancel h
  rw [total, total] at hrest
  exact s.weight_injective _ (mul_right_cancel hrest)

/-- Words that differ in the order of two letters next to each other weigh differently. -/
lemma eq_of_swap {i : ℕ} {front back : List α} {a b : α}
    (h : s.total i (front ++ a :: b :: back) = s.total i (front ++ b :: a :: back)) : a = b := by
  rw [total_append, total_append] at h
  have hrest := mul_left_cancel h
  simp only [total, ← mul_assoc] at hrest
  exact s.eq_of_commute _ a b (mul_right_cancel hrest)

/-- What the letter in front has to weigh. -/
lemma total_eq_one_iff {i : ℕ} {a : α} {word : List α} :
    s.total i (a :: word) = 1 ↔ s.weight i a = (s.total (i + 1) word)⁻¹ := by
  rw [total]
  exact mul_eq_one_iff_eq_inv

end CheckScheme

end MatterKit.Lib

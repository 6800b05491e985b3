import MatterKit.Lib.KeyedVec
import Mathlib.Algebra.BigOperators.Group.List.Basic
import Mathlib.Algebra.Order.BigOperators.Group.Finset

/-!
# A list shared by owners

The entries of a list belong to owners, read through `o : α → κ`, and a bounded list that is to give
each of its owners `q` entries has to keep room for those that have not taken theirs. `held o l k`
counts the entries of an owner. `claimed o F q l` counts, over the owners in `F`, what each of them
holds or may still ask for: as long as it fits, an owner below `q` finds room
(`length_lt_of_claimed_le`).
-/

namespace MatterKit.Lib

variable {α κ : Type} [DecidableEq κ] {o : α → κ} {F : Finset κ} {q : ℕ} {l : List α}

/-- How many entries an owner has. -/
def held (o : α → κ) (l : List α) (k : κ) : ℕ := (l.filter fun a => decide (o a = k)).length

/-- What the owners hold or may still ask for, `q` being the share of each. -/
def claimed (o : α → κ) (F : Finset κ) (q : ℕ) (l : List α) : ℕ := ∑ k ∈ F, max (held o l k) q

@[simp] lemma held_nil (k : κ) : held o [] k = 0 := rfl

lemma held_append (l m : List α) (k : κ) : held o (l ++ m) k = held o l k + held o m k := by
  simp [held]

lemma held_append_singleton (a : α) (k : κ) :
    held o (l ++ [a]) k = held o l k + if o a = k then 1 else 0 := by
  rw [held_append]
  by_cases h : o a = k <;> simp [held, h]

lemma held_filter_le (p : α → Bool) (k : κ) : held o (l.filter p) k ≤ held o l k :=
  (List.filter_sublist.filter _).length_le

/-- Owners are counted alike in lists that belong to the same owners, entry by entry. -/
lemma held_congr {m : List α} (h : m.map o = l.map o) (k : κ) : held o m k = held o l k := by
  have hcount : ∀ l : List α, held o l k = (l.map o).count k := by
    intro l
    rw [held, ← List.countP_eq_length_filter, List.count, List.countP_map]
    congr 1
  rw [hcount, hcount, h]

/-- All entries belong to someone. -/
lemma sum_held (hF : ∀ a ∈ l, o a ∈ F) : ∑ k ∈ F, held o l k = l.length := by
  induction l with
  | nil => simp
  | cons a l ih =>
    obtain ⟨ha, hl⟩ := List.forall_mem_cons.mp hF
    have hcons : ∀ k, held o (a :: l) k = held o l k + if o a = k then 1 else 0 := by
      intro k
      by_cases h : o a = k <;> simp [held, h]
    simp only [hcons, Finset.sum_add_distrib, ih hl, Finset.sum_ite_eq, if_pos ha, List.length_cons]

/-- Owners that keep to their shares fill the list no further than the shares go. -/
lemma length_le_of_held_le (hF : ∀ a ∈ l, o a ∈ F) (hq : ∀ k ∈ F, held o l k ≤ q) :
    l.length ≤ F.card * q := by
  rw [← sum_held hF]
  exact (Finset.sum_le_sum hq).trans_eq (by simp)

@[simp] lemma claimed_nil : claimed o F q [] = F.card * q := by
  simp [claimed]

lemma claimed_filter_le (p : α → Bool) : claimed o F q (l.filter p) ≤ claimed o F q l := by
  apply Finset.sum_le_sum
  intro k _
  exact max_le_max (held_filter_le p k) le_rfl

lemma claimed_congr {m : List α} (h : m.map o = l.map o) : claimed o F q m = claimed o F q l := by
  simp only [claimed, held_congr h]

/-- Owners that keep to their shares claim the shares and no more. -/
lemma claimed_of_held_le (hq : ∀ k ∈ F, held o l k ≤ q) : claimed o F q l = F.card * q := by
  have hterm : ∀ k ∈ F, max (held o l k) q = q := by
    intro k hk
    exact max_eq_right (hq k hk)
  rw [claimed, Finset.sum_congr rfl hterm, Finset.sum_const, smul_eq_mul]

/-- An entry of an owner that has not taken its share is one that was claimed. -/
lemma claimed_append_singleton {a : α} (ha : o a ∈ F) :
    claimed o F q (l ++ [a]) = claimed o F q l + if held o l (o a) < q then 0 else 1 := by
  have hterm : ∀ k ∈ F, max (held o (l ++ [a]) k) q =
      max (held o l k) q + if o a = k then (if held o l (o a) < q then 0 else 1) else 0 := by
    intro k _
    rw [held_append_singleton]
    by_cases h : o a = k
    · subst h
      simp only [if_true]
      split_ifs <;> omega
    · simp [h]
  rw [claimed, Finset.sum_congr rfl hterm, Finset.sum_add_distrib, Finset.sum_ite_eq, if_pos ha]
  rfl

/-- While what is claimed fits, an owner that has not taken its share finds room. -/
lemma length_lt_of_claimed_le {N : ℕ} (hF : ∀ a ∈ l, o a ∈ F) (hN : claimed o F q l ≤ N) {k : κ}
    (hk : k ∈ F) (hlt : held o l k < q) : l.length < N := by
  calc l.length = ∑ k ∈ F, held o l k := (sum_held hF).symm
    _ < claimed o F q l := by
        apply Finset.sum_lt_sum
        · intro j _
          exact le_max_left _ _
        · exact ⟨k, hk, lt_max_of_lt_right hlt⟩
    _ ≤ N := hN

end MatterKit.Lib

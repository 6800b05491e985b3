import Mathlib.Data.List.Nodup
import Mathlib.Data.List.Perm.Subperm
import Mathlib.Tactic

/-!
# Fixed-capacity vectors whose entries are found by a key

A `BoundedVec α N` is a list that cannot hold more than `N` entries.

The second half is about a list read through a key `k : α → κ`. `KeysUnique k l` says that no two
entries share a key; it is kept by every operation, and under it a lookup by key finds *the* entry
(`find?_key_eq_some_iff`). `swapRemove` moves the last entry into the hole it leaves, so nothing about
it is proved by position: it is a permutation of `eraseIdx` (`swapRemove_perm_eraseIdx`).
-/

namespace MatterKit.Lib

variable {α κ : Type} {N : ℕ}

/-! ## List operations -/

/-- Applies `f` to the first entry that satisfies `p`. -/
def modifyFirst (p : α → Bool) (f : α → α) : List α → List α
  | [] => []
  | a :: l => if p a then f a :: l else a :: modifyFirst p f l

/-- Removes the entry at `i` by moving the last entry into its place. -/
def swapRemove (l : List α) (i : ℕ) : List α :=
  match l.getLast? with
  | none => []
  | some last => (l.set i last).dropLast

@[simp] lemma length_modifyFirst (p : α → Bool) (f : α → α) (l : List α) :
    (modifyFirst p f l).length = l.length := by
  induction l with
  | nil => rfl
  | cons a l ih =>
    unfold modifyFirst
    split
    · rfl
    · simp [ih]

variable {p : α → Bool} {f : α → α} {l : List α}

/-- An entry of the updated list is an old entry that was left alone, or the update of an entry
that matched. -/
lemma mem_modifyFirst {b : α} (h : b ∈ modifyFirst p f l) : b ∈ l ∨ ∃ a ∈ l, p a = true ∧ b = f a := by
  induction l with
  | nil => cases h
  | cons a l ih =>
    unfold modifyFirst at h
    split at h
    · rename_i hp
      rcases List.mem_cons.mp h with rfl | hb
      · exact .inr ⟨a, List.mem_cons_self, hp, rfl⟩
      · exact .inl (List.mem_cons_of_mem _ hb)
    · rcases List.mem_cons.mp h with rfl | hb
      · exact .inl List.mem_cons_self
      · rcases ih hb with hb | ⟨x, hx, hpx, rfl⟩
        · exact .inl (List.mem_cons_of_mem _ hb)
        · exact .inr ⟨x, List.mem_cons_of_mem _ hx, hpx, rfl⟩

/-- An update by a function that keeps `g` keeps the list of `g`-values. -/
lemma map_modifyFirst {β : Type} {g : α → β} (hg : ∀ a, g (f a) = g a) (l : List α) :
    (modifyFirst p f l).map g = l.map g := by
  induction l with
  | nil => rfl
  | cons a l ih =>
    unfold modifyFirst
    split
    · simp [hg]
    · simp [ih]

/-- So does an update by a function that keeps `g` on the entries it is applied to. -/
lemma map_modifyFirst_of_match {β : Type} {g : α → β} (hg : ∀ a, p a = true → g (f a) = g a)
    (l : List α) : (modifyFirst p f l).map g = l.map g := by
  induction l with
  | nil => rfl
  | cons a l ih =>
    unfold modifyFirst
    split
    · rename_i hp
      simp [hg a hp]
    · simp [ih]

/-- An update of entries that are not looked at. -/
lemma filter_modifyFirst {q : α → Bool} (h : ∀ x, p x = true → q x = false ∧ q (f x) = false) :
    (modifyFirst p f l).filter q = l.filter q := by
  induction l with
  | nil => rfl
  | cons x l ih =>
    unfold modifyFirst
    split_ifs with hx
    · obtain ⟨hold, hnew⟩ := h x hx
      simp [hold, hnew]
    · rw [List.filter_cons, List.filter_cons, ih]

/-- A selection that keeps everything that is looked at. -/
lemma filter_filter_of_imp {q : α → Bool} (h : ∀ x, q x = true → p x = true) :
    (l.filter p).filter q = l.filter q := by
  rw [List.filter_filter]
  refine List.filter_congr fun x _ => ?_
  cases hq : q x with
  | false => rfl
  | true => rw [h x hq, Bool.and_self]

/-- What an update does to a sum: one summand is exchanged. -/
lemma sum_map_modifyFirst {a : α} (g : α → ℕ) (h : l.find? p = some a) :
    ((modifyFirst p f l).map g).sum + g a = (l.map g).sum + g (f a) := by
  induction l with
  | nil => simp at h
  | cons x l ih =>
    unfold modifyFirst
    by_cases hx : p x = true
    · rw [List.find?_cons_of_pos hx] at h
      obtain rfl := Option.some.inj h
      rw [if_pos hx]
      simp only [List.map_cons, List.sum_cons]
      omega
    · rw [List.find?_cons_of_neg hx] at h
      have hrest := ih h
      rw [if_neg hx]
      simp only [List.map_cons, List.sum_cons]
      omega

/-- An update changes nothing exactly when it fixes the first match. -/
lemma modifyFirst_eq_self_iff : modifyFirst p f l = l ↔ ∀ a, l.find? p = some a → f a = a := by
  induction l with
  | nil => simp [modifyFirst]
  | cons x l ih =>
    unfold modifyFirst
    by_cases hx : p x = true
    · simp [hx]
    · simp [hx, ih]

/-- `swapRemove` drops exactly the entry at `i`, up to order. -/
lemma swapRemove_perm_eraseIdx {i : ℕ} (hi : i < l.length) : (swapRemove l i).Perm (l.eraseIdx i) := by
  rcases List.eq_nil_or_concat l with rfl | ⟨init, last, rfl⟩
  · simp at hi
  · have hlast : (init.concat last).getLast? = some last := by simp
    unfold swapRemove
    rw [hlast]
    simp only [List.concat_eq_append] at hi ⊢
    rcases Nat.lt_or_ge i init.length with hlt | hge
    · rw [List.set_append_left _ _ hlt, List.dropLast_concat, List.eraseIdx_append_of_lt_length hlt]
      rw [List.set_eq_take_append_cons_drop, if_pos hlt, List.eraseIdx_eq_take_drop_succ]
      calc (init.take i ++ last :: init.drop (i + 1)).Perm
            (last :: (init.take i ++ init.drop (i + 1))) := List.perm_middle
        _ |>.Perm (init.take i ++ init.drop (i + 1) ++ [last]) :=
            (List.perm_append_singleton _ _).symm
    · have hie : i = init.length := by
        simp at hi
        omega
      subst hie
      rw [List.eraseIdx_append_of_length_le le_rfl]
      simp

/-- Removal never makes a list longer. -/
lemma length_swapRemove_le (l : List α) (i : ℕ) : (swapRemove l i).length ≤ l.length := by
  unfold swapRemove
  split
  · simp
  · simp

/-! ## Vectors of bounded length -/

/-- A list of at most `N` entries. -/
structure BoundedVec (α : Type) (N : ℕ) where
  /-- The entries, oldest first. -/
  toList : List α
  /-- The capacity is never exceeded. -/
  length_le : toList.length ≤ N
  deriving DecidableEq

namespace BoundedVec

/-- The empty vector. -/
def empty : BoundedVec α N := ⟨[], Nat.zero_le N⟩

/-- Appends an entry, or refuses when the vector is full. -/
def push (v : BoundedVec α N) (a : α) : Option (BoundedVec α N) :=
  if h : v.toList.length < N then some ⟨v.toList ++ [a], by simpa using h⟩ else none

/-- Keeps the entries that satisfy `p`. -/
def retain (v : BoundedVec α N) (p : α → Bool) : BoundedVec α N :=
  ⟨v.toList.filter p, (List.length_filter_le _ _).trans v.length_le⟩

/-- Updates the first entry that satisfies `p`. -/
def update (v : BoundedVec α N) (p : α → Bool) (f : α → α) : BoundedVec α N :=
  ⟨modifyFirst p f v.toList, by simpa using v.length_le⟩

/-- Updates every entry. -/
def map (v : BoundedVec α N) (f : α → α) : BoundedVec α N :=
  ⟨v.toList.map f, by simpa using v.length_le⟩

/-- As much of a list as fits. -/
def ofTake (N : ℕ) (l : List α) : BoundedVec α N := ⟨l.take N, List.length_take_le _ _⟩

/-- A list that fits. -/
def ofList? (N : ℕ) (l : List α) : Option (BoundedVec α N) :=
  if h : l.length ≤ N then some ⟨l, h⟩ else none

/-- Removes the first entry that satisfies `p`, moving those behind it up. -/
def eraseFirst (v : BoundedVec α N) (p : α → Bool) : BoundedVec α N :=
  ⟨v.toList.eraseP p, List.eraseP_sublist.length_le.trans v.length_le⟩

/-- Removes the first entry that satisfies `p`, moving the last entry into its place; `none` when
no entry does. -/
def removeFirst (v : BoundedVec α N) (p : α → Bool) : Option (BoundedVec α N) :=
  (v.toList.findIdx? p).map fun i =>
    ⟨swapRemove v.toList i, (length_swapRemove_le _ _).trans v.length_le⟩

variable {v w : BoundedVec α N} {a : α} {p : α → Bool}

lemma push_eq_some_iff : v.push a = some w ↔ v.toList.length < N ∧ w.toList = v.toList ++ [a] := by
  unfold push
  split
  · rename_i h
    constructor
    · rintro ⟨rfl⟩
      exact ⟨h, rfl⟩
    · rintro ⟨-, hw⟩
      obtain ⟨l, hl⟩ := w
      simp_all
  · rename_i h
    simp [h]

lemma push_eq_none_iff : v.push a = none ↔ v.toList.length = N := by
  have := v.length_le
  unfold push
  split
  · simp
    omega
  · simp
    omega

lemma removeFirst_eq_none_iff : v.removeFirst p = none ↔ ∀ a ∈ v.toList, p a = false := by
  simp [removeFirst]

/-- A removal takes out one entry, the one at the first index that matches. -/
lemma removeFirst_eq_some (h : v.removeFirst p = some w) :
    ∃ i, ∃ hi : i < v.toList.length, p v.toList[i] = true ∧ w.toList.Perm (v.toList.eraseIdx i) := by
  unfold removeFirst at h
  rw [Option.map_eq_some_iff] at h
  obtain ⟨i, hfind, rfl⟩ := h
  obtain ⟨hi, hpi, -⟩ := List.findIdx?_eq_some_iff_getElem.mp hfind
  exact ⟨i, hi, hpi, swapRemove_perm_eraseIdx hi⟩

/-- What a removal does to a sum: one summand is lost. -/
lemma sum_map_removeFirst (g : α → ℕ) (h : v.removeFirst p = some w) :
    ∃ a ∈ v.toList, p a = true ∧ (w.toList.map g).sum + g a = (v.toList.map g).sum := by
  obtain ⟨i, hi, hp, hperm⟩ := removeFirst_eq_some h
  refine ⟨v.toList[i], List.getElem_mem hi, hp, ?_⟩
  have hall := (List.getElem_cons_eraseIdx_perm hi).map g
  rw [← hall.sum_eq, (hperm.map g).sum_eq, List.map_cons, List.sum_cons]
  omega

lemma mem_of_removeFirst (h : v.removeFirst p = some w) (ha : a ∈ w.toList) : a ∈ v.toList := by
  obtain ⟨i, -, -, hperm⟩ := removeFirst_eq_some h
  exact List.mem_of_mem_eraseIdx (hperm.mem_iff.mp ha)

/-- Removing the entry that was pushed last leaves the others where they were. -/
lemma removeFirst_of_last {l : List α} (hv : v.toList = l ++ [a]) (hl : ∀ b ∈ l, p b = false)
    (ha : p a = true) : ∃ w, v.removeFirst p = some w ∧ w.toList = l := by
  have hindex : v.toList.findIdx? p = some l.length := by
    have hnone : l.findIdx? p = none := List.findIdx?_eq_none_iff.mpr hl
    rw [hv, List.findIdx?_append, hnone]
    simp [ha]
  refine ⟨⟨swapRemove v.toList l.length, (length_swapRemove_le _ _).trans v.length_le⟩, ?_, ?_⟩
  · rw [removeFirst, hindex]
    rfl
  · simp [swapRemove, hv]

end BoundedVec

/-! ## Lists read through a key -/

/-- No two entries share a key. -/
def KeysUnique (k : α → κ) (l : List α) : Prop := (l.map k).Nodup

namespace KeysUnique

variable {k : α → κ} {l : List α}

lemma nil : KeysUnique k ([] : List α) := List.nodup_nil

/-- Under unique keys an entry is determined by its key. -/
lemma eq_of_key_eq (h : KeysUnique k l) {a b : α} (ha : a ∈ l) (hb : b ∈ l) (hk : k a = k b) : a = b :=
  List.inj_on_of_nodup_map h ha hb hk

lemma filter (h : KeysUnique k l) (p : α → Bool) : KeysUnique k (l.filter p) :=
  List.Nodup.sublist (List.filter_sublist.map k) h

variable {p : α → Bool} {f : α → α}

lemma modifyFirst (h : KeysUnique k l) (hf : ∀ a, k (f a) = k a) : KeysUnique k (modifyFirst p f l) := by
  unfold KeysUnique
  rw [map_modifyFirst hf]
  exact h

/-- An update that keeps the keys of the entries it is applied to. -/
lemma modifyFirst_of_match (h : KeysUnique k l) (hf : ∀ a, p a = true → k (f a) = k a) :
    KeysUnique k (Lib.modifyFirst p f l) := by
  unfold KeysUnique
  rw [map_modifyFirst_of_match hf]
  exact h

lemma perm {l' : List α} (h : KeysUnique k l) (hp : l'.Perm l) : KeysUnique k l' :=
  (hp.map k).nodup_iff.mpr h

lemma removeFirst {v w : BoundedVec α N} (h : KeysUnique k v.toList) (hr : v.removeFirst p = some w)
    : KeysUnique k w.toList := by
  obtain ⟨i, -, -, hperm⟩ := BoundedVec.removeFirst_eq_some hr
  refine KeysUnique.perm ?_ hperm
  exact List.Nodup.sublist ((List.eraseIdx_sublist _ _).map k) h

lemma append_singleton (h : KeysUnique k l) {a : α} (ha : ∀ b ∈ l, k b ≠ k a) :
    KeysUnique k (l ++ [a]) := by
  unfold KeysUnique
  rw [List.map_append, List.nodup_append]
  refine ⟨h, by simp, ?_⟩
  intro x hx y hy
  obtain ⟨b, hb, rfl⟩ := List.mem_map.mp hx
  obtain rfl : y = k a := by simpa using hy
  exact ha b hb

end KeysUnique

section find

variable [DecidableEq κ] {k : α → κ} {l : List α}

variable {key : κ} {f : α → α}

/-- A lookup by key that finds nothing means that no entry has the key. -/
lemma find?_key_eq_none_iff : l.find? (fun a => decide (k a = key)) = none ↔ ∀ a ∈ l, k a ≠ key := by
  simp [List.find?_eq_none]

lemma find?_key_eq_some {a : α} (h : l.find? (fun a => decide (k a = key)) = some a) : a ∈ l ∧ k a = key :=
  ⟨List.mem_of_find?_eq_some h, by simpa using List.find?_some h⟩

/-- Under unique keys a lookup finds *the* entry with the key. -/
lemma find?_key_eq_some_iff (h : KeysUnique k l) {a : α} :
    l.find? (fun a => decide (k a = key)) = some a ↔ a ∈ l ∧ k a = key := by
  refine ⟨find?_key_eq_some, ?_⟩
  rintro ⟨ha, rfl⟩
  cases hf : l.find? (fun b => decide (k b = k a)) with
  | none => exact absurd rfl (find?_key_eq_none_iff.mp hf a ha)
  | some b =>
    obtain ⟨hb, hkb⟩ := find?_key_eq_some hf
    rw [h.eq_of_key_eq hb ha hkb]

/-- A lookup after an update by key sees the update under that key and nothing elsewhere. -/
lemma find?_key_modifyFirst (hf : ∀ a, k (f a) = k a) (key key' : κ) :
    (modifyFirst (fun a => decide (k a = key)) f l).find? (fun a => decide (k a = key')) =
      if key' = key then (l.find? fun a => decide (k a = key')).map f
      else l.find? fun a => decide (k a = key') := by
  induction l with
  | nil => simp [modifyFirst]
  | cons x l ih =>
    unfold modifyFirst
    by_cases hx : k x = key
    · by_cases hx' : k x = key'
      · have hkeys : key' = key := hx'.symm.trans hx
        simp [hx, hkeys, hf]
      · have hkeys : key' ≠ key := fun heq => hx' (hx.trans heq.symm)
        simp [hx, hkeys.symm, hkeys, hf]
    · by_cases hx' : k x = key'
      · have hkeys : key' ≠ key := fun heq => hx (hx'.trans heq)
        simp [hx', hkeys]
      · simp [hx, hx', ih]

/-- A lookup in what is kept of a list by its keys. -/
lemma find?_key_filter (q : κ → Bool) (key : κ) :
    (l.filter fun a => q (k a)).find? (fun a => decide (k a = key)) =
      if q key then l.find? fun a => decide (k a = key) else none := by
  rw [List.find?_filter]
  split
  case isTrue hkeep =>
    congr 1
    funext a
    by_cases ha : k a = key
    · simp [ha, hkeep]
    · simp [ha]
  case isFalse hdrop =>
    rw [List.find?_eq_none]
    intro a _ ha
    obtain ⟨hkeep, hkey⟩ := of_decide_eq_true ha
    obtain rfl : k a = key := of_decide_eq_true hkey
    exact hdrop hkeep

/-- Under unique keys, what is kept under a key is what a lookup finds. -/
lemma filter_key_eq_toList (h : KeysUnique k l) (key : κ) :
    l.filter (fun a => decide (k a = key)) = (l.find? fun a => decide (k a = key)).toList := by
  induction l with
  | nil => rfl
  | cons a l ih =>
    obtain ⟨ha, hl⟩ : (∀ b ∈ l, k b ≠ k a) ∧ KeysUnique k l := by simpa [KeysUnique] using h
    by_cases hkey : k a = key
    · have hrest : l.filter (fun b => decide (k b = key)) = [] :=
        List.filter_eq_nil_iff.mpr fun b hb => by simpa [← hkey] using ha b hb
      simp [hkey, hrest]
    · simp [hkey, ih hl]

/-- Under unique keys, erasing the entry with a key keeps exactly those with another one. -/
lemma eraseP_key_eq_filter (h : KeysUnique k l) (key : κ) :
    l.eraseP (fun a => decide (k a = key)) = l.filter fun a => decide (k a ≠ key) := by
  induction l with
  | nil => rfl
  | cons a l ih =>
    obtain ⟨ha, hl⟩ : (∀ b ∈ l, k b ≠ k a) ∧ KeysUnique k l := by simpa [KeysUnique] using h
    by_cases hkey : k a = key
    · have hrest : l.filter (fun b => decide (k b ≠ key)) = l :=
        List.filter_eq_self.mpr fun b hb => decide_eq_true (hkey ▸ ha b hb)
      simp only [List.eraseP_cons, List.filter_cons, hkey, hrest, decide_true, ne_eq,
        not_true_eq_false, decide_false]
      simp
    · simp [hkey, ih hl]

/-- Under unique keys an update by key touches the entry with that key and no other. -/
lemma mem_modifyFirst_key_iff (h : KeysUnique k l) {b : α} :
    b ∈ modifyFirst (fun a => decide (k a = key)) f l ↔
      (b ∈ l ∧ k b ≠ key) ∨ ∃ a ∈ l, k a = key ∧ b = f a := by
  induction l with
  | nil => simp [modifyFirst]
  | cons x l ih =>
    obtain ⟨hx, hl⟩ : (∀ a ∈ l, k a ≠ k x) ∧ KeysUnique k l := by
      simpa [KeysUnique] using h
    unfold modifyFirst
    by_cases hk : k x = key
    · subst hk
      simp only [decide_true, if_true, List.mem_cons]
      constructor
      · rintro (rfl | hb)
        · exact .inr ⟨x, .inl rfl, rfl, rfl⟩
        · exact .inl ⟨.inr hb, hx b hb⟩
      · rintro (⟨rfl | hb, hne⟩ | ⟨a, rfl | ha, hka, rfl⟩)
        · exact absurd rfl hne
        · exact .inr hb
        · exact .inl rfl
        · exact absurd hka (hx a ha)
    · simp only [hk, decide_false, Bool.false_eq_true, if_false, List.mem_cons, ih hl]
      constructor
      · rintro (rfl | ⟨hb, hne⟩ | ⟨a, ha, hka, rfl⟩)
        · exact .inl ⟨.inl rfl, hk⟩
        · exact .inl ⟨.inr hb, hne⟩
        · exact .inr ⟨a, .inr ha, hka, rfl⟩
      · rintro (⟨rfl | hb, hne⟩ | ⟨a, rfl | ha, hka, rfl⟩)
        · exact .inl rfl
        · exact .inr (.inl ⟨hb, hne⟩)
        · exact absurd hka hk
        · exact .inr (.inr ⟨a, ha, hka, rfl⟩)

/-- Under unique keys, removing by key leaves exactly the entries with another key. -/
lemma mem_removeFirst_key_iff {v w : BoundedVec α N} (h : KeysUnique k v.toList)
    (hr : v.removeFirst (fun a => decide (k a = key)) = some w) {b : α} :
    b ∈ w.toList ↔ b ∈ v.toList ∧ k b ≠ key := by
  obtain ⟨i, hi, hpi, hperm⟩ := BoundedVec.removeFirst_eq_some hr
  have hki : k v.toList[i] = key := by simpa using hpi
  rw [hperm.mem_iff, List.mem_eraseIdx_iff_getElem]
  constructor
  · rintro ⟨j, hj, hne, rfl⟩
    refine ⟨List.getElem_mem hj, fun heq => hne ?_⟩
    have hsame := h.eq_of_key_eq (List.getElem_mem hj) (List.getElem_mem hi) (heq.trans hki.symm)
    exact (List.Nodup.of_map k h).getElem_inj_iff.mp hsame
  · rintro ⟨hb, hne⟩
    obtain ⟨j, hj, rfl⟩ := List.getElem_of_mem hb
    refine ⟨j, hj, ?_, rfl⟩
    rintro rfl
    exact hne hki

end find

end MatterKit.Lib

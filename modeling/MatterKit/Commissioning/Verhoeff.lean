import Mathlib.GroupTheory.SpecificGroups.Dihedral
import MatterKit.Lib.CheckDigit
import MatterKit.Lib.Result
import MatterKit.Platform

/-!
# The check digit of a manual pairing code

Verhoeff's check of `commissioning/payload.rs`. The table `VERHOEFF_D` multiplies in the dihedral group of the
pentagon (`table_eq_mul`), and the rows of `VERHOEFF_P` put a digit there with a weight that depends on its
position, so the check is a `CheckScheme` and notices what such a check does.
-/

namespace MatterKit.Commissioning

open Lib DihedralGroup

/-- Source: `VERHOEFF_D`. -/
def verhoeffD : List (List UInt8) :=
  [[0, 1, 2, 3, 4, 5, 6, 7, 8, 9],
    [1, 2, 3, 4, 0, 6, 7, 8, 9, 5],
    [2, 3, 4, 0, 1, 7, 8, 9, 5, 6],
    [3, 4, 0, 1, 2, 8, 9, 5, 6, 7],
    [4, 0, 1, 2, 3, 9, 5, 6, 7, 8],
    [5, 9, 8, 7, 6, 0, 4, 3, 2, 1],
    [6, 5, 9, 8, 7, 1, 0, 4, 3, 2],
    [7, 6, 5, 9, 8, 2, 1, 0, 4, 3],
    [8, 7, 6, 5, 9, 3, 2, 1, 0, 4],
    [9, 8, 7, 6, 5, 4, 3, 2, 1, 0]]

/-- Source: `VERHOEFF_P`. -/
def verhoeffP : List (List UInt8) :=
  [[0, 1, 2, 3, 4, 5, 6, 7, 8, 9],
    [1, 5, 7, 6, 2, 8, 3, 0, 9, 4],
    [5, 8, 0, 3, 7, 9, 6, 1, 4, 2],
    [8, 9, 1, 6, 0, 4, 3, 5, 2, 7],
    [9, 4, 5, 3, 1, 2, 6, 8, 7, 0],
    [4, 2, 8, 6, 5, 7, 3, 9, 0, 1],
    [2, 7, 9, 3, 8, 0, 6, 4, 1, 5],
    [7, 0, 4, 6, 9, 1, 3, 2, 5, 8]]

/-- Source: `VERHOEFF_INV`. -/
def verhoeffInv : List UInt8 := [0, 4, 3, 2, 1, 5, 6, 7, 8, 9]

/-- One digit at a position: permuted, then multiplied to what there is.
Source: the bodies of the loops of `verhoeff_check_digit` and `verhoeff_is_valid`. -/
def verhoeffStep (position : ℕ) (c digit : UInt8) : Option UInt8 := do
  let row ← verhoeffP[position % 8]?
  let permuted ← row[digit.toNat]?
  let table ← verhoeffD[c.toNat]?
  table[permuted.toNat]?

/-- The loop of `verhoeff_check_digit`, from the last digit on. -/
def checkDigitFrom : ℕ → UInt8 → List UInt8 → Except ErrorCode UInt8
  | _, c, [] => .ok c
  | i, c, ascii :: rest => do
    ensure (0x30 ≤ ascii ∧ ascii - 0x30 < 10) .invalidArgument
    let next ← okOr (verhoeffStep (i + 1) c (ascii - 0x30)) .invalidArgument
    checkDigitFrom (i + 1) next rest

/-- Source: `verhoeff_check_digit`. -/
def verhoeffCheckDigit (asciiDigits : List UInt8) : Except ErrorCode UInt8 := do
  let c ← checkDigitFrom 0 0 asciiDigits.reverse
  okOr verhoeffInv[c.toNat]? .invalidArgument

/-- The loop of `verhoeff_is_valid`, from the last digit on. -/
def isValidFrom : ℕ → UInt8 → List UInt8 → Bool
  | _, c, [] => c == 0
  | i, c, digit :: rest =>
    if 9 < digit then false
    else
      match verhoeffStep i c digit with
      | some next => isValidFrom (i + 1) next rest
      | none => false

/-- Source: `verhoeff_is_valid`. -/
def verhoeffIsValid (digits : List UInt8) : Bool := isValidFrom 0 0 digits.reverse

/-! ## The group -/

/-- The symmetry of the pentagon that a digit stands for. -/
def symmetry (d : Fin 10) : DihedralGroup 5 :=
  if d.val < 5 then r (d.val : ZMod 5) else sr (-(d.val : ZMod 5))

/-- The digit a permuted digit is replaced by. -/
def permute (i : Fin 8) (d : Fin 10) : Fin 10 := Fin.ofNat 10 ((verhoeffP.getD i.val []).getD d.val 0).toNat

/-- The table multiplies. -/
lemma table_eq_mul : ∀ (i : Fin 8) (c d : Fin 10), ∃ next : Fin 10,
    verhoeffStep i.val (UInt8.ofNat c.val) (UInt8.ofNat d.val) = some (UInt8.ofNat next.val) ∧
      symmetry next = symmetry c * symmetry (permute i d) := by
  decide +kernel

lemma symmetry_injective : Function.Injective symmetry := by
  decide +kernel

lemma permute_injective : ∀ i, Function.Injective (permute i) := by
  decide +kernel

/-- No two digits commute over two positions next to each other. -/
lemma eq_of_symmetry_mul : ∀ (i : Fin 8) (a b : Fin 10),
    symmetry (permute i a) * symmetry (permute (i + 1) b) =
      symmetry (permute i b) * symmetry (permute (i + 1) a) → a = b := by
  decide +kernel

/-- The weights of the digits, the last one at position zero. -/
def verhoeff : CheckScheme (Fin 10) (DihedralGroup 5) where
  weight i d := symmetry (permute (Fin.ofNat 8 i) d)
  weight_injective i := symmetry_injective.comp (permute_injective _)
  eq_of_commute i a b h := by
    have hnext : Fin.ofNat 8 (i + 1) = Fin.ofNat 8 i + 1 := Fin.ext (by simp [Fin.val_add])
    rw [hnext] at h
    exact eq_of_symmetry_mul _ a b h

/-- The digit that an octet is. -/
def digitOf (d : UInt8) : Fin 10 := Fin.ofNat 10 d.toNat

lemma ofNat_digitOf {d : UInt8} (h : d ≤ 9) : UInt8.ofNat (digitOf d).val = d := by
  have hlt : d.toNat < 10 := Nat.lt_succ_of_le (UInt8.le_iff_toNat_le.mp h)
  simp [digitOf, Nat.mod_eq_of_lt hlt]

lemma ofNat_le_nine : ∀ d : Fin 10, UInt8.ofNat d.val ≤ 9 := by
  decide +kernel

/-- A step multiplies by the weight of its digit. -/
lemma verhoeffStep_spec (i : ℕ) (c : Fin 10) {d : UInt8} (h : d ≤ 9) : ∃ next : Fin 10,
    verhoeffStep i (UInt8.ofNat c.val) d = some (UInt8.ofNat next.val) ∧
      symmetry next = symmetry c * verhoeff.weight i (digitOf d) := by
  obtain ⟨next, hstep, hnext⟩ := table_eq_mul (Fin.ofNat 8 i) c (digitOf d)
  rw [ofNat_digitOf h] at hstep
  refine ⟨next, ?_, hnext⟩
  rw [← hstep, verhoeffStep, verhoeffStep, Fin.val_ofNat, Nat.mod_mod]

/-! ## The two functions -/

lemma isValidFrom_iff (digits : List UInt8) (i : ℕ) (c : Fin 10) :
    isValidFrom i (UInt8.ofNat c.val) digits = true ↔
      (∀ d ∈ digits, d ≤ 9) ∧ symmetry c * verhoeff.total i (digits.map digitOf) = 1 := by
  induction digits generalizing i c with
  | nil =>
    have hzero : ∀ c : Fin 10, (UInt8.ofNat c.val == 0) = true ↔ symmetry c = 1 := by decide +kernel
    simpa [isValidFrom, CheckScheme.total] using hzero c
  | cons d digits ih =>
    rw [isValidFrom, List.forall_mem_cons]
    by_cases hd : d ≤ 9
    · obtain ⟨next, hstep, hnext⟩ := verhoeffStep_spec i c hd
      rw [if_neg (UInt8.not_lt.mpr hd), hstep]
      simp only [ih, hd, true_and, hnext, List.map_cons, CheckScheme.total, mul_assoc]
    · simp [if_pos (UInt8.not_le.mp hd), hd]

/-- A string is accepted if it is one of digits whose weights multiply to one. -/
lemma verhoeffIsValid_iff {digits : List UInt8} : verhoeffIsValid digits = true ↔
    (∀ d ∈ digits, d ≤ 9) ∧ verhoeff.total 0 (digits.reverse.map digitOf) = 1 := by
  have hone : symmetry 0 = 1 := by decide +kernel
  have h := isValidFrom_iff digits.reverse 0 0
  rw [hone, one_mul] at h
  simpa [verhoeffIsValid] using h

lemma checkDigitFrom_spec {digits : List UInt8} (h : ∀ d ∈ digits, d ≤ 9) (i : ℕ) (c : Fin 10) :
    ∃ next : Fin 10, checkDigitFrom i (UInt8.ofNat c.val) (digits.map (0x30 + ·)) =
        .ok (UInt8.ofNat next.val) ∧
      symmetry next = symmetry c * verhoeff.total (i + 1) (digits.map digitOf) := by
  induction digits generalizing i c with
  | nil => exact ⟨c, rfl, (mul_one _).symm⟩
  | cons d digits ih =>
    obtain ⟨hd, hrest⟩ := List.forall_mem_cons.mp h
    have hback : 0x30 + d - 0x30 = d := by grind
    have hascii : 0x30 ≤ 0x30 + d ∧ 0x30 + d - 0x30 < 10 := by
      rw [hback]
      rw [UInt8.le_iff_toNat_le] at hd
      simp only [UInt8.le_iff_toNat_le, UInt8.lt_iff_toNat_lt, UInt8.toNat_add, UInt8.reduceToNat] at hd ⊢
      omega
    obtain ⟨next, hstep, hnext⟩ := verhoeffStep_spec (i + 1) c hd
    obtain ⟨last, hlast, heq⟩ := ih hrest (i + 1) next
    refine ⟨last, ?_, ?_⟩
    · rw [List.map_cons, checkDigitFrom, ensure_of hascii, ok_bind, hback, hstep, okOr_some, ok_bind, hlast]
    · rw [heq, hnext, List.map_cons, CheckScheme.total, mul_assoc]

/-- The check digit weighs what the others leave to be made up for. -/
lemma verhoeffCheckDigit_spec {digits : List UInt8} (h : ∀ d ∈ digits, d ≤ 9) : ∃ check : Fin 10,
    verhoeffCheckDigit (digits.map (0x30 + ·)) = .ok (UInt8.ofNat check.val) ∧
      verhoeff.weight 0 check = (verhoeff.total 1 (digits.reverse.map digitOf))⁻¹ := by
  have hinv : ∀ c : Fin 10, ∃ check : Fin 10,
      verhoeffInv[(UInt8.ofNat c.val).toNat]? = some (UInt8.ofNat check.val) ∧
        symmetry (permute 0 check) = (symmetry c)⁻¹ := by decide +kernel
  have hone : symmetry 0 = 1 := by decide +kernel
  have hreverse : ∀ d ∈ digits.reverse, d ≤ 9 := by simpa using h
  obtain ⟨c, hc, htotal⟩ := checkDigitFrom_spec hreverse 0 0
  obtain ⟨check, hcheck, hweight⟩ := hinv c
  rw [hone, one_mul] at htotal
  refine ⟨check, ?_, hweight.trans (congrArg _ htotal)⟩
  rw [verhoeffCheckDigit, ← List.map_reverse]
  exact (congrArg (· >>= _) hc).trans (by rw [ok_bind, hcheck, okOr_some])

/-- **The check digit catches a mistyped digit and two that changed places**: one digit completes a string of
digits, and an accepted string with one digit replaced, or with two different neighbours swapped, is rejected. -/
theorem verhoeff_detects : (∀ digits : List UInt8, (∀ d ∈ digits, d ≤ 9) → ∃ check,
      verhoeffCheckDigit (digits.map (0x30 + ·)) = .ok check ∧
        ∀ last, verhoeffIsValid (digits ++ [last]) = true ↔ last = check) ∧
    (∀ (front back : List UInt8) (a b : UInt8), verhoeffIsValid (front ++ a :: back) = true → b ≠ a →
      verhoeffIsValid (front ++ b :: back) = false) ∧
    ∀ (front back : List UInt8) (a b : UInt8), verhoeffIsValid (front ++ a :: b :: back) = true → b ≠ a →
      verhoeffIsValid (front ++ b :: a :: back) = false := by
  have hsame : ∀ {a b : UInt8}, a ≤ 9 → b ≤ 9 → digitOf a = digitOf b → a = b := fun ha hb h => by
    rw [← ofNat_digitOf ha, h, ofNat_digitOf hb]
  refine ⟨fun digits h => ?_, fun front back a b ha hne => ?_, fun front back a b ha hne => ?_⟩
  · obtain ⟨check, hcheck, hweight⟩ := verhoeffCheckDigit_spec h
    refine ⟨_, hcheck, fun last => ?_⟩
    rw [verhoeffIsValid_iff, List.reverse_append, List.reverse_singleton, List.singleton_append,
      List.map_cons, verhoeff.total_eq_one_iff, ← hweight, (verhoeff.weight_injective 0).eq_iff]
    constructor
    · rintro ⟨hdigits, rfl⟩
      exact (ofNat_digitOf (hdigits last (by simp))).symm
    · rintro rfl
      have hdigit : ∀ d : Fin 10, digitOf (UInt8.ofNat d.val) = d := by decide +kernel
      refine ⟨?_, hdigit check⟩
      simpa [or_imp, forall_and, ofNat_le_nine check] using h
  · rw [Bool.eq_false_iff]
    intro hb
    obtain ⟨hdigits, htotal⟩ := verhoeffIsValid_iff.mp ha
    obtain ⟨hdigits', htotal'⟩ := verhoeffIsValid_iff.mp hb
    have heq := htotal'.trans htotal.symm
    simp only [List.reverse_append, List.reverse_cons, List.append_assoc, List.singleton_append,
      List.map_append, List.map_cons] at heq
    exact hne (hsame (hdigits' b (by simp)) (hdigits a (by simp)) (verhoeff.eq_of_replace heq))
  · rw [Bool.eq_false_iff]
    intro hb
    obtain ⟨hdigits, htotal⟩ := verhoeffIsValid_iff.mp ha
    obtain ⟨-, htotal'⟩ := verhoeffIsValid_iff.mp hb
    have heq := htotal'.trans htotal.symm
    simp only [List.reverse_append, List.reverse_cons, List.append_assoc, List.singleton_append,
      List.map_append, List.map_cons] at heq
    exact hne (hsame (hdigits a (by simp)) (hdigits b (by simp)) (verhoeff.eq_of_swap heq)).symm

end MatterKit.Commissioning

import Mathlib.Data.List.Basic
import Mathlib.Tactic

/-!
# Little-endian octet strings

`leBytes n v` is the number `v` in `n` octets, least significant first, and `ofLe` reads such a
string back. The two are inverse on numbers below `256 ^ n` (`ofLe_leBytes_of_lt`), which is all a
wire format needs: a fixed-width integer is below the bound of its own width.
-/

namespace MatterKit.Lib

/-- The low `n` octets of `v`, least significant first. -/
def leBytes : ℕ → ℕ → List UInt8
  | 0, _ => []
  | n + 1, v => UInt8.ofNat v :: leBytes n (v / 256)

/-- The number an octet string stands for, least significant octet first. -/
def ofLe : List UInt8 → ℕ
  | [] => 0
  | b :: l => b.toNat + 256 * ofLe l

@[simp] lemma leBytes_zero (v : ℕ) : leBytes 0 v = [] := rfl

@[simp] lemma length_leBytes (n v : ℕ) : (leBytes n v).length = n := by
  induction n generalizing v with
  | zero => rfl
  | succ n ih => simp [leBytes, ih]

/-- Reading back what was written gives the number modulo the width. -/
lemma ofLe_leBytes (n v : ℕ) : ofLe (leBytes n v) = v % 256 ^ n := by
  induction n generalizing v with
  | zero => simp [leBytes, ofLe, Nat.mod_one]
  | succ n ih =>
    simp only [leBytes, ofLe, ih, UInt8.toNat_ofNat', Nat.reducePow]
    rw [pow_succ', Nat.mod_mul]

lemma ofLe_leBytes_of_lt {n v : ℕ} (h : v < 256 ^ n) : ofLe (leBytes n v) = v := by
  rw [ofLe_leBytes, Nat.mod_eq_of_lt h]

/-- An octet string is what its number is written as. -/
lemma leBytes_ofLe (l : List UInt8) : leBytes l.length (ofLe l) = l := by
  induction l with
  | nil => rfl
  | cons b l ih =>
    have hb : b.toNat < 256 := b.toNat_lt
    have hlow : UInt8.ofNat (b.toNat + 256 * ofLe l) = b := by
      apply UInt8.toNat_inj.mp
      rw [UInt8.toNat_ofNat', Nat.add_mul_mod_self_left, Nat.mod_eq_of_lt hb]
    have hhigh : (b.toNat + 256 * ofLe l) / 256 = ofLe l := by omega
    rw [List.length_cons, ofLe, leBytes, hlow, hhigh, ih]

/-- An octet string stands for a number below the bound of its width. -/
lemma ofLe_lt (l : List UInt8) : ofLe l < 256 ^ l.length := by
  induction l with
  | nil => simp [ofLe]
  | cons b l ih =>
    have hb : b.toNat < 256 := b.toNat_lt
    rw [List.length_cons, pow_succ]
    simp only [ofLe]
    omega

/-- The low digits of a number are those of a shorter field. -/
lemma take_leBytes (m v : ℕ) {n : ℕ} (hn : n ≤ m) : (leBytes m v).take n = leBytes n v := by
  induction n generalizing m v with
  | zero => simp
  | succ n ih =>
    obtain ⟨m, rfl⟩ := Nat.exists_eq_add_of_lt (Nat.lt_of_lt_of_le (Nat.succ_pos n) hn)
    rw [Nat.zero_add] at hn ⊢
    simp only [leBytes, List.take_succ_cons]
    rw [ih m (v / 256) (by omega)]

end MatterKit.Lib

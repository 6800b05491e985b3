import MatterKit.Lib.LittleEndian
import MatterKit.Lib.Result
import MatterKit.Platform

/-!
# The bounds-checked little-endian cursor

`Cursor` of `bytes.rs`, in its two uses. A reading cursor is the list of octets not yet read: a read
splits that list (`take`), and running off the end is the error the caller named. A writing cursor is
the list of octets already written together with the room the caller's buffer has (`put`, `putAll`).

Every message header is a list of fields written in order, so the two lemmas that matter are `putAll_eq`
(a whole header is written exactly when it fits) and the `read…_append` family (a field that was written
is read back and the cursor stands right after it).
-/

namespace MatterKit

open Lib

/-! ## Reading -/

namespace Cursor

/-- Reads `n` octets.
Source: `Cursor::take`. -/
def take (truncated : ErrorCode) (n : ℕ) (rest : List UInt8) :
    Except ErrorCode (List UInt8 × List UInt8) :=
  if n ≤ rest.length then .ok (rest.take n, rest.drop n) else .error truncated

/-- Steps over `n` octets without reading them.
Source: `Cursor::skip`. -/
def skip (truncated : ErrorCode) (n : ℕ) (rest : List UInt8) : Except ErrorCode (List UInt8) := do
  let (_, rest) ← take truncated n rest
  pure rest

/-- Reads an `n`-octet little-endian number: what the four typed reads have in common. -/
def readLe (truncated : ErrorCode) (n : ℕ) (rest : List UInt8) :
    Except ErrorCode (ℕ × List UInt8) := do
  let (b, rest) ← take truncated n rest
  pure (ofLe b, rest)

/-- Source: `Cursor::read_u8`. -/
def readU8 (truncated : ErrorCode) (rest : List UInt8) :
    Except ErrorCode (UInt8 × List UInt8) := do
  let (v, rest) ← readLe truncated 1 rest
  pure (UInt8.ofNat v, rest)

/-- Source: `Cursor::read_u16`. -/
def readU16 (truncated : ErrorCode) (rest : List UInt8) :
    Except ErrorCode (UInt16 × List UInt8) := do
  let (v, rest) ← readLe truncated 2 rest
  pure (UInt16.ofNat v, rest)

/-- Source: `Cursor::read_u32`. -/
def readU32 (truncated : ErrorCode) (rest : List UInt8) :
    Except ErrorCode (UInt32 × List UInt8) := do
  let (v, rest) ← readLe truncated 4 rest
  pure (UInt32.ofNat v, rest)

/-- Source: `Cursor::read_u64`. -/
def readU64 (truncated : ErrorCode) (rest : List UInt8) :
    Except ErrorCode (UInt64 × List UInt8) := do
  let (v, rest) ← readLe truncated 8 rest
  pure (UInt64.ofNat v, rest)

lemma take_eq_ok_iff {t : ErrorCode} {n : ℕ} {rest a b : List UInt8} :
    take t n rest = .ok (a, b) ↔ rest = a ++ b ∧ a.length = n := by
  unfold take
  split
  · rename_i h
    simp only [Except.ok.injEq, Prod.mk.injEq]
    constructor
    · rintro ⟨rfl, rfl⟩
      simp [h]
    · rintro ⟨rfl, rfl⟩
      simp
  · rename_i h
    simp only [reduceCtorEq, false_iff, not_and]
    rintro rfl rfl
    simp at h

lemma take_append {t : ErrorCode} {n : ℕ} {a : List UInt8} (h : a.length = n)
    (rest : List UInt8) : take t n (a ++ rest) = .ok (a, rest) :=
  take_eq_ok_iff.mpr ⟨rfl, h⟩

lemma readU8_eq_ok_iff {t : ErrorCode} {buf r : List UInt8} {v : UInt8} :
    readU8 t buf = .ok (v, r) ↔ buf = v :: r := by
  unfold readU8 readLe take
  match buf with
  | [] => simp
  | b :: l => simp [ofLe]

lemma readU16_eq_ok_iff {t : ErrorCode} {buf r : List UInt8} {v : UInt16} :
    readU16 t buf = .ok (v, r) ↔ ∃ a b, buf = a :: b :: r ∧ v = UInt16.ofNat (ofLe [a, b]) := by
  unfold readU16 readLe take
  match buf with
  | [] => simp
  | [_] => simp
  | a :: b :: l =>
    simp only [List.length_cons, Nat.le_add_left, if_true, List.take, List.drop, ok_bind,
      pure_eq_ok, Except.ok.injEq, Prod.mk.injEq, List.cons.injEq]
    constructor
    · intro h
      exact ⟨a, b, ⟨rfl, rfl, h.2⟩, h.1.symm⟩
    · intro h
      obtain ⟨a', b', ⟨rfl, rfl, rfl⟩, rfl⟩ := h
      exact ⟨rfl, rfl⟩

/-! ## Field encodings -/

/-- Source: Rust `u8` as one octet. -/
def leU8 (v : UInt8) : List UInt8 := leBytes 1 v.toNat

/-- Source: Rust `u16::to_le_bytes`. -/
def leU16 (v : UInt16) : List UInt8 := leBytes 2 v.toNat

/-- Source: Rust `u32::to_le_bytes`. -/
def leU32 (v : UInt32) : List UInt8 := leBytes 4 v.toNat

/-- Source: Rust `u64::to_le_bytes`. -/
def leU64 (v : UInt64) : List UInt8 := leBytes 8 v.toNat

@[simp] lemma length_leU8 (v : UInt8) : (leU8 v).length = 1 := length_leBytes _ _

@[simp] lemma length_leU16 (v : UInt16) : (leU16 v).length = 2 := length_leBytes _ _

@[simp] lemma length_leU32 (v : UInt32) : (leU32 v).length = 4 := length_leBytes _ _

@[simp] lemma length_leU64 (v : UInt64) : (leU64 v).length = 8 := length_leBytes _ _

variable (t : ErrorCode)

/-- A number that fits its field is read back. -/
lemma readLe_append {n v : ℕ} (h : v < 256 ^ n) (rest : List UInt8) :
    readLe t n (leBytes n v ++ rest) = .ok (v, rest) := by
  simp [readLe, take_append (length_leBytes n v), ofLe_leBytes_of_lt h]

@[simp] lemma readU8_append (v : UInt8) (rest : List UInt8) :
    readU8 t (leU8 v ++ rest) = .ok (v, rest) := by
  simp [readU8, leU8, readLe_append t (n := 1) v.toNat_lt]

@[simp] lemma readU16_append (v : UInt16) (rest : List UInt8) :
    readU16 t (leU16 v ++ rest) = .ok (v, rest) := by
  simp [readU16, leU16, readLe_append t (n := 2) v.toNat_lt]

@[simp] lemma readU32_append (v : UInt32) (rest : List UInt8) :
    readU32 t (leU32 v ++ rest) = .ok (v, rest) := by
  simp [readU32, leU32, readLe_append t (n := 4) v.toNat_lt]

@[simp] lemma readU64_append (v : UInt64) (rest : List UInt8) :
    readU64 t (leU64 v ++ rest) = .ok (v, rest) := by
  simp [readU64, leU64, readLe_append t (n := 8) v.toNat_lt]

/-! ## Writing -/

/-- Writes raw octets into a buffer of `capacity` octets of which `written` are filled.
Source: `Cursor::put`. -/
def put (capacity : ℕ) (written bytes : List UInt8) : Except ErrorCode (List UInt8) :=
  if written.length + bytes.length ≤ capacity then .ok (written ++ bytes)
  else .error .bufferTooSmall

/-- Writes a sequence of fields, stopping at the first that does not fit. -/
def putAll (capacity : ℕ) (written : List UInt8) :
    List (List UInt8) → Except ErrorCode (List UInt8)
  | [] => .ok written
  | field :: fields => do
    let written ← put capacity written field
    putAll capacity written fields

/-- A sequence of fields is written exactly when all of it fits. -/
lemma putAll_eq (capacity : ℕ) (written : List UInt8) (fields : List (List UInt8))
    (h : written.length ≤ capacity) : putAll capacity written fields =
      if written.length + fields.flatten.length ≤ capacity then .ok (written ++ fields.flatten)
      else .error .bufferTooSmall := by
  induction fields generalizing written with
  | nil => simp [putAll, h]
  | cons field fields ih =>
    unfold putAll put
    simp only [List.flatten_cons, List.length_append]
    split
    · rename_i hfit
      rw [ok_bind, ih _ (by simpa using hfit)]
      simp [Nat.add_assoc]
    · rename_i hfit
      rw [error_bind, if_neg (by omega)]

end Cursor

end MatterKit

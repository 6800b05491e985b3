import Mathlib.Data.Nat.Bitwise
import MatterKit.Lib.Result
import MatterKit.Platform

/-!
# Message counters and duplicate detection

The window keeps the largest counter accepted and a 32-bit map of the 32 counters before it; everything
further behind is treated as seen.

`CounterWindow.Remembers w c` says, on natural numbers, what a secure-unicast window will refuse: its
maximum, every counter more than 32 behind it, and the counters whose bit is set. It is what the window
is for, and the code meets it: a counter is judged a duplicate exactly when it is remembered
(`accept_eq_duplicate_iff`), an accepted counter is remembered from then on (`remembers_accept_self`)
and nothing remembered is ever forgotten (`Remembers.accept`).
-/

namespace MatterKit

/-- Which duplicate-detection rule applies to a counter space.
Source: `CounterKind`. -/
inductive CounterKind
  | secureUnicast
  | rollover
  deriving DecidableEq

/-- Source: `Verdict`. -/
inductive Verdict
  | new
  | duplicate
  deriving DecidableEq

lemma Verdict.decide_eq_duplicate {v : Verdict} : decide (v = .duplicate) = false ↔ v = .new := by
  cases v <;> simp

/-- `1 << n` and its kin, refusing a shift by the word size or more.
Source: Rust `u32::checked_shl`. -/
def checkedShl (a shift : UInt32) : Option UInt32 :=
  if shift < 32 then some (a <<< shift) else none

/-- The reception state for one peer or session: bit `i` of the map stands for `max - 1 - i`.
Source: `CounterWindow`. -/
structure CounterWindow where
  kind : CounterKind
  max : UInt32
  bitmap : UInt32
  primed : Bool
  deriving DecidableEq

namespace CounterWindow

/-- An empty window that accepts the first counter it sees.
Source: `CounterWindow::new`. -/
def new (kind : CounterKind) : CounterWindow := ⟨kind, 0, 0, false⟩

/-- A window that has already seen `max`, and counts everything before it as seen.
Source: `CounterWindow::primed_at`. -/
def primedAt (kind : CounterKind) (max : UInt32) : CounterWindow := ⟨kind, max, 0xFFFFFFFF, true⟩

/-- Whether `counter` is ahead of the maximum under the window's rule.
Source: `CounterWindow::accept`, `ahead`. -/
def ahead (w : CounterWindow) (counter : UInt32) : Bool :=
  match w.kind with
  | .secureUnicast => decide (w.max < counter)
  | .rollover =>
    let delta := counter - w.max
    decide (delta ≠ 0) && decide (delta < 0x80000000)

/-- The map after the maximum has moved ahead by `shift`: the history shifted along, and the old
maximum recorded.
Source: `CounterWindow::accept`, the bitmap of the `ahead` branch. -/
def shifted (w : CounterWindow) (shift : UInt32) : UInt32 :=
  if 32 ≤ shift then
    if shift = 32 then (checkedShl 1 31).getD 0 else 0
  else
    (checkedShl w.bitmap shift).getD 0 ||| (checkedShl 1 (shift - 1)).getD 0

/-- Judges a counter `behind` the maximum: inside the map its bit decides, outside it is a
duplicate.
Source: `CounterWindow::accept`, after the `ahead` branch. -/
def acceptBehind (w : CounterWindow) (behind : UInt32) : Verdict × CounterWindow :=
  if behind = 0 ∨ 32 < behind then (.duplicate, w)
  else
    match checkedShl 1 (behind - 1) with
    | none => (.duplicate, w)
    | some bit =>
      if w.bitmap &&& bit ≠ 0 then (.duplicate, w)
      else (.new, { w with bitmap := w.bitmap ||| bit })

/-- Judges `counter`, and records it when it is new.
Source: `CounterWindow::accept`. -/
def accept (w : CounterWindow) (counter : UInt32) : Verdict × CounterWindow :=
  if w.primed = false then
    (.new, { w with primed := true, max := counter, bitmap := 0 })
  else if counter = w.max then (.duplicate, w)
  else if w.ahead counter then
    (.new, { w with bitmap := w.shifted (counter - w.max), max := counter })
  else w.acceptBehind (w.max - counter)

/-- Whether `counter` would be accepted, without recording it.
Source: `CounterWindow::would_accept`. -/
def wouldAccept (w : CounterWindow) (counter : UInt32) : Verdict := (w.accept counter).1

/-! ## What a step of the window can do -/

variable {c n : UInt32}

/-- The number a single bit stands for. -/
lemma toNat_one_shiftLeft (hn : n < 32) : ((1 : UInt32) <<< n).toNat = 2 ^ n.toNat := by
  have hn' : n.toNat < 32 := hn
  have hlt : 2 ^ n.toNat < 2 ^ 32 := Nat.pow_lt_pow_right (by decide) hn'
  rw [UInt32.toNat_shiftLeft, Nat.mod_eq_of_lt hn', show (1 : UInt32).toNat = 1 from rfl,
    Nat.one_shiftLeft, Nat.mod_eq_of_lt hlt]

lemma and_bit_ne_zero_iff (a : UInt32) (hn : n < 32) :
    a &&& ((1 : UInt32) <<< n) ≠ 0 ↔ a.toNat.testBit n.toNat = true := by
  rw [Ne, ← UInt32.toNat_inj, UInt32.toNat_and, toNat_one_shiftLeft hn, Nat.and_two_pow]
  cases a.toNat.testBit n.toNat <;> simp

/-- The bit for a counter that stands `n` behind the maximum, one of the 32 bits of the map. -/
lemma pred_lt_width (hpos : n.toNat ≠ 0) (hle : n.toNat ≤ 32) :
    (n - 1).toNat = n.toNat - 1 ∧ n - 1 < 32 := by
  have hone : (1 : UInt32) ≤ n := by
    rw [UInt32.le_iff_toNat_le]
    exact Nat.one_le_iff_ne_zero.mpr hpos
  have hsub : (n - 1).toNat = n.toNat - 1 := UInt32.toNat_sub_of_le _ _ hone
  refine ⟨hsub, ?_⟩
  rw [UInt32.lt_iff_toNat_lt, hsub, show (32 : UInt32).toNat = 32 from rfl]
  omega

lemma toNat_sub_ne_zero {a b : UInt32} (h : b ≠ a) : (a - b).toNat ≠ 0 := by
  have ha := a.toNat_lt
  have hb := b.toNat_lt
  have hne : b.toNat ≠ a.toNat := fun heq => h (UInt32.toNat_inj.mp heq)
  rw [UInt32.toNat_sub]
  omega

/-- The four things `accept` can do: prime an empty window, move the maximum ahead, fill a gap
behind it, or refuse and change nothing. -/
lemma accept_cases (w : CounterWindow) (c : UInt32) : (w.primed = false ∧
      w.accept c = (.new, { w with primed := true, max := c, bitmap := 0 })) ∨
    (w.primed = true ∧ c ≠ w.max ∧ w.ahead c = true ∧
      w.accept c = (.new, { w with bitmap := w.shifted (c - w.max), max := c })) ∨
    (w.primed = true ∧ c ≠ w.max ∧ w.ahead c = false ∧ (w.max - c).toNat ≤ 32 ∧
      w.bitmap.toNat.testBit ((w.max - c).toNat - 1) = false ∧
      w.accept c = (.new, { w with bitmap := w.bitmap ||| (1 <<< (w.max - c - 1)) })) ∨
    (w.primed = true ∧ (c = w.max ∨ c ≠ w.max ∧ w.ahead c = false ∧
        (32 < (w.max - c).toNat ∨ w.bitmap.toNat.testBit ((w.max - c).toNat - 1) = true)) ∧
      w.accept c = (.duplicate, w)) := by
  unfold accept
  by_cases hp : w.primed = false
  · exact .inl ⟨hp, if_pos hp⟩
  have hp' : w.primed = true := by simpa using hp
  rw [if_neg hp]
  by_cases hmax : c = w.max
  · exact .inr (.inr (.inr ⟨hp', .inl hmax, if_pos hmax⟩))
  rw [if_neg hmax]
  by_cases ha : w.ahead c = true
  · exact .inr (.inl ⟨hp', hmax, ha, if_pos ha⟩)
  have ha' : w.ahead c = false := by simpa using ha
  rw [if_neg ha]
  have hpos := toNat_sub_ne_zero hmax
  have hne : w.max - c ≠ 0 := by
    intro h0
    exact hpos (by rw [h0]; rfl)
  unfold acceptBehind
  by_cases hfar : 32 < w.max - c
  · refine .inr (.inr (.inr ⟨hp', .inr ⟨hmax, ha', .inl hfar⟩, ?_⟩))
    rw [if_pos (.inr hfar)]
  have hnear : (w.max - c).toNat ≤ 32 := by
    have h32 : ¬ (32 : UInt32).toNat < (w.max - c).toNat := hfar
    simpa using h32
  obtain ⟨hsub, hlt⟩ := pred_lt_width hpos hnear
  rw [if_neg (by simp [hne, hfar]), checkedShl, if_pos hlt]
  simp only [and_bit_ne_zero_iff w.bitmap hlt, hsub]
  by_cases hbit : w.bitmap.toNat.testBit ((w.max - c).toNat - 1) = true
  · exact .inr (.inr (.inr ⟨hp', .inr ⟨hmax, ha', .inr hbit⟩, if_pos hbit⟩))
  · exact .inr (.inr (.inl ⟨hp', hmax, ha', hnear, by simpa using hbit, if_neg hbit⟩))

@[simp] lemma accept_kind (w : CounterWindow) (c : UInt32) : (w.accept c).2.kind = w.kind := by
  rcases accept_cases w c with ⟨-, h⟩ | ⟨-, -, -, h⟩ | ⟨-, -, -, -, -, h⟩ | ⟨-, -, h⟩ <;> rw [h]

/-- A duplicate leaves the window as it was. -/
lemma accept_of_duplicate {w : CounterWindow} (hd : w.wouldAccept c = .duplicate) :
    w.accept c = (.duplicate, w) := by
  unfold wouldAccept at hd
  rcases accept_cases w c with ⟨-, h⟩ | ⟨-, -, -, h⟩ | ⟨-, -, -, -, -, h⟩ | ⟨-, -, h⟩
  · rw [h] at hd
    cases hd
  · rw [h] at hd
    cases hd
  · rw [h] at hd
    cases hd
  · exact h

/-- Only a duplicate leaves the window as it was. -/
lemma accept_snd_eq_self_iff {w : CounterWindow} : (w.accept c).2 = w ↔ w.wouldAccept c = .duplicate := by
  constructor
  · intro heq
    unfold wouldAccept
    rcases accept_cases w c with
      ⟨hp, h⟩ | ⟨-, hne, -, h⟩ | ⟨-, hne, -, hle, hbit, h⟩ | ⟨-, -, h⟩
    · rw [h] at heq
      have hprimed : true = w.primed := congrArg CounterWindow.primed heq
      rw [hp] at hprimed
      simp at hprimed
    · rw [h] at heq
      exact absurd (congrArg CounterWindow.max heq) hne
    · rw [h] at heq
      have hmap : w.bitmap ||| (1 <<< (w.max - c - 1)) = w.bitmap :=
        congrArg CounterWindow.bitmap heq
      obtain ⟨hsub, hlt⟩ := pred_lt_width (toNat_sub_ne_zero hne) hle
      have hset : w.bitmap.toNat.testBit ((w.max - c).toNat - 1) = true := by
        rw [← hmap, UInt32.toNat_or, toNat_one_shiftLeft hlt, hsub, Nat.testBit_or,
          Nat.testBit_two_pow_self, Bool.or_true]
      rw [hbit] at hset
      simp at hset
    · rw [h]
  · intro hd
    rw [accept_of_duplicate hd]

/-! ## What a secure-unicast window remembers -/

/-- The counters a secure-unicast window refuses: the maximum, whatever is more than 32 behind it,
and what the map has a bit for. -/
def Remembers (w : CounterWindow) (c : ℕ) : Prop :=
  w.primed = true ∧ (c = w.max.toNat ∨
    c < w.max.toNat ∧ (32 < w.max.toNat - c ∨ w.bitmap.toNat.testBit (w.max.toNat - c - 1) = true))

/-- The bits of the map once the maximum has moved ahead by `s`: the old maximum, and what the old
map held, moved along. -/
lemma testBit_shifted (w : CounterWindow) {s : UInt32} (hs : 0 < s.toNat) {i : ℕ} (hi : i < 32) :
    (w.shifted s).toNat.testBit i = (decide (i + 1 = s.toNat) ||
        (decide (s.toNat ≤ i) && w.bitmap.toNat.testBit (i - s.toNat))) := by
  unfold shifted
  by_cases h32 : 32 ≤ s
  · have h32' : 32 ≤ s.toNat := h32
    rw [if_pos h32]
    by_cases heq : s = 32
    · subst heq
      have hval : ((checkedShl 1 31).getD 0).toNat = 2 ^ 31 := by decide
      rw [if_pos rfl, hval, Nat.testBit_two_pow, show (32 : UInt32).toNat = 32 from rfl]
      have hout : ¬ 32 ≤ i := by omega
      simp only [hout, decide_false, Bool.false_and, Bool.or_false, decide_eq_decide]
      omega
    · have hne : s.toNat ≠ 32 := fun h => heq (UInt32.toNat_inj.mp h)
      rw [if_neg heq]
      simp
      omega
  · have hlt : s < 32 := by simpa using h32
    have hlt' : s.toNat < 32 := hlt
    obtain ⟨hsub, hlt1⟩ := pred_lt_width (Nat.ne_of_gt hs) hlt'.le
    rw [if_neg h32, checkedShl, if_pos hlt, checkedShl, if_pos hlt1, Option.getD_some,
      Option.getD_some, UInt32.toNat_or, toNat_one_shiftLeft hlt1, hsub, UInt32.toNat_shiftLeft,
      Nat.mod_eq_of_lt hlt', Nat.testBit_or, Nat.testBit_mod_two_pow, Nat.testBit_shiftLeft,
      Nat.testBit_two_pow]
    simp only [hi, decide_true, Bool.true_and]
    rw [Bool.or_comm]
    congr 1
    simp
    omega

variable {w : CounterWindow}

lemma ahead_eq_true_iff (hk : w.kind = .secureUnicast) (c : UInt32) :
    w.ahead c = true ↔ w.max.toNat < c.toNat := by
  unfold ahead
  rw [hk]
  simp [UInt32.lt_iff_toNat_lt]

lemma le_max_of_not_ahead (hk : w.kind = .secureUnicast) (ha : w.ahead c = false) :
    c.toNat ≤ w.max.toNat := by
  by_contra hlt
  rw [not_le] at hlt
  rw [(ahead_eq_true_iff hk c).mpr hlt] at ha
  cases ha

/-- How far behind the maximum a counter that is not ahead stands. -/
lemma toNat_behind (hk : w.kind = .secureUnicast) (ha : w.ahead c = false) :
    (w.max - c).toNat = w.max.toNat - c.toNat := by
  apply UInt32.toNat_sub_of_le
  rw [UInt32.le_iff_toNat_le]
  exact le_max_of_not_ahead hk ha

/-- A counter is judged a duplicate exactly when the window remembers it. -/
lemma accept_eq_duplicate_iff (hk : w.kind = .secureUnicast) (c : UInt32) :
    (w.accept c).1 = .duplicate ↔ w.Remembers c.toNat := by
  unfold Remembers
  rcases accept_cases w c with ⟨hp, h⟩ | ⟨hp, hne, ha, h⟩ | ⟨hp, hne, ha, hle, hbit, h⟩ |
    ⟨hp, hdup, h⟩
  · rw [h]
    simp [hp]
  · have hlt := (ahead_eq_true_iff hk c).mp ha
    rw [h]
    simp only [reduceCtorEq, false_iff]
    omega
  · have hb := toNat_behind hk ha
    have hne' : c.toNat ≠ w.max.toNat := fun heq => hne (UInt32.toNat_inj.mp heq)
    rw [h]
    rw [hb] at hle hbit
    simp only [reduceCtorEq, false_iff, not_and, not_or]
    refine fun _ => ⟨hne', fun _ => ⟨by omega, by simp [hbit]⟩⟩
  · rw [h]
    simp only [true_iff]
    refine ⟨hp, ?_⟩
    rcases hdup with rfl | ⟨hne, ha, hcase⟩
    · exact .inl rfl
    · have hb := toNat_behind hk ha
      have hne' : c.toNat ≠ w.max.toNat := fun heq => hne (UInt32.toNat_inj.mp heq)
      have hle := le_max_of_not_ahead hk ha
      rw [hb] at hcase
      exact .inr ⟨by omega, hcase⟩

/-- What is accepted is remembered from then on. -/
lemma remembers_accept_self (hk : w.kind = .secureUnicast) (c : UInt32) :
    (w.accept c).2.Remembers c.toNat := by
  rcases accept_cases w c with ⟨hp, h⟩ | ⟨hp, hne, ha, h⟩ | ⟨hp, hne, ha, hle, hbit, h⟩ |
    ⟨hp, hdup, h⟩
  · rw [h]
    exact ⟨rfl, .inl rfl⟩
  · rw [h]
    exact ⟨hp, .inl rfl⟩
  · have hb := toNat_behind hk ha
    have hne' : c.toNat ≠ w.max.toNat := fun heq => hne (UInt32.toNat_inj.mp heq)
    have hbehind := le_max_of_not_ahead hk ha
    obtain ⟨hsub, hlt⟩ := pred_lt_width (toNat_sub_ne_zero hne) hle
    rw [hb] at hsub
    rw [h]
    refine ⟨hp, .inr ⟨by simp only; omega, .inr ?_⟩⟩
    simp only
    rw [UInt32.toNat_or, toNat_one_shiftLeft hlt, hsub, Nat.testBit_or, Nat.testBit_two_pow]
    simp
  · rw [h]
    have hdup' : (w.accept c).1 = .duplicate := by rw [h]
    exact (accept_eq_duplicate_iff hk c).mp hdup'

/-- Nothing remembered is ever forgotten. -/
lemma Remembers.accept (hk : w.kind = .secureUnicast) {d : ℕ} (hd : w.Remembers d) (c : UInt32) :
    (w.accept c).2.Remembers d := by
  obtain ⟨hprimed, hd⟩ := hd
  rcases accept_cases w c with ⟨hp, h⟩ | ⟨hp, hne, ha, h⟩ | ⟨hp, hne, ha, hle, hbit, h⟩ |
    ⟨hp, hdup, h⟩
  · rw [hp] at hprimed
    cases hprimed
  · have hlt := (ahead_eq_true_iff hk c).mp ha
    have hs : (c - w.max).toNat = c.toNat - w.max.toNat :=
      UInt32.toNat_sub_of_le _ _ (UInt32.le_iff_toNat_le.mpr hlt.le)
    rw [h]
    refine ⟨hp, .inr ⟨by simp only; omega, ?_⟩⟩
    simp only
    -- Either the counter falls out of the map, or its old position moves along by the shift.
    by_cases hfar : 32 < c.toNat - d
    · exact .inl hfar
    · right
      rw [testBit_shifted w (by omega) (by omega), hs]
      rcases hd with rfl | ⟨hlt', hfar' | hbit⟩
      · have hpos : c.toNat - w.max.toNat - 1 + 1 = c.toNat - w.max.toNat := by omega
        simp [hpos]
      · omega
      · have hpos : c.toNat - d - 1 - (c.toNat - w.max.toNat) = w.max.toNat - d - 1 := by omega
        have hle : c.toNat - w.max.toNat ≤ c.toNat - d - 1 := by omega
        simp [hpos, hle, hbit]
  · rw [h]
    refine ⟨hp, ?_⟩
    rcases hd with rfl | ⟨hlt', hfar | hbit'⟩
    · exact .inl rfl
    · exact .inr ⟨hlt', .inl hfar⟩
    · right
      refine ⟨hlt', .inr ?_⟩
      simp only
      rw [UInt32.toNat_or, Nat.testBit_or, hbit', Bool.true_or]
  · rw [h]
    exact ⟨hprimed, hd⟩

/-! ## What a rollover window has seen

A counter that rolls over has no largest value. A window has seen what is not ahead of its maximum and
is refused: the maximum itself, whatever is more than 32 behind, and what the map has a bit for. It
stays seen until the maximum has gone so far round that the counter is ahead again. -/

/-- The counters a rollover window refuses. -/
def Seen (w : CounterWindow) (c : UInt32) : Prop :=
  w.primed = true ∧ w.ahead c = false ∧
    (c = w.max ∨ 32 < (w.max - c).toNat ∨ w.bitmap.toNat.testBit ((w.max - c).toNat - 1) = true)

/-- Ahead, in a counter that rolls over, is the half of the circle in front of the maximum. -/
lemma ahead_eq_true_iff_of_rollover (hk : w.kind = .rollover) (c : UInt32) :
    w.ahead c = true ↔ 0 < (c - w.max).toNat ∧ (c - w.max).toNat < 2 ^ 31 := by
  unfold ahead
  rw [hk]
  simp only [Bool.and_eq_true, decide_eq_true_eq, UInt32.lt_iff_toNat_lt, ne_eq,
    ← UInt32.toNat_inj, UInt32.toNat_zero, Nat.pos_iff_ne_zero]
  rfl

/-- What is not ahead is at most half the circle behind. -/
lemma behind_le_of_not_ahead (hk : w.kind = .rollover) (ha : w.ahead c = false) :
    (w.max - c).toNat ≤ 2 ^ 31 := by
  have hnot : ¬ (0 < (c - w.max).toNat ∧ (c - w.max).toNat < 2 ^ 31) := by
    rw [← ahead_eq_true_iff_of_rollover hk c, ha]
    exact Bool.false_ne_true
  have hc := c.toNat_lt
  have hmax := w.max.toNat_lt
  rw [UInt32.toNat_sub] at hnot ⊢
  omega

lemma not_ahead_max (w : CounterWindow) : w.ahead w.max = false := by
  unfold ahead
  cases w.kind with
  | secureUnicast | rollover => simp

/-- What has been seen is refused. -/
lemma Seen.accept_eq_duplicate (h : w.Seen c) : (w.accept c).1 = .duplicate := by
  obtain ⟨hprimed, hbehind, hseen⟩ := h
  rcases accept_cases w c with ⟨hp, -⟩ | ⟨-, -, ha, -⟩ | ⟨-, hne, -, hle, hbit, -⟩ | ⟨-, -, haccept⟩
  · rw [hp] at hprimed
    cases hprimed
  · rw [hbehind] at ha
    cases ha
  · rcases hseen with rfl | hfar | hset
    · exact absurd rfl hne
    · omega
    · rw [hbit] at hset
      cases hset
  · rw [haccept]

/-- What is accepted has been seen. -/
lemma seen_of_accept_eq_new (h : (w.accept c).1 = .new) : (w.accept c).2.Seen c := by
  rcases accept_cases w c with ⟨-, haccept⟩ | ⟨hp, -, -, haccept⟩ | ⟨hp, hne, ha, hle, -, haccept⟩ |
    ⟨-, -, haccept⟩
  · rw [haccept]
    exact ⟨rfl, not_ahead_max _, .inl rfl⟩
  · rw [haccept]
    exact ⟨hp, not_ahead_max _, .inl rfl⟩
  · obtain ⟨hsub, hlt⟩ := pred_lt_width (toNat_sub_ne_zero hne) hle
    rw [haccept]
    refine ⟨hp, ha, .inr (.inr ?_)⟩
    simp only
    rw [UInt32.toNat_or, toNat_one_shiftLeft hlt, hsub, Nat.testBit_or, Nat.testBit_two_pow]
    simp
  · rw [haccept] at h
    cases h

/-- A freshly primed window has seen whatever is not ahead of it. -/
lemma seen_primedAt {kind : CounterKind} {max c : UInt32} (ha : (primedAt kind max).ahead c = false) :
    (primedAt kind max).Seen c := by
  refine ⟨rfl, ha, ?_⟩
  by_cases hmax : c = max
  · exact .inl hmax
  · right
    by_cases hfar : 32 < (max - c).toNat
    · exact .inl hfar
    · right
      have hpos := toNat_sub_ne_zero hmax
      have hones : (0xFFFFFFFF : UInt32).toNat = 2 ^ 32 - 1 := rfl
      change (0xFFFFFFFF : UInt32).toNat.testBit ((max - c).toNat - 1) = true
      rw [hones, Nat.testBit_two_pow_sub_one]
      simp only [decide_eq_true_eq]
      omega

/-- A primed window moves forward or stays. -/
lemma accept_moves_forward (hp : w.primed = true) (d : UInt32) :
    (w.accept d).2.max = w.max ∨ w.ahead (w.accept d).2.max = true := by
  rcases accept_cases w d with ⟨hnot, -⟩ | ⟨-, -, ha, haccept⟩ | ⟨-, -, -, -, -, haccept⟩ |
    ⟨-, -, haccept⟩
  · rw [hp] at hnot
    cases hnot
  · rw [haccept]
    exact .inr ha
  · rw [haccept]
    exact .inl rfl
  · rw [haccept]
    exact .inl rfl

/-- What has been seen stays seen, until it is ahead again. -/
lemma Seen.accept (hk : w.kind = .rollover) (h : w.Seen c) {d : UInt32}
    (ha : (w.accept d).2.ahead c = false) : (w.accept d).2.Seen c := by
  obtain ⟨hprimed, hbehind, hseen⟩ := h
  rcases accept_cases w d with ⟨hp, -⟩ | ⟨hp, -, hd, haccept⟩ | ⟨hp, -, -, -, -, haccept⟩ |
    ⟨-, -, haccept⟩
  · rw [hp] at hprimed
    cases hprimed
  · have hhalf := behind_le_of_not_ahead hk hbehind
    have hshift := (ahead_eq_true_iff_of_rollover hk d).mp hd
    -- The two distances add up without going round.
    have hsum : (d - c).toNat = (d - w.max).toNat + (w.max - c).toNat := by
      have hc := c.toNat_lt
      have hdlt := d.toNat_lt
      have hmax := w.max.toNat_lt
      rw [UInt32.toNat_sub] at hhalf hshift ⊢
      rw [UInt32.toNat_sub, UInt32.toNat_sub]
      omega
    rw [haccept] at ha ⊢
    refine ⟨hp, ha, .inr ?_⟩
    by_cases hfar : 32 < (d - c).toNat
    · exact .inl hfar
    · right
      simp only
      rw [testBit_shifted w hshift.1 (by omega), hsum]
      rcases hseen with rfl | hfar' | hset
      · have hpos : (d - w.max).toNat - 1 + 1 = (d - w.max).toNat := by omega
        simp [hpos]
      · omega
      · by_cases hmax : c = w.max
        · subst hmax
          have hpos : (d - w.max).toNat - 1 + 1 = (d - w.max).toNat := by omega
          simp [hpos]
        · have hpos := toNat_sub_ne_zero hmax
          have hindex : (d - w.max).toNat + (w.max - c).toNat - 1 - (d - w.max).toNat =
              (w.max - c).toNat - 1 := by omega
          have hle : (d - w.max).toNat ≤ (d - w.max).toNat + (w.max - c).toNat - 1 := by omega
          simp [hindex, hle, hset]
  · rw [haccept]
    refine ⟨hp, hbehind, ?_⟩
    rcases hseen with hmax | hfar | hset
    · exact .inl hmax
    · exact .inr (.inl hfar)
    · right
      right
      simp only
      rw [UInt32.toNat_or, Nat.testBit_or, hset, Bool.true_or]
  · rw [haccept]
    exact ⟨hprimed, hbehind, hseen⟩

end CounterWindow

/-! ## The sender's counter -/

/-- Twenty-eight random bits, moved off zero.
Source: `initial_counter`. -/
def initialCounter (randomness : UInt32) : UInt32 := (randomness &&& 0x0FFFFFFF) + 1

/-- A sender's own counter for one key; `exhausted` once the largest value has been handed out.
Source: `MessageCounter`. -/
structure MessageCounter where
  next : UInt32
  exhausted : Bool
  deriving DecidableEq

namespace MessageCounter

/-- Source: `MessageCounter::at`. -/
def startingAt (value : UInt32) : MessageCounter := ⟨value, false⟩

/-- Source: `MessageCounter::new`. -/
def new (randomness : UInt32) : MessageCounter := startingAt (initialCounter randomness)

/-- Takes the next counter; on exhaustion it refuses rather than rolls over.
Source: `MessageCounter::take`. -/
def take (c : MessageCounter) : Except ErrorCode UInt32 × MessageCounter :=
  if c.exhausted then (.error .invalidState, c)
  else if c.next = 0xFFFFFFFF then (.ok c.next, { c with exhausted := true })
  else (.ok c.next, { c with next := c.next + 1 })

/-- Takes the next counter of a group sender, which starts again at zero after the last.
Source: `MessageCounter::take_with_rollover`. -/
def takeWithRollover (c : MessageCounter) : UInt32 × MessageCounter :=
  (c.next, { next := c.next + 1, exhausted := false })

/-- The counters that have been handed out can never be handed out again: everything below
`bound` is spent. -/
def bound (c : MessageCounter) : ℕ := if c.exhausted then 2 ^ 32 else c.next.toNat

/-- A counter is handed out at its own bound, and spends it. -/
lemma take_eq_ok {c c' : MessageCounter} {v : UInt32} (h : c.take = (.ok v, c')) :
    v.toNat = c.bound ∧ c'.bound = c.bound + 1 := by
  unfold take at h
  by_cases he : c.exhausted = true
  · rw [if_pos he] at h
    cases h
  · rw [if_neg he] at h
    by_cases hm : c.next = 0xFFFFFFFF
    · rw [if_pos hm] at h
      cases h
      simp [bound, he, hm]
    · rw [if_neg hm] at h
      cases h
      have hlt := c.next.toNat_lt
      have hne : c.next.toNat ≠ 0xFFFFFFFF := fun heq => hm (UInt32.toNat_inj.mp heq)
      simp [bound, he, UInt32.toNat_add]
      omega

lemma take_eq_error {c c' : MessageCounter} {e : ErrorCode} (h : c.take = (.error e, c')) : c' = c := by
  unfold take at h
  split_ifs at h
  · cases h
    rfl
  · cases h
  · cases h

end MessageCounter

end MatterKit

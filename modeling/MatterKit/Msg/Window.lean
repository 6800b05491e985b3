import MatterKit.Lib.Runs
import MatterKit.Lib.Window
import MatterKit.Msg.Counter

/-!
# The replay window is exact

`CounterWindow` keeps 64 bits of a history that has no bound, and judges by them as a window over all numbers
taken would (`Lib.Fresh`): the maximum stands for the greatest of them, and each bit for one of the 32 numbers
before it (`Tracks`).

One step is enough to see, for both kinds of counter space. A counter on the wire is a number modulo `2 ^ 32`,
and all that a step needs to know of it is that the distance to the maximum is the one on the wire (`Aligned`).
Below the largest counter this always holds, and where counters roll over it holds of every number within half
the circle of the greatest.
-/

namespace MatterKit.CounterWindow

open Lib

/-! ## A window and the numbers it stands for -/

/-- The window a sequence of counters leaves.
Source: `CounterWindow::accept`, called for one counter after the other. -/
def acceptAll (w : CounterWindow) (counters : List UInt32) : CounterWindow :=
  counters.foldl (fun w c => (w.accept c).2) w

/-- The counters of a sequence that are judged new. -/
def newOnes (w : CounterWindow) : List UInt32 → List UInt32
  | [] => []
  | c :: counters =>
    if (w.accept c).1 = .new then c :: (w.accept c).2.newOnes counters
    else (w.accept c).2.newOnes counters

/-- A window that keeps a set of numbers: their greatest, and a bit for each of the 32 before it. -/
inductive Tracks (w : CounterWindow) (S : Set ℕ) : Prop
  | empty (unprimed : w.primed = false) (nothing : S = ∅)
  | upTo (m : ℕ) (primed : w.primed = true) (greatest : IsGreatest S m) (max_eq : w.max = UInt32.ofNat m)
      (bits : ∀ i, i < 32 → (w.bitmap.toNat.testBit i = true ↔ ∃ a ∈ S, a + i + 1 = m))

/-- A number whose distance from the greatest one is the one on the wire. -/
structure Aligned (w : CounterWindow) (m c : ℕ) : Prop where
  eq_iff : UInt32.ofNat c = w.max ↔ c = m
  ahead_iff : w.ahead (UInt32.ofNat c) = true ↔ m < c
  shift : m < c → (UInt32.ofNat c - w.max).toNat = c - m
  behind : c ≤ m → (w.max - UInt32.ofNat c).toNat = m - c

lemma tracks_new (kind : CounterKind) : (new kind).Tracks ∅ := .empty rfl rfl

variable {w : CounterWindow} {S : Set ℕ} {m c : ℕ}

/-- The map after the maximum has moved ahead is that of the numbers with the new one. -/
lemma bits_shifted (hgreatest : IsGreatest S m)
    (hbits : ∀ i, i < 32 → (w.bitmap.toNat.testBit i = true ↔ ∃ a ∈ S, a + i + 1 = m)) {s : UInt32}
    (hs : 0 < s.toNat) (hc : c = m + s.toNat) {i : ℕ} (hi : i < 32) :
    (w.shifted s).toNat.testBit i = true ↔ ∃ a ∈ S, a + i + 1 = c := by
  rw [testBit_shifted w hs hi, Bool.or_eq_true, Bool.and_eq_true, decide_eq_true_eq, decide_eq_true_eq]
  constructor
  · rintro (hold | ⟨hle, hbit⟩)
    · exact ⟨m, hgreatest.1, by omega⟩
    · obtain ⟨a, ha, hposition⟩ := (hbits _ (by omega)).mp hbit
      exact ⟨a, ha, by omega⟩
  · rintro ⟨a, ha, hposition⟩
    have hle : a ≤ m := hgreatest.2 ha
    rcases hle.eq_or_lt with rfl | hlt
    · exact .inl (by omega)
    · refine .inr ⟨by omega, (hbits _ (by omega)).mpr ⟨a, ha, by omega⟩⟩

/-- The map after a gap has been filled is that of the numbers with the new one. -/
lemma bits_filled
    (hbits : ∀ i, i < 32 → (w.bitmap.toNat.testBit i = true ↔ ∃ a ∈ S, a + i + 1 = m)) {b : UInt32}
    (hb : b < 32) (hc : c + b.toNat + 1 = m) {i : ℕ} (hi : i < 32) :
    (w.bitmap ||| (1 <<< b)).toNat.testBit i = true ↔ ∃ a, (a ∈ S ∨ a = c) ∧ a + i + 1 = m := by
  rw [UInt32.toNat_or, toNat_one_shiftLeft hb, Nat.testBit_or, Bool.or_eq_true, hbits i hi,
    Nat.testBit_two_pow, decide_eq_true_eq]
  constructor
  · rintro (⟨a, ha, hposition⟩ | hgap)
    · exact ⟨a, .inl ha, hposition⟩
    · exact ⟨c, .inr rfl, by omega⟩
  · rintro ⟨a, ha | rfl, hposition⟩
    · exact .inl ⟨a, ha, hposition⟩
    · exact .inr (by omega)

/-! ## One step -/

/-- A window that has taken nothing takes whatever comes. -/
lemma step_of_empty (hprimed : w.primed = false) (c : ℕ) :
    (w.accept (UInt32.ofNat c)).1 = .new ∧ (w.accept (UInt32.ofNat c)).2.Tracks (Admitted 32 ∅ c) := by
  have haccept : w.accept (UInt32.ofNat c) =
      (.new, { w with primed := true, max := UInt32.ofNat c, bitmap := 0 }) := if_pos hprimed
  have hmem : ∀ a, a ∈ Admitted 32 ∅ c ↔ a = c := by
    intro a
    rw [mem_admitted_of_fresh (fresh_empty 32 c)]
    exact or_iff_right fun h => h
  rw [haccept]
  refine ⟨rfl, .upTo c rfl ⟨(hmem c).mpr rfl, fun a ha => ((hmem a).mp ha).le⟩ rfl ?_⟩
  intro i _
  constructor
  · intro hbit
    simp at hbit
  · rintro ⟨a, ha, hposition⟩
    have := (hmem a).mp ha
    omega

/-- A step judges as the window over numbers does, and goes on standing for what has been taken. -/
lemma step_of_aligned (hprimed : w.primed = true) (hgreatest : IsGreatest S m)
    (hmax : w.max = UInt32.ofNat m)
    (hbits : ∀ i, i < 32 → (w.bitmap.toNat.testBit i = true ↔ ∃ a ∈ S, a + i + 1 = m)) (h : w.Aligned m c) :
    ((w.accept (UInt32.ofNat c)).1 = .new ↔ Fresh 32 S c) ∧
      (w.accept (UInt32.ofNat c)).2.Tracks (Admitted 32 S c) := by
  have htracks : w.Tracks S := .upTo m hprimed hgreatest hmax hbits
  rcases accept_cases w (UInt32.ofNat c) with ⟨hp, -⟩ | ⟨-, -, ha, haccept⟩ |
    ⟨-, hne, ha, hle, hbit, haccept⟩ | ⟨-, hold, haccept⟩
  · rw [hp] at hprimed
    cases hprimed
  · -- Ahead: the greatest number moves, and the map with it.
    have hlt := h.ahead_iff.mp ha
    have hshift := h.shift hlt
    have hfresh : Fresh 32 S c := fresh_of_lt hgreatest hlt
    rw [haccept]
    refine ⟨iff_of_true rfl hfresh, .upTo c hprimed (isGreatest_admitted_of_lt hgreatest hlt) rfl ?_⟩
    have hpos : 0 < (UInt32.ofNat c - w.max).toNat := by omega
    have hc : c = m + (UInt32.ofNat c - w.max).toNat := by omega
    intro i hi
    rw [bits_shifted hgreatest hbits hpos hc hi]
    constructor
    · rintro ⟨a, hmem, hposition⟩
      exact ⟨a, .inl hmem, hposition⟩
    · rintro ⟨a, hmem | ⟨rfl, -⟩, hposition⟩
      · exact ⟨a, hmem, hposition⟩
      · omega
  · -- A gap: it is one of the 32 numbers before the greatest, and has not been taken.
    have hle' : c ≤ m := Nat.not_lt.mp fun hlt => by
      rw [h.ahead_iff.mpr hlt] at ha
      cases ha
    have hlt : c < m := lt_of_le_of_ne hle' fun heq => hne (h.eq_iff.mpr heq)
    have hbehind := h.behind hle'
    obtain ⟨hsub, hpos⟩ := pred_lt_width (toNat_sub_ne_zero hne) hle
    have hnew : c ∉ S := by
      intro hmem
      have hset : w.bitmap.toNat.testBit ((w.max - UInt32.ofNat c).toNat - 1) = true :=
        (hbits _ (by omega)).mpr ⟨c, hmem, by omega⟩
      rw [hbit] at hset
      cases hset
    have hfresh : Fresh 32 S c := (fresh_iff_of_le hgreatest hle').mpr ⟨hlt, by omega, hnew⟩
    rw [haccept]
    refine ⟨iff_of_true rfl hfresh, .upTo m hprimed (isGreatest_admitted_of_le hgreatest hle') hmax ?_⟩
    intro i hi
    simp only [mem_admitted_of_fresh hfresh]
    exact bits_filled hbits hpos (by omega) hi
  · -- Refused: the greatest number itself, a number too far behind, or one that has been taken.
    have hnot : ¬ Fresh 32 S c := by
      rcases hold with heq | ⟨hne, ha, hcase⟩
      · rw [h.eq_iff.mp heq]
        exact not_fresh_of_mem hgreatest.1
      · have hle : c ≤ m := Nat.not_lt.mp fun hlt => by
          rw [h.ahead_iff.mpr hlt] at ha
          cases ha
        have hlt : c < m := lt_of_le_of_ne hle fun heq => hne (h.eq_iff.mpr heq)
        have hbehind := h.behind hle
        rw [fresh_iff_of_le hgreatest hle]
        rintro ⟨-, hnear, hnew⟩
        rcases hcase with hfar | hset
        · omega
        · obtain ⟨a, hmem, hposition⟩ := (hbits _ (by omega)).mp hset
          have hac : a = c := by omega
          exact hnew (hac ▸ hmem)
    rw [haccept, admitted_of_not_fresh hnot]
    exact ⟨iff_of_false (by simp) hnot, htracks⟩

/-- A window that stands for a set of numbers goes on doing so, if the next one is aligned. -/
lemma Tracks.step (h : w.Tracks S) (haligned : ∀ m, IsGreatest S m → w.max = UInt32.ofNat m → w.Aligned m c) :
    ((w.accept (UInt32.ofNat c)).1 = .new ↔ Fresh 32 S c) ∧
      (w.accept (UInt32.ofNat c)).2.Tracks (Admitted 32 S c) := by
  rcases h with ⟨hunprimed, rfl⟩ | ⟨m, hprimed, hgreatest, hmax, hbits⟩
  · obtain ⟨hnew, htracks⟩ := step_of_empty hunprimed c
    exact ⟨iff_of_true hnew (fresh_empty 32 c), htracks⟩
  · exact step_of_aligned hprimed hgreatest hmax hbits (haligned m hgreatest hmax)

/-! ## Alignment -/

/-- Counters that do not roll over are the numbers themselves. -/
lemma aligned_of_secureUnicast (hk : w.kind = .secureUnicast) (hmax : w.max = UInt32.ofNat m)
    (hm : m < 2 ^ 32) (hc : c < 2 ^ 32) : w.Aligned m c := by
  have hm' : w.max.toNat = m := by
    rw [hmax, UInt32.toNat_ofNat', Nat.mod_eq_of_lt hm]
  have hc' : (UInt32.ofNat c).toNat = c := by
    rw [UInt32.toNat_ofNat', Nat.mod_eq_of_lt hc]
  refine ⟨?_, ?_, ?_, ?_⟩
  · rw [← UInt32.toNat_inj, hc', hm']
  · rw [ahead_eq_true_iff hk, hc', hm']
  · intro hlt
    rw [UInt32.toNat_sub_of_le _ _ (by rw [UInt32.le_iff_toNat_le]; omega), hc', hm']
  · intro hle
    rw [UInt32.toNat_sub_of_le _ _ (by rw [UInt32.le_iff_toNat_le]; omega), hc', hm']

/-- Where counters roll over, a number within half the circle of the greatest one is aligned with it. -/
lemma aligned_of_rollover (hk : w.kind = .rollover) (hmax : w.max = UInt32.ofNat m)
    (hahead : c ≤ m + (2 ^ 31 - 1)) (hbehind : m ≤ c + (2 ^ 31 - 1)) : w.Aligned m c := by
  have hm' : w.max.toNat = m % 2 ^ 32 := by rw [hmax, UInt32.toNat_ofNat']
  have hc' : (UInt32.ofNat c).toNat = c % 2 ^ 32 := UInt32.toNat_ofNat'
  have hforward : (UInt32.ofNat c - w.max).toNat = (2 ^ 32 - m % 2 ^ 32 + c % 2 ^ 32) % 2 ^ 32 := by
    rw [UInt32.toNat_sub, hm', hc']
  have hback : (w.max - UInt32.ofNat c).toNat = (2 ^ 32 - c % 2 ^ 32 + m % 2 ^ 32) % 2 ^ 32 := by
    rw [UInt32.toNat_sub, hm', hc']
  refine ⟨?_, ?_, ?_, ?_⟩
  · rw [← UInt32.toNat_inj, hc', hm']
    omega
  · rw [ahead_eq_true_iff_of_rollover hk, hforward]
    omega
  · intro hlt
    rw [hforward]
    omega
  · intro hle
    rw [hback]
    omega

/-! ## Runs -/

/-- What a window over all numbers has taken of a sequence. -/
def taken (numbers : List ℕ) : Set ℕ := numbers.foldl (Admitted 32) ∅

/-- A window that stands for what was taken of a sequence judges the next number as it should be. -/
def Exact (kind : CounterKind) (numbers : List ℕ) (c : ℕ) : Prop :=
  (((new kind).acceptAll (numbers.map UInt32.ofNat)).accept (UInt32.ofNat c)).1 = .new ↔
    Fresh 32 (taken numbers) c

lemma taken_concat (numbers : List ℕ) (c : ℕ) : taken (numbers ++ [c]) = Admitted 32 (taken numbers) c := by
  unfold taken
  rw [List.foldl_append]
  rfl

lemma acceptAll_concat (w : CounterWindow) (counters : List UInt32) (c : UInt32) :
    w.acceptAll (counters ++ [c]) = ((w.acceptAll counters).accept c).2 := by
  unfold acceptAll
  rw [List.foldl_append]
  rfl

lemma kind_acceptAll (w : CounterWindow) (counters : List UInt32) :
    (w.acceptAll counters).kind = w.kind := by
  induction counters generalizing w with
  | nil => rfl
  | cons c counters ih => exact (ih (w.accept c).2).trans (accept_kind w c)

variable {kind : CounterKind} {numbers : List ℕ}

/-- A window goes on standing for what has been taken while the numbers are aligned with it. -/
lemma tracks_acceptAll (h : ∀ before c, before ++ [c] <+: numbers → ∀ w : CounterWindow, w.kind = kind →
      ∀ m, IsGreatest (taken before) m → w.max = UInt32.ofNat m → w.Aligned m c) :
    ((new kind).acceptAll (numbers.map UInt32.ofNat)).Tracks (taken numbers) := by
  induction numbers using List.reverseRecOn with
  | nil => exact tracks_new kind
  | append_singleton numbers c ih =>
    have hbefore := ih fun before d hd => h before d (hd.trans (List.prefix_append _ _))
    have hkind : ((new kind).acceptAll (numbers.map UInt32.ofNat)).kind = kind :=
      kind_acceptAll (new kind) _
    have hstep := hbefore.step (h numbers c List.prefix_rfl _ hkind)
    rw [List.map_append, List.map_singleton, acceptAll_concat, taken_concat]
    exact hstep.2

/-- So it judges each of them as it should be. -/
lemma exact_of_aligned (h : ∀ before c, before ++ [c] <+: numbers → ∀ w : CounterWindow, w.kind = kind →
      ∀ m, IsGreatest (taken before) m → w.max = UInt32.ofNat m → w.Aligned m c) {before : List ℕ}
    {c : ℕ} (hc : before ++ [c] <+: numbers) : Exact kind before c := by
  have hbefore : before <+: numbers := (List.prefix_append _ _).trans hc
  have htracks := tracks_acceptAll fun earlier d hd => h earlier d (hd.trans hbefore)
  have hkind : ((new kind).acceptAll (before.map UInt32.ofNat)).kind = kind :=
    kind_acceptAll (new kind) _
  exact (htracks.step (h before c hc _ hkind)).1

/-! ### Counters that do not roll over -/

lemma taken_subset (numbers : List ℕ) {a : ℕ} (ha : a ∈ taken numbers) : a ∈ numbers := by
  induction numbers using List.reverseRecOn with
  | nil => exact ha.elim
  | append_singleton numbers c ih =>
    rw [taken_concat] at ha
    rcases ha with ha | ⟨rfl, -⟩
    · exact List.mem_append_left _ (ih ha)
    · exact List.mem_append_right _ List.mem_cons_self

/-- The counters of a sequence that are judged new, once more has come in. -/
lemma newOnes_concat (w : CounterWindow) (counters : List UInt32) (c : UInt32) :
    w.newOnes (counters ++ [c]) =
      w.newOnes counters ++ if ((w.acceptAll counters).accept c).1 = .new then [c] else [] := by
  induction counters generalizing w with
  | nil => rfl
  | cons d counters ih =>
    have hrest : w.acceptAll (d :: counters) = (w.accept d).2.acceptAll counters := rfl
    rw [List.cons_append, newOnes, newOnes, ih, hrest]
    by_cases hd : (w.accept d).1 = .new
    · rw [if_pos hd, if_pos hd, List.cons_append]
    · rw [if_neg hd, if_neg hd]

lemma map_ofNat_toNat (counters : List UInt32) :
    (counters.map UInt32.toNat).map UInt32.ofNat = counters := by
  rw [List.map_map]
  calc counters.map (UInt32.ofNat ∘ UInt32.toNat) = counters.map id := by
        apply List.map_congr_left
        intro c _
        exact UInt32.ofNat_toNat
    _ = counters := List.map_id counters

lemma exact_secureUnicast (before : List UInt32) (c : UInt32) :
    (((new .secureUnicast).acceptAll before).accept c).1 = .new ↔
      Fresh 32 (taken (before.map UInt32.toNat)) c.toNat := by
  have haligned : ∀ earlier d, earlier ++ [d] <+: (before ++ [c]).map UInt32.toNat →
      ∀ w : CounterWindow, w.kind = .secureUnicast →
        ∀ m, IsGreatest (taken earlier) m → w.max = UInt32.ofNat m → w.Aligned m d := by
    intro earlier d hd w hk m hm hmax
    have hlt : ∀ a ∈ earlier ++ [d], a < 2 ^ 32 := by
      intro a ha
      obtain ⟨x, -, rfl⟩ := List.mem_map.mp (hd.subset ha)
      exact x.toNat_lt
    have hmem : m ∈ earlier ++ [d] := List.mem_append_left _ (taken_subset earlier hm.1)
    exact aligned_of_secureUnicast hk hmax (hlt m hmem)
      (hlt d (List.mem_append_right _ List.mem_cons_self))
  have hexact : Exact .secureUnicast (before.map UInt32.toNat) c.toNat := by
    apply exact_of_aligned haligned
    rw [List.map_append, List.map_singleton]
  unfold Exact at hexact
  rwa [map_ofNat_toNat, UInt32.ofNat_toNat] at hexact

/-- The counters judged new are those that a window over all numbers takes. -/
lemma mem_taken_iff (counters : List UInt32) (a : ℕ) :
    a ∈ taken (counters.map UInt32.toNat) ↔ ∃ d ∈ (new .secureUnicast).newOnes counters, d.toNat = a := by
  induction counters using List.reverseRecOn with
  | nil =>
    constructor
    · exact fun h => h.elim
    · rintro ⟨d, hd, -⟩
      cases hd
  | append_singleton counters c ih =>
    rw [List.map_append, List.map_singleton, taken_concat, newOnes_concat]
    have hnew := exact_secureUnicast counters c
    split_ifs with hjudged
    · rw [mem_admitted_of_fresh (hnew.mp hjudged), ih]
      constructor
      · rintro (⟨d, hd, rfl⟩ | rfl)
        · exact ⟨d, List.mem_append_left _ hd, rfl⟩
        · exact ⟨c, List.mem_append_right _ List.mem_cons_self, rfl⟩
      · rintro ⟨d, hd, rfl⟩
        rcases List.mem_append.mp hd with hd | hd
        · exact .inl ⟨d, hd, rfl⟩
        · exact .inr (congrArg UInt32.toNat (List.mem_singleton.mp hd))
    · rw [admitted_of_not_fresh (mt hnew.mpr hjudged), ih, List.append_nil]

/-- A window of counters that do not roll over is exact. After any sequence it takes a counter if and only
if it is above all that it has judged new, the first one included, or stands at most 32 behind the greatest of
them and is none of them. So no counter is judged new twice. -/
theorem window_exact (counters : List UInt32) :
    (∀ c, (((new .secureUnicast).acceptAll counters).accept c).1 = .new ↔
        Fresh 32 {a | ∃ d ∈ (new .secureUnicast).newOnes counters, d.toNat = a} c.toNat) ∧
      ((new .secureUnicast).newOnes counters).Nodup := by
  have hset : ∀ before : List UInt32, {a | ∃ d ∈ (new .secureUnicast).newOnes before, d.toNat = a} =
      taken (before.map UInt32.toNat) := by
    intro before
    ext a
    exact (mem_taken_iff before a).symm
  refine ⟨fun c => ?_, ?_⟩
  · rw [hset]
    exact exact_secureUnicast counters c
  · induction counters using List.reverseRecOn with
    | nil => exact List.nodup_nil
    | append_singleton before c ih =>
      rw [newOnes_concat]
      split_ifs with hjudged
      · rw [List.nodup_append]
        refine ⟨ih, List.nodup_singleton c, ?_⟩
        intro d hd e he heq
        obtain rfl := List.mem_singleton.mp he
        subst heq
        have hfresh := (exact_secureUnicast before d).mp hjudged
        exact hfresh.not_mem ((mem_taken_iff before d.toNat).mpr ⟨d, hd, rfl⟩)
      · rw [List.append_nil]
        exact ih

/-! ### Counters that roll over -/

/-- A number within half the circle of the greatest one that was taken. -/
def Near (S : Set ℕ) (c : ℕ) : Prop :=
  ∀ m, IsGreatest S m → c ≤ m + (2 ^ 31 - 1) ∧ m ≤ c + (2 ^ 31 - 1)

/-- A window of counters that roll over is exact as long as each number is within half the circle of the
greatest one taken before it: it judges what is left of the numbers modulo `2 ^ 32` as the numbers themselves
would be, however often they go round. -/
theorem rollover_exact {numbers : List ℕ} (h : Throughout (Admitted 32) Near ∅ numbers)
    {before : List ℕ} {c : ℕ} (hc : before ++ [c] <+: numbers) :
    (((new .rollover).acceptAll (before.map UInt32.ofNat)).accept (UInt32.ofNat c)).1 = .new ↔
      Fresh 32 (before.foldl (Admitted 32) ∅) c := by
  have haligned : ∀ earlier d, earlier ++ [d] <+: numbers → ∀ w : CounterWindow, w.kind = .rollover →
      ∀ m, IsGreatest (taken earlier) m → w.max = UInt32.ofNat m → w.Aligned m d := by
    intro earlier d hd w hk m hm hmax
    obtain ⟨hahead, hbehind⟩ := Throughout.iff_forall_step.mp h earlier d hd m hm
    exact aligned_of_rollover hk hmax hahead hbehind
  exact exact_of_aligned haligned hc

lemma near_of_bounds (low : ℕ) (h : ∀ a ∈ numbers, low ≤ a ∧ a ≤ low + (2 ^ 31 - 1)) :
    Throughout (Admitted 32) Near ∅ numbers := by
  rw [Throughout.iff_forall_step]
  intro before c hc m hm
  have hmem : m ∈ before := taken_subset before hm.1
  have hm' := h m (hc.subset (List.mem_append_left _ hmem))
  have hc' := h c (hc.subset (List.mem_append_right _ List.mem_cons_self))
  omega

/-- Around the end of the circle: the numbers on both sides of it, out of order, and one of them again. -/
theorem rollover_exact_at_wrap :
    (((new .rollover).acceptAll ([2 ^ 32 - 1, 2 ^ 32 + 1].map UInt32.ofNat)).accept
        (UInt32.ofNat (2 ^ 32))).1 = .new ↔
      Fresh 32 ([2 ^ 32 - 1, 2 ^ 32 + 1].foldl (Admitted 32) ∅) (2 ^ 32) := by
  have hnear : Throughout (Admitted 32) Near ∅ [2 ^ 32 - 1, 2 ^ 32 + 1, 2 ^ 32] := by
    apply near_of_bounds (2 ^ 32 - 1)
    intro a ha
    simp only [List.mem_cons, List.not_mem_nil, or_false] at ha
    omega
  exact rollover_exact hnear List.prefix_rfl

end MatterKit.CounterWindow
